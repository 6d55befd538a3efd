/-
  File:      Maintenant/AgentServer/Auth.lean
  Subject:   THE SIGNATURE OF THE HANDSHAKE (internal/agentserver/auth.go: `Verify`; internal/agentauth).

  The timestamp is the client's, any int64, and the skew is a wrapping difference that is negated when it is
  negative; the smallest int64 is its own negation.

  * `skew_le_iff` -- the timestamps the check lets through;
  * `skew_window_iff` -- the window is 300 seconds exactly when the difference is not one of the wrapping ones.
-/
import Maintenant.AgentServer.Enrollment
import Mathlib.Algebra.Ring.Int.Defs
import Mathlib.Algebra.Ring.Nat

namespace Maintenant.AgentAuth

open Enrollment (localAgent)

inductive AuthError where
  | badSignature
  | clockSkew
  | agentRevoked
  | agentUnknown
deriving DecidableEq, Repr

structure AuthResponse where
  agentID : String
  timestamp : Int64
  signature : List UInt8

structure Agent where
  agentID : String
  status : String
  publicKey : List UInt8

def maxClockSkewSeconds : Int64 := 300

def publicKeySize : Nat := 32

/-! ## 1. The payload -/

def hexDigit (c : Char) : Option UInt8 :=
  if '0' ≤ c ∧ c ≤ '9' then some (c.toNat - '0'.toNat).toUInt8
  else if 'a' ≤ c ∧ c ≤ 'f' then some (c.toNat - 'a'.toNat + 10).toUInt8
  else if 'A' ≤ c ∧ c ≤ 'F' then some (c.toNat - 'A'.toNat + 10).toUInt8
  else none

/-- `hex.DecodeString`. -/
def decodeHex : List Char → Option (List UInt8)
  | [] => some []
  | [_] => none
  | c :: d :: rest => do return ((← hexDigit c) * 16 + (← hexDigit d)) :: (← decodeHex rest)

def uuidToBytes (s : String) : Option (List UInt8) :=
  let clean := s.toList.filter (· != '-')
  if clean.length ≠ 32 then none else decodeHex clean

/-- `nonce(32) || uuid_bytes(16) || timestamp_be64(8)`; a short nonce leaves zeros. -/
def buildSignPayload (nonce : List UInt8) (agentID : String) (ts : Int64) : Option (List UInt8) :=
  (uuidToBytes agentID).map fun uuidBytes =>
    (nonce ++ List.replicate 32 0).take 32 ++ uuidBytes ++
      (List.range 8).map fun i => (ts.toUInt64 >>> (56 - 8 * i).toUInt64).toUInt8

/-! ## 2. The check -/

/-- The difference and its absolute value, as int64. -/
def skew (now clientUnix : Int64) : Int64 :=
  let diff := now - clientUnix
  if diff < 0 then -diff else diff

/-- `Verify`, at `serverNow.Unix()`. -/
def verify (ed25519 : List UInt8 → List UInt8 → List UInt8 → Bool) (req : AuthResponse) (nonce : List UInt8)
    (ag : Option Agent) (now : Int64) : Except AuthError Unit :=
  match ag with
  | none => .error .agentUnknown
  | some ag =>
    if ag.agentID = localAgent then .error .agentUnknown
    else if ag.status = "revoked" then .error .agentRevoked
    else if maxClockSkewSeconds < skew now req.timestamp then .error .clockSkew
    else match buildSignPayload nonce req.agentID req.timestamp with
      | none => .error .badSignature
      | some payload =>
        if ag.publicKey.length ≠ publicKeySize then .error .badSignature
        else if ed25519 ag.publicKey payload req.signature then .ok ()
        else .error .badSignature

variable {now ts : Int64}

/-- What `Verify` accepts. -/
theorem verify_ok_iff {ed25519 : List UInt8 → List UInt8 → List UInt8 → Bool} {req : AuthResponse}
    {nonce : List UInt8} {ag : Option Agent} : verify ed25519 req nonce ag now = .ok () ↔
      ∃ a ∈ ag, a.agentID ≠ localAgent ∧ a.status ≠ "revoked" ∧
      ¬ maxClockSkewSeconds < skew now req.timestamp ∧
        ∃ payload ∈ buildSignPayload nonce req.agentID req.timestamp, a.publicKey.length = publicKeySize ∧
          ed25519 a.publicKey payload req.signature = true := by
  cases ag with
  | none => simp [verify]
  | some =>
    cases hpayload : buildSignPayload nonce req.agentID req.timestamp <;>
      simp only [verify, hpayload] <;> split_ifs <;> simp_all

/-- **What the check lets through**: a distance of 300 seconds at most, and two ranges that wrap. -/
theorem skew_le_iff (hnow : 0 ≤ now.toInt) :
    ¬ maxClockSkewSeconds < skew now ts ↔ (now.toInt - ts.toInt).natAbs ≤ 300 ∨ now.toInt - ts.toInt = 2 ^ 63 ∨
      2 ^ 64 - 300 ≤ now.toInt - ts.toInt := by
  have hlow := ts.le_toInt
  have hhigh := ts.toInt_lt
  have hnowHigh := now.toInt_lt
  have hzero : (0 : Int64).toInt = 0 := rfl
  have hmax : maxClockSkewSeconds.toInt = 300 := rfl
  have hdiff : (now - ts).toInt = (now.toInt - ts.toInt).bmod (2 ^ 64) := Int64.toInt_sub now ts
  rw [Int.bmod_def] at hdiff
  simp only [skew, Int64.lt_iff_toInt_lt, hmax, hzero]
  split
  · rw [Int64.toInt_neg, Int.bmod_def]
    omega
  · omega

/-- An agent, and a response with the timestamp. -/
def sampleAgent : Agent := ⟨"a", "active", List.replicate 32 0⟩

def sampleID : String := "01234567-89ab-cdef-0123-456789ABCDEF"

def sampleResponse (ts : Int64) : AuthResponse := ⟨sampleID, ts, []⟩

/-- **The window of the handshake**: whatever the agents, keys and signatures are, a response is only accepted
    within 300 seconds, exactly when the difference is no wrapping one. -/
theorem skew_window_iff {now ts : Int64} (hnow : 0 ≤ now.toInt) :
    (∀ ed25519 req nonce ag, req.timestamp = ts → verify ed25519 req nonce ag now = .ok () →
        (now.toInt - ts.toInt).natAbs ≤ 300) ↔
      now.toInt - ts.toInt ≠ 2 ^ 63 ∧ now.toInt - ts.toInt < 2 ^ 64 - 300 := by
  constructor
  · intro h
    by_contra hwraps
    have hpasses : ¬ maxClockSkewSeconds < skew now ts := (skew_le_iff hnow).mpr (by omega)
    have huuid : (uuidToBytes sampleID).isSome = true := by decide
    obtain ⟨uuid, huuid⟩ := Option.isSome_iff_exists.mp huuid
    have hfar := h (fun _ _ _ => true) (sampleResponse ts) [] (some sampleAgent) rfl <| verify_ok_iff.mpr
      ⟨_, rfl, by decide, by decide, hpasses, _, Option.map_eq_some_iff.mpr ⟨uuid, huuid, rfl⟩, rfl, rfl⟩
    omega
  · rintro ⟨hmid, hend⟩ ed25519 req nonce ag rfl hok
    obtain ⟨_, _, _, _, hpasses, _⟩ := verify_ok_iff.mp hok
    have := (skew_le_iff hnow).mp hpasses
    omega

/-- A timestamp of the same second. -/
theorem same_second : ((1767225600 : Int64).toInt - (1767225600 : Int64).toInt).natAbs ≤ 300 :=
  (skew_window_iff (by decide)).mpr (by decide) (fun _ _ _ => true) (sampleResponse 1767225600) []
    (some sampleAgent) rfl (by decide)

/-- The smallest timestamp is accepted at the epoch. -/
theorem smallest_timestamp :
    verify (fun _ _ _ => true) (sampleResponse Int64.minValue) [] (some sampleAgent) 0 = .ok () ∧
      ((0 : Int64).toInt - Int64.minValue.toInt).natAbs = 2 ^ 63 := by
  decide

end Maintenant.AgentAuth
