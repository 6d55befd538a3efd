/-
  File:      Maintenant/RateLimit/ClientIP.lean
  Subject:   THE ADDRESS A REQUEST IS COUNTED UNDER (internal/ratelimit/clientip.go). The address type, its
             parser and the prefixes of net/netip are parameters.

  `Header.Get` reads the first line of a header. `resolve_independent_iff`: what stands before the address
  the proxies vouch for does not matter exactly when no header line stands before its own.
-/
import Maintenant.Lib.GoText

namespace Maintenant.RateLimit

open GoText

/-! ## 1. The resolver -/

/-- What `Resolve` takes from net/netip and net. -/
structure Netip where
  Addr : Type
  Prefix : Type
  parseAddr : String → Option Addr
  unmap : Addr → Addr
  contains : Prefix → Addr → Bool
  /-- The host, unless the text has no port. -/
  splitHostPort : String → Option String

/-- The lines of the two headers, in order. -/
structure Request where
  remoteAddr : String
  forwardedFor : List String
  realIP : List String

/-- `Header.Get`. -/
def headerGet (lines : List String) : String := lines.headD ""

/-- `strings.Split(s, ",")`. -/
def hopsOf (s : String) : List String := (s.toList.splitOn ',').map String.ofList

variable {ip : Netip}

def trimSuffix (s suffix : String) : String :=
  if hasSuffix s suffix then String.ofList (s.toList.take (s.toList.length - suffix.toList.length)) else s

/-- An invalid address is `none`. -/
def peerAddr (ip : Netip) (remoteAddr : String) : Option ip.Addr :=
  let host := (ip.splitHostPort remoteAddr).getD remoteAddr
  (ip.parseAddr (trimSuffix (trimPrefix host "[") "]")).map ip.unmap

structure ClientIPResolver (ip : Netip) where
  trusted : List ip.Prefix

namespace ClientIPResolver

def trusts (r : ClientIPResolver ip) (addr : ip.Addr) : Bool := r.trusted.any fun p => ip.contains p addr

def trustsPeer (r : ClientIPResolver ip) (req : Request) : Bool :=
  !r.trusted.isEmpty && (peerAddr ip req.remoteAddr).any r.trusts

/-- One round of the loop: the address to return, if the hop is one and is not trusted. -/
def untrustedHop (r : ClientIPResolver ip) (hop : String) : Option ip.Addr :=
  match ip.parseAddr (trimSpace hop) with
  | none => none
  | some addr => if r.trusts (ip.unmap addr) then none else some (ip.unmap addr)

def resolve (r : ClientIPResolver ip) (req : Request) : Option ip.Addr :=
  let peer := peerAddr ip req.remoteAddr
  let fwd := headerGet req.forwardedFor
  let real := headerGet req.realIP
  if r.trustsPeer req = false then peer
  else if fwd ≠ "" then ((hopsOf fwd).reverse.findSome? r.untrustedHop).or peer
  else if real ≠ "" then ((ip.parseAddr (trimSpace real)).map ip.unmap).or peer
  else peer

/-! ## 2. Who chooses it -/

variable {r : ClientIPResolver ip}

/-- The line ends with the untrusted address `addr`, followed by trusted ones only. -/
structure EndsWith (r : ClientIPResolver ip) (addr : ip.Addr) (line : String) : Prop where
  untrusted : r.trusts addr = false
  hops : ∃ pre hop post, hopsOf line = pre ++ hop :: post ∧
    (ip.parseAddr (trimSpace hop)).map ip.unmap = some addr ∧
    ∀ h ∈ post, ((ip.parseAddr (trimSpace h)).map ip.unmap).any r.trusts = true

/-- The walk from the right stops there. -/
theorem EndsWith.walk {addr : ip.Addr} {line : String} (h : r.EndsWith addr line) :
    (hopsOf line).reverse.findSome? r.untrustedHop = some addr := by
  obtain ⟨pre, hop, post, hline, haddr, hpost⟩ := h.hops
  obtain ⟨raw, hraw, rfl⟩ := Option.map_eq_some_iff.mp haddr
  have hskip : post.reverse.findSome? r.untrustedHop = none := by
    refine List.findSome?_eq_none_iff.mpr fun t ht => ?_
    obtain ⟨a, ha, htrusted⟩ := (Option.any_eq_true _ _).mp (hpost t (List.mem_reverse.mp ht))
    obtain ⟨raw', hraw', rfl⟩ := Option.map_eq_some_iff.mp ha
    simp [untrustedHop, hraw', htrusted]
  simp [hline, List.findSome?_append, hskip, untrustedHop, hraw, h.untrusted]

theorem untrustedHop_empty (hempty : ip.parseAddr "" = none) : r.untrustedHop "" = none := by
  simp [untrustedHop, show trimSpace "" = "" from by decide, hempty]

/-- **Whether the client can choose the address**: with `n` header lines before the one that ends with the
    proxies' address, `Resolve` returns that address whatever stands in them, in X-Real-IP, or in the line
    before it, exactly when `n` is zero. -/
theorem resolve_independent_iff (hempty : ip.parseAddr "" = none) {remoteAddr line : String} {addr : ip.Addr}
    (hpeer : (peerAddr ip remoteAddr).any r.trusts = true) (hline : r.EndsWith addr line) (later : List String)
    (n : Nat) :
    (∀ before realIP, before.length = n →
      r.resolve ⟨remoteAddr, before ++ line :: later, realIP⟩ = some addr) ↔ n = 0 := by
  have htrusts (lines realIP : List String) : r.trustsPeer ⟨remoteAddr, lines, realIP⟩ = true := by
    obtain ⟨peer, -, htrusted⟩ := (Option.any_eq_true _ _).mp hpeer
    obtain ⟨p, hp, -⟩ := List.any_eq_true.mp htrusted
    simpa [trustsPeer, List.ne_nil_of_mem hp] using hpeer
  constructor
  · intro h
    cases n with
    | zero => rfl
    | succ m =>
      -- a first line without an address leaves the peer, which is trusted
      have hfirst := h ("," :: List.replicate m "") [] (by simp)
      have hhops : hopsOf "," = ["", ""] := by decide
      simp only [resolve, htrusts, List.cons_append, headerGet, List.headD_cons, hhops] at hfirst
      simp only [List.reverse_cons, List.reverse_nil, List.nil_append, List.cons_append, List.findSome?_cons,
        untrustedHop_empty hempty, List.findSome?_nil, Option.none_or] at hfirst
      rw [if_neg (by decide), if_pos (by decide)] at hfirst
      rw [hfirst] at hpeer
      simp [hline.untrusted] at hpeer
  · rintro rfl before realIP hlength
    obtain rfl := List.eq_nil_of_length_eq_zero hlength
    have hne : line ≠ "" := by
      rintro rfl
      have hwalk := hline.walk
      simp [show hopsOf "" = [""] from by decide, untrustedHop_empty hempty] at hwalk
    simp [resolve, htrusts, headerGet, hne, hline.walk]

end ClientIPResolver

/-! ## 3. Two requests -/

/-- Texts as addresses, each its own prefix; the peer's has no port. -/
abbrev textual : Netip where
  Addr := String
  Prefix := String
  parseAddr s := if s = "" then none else some s
  unmap := id
  contains p a := p == a
  splitHostPort _ := none

/-- One trusted proxy. -/
def behindProxy : ClientIPResolver textual := ⟨["10.0.0.1"]⟩

theorem one_line_resolves : behindProxy.resolve ⟨"10.0.0.1", ["6.6.6.6, 1.2.3.4"], ["7.7.7.7"]⟩ = some "1.2.3.4" :=
  (ClientIPResolver.resolve_independent_iff rfl (by decide)
    ⟨by decide, ["6.6.6.6"], " 1.2.3.4", [], by decide, by decide, by decide⟩ [] 0).mpr rfl [] ["7.7.7.7"] rfl

/-- **The client's own line comes first**: the proxy added a line of its own, and the request is counted under
    the address the client wrote. -/
theorem own_line_first :
    behindProxy.resolve ⟨"10.0.0.1", ["6.6.6.6", "1.2.3.4"], []⟩ = some "6.6.6.6" ∧
      behindProxy.resolve ⟨"10.0.0.1", ["1.2.3.4"], []⟩ = some "1.2.3.4" := by decide

end Maintenant.RateLimit
