/-
  File:      Maintenant/App/Quotas.lean
  Subject:   EDITION QUOTAS UNDER CONCURRENCY (heartbeat `CreateHeartbeat`, endpoint and certificate
             `CreateStandalone`). Each creation is a thread; any number of them interleave, statement by
             statement.

  Every creation counts the monitors of its kind, compares the count with the quota, and inserts in a later
  statement; two creations that count before either inserts both pass (`quotas_overrun`).

  * `heartbeats_bounded`, `endpoints_bounded`, `certificates_bounded` -- the three kinds as instances of
    Lib/Quota.lean;
  * `quotas_within` -- the quota holds in every run in which a creation counts only while the creations
    admitted before it still fit.
-/
import Maintenant.Heartbeat.Service
import Maintenant.Endpoint.Standalone
import Maintenant.Certificate.Standalone

namespace Maintenant.Quotas

open Quota Prog

/-- What the license checkers of the three kinds compute, where the maximum is a quota. -/
theorem lt_of_canCreate {n count : Nat} (h : (decide ((n : Int) < 0) || decide ((count : Int) < n)) = true) :
    count < n := by
  simp only [Bool.or_eq_true, decide_eq_true_eq] at h
  omega

/-- A count is answered with what there is, and that leaves room. -/
theorem lt_of_room {ok : Bool} {n size : Nat} {can : Nat → Bool} (hcan : ∀ count, can count = true → count < n)
    (hroom : ∃ count, (if ok then Except.ok size else Except.error ()) = Except.ok count ∧ can count = true) :
    size < n := by
  obtain ⟨count, hanswer, hcount⟩ := hroom
  cases ok with
  | false => cases hanswer
  | true =>
    cases hanswer
    exact hcan _ hcount

/-! ## 1. Heartbeats -/

section Heartbeats

open Maintenant.Heartbeats

/-- What is created, and the ping token it is created under. -/
def heartbeatMachine (lic : License) : Machine Request Answer World Choice (CreateHeartbeatInput × String) where
  handle := handle
  body t := createHeartbeat lic t.1 t.2 >>= fun _ => .done ()
  forks _ := none
  admits _ _ := true

def heartbeatCalls (lic : License) : Calls Request Answer where
  counts i := i = .countActiveHeartbeats
  adds i := ∃ token input, i = .createHeartbeat token input
  room
    | .countActiveHeartbeats, b => ∃ count, b = .ok count ∧ lic.canCreateHeartbeat count = true
    | _, _ => False

/-- The active heartbeats. -/
def heartbeatSize (w : World) : Nat := w.heartbeats.count Heartbeat.active

theorem heartbeatSize_create (w : World) (id : String) (input : CreateHeartbeatInput) :
    heartbeatSize (w.createHeartbeat id input) ≤ heartbeatSize w + 1 := by
  unfold World.createHeartbeat heartbeatSize
  cases hi : w.heartbeats.insert (freshRow id input) with
  | none => exact Table.count_update_key_le (Heartbeat.renewed_id input) _
  | some =>
    rw [Table.count_insert hi]
    split <;> omega

/-- No `UPDATE` makes a heartbeat active. -/
theorem heartbeatSize_update (w : World) (stmt : Statement) : heartbeatSize (w.update stmt) ≤ heartbeatSize w := by
  refine Table.count_update_le _ _ _ stmt.set_id fun r _ h => ?_
  cases stmt with
  | deleteHeartbeat => cases h
  | updateHeartbeatState | pauseHeartbeat | resumeHeartbeat => exact h

theorem heartbeatSize_other (x : Choice) (w : World) {i : Request}
    (hi : ∀ token input, i ≠ .createHeartbeat token input) :
    heartbeatSize (handle x w i).2 ≤ heartbeatSize w := by
  unfold handle
  split
  · cases i with
    | createHeartbeat token input => exact absurd rfl (hi token input)
    | update stmt => exact heartbeatSize_update w stmt
    | listOverdueHeartbeats =>
      unfold World.after
      dsimp only
      split <;> exact Nat.le_refl _
    | insertExecution e =>
      show heartbeatSize (w.insertExecution x.newID e) ≤ _
      unfold World.insertExecution
      split <;> exact Nat.le_refl _
    | now | countActiveHeartbeats | getHeartbeatByID | getHeartbeatByUUID | insertPing | getCurrentExecution
    | updateExecution | tell => exact Nat.le_refl _
  · exact Nat.le_refl _

theorem heartbeat_apart (lic : License) (i : Request) (hcount : (heartbeatCalls lic).counts i) :
    ¬ (heartbeatCalls lic).adds i := by
  intro hadd
  obtain ⟨_, _, rfl⟩ := hadd
  cases hcount

theorem createHeartbeat_countsFirst (lic : License) (input : CreateHeartbeatInput) (token : String) :
    CountsFirst (heartbeatCalls lic) (createHeartbeat lic input token >>= fun _ => .done ()) := by
  unfold createHeartbeat
  cases validateCreateInput input with
  | some => exact countsFirst_of_no_add trivial
  | none =>
    rw [Prog.bind_assoc]
    refine countsFirst_ask rfl (heartbeat_apart lic) fun b => ?_
    cases b with
    | error => exact Or.inl trivial
    | ok count =>
      dsimp only
      split
      · exact Or.inl trivial
      · rename_i hcan
        refine Or.inr ⟨⟨count, rfl, by simpa using hcan⟩, once_bind ?_ fun _ => trivial⟩
        refine once_ask ⟨token, input, rfl⟩ fun b => ?_
        cases b <;> simp [forall_except, Option.forall, Heartbeats.tell, Calm, heartbeatCalls]

theorem heartbeats_bounded (n : Nat) :
    Bounded (heartbeatCalls (License.ofMax n)) (heartbeatMachine (License.ofMax n)) heartbeatSize n where
  apart := heartbeat_apart _
  counted x w i hcount hroom := by
    subst hcount
    exact lt_of_room (fun _ => lt_of_canCreate) hroom
  added x w i hadd := by
    obtain ⟨token, input, rfl⟩ := hadd
    show heartbeatSize (handle x w (.createHeartbeat token input)).2 ≤ _
    unfold handle
    split
    · exact heartbeatSize_create w _ input
    · exact Nat.le_succ _
  other x w i hadd := heartbeatSize_other x w fun token input h => hadd ⟨token, input, h⟩
  body t := createHeartbeat_countsFirst _ t.1 t.2
  forks _ := rfl

end Heartbeats

/-! ## 2. Standalone endpoints -/

section Endpoints

open Maintenant.Endpoints.Standalone

def endpointMachine (endpointLabel : String → String → String → String) (started : Bool) (maxEndpoints : Int) :
    Machine Request Answer World Choice Input where
  handle := handle endpointLabel
  body input := createStandalone (canCreateEndpoint maxEndpoints) started input >>= fun _ => .done ()
  forks _ := none
  admits _ _ := true

def endpointCalls (maxEndpoints : Int) : Calls Request Answer where
  counts i := i = .countStandaloneEndpoints
  adds i := ∃ input, i = .insertStandaloneEndpoint input
  room
    | .countStandaloneEndpoints, b => ∃ count, b = .ok count ∧ canCreateEndpoint maxEndpoints count = true
    | _, _ => False

theorem endpoint_apart (m : Int) (i : Request) (hcount : (endpointCalls m).counts i) : ¬ (endpointCalls m).adds i := by
  intro hadd
  obtain ⟨_, rfl⟩ := hadd
  cases hcount

theorem createEndpoint_countsFirst (m : Int) (started : Bool) (input : Input) : CountsFirst (endpointCalls m)
    (createStandalone (canCreateEndpoint m) started input >>= fun _ => .done ()) := by
  unfold createStandalone
  rw [Prog.bind_assoc]
  refine countsFirst_ask rfl (endpoint_apart m) fun b => ?_
  cases b with
  | error => exact Or.inl trivial
  | ok count =>
    dsimp only
    split
    · exact Or.inl trivial
    · rename_i hcan
      refine Or.inr ⟨⟨count, rfl, by simpa using hcan⟩, once_bind ?_ fun _ => trivial⟩
      refine once_ask ⟨input, rfl⟩ fun b => ?_
      cases b <;> cases started <;> simp [forall_except, Option.forall, Calm, endpointCalls]

theorem endpoints_bounded (endpointLabel : String → String → String → String) (started : Bool) (n : Nat) :
    Bounded (endpointCalls n) (endpointMachine endpointLabel started n) size n where
  apart := endpoint_apart _
  counted x w i hcount hroom := by
    subst hcount
    exact lt_of_room (fun _ => lt_of_canCreate) hroom
  added x w i hadd := by
    obtain ⟨input, rfl⟩ := hadd
    exact size_insert endpointLabel x w input
  other x w i hadd := size_other endpointLabel x w fun input h => hadd ⟨input, h⟩
  body input := createEndpoint_countsFirst n started input
  forks _ := rfl

end Endpoints

/-! ## 3. Standalone certificates -/

section Certificates

open Maintenant.Certificates.Standalone
open Maintenant.Certificates (Texts)

def certificateMachine (texts : Texts) (certMonitorID : String → Int → String → String) (maxCertificates : Int) :
    Machine Request Answer World Choice CreateCertificateInput where
  handle := handle texts certMonitorID
  body input := createStandalone (canCreateCertificate maxCertificates) input >>= fun _ => .done ()
  forks _ := none
  admits _ _ := true

def certificateCalls (maxCertificates : Int) : Calls Request Answer where
  counts i := i = .countStandaloneMonitors
  adds i := ∃ m, i = .createMonitor m
  room
    | .countStandaloneMonitors, b => ∃ count, b = .ok count ∧ canCreateCertificate maxCertificates count = true
    | _, _ => False

theorem certificate_apart (m : Int) (i : Request) (hcount : (certificateCalls m).counts i) :
    ¬ (certificateCalls m).adds i := by
  intro hadd
  obtain ⟨_, rfl⟩ := hadd
  cases hcount

theorem storeAndCheck_once (m : Int) (monitor : Maintenant.Certificates.CertMonitor) :
    (storeAndCheck monitor).Once (Calm (certificateCalls m)) (certificateCalls m).adds := by
  refine once_ask ⟨monitor, rfl⟩ fun b => ?_
  cases b <;> simp [Calm, certificateCalls]

theorem createCertificate_countsFirst (m : Int) (input : CreateCertificateInput) : CountsFirst (certificateCalls m)
    (createStandalone (canCreateCertificate m) input >>= fun _ => .done ()) := by
  unfold createStandalone
  cases validated input with
  | error => exact countsFirst_of_no_add trivial
  | ok =>
    rw [Prog.bind_assoc]
    refine countsFirst_ask rfl (certificate_apart m) fun b => ?_
    cases b with
    | error => exact Or.inl trivial
    | ok count =>
      by_cases hcan : canCreateCertificate m count = true
      · refine Or.inr ⟨⟨count, rfl, hcan⟩, once_bind ?_ fun _ => trivial⟩
        refine once_calm ⟨by simp [Calm, certificateCalls], fun _ => trivial⟩ fun r => ?_
        rcases r with e | _ | existing
        · exact trivial
        · dsimp only
          split
          · exact trivial
          · exact storeAndCheck_once m _
        · dsimp only
          split <;> exact trivial
      · refine Or.inl (always_bind ?_ fun _ => trivial)
        simp [forall_except, Option.forall, Calm, certificateCalls, hcan]

theorem certificates_bounded (texts : Texts) (certMonitorID : String → Int → String → String) (n : Nat) :
    Bounded (certificateCalls n) (certificateMachine texts certMonitorID n) size n where
  apart := certificate_apart _
  counted x w i hcount hroom := by
    subst hcount
    exact lt_of_room (fun _ => lt_of_canCreate) hroom
  added x w i hadd := by
    obtain ⟨monitor, rfl⟩ := hadd
    exact size_create texts certMonitorID x w monitor
  other x w i hadd := size_other texts certMonitorID x w fun monitor h => hadd ⟨monitor, h⟩
  body input := createCertificate_countsFirst n input
  forks _ := rfl

end Certificates

/-! ## 4. The three quotas -/

/-- **A quota of `n` holds for active heartbeats, standalone endpoints and standalone certificates in every run in which
    a creation counts only while the creations admitted before it still fit.** -/
theorem quotas_within (n : Nat) :
    (∀ (w : Heartbeats.World) p, heartbeatSize w ≤ n →
      Runs.Reach (Pool.step (heartbeatMachine (Heartbeats.License.ofMax n)))
        (Fits (heartbeatCalls (Heartbeats.License.ofMax n)) heartbeatSize n) ⟨w, []⟩ p →
        heartbeatSize p.world ≤ n) ∧
    (∀ endpointLabel started (w : Endpoints.Standalone.World) p, Endpoints.Standalone.size w ≤ n →
      Runs.Reach (Pool.step (endpointMachine endpointLabel started n))
        (Fits (endpointCalls n) Endpoints.Standalone.size n) ⟨w, []⟩ p →
        Endpoints.Standalone.size p.world ≤ n) ∧
    (∀ texts certMonitorID (w : Certificates.Standalone.World) p, Certificates.Standalone.size w ≤ n →
      Runs.Reach (Pool.step (certificateMachine texts certMonitorID n))
        (Fits (certificateCalls n) Certificates.Standalone.size n) ⟨w, []⟩ p →
        Certificates.Standalone.size p.world ≤ n) :=
  ⟨fun _ _ hw hr => within_of_fits (heartbeats_bounded n) hw hr,
    fun endpointLabel started _ _ hw hr => within_of_fits (endpoints_bounded endpointLabel started n) hw hr,
    fun texts certMonitorID _ _ hw hr => within_of_fits (certificates_bounded texts certMonitorID n) hw hr⟩

/-- Two creations that take turns statement by statement. -/
def sideBySide {χ κ : Type} (first second : κ) (x y : χ) : List (Pool.Move χ κ) :=
  [.start first, .start second] ++ [.run 0 x, .run 1 y, .run 0 x, .run 1 y, .run 0 x, .run 1 y]

/-- One creation after the other. -/
def inTurn {χ κ : Type} (first second : κ) (x y : χ) : List (Pool.Move χ κ) :=
  [.start first] ++ List.replicate 6 (.run 0 x) ++ [.start second] ++ List.replicate 6 (.run 1 y)

section Samples

open Heartbeats (CreateHeartbeatInput)
open Certificates.Standalone (CreateCertificateInput)

def noHeartbeats : Heartbeats.World := ⟨.empty, [], .empty, [], []⟩

def noEndpoints : Endpoints.Standalone.World := ⟨.empty, [], []⟩

def noMonitors : Certificates.Standalone.World := ⟨⟨.empty, [], [], []⟩, []⟩

/-- Every statement succeeds; the scanned host refuses the connection. -/
def heartbeatChoice : Heartbeats.Choice := ⟨0, "", true, true, fun l => ⟨l, .refl l⟩⟩

def endpointChoice (externalID : String) : Endpoints.Standalone.Choice := ⟨externalID, true, true⟩

def certificateChoice : Certificates.Standalone.Choice where
  executed := true
  reported := true
  taken := false
  raw := ⟨⟨"", "", "", [], "", "", 0⟩, 0, false, "", false, [], "connection refused", .none⟩
  env := ⟨0, 0, 0, 0, 0, 0, 0, false, "result", true, true, true, true⟩

def certificateTexts : Certificates.Texts := ⟨fun _ _ => 0, fun _ _ => false⟩

/-- Stand-ins for the derived ids, different for different external ids and hosts. -/
def idOfExternal (_ _ externalID : String) : String := externalID

def idOfHost (hostname : String) (_ : Int) (_ : String) : String := hostname

/-- Runs of the three machines under a quota of one, from nothing. -/
def heartbeatRun (moves : List (Pool.Move Heartbeats.Choice (CreateHeartbeatInput × String))) :
    Pool Heartbeats.Request Heartbeats.Answer Heartbeats.World (CreateHeartbeatInput × String) :=
  Runs.runList (Pool.step (heartbeatMachine (.ofMax (1 : Nat)))) ⟨noHeartbeats, []⟩ moves

def endpointRun (moves : List (Pool.Move Endpoints.Standalone.Choice Endpoints.Standalone.Input)) :
    Pool Endpoints.Standalone.Request Endpoints.Standalone.Answer Endpoints.Standalone.World
    Endpoints.Standalone.Input :=
  Runs.runList (Pool.step (endpointMachine idOfExternal true (1 : Nat))) ⟨noEndpoints, []⟩ moves

def certificateRun (moves : List (Pool.Move Certificates.Standalone.Choice CreateCertificateInput)) :
    Pool Certificates.Standalone.Request Certificates.Standalone.Answer Certificates.Standalone.World
      CreateCertificateInput :=
  Runs.runList (Pool.step (certificateMachine certificateTexts idOfHost (1 : Nat))) ⟨noMonitors, []⟩
    moves

def backup : CreateHeartbeatInput × String := (⟨"backup", 3600, 60⟩, "a")

def sync : CreateHeartbeatInput × String := (⟨"sync", 3600, 60⟩, "b")

def site (name : String) : Endpoints.Standalone.Input := ⟨name, "https://" ++ name, .http, ⟨1, 1⟩⟩

def host (name : String) : CreateCertificateInput := ⟨name, 443, "", 43200, []⟩

/-- **Two creations side by side overrun a quota of one**, for each of the three kinds. -/
theorem quotas_overrun :
    (∃ p, Runs.Reach (Pool.step (heartbeatMachine (.ofMax (1 : Nat)))) Runs.anyStep ⟨noHeartbeats, []⟩ p ∧
      heartbeatSize p.world = 2) ∧
    (∃ p, Runs.Reach (Pool.step (endpointMachine idOfExternal true (1 : Nat))) Runs.anyStep
      ⟨noEndpoints, []⟩ p ∧ Endpoints.Standalone.size p.world = 2) ∧
    (∃ p, Runs.Reach (Pool.step (certificateMachine certificateTexts idOfHost (1 : Nat))) Runs.anyStep
      ⟨noMonitors, []⟩ p ∧ Certificates.Standalone.size p.world = 2) :=
  ⟨⟨heartbeatRun (sideBySide backup sync heartbeatChoice heartbeatChoice), Runs.reach_of_runList _ _, by decide⟩,
    ⟨endpointRun (sideBySide (site "a") (site "b") (endpointChoice "a") (endpointChoice "b")),
      Runs.reach_of_runList _ _, by decide⟩,
    ⟨certificateRun (sideBySide (host "a") (host "b") certificateChoice certificateChoice), Runs.reach_of_runList _ _,
      by decide⟩⟩

/-- One after the other, the second creation is refused. -/
theorem quotas_in_turn :
    heartbeatSize (heartbeatRun (inTurn backup sync heartbeatChoice heartbeatChoice)).world = 1 ∧
    heartbeatSize (heartbeatRun (inTurn backup sync heartbeatChoice heartbeatChoice)).world ≤ 1 ∧
    Endpoints.Standalone.size
      (endpointRun (inTurn (site "a") (site "b") (endpointChoice "a") (endpointChoice "b"))).world ≤ 1 ∧
    Certificates.Standalone.size
      (certificateRun (inTurn (host "a") (host "b") certificateChoice certificateChoice)).world ≤ 1 := by
  obtain ⟨hheartbeats, hendpoints, hcertificates⟩ := quotas_within 1
  refine ⟨by decide, hheartbeats noHeartbeats _ (by decide) ?_,
    hendpoints idOfExternal true noEndpoints _ (by decide) ?_,
    hcertificates certificateTexts idOfHost noMonitors _ (by decide) ?_⟩
  · exact Runs.reach_of_runOk (fun _ _ h => fits_of_sole (heartbeats_bounded 1) h) _ _ (by decide)
  · exact Runs.reach_of_runOk (fun _ _ h => fits_of_sole (endpoints_bounded idOfExternal true 1) h) _ _ (by decide)
  · exact Runs.reach_of_runOk (fun _ _ h => fits_of_sole (certificates_bounded certificateTexts idOfHost 1) h) _ _
      (by decide)

end Samples

end Maintenant.Quotas
