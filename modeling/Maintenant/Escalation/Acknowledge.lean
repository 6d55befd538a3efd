/-
  File:      Maintenant/Escalation/Acknowledge.lean
  Subject:   AN ACKNOWLEDGMENT STOPS THE ESCALATION, as far as it does.

  Engine and runner share the alerts table. The site's operations are run one at a time: events
  of the engine with the runner's hooks, the three ways to acknowledge an alert
  (api/v1/alerts.go, mcp/tools_write.go, api/v1/posture.go), passes of `EvaluateCycle`.

  * `Quiet`: no live run belongs to an acknowledged alert. A pass keeps it and then delivers no
    level for such an alert, by the automaton of a run (Visit.lean);
  * `acknowledged_stays_unescalated`: so no level is delivered for an acknowledged alert as long
    as every step is `Prudent`;
  * `acknowledged_alert_escalates`: the acknowledgment of a security alert by its findings calls
    no hook, and a severity escalation starts runs for an acknowledged alert: either way a level
    is delivered after the acknowledgment.
-/
import Maintenant.Alert.Engine
import Maintenant.Escalation.Visit

namespace Maintenant.Escalation

open GoTime Runs Prog
open Alerting (Alert AlertTable ActiveAlertKey ActiveAlerts Effect Event Call)

/-! ## 1. The ways to acknowledge an alert -/

section Handlers

-- `Time.Format(time.RFC3339)`
variable (rfc3339 : Time → String)

/-- What the HTTP handler and the MCP tool do with a valid request. -/
def acknowledgeWithHook (id ackBy : String) : Code := do
  match ← ask (.getAlert id) with
  | .ok (some a) =>
    if a.status = .active ∧ a.acknowledgedAt = none then
      let now ← ask .clock
      let ok ← ask (.acknowledgeAlert id ackBy now)
      if ok then onAlertAcknowledged id ⟨ackBy, rfc3339 now⟩ else pure ()
    else pure ()
  | _ => pure ()

/-- `HandleAcknowledgeAlert`. -/
def handleAcknowledgeAlert (id acknowledgedBy : String) : Code :=
  if id = "" ∨ acknowledgedBy = "" then .done ()
  else acknowledgeWithHook rfc3339 id acknowledgedBy

/-- `acknowledgeAlertHandler`, the MCP tool. -/
def acknowledgeAlertHandler (alertID acknowledgedBy : String) : Code :=
  if alertID = "" then .done ()
  else acknowledgeWithHook rfc3339 alertID (if acknowledgedBy = "" then "mcp" else acknowledgedBy)

end Handlers

/-- The key of a container's security alert. -/
def securityKey (containerID : String) : ActiveAlertKey :=
  ⟨"security", "dangerous_configuration", "container", containerID⟩

/-- `tryAcknowledgeSecurityAlert`: no hook. -/
def tryAcknowledgeSecurityAlert (containerID ackBy : String) : Code := do
  let all ← ask (.insightsAcknowledged containerID)
  if all then
    match ← ask (.getActiveAlert (securityKey containerID)) with
    | none => pure ()
    | some a =>
      if a.acknowledgedAt = none then
        let now ← ask .clock
        tell (.acknowledgeAlert a.id ackBy now)
      else pure ()
  else pure ()

/-! ## 2. The site -/

/-- The engine's map beside the tables. -/
structure Site where
  activeAlerts : ActiveAlerts
  world : World

def Site.engine (s : Site) : Alerting.State := ⟨s.activeAlerts, s.world.alerts⟩

/-- The runner's part of what an engine call does. -/
def hook : Effect → Code
  | .onAlertCreated a => onAlertCreated a
  | .onAlertResolved alertID resolvedAt => onAlertResolved alertID resolvedAt
  | _ => .done ()

/-- The operations of the site; the lists are the environment's choices. `writePolicies` is any
    change an operator makes to the policies. -/
inductive SiteOp where
  | processEvent (c : Call) (evt : Event) (choices : List Choice)
  | handleAcknowledgeAlert (id acknowledgedBy : String) (choices : List Choice)
  | acknowledgeAlertHandler (alertID acknowledgedBy : String) (choices : List Choice)
  | tryAcknowledgeSecurityAlert (containerID ackBy : String) (choices : List Choice)
  | evaluateCycle (choices : List Choice)
  | writePolicies (policies : PolicyTable)

/-- A program of the runner on its own. -/
def Site.run (s : Site) (p : Code) (choices : List Choice) : Option Site :=
  (exec handle p choices s.world).map fun res => { s with world := res.2 }

def siteStep (rfc3339 : Time → String) (s : Site) : SiteOp → Option Site
  | .processEvent c evt choices =>
    let res := Alerting.processEvent c evt s.engine
    -- the engine writes the table before it calls a hook
    Site.run ⟨res.1.activeAlerts, { s.world with alerts := res.1.alerts }⟩
      (forEach hook res.2) choices
  | .handleAcknowledgeAlert id acknowledgedBy choices =>
    s.run (Escalation.handleAcknowledgeAlert rfc3339 id acknowledgedBy) choices
  | .acknowledgeAlertHandler alertID acknowledgedBy choices =>
    s.run (Escalation.acknowledgeAlertHandler rfc3339 alertID acknowledgedBy) choices
  | .tryAcknowledgeSecurityAlert containerID ackBy choices =>
    s.run (Escalation.tryAcknowledgeSecurityAlert containerID ackBy) choices
  | .evaluateCycle choices => s.run Escalation.evaluateCycle choices
  | .writePolicies policies => some { s with world := { s.world with policies := policies } }

/-! ## 3. Quiet -/

variable {id : String} {w w' : World}

/-- The alert's acknowledged_at is set. -/
def acked (t : AlertTable) (id : String) : Bool :=
  match t.get id with
  | some a => a.acknowledgedAt.isSome
  | none => false

theorem acked_iff {t : AlertTable} :
    acked t id = true ↔ ∃ a ∈ t, a.id = id ∧ a.acknowledgedAt.isSome = true := by
  unfold acked
  cases hget : t.get id with
  | none =>
    have hno := Table.hasKey_eq_false.mp (Table.get_eq_none.mp hget)
    simp only [Bool.false_eq_true, false_iff]
    rintro ⟨a, ha, hid, _⟩
    exact hno a ha hid
  | some a =>
    obtain ⟨ha, hid⟩ := Table.get_eq_some.mp hget
    constructor
    · exact fun h => ⟨a, ha, hid, h⟩
    · rintro ⟨b, hb, hbid, h⟩
      rwa [t.eq_of_key ha hb (hid.trans hbid.symm)]

/-- The levels and channels a run was delivered at. -/
def levelSlots (r : String) (w : World) : List (Int × Option String) :=
  (slotsOf r w.deliveries).filter fun s => decide (0 ≤ s.1)

/-- No live run belongs to an acknowledged alert, but those in `pending`. -/
def QuietBut (pending : List String) (w : World) : Prop :=
  ∀ run ∈ w.runs, run.status.live = true → acked w.alerts run.alertID = true → run.id ∈ pending
deriving Decidable

/-- No live run belongs to an acknowledged alert. -/
def Quiet (w : World) : Prop := QuietBut [] w
deriving Decidable

/-- What the hooks keep: the alerts, the policies, the deliveries of levels, and quiet. -/
structure Calm (A : AlertTable) (pol : PolicyTable) (L : String → List (Int × Option String))
    (pending : List String) (w : World) : Prop where
  alerts : w.alerts = A
  policies : w.policies = pol
  levels : ∀ r, levelSlots r w = L r
  quiet : QuietBut pending w

/-- A request that keeps `Calm`. -/
def Request.calm (A : AlertTable) : Request → Prop
  | .insertRun _ _ alertID _ _ => acked A alertID = false
  | .terminateRun _ status _ => status.live = false
  | .insertDelivery _ levelIndex _ _ => levelIndex < 0
  | .updateRunProgress .. | .pauseRunForMaintenance .. | .resumeRunFromMaintenance ..
  | .stopRunsOfPolicy .. | .deletePolicyRow _ | .bulkDeactivateAllPolicies
  | .bulkStopActiveRuns .. | .acknowledgeAlert .. | .writeAlerts _ => False
  | _ => True

section Calm

variable {x : Choice} {w : World} {i : Request} {A : AlertTable} {pol : PolicyTable}
  {L : String → List (Int × Option String)} {pending : List String}

theorem levelSlots_handle (hi : ∀ r l ch t, i = .insertDelivery r l ch t → l < 0) (r : String) :
    levelSlots r (handle x w i).2 = levelSlots r w := by
  by_cases hins : i.inserts r
  · cases i with
    | insertDelivery runID l ch t =>
      obtain rfl : runID = r := hins
      have hl : l < 0 := hi _ _ _ _ rfl
      obtain ⟨added, hv⟩ : ∃ added, view runID (handle x w (.insertDelivery runID l ch t)).2 =
          (view runID w).deliver l added := view_insertDelivery
      have hslots : slotsOf runID (handle x w (.insertDelivery runID l ch t)).2.deliveries =
          slotsOf runID w.deliveries ++ added.map fun ch => (l, ch) := congrArg View.slots hv
      unfold levelSlots
      rw [hslots, List.filter_append, List.append_right_eq_self, List.filter_eq_nil_iff]
      intro s hs
      obtain ⟨ch', _, rfl⟩ := List.mem_map.mp hs
      simpa using hl
    | _ => exact hins.elim
  · unfold levelSlots
    show (slotsOf r (deliveriesAfter x w.deliveries i)).filter _ = _
    rw [slots_frame hins]

/-- The request may write the alerts. -/
def Request.writesAlerts : Request → Prop
  | .acknowledgeAlert .. | .writeAlerts _ => True
  | _ => False

theorem alerts_frame (hi : ¬ i.writesAlerts) : (handle x w i).2.alerts = w.alerts := by
  rw [handle_alerts]
  unfold alertsAfter
  split
  · rfl
  · cases i with
    | acknowledgeAlert | writeAlerts => exact absurd trivial hi
    | _ => rfl

theorem Request.calm.writesAlerts (hi : i.calm A) : ¬ i.writesAlerts := by
  cases i with
  | acknowledgeAlert | writeAlerts => exact hi.elim
  | _ => exact id

/-- A live row after a calm request was live before, or belongs to an alert not acknowledged. -/
theorem live_after_calm {t : RunTable} {row : Run} (hi : i.calm A)
    (hrow : row ∈ runsAfter x t i) (hl : row.status.live = true) : row ∈ t ∨ acked A row.alertID = false := by
  unfold runsAfter at hrow
  split at hrow
  · exact Or.inl hrow
  · cases i with
    | insertRun =>
      dsimp only [insertRun] at hrow
      cases hins : t.insert _ with
      | none =>
        rw [hins] at hrow
        exact Or.inl hrow
      | some =>
        rw [hins] at hrow
        rcases (Table.mem_insert hins).mp hrow with hrow | rfl
        · exact Or.inl hrow
        · exact Or.inr hi
    | terminateRun =>
      rcases Table.mem_update_key.mp hrow with ⟨hrow, _⟩ | ⟨row₀, _, _, rfl⟩
      · exact Or.inl hrow
      · exact absurd (hi.symm.trans hl) Bool.false_ne_true
    | updateRunProgress | pauseRunForMaintenance | resumeRunFromMaintenance | stopRunsOfPolicy
    | deletePolicyRow | bulkStopActiveRuns => exact hi.elim
    | _ => exact Or.inl hrow

variable (h : Calm A pol L pending w)

include h

theorem Calm.handle (hi : i.calm A) :
    Calm A pol L pending (Escalation.handle x w i).2 := by
  have halerts : (Escalation.handle x w i).2.alerts = w.alerts := alerts_frame hi.writesAlerts
  have hpol : policiesAfter x w.policies i = w.policies := by
    unfold policiesAfter
    split
    · rfl
    · cases i with
      | deletePolicyRow | bulkDeactivateAllPolicies => exact hi.elim
      | _ => rfl
  refine ⟨halerts.trans h.alerts, hpol.trans h.policies, fun r => ?_, fun row hrow hl hack => ?_⟩
  · rw [levelSlots_handle (fun r l ch t e => ?_) r, h.levels r]
    subst e
    exact hi
  · have hack' : acked A row.alertID = true := by
      rw [← h.alerts, ← halerts]
      exact hack
    rcases live_after_calm hi hrow hl with hrow | hno
    · exact h.quiet row hrow hl (by rw [h.alerts]; exact hack')
    · exact absurd (hno.symm.trans hack') Bool.false_ne_true

/-- A statement that fails keeps everything. -/
theorem Calm.failed (hx : x.fails = true) :
    Calm A pol L pending (Escalation.handle x w i).2 := by
  have halerts : (Escalation.handle x w i).2.alerts = w.alerts := if_pos hx
  have hpol : (Escalation.handle x w i).2.policies = w.policies := if_pos hx
  have hruns : (Escalation.handle x w i).2.runs = w.runs := if_pos hx
  have hdel : (Escalation.handle x w i).2.deliveries = w.deliveries := if_pos hx
  refine ⟨halerts.trans h.alerts, hpol.trans h.policies, fun r => ?_, ?_⟩
  · rw [levelSlots, hdel]
    exact h.levels r
  · unfold QuietBut
    rw [halerts, hruns]
    exact h.quiet

variable {ok : Choice → Request → Bool}

/-- After a calm request the rest is shown from every calm world. -/
theorem Calm.ask {f : Answer i → Code} {Q : Unit → World → Prop} (hi : i.calm A)
    (hf : ∀ x, ok x i = true → ∀ w', Calm A pol L pending w' →
      wp Escalation.handle ok (f (Escalation.handle x w i).1) Q w') :
    wp Escalation.handle ok (Prog.ask i >>= f) Q w :=
  wp_ask_of (fun _ => h.handle hi) hf

omit h

/-- Calm code keeps the calm. -/
theorem wp_calm {p : Code} (hp : p.Always (Request.calm A)) (h : Calm A pol L pending w) :
    wp handle ok p (fun _ => Calm A pol L pending) w :=
  wp_always (fun _ hi _ _ _ hc => hc.handle hi) hp h

end Calm

/-! ## 4. Which alerts are acknowledged -/

section Acked

open Alerting

variable {t t' : AlertTable} {id : String}

theorem acked_insert {fails : Bool} {a : Alert} (h : insertAlert t fails a = some t')
    (hack : acked t' id = true) : acked t id = true := by
  obtain ⟨b, hb, hid, hs⟩ := acked_iff.mp hack
  rcases (insertAlert_some h b).mp hb with hb | rfl
  · exact acked_iff.mpr ⟨b, hb, hid, hs⟩
  · cases hs

theorem acked_update {p : Alert → Bool} {f : Alert → Alert} {hf : ∀ a, (f a).id = a.id}
    (hack : acked (t.update p f hf) id = true)
    (hkeep : ∀ a, (f a).acknowledgedAt = a.acknowledgedAt) : acked t id = true := by
  obtain ⟨b, hb, hid, hs⟩ := acked_iff.mp hack
  obtain ⟨a, ha, rfl⟩ := Table.mem_update.mp hb
  refine acked_iff.mpr ⟨a, ha, ?_, ?_⟩
  · split at hid
    · exact (hf a).symm.trans hid
    · exact hid
  · split at hs
    · exact hkeep a ▸ hs
    · exact hs

theorem acked_acknowledgeAlert {id' ackBy : String} {at' : Time}
    (hack : acked (acknowledgeAlert t id' ackBy at') id = true) : acked t id = true ∨ id = id' := by
  obtain ⟨b, hb, hid, hs⟩ := acked_iff.mp hack
  obtain ⟨a, ha, rfl⟩ := Table.mem_update.mp hb
  split at hid
  · rename_i hp
    simp only [Bool.and_eq_true, beq_iff_eq] at hp
    exact Or.inr (hid.symm.trans hp.1.1)
  · rename_i hp
    rw [if_neg hp] at hs
    exact Or.inl (acked_iff.mpr ⟨a, ha, hid, hs⟩)

/-- An event acknowledges nothing. -/
theorem acked_processEvent {c : Call} {evt : Event} {s : Alerting.State}
    (hack : acked (processEvent c evt s).1.alerts id = true) : acked s.alerts id = true := by
  unfold processEvent at hack
  split at hack
  · unfold processRecovery at hack
    split at hack
    · exact hack
    · dsimp only at hack
      split at hack
      · exact hack
      · next hins =>
        dsimp only at hack
        split at hack
        · exact acked_insert hins hack
        · exact acked_insert hins (acked_update hack fun _ => rfl)
  · split at hack
    · next a _ =>
      split at hack
      · unfold escalateAlert at hack
        split at hack
        · exact hack
        · have hack' : acked (updateAlertOnEscalation s.alerts a.id evt.severity evt.message
            evt.entityName evt.detailsJSON) id = true := hack
          exact acked_update hack' fun _ => rfl
      · exact hack
    · unfold openAlert at hack
      dsimp only at hack
      split at hack
      · exact hack
      · next hins => split at hack <;> exact acked_insert hins hack

end Acked

/-! ## 5. The hooks -/

section Hooks

variable {w : World} {A : AlertTable} {pol : PolicyTable}
  {L : String → List (Int × Option String)} {pending : List String}
  {ok : Choice → Request → Bool}

theorem onAlertResolved_calm (alertID : String) (resolvedAt : Time) :
    (onAlertResolved alertID resolvedAt).Always (Request.calm A) := by
  refine always_ask trivial fun runs => ?_
  cases runs with
  | none => exact trivial
  | some => exact always_forEach fun run => always_tell rfl

theorem startRun_calm {a : Alert} {covered : List String} {now : Time} {p : Policy}
    (hnone : acked A a.id = true → p.levels ≠ [] → matchPolicyFilters a p = false) :
    (startRun a covered now p).Always (Request.calm A) := by
  unfold startRun
  split
  · exact trivial
  · split
    · rename_i hmatch
      split
      · exact trivial
      · rename_i first rest hlevels
        refine always_tell (Bool.eq_false_iff.mpr fun hack => ?_)
        rw [hnone hack (by rw [hlevels]; exact List.cons_ne_nil _ _)] at hmatch
        cases hmatch
    · exact trivial

/-- A run is started for an alert that is not acknowledged, or for none. -/
theorem wp_onAlertCreated {a : Alert} (hnone : acked A a.id = true → ∀ p ∈ pol, p.active = true →
      p.levels ≠ [] → matchPolicyFilters a p = false) (h : Calm A pol L pending w) :
    wp handle ok (onAlertCreated a) (fun _ => Calm A pol L pending) w := by
  unfold onAlertCreated
  split
  · exact h
  · refine h.ask trivial fun x _ w₁ h₁ => ?_
    split
    · exact h₁
    · refine h₁.ask trivial fun y _ w₂ h₂ => ?_
      have hans : (handle y w₁ .selectPolicies).1 =
        if y.fails then none else some (selectActivePolicies w₁.policies) := rfl
      rw [hans]
      split
      · exact h₂
      · rename_i policies hsome
        split at hsome
        · cases hsome
        · cases hsome
          refine h₂.ask trivial fun z _ w₃ h₃ => ?_
          refine wp_forEach_mem (fun p hp w' hI => wp_calm (startRun_calm fun hack => ?_) hI) h₃
          obtain ⟨hmem, hactive⟩ := Table.mem_select.mp hp
          exact hnone hack p (h₁.policies ▸ hmem) hactive

theorem wp_hook {e : Effect} (hnone : ∀ a, e = .onAlertCreated a → acked A a.id = true → ∀ p ∈ pol,
      p.active = true → p.levels ≠ [] → matchPolicyFilters a p = false) (h : Calm A pol L pending w) :
    wp handle ok (hook e) (fun _ => Calm A pol L pending) w := by
  cases e with
  | onAlertCreated a => exact wp_onAlertCreated (hnone a rfl) h
  | onAlertResolved => exact wp_calm (onAlertResolved_calm _ _) h
  | _ => exact h

/-- The hook of an acknowledgment reads the runs and stops them. -/
def hookSucceeds : Choice → Request → Bool
  | x, .selectActiveRunsByAlert _ | x, .terminateRun .. => !x.fails
  | _, _ => true

theorem notifyAck_calm (a : Option Alert) (ack : Acknowledgment) (run : Run) :
    (notifyAck a ack run).Always (Request.calm A) := by
  unfold notifyAck
  split
  · split
    · have hneg : specialLevelAck < 0 := by decide
      exact dispatchSpecial_always ⟨fun _ => trivial, fun _ _ => hneg, fun _ _ _ => trivial,
        fun _ _ _ => trivial⟩ trivial _ _
    · exact trivial
  · exact trivial

/-- The hook stops one pending run. -/
theorem wp_stopByAck {a : Option Alert} {now : Time} {ack : Acknowledgment} {run : Run}
    (h : Calm A pol L (run.id :: pending) w) :
    wp handle hookSucceeds (stopByAck a now ack run) (fun _ => Calm A pol L pending) w := by
  refine wp_ask.mpr fun x hx => ?_
  have hc : Calm A pol L (run.id :: pending)
      (handle x w (.terminateRun run.id .stoppedByAck now)).2 := h.handle rfl
  have hfails : x.fails = false := by simpa [hookSucceeds] using hx
  have h' : Calm A pol L pending (handle x w (.terminateRun run.id .stoppedByAck now)).2 := by
    refine ⟨hc.alerts, hc.policies, hc.levels, fun row hrow hl hack => ?_⟩
    have hmem := hc.quiet row hrow hl hack
    have hne : row.id ≠ run.id := by
      have hrow' : row ∈ runsAfter x w.runs (.terminateRun run.id .stoppedByAck now) := hrow
      rw [runsAfter, hfails, if_neg Bool.false_ne_true] at hrow'
      rcases Table.mem_update_key.mp hrow' with ⟨_, hne⟩ | ⟨row₀, _, _, rfl⟩
      · exact hne
      · cases hl
    exact (List.mem_cons.mp hmem).resolve_left hne
  have hans : (handle x w (.terminateRun run.id .stoppedByAck now)).1 = !x.fails := rfl
  rw [hans, hfails]
  exact wp_calm (notifyAck_calm a ack run) h'

/-- What an acknowledgment leaves to its hook: the live runs of the alert. -/
structure Exposed (A : AlertTable) (pol : PolicyTable) (L : String → List (Int × Option String))
    (alertID : String) (w : World) : Prop where
  alerts : w.alerts = A
  policies : w.policies = pol
  levels : ∀ r, levelSlots r w = L r
  own : ∀ run ∈ w.runs, run.status.live = true → acked A run.alertID = true →
    run.alertID = alertID

theorem wp_onAlertAcknowledged {alertID : String} {ack : Acknowledgment} (h : Exposed A pol L alertID w) :
    wp handle hookSucceeds (onAlertAcknowledged alertID ack) (fun _ => Calm A pol L []) w := by
  refine wp_ask.mpr fun x hx => ?_
  have hfails : x.fails = false := by simpa [hookSucceeds] using hx
  have hans : (handle x w (.selectActiveRunsByAlert alertID)).1 =
      some (selectActiveRunsByAlert w.runs alertID) := by
    simp only [handle, answer, hfails]
    rfl
  -- every run the acknowledgment exposes is selected
  have hc : Calm A pol L ((selectActiveRunsByAlert w.runs alertID).val.map Run.id)
      (handle x w (.selectActiveRunsByAlert alertID)).2 := by
    refine Calm.handle ⟨h.alerts, h.policies, h.levels, fun run hrun hl hack => ?_⟩ trivial
    rw [h.alerts] at hack
    refine List.mem_map_of_mem (Table.mem_select.mpr ⟨hrun, ?_⟩)
    rw [h.own run hrun hl hack, hl, beq_self_eq_true]
    rfl
  rw [hans]
  generalize (handle x w (.selectActiveRunsByAlert alertID)).2 = w₁ at hc ⊢
  dsimp only
  split
  · rename_i hnil
    rw [hnil] at hc
    exact hc
  · refine wp_ask.mpr fun y _ => wp_ask.mpr fun z _ => ?_
    refine wp_forEach (I := fun rest => Calm A pol L (rest.map Run.id))
      (fun run rest w' hI => wp_stopByAck hI) ?_
    exact Calm.handle (Calm.handle hc trivial) trivial

end Hooks

/-! ## 6. The operations -/

section Operations

variable {w : World} {A : AlertTable} {pol : PolicyTable}
  {L : String → List (Int × Option String)} {rfc3339 : Time → String}
  {ok : Choice → Request → Bool}

variable {ackBy : String}

variable (h : Calm A pol L [] w)

include h

/-- The acknowledgment itself: the live runs it exposes are those of its alert. -/
theorem exposed_acknowledge {x : Choice} {at' : Time} (hx : x.fails = false) :
    Exposed (Alerting.acknowledgeAlert A id ackBy at') pol L id (handle x w (.acknowledgeAlert id ackBy at')).2 := by
  have halerts : (handle x w (.acknowledgeAlert id ackBy at')).2.alerts =
      Alerting.acknowledgeAlert A id ackBy at' := by
    rw [handle_alerts, alertsAfter, hx, h.alerts]
    rfl
  have hpol : (handle x w (.acknowledgeAlert id ackBy at')).2.policies = pol := by
    rw [← h.policies]
    show policiesAfter x w.policies (.acknowledgeAlert id ackBy at') = w.policies
    unfold policiesAfter
    split <;> rfl
  have hruns : (handle x w (.acknowledgeAlert id ackBy at')).2.runs = w.runs :=
    runs_frame fun _ h => h
  refine ⟨halerts, hpol, fun r => ?_, fun run hrun hl hack => ?_⟩
  · rw [levelSlots_handle (fun _ _ _ _ e => by cases e) r, h.levels r]
  · rw [hruns] at hrun
    rcases acked_acknowledgeAlert hack with hack | e
    · have hnil := h.quiet run hrun hl (by rw [h.alerts]; exact hack)
      cases hnil
    · exact e

theorem wp_acknowledgeWithHook :
    wp handle hookSucceeds (acknowledgeWithHook rfc3339 id ackBy) (fun _ w' => ∃ A', Calm A' pol L [] w') w := by
  refine h.ask trivial fun x _ w₁ h₁ => ?_
  generalize (handle x w (.getAlert id)).1 = res
  rcases res with _ | _ | a
  · exact ⟨A, h₁⟩
  · exact ⟨A, h₁⟩
  · dsimp only
    split
    · refine h₁.ask trivial fun y _ w₂ h₂ => wp_ask.mpr fun z _ => ?_
      generalize (handle y w₁ .clock).1 = now
      have hans : (handle z w₂ (.acknowledgeAlert id ackBy now)).1 = !z.fails := rfl
      rw [hans]
      cases hz : z.fails with
      | true =>
        exact ⟨A, h₂.failed hz⟩
      | false =>
        exact wp_mono (fun _ w' hc => ⟨_, hc⟩)
          (wp_onAlertAcknowledged (exposed_acknowledge h₂ hz))
    · exact ⟨A, h₁⟩

theorem wp_handleAcknowledgeAlert : wp handle hookSucceeds (handleAcknowledgeAlert rfc3339 id ackBy)
      (fun _ w' => ∃ A', Calm A' pol L [] w') w := by
  unfold handleAcknowledgeAlert
  split
  · exact ⟨A, h⟩
  · exact wp_acknowledgeWithHook h

theorem wp_acknowledgeAlertHandler {alertID : String} :
    wp handle hookSucceeds (acknowledgeAlertHandler rfc3339 alertID ackBy)
      (fun _ w' => ∃ A', Calm A' pol L [] w') w := by
  unfold acknowledgeAlertHandler
  split
  · exact ⟨A, h⟩
  · exact wp_acknowledgeWithHook h

/-- Without a hook the alert must not have a live run. -/
theorem wp_tryAcknowledgeSecurityAlert {containerID : String}
    (hidle : ∀ a, Alerting.getActiveAlert A (securityKey containerID) = some a →
      ∀ run ∈ w.runs, run.alertID = a.id → run.status.live = false) :
    wp handle ok (tryAcknowledgeSecurityAlert containerID ackBy) (fun _ w' => ∃ A', Calm A' pol L [] w') w := by
  refine wp_ask_of (I := fun w' => Calm A pol L [] w' ∧ w'.runs = w.runs)
    (fun _ => ⟨h.handle trivial, runs_frame fun _ => id⟩) fun x _ w₁ ⟨h₁, hr₁⟩ => ?_
  split
  · refine wp_ask_of (I := fun w' => Calm A pol L [] w' ∧ w'.runs = w.runs)
      (fun _ => ⟨h₁.handle trivial, (runs_frame fun _ => id).trans hr₁⟩) fun y _ w₂ ⟨h₂, hr₂⟩ => ?_
    have hans : (handle y w₁ (.getActiveAlert (securityKey containerID))).1 =
        if y.fails then none else Alerting.getActiveAlert A (securityKey containerID) := by
      rw [← h₁.alerts]
      rfl
    rw [hans]
    split
    · exact ⟨A, h₂⟩
    · rename_i a hsome
      have ha : Alerting.getActiveAlert A (securityKey containerID) = some a := by
        split at hsome
        · cases hsome
        · exact hsome
      split
      · refine wp_ask_of (I := fun w' => Calm A pol L [] w' ∧ w'.runs = w.runs)
          (fun _ => ⟨h₂.handle trivial, (runs_frame fun _ => id).trans hr₂⟩)
          fun z _ w₃ ⟨h₃, hr₃⟩ u _ => ?_
        generalize (handle z w₂ .clock).1 = now
        show ∃ A', Calm A' pol L [] (handle u w₃ (.acknowledgeAlert a.id ackBy now)).2
        cases hu : u.fails with
        | true => exact ⟨A, h₃.failed hu⟩
        | false =>
          have hexp : Exposed (Alerting.acknowledgeAlert A a.id ackBy now) pol L a.id
              (handle u w₃ (.acknowledgeAlert a.id ackBy now)).2 := exposed_acknowledge h₃ hu
          refine ⟨_, hexp.alerts, hexp.policies, hexp.levels, fun run hrun hl hack => ?_⟩
          rw [hexp.alerts] at hack
          have hid := hexp.own run hrun hl hack
          have hrun' : run ∈ w.runs := by
            rw [runs_frame fun _ => id, hr₃] at hrun
            exact hrun
          exact absurd ((hidle a ha run hrun' hid).symm.trans hl) Bool.false_ne_true
      · exact ⟨A, h₂⟩
  · exact ⟨A, h₁⟩

end Operations

/-! ## 7. Steps of the site -/

section Steps

variable {rfc3339 : Time → String} {s s' : Site}

/-- An operation that lets no live run stand beside an acknowledgment: an event starts no run
    for an acknowledged alert, the hook of an acknowledgment finds and stops the runs, and
    findings acknowledge a security alert only while it has no live run. -/
def Prudent (rfc3339 : Time → String) (s : Site) : SiteOp → Prop
  | .processEvent c evt _ => ∀ a, .onAlertCreated a ∈ (Alerting.processEvent c evt s.engine).2 →
      acked s.world.alerts a.id = true → ∀ p ∈ s.world.policies, p.active = true →
        p.levels ≠ [] → matchPolicyFilters a p = false
  | .handleAcknowledgeAlert id acknowledgedBy choices =>
    Prog.meets handle hookSucceeds (handleAcknowledgeAlert rfc3339 id acknowledgedBy) choices
      s.world = true
  | .acknowledgeAlertHandler alertID acknowledgedBy choices =>
    Prog.meets handle hookSucceeds (acknowledgeAlertHandler rfc3339 alertID acknowledgedBy)
      choices s.world = true
  | .tryAcknowledgeSecurityAlert containerID _ _ => ∀ a,
      Alerting.getActiveAlert s.world.alerts (securityKey containerID) = some a →
        ∀ run ∈ s.world.runs, run.alertID = a.id → run.status.live = false
  | .evaluateCycle _ => True
  | .writePolicies _ => True

/-- No level was delivered for an acknowledged alert. -/
def NoLevelAcked (w w' : World) : Prop :=
  ∀ r run, w'.runs.get r = some run → acked w'.alerts run.alertID = true →
    levelSlots r w' = levelSlots r w

theorem Site.run_some {p : Code} {choices : List Choice} (h : s.run p choices = some s') :
    exec handle p choices s.world = some ((), s'.world) := by
  obtain ⟨⟨u, w'⟩, hexec, rfl⟩ := Option.map_eq_some_iff.mp h
  exact hexec

/-- The calm of a quiet world. -/
theorem Quiet.calm (h : Quiet w) : Calm w.alerts w.policies (fun r => levelSlots r w) [] w :=
  ⟨rfl, rfl, fun _ => rfl, h⟩

theorem Calm.quiet_levels {A : AlertTable} {pol : PolicyTable}
    (h : Calm A pol (fun r => levelSlots r w) [] w') : Quiet w' ∧ NoLevelAcked w w' :=
  ⟨h.quiet, fun r _ _ _ => h.levels r⟩

/-- A pass writes no alert. -/
theorem evaluateCycle_alerts {ok : Choice → Request → Bool} :
    wp handle ok evaluateCycle (fun _ w' => w'.alerts = w.alerts) w := by
  refine wp_always
    (P := fun i : Request => ¬ i.writesAlerts)
    (fun i hi x w' _ hw => (alerts_frame hi).trans hw) (evaluateCycle_always ?_) rfl
  exact ⟨id, fun _ => id, fun _ => id,
    fun _ => ⟨fun _ => id, fun _ => id, fun _ => id, fun _ _ => id, id⟩,
    fun _ => ⟨fun _ => ⟨fun _ => id, fun _ _ => id, fun _ _ _ => id, fun _ _ _ => id⟩, id,
      fun _ _ => id, fun _ => id, fun _ _ _ => id, fun _ _ => id, fun _ _ => id, fun _ => id,
      fun _ => id⟩⟩

/-- A pass of a quiet site delivers no level for an acknowledged alert. -/
theorem evaluateCycle_quiet {choices : List Choice} (h : Quiet w)
    (hexec : exec handle evaluateCycle choices w = some ((), w')) : Quiet w' ∧ NoLevelAcked w w' := by
  have halerts := wp_exec evaluateCycle_alerts meets_anyChoice hexec
  -- the run of an acknowledged alert was not live, so the pass left it alone
  have hsame : ∀ r run, w'.runs.get r = some run → acked w'.alerts run.alertID = true →
      view r w' = view r w := by
    intro r run hrun hack
    obtain ⟨now, _, _, hv⟩ :=
      wp_exec (evaluateCycle_visits) meets_anyChoice hexec
    refine hv.eq_of_dead hrun fun run₀ hrow hid => Bool.eq_false_iff.mpr fun hl => ?_
    rw [halerts, ← hid] at hack
    have hnil := h run₀ (Table.get_eq_some.mp hrow).1 hl hack
    cases hnil
  refine ⟨fun run hrun hl hack => ?_, fun r run hrun hack => ?_⟩
  · have hget : w'.runs.get run.id = some run := Table.get_eq_some.mpr ⟨hrun, rfl⟩
    have hget₀ : w.runs.get run.id = some run :=
      (congrArg View.row (hsame run.id run hget hack)).symm.trans hget
    rw [halerts] at hack
    exact h run (Table.get_eq_some.mp hget₀).1 hl hack
  · exact congrArg (List.filter fun s => decide (0 ≤ s.1))
      (congrArg View.slots (hsame r run hrun hack))

/-- **A prudent step keeps the site quiet and delivers no level for an acknowledged alert.** -/
theorem siteStep_quiet {op : SiteOp} (h : Quiet s.world) (hp : Prudent rfc3339 s op)
    (hs : siteStep rfc3339 s op = some s') : Quiet s'.world ∧ NoLevelAcked s.world s'.world := by
  cases op with
  | processEvent c evt =>
    have hexec := Site.run_some hs
    have hcalm : Calm (Alerting.processEvent c evt s.engine).1.alerts s.world.policies
        (fun r => levelSlots r s.world) []
        { s.world with alerts := (Alerting.processEvent c evt s.engine).1.alerts } :=
      ⟨rfl, rfl, fun _ => rfl, fun run hrun hl hack => h run hrun hl (acked_processEvent hack)⟩
    have hcalm' := wp_exec
      (wp_forEach_mem (fun e he w' hI =>
        wp_hook (fun a hcreated hack => hp a (hcreated ▸ he) (acked_processEvent hack)) hI)
        hcalm) meets_anyChoice hexec
    exact hcalm'.quiet_levels
  | handleAcknowledgeAlert =>
    obtain ⟨A', hc⟩ := wp_exec (wp_handleAcknowledgeAlert h.calm) hp (Site.run_some hs)
    exact hc.quiet_levels
  | acknowledgeAlertHandler =>
    obtain ⟨A', hc⟩ := wp_exec (wp_acknowledgeAlertHandler h.calm) hp (Site.run_some hs)
    exact hc.quiet_levels
  | tryAcknowledgeSecurityAlert =>
    obtain ⟨A', hc⟩ := wp_exec (wp_tryAcknowledgeSecurityAlert h.calm hp)
      meets_anyChoice (Site.run_some hs)
    exact hc.quiet_levels
  | evaluateCycle => exact evaluateCycle_quiet h (Site.run_some hs)
  | writePolicies =>
    cases hs
    exact ⟨h, fun r _ _ _ => rfl⟩

/-- **No level is delivered for an acknowledged alert**, along every run of prudent steps. -/
theorem acknowledged_stays_unescalated {s₀ : Site} (h0 : Quiet s₀.world)
    (h : Reach (siteStep rfc3339) (Prudent rfc3339) s₀ s) {op : SiteOp} (hp : Prudent rfc3339 s op)
    (hs : siteStep rfc3339 s op = some s') : NoLevelAcked s.world s'.world := by
  have hq : Quiet s.world :=
    h.inv (I := fun s => Quiet s.world) h0 fun _ _ _ hi hok hst => (siteStep_quiet hi hok hst).1
  exact (siteStep_quiet hq hp hs).2

end Steps

/-! ## 8. Three runs -/

/-- The run `r1` is due, its alert not acknowledged. -/
def sampleSite : Site := ⟨∅, sampleWorld⟩

/-- A pass that executes a level. -/
def executingPass (elapsed : Nat) : SiteOp :=
  .evaluateCycle [{ elapsed := elapsed }, {}, {}, {}, {}, {}, channelUp, { newID := "d1" }, {}, {}]

def ackByHandler : SiteOp := .handleAcknowledgeAlert "a1" "ops" [{}, {}, {}, {}, {}, {}, {}]

/-- The state after an operation that ends. -/
def after (s : Site) (op : SiteOp) : Site := (siteStep (fun _ => "") s op).getD s

theorem siteStep_after {s : Site} {op : SiteOp} (h : (siteStep (fun _ => "") s op).isSome = true) :
    siteStep (fun _ => "") s op = some (after s op) := by
  obtain ⟨s', hs⟩ := Option.isSome_iff_exists.mp h
  rw [after, hs]
  rfl

/-- An alert acknowledged through the handler: the pass that follows delivers nothing. -/
theorem handler_acknowledgment_stops :
    let s := after sampleSite ackByHandler
    acked s.world.alerts "a1" = true ∧
      NoLevelAcked s.world (after s (executingPass 0)).world :=
  ⟨by decide, acknowledged_stays_unescalated (show Quiet sampleSite.world by decide)
    (.next _ _ ackByHandler .start (show Prog.meets _ _ _ _ _ = true by decide)
      (siteStep_after (by decide))) (show Prudent _ _ (executingPass 0) from trivial)
    (siteStep_after (by decide))⟩

/-- A security alert with a run that is due. -/
def securitySite : Site :=
  ⟨∅, { sampleWorld with
    alerts := ⟨[{ sampleAlert with
      source := "security", alertType := "dangerous_configuration" }], by decide⟩ }⟩

/-- Every finding of the container is acknowledged. -/
def ackByFindings : SiteOp := .tryAcknowledgeSecurityAlert "c1" "ops" [{}, {}, {}, {}]

/-- A warning without a run: the one policy is for critical alerts. -/
def warningSite : Site :=
  ⟨AList.singleton sampleAlert.key { sampleAlert with severity := "warning" },
    { sampleWorld with
      alerts := ⟨[{ sampleAlert with severity := "warning" }], by decide⟩
      policies := ⟨[{ samplePolicy with filters := ⟨["critical"], []⟩ }], by decide⟩
      runs := .empty }⟩

/-- The alert turns critical, and a run `r2` is started. -/
def turnsCritical : SiteOp :=
  .processEvent (.plain "x" .bare) (Alerting.cpuEvent "critical" false)
    [{}, {}, {}, { newID := "r2" }]

theorem not_noLevelAcked (r alertID : String) (hrun : (w'.runs.get r).map Run.alertID = some alertID)
    (hack : acked w'.alerts alertID = true) (hne : levelSlots r w' ≠ levelSlots r w) : ¬ NoLevelAcked w w' := by
  obtain ⟨run, hget, rfl⟩ := Option.map_eq_some_iff.mp hrun
  exact fun h => hne (h r run hget hack)

/-- **A level is delivered after the acknowledgment**: when the findings of a security alert
    acknowledge it beside a live run, and when an acknowledged alert turns critical. -/
theorem acknowledged_alert_escalates :
    (∃ s s', Quiet securitySite.world ∧ Reach (siteStep fun _ => "") anyStep securitySite s ∧
      siteStep (fun _ => "") s (executingPass 0) = some s' ∧ ¬ NoLevelAcked s.world s'.world) ∧
    ∃ s s', Quiet warningSite.world ∧ Reach (siteStep fun _ => "") anyStep warningSite s ∧
      siteStep (fun _ => "") s (executingPass 60000000000) = some s' ∧
        ¬ NoLevelAcked s.world s'.world :=
  ⟨⟨runList (siteStep fun _ => "") securitySite [ackByFindings], _, by decide,
      reach_of_runList _ _, siteStep_after (by decide),
      not_noLevelAcked "r1" "a1" (by decide) (by decide) (by decide)⟩,
    ⟨runList (siteStep fun _ => "") warningSite [ackByHandler, turnsCritical], _, by decide,
      reach_of_runList _ _, siteStep_after (by decide),
      not_noLevelAcked "r2" "a1" (by decide) (by decide) (by decide)⟩⟩

end Maintenant.Escalation
