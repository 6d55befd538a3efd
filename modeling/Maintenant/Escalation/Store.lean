/-
  File:      Maintenant/Escalation/Store.lean
  Subject:   THE ESCALATION TABLES (internal/store/escalation.go): one function per statement.

  Six statements write a run. `PauseRunForMaintenance`, `ResumeRunFromMaintenance`, the first
  statement of `DeletePolicy` and `BulkStopActiveRuns` name the statuses they may change;
  `UpdateRunProgress` and `TerminateRun` take whatever row has the id.

  The table of deliveries carries its UNIQUE index on (run_id, level_index, channel_id): two
  rows of one slot cannot be built. SQLite lets NULL channels repeat.
-/
import Maintenant.Escalation.Model
import Mathlib.Data.List.Pairwise

namespace Maintenant.Escalation

open GoTime

/-! ## 1. Runs -/

abbrev RunTable := Table Run.id

abbrev PolicyTable := Table Policy.id

/-- `INSERT INTO escalation_runs`; a taken id leaves the table as it is. -/
def insertRun (t : RunTable) (id policyID : String) (snapshot : Policy) (alertID : String)
    (startedAt nextActionAt : Time) : RunTable :=
  (t.insert
    { id := id
      policyID := some policyID
      policySnapshot := some snapshot
      alertID := alertID
      status := .active
      lastExecutedLevelIndex := -1
      startedAt := unix startedAt
      endedAt := none
      nextActionAt := some (unix nextActionAt) }).getD t

/-- `UPDATE … SET last_executed_level_index, next_action_at, status WHERE id`. -/
def updateRunProgress (t : RunTable) (runID : String) (lastExecutedLevelIndex : Int)
    (nextActionAt : Time) (status : RunStatus) : RunTable :=
  t.update (fun r => r.id == runID)
    (fun r => { r with
      lastExecutedLevelIndex := lastExecutedLevelIndex
      nextActionAt := some (unix nextActionAt)
      status := status })
    fun _ => rfl

/-- A run as a stop leaves it. -/
def Run.stopped (r : Run) (status : RunStatus) (endedAt : Time) : Run :=
  { r with status := status, endedAt := some (unix endedAt), nextActionAt := none }

/-- `UPDATE … SET status, ended_at, next_action_at = NULL WHERE id`. -/
def terminateRun (t : RunTable) (runID : String) (status : RunStatus) (endedAt : Time) :
    RunTable :=
  t.update (fun r => r.id == runID) (fun r => r.stopped status endedAt) fun _ => rfl

/-- `… WHERE id AND status IN ('active','paused_by_maintenance')`. -/
def pauseRunForMaintenance (t : RunTable) (runID : String) (recheckAt : Time) : RunTable :=
  t.update (fun r => r.id == runID && r.status.live)
    (fun r => { r with
      status := .pausedByMaintenance
      nextActionAt := some (unix recheckAt) })
    fun _ => rfl

/-- `… WHERE id AND status = 'paused_by_maintenance'`. -/
def resumeRunFromMaintenance (t : RunTable) (runID : String) (nextActionAt : Time) : RunTable :=
  t.update (fun r => r.id == runID && r.status == .pausedByMaintenance)
    (fun r => { r with
      status := .active
      nextActionAt := some (unix nextActionAt) })
    fun _ => rfl

/-- The first statement of `DeletePolicy`. -/
def stopRunsOfPolicy (t : RunTable) (policyID : String) (endedAt : Time) : RunTable :=
  t.update (fun r => r.policyID == some policyID && r.status.live)
    (fun r => r.stopped .stoppedByPolicyDeletion endedAt) fun _ => rfl

/-- `ON DELETE SET NULL` of the policy reference. -/
def forgetPolicy (t : RunTable) (policyID : String) : RunTable :=
  t.update (fun r => r.policyID == some policyID) (fun r => { r with policyID := none })
    fun _ => rfl

/-- `BulkStopActiveRuns`. -/
def bulkStopActiveRuns (t : RunTable) (status : RunStatus) (endedAt : Time) : RunTable :=
  t.update (fun r => r.status.live) (fun r => r.stopped status endedAt) fun _ => rfl

/-- `SelectActiveRunsByAlert`. -/
def selectActiveRunsByAlert (t : RunTable) (alertID : String) : Table.Rows Run.id :=
  t.select (fun r => r.alertID == alertID && r.status.live) fun r r' => r.id ≤ r'.id

/-- `next_action_at IS NOT NULL AND next_action_at <= now`. -/
def Run.dueBy (r : Run) (now : Time) : Bool :=
  match r.nextActionAt with
  | none => false
  | some due => decide (due ≤ unix now)

/-- `SelectDueRuns`. -/
def selectDueRuns (t : RunTable) (now : Time) : Table.Rows Run.id :=
  t.select (fun r => r.status.live && r.dueBy now) fun r r' =>
    r.nextActionAt.getD 0 ≤ r'.nextActionAt.getD 0

/-- `BulkDeactivateAllPolicies`. -/
def bulkDeactivateAllPolicies (t : PolicyTable) : PolicyTable :=
  t.update (fun p => p.active)
    (fun p => { p with activeBeforeDowngrade := p.active, active := false }) fun _ => rfl

/-- `BulkRestorePoliciesFromDowngrade`. -/
def bulkRestorePoliciesFromDowngrade (t : PolicyTable) : PolicyTable :=
  t.update (fun p => p.activeBeforeDowngrade)
    (fun p => { p with active := true, activeBeforeDowngrade := false }) fun _ => rfl

/-- `SelectPolicies` with `activeOnly`. -/
def selectActivePolicies (t : PolicyTable) : Table.Rows Policy.id :=
  t.select (fun p => p.active) fun p p' => p.id ≤ p'.id

/-! ## 2. Deliveries -/

/-- What the UNIQUE index compares; a NULL channel is compared with nothing. -/
def Delivery.slot (d : Delivery) : Option (String × Int × String) :=
  d.channelID.map fun ch => (d.runID, d.levelIndex, ch)

/-- What no statement changes in a row. -/
def Delivery.place (d : Delivery) : String × String × Int × Option String :=
  (d.id, d.runID, d.levelIndex, d.channelID)

/-- The table `escalation_deliveries` with its UNIQUE index. -/
structure Deliveries where
  table : Table Delivery.id
  unique : (table.rows.filterMap Delivery.slot).Nodup

namespace Deliveries

instance : Membership Delivery Deliveries := ⟨fun t d => d ∈ t.table⟩

def empty : Deliveries := ⟨.empty, List.nodup_nil⟩

/-- `INSERT INTO escalation_deliveries`: `none` on a taken id or a taken slot. -/
def insert (t : Deliveries) (d : Delivery) : Option Deliveries :=
  match h : t.table.insert d with
  | none => none
  | some table =>
    if hu : (t.table.rows.filterMap Delivery.slot ++ d.slot.toList).Nodup then
      some ⟨table, by
        rw [Table.rows_insert h, List.filterMap_append]
        cases hs : d.slot <;> simp_all⟩
    else none

theorem insert_table {t t' : Deliveries} {d : Delivery} (h : t.insert d = some t') :
    t.table.insert d = some t'.table := by
  unfold insert at h
  split at h
  · cases h
  · rename_i table ht
    split at h
    · cases h
      exact ht
    · cases h

theorem mem_insert {t t' : Deliveries} {d x : Delivery} (h : t.insert d = some t') :
    x ∈ t' ↔ x ∈ t ∨ x = d := Table.mem_insert (insert_table h)

end Deliveries

/-- A delivery as an update leaves it. -/
def Delivery.settled (d : Delivery) (status : DeliveryStatus) (sentAt : Option Time) : Delivery :=
  { d with status := status, sentAt := sentAt.map unix }

namespace Deliveries

/-- `UPDATE escalation_deliveries SET status, sent_at WHERE id`. -/
def update (t : Deliveries) (id : String) (status : DeliveryStatus) (sentAt : Option Time) :
    Deliveries :=
  ⟨t.table.update (fun d => d.id == id) (fun d => d.settled status sentAt) fun _ => rfl, by
    have e : ((t.table.rows.map fun d =>
        if (d.id == id) = true then d.settled status sentAt else d).filterMap Delivery.slot) =
        t.table.rows.filterMap Delivery.slot := by
      rw [List.filterMap_map]
      refine List.filterMap_congr fun d _ => ?_
      simp only [Function.comp]
      split <;> rfl
    unfold Table.update
    rw [e]
    exact t.unique⟩

theorem mem_update {t : Deliveries} {id : String} {status : DeliveryStatus} {sentAt : Option Time} {x : Delivery} :
    x ∈ t.update id status sentAt ↔ (x ∈ t ∧ x.id ≠ id) ∨ ∃ d ∈ t, d.id = id ∧
    x = d.settled status sentAt :=
  @Table.mem_update_key _ _ _ t.table x id (fun d => d.settled status sentAt) (fun _ => rfl) _

/-- `SelectOrphanPendingDeliveries`. -/
def selectOrphanPending (t : Deliveries) (before : Time) : Table.Rows Delivery.id :=
  t.table.select (fun d => d.status == .pending && decide (d.attemptStartedAt < unix before))
    fun d d' => d.attemptStartedAt ≤ d'.attemptStartedAt

/-- **No two rows of one slot.** -/
theorem eq_of_slot (t : Deliveries) {d d' : Delivery} (h : d ∈ t) (h' : d' ∈ t)
    {slot : String × Int × String} (hs : d.slot = some slot) (hs' : d'.slot = some slot) : d = d' := by
  by_contra hne
  have : Std.Symm fun d d' : Delivery => ∀ slot ∈ d.slot, ∀ slot' ∈ d'.slot, slot ≠ slot' :=
    ⟨fun _ _ h slot hs slot' hs' => (h slot' hs' slot hs).symm⟩
  exact (List.pairwise_filterMap.mp t.unique).forall h h' hne slot hs slot hs' rfl

end Deliveries

end Maintenant.Escalation
