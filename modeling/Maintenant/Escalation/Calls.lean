/-
  File:      Maintenant/Escalation/Calls.lean
  Subject:   WHAT A REQUEST DOES, AND WHAT THE ESCALATION CODE CALLS.

  `RunChange` lists every way a request changes a row of the runs; `runsAfter_old` and
  `runsAfter_new` follow the rows through a request in either direction, so that a fact about
  runs is checked on six changes and never on the requests themselves. A delivery row keeps its
  place (`deliveriesAfter_new`) unless the request inserted it.

  A property `P` of requests holds of every request a function may make once it holds of the
  few kinds listed for the function (`Dispatches`, `Processes`, `Recovers`). Whoever needs to
  know that a function never selects, never stops a run, or touches only its own run or row
  gets it by choosing `P`.
-/
import Maintenant.Escalation.Runner

namespace Maintenant.Escalation

open GoTime Prog
open Alerting (Alert)

/-! ## 1. What a request does to the runs -/

/-- The request stops run `r` of the table. -/
def Request.stopsRun (t : RunTable) : Request → String → Prop
  | .terminateRun runID _ _, r => runID = r
  | .stopRunsOfPolicy policyID _, r =>
    ∃ row ∈ t, row.id = r ∧ row.policyID = some policyID ∧ row.status.live = true
  | .bulkStopActiveRuns _ _, r => ∃ row ∈ t, row.id = r ∧ row.status.live = true
  | _, _ => False

/-- A row before and after a request. -/
inductive RunChange (t : RunTable) (i : Request) : Run → Run → Prop where
  | same (row : Run) : RunChange t i row row
  | progress (row : Run) (levelIndex : Int) (nextActionAt : Time)
      (h : i = .updateRunProgress row.id levelIndex nextActionAt) :
      RunChange t i row { row with
        lastExecutedLevelIndex := levelIndex
        nextActionAt := some (unix nextActionAt)
        status := .active }
  | stop (row : Run) (status : RunStatus) (endedAt : Time) (h : i.stopsRun t row.id) :
      RunChange t i row (row.stopped status endedAt)
  | pause (row : Run) (recheckAt : Time) (h : i = .pauseRunForMaintenance row.id recheckAt)
      (hlive : row.status.live = true) :
      RunChange t i row { row with
        status := .pausedByMaintenance
        nextActionAt := some (unix recheckAt) }
  | resume (row : Run) (nextActionAt : Time)
      (h : i = .resumeRunFromMaintenance row.id nextActionAt)
      (hpaused : row.status = .pausedByMaintenance) :
      RunChange t i row { row with
        status := .active
        nextActionAt := some (unix nextActionAt) }
  | forget (row : Run) : RunChange t i row { row with policyID := none }

section Runs

variable {x : Choice} {t : RunTable} {i : Request}

variable {row : Run}

theorem RunChange.id_eq {row' : Run} (h : RunChange t i row row') : row'.id = row.id := by
  cases h <;> rfl

/-- An update whose change is a `RunChange` where it applies follows every row. -/
theorem runChange_update {p : Run → Bool} {f : Run → Run}
    (h : ∀ row ∈ t, p row = true → RunChange t i row (f row)) (hrow : row ∈ t) :
    RunChange t i row (if p row then f row else row) := by
  split
  · rename_i hp
    exact h row hrow hp
  · exact .same row

/-- The change each request makes, as one table update; only `InsertRun` adds a row. -/
theorem runsAfter_eq (x : Choice) (t : RunTable) (i : Request) : (∃ p f hf, runsAfter x t i = t.update p f hf ∧
      ∀ row ∈ t, p row = true → RunChange t i row (f row)) ∨
        ∃ policyID snapshot alertID startedAt nextActionAt,
      i = .insertRun policyID snapshot alertID startedAt nextActionAt ∧ x.fails = false ∧
        runsAfter x t i = insertRun t x.newID policyID snapshot alertID startedAt nextActionAt := by
  have hsame : ∃ p f hf, t = t.update p f hf ∧
      ∀ row ∈ t, p row = true → RunChange t i row (f row) :=
    ⟨fun _ => false, id, fun _ => rfl, by simp [Table.update], fun _ _ h => by cases h⟩
  unfold runsAfter
  cases hx : x.fails with
  | true => exact Or.inl hsame
  | false =>
    rw [if_neg Bool.false_ne_true]
    cases i with
    | insertRun =>
      exact Or.inr ⟨_, _, _, _, _, rfl, rfl, rfl⟩
    | updateRunProgress _ levelIndex nextActionAt =>
      exact Or.inl ⟨_, _, _, rfl, fun row _ hp =>
        .progress row levelIndex nextActionAt (by rw [beq_iff_eq.mp hp])⟩
    | terminateRun _ status endedAt =>
      exact Or.inl ⟨_, _, _, rfl, fun row _ hp =>
        .stop row status endedAt (beq_iff_eq.mp hp).symm⟩
    | pauseRunForMaintenance _ recheckAt =>
      refine Or.inl ⟨_, _, _, rfl, fun row _ hp => ?_⟩
      simp only [Bool.and_eq_true, beq_iff_eq] at hp
      exact .pause row recheckAt (by rw [hp.1]) hp.2
    | resumeRunFromMaintenance _ nextActionAt =>
      refine Or.inl ⟨_, _, _, rfl, fun row _ hp => ?_⟩
      simp only [Bool.and_eq_true, beq_iff_eq] at hp
      exact .resume row nextActionAt (by rw [hp.1]) hp.2
    | stopRunsOfPolicy _ endedAt =>
      refine Or.inl ⟨_, _, _, rfl, fun row hrow hp => ?_⟩
      simp only [Bool.and_eq_true, beq_iff_eq] at hp
      exact .stop row .stoppedByPolicyDeletion endedAt ⟨row, hrow, rfl, hp.1, hp.2⟩
    | deletePolicyRow => exact Or.inl ⟨_, _, _, rfl, fun row _ _ => .forget row⟩
    | bulkStopActiveRuns status endedAt =>
      exact Or.inl ⟨_, _, _, rfl, fun row hrow hp =>
        .stop row status endedAt ⟨row, hrow, rfl, hp⟩⟩
    | _ => exact Or.inl hsame

/-- Every row of before is there afterwards, changed in one of the six ways. -/
theorem runsAfter_old (hrow : row ∈ t) : ∃ row' ∈ runsAfter x t i, RunChange t i row row' := by
  rcases runsAfter_eq x t i with ⟨p, f, hf, e, h⟩ | ⟨policyID, snapshot, alertID, startedAt,
    nextActionAt, _, _, e⟩
  · rw [e]
    exact ⟨_, Table.mem_update.mpr ⟨row, hrow, rfl⟩, runChange_update h hrow⟩
  · rw [e]
    refine ⟨row, ?_, .same row⟩
    unfold insertRun
    cases hins : t.insert _ with
    | none => exact hrow
    | some => exact (Table.mem_insert hins).mpr (Or.inl hrow)

/-- Every row of afterwards comes from one of before, or is the active one just inserted. -/
theorem runsAfter_new {row' : Run} (hrow : row' ∈ runsAfter x t i) : (∃ row ∈ t, RunChange t i row row') ∨
      (∃ policyID snapshot alertID startedAt nextActionAt,
        i = .insertRun policyID snapshot alertID startedAt nextActionAt ∧
          row'.policySnapshot = some snapshot ∧ row'.alertID = alertID) ∧
        row'.status = .active ∧ t.hasKey row'.id = false := by
  rcases runsAfter_eq x t i with ⟨p, f, hf, e, h⟩ | ⟨policyID, snapshot, alertID, startedAt,
    nextActionAt, hi, _, e⟩
  · rw [e] at hrow
    obtain ⟨row, hr, rfl⟩ := Table.mem_update.mp hrow
    exact Or.inl ⟨row, hr, runChange_update h hr⟩
  · rw [e] at hrow
    unfold insertRun at hrow
    cases hins : t.insert _ with
    | none =>
      rw [hins] at hrow
      exact Or.inl ⟨row', hrow, .same row'⟩
    | some =>
      rw [hins] at hrow
      rcases (Table.mem_insert hins).mp hrow with hrow | rfl
      · exact Or.inl ⟨row', hrow, .same row'⟩
      · exact Or.inr ⟨⟨_, _, _, _, _, hi, rfl, rfl⟩, rfl, Table.insert_fresh hins⟩

end Runs

/-! ## 2. What a request does to the deliveries -/

variable {i : Request}

/-- Everything a request can do to the deliveries. -/
inductive Delivered (x : Choice) (t : Deliveries) : Request → Deliveries → Prop where
  | same (i : Request) : Delivered x t i t
  | inserted {runID channelID : String} {levelIndex : Int} {attemptStartedAt : Time} {t' : Deliveries}
      (h : t.insert (newDelivery x.newID runID levelIndex channelID attemptStartedAt) = some t') :
      Delivered x t (.insertDelivery runID levelIndex channelID attemptStartedAt) t'
  | updated (id : String) (status : DeliveryStatus) (sentAt : Option Time) :
      Delivered x t (.updateDelivery id status sentAt) (t.update id status sentAt)

theorem delivered (x : Choice) (t : Deliveries) (i : Request) : Delivered x t i (deliveriesAfter x t i) := by
  unfold deliveriesAfter
  split
  · exact .same i
  · cases i with
    | insertDelivery runID levelIndex channelID attemptStartedAt =>
      dsimp only
      cases hins : t.insert (newDelivery x.newID runID levelIndex channelID attemptStartedAt) with
      | none => exact .same _
      | some => exact .inserted hins
    | updateDelivery => exact .updated _ _ _
    | _ => exact .same _

/-- Every delivery of afterwards has the place of one of before, or was just inserted. -/
theorem deliveriesAfter_new {x : Choice} {t : Deliveries} {d : Delivery} (hd : d ∈ deliveriesAfter x t i) :
    (∃ d₀ ∈ t, d₀.place = d.place) ∨ ∃ runID levelIndex channelID attemptStartedAt,
        i = .insertDelivery runID levelIndex channelID attemptStartedAt ∧
          d = newDelivery x.newID runID levelIndex channelID attemptStartedAt := by
  have hstep := delivered x t i
  generalize deliveriesAfter x t i = t' at hd hstep
  cases hstep with
  | same => exact Or.inl ⟨d, hd, rfl⟩
  | inserted hins =>
    rcases (Deliveries.mem_insert hins).mp hd with hd | rfl
    · exact Or.inl ⟨d, hd, rfl⟩
    · exact Or.inr ⟨_, _, _, _, rfl, rfl⟩
  | updated =>
    rcases Deliveries.mem_update.mp hd with ⟨hd, _⟩ | ⟨d₀, hd₀, _, rfl⟩
    · exact Or.inl ⟨d, hd, rfl⟩
    · exact Or.inl ⟨d₀, hd₀, rfl⟩

/-- The table has a row with the id. -/
def HasRow (t : Deliveries) (id : String) : Prop := ∃ d ∈ t, d.id = id

/-- Rows are never deleted. -/
theorem hasRow_after {x : Choice} {t : Deliveries} {id : String}
    (h : HasRow t id) : HasRow (deliveriesAfter x t i) id := by
  obtain ⟨d, hd, hid⟩ := h
  have hstep := delivered x t i
  generalize deliveriesAfter x t i = t' at hstep ⊢
  cases hstep with
  | same => exact ⟨d, hd, hid⟩
  | inserted hins => exact ⟨d, (Deliveries.mem_insert hins).mpr (Or.inl hd), hid⟩
  | updated id' status sentAt =>
    by_cases he : d.id = id'
    · exact ⟨d.settled status sentAt, Deliveries.mem_update.mpr (Or.inr ⟨d, hd, he, rfl⟩), hid⟩
    · exact ⟨d, Deliveries.mem_update.mpr (Or.inl ⟨hd, he⟩), hid⟩

/-! ## 3. What the code calls -/

section Code

variable {P : Request → Prop}

@[simp] theorem always_tell_iff : (tell i).Always P ↔ P i := and_iff_left fun _ => trivial

theorem always_tell (h : P i) : (tell i).Always P := always_tell_iff.mpr h

/-- What a dispatch may call. -/
structure Dispatches (P : Request → Prop) (runID : String) (levelIndex : Int) : Prop where
  getChannel : ∀ id, P (.getChannel id)
  insertDelivery : ∀ ch t, P (.insertDelivery runID levelIndex ch t)
  goDeliver : ∀ id a ch, P (.goDeliver id a ch)
  updateDelivery : ∀ id st t, P (.updateDelivery id st t)

variable {runID : String} {levelIndex : Int}

variable (h : Dispatches P runID levelIndex)

include h

theorem dispatchToChannel_always (a : Alert) (now : Time) (chID : String) :
    (dispatchToChannel runID levelIndex a now chID).Always P := by
  simp [dispatchToChannel, Option.forall, h.getChannel, h.insertDelivery, h.goDeliver, h.updateDelivery]

theorem dispatchSpecial_always (hc : P .clock) (chIDs : List String)
    (a : Alert) : (dispatchSpecial runID levelIndex chIDs a).Always P :=
  always_ask hc fun now => always_forEach (dispatchToChannel_always h a now)

theorem executeLevel_always {passAt : Time}
    (hc : P (.levelClock runID levelIndex passAt))
    (chIDs : List String) (a : Alert) : (executeLevel runID levelIndex chIDs a passAt).Always P :=
  always_ask hc fun now => always_forEach (dispatchToChannel_always h a now)

omit h

/-- What processing a run may call. -/
structure Processes (P : Request → Prop) (runID : String) : Prop where
  dispatches : ∀ levelIndex, Dispatches P runID levelIndex
  clock : P .clock
  levelClock : ∀ levelIndex t, P (.levelClock runID levelIndex t)
  getAlert : ∀ id, P (.getAlert id)
  isSuppressed : ∀ s e d, P (.isSuppressed runID s e d)
  updateRunProgress : ∀ levelIndex t, P (.updateRunProgress runID levelIndex t)
  terminateRun : ∀ st t, P (.terminateRun runID st t)
  pause : ∀ t, P (.pauseRunForMaintenance runID t)
  resume : ∀ t, P (.resumeRunFromMaintenance runID t)

theorem advance_always {run : Run} (h : Processes P run.id) (policy : Policy)
    (a : Alert) (now : Time) : (advance run policy a now).Always P := by
  unfold advance
  dsimp only
  split
  · refine always_bind ?_ fun _ => always_tell (h.terminateRun _ _)
    unfold notifyExhausted
    split
    · exact trivial
    · exact dispatchSpecial_always (h.dispatches _) h.clock _ _
  · split
    · exact trivial
    · exact always_bind (executeLevel_always (h.dispatches _) (h.levelClock _ _) _ _)
        fun _ => always_tell (h.updateRunProgress _ _)

theorem processRun_always {run : Run} (h : Processes P run.id) (now : Time) : (processRun now run).Always P := by
  cases hpolicy : run.policySnapshot <;>
    simp [processRun, hpolicy, forall_except, Option.forall, h.getAlert, h.isSuppressed, h.terminateRun, h.pause,
      h.resume, advance_always h]

/-- What recovering an orphan may call. -/
structure Recovers (P : Request → Prop) (d : Delivery) : Prop where
  selectRun : ∀ id, P (.selectRun id)
  getAlert : ∀ id, P (.getAlert id)
  getChannel : ∀ id, P (.getChannel id)
  goDeliver : ∀ a ch, P (.goDeliver d.id a ch)
  abandon : P (.updateDelivery d.id .abandoned none)

theorem recoverOrphan_always {d : Delivery} (h : Recovers P d) : (recoverOrphan d).Always P := by
  cases hchannel : d.channelID <;>
    simp [recoverOrphan, abandonDelivery, hchannel, forall_except, Option.forall, h.selectRun, h.getAlert,
      h.getChannel, h.goDeliver, h.abandon]

theorem recoverOrphans_always {now : Time} (hselect : ∀ t, P (.selectOrphanPendingDeliveries t))
    (h : ∀ d, Recovers P d) : (recoverOrphans now).Always P := by
  refine always_ask (hselect _) fun orphans => ?_
  cases orphans with
  | none => exact trivial
  | some => exact always_forEach fun d => recoverOrphan_always (h d)

/-- What a pass may call. -/
structure Cycles (P : Request → Prop) : Prop where
  clock : P .clock
  selectOrphans : ∀ t, P (.selectOrphanPendingDeliveries t)
  selectDueRuns : ∀ t, P (.selectDueRuns t)
  recovers : ∀ d, Recovers P d
  processes : ∀ runID, Processes P runID

theorem evaluateCycle_always (h : Cycles P) : evaluateCycle.Always P := by
  refine always_ask h.clock fun now => always_bind (recoverOrphans_always h.selectOrphans h.recovers) fun _ => ?_
  refine always_ask (h.selectDueRuns now) fun runs => ?_
  cases runs with
  | none => exact trivial
  | some => exact always_forEach fun run => processRun_always (h.processes run.id) now

theorem onAlertCreated_always {a : Alert} (hruns : P (.selectActiveRunsByAlert a.id)) (hpolicies : P .selectPolicies)
    (hclock : P .clock) (hinsert : ∀ id p alertID t t', P (.insertRun id p alertID t t')) :
    (onAlertCreated a).Always P := by
  have hstart : ∀ covered now p, (startRun a covered now p).Always P := by
    intro covered now p
    unfold startRun
    cases p.levels <;> simp [hinsert]
  simp [onAlertCreated, Option.forall, hruns, hpolicies, hclock, always_forEach (hstart _ _)]

end Code

end Maintenant.Escalation
