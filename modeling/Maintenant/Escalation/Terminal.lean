/-
  File:      Maintenant/Escalation/Terminal.lean
  Subject:   ARE TERMINAL RUN STATUSES ABSORBING? The evaluator works on copies of the runs it
             selected while hooks, policy deletion and the downgrade stop the same rows.

  A thread HOLDS a run when a write to it that does not look at its status -- `UpdateRunProgress`,
  `TerminateRun`, a level's `InsertDelivery` -- may still come before the thread selects runs
  again. As long as a run is only stopped while no other thread holds it, held runs are live
  (`Held.live`), and a stopped one stays as it is (`terminal_absorbing`). Without that proviso
  it does not: `acknowledged_run_resurrected`.
-/
import Maintenant.Escalation.Calls

namespace Maintenant.Escalation

open GoTime Runs Prog

open Alerting (Alert)

/-! ## 1. Holding a run -/

variable {r : String} {p : Code} {body : Run → Code} {rows : Table.Rows Run.id} {s : State} {m : Move}

/-- The request writes run `r` whatever its status. -/
def Request.writesRun : Request → String → Prop
  | .updateRunProgress runID _ _, r => runID = r
  | .terminateRun runID _ _, r => runID = r
  | .insertDelivery runID levelIndex _ _, r => runID = r ∧ 0 ≤ levelIndex
  | _, _ => False

/-- The request reads the live runs anew. -/
def Request.selectsRuns : Request → Prop
  | .selectDueRuns _ | .selectActiveRunsByAlert _ => True
  | _ => False

/-- A write to run `r` that ignores its status may still come before the next selection. -/
def Held (r : String) (p : Code) : Prop := p.Ahead Request.selectsRuns (Request.writesRun · r)

/-- A move that stops a run is made while no other thread holds the run. -/
def Alone (s : State) : Move → Prop
  | .start _ => True
  | .run n _ => ∀ op i k, s.threads[n]? = some (op, .call i k) →
      ∀ r, i.stopsRun s.world.runs r →
        ∀ m t, m ≠ n → s.threads[m]? = some t → ¬ Held r t.2

/-- The request may stop run `r` of some table. -/
def Request.endsRun : Request → String → Prop
  | .terminateRun runID _ _, r => runID = r
  | .stopRunsOfPolicy _ _, _ | .bulkStopActiveRuns _ _, _ => True
  | _, _ => False

theorem endsRun_of_stopsRun {t : RunTable} {i : Request} (h : i.stopsRun t r) : i.endsRun r := by
  cases i with
  | terminateRun => exact h
  | stopRunsOfPolicy | bulkStopActiveRuns => exact trivial
  | _ => exact h.elim

/-- The runs a selection answered. -/
def givesRun : (i : Request) → Answer i → String → Prop
  | .selectDueRuns _, some rows, r => ∃ row ∈ rows.val, row.id = r
  | .selectActiveRunsByAlert _, some rows, r => ∃ row ∈ rows.val, row.id = r
  | _, _, _ => False

/-! ## 2. The discipline of the code -/

/-- The request does not select, and writes or stops no run but this one. -/
structure OnlyRun (id : String) (i : Request) : Prop where
  selects : ¬ i.selectsRuns
  writes : ∀ r, i.writesRun r → r = id
  ends : ∀ r, i.endsRun r → r = id

/-- The request neither selects nor writes nor stops a run. -/
structure NoRun (i : Request) : Prop where
  selects : ¬ i.selectsRuns
  writes : ∀ r, ¬ i.writesRun r
  ends : ∀ r, ¬ i.endsRun r

theorem NoRun.onlyRun {i : Request} (h : NoRun i) (id : String) : OnlyRun id i :=
  ⟨h.selects, fun r hr => absurd hr (h.writes r), fun r hr => absurd hr (h.ends r)⟩

theorem only_dispatches (runID : String) (levelIndex : Int) :
    Dispatches (OnlyRun runID) runID levelIndex where
  getChannel _ := ⟨id, fun _ h => h.elim, fun _ h => h.elim⟩
  insertDelivery _ _ := ⟨id, fun _ h => h.1.symm, fun _ h => h.elim⟩
  goDeliver _ _ _ := ⟨id, fun _ h => h.elim, fun _ h => h.elim⟩
  updateDelivery _ _ _ := ⟨id, fun _ h => h.elim, fun _ h => h.elim⟩

/-- The notices below level 0 are no level deliveries. -/
theorem special_dispatches (runID : String) {levelIndex : Int} (h : levelIndex < 0) :
    Dispatches NoRun runID levelIndex where
  getChannel _ := ⟨id, fun _ => id, fun _ => id⟩
  insertDelivery _ _ := ⟨id, fun _ hr => absurd hr.2 (by omega), fun _ => id⟩
  goDeliver _ _ _ := ⟨id, fun _ => id, fun _ => id⟩
  updateDelivery _ _ _ := ⟨id, fun _ => id, fun _ => id⟩

theorem only_processes (runID : String) : Processes (OnlyRun runID) runID where
  dispatches := only_dispatches runID
  clock := ⟨id, fun _ h => h.elim, fun _ h => h.elim⟩
  levelClock _ _ := ⟨id, fun _ h => h.elim, fun _ h => h.elim⟩
  getAlert _ := ⟨id, fun _ h => h.elim, fun _ h => h.elim⟩
  isSuppressed _ _ _ := ⟨id, fun _ h => h.elim, fun _ h => h.elim⟩
  updateRunProgress _ _ := ⟨id, fun _ h => h.symm, fun _ h => h.elim⟩
  terminateRun _ _ := ⟨id, fun _ h => h.symm, fun _ h => h.symm⟩
  pause _ := ⟨id, fun _ h => h.elim, fun _ h => h.elim⟩
  resume _ := ⟨id, fun _ h => h.elim, fun _ h => h.elim⟩

theorem noRun_recovers (d : Delivery) : Recovers NoRun d where
  selectRun _ := ⟨id, fun _ => id, fun _ => id⟩
  getAlert _ := ⟨id, fun _ => id, fun _ => id⟩
  getChannel _ := ⟨id, fun _ => id, fun _ => id⟩
  goDeliver _ _ := ⟨id, fun _ => id, fun _ => id⟩
  abandon := ⟨id, fun _ => id, fun _ => id⟩

/-- What a thread uses it was given by its last selection, and what it stopped it uses no
    more. -/
abbrev Disciplined (p : Code) : Prop :=
  Prog.Disciplined Request.selectsRuns Request.writesRun givesRun Request.endsRun p

/-- Disciplined code that holds nothing yet. -/
abbrev Unburdened (p : Code) : Prop :=
  Prog.Unburdened Request.selectsRuns Request.writesRun givesRun Request.endsRun p

/-- What the code stopped it uses no more. -/
abbrev Releasing (p : Code) : Prop := p.Releases Request.selectsRuns Request.writesRun Request.endsRun

theorem held_only {id : String} (hp : p.Always (OnlyRun id)) (h : Held r p) : r = id := by
  obtain ⟨i, hi, hr⟩ := hp.ever h.ever
  exact hi.writes r hr

theorem not_held_noRun (hp : p.Always NoRun) : ¬ Held r p := hp.not_ahead fun _ hi => hi.writes r

theorem noRun_releases (hp : p.Always NoRun) : Releasing p :=
  releases_of_always (hp.mono fun _ h => h.ends)

theorem recoverOrphans_noRun (now : Time) : (recoverOrphans now).Always NoRun :=
  recoverOrphans_always (fun _ => ⟨id, fun _ => id, fun _ => id⟩) noRun_recovers

/-- `processRun` stops its run last. -/
theorem processRun_releases (now : Time) (run : Run) :
    Releasing (processRun now run) := by
  have htell : ∀ i, Releasing (tell i) := fun i => ⟨fun _ _ _ h => h.elim, fun _ => trivial⟩
  have hadvance : ∀ policy a, Releasing (advance run policy a now) := by
    intro policy a
    unfold advance
    dsimp only
    split
    · have hnotify : (notifyExhausted run policy a).Always NoRun := by
        unfold notifyExhausted
        split
        · exact trivial
        · exact dispatchSpecial_always (special_dispatches _ (by decide))
            ⟨id, fun _ => id, fun _ => id⟩ _ _
      exact releases_bind (noRun_releases hnotify) (fun _ => htell _)
        fun r hr => absurd hr (hnotify.not_ahead fun _ hi => hi.ends r)
    · split
      · exact trivial
      · have hlevel : ∀ level : Level,
            (executeLevel run.id (run.lastExecutedLevelIndex + 1) level.channelIDs a now).Always
              fun i => ∀ r, ¬ i.endsRun r := fun level =>
          executeLevel_always ⟨fun _ _ => id, fun _ _ _ => id, fun _ _ _ _ => id,
            fun _ _ _ _ => id⟩ (fun _ => id) _ _
        exact releases_bind (releases_of_always (hlevel _)) (fun _ => htell _)
          fun r hr => absurd hr ((hlevel _).not_ahead fun _ hi => hi r)
  refine releases_ask (fun _ h => h.elim) fun r => ?_
  rcases r with _ | _ | a
  · exact trivial
  · exact htell _
  · dsimp only
    split
    · refine releases_ask (fun _ h => h.elim) fun suppressed => ?_
      split
      · exact htell _
      · split
        · exact htell _
        · split
          · exact htell _
          · exact hadvance _ a
    · exact htell _

/-- What may follow a selection: no other one, writes to the selected runs, and none to a run that was stopped. -/
structure Follows (i : Request) (rows : Answer i) (p : Code) : Prop where
  held : ∀ r, Held r p → givesRun i rows r
  noSelect : p.Always fun j => ¬ j.selectsRuns
  releases : Releasing p

section

variable {i : Request} {answer : Answer i}

theorem follows_done : Follows i answer (pure ()) := ⟨fun _ h => absurd h not_ahead_done, trivial, trivial⟩

theorem follows_ask {j : Request} {f : Answer j → Code} (hj : NoRun j) (h : ∀ b, Follows i answer (f b)) :
    Follows i answer (ask j >>= f) where
  held r hr := by
    rcases ahead_ask.mp hr with hr | ⟨_, b, hr⟩
    · exact absurd hr (hj.writes r)
    · exact (h b).held r hr
  noSelect := always_ask hj.selects fun b => (h b).noSelect
  releases := releases_ask (fun r hr => absurd hr (hj.ends r)) fun b => (h b).releases

/-- A loop over selected runs, each round on its own run. -/
theorem follows_forEach (hgives : ∀ r, (∃ row ∈ rows.val, row.id = r) → givesRun i answer r)
    (honly : ∀ run, (body run).Always (OnlyRun run.id)) (hrel : ∀ run, Releasing (body run)) :
    Follows i answer (forEach body rows.val) where
  held r h := by
    obtain ⟨run, hrun, hh⟩ := ahead_forEach h
    exact hgives r ⟨run, hrun, (held_only (honly run) hh).symm⟩
  noSelect := always_forEach fun run => (honly run).mono fun _ h => h.selects
  releases := by
    refine releases_forEach hrel (fun run r h => ?_) (fun run _ h => held_only (honly run) h) rows.property
    obtain ⟨i, hi, hr⟩ := (honly run).ever h
    exact hi.ends r hr

/-- **A selection, and what follows it.** -/
theorem select_unburdened {f : Answer i → Code} (hselects : i.selectsRuns) (hwrites : ∀ r, ¬ i.writesRun r)
    (hends : ∀ r, ¬ i.endsRun r) (h : ∀ rows, Follows i rows (f rows)) : Unburdened (ask i >>= f) :=
  unburdened_stop hselects hwrites hends (fun rows => ⟨grants_of_always (h rows).noSelect, (h rows).releases⟩)
    fun rows => (h rows).held

end

theorem evaluateCycle_unburdened : Unburdened evaluateCycle := by
  refine unburdened_ask (fun _ => id) fun now =>
    unburdened_bind (unburdened_of_no_use ((recoverOrphans_noRun now).mono fun _ h => h.writes)) fun _ =>
      select_unburdened trivial (fun _ => id) (fun _ => id) fun rows => ?_
  cases rows with
  | none => exact follows_done
  | some =>
    exact follows_forEach (fun _ => id) (fun run => processRun_always (only_processes run.id) now)
      (processRun_releases now)

variable (a : Option Alert)

theorem notifyAck_noRun (ack : Acknowledgment) (run : Run) : (notifyAck a ack run).Always NoRun := by
  unfold notifyAck
  split
  · split
    · exact dispatchSpecial_always (special_dispatches _ (by decide))
        ⟨id, fun _ => id, fun _ => id⟩ _ _
    · exact trivial
  · exact trivial

theorem stopByAck_only (now : Time) (ack : Acknowledgment) (run : Run) :
    (stopByAck a now ack run).Always (OnlyRun run.id) := by
  refine always_ask ⟨id, fun _ h => h.symm, fun _ h => h.symm⟩ fun ok => ?_
  split
  · exact (notifyAck_noRun a ack run).mono fun _ h => h.onlyRun run.id
  · exact trivial

theorem stopByAck_releases (now : Time) (ack : Acknowledgment) (run : Run) :
    Releasing (stopByAck a now ack run) := by
  refine releases_ask (fun r _ ok h => ?_) fun ok => ?_
  · split at h
    · exact not_held_noRun (notifyAck_noRun a ack run) h
    · exact h
  · split
    · exact noRun_releases (notifyAck_noRun a ack run)
    · exact trivial

theorem onAlertAcknowledged_unburdened (alertID : String) (ack : Acknowledgment) :
    Unburdened (onAlertAcknowledged alertID ack) := by
  refine select_unburdened trivial (fun _ => id) (fun _ => id) fun rows => ?_
  cases rows with
  | none => exact follows_done
  | some =>
    dsimp only
    split
    · exact follows_done
    · exact follows_ask ⟨id, fun _ => id, fun _ => id⟩ fun ra =>
        follows_ask ⟨id, fun _ => id, fun _ => id⟩ fun now =>
        follows_forEach (fun _ => id) (stopByAck_only _ now ack) (stopByAck_releases _ now ack)

theorem onAlertResolved_unburdened (alertID : String) (resolvedAt : Time) :
    Unburdened (onAlertResolved alertID resolvedAt) := by
  refine select_unburdened trivial (fun _ => id) (fun _ => id) fun rows => ?_
  cases rows with
  | none => exact follows_done
  | some =>
    exact follows_forEach (fun _ => id)
      (fun run => always_tell ⟨id, fun _ h => h.symm, fun _ h => h.symm⟩)
      fun _ => ⟨fun _ _ _ h => h.elim, fun _ => trivial⟩

/-- **Every operation starts disciplined, holding nothing.** -/
theorem body_unburdened (op : Op) : Unburdened op.body := by
  cases op with
  | evaluateCycle => exact evaluateCycle_unburdened
  | onAlertCreated =>
    exact unburdened_of_no_use
      (onAlertCreated_always (fun _ => id) (fun _ => id) (fun _ => id) fun _ _ _ _ _ _ => id)
  | onAlertAcknowledged alertID ack => exact onAlertAcknowledged_unburdened alertID ack
  | onAlertResolved alertID resolvedAt => exact onAlertResolved_unburdened alertID resolvedAt
  | deletePolicy => exact unburdened_of_no_use (by simp [Op.body, deletePolicy, Option.forall, Request.writesRun])
  | onEditionDowngraded => exact unburdened_of_no_use (by simp [Op.body, onEditionDowngraded, Request.writesRun])
  | deliverAndUpdate => exact unburdened_of_no_use (by simp [Op.body, deliverAndUpdate, Request.writesRun])
  | writeAlerts => exact unburdened_of_no_use (always_tell fun _ => id)

/-! ## 3. The invariant -/

/-- The row of run `r`, if there is one, is live. -/
def LiveRun (t : RunTable) (r : String) : Prop := ∀ row ∈ t, row.id = r → row.status.live = true

/-- Stopped rows have no next action; threads are disciplined; what they hold is live. -/
structure TerminalInv (s : State) : Prop where
  null : ∀ row ∈ s.world.runs, row.status.live = false → row.nextActionAt = none
  disciplined : ∀ (n : Nat) (t : Op × Code), s.threads[n]? = some t → Disciplined t.2
  held : ∀ (n : Nat) (t : Op × Code), s.threads[n]? = some t →
    ∀ r, Held r t.2 → LiveRun s.world.runs r

section Step

variable {x : Choice} {t : RunTable} {i : Request}

/-- A live run that the request does not stop is live afterwards. -/
theorem liveRun_after (hlive : LiveRun t r) (hstop : ¬ i.stopsRun t r) : LiveRun (runsAfter x t i) r := by
  intro row' hrow' hid
  rcases runsAfter_new hrow' with ⟨row, hrow, hc⟩ | ⟨_, hactive, _⟩
  · have hr : row.id = r := hc.id_eq.symm.trans hid
    have hl := hlive row hrow hr
    cases hc with
    | stop _ _ h => exact absurd (hr ▸ h) hstop
    | same | forget => exact hl
    | progress | pause | resume => rfl
  · rw [hactive]
    rfl

/-- Stopped rows keep their NULL. -/
theorem null_after (hnull : ∀ row ∈ t, row.status.live = false → row.nextActionAt = none) :
    ∀ row ∈ runsAfter x t i, row.status.live = false → row.nextActionAt = none := by
  intro row' hrow' hterm
  rcases runsAfter_new hrow' with ⟨row, hrow, hc⟩ | ⟨_, hactive, _⟩
  · cases hc with
    | same => exact hnull _ hrow hterm
    | forget => exact hnull row hrow hterm
    | stop => rfl
    | progress | pause | resume => cases hterm
  · rw [hactive] at hterm
    cases hterm

/-- A stopped run that the request does not write keeps its status and its NULL. -/
theorem stopped_after {row : Run} (hrow : row ∈ t) (hterm : row.status.live = false) (hw : ¬ i.writesRun row.id) :
    ∃ row' ∈ runsAfter x t i, row'.id = row.id ∧ row'.status = row.status ∧
    row'.nextActionAt = row.nextActionAt := by
  obtain ⟨row', hrow', hc⟩ := runsAfter_old hrow
  refine ⟨row', hrow', hc.id_eq, ?_⟩
  cases hc with
  | same | forget => exact ⟨rfl, rfl⟩
  | progress _ _ h => exact absurd (h ▸ rfl) hw
  | pause _ _ hlive =>
    rw [hterm] at hlive
    cases hlive
  | resume _ _ hpaused =>
    rw [hpaused] at hterm
    cases hterm
  | stop _ _ h =>
    -- the guarded statements stop live rows only; `TerminateRun` is a write
    cases i with
    | terminateRun => exact absurd h hw
    | stopRunsOfPolicy | bulkStopActiveRuns =>
      obtain ⟨other, hother, hid, hlive⟩ := h
      rw [t.eq_of_key hother hrow hid] at hlive
      simp [hterm] at hlive
    | _ => exact h.elim

/-- A selection answers live runs. -/
theorem givesRun_live {w : World} (h : givesRun i (handle x w i).1 r) : LiveRun w.runs r := by
  have hlive : ∀ {p : Run → Bool} {le : Run → Run → Prop} [DecidableRel le],
    (∀ row, p row = true → row.status.live = true) →
      (∃ row ∈ (w.runs.select p le).val, row.id = r) → LiveRun w.runs r := by
    intro p le _ hp ⟨row, hrow, hid⟩ other hother hid'
    obtain ⟨hmem, hrow⟩ := Table.mem_select.mp hrow
    rw [w.runs.eq_of_key hother hmem (hid'.trans hid.symm)]
    exact hp row hrow
  cases i with
  | selectDueRuns =>
    simp only [handle, answer] at h
    split at h
    · exact h.elim
    · exact hlive (fun _ hp => (Bool.and_eq_true_iff.mp hp).1) h
  | selectActiveRunsByAlert =>
    simp only [handle, answer] at h
    split at h
    · exact h.elim
    · exact hlive (fun _ hp => (Bool.and_eq_true_iff.mp hp).2) h
  | _ => exact h.elim

end Step

/-- **A move made alone keeps the invariant.** -/
theorem terminalInv_step {s' : State} (h : TerminalInv s) (halone : Alone s m)
    (hs : step s m = some s') : TerminalInv s' := by
  cases m with
  | start op =>
    obtain ⟨_, rfl⟩ := Pool.step_start hs
    have hbody := body_unburdened op
    refine ⟨h.null, fun n t ht => ?_, fun n t ht r hr => ?_⟩
    · rcases Pool.get_start ht with ht | ⟨_, rfl⟩
      · exact h.disciplined n t ht
      · exact hbody.toDisciplined
    · rcases Pool.get_start (M := machine) ht with ht | ⟨_, rfl⟩
      · exact h.held n t ht r hr
      · exact absurd hr (hbody.first r)
  | run n x =>
    obtain ⟨op, i, k, hn, rfl⟩ := Pool.step_run hs
    have hcaller := h.disciplined n _ hn
    have hstays : ∀ r, LiveRun s.world.runs r → ¬ i.stopsRun s.world.runs r →
        LiveRun (runsAfter x s.world.runs i) r := fun r => liveRun_after
    refine ⟨null_after h.null, fun m t ht => ?_, fun m t ht r hr => ?_⟩
    · rcases Pool.get_run ht with ⟨_, rfl⟩ | ⟨_, hold⟩ | ⟨child, _, _, rfl⟩
      · exact hcaller.next _
      · exact h.disciplined m t hold
      · exact (body_unburdened child).toDisciplined
    · rcases Pool.get_run ht with ⟨_, rfl⟩ | ⟨hmn, hold⟩ | ⟨child, _, _, rfl⟩
      · -- the caller: it holds what it was just given, or what it held before
        have hnostop : ¬ i.stopsRun s.world.runs r := fun hstop =>
          hcaller.releases.1 r (endsRun_of_stopsRun hstop) _ hr
        by_cases hsel : i.selectsRuns
        · exact hstays r (givesRun_live (hcaller.grants.1 hsel _ r hr)) hnostop
        · exact hstays r (h.held n _ hn r (hr.before hsel)) hnostop
      · exact hstays r (h.held m t hold r hr) fun hstop =>
          halone op i k hn r hstop m t hmn hold hr
      · exact absurd hr ((body_unburdened child).first r)

/-- What a later state owes to a stopped run of an earlier one. -/
structure StaysStopped (row : Run) (s s' : State) : Prop where
  kept : ∃ row' ∈ s'.world.runs, row'.id = row.id ∧ row'.status = row.status ∧
    row'.nextActionAt = none
  undelivered : ∀ d ∈ s'.world.deliveries, d.runID = row.id → 0 ≤ d.levelIndex →
    ∃ d₀ ∈ s.world.deliveries, d₀.place = d.place

/-- **One move leaves a stopped run alone.** -/
theorem stopped_step {s' : State} {row : Run} (h : TerminalInv s)
    (hs : step s m = some s') (hrow : row ∈ s.world.runs) (hterm : row.status.live = false) :
    StaysStopped row s s' := by
  cases m with
  | start =>
    obtain ⟨_, rfl⟩ := Pool.step_start hs
    exact ⟨⟨row, hrow, rfl, rfl, h.null row hrow hterm⟩, fun d hd _ _ => ⟨d, hd, rfl⟩⟩
  | run n x =>
    obtain ⟨op, i, k, hn, rfl⟩ := Pool.step_run hs
    -- a writer of the run would hold it, and it would be live
    have hw : ¬ i.writesRun row.id := fun hw => by
      have hlive := h.held n _ hn row.id (Or.inl hw) row hrow rfl
      rw [hterm] at hlive
      cases hlive
    obtain ⟨row', hrow', hid, hst, hnext⟩ := stopped_after hrow hterm hw
    refine ⟨⟨row', hrow', hid, hst, hnext.trans (h.null row hrow hterm)⟩,
      fun d hd hrun hlevel => ?_⟩
    rcases deliveriesAfter_new hd with hold | ⟨runID, levelIndex, _, _, rfl, rfl⟩
    · exact hold
    · exact absurd ⟨hrun, hlevel⟩ hw

/-- **A terminal status is absorbing in every run that stops a run only while no other thread
    holds it**: the status stays, next_action_at stays NULL, and no level delivery of the run is
    inserted any more. -/
theorem terminal_absorbing {w₀ : World} {s s' : State} {row : Run}
    (h0 : ∀ row ∈ w₀.runs, row.status.live = false → row.nextActionAt = none)
    (hs : Reach step Alone (State.idle w₀) s) (hs' : Reach step Alone s s')
    (hrow : row ∈ s.world.runs) (hterm : row.status.live = false) : StaysStopped row s s' := by
  have hidle : TerminalInv (State.idle w₀) :=
    ⟨h0, fun n t ht => by simp [State.idle] at ht, fun n t ht => by simp [State.idle] at ht⟩
  have hinv : ∀ {u}, Reach step Alone s u → TerminalInv u := fun hu =>
    (hs.trans hu).inv hidle fun _ _ _ hi hok hst => terminalInv_step hi hok hst
  induction hs' with
  | start =>
    exact ⟨⟨row, hrow, rfl, rfl, (hinv .start).null row hrow hterm⟩, fun d hd _ _ => ⟨d, hd, rfl⟩⟩
  | next _ _ _ hu _ hstep ih =>
    obtain ⟨⟨row₁, hrow₁, hid, hst, _⟩, hdel⟩ := ih
    have hnext := stopped_step (hinv hu) hstep hrow₁ (hst ▸ hterm)
    obtain ⟨⟨row₂, hrow₂, hid₂, hst₂, hnull⟩, hdel₂⟩ := hnext
    refine ⟨⟨row₂, hrow₂, hid₂.trans hid, hst₂.trans hst, hnull⟩, fun d hd hrun hlevel => ?_⟩
    obtain ⟨d₁, hd₁, e⟩ := hdel₂ d hd (hrun.trans hid.symm) hlevel
    have erun : d₁.runID = d.runID := congrArg (·.2.1) e
    have elevel : d₁.levelIndex = d.levelIndex := congrArg (·.2.2.1) e
    obtain ⟨d₀, hd₀, e₀⟩ := hdel d₁ hd₁ (erun.trans hrun) (elevel ▸ hlevel)
    exact ⟨d₀, hd₀, e₀.trans e⟩

/-! ## 4. Two runs -/

theorem alone_of_sole (h : sole s m = true) : Alone s m := by
  cases m with
  | start => exact trivial
  | run =>
    intro op i k hn r hstop m t hmn ht hheld
    obtain ⟨op', rfl⟩ := finished_of_sole h hmn ht
    exact hheld

/-- The alert is acknowledged while nothing else is in progress. -/
def ackFirst : List Move :=
  [.start (.onAlertAcknowledged "a1" ⟨"op", "t"⟩), .run 0 {}, .run 0 {}, .run 0 {}, .run 0 {}]

/-- Then a cycle passes. -/
def cycleAfter : List Move := [.start .evaluateCycle, .run 1 {}, .run 1 {}, .run 1 {}]

/-- An acknowledged run is stopped and stays so through the next cycle. -/
theorem acknowledged_run_stays_stopped :
    StaysStopped (sampleRun.stopped .stoppedByAck (60 * second))
      (runList step (State.idle sampleWorld) ackFirst)
      (runList step (runList step (State.idle sampleWorld) ackFirst) cycleAfter) :=
  have h0 : ∀ row ∈ sampleWorld.runs, row.status.live = false → row.nextActionAt = none := by
    decide
  terminal_absorbing h0
    (reach_of_runOk (fun _ _ => alone_of_sole) ackFirst _ (by decide))
    (reach_of_runOk (fun _ _ => alone_of_sole) cycleAfter _ (by decide))
    (by decide) rfl

/-- A cycle has selected the run and asked for its alert when the acknowledgment stops it. -/
def ackDuringCycle : List Move :=
  [.start .evaluateCycle, .run 0 {}, .run 0 {}, .run 0 {}, .run 0 {}, .run 0 {},
    .start (.onAlertAcknowledged "a1" ⟨"op", "t"⟩), .run 1 {}, .run 1 {}, .run 1 {}, .run 1 {}]

/-- The cycle goes on with its copy. -/
def cycleGoesOn : List Move :=
  [.run 0 {}, .run 0 channelUp, .run 0 { newID := "d1" }, .run 0 {}, .run 0 {}]

/-- **An acknowledged run comes back to life**: the cycle that selected it before delivers its
    level and writes the status 'active' over 'stopped_by_ack'. -/
theorem acknowledged_run_resurrected :
    ∃ s s', Reach step anyStep (State.idle sampleWorld) s ∧ Reach step anyStep s s' ∧
      (s.world.runs.rows.map fun r => (r.id, r.status, r.nextActionAt)) =
        [("r1", .stoppedByAck, none)] ∧
      (s'.world.runs.rows.map fun r => (r.id, r.status, r.nextActionAt)) =
        [("r1", .active, some 180)] ∧
      (s.world.deliveries.table.rows.map Delivery.place) = [] ∧
      (s'.world.deliveries.table.rows.map Delivery.place) = [("d1", "r1", 0, some "ch")] :=
  ⟨runList step (State.idle sampleWorld) ackDuringCycle, _, reach_of_runList _ _,
    reach_of_runList cycleGoesOn _, by decide, by decide, by decide, by decide⟩

end Maintenant.Escalation
