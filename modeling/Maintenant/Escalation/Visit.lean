/-
  File:      Maintenant/Escalation/Visit.lean
  Subject:   WHAT A PASS DOES TO ONE RUN.

  `view r w` is all that concerns run `r` in the world: its row, the notes about it, the levels
  and channels of its deliveries. `Visit` is the automaton of a run: the ways one pass of
  `EvaluateCycle` may change its view, each under the condition the code checks.

  * `view_frame`: a request that does not concern the run leaves its view as it is;
  * `evaluateCycle_visits`: a pass run on its own is one visit of every run, at the pass's
    clock value, whatever fails and whatever the suppressor and the channels answer.
-/
import Maintenant.Escalation.Calls

namespace Maintenant.Escalation

open GoTime Prog
open Alerting (Alert)

/-! ## 1. The view of a run -/

def Mark.runID : Mark → String
  | .executed runID _ _ => runID
  | .suppressed runID => runID

/-- Level and channel of a delivery of the run. -/
def Delivery.slotOf (r : String) (d : Delivery) : Option (Int × Option String) :=
  if d.runID = r then some (d.levelIndex, d.channelID) else none

/-- What concerns one run. -/
structure View where
  row : Option Run
  marks : List Mark
  slots : List (Int × Option String)

def marksOf (r : String) (marks : List Mark) : List Mark := marks.filter fun m => m.runID == r

def slotsOf (r : String) (t : Deliveries) : List (Int × Option String) :=
  t.table.rows.filterMap (Delivery.slotOf r)

def view (r : String) (w : World) : View where
  row := w.runs.get r
  marks := marksOf r w.marks
  slots := slotsOf r w.deliveries

def View.mark (v : View) (m : Mark) : View := { v with marks := v.marks ++ [m] }

/-- New deliveries of a level. -/
def View.deliver (v : View) (levelIndex : Int) (channelIDs : List (Option String)) : View :=
  { v with slots := v.slots ++ channelIDs.map fun ch => (levelIndex, ch) }

/-- A write of the row, which may fail. -/
def View.write (v : View) (ok : Bool) (run : Run) : View :=
  if ok then { v with row := some run } else v

/-! ## 2. The automaton -/

variable {now : Time} {v : View}

/-- The run is live and due. -/
structure Due (now : Time) (v : View) (run : Run) : Prop where
  row : v.row = some run
  live : run.status.live = true
  due : run.dueBy now = true

def Run.paused (run : Run) (now : Time) : Run :=
  { run with
    status := .pausedByMaintenance
    nextActionAt := some (unix (now + maintenanceRecheck)) }

def Run.resumed (run : Run) (now : Time) : Run :=
  { run with status := .active, nextActionAt := some (unix now) }

def Run.progressed (run : Run) (policy : Policy) (now : Time) : Run :=
  { run with
    lastExecutedLevelIndex := run.lastExecutedLevelIndex + 1
    nextActionAt :=
      some (unix (nextActionTime policy.levels (run.lastExecutedLevelIndex + 1) now))
    status := .active }

/-- The ways a pass at `now` may change the view of a run. -/
inductive Visit (now : Time) : View → View → Prop where
  | untouched (v : View) : Visit now v v
  | stopped (v : View) (run : Run) (ok : Bool) (status : RunStatus) (hdue : Due now v run)
      (hs : status ≠ .exhausted) (hl : status.live = false) :
      Visit now v (v.write ok (run.stopped status now))
  | suppressed (v : View) (run : Run) (ok : Bool) (hdue : Due now v run) :
      Visit now v ((v.mark (.suppressed run.id)).write ok (run.paused now))
  | resumed (v : View) (run : Run) (ok : Bool) (hdue : Due now v run)
      (hs : run.status = .pausedByMaintenance) :
      Visit now v (v.write ok (run.resumed now))
  | executed (v : View) (run : Run) (ok : Bool) (policy : Policy) (level : Level)
      (channelIDs : List (Option String)) (hdue : Due now v run)
      (hp : run.policySnapshot = some policy)
      (hlevel : levelAt policy.levels (run.lastExecutedLevelIndex + 1) = some level) :
      Visit now v (((v.mark (.executed run.id (run.lastExecutedLevelIndex + 1) now)).deliver
        (run.lastExecutedLevelIndex + 1) channelIDs).write ok (run.progressed policy now))
  | exhausted (v : View) (run : Run) (ok : Bool) (policy : Policy)
      (channelIDs : List (Option String)) (hdue : Due now v run)
      (hp : run.policySnapshot = some policy)
      (hlast : policy.levels.length ≤ run.lastExecutedLevelIndex + 1) :
      Visit now v ((v.deliver specialLevelExhausted channelIDs).write ok
        (run.stopped .exhausted now))

/-- A run that is not live is left alone. -/
theorem Visit.eq_of_dead {v' : View} {run' : Run} (hv : Visit now v v') (hrow : v'.row = some run')
    (hdead : ∀ run, v.row = some run → run.alertID = run'.alertID → run.status.live = false) : v' = v := by
  have hlive : ∀ {run}, Due now v run → run.alertID = run'.alertID → False := fun hdue e =>
    absurd ((hdead _ hdue.row e).symm.trans hdue.live) Bool.false_ne_true
  -- every visit that changes something is of a live run and keeps its alert
  have hwrite : ∀ {run run₁ : Run} {v₁ : View} {ok : Bool}, Due now v run →
      v' = v₁.write ok run₁ → v₁.row = v.row → run₁.alertID = run.alertID → v' = v := by
    intro run run₁ v₁ ok hdue e hsame hid
    refine (hlive hdue ?_).elim
    rw [e] at hrow
    cases ok with
    | false =>
      have hrun : v₁.row = some run' := hrow
      rw [hsame, hdue.row] at hrun
      exact congrArg Run.alertID (Option.some.inj hrun)
    | true =>
      have hrun : some run₁ = some run' := hrow
      exact hid.symm.trans (congrArg Run.alertID (Option.some.inj hrun))
  cases hv with
  | untouched => rfl
  | stopped _ _ _ hdue | suppressed _ _ hdue | resumed _ _ hdue | executed _ _ _ _ _ hdue | exhausted _ _ _ _ hdue =>
    exact hwrite hdue rfl rfl rfl

/-! ## 3. What a request does to a view -/

/-- The request may write the row of run `r`. -/
def Request.writesRow : Request → String → Prop
  | .updateRunProgress runID .., r | .terminateRun runID .., r
  | .pauseRunForMaintenance runID _, r | .resumeRunFromMaintenance runID _, r => runID = r
  | .insertRun .., _ | .stopRunsOfPolicy .., _ | .deletePolicyRow _, _
  | .bulkStopActiveRuns .., _ => True
  | _, _ => False

/-- The request may note something about run `r`. -/
def Request.notes : Request → String → Prop
  | .levelClock runID .., r | .isSuppressed runID .., r => runID = r
  | _, _ => False

/-- The request may insert a delivery of run `r`. -/
def Request.inserts : Request → String → Prop
  | .insertDelivery runID .., r => runID = r
  | _, _ => False

/-- The request may change the view of run `r`. -/
def Request.concerns (i : Request) (r : String) : Prop :=
  i.writesRow r ∨ i.notes r ∨ i.inserts r

section Request

variable {x : Choice} {w : World} {r : String} {i : Request}

theorem view_handle : view r (handle x w i).2 =
    ⟨(runsAfter x w.runs i).get r, marksOf r (marksAfter x w.marks i),
      slotsOf r (deliveriesAfter x w.deliveries i)⟩ := rfl

theorem row_frame {t : RunTable} (hi : ¬ i.writesRow r) : (runsAfter x t i).get r = t.get r := by
  unfold runsAfter
  split
  · rfl
  · cases i with
    | updateRunProgress | terminateRun =>
      refine Table.get_update_of_not fun row hrow => beq_eq_false_iff_ne.mpr fun e => hi ?_
      exact e.symm.trans hrow
    | pauseRunForMaintenance | resumeRunFromMaintenance =>
      refine Table.get_update_of_not fun row hrow => ?_
      rw [Bool.and_eq_false_iff]
      exact Or.inl (beq_eq_false_iff_ne.mpr fun e => hi (e.symm.trans hrow))
    | insertRun | stopRunsOfPolicy | deletePolicyRow | bulkStopActiveRuns =>
      exact absurd trivial hi
    | _ => rfl

/-- A request that writes no row leaves the table as it is. -/
theorem runs_frame (hi : ∀ r, ¬ i.writesRow r) : (handle x w i).2.runs = w.runs := by
  show runsAfter x w.runs i = w.runs
  unfold runsAfter
  split
  · rfl
  · cases i with
    | updateRunProgress runID | terminateRun runID | pauseRunForMaintenance runID
    | resumeRunFromMaintenance runID => exact absurd rfl (hi runID)
    | insertRun | stopRunsOfPolicy | deletePolicyRow | bulkStopActiveRuns =>
      exact absurd trivial (hi "")
    | _ => rfl

theorem marks_frame {marks : List Mark} (hi : ¬ i.notes r) : marksOf r (marksAfter x marks i) = marksOf r marks := by
  cases i with
  | levelClock runID =>
    have hne : (runID == r) = false := beq_eq_false_iff_ne.mpr hi
    simp [marksAfter, marksOf, Mark.runID, hne]
  | isSuppressed runID =>
    have hne : (runID == r) = false := beq_eq_false_iff_ne.mpr hi
    cases hx : x.suppressed <;> simp [marksAfter, marksOf, Mark.runID, hne, hx]
  | _ => rfl

theorem slots_update {t : Deliveries} {id : String} {status : DeliveryStatus}
    {sentAt : Option Time} : slotsOf r (t.update id status sentAt) = slotsOf r t := by
  show (t.table.rows.map _).filterMap _ = _
  rw [List.filterMap_map]
  refine List.filterMap_congr fun d _ => ?_
  simp only [Function.comp]
  split <;> rfl

theorem slots_insert {t t' : Deliveries} {d : Delivery} (h : t.insert d = some t') :
    slotsOf r t' = slotsOf r t ++ (d.slotOf r).toList := by
  unfold slotsOf
  rw [Table.rows_insert (Deliveries.insert_table h), List.filterMap_append]
  cases hd : d.slotOf r <;> simp [hd]

theorem slots_frame {t : Deliveries} (hi : ¬ i.inserts r) : slotsOf r (deliveriesAfter x t i) = slotsOf r t := by
  have hstep := delivered x t i
  generalize deliveriesAfter x t i = t' at hstep ⊢
  cases hstep with
  | same => rfl
  | @inserted runID _ _ _ _ hins =>
    have hne : runID ≠ r := hi
    simp [slots_insert hins, Delivery.slotOf, newDelivery, hne]
  | updated => exact slots_update

/-- **A request that does not concern the run leaves its view as it is.** -/
theorem view_frame (hi : ¬ i.concerns r) : view r (handle x w i).2 = view r w := by
  obtain ⟨hrow, hnote, hins⟩ : ¬ i.writesRow r ∧ ¬ i.notes r ∧ ¬ i.inserts r :=
    ⟨fun h => hi (Or.inl h), fun h => hi (Or.inr (Or.inl h)), fun h => hi (Or.inr (Or.inr h))⟩
  rw [view_handle, row_frame hrow, marks_frame hnote, slots_frame hins]
  rfl

variable {levelIndex : Int} {t : Time}

theorem view_levelClock : view r (handle x w (.levelClock r levelIndex t)).2 =
      (view r w).mark (.executed r levelIndex t) := by
  rw [view_handle, row_frame id, slots_frame id]
  simp [marksAfter, marksOf, View.mark, view, Mark.runID]

/-- An insert adds one slot, or is refused. -/
theorem view_insertDelivery {ch : String} : ∃ added, view r (handle x w (.insertDelivery r levelIndex ch t)).2 =
      (view r w).deliver levelIndex added := by
  have hsame : (view r w).deliver levelIndex [] = view r w := by simp [View.deliver]
  rw [view_handle, row_frame id, marks_frame id]
  have hstep := delivered x w.deliveries (.insertDelivery r levelIndex ch t)
  generalize deliveriesAfter x w.deliveries _ = t' at hstep ⊢
  cases hstep with
  | same => exact ⟨[], hsame.symm⟩
  | inserted hins =>
    refine ⟨[some ch], ?_⟩
    simp [slots_insert hins, Delivery.slotOf, newDelivery, View.deliver, view]

theorem run_id_eq {run : Run} (hrow : (view r w).row = some run) : run.id = r := (Table.get_eq_some.mp hrow).2

end Request

/-! ## 4. A pass is a visit -/

section Pass

variable {ok : Choice → Request → Bool} {r : String} {w : World}

/-- The clock only goes forward. -/
theorem wp_clock {α : Type} (p : Prog Request Answer α) {t : Time} (h : t ≤ w.now) :
    wp handle ok p (fun _ w' => t ≤ w'.now) w := by
  refine wp_always (fun i _ x w' _ hw' => ?_) (always_of_forall (fun _ => trivial) p) h
  show t ≤ w'.now + x.elapsed
  exact hw'.trans (Int.le_add_of_nonneg_right (Int.natCast_nonneg _))

/-- Code about other runs. -/
theorem wp_frame {p : Code} (hp : p.Always fun i => ¬ i.concerns r)
    (h : view r w = v) : wp handle ok p (fun _ w' => view r w' = v) w :=
  wp_always (I := fun w' => view r w' = v) (fun _ hi _ _ _ hv => (view_frame hi).trans hv)
    hp h

variable {a : Alert}

/-- The channels of a level in turn: new slots of that level and nothing else. -/
theorem wp_dispatch {levelIndex : Int} {channelIDs : List String} (h : view r w = v) :
    wp handle ok (forEach (dispatchToChannel r levelIndex a now) channelIDs)
      (fun _ w' => ∃ added, view r w' = v.deliver levelIndex added) w := by
  have hcalls : Dispatches (fun i => ¬ i.concerns r ∨
      ∃ ch t, i = .insertDelivery r levelIndex ch t) r levelIndex :=
    ⟨fun _ => Or.inl (by rintro (h | h | h) <;> exact h), fun ch t => Or.inr ⟨ch, t, rfl⟩,
      fun _ _ _ => Or.inl (by rintro (h | h | h) <;> exact h),
      fun _ _ _ => Or.inl (by rintro (h | h | h) <;> exact h)⟩
  refine wp_always ?_
    (always_forEach (dispatchToChannel_always hcalls a now)) ⟨[], by simp [h, View.deliver]⟩
  rintro i (hi | ⟨ch, t, rfl⟩) x w' - ⟨added, hv⟩
  · exact ⟨added, (view_frame hi).trans hv⟩
  · obtain ⟨more, hmore⟩ : ∃ more, view r (handle x w' (.insertDelivery r levelIndex ch t)).2 =
        (view r w').deliver levelIndex more := view_insertDelivery
    exact ⟨added ++ more, by rw [hmore, hv]; simp [View.deliver]⟩

/-- The request is about no run. -/
theorem not_concerns {i : Request} (h1 : ¬ i.writesRow r) (h2 : ¬ i.notes r) (h3 : ¬ i.inserts r) :
    ¬ i.concerns r := by
  rintro (h | h | h)
  · exact h1 h
  · exact h2 h
  · exact h3 h

/-- The write of a row that meets its condition, with which a visit ends: `v` is what it has come to by then. -/
theorem wp_write {w' : World} {v : View} {run run' : Run} {now : Time} {i : Request} {p : Run → Bool}
    {f : Run → Run} {hf : ∀ row, (f row).id = row.id} (hv : view r w' = v) (hrow : v.row = some run)
    (hw : ∀ x : Choice, runsAfter x w'.runs i = if x.fails then w'.runs else w'.runs.update p f hf)
    (hp : p run = true) (hrun : f run = run') (hn : ¬ i.notes r) (hins : ¬ i.inserts r)
    (hvisit : ∀ wrote, Visit now (view r w) (v.write wrote run')) :
    wp handle ok (tell i) (fun _ w'' => Visit now (view r w) (view r w'')) w' := by
  subst hv hrun
  intro x _
  have hget : w'.runs.get r = some run := hrow
  have hview : view r (handle x w' i).2 = (view r w').write (!x.fails) (f run) := by
    rw [view_handle, hw, marks_frame hn, slots_frame hins]
    cases hx : x.fails with
    | true => rfl
    | false =>
      show View.mk ((w'.runs.update p f hf).get r) _ _ = View.mk (some (f run)) _ _
      rw [Table.get_update, hget, Option.map_some, if_pos hp]
      rfl
  show Visit now (view r w) (view r (handle x w' i).2)
  rw [hview]
  exact hvisit _

section Due

variable {run : Run} {now : Time} (hdue : Due now (view r w) run)

include hdue

theorem wp_exhaust {policy : Policy} (hp : run.policySnapshot = some policy)
    (hlast : policy.levels.length ≤ run.lastExecutedLevelIndex + 1) :
    wp handle ok (exhaust run policy a now) (fun _ w' => Visit now (view r w) (view r w')) w := by
  obtain rfl : run.id = r := run_id_eq hdue.row
  have hnotice : wp handle ok (notifyExhausted run policy a)
      (fun _ w' => ∃ added, view run.id w' =
        (view run.id w).deliver specialLevelExhausted added) w := by
    unfold notifyExhausted
    split
    · exact ⟨[], by simp [View.deliver]⟩
    · exact fun x _ => wp_dispatch (view_frame (not_concerns id id id))
  refine wp_bind.mpr (wp_mono (fun _ w' hw' => ?_) hnotice)
  obtain ⟨added, hv⟩ := hw'
  exact wp_write hv hdue.row (fun _ => rfl) (by simp) rfl id id fun _ => .exhausted _ run _ policy added hdue hp hlast

theorem wp_advance {policy : Policy} (hp : run.policySnapshot = some policy) :
    wp handle ok (advance run policy a now) (fun _ w' => Visit now (view r w) (view r w')) w := by
  obtain rfl : run.id = r := run_id_eq hdue.row
  unfold advance
  dsimp only
  split
  · rename_i hlast
    exact wp_exhaust hdue hp hlast
  · split
    · exact .untouched _
    · rename_i level hlevel
      refine wp_bind.mpr fun x _ => wp_mono (fun _ w' hw' => ?_)
        (wp_dispatch view_levelClock)
      obtain ⟨added, hv⟩ := hw'
      exact wp_write hv hdue.row (fun _ => rfl) (by simp) rfl id id fun _ =>
        .executed _ run _ policy level added hdue hp hlevel

theorem wp_stop {w' : World} (status : RunStatus) (hv : view r w' = view r w)
    (hs : status ≠ .exhausted) (hl : status.live = false) : wp handle ok (tell (.terminateRun run.id status now))
      (fun _ w'' => Visit now (view r w) (view r w'')) w' :=
  wp_write hv hdue.row (fun _ => rfl) (by simp) rfl id id fun _ => .stopped _ run _ status hdue hs hl

theorem wp_processRun : wp handle ok (processRun now run) (fun _ w' => Visit now (view r w) (view r w')) w := by
  obtain rfl : run.id = r := run_id_eq hdue.row
  refine wp_ask.mpr fun x _ => ?_
  -- loading the alert changes nothing
  have hv : view run.id (handle x w (.getAlert run.alertID)).2 = view run.id w :=
    view_frame (not_concerns id id id)
  generalize (handle x w (.getAlert run.alertID)).2 = w₁ at hv ⊢
  generalize (handle x w (.getAlert run.alertID)).1 = res
  rcases res with _ | _ | a
  · exact hv ▸ .untouched _
  · exact wp_stop hdue .stoppedByResolution hv (by decide) (by decide)
  · dsimp only
    split
    · refine wp_ask.mpr fun y _ => ?_
      have hq : view run.id (handle y w₁ (.isSuppressed run.id a.source a.entityType
          a.entityID)).2 = if y.suppressed then (view run.id w).mark (.suppressed run.id)
            else view run.id w := by
        rw [← hv, view_handle, row_frame id, slots_frame id]
        cases hx : y.suppressed <;> simp [marksAfter, marksOf, View.mark, view, Mark.runID, hx]
      have hans : (handle y w₁ (.isSuppressed run.id a.source a.entityType a.entityID)).1 =
        y.suppressed := rfl
      rw [hans]
      generalize (handle y w₁ (.isSuppressed run.id a.source a.entityType a.entityID)).2 = w₂
        at hq ⊢
      cases hsup : y.suppressed with
      | true =>
        rw [hsup, if_pos rfl] at hq
        exact wp_write hq hdue.row (fun _ => rfl) (by simp [hdue.live]) rfl id id fun _ => .suppressed _ run _ hdue
      | false =>
        rw [hsup, if_neg Bool.false_ne_true] at hq
        rw [if_neg Bool.false_ne_true, ← hq]
        have hdue₂ : Due now (view run.id w₂) run := hq ▸ hdue
        split
        · rename_i hpaused
          exact wp_write rfl hdue₂.row (fun _ => rfl) (by simp [hpaused]) rfl id id fun _ =>
            .resumed _ run _ hdue₂ hpaused
        · split
          · exact wp_stop hdue₂ .stoppedByPolicyDeletion rfl (by decide) (by decide)
          · rename_i policy hp
            exact wp_advance hdue₂ hp
    · exact wp_stop hdue .stoppedByResolution hv (by decide) (by decide)

end Due

theorem recoverOrphans_frame (now : Time) : (recoverOrphans now).Always fun i => ¬ i.concerns r := by
  refine recoverOrphans_always (fun _ => not_concerns id id id) fun d => ?_
  exact ⟨fun _ => not_concerns id id id, fun _ => not_concerns id id id, fun _ => not_concerns id id id,
    fun _ _ => not_concerns id id id, not_concerns id id id⟩

theorem processRun_frame {run : Run} (hne : run.id ≠ r) (now : Time) :
    (processRun now run).Always fun i => ¬ i.concerns r :=
  processRun_always (P := fun i => ¬ i.concerns r)
    ⟨fun _ => ⟨fun _ => not_concerns id id id, fun _ _ => not_concerns id id hne,
        fun _ _ _ => not_concerns id id id, fun _ _ _ => not_concerns id id id⟩,
      not_concerns id id id, fun _ _ => not_concerns id hne id, fun _ => not_concerns id id id,
      fun _ _ _ => not_concerns id hne id, fun _ _ => not_concerns hne id id,
      fun _ _ => not_concerns hne id id, fun _ => not_concerns hne id id,
      fun _ => not_concerns hne id id⟩ now

/-- The runs of a pass in turn. The run itself is among them at most once; the others leave its
    view alone. -/
theorem wp_runs {runs : List Run} (hnd : (runs.map Run.id).Nodup)
    (hdue : ∀ run ∈ runs, run.id = r → Due now (view r w) run) : wp handle ok (forEach (processRun now) runs)
      (fun _ w' => Visit now (view r w) (view r w')) w := by
  refine wp_mono (fun _ w' h => h.2.2) (wp_forEach
    (I := fun rest w' => (rest.map Run.id).Nodup ∧
      (∀ run ∈ rest, run.id = r → Due now (view r w) run ∧ view r w' = view r w) ∧
        Visit now (view r w) (view r w')) ?_
    ⟨hnd, fun run hrun hid => ⟨hdue run hrun hid, rfl⟩, .untouched _⟩)
  intro run rest w' hI
  obtain ⟨hnd', hrest, hvisit⟩ := hI
  rw [List.map_cons, List.nodup_cons] at hnd'
  by_cases hid : run.id = r
  · obtain ⟨hrun, hv⟩ := hrest run List.mem_cons_self hid
    have hgone : ∀ other ∈ rest, other.id ≠ r := fun other ho e =>
      hnd'.1 (hid ▸ e ▸ List.mem_map_of_mem ho)
    rw [← hv] at hrun
    refine wp_mono (fun _ w'' h => ⟨hnd'.2, fun other ho e => absurd e (hgone other ho),
      hv ▸ h⟩) (wp_processRun hrun)
  · refine wp_mono (fun _ w'' h => ⟨hnd'.2, fun other ho e => ?_, ?_⟩)
      (wp_frame (processRun_frame hid now) rfl)
    · obtain ⟨hother, hv⟩ := hrest other (List.mem_cons_of_mem run ho) e
      exact ⟨hother, h.trans hv⟩
    · rw [h]
      exact hvisit

/-- **A pass is a visit of the run, at a clock value between the pass's start and its end.** -/
theorem evaluateCycle_visits : wp handle ok evaluateCycle
      (fun _ w' => ∃ now, w.now ≤ now ∧ now ≤ w'.now ∧ Visit now (view r w) (view r w')) w := by
  refine wp_ask.mpr fun x _ => ?_
  have hv : view r (handle x w .clock).2 = view r w := view_frame (not_concerns id id id)
  have hnow : (handle x w .clock).1 = (handle x w .clock).2.now := rfl
  have hle : w.now ≤ (handle x w .clock).2.now :=
    Int.le_add_of_nonneg_right (Int.natCast_nonneg _)
  rw [hnow]
  generalize (handle x w .clock).2 = w₁ at hv hle ⊢
  refine wp_mono (fun _ w' h => ⟨w₁.now, hle, h⟩)
    (wp_and (wp_clock _ le_rfl) (wp_bind.mpr ?_))
  refine wp_mono (fun _ w₂ hv₂ => ?_) (wp_frame (recoverOrphans_frame w₁.now) hv)
  refine wp_ask.mpr fun y _ => ?_
  have hv₃ : view r (handle y w₂ (.selectDueRuns w₁.now)).2 = view r w :=
    (view_frame (not_concerns id id id)).trans hv₂
  generalize (handle y w₂ (.selectDueRuns w₁.now)).2 = w₃ at hv₃ ⊢
  split
  · exact hv₃ ▸ .untouched _
  · rename_i runs hsome
    simp only [handle, answer] at hsome
    split at hsome
    · cases hsome
    · cases hsome
      refine hv₃ ▸ wp_runs (selectDueRuns w₂.runs w₁.now).property fun run hrun hid => ?_
      obtain ⟨hmem, hp⟩ := Table.mem_select.mp hrun
      obtain ⟨hlive, hby⟩ := Bool.and_eq_true_iff.mp hp
      refine ⟨?_, hlive, hby⟩
      rw [hv₃, ← hv₂]
      exact Table.get_eq_some.mpr ⟨hmem, hid⟩

end Pass

end Maintenant.Escalation
