/-
  File:      Maintenant/Escalation/Progress.lean
  Subject:   A RUN CLIMBS ITS LEVELS IN ORDER, each no earlier than its delay after the one before.

  The automaton of a run (Visit.lean) keeps `Ladder`: the executions noted so far climb from
  level 0, and the row's cursor stands at the last of them or, when its progress was not
  recorded, one below. A pause and a resumption move `next_action_at` to the pass's own clock
  value or later, never back before the delay.

  * `escalation_progress`: over any sequence of passes, with any failures and any answers of
    suppressor and channels, and with the alerts changing in between;
  * `level_starts_early`: `next_action_at` is stored in whole seconds and compared with whole
    seconds, so that counted in nanoseconds a level may come up to a second early.
-/
import Maintenant.Escalation.Visit
import Mathlib.Data.List.Chain

namespace Maintenant.Escalation

open GoTime Runs
open Alerting (AlertTable)

/-! ## 1. The history of a run -/

/-- Level and pass time of an execution. -/
def Mark.execution : Mark → Option (Int × Time)
  | .executed _ levelIndex passAt => some (levelIndex, passAt)
  | .suppressed _ => none

def View.history (v : View) : List (Int × Time) := v.marks.filterMap Mark.execution

/-- From level 0 upwards: the same level again, or the next one. -/
def Climbs (levels : List Int) : Prop :=
  (∀ l ∈ levels.head?, l = 0) ∧ levels.IsChain fun l l' => l' = l ∨ l' = l + 1

theorem climbs_append {levels : List Int} {l : Int} (h : Climbs levels)
    (hl : (levels = [] ∧ l = 0) ∨ ∃ last ∈ levels.getLast?, l = last ∨ l = last + 1) :
    Climbs (levels ++ [l]) := by
  obtain ⟨hhead, hchain⟩ := h
  rcases hl with ⟨rfl, rfl⟩ | ⟨last, hlast, hl⟩
  · exact ⟨by simp, .singleton _⟩
  · refine ⟨fun k hk => hhead k ?_, List.isChain_append.mpr ⟨hchain, .singleton _, ?_⟩⟩
    · cases levels with
      | nil => cases hlast
      | cons => exact hk
    · intro x hx y hy
      cases hlast.symm.trans hx
      cases hy
      exact hl

/-- What holds of the view of a run of `policy`. -/
structure Progress (policy : Policy) (v : View) : Prop where
  inOrder : Climbs (v.history.map Prod.fst)
  inRange : ∀ e ∈ v.history, 0 ≤ e.1 ∧ e.1 < policy.levels.length
  separated : ∀ i t t' level, (i, t) ∈ v.history → (i + 1, t') ∈ v.history →
    levelAt policy.levels (i + 1) = some level → FitsDuration level.delaySeconds →
      unix t + level.delaySeconds ≤ unix t'
  dispatched : ∀ s ∈ v.slots, 0 ≤ s.1 → ∃ t, (s.1, t) ∈ v.history
  exhausted : ∀ run, v.row = some run → run.status = .exhausted →
    ∃ t, ((policy.levels.length : Int) - 1, t) ∈ v.history

/-! ## 2. The ladder -/

/-- The cursor of the row against the history. -/
structure Ladder (policy : Policy) (T : Time) (v : View) (run : Run) : Prop
    extends Progress policy v where
  row : v.row = some run
  snapshot : run.policySnapshot = some policy
  past : ∀ e ∈ v.history, e.2 ≤ T
  top : ∀ e ∈ v.history, e.1 ≤ run.lastExecutedLevelIndex + 1
  cursor : (v.history.map Prod.fst = [] ∧ run.lastExecutedLevelIndex = -1) ∨
    ∃ last ∈ (v.history.map Prod.fst).getLast?,
      run.lastExecutedLevelIndex = last ∨ run.lastExecutedLevelIndex + 1 = last
  rest : run.status.live = true → ∀ due, run.nextActionAt = some due →
    ∀ t level, (run.lastExecutedLevelIndex, t) ∈ v.history →
      levelAt policy.levels (run.lastExecutedLevelIndex + 1) = some level →
        FitsDuration level.delaySeconds → unix t + level.delaySeconds ≤ due

section Ladder

variable {policy : Policy} {T now : Time} {v v' : View} {run run' : Run}

/-- A live row that keeps its cursor and is not due earlier, or a stopped one. -/
theorem Ladder.keep (h : Ladder policy T v run) (hT : T ≤ now) (hrow : v'.row = some run')
    (hhist : v'.history = v.history) (hslots : ∀ s ∈ v'.slots, 0 ≤ s.1 → s ∈ v.slots)
    (hsnap : run'.policySnapshot = run.policySnapshot) (hcur : run'.lastExecutedLevelIndex = run.lastExecutedLevelIndex)
    (hdue : run'.status.live = true → run.status.live = true ∧
      ∀ due', run'.nextActionAt = some due' → ∃ due, run.nextActionAt = some due ∧ due ≤ due')
    (hexh : run'.status = .exhausted →
      ∃ t, ((policy.levels.length : Int) - 1, t) ∈ v.history) : Ladder policy now v' run' := by
  refine ⟨⟨?_, ?_, ?_, ?_, ?_⟩, hrow, hsnap.trans h.snapshot, ?_, ?_, ?_, ?_⟩ <;> rw [hhist]
  · exact h.inOrder
  · exact h.inRange
  · exact h.separated
  · exact fun s hs h0 => h.dispatched s (hslots s hs h0) h0
  · intro row hr hs
    cases hrow.symm.trans hr
    exact hexh hs
  · exact fun e he => (h.past e he).trans hT
  · exact hcur ▸ h.top
  · exact hcur ▸ h.cursor
  · intro hlive due' hdue' t level ht hlevel hfits
    obtain ⟨hl, hd⟩ := hdue hlive
    obtain ⟨due, hnext, hle⟩ := hd due' hdue'
    rw [hcur] at ht hlevel
    exact (h.rest hl due hnext t level ht hlevel hfits).trans hle

variable {r : String}

theorem history_mark_suppressed : (v.mark (.suppressed r)).history = v.history := by
  simp [View.mark, View.history, Mark.execution]

variable (h : Ladder policy T v run)

include h

/-- A run at its end has executed its last level. -/
theorem Ladder.last_executed (hn : policy.levels ≠ [])
    (hlast : policy.levels.length ≤ run.lastExecutedLevelIndex + 1) :
    ∃ t, ((policy.levels.length : Int) - 1, t) ∈ v.history := by
  have hpos := List.length_pos_iff.mpr hn
  rcases h.cursor with ⟨_, hc⟩ | ⟨last, hmem, hc⟩
  · omega
  · obtain ⟨⟨l, t⟩, he, rfl⟩ := List.mem_map.mp (List.mem_of_getLast? hmem)
    have hr := h.inRange _ he
    refine ⟨t, ?_⟩
    have hl : (policy.levels.length : Int) - 1 = l := by omega
    rw [hl]
    exact he

/-- The level above the cursor extends the history. -/
theorem Ladder.extend (hdue : Due now v run) {level : Level}
    {channelIDs : List (Option String)} (hlevel : levelAt policy.levels (run.lastExecutedLevelIndex + 1) = some level)
    (hhist : v'.history = v.history ++ [(run.lastExecutedLevelIndex + 1, now)])
    (hslots : v'.slots = v.slots ++ channelIDs.map fun ch => (run.lastExecutedLevelIndex + 1, ch))
    (hrow : v'.row = some run') (hs : run'.status.live = true) : Progress policy v' := by
  have hmem : ∀ {e}, e ∈ v'.history ↔
      e ∈ v.history ∨ e = (run.lastExecutedLevelIndex + 1, now) := by
    intro e
    rw [hhist, List.mem_append, List.mem_singleton]
  refine ⟨?_, fun e he => ?_, fun i t t' l ht ht' hl hfits => ?_, fun s hs h0 => ?_, ?_⟩
  · rw [hhist, List.map_append]
    refine climbs_append h.inOrder ?_
    rcases h.cursor with ⟨hnil, hc⟩ | ⟨last, hlast, hc⟩
    · exact Or.inl ⟨hnil, by omega⟩
    · exact Or.inr ⟨last, hlast, by omega⟩
  · rcases hmem.mp he with he | rfl
    · exact h.inRange e he
    · exact levelAt_eq_some hlevel
  · rcases hmem.mp ht' with ht' | he'
    · rcases hmem.mp ht with ht | he
      · exact h.separated i t t' l ht ht' hl hfits
      · -- nothing above the level now executed has been executed
        have htop := h.top _ ht'
        have hi : i = run.lastExecutedLevelIndex + 1 := congrArg Prod.fst he
        omega
    · obtain ⟨hi, rfl⟩ := Prod.mk.inj he'
      obtain rfl : i = run.lastExecutedLevelIndex := by omega
      have ht : (run.lastExecutedLevelIndex, t) ∈ v.history := by
        rcases hmem.mp ht with ht | he
        · exact ht
        · exact absurd (congrArg Prod.fst he) (by dsimp only; omega)
      have hby := hdue.due
      unfold Run.dueBy at hby
      split at hby
      · cases hby
      · rename_i due hnext
        exact (h.rest hdue.live due hnext t l ht hl hfits).trans (of_decide_eq_true hby)
  · rw [hslots] at hs
    rcases List.mem_append.mp hs with hs | hs
    · obtain ⟨t, ht⟩ := h.dispatched s hs h0
      exact ⟨t, hmem.mpr (Or.inl ht)⟩
    · obtain ⟨ch, _, rfl⟩ := List.mem_map.mp hs
      exact ⟨now, hmem.mpr (Or.inr rfl)⟩
  · intro row hr he
    cases hrow.symm.trans hr
    rw [he] at hs
    cases hs

/-- The next level is executed, and its progress recorded or not. -/
theorem Ladder.climb (hT : T ≤ now) (hdue : Due now v run) {level : Level} {channelIDs : List (Option String)}
    (hlevel : levelAt policy.levels (run.lastExecutedLevelIndex + 1) = some level) (ok : Bool) :
    ∃ run', Ladder policy now (((v.mark (.executed r (run.lastExecutedLevelIndex + 1) now)).deliver
      (run.lastExecutedLevelIndex + 1) channelIDs).write ok (run.progressed policy now)) run' := by
  have hhist : (v.mark (.executed r (run.lastExecutedLevelIndex + 1) now)).history =
      v.history ++ [(run.lastExecutedLevelIndex + 1, now)] := by
    simp [View.mark, View.history, Mark.execution]
  have hpast : ∀ e ∈ (v.mark (.executed r (run.lastExecutedLevelIndex + 1) now)).history,
      e.2 ≤ now ∧ e.1 ≤ run.lastExecutedLevelIndex + 1 := by
    intro e he
    rw [hhist, List.mem_append, List.mem_singleton] at he
    rcases he with he | rfl
    · exact ⟨(h.past e he).trans hT, h.top e he⟩
    · exact ⟨le_rfl, le_rfl⟩
  have hlast : run.lastExecutedLevelIndex + 1 ∈
      ((v.mark (.executed r (run.lastExecutedLevelIndex + 1) now)).history.map
        Prod.fst).getLast? := by
    rw [hhist]
    simp
  cases ok with
  | false =>
    refine ⟨run, h.extend hdue hlevel hhist rfl h.row hdue.live, h.row, h.snapshot,
      fun e he => (hpast e he).1, fun e he => (hpast e he).2,
      Or.inr ⟨_, hlast, Or.inr rfl⟩, fun hl due hnext t l ht => ?_⟩
    refine h.rest hl due hnext t l ?_
    have ht' : (run.lastExecutedLevelIndex, t) ∈
        (v.mark (.executed r (run.lastExecutedLevelIndex + 1) now)).history := ht
    rw [hhist, List.mem_append, List.mem_singleton] at ht'
    rcases ht' with ht' | he
    · exact ht'
    · exact absurd (congrArg Prod.fst he) (by dsimp only; omega)
  | true =>
    refine ⟨run.progressed policy now, h.extend hdue hlevel hhist rfl rfl rfl, rfl, h.snapshot,
      fun e he => (hpast e he).1, fun e he => (hpast e he).2.trans ?_,
      Or.inr ⟨_, hlast, Or.inl rfl⟩, fun _ due hnext t l ht hl hfits => ?_⟩
    · show _ ≤ run.lastExecutedLevelIndex + 1 + 1
      omega
    · cases hnext
      show _ ≤ unix (nextActionTime policy.levels (run.lastExecutedLevelIndex + 1) now)
      have hl' : levelAt policy.levels (run.lastExecutedLevelIndex + 1 + 1) = some l := hl
      rw [nextActionTime, hl', unix_add_seconds hfits]
      have hle := unix_mono (hpast _ ht).1
      dsimp only at hle
      omega

/-- **A visit keeps the ladder.** -/
theorem Ladder.visit (hn : policy.levels ≠ []) (hT : T ≤ now)
    (hv : Visit now v v') : ∃ run', Ladder policy now v' run' := by
  have hlater : ∀ {due : Int}, run.dueBy now = true → unix now ≤ due →
      ∃ due₀, run.nextActionAt = some due₀ ∧ due₀ ≤ due := by
    intro due hby hle
    unfold Run.dueBy at hby
    split at hby
    · cases hby
    · rename_i due₀ hnext
      exact ⟨due₀, hnext, (of_decide_eq_true hby).trans hle⟩
  have hsame : ∀ {v'' : View}, v''.row = some run → v''.history = v.history →
      (∀ s ∈ v''.slots, 0 ≤ s.1 → s ∈ v.slots) → ∃ run', Ladder policy now v'' run' :=
    fun hrow hh hs => ⟨run, h.keep hT hrow hh hs rfl rfl
      (fun hl => ⟨hl, fun due hd => ⟨due, hd, le_rfl⟩⟩) (h.exhausted run h.row)⟩
  cases hv with
  | untouched => exact hsame h.row rfl fun s hs _ => hs
  | stopped _ ok _ hdue hs hl =>
    cases hdue.row.symm.trans h.row
    cases ok with
    | false => exact hsame h.row rfl fun s hs _ => hs
    | true =>
      exact ⟨_, h.keep hT rfl rfl (fun s hs _ => hs) rfl rfl
        (fun hlive => absurd (hl.symm.trans hlive) Bool.false_ne_true)
        fun he => absurd he hs⟩
  | suppressed _ ok hdue =>
    cases hdue.row.symm.trans h.row
    cases ok with
    | false => exact hsame h.row history_mark_suppressed fun s hs _ => hs
    | true =>
      refine ⟨_, h.keep hT rfl history_mark_suppressed (fun s hs _ => hs) rfl rfl
        (fun _ => ⟨hdue.live, fun due' hd => hlater hdue.due ?_⟩) nofun⟩
      cases hd
      exact unix_mono (Int.le_add_of_nonneg_right (by decide))
  | resumed _ ok hdue hs =>
    cases hdue.row.symm.trans h.row
    cases ok with
    | false => exact hsame h.row rfl fun s hs _ => hs
    | true =>
      refine ⟨_, h.keep hT rfl rfl (fun s hs _ => hs) rfl rfl
        (fun _ => ⟨hdue.live, fun due' hd => hlater hdue.due ?_⟩) nofun⟩
      cases hd
      exact le_rfl
  | executed _ ok _ _ _ hdue hp hlevel =>
    cases hdue.row.symm.trans h.row
    cases hp.symm.trans h.snapshot
    exact h.climb hT hdue hlevel ok
  | exhausted _ ok _ channelIDs hdue hp hlast =>
    cases hdue.row.symm.trans h.row
    cases hp.symm.trans h.snapshot
    -- the notices of an exhausted run are no deliveries of a level
    have hslots : ∀ s ∈ (v.deliver specialLevelExhausted channelIDs).slots, 0 ≤ s.1 →
        s ∈ v.slots := by
      intro s hs h0
      rcases List.mem_append.mp hs with hs | hs
      · exact hs
      · obtain ⟨ch, _, rfl⟩ := List.mem_map.mp hs
        exact absurd (show 0 ≤ specialLevelExhausted from h0) (by decide)
    cases ok with
    | false => exact hsame h.row rfl hslots
    | true =>
      exact ⟨_, h.keep hT rfl rfl hslots rfl rfl nofun fun _ => h.last_executed hn hlast⟩

end Ladder

/-! ## 3. Sequences of passes -/

/-- A pass, or what may happen between passes: another component writes alerts, a send ends. -/
inductive Turn where
  | pass (choices : List Choice)
  | writeAlerts (alerts : AlertTable)
  | settle (deliveryID : String) (status : DeliveryStatus) (sentAt : Option Time)

def turn (w : World) : Turn → Option World
  | .pass choices => (Prog.exec handle evaluateCycle choices w).map Prod.snd
  | .writeAlerts alerts => some { w with alerts := alerts }
  | .settle deliveryID status sentAt =>
    some { w with deliveries := w.deliveries.update deliveryID status sentAt }

/-- The run was just started under the policy. -/
structure Started (r : String) (policy : Policy) (w : World) : Prop where
  row : ∃ run, w.runs.get r = some run ∧ run.policySnapshot = some policy ∧
    run.lastExecutedLevelIndex = -1 ∧ run.status = .active
  unmarked : marksOf r w.marks = []
  undelivered : slotsOf r w.deliveries = []

section Passes

variable {r : String} {policy : Policy} {w₀ w w' : World}

theorem pass_visits {choices : List Choice} (h : turn w (.pass choices) = some w') :
    ∃ now, w.now ≤ now ∧ now ≤ w'.now ∧ Visit now (view r w) (view r w') := by
  obtain ⟨⟨u, w''⟩, hexec, rfl⟩ := Option.map_eq_some_iff.mp h
  exact Prog.wp_exec evaluateCycle_visits Prog.meets_anyChoice hexec

theorem started_ladder (h : Started r policy w) : ∃ run, Ladder policy w.now (view r w) run := by
  obtain ⟨run, hrow, hsnap, hcur, hs⟩ := h.row
  have hmarks : (view r w).marks = [] := h.unmarked
  have hslots : (view r w).slots = [] := h.undelivered
  have hhist : (view r w).history = [] := by rw [View.history, hmarks]; rfl
  refine ⟨run, ⟨?_, ?_, ?_, ?_, ?_⟩, hrow, hsnap, ?_, ?_, Or.inl ⟨?_, hcur⟩, ?_⟩ <;>
    simp only [hhist, hslots, List.not_mem_nil, false_imp_iff, implies_true, List.map_nil]
  · exact ⟨nofun, .nil⟩
  · intro row hr he
    cases hrow.symm.trans hr
    cases hs.symm.trans he

theorem turn_ladder (hn : policy.levels ≠ []) {m : Turn}
    (h : ∃ run, Ladder policy w.now (view r w) run) (hs : turn w m = some w') :
    ∃ run, Ladder policy w'.now (view r w') run := by
  obtain ⟨run, h⟩ := h
  cases m with
  | pass =>
    obtain ⟨now, hle, hle', hv⟩ := pass_visits hs
    obtain ⟨run', h'⟩ := h.visit hn hle hv
    exact ⟨run', { h' with past := fun e he => (h'.past e he).trans hle' }⟩
  | writeAlerts =>
    cases hs
    exact ⟨run, h⟩
  | settle deliveryID status sentAt =>
    cases hs
    refine ⟨run, h.keep le_rfl h.row rfl (fun s hs _ => ?_) rfl rfl
      (fun hl => ⟨hl, fun due hd => ⟨due, hd, le_rfl⟩⟩) (h.exhausted run h.row)⟩
    have hs' : s ∈ slotsOf r (w.deliveries.update deliveryID status sentAt) := hs
    rwa [slots_update] at hs'

/-- The suppressor answered true for the run during the pass. -/
def SuppressedIn (r : String) (w w' : World) : Prop :=
  ∃ new, (view r w').marks = (view r w).marks ++ new ∧ .suppressed r ∈ new

/-- No level was consumed. -/
structure Unconsumed (r : String) (w w' : World) : Prop where
  history : (view r w').history = (view r w).history
  slots : (view r w').slots = (view r w).slots
  cursor : (view r w').row.map Run.lastExecutedLevelIndex =
    (view r w).row.map Run.lastExecutedLevelIndex

theorem suppressed_unconsumed {now : Time} (hv : Visit now (view r w) (view r w'))
    (hs : SuppressedIn r w w') : Unconsumed r w w' := by
  obtain ⟨new, hnew, hmem⟩ := hs
  generalize hv₀ : view r w = v at hv hnew
  generalize hv₁ : view r w' = v' at hv hnew
  suffices h : v'.history = v.history ∧ v'.slots = v.slots ∧
      v'.row.map Run.lastExecutedLevelIndex = v.row.map Run.lastExecutedLevelIndex by
    subst hv₀ hv₁
    exact ⟨h.1, h.2.1, h.2.2⟩
  -- only the suppressed visit notes a suppression
  have hnone : v'.marks = v.marks → False := fun e => by
    rw [e] at hnew
    rw [List.self_eq_append_right.mp hnew] at hmem
    cases hmem
  cases hv with
  | untouched => exact (hnone rfl).elim
  | stopped _ ok | resumed _ ok | exhausted _ ok => cases ok <;> exact (hnone rfl).elim
  | executed run ok =>
    have he : new = [.executed run.id (run.lastExecutedLevelIndex + 1) now] := by
      cases ok <;> exact (List.append_cancel_left hnew).symm
    rw [he] at hmem
    rcases List.mem_cons.mp hmem with h | h
    · cases h
    · cases h
  | suppressed _ ok hdue =>
    have hrow := hdue.row
    cases ok with
    | false => exact ⟨history_mark_suppressed, rfl, rfl⟩
    | true => exact ⟨history_mark_suppressed, rfl, by rw [hrow]; rfl⟩

/-- **A run climbs its levels in order**, none skipped, each at least its delay after the one
    before (in whole seconds of the passes' clock values), one delivery for each level and
    channel; it is exhausted after its last level only, and a suppressed pass consumes none. -/
theorem escalation_progress (hn : policy.levels ≠ []) (h0 : Started r policy w₀)
    (h : Reach turn anyStep w₀ w) :
    Progress policy (view r w) ∧
      (∀ d ∈ w.deliveries, ∀ d' ∈ w.deliveries, ∀ slot, d.slot = some slot →
        d'.slot = some slot → d = d') ∧
      ∀ choices w', turn w (.pass choices) = some w' → SuppressedIn r w w' →
        Unconsumed r w w' := by
  obtain ⟨run, hladder⟩ := h.inv (I := fun w => ∃ run, Ladder policy w.now (view r w) run)
    (started_ladder h0) fun _ _ _ hi _ hs => turn_ladder hn hi hs
  refine ⟨hladder.toProgress, fun d hd d' hd' slot hs hs' =>
    w.deliveries.eq_of_slot hd hd' hs hs', fun choices w' hs hsup => ?_⟩
  obtain ⟨now, _, _, hv⟩ := pass_visits hs
  exact suppressed_unconsumed hv hsup

end Passes

/-! ## 4. Two runs of passes -/

/-- A pass that executes a level of `sampleRun`: clock, orphans, due runs, alert, suppressor,
    level clock, channel, delivery, `go`, progress. -/
def executing (elapsed : Nat) (newID : String) : Turn :=
  .pass [{ elapsed := elapsed }, {}, {}, {}, {}, {}, channelUp, { newID := newID }, {}, {}]

/-- A pass whose suppressor answers true. -/
def suppressing (elapsed : Nat) : Turn :=
  .pass [{ elapsed := elapsed }, {}, {}, {}, { suppressed := true }, {}]

theorem started_sample : Started "r1" samplePolicy sampleWorld :=
  ⟨⟨sampleRun, by decide, rfl, rfl, rfl⟩, by decide, by decide⟩

/-- Level 0, then a suppressed pass a minute later. -/
theorem progress_through_maintenance :
    let w := runList turn sampleWorld [executing 0 "d1", suppressing 60000000000]
    (view "r1" w).history = [(0, 60000000000)] ∧ Progress samplePolicy (view "r1" w) ∧
      (∀ d ∈ w.deliveries, ∀ d' ∈ w.deliveries, ∀ slot, d.slot = some slot →
        d'.slot = some slot → d = d') ∧
      ∀ choices w', turn w (.pass choices) = some w' → SuppressedIn "r1" w w' →
        Unconsumed "r1" w w' :=
  ⟨by decide, escalation_progress (by decide) started_sample (reach_of_runList _ _)⟩

/-- A level was executed less than its delay after the one before. -/
def EarlyLevel (policy : Policy) (v : View) : Prop :=
  ∃ i t t' level, (i, t) ∈ v.history ∧ (i + 1, t') ∈ v.history ∧
    levelAt policy.levels (i + 1) = some level ∧ t' < t + level.delaySeconds * second

/-- **A level may start before its delay is over**: passes at 60.9 s and 180.0 s execute levels
    0 and 1, and the delay of level 1 is 120 s. -/
theorem level_starts_early : ∃ w, Started "r1" samplePolicy sampleWorld ∧ Reach turn anyStep sampleWorld w ∧
    EarlyLevel samplePolicy (view "r1" w) :=
  ⟨runList turn sampleWorld [executing 900000000 "d1", executing 119100000000 "d2"],
    started_sample, reach_of_runList _ _, 0, 60900000000, 180000000000, ⟨120, ["ch"]⟩, by decide⟩

end Maintenant.Escalation
