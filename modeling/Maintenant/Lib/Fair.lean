/-
  File:      Maintenant/Lib/Fair.lean
  Subject:   FAIR RUNS WITHOUT AN END. A run of a labelled machine as a sequence of moments; at each one a step, or a
             rest. A label is the move of a process, or of nobody. No program fact.

  * `Path` -- the run, every step of it under a guard; `Path.reach` -- its states are reached;
  * `Path.Fair` -- a process that can move from some moment on does move;
  * `Path.Way`, `Path.leadsTo` -- the progress rule: a rank that no step raises, and that the step of a helping process
    lowers;
  * `Path.ofList` -- a finite run that rests at its end; it is fair when nobody can move there (`fair_ofList`).
-/
import Maintenant.Lib.Runs
import Mathlib.Order.WellFounded

namespace Runs

variable {σ α π : Type*}

/-! ## 1. Paths and fairness -/

structure Path (step : σ → α → Option σ) (ok : σ → α → Prop) where
  state : ℕ → σ
  move : ℕ → Option α
  moves : ∀ n a, move n = some a → ok (state n) a ∧ step (state n) a = some (state (n + 1))
  rests : ∀ n, move n = none → state (n + 1) = state n

/-- The process has a label that is enabled. -/
def CanMove (step : σ → α → Option σ) (who : α → Option π) (p : π) (s : σ) : Prop :=
  ∃ a s', who a = some p ∧ step s a = some s'

variable {n : ℕ}

namespace Path

variable {step : σ → α → Option σ} {ok : σ → α → Prop} {who : α → Option π}

/-- The process moves at this moment. -/
def Moves (P : Path step ok) (who : α → Option π) (p : π) (n : ℕ) : Prop :=
  ∃ a, P.move n = some a ∧ who a = some p

def Fair (P : Path step ok) (who : α → Option π) : Prop :=
  ∀ p n, (∀ m, n ≤ m → CanMove step who p (P.state m)) → ∃ m, n ≤ m ∧ P.Moves who p m

theorem reach (P : Path step ok) (n : ℕ) : Reach step ok (P.state 0) (P.state n) := by
  induction n with
  | zero => exact .start
  | succ n ih =>
    cases hm : P.move n with
    | none =>
      rw [P.rests n hm]
      exact ih
    | some a => exact .next _ _ a ih (P.moves n a hm).1 (P.moves n a hm).2

/-- What every step keeps holds from some moment on. -/
theorem keeps (P : Path step ok) {I : σ → Prop} (hkeep : ∀ s a s', I s → ok s a → step s a = some s' → I s')
    {m : ℕ} (hnm : n ≤ m) (h : I (P.state n)) : I (P.state m) := by
  induction hnm with
  | refl => exact h
  | step _ ih =>
    rename_i m _
    cases hm : P.move m with
    | none =>
      rw [P.rests m hm]
      exact ih
    | some a => exact hkeep _ a _ ih (P.moves m a hm).1 (P.moves m a hm).2

/-! ## 2. Progress -/

/-- A way to a goal: on it somebody always helps, who helps can move, and a step arrives, lowers the rank, or keeps the
    rank and everyone who helps. -/
structure Way {β : Type*} [LT β] (step : σ → α → Option σ) (ok : σ → α → Prop) (who : α → Option π)
    (On goal : σ → Prop) (rank : σ → β) (Helps : π → σ → Prop) : Prop where
  helper : ∀ s, On s → ¬ goal s → ∃ p, Helps p s
  able : ∀ p s, On s → ¬ goal s → Helps p s → CanMove step who p s
  forward : ∀ s a s', On s → ¬ goal s → ok s a → step s a = some s' →
    goal s' ∨ On s' ∧ (rank s' < rank s ∨ rank s' = rank s ∧ ∀ p, Helps p s → who a ≠ some p ∧
      Helps p s')

section Rule

variable {β : Type*} [LT β] {On goal : σ → Prop} {rank : σ → β} {Helps : π → σ → Prop}

/-- As long as the rank stays, so does a helper. -/
theorem helps_stays (P : Path step ok) (hway : Way step ok who On goal rank Helps) {p : π}
    (hgoal : ∀ m, n ≤ m → ¬ goal (P.state m))
    (hrank : ∀ m, n ≤ m → On (P.state m) → ¬ rank (P.state m) < rank (P.state n))
    (hon : On (P.state n)) (hp : Helps p (P.state n)) (d : ℕ) :
    On (P.state (n + d)) ∧ rank (P.state (n + d)) = rank (P.state n) ∧ Helps p (P.state (n + d)) := by
  induction d with
  | zero => exact ⟨hon, rfl, hp⟩
  | succ d ih =>
    obtain ⟨hond, heq, hpd⟩ := ih
    cases hm : P.move (n + d) with
    | none =>
      have hrest := P.rests _ hm
      rw [Nat.add_assoc] at hrest
      rw [hrest]
      exact ⟨hond, heq, hpd⟩
    | some a =>
      obtain ⟨hok, hs⟩ := P.moves _ a hm
      rw [Nat.add_assoc] at hs
      rcases hway.forward _ a _ hond (hgoal _ (Nat.le_add_right n d)) hok hs with
        harrived | ⟨hon', hlower | ⟨hsame, hkeep⟩⟩
      · exact absurd harrived (hgoal _ (Nat.le_add_right n (d + 1)))
      · rw [heq] at hlower
        exact absurd hlower (hrank _ (Nat.le_add_right n (d + 1)) hon')
      · exact ⟨hon', hsame.trans heq, (hkeep p hpd).2⟩

/-- **The progress rule:** a fair path that is on the way arrives, when the rank is well-founded. -/
theorem leadsTo [WellFoundedLT β] (P : Path step ok) (hfair : P.Fair who) (hway : Way step ok who On goal rank Helps)
    (hon : On (P.state n)) : ∃ m, n ≤ m ∧ goal (P.state m) := by
  -- induction on the rank at the moment we look from
  induction hr : rank (P.state n) using WellFoundedLT.induction generalizing n with
  | ind _ ih =>
    by_contra hnever
    have hgoal : ∀ m, n ≤ m → ¬ goal (P.state m) := fun m hm hg => hnever ⟨m, hm, hg⟩
    have hrank : ∀ m, n ≤ m → On (P.state m) → ¬ rank (P.state m) < rank (P.state n) := by
      intro m hm honm hlt
      obtain ⟨m', hm', hg⟩ := ih _ (hr ▸ hlt) honm rfl
      exact hgoal m' (Nat.le_trans hm hm') hg
    obtain ⟨p, hp⟩ := hway.helper _ hon (hgoal n (Nat.le_refl n))
    have hstays := helps_stays P hway hgoal hrank hon hp
    have hforever : ∀ m, n ≤ m → On (P.state m) ∧ rank (P.state m) = rank (P.state n) ∧
      Helps p (P.state m) := by
      intro m hm
      obtain ⟨d, rfl⟩ := Nat.exists_eq_add_of_le hm
      exact hstays d
    -- the helper can move forever, so it does, and its step lowers the rank
    obtain ⟨m, hm, a, hmove, hwho⟩ := hfair p n fun m hm =>
      hway.able p _ (hforever m hm).1 (hgoal m hm) (hforever m hm).2.2
    obtain ⟨honm, heq, hpm⟩ := hforever m hm
    obtain ⟨hok, hs⟩ := P.moves m a hmove
    have hlater : n ≤ m + 1 := Nat.le_succ_of_le hm
    rcases hway.forward _ a _ honm (hgoal m hm) hok hs with harrived | ⟨hon', hlower | ⟨_, hkeep⟩⟩
    · exact hgoal _ hlater harrived
    · rw [heq] at hlower
      exact hrank _ hlater hon' hlower
    · exact (hkeep p hpm).1 hwho

end Rule

end Path

/-! ## 3. Finite runs as paths -/

/-- Every label is enabled where it fires, and meets the guard there. -/
def runFull (step : σ → α → Option σ) (ok : σ → α → Bool) : σ → List α → Bool
  | _, [] => true
  | s, a :: as => ok s a && match step s a with
    | none => false
    | some t => runFull step ok t as

theorem runFull_step {step : σ → α → Option σ} {ok : σ → α → Bool} {as : List α} {s : σ} {a : α}
    (h : runFull step ok s as = true) (ha : as[n]? = some a) : ok (runList step s (as.take n)) a = true ∧
      step (runList step s (as.take n)) a = some (runList step s (as.take (n + 1))) := by
  induction as generalizing s n with
  | nil => cases ha
  | cons b _ ih =>
    obtain ⟨hok, hrest⟩ := Bool.and_eq_true_iff.mp h
    cases hs : step s b with
    | none =>
      simp [hs] at hrest
    | some =>
      rw [hs] at hrest
      cases n with
      | zero =>
        cases ha
        exact ⟨hok, by rw [List.take_succ_cons, runList_cons _ hs]; exact hs⟩
      | succ =>
        rw [List.take_succ_cons, List.take_succ_cons, runList_cons _ hs, runList_cons _ hs]
        exact ih hrest ha

/-- The run of a list, at rest after its last label. -/
def Path.ofList {step : σ → α → Option σ} {ok : σ → α → Prop} (okb : σ → α → Bool)
    (hok : ∀ s a, okb s a = true → ok s a) (s : σ) (as : List α) (h : runFull step okb s as = true) :
    Path step ok where
  state n := runList step s (as.take n)
  move n := as[n]?
  moves _ _ ha := ⟨hok _ _ (runFull_step h ha).1, (runFull_step h ha).2⟩
  rests n hn := by
    have hlen : as.length ≤ n := List.getElem?_eq_none_iff.mp hn
    rw [List.take_of_length_le hlen, List.take_of_length_le (Nat.le_succ_of_le hlen)]

/-- **A finite run is fair when nobody can move at its end.** -/
theorem Path.fair_ofList {step : σ → α → Option σ} {ok : σ → α → Prop} {okb : σ → α → Bool}
    {hok : ∀ s a, okb s a = true → ok s a} {s : σ} {as : List α} {h : runFull step okb s as = true}
    {who : α → Option π}
    (hend : ∀ p, ¬ CanMove step who p (runList step s as)) : (Path.ofList okb hok s as h).Fair who := by
  intro p n hcan
  have hlast := hcan (n + as.length) (Nat.le_add_right _ _)
  dsimp only [Path.ofList] at hlast
  rw [List.take_of_length_le (Nat.le_add_left _ _)] at hlast
  exact absurd hlast (hend p)

end Runs
