/-
  File:      Maintenant/Lib/Runs.lean
  Subject:   RUNS OF A LABELLED MACHINE. A machine is a partial step function: `step s a` is
             `some s'` when the label `a` is enabled at `s`. No program fact.

  * `Reach step ok s₀ s` -- `s` is reached from `s₀` by steps that all meet the guard `ok`
    (a predicate on the state BEFORE the step and the label); the unguarded runs are the
    guard `fun _ _ => True`;
  * `Reach.inv` -- the invariant rule: holds at the start, kept by every guarded step;
  * `Reach.trans` -- runs compose;
  * `runList` -- the executable form over a list of labels, and `reach_of_runList`, which turns
    a computed run into a derivation (the form concrete runs are given in);
  * `get_concat`, `countP_set` -- the processes of a machine that starts one more, or moves one.
-/
import Mathlib.Data.List.Basic

namespace Runs

variable {σ α : Type*}

/-- The states reached from `s₀` by steps whose label meets the guard at the state it fires in. -/
inductive Reach (step : σ → α → Option σ) (ok : σ → α → Prop) (s₀ : σ) : σ → Prop where
  | start : Reach step ok s₀ s₀
  | next (s s' : σ) (a : α) (h : Reach step ok s₀ s) (hok : ok s a)
      (hs : step s a = some s') : Reach step ok s₀ s'

/-- The guard that admits every step. -/
def anyStep : σ → α → Prop := fun _ _ => True

variable {s : σ} {step : σ → α → Option σ}

section Rules

variable {step : σ → α → Option σ} {ok : σ → α → Prop} {s₀ s₁ s₂ : σ}

/-- **The invariant rule.** -/
theorem Reach.inv {I : σ → Prop} (h0 : I s₀)
    (hstep : ∀ s a s', I s → ok s a → step s a = some s' → I s') (h : Reach step ok s₀ s) : I s := by
  induction h with
  | start => exact h0
  | next s s' a _ hok hs ih => exact hstep s a s' ih hok hs

/-- A run of a stricter guard. -/
theorem Reach.mono {ok' : σ → α → Prop} (hok : ∀ s a, ok s a → ok' s a)
    (h : Reach step ok s₀ s) : Reach step ok' s₀ s := by
  induction h with
  | start => exact .start
  | next s s' a _ hs hstep ih => exact .next s s' a ih (hok s a hs) hstep

/-- Runs compose. -/
theorem Reach.trans (h₁ : Reach step ok s₀ s₁) (h₂ : Reach step ok s₁ s₂) : Reach step ok s₀ s₂ := by
  induction h₂ with
  | start => exact h₁
  | next s s' a _ hok hs ih => exact .next s s' a ih hok hs

end Rules

/-- The executable form: the labels in order, up to the first one that is not enabled. -/
def runList (step : σ → α → Option σ) : σ → List α → σ
  | s, [] => s
  | s, a :: as => match step s a with
    | none => s
    | some t => runList step t as

theorem runList_cons {t : σ} {a : α} (as : List α)
    (h : step s a = some t) : runList step s (a :: as) = runList step t as := by
  simp only [runList, h]

/-- The labels a list run fires, each at the state it fires in, all meet `ok`. -/
def runOk (step : σ → α → Option σ) (ok : σ → α → Bool) : σ → List α → Bool
  | _, [] => true
  | s, a :: as => ok s a && match step s a with
    | none => true
    | some t => runOk step ok t as

/-- **A computed run whose labels pass a decided guard is a guarded run.** -/
theorem reach_of_runOk {ok : σ → α → Bool} {P : σ → α → Prop} (hP : ∀ s a, ok s a = true → P s a) :
    ∀ (as : List α) (s : σ), runOk step ok s as = true → Reach step P s (runList step s as)
  | [], s, _ => .start
  | a :: as, s, hg => by
      obtain ⟨hok, hrest⟩ := Bool.and_eq_true_iff.mp hg
      cases hs : step s a with
      | none =>
        simp only [runList, hs]
        exact .start
      | some t =>
        rw [hs] at hrest
        rw [runList_cons as hs]
        have hfirst : Reach step P s t := .next s t a .start (hP s a hok) hs
        exact hfirst.trans (reach_of_runOk hP as t hrest)

theorem reach_of_decide {P : σ → α → Prop} [∀ s a, Decidable (P s a)] (as : List α) (s : σ)
    (h : runOk step (fun s a => decide (P s a)) s as = true) : Reach step P s (runList step s as) :=
  reach_of_runOk (fun _ _ => of_decide_eq_true) as s h

/-- **A computed run is an unguarded run.** -/
theorem reach_of_runList : ∀ (as : List α) (s : σ), Reach step anyStep s (runList step s as)
  | [], s => .start
  | a :: as, s => by
      cases hs : step s a with
      | none =>
        simp only [runList, hs]
        exact .start
      | some t =>
        rw [runList_cons as hs]
        have hfirst : Reach step anyStep s t := .next s t a .start trivial hs
        exact hfirst.trans (reach_of_runList as t)

theorem get_concat {l : List σ} {p q : σ} {n : Nat} :
    (l ++ [p])[n]? = some q ↔ l[n]? = some q ∨ n = l.length ∧ q = p := by
  rcases Nat.lt_trichotomy n l.length with hlt | rfl | hgt
  · simp [List.getElem?_append_left hlt, Nat.ne_of_lt hlt]
  · simp [eq_comm]
  · have hnone : (l ++ [p])[n]? = none := List.getElem?_eq_none (by rw [List.length_append]; exact hgt)
    simp [hnone, List.getElem?_eq_none (Nat.le_of_lt hgt), Nat.ne_of_gt hgt]

theorem countP_set {l : List σ} {p : σ} {n : Nat} (P : σ → Bool) (h : l[n]? = some p) (q : σ) :
    (l.set n q).countP P + (if P p then 1 else 0) = l.countP P + if P q then 1 else 0 := by
  obtain ⟨hn, hget⟩ := List.getElem?_eq_some_iff.mp h
  have hpos : (if P p then 1 else 0) ≤ l.countP P := by
    split
    · next hp => exact List.countP_pos_iff.mpr ⟨p, List.mem_of_getElem? h, hp⟩
    · exact Nat.zero_le _
  rw [List.countP_set hn, hget]
  omega

end Runs
