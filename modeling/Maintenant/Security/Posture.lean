/-
  File:      Maintenant/Security/Posture.lean
  Subject:   THE POSTURE THRESHOLD (internal/security/scorer.go: `CheckPostureThreshold`;
             internal/security/posture.go: `ColorLevel`), with both callbacks set.

  The last score is all the scorer remembers, and 0 is also what it starts with: that it was at 0,
  below every threshold, is forgotten with the next call.

  * `run_snoc`, `breaches_check` -- one more call, and the alert it gives;
  * **`posture_follows_iff`** -- the alerts alternate and end right exactly when no score but the
    last one is 0.
-/
import Maintenant.Lib.Passes
import Mathlib.Data.List.Chain

namespace Maintenant.Security

/-! ## 1. The scorer -/

def colorLevel (score : Int) : String :=
  if 80 ≤ score then "green"
  else if 60 ≤ score then "yellow"
  else if 40 ≤ score then "orange"
  else "red"

/-- What is called back: `onPostureAlert`, or `onPostureEvent` with `security.posture_changed`. -/
inductive Posture where
  | alert (score previousScore : Int) (color : String) (isBreach : Bool)
  | changed (score previousScore : Int) (color : String)
deriving DecidableEq, Repr

structure Scorer where
  threshold : Int
  lastInfraScore : Int

def Scorer.checkPostureThreshold (s : Scorer) (score : Int) (color : String) : Scorer × List Posture :=
  let previousScore := s.lastInfraScore
  let scored := { s with lastInfraScore := score }
  if s.threshold ≤ 0 then (scored, [])
  else
    let changed : List Posture :=
      if 0 < previousScore ∧ (5 ≤ (score - previousScore).natAbs ∨ colorLevel previousScore ≠ color) then
        [.changed score previousScore color]
      else []
    let wasBelowThreshold := 0 < previousScore ∧ previousScore < s.threshold
    let isBelowThreshold := score < s.threshold
    let alert : List Posture :=
      if isBelowThreshold ∧ ¬wasBelowThreshold then [.alert score previousScore color true]
      else if ¬isBelowThreshold ∧ wasBelowThreshold then [.alert score previousScore color false]
      else []
    (scored, changed ++ alert)

/-! ## 2. Scores one at a time -/

/-- One call, after what was called back so far. -/
def pass (w : Scorer × List Posture) (c : Int × String) : Scorer × List Posture :=
  let r := w.1.checkPostureThreshold c.1 c.2
  (r.1, w.2 ++ r.2)

/-- Scores with their colours, from a new scorer on. -/
def run (threshold : Int) (calls : List (Int × String)) : Scorer × List Posture :=
  calls.foldl pass (⟨threshold, 0⟩, [])

def Posture.breach? : Posture → Option Bool
  | .alert _ _ _ isBreach => some isBreach
  | .changed .. => none

/-- The alerts: breaches and recoveries. -/
def breaches (called : List Posture) : List Bool := called.filterMap Posture.breach?

/-- Breaches and recoveries alternate, a breach first, and the last one is a breach exactly when the
    score passed last is below the threshold. -/
def Follows (threshold : Int) (calls : List (Int × String)) : Prop :=
  let told := breaches (run threshold calls).2
  (false :: told).IsChain (· ≠ ·) ∧
    (told.getLast? = some true ↔ ∃ c, calls.getLast? = some c ∧ c.1 < threshold)

section Calls

variable {threshold : Int} {calls : List (Int × String)} {c : Int × String}

theorem run_snoc : run threshold (calls ++ [c]) = pass (run threshold calls) c := by
  simp [run]

/-- The scorer has the score passed last, and 0 before there is one. -/
theorem run_scorer : (run threshold calls).1 = ⟨threshold, (calls.getLast?.map Prod.fst).getD 0⟩ := by
  induction calls using List.reverseRecOn with
  | nil => rfl
  | append_singleton _ _ ih =>
    rw [run_snoc, pass, ih, Scorer.checkPostureThreshold]
    split <;> simp

/-- The alert of a call. -/
def alertOf (threshold previous score : Int) : List Bool :=
  if score < threshold ∧ ¬(0 < previous ∧ previous < threshold) then [true]
  else if ¬score < threshold ∧ 0 < previous ∧ previous < threshold then [false]
  else []

theorem breaches_check (ht : 0 < threshold) (previous score : Int) (color : String) :
    breaches ((⟨threshold, previous⟩ : Scorer).checkPostureThreshold score color).2 =
      alertOf threshold previous score := by
  have hchanged : ∀ (p : Prop) [Decidable p] (e : Posture), e.breach? = none →
      breaches (if p then [e] else []) = [] := by
    intro p _ e he
    split <;> simp [breaches, he]
  rw [Scorer.checkPostureThreshold, if_neg (by simpa using ht)]
  rw [breaches, List.filterMap_append, ← breaches, ← breaches, hchanged _ _ rfl, List.nil_append, alertOf]
  split
  · rfl
  · split <;> rfl

theorem breaches_snoc (ht : 0 < threshold) : breaches (run threshold (calls ++ [c])).2 =
    breaches (run threshold calls).2 ++ alertOf threshold ((calls.getLast?.map Prod.fst).getD 0) c.1 := by
  rw [run_snoc, pass, run_scorer, ← breaches_check ht _ c.1 c.2]
  exact List.filterMap_append

/-- One more alert in a chain. -/
theorem chain_snoc (told : List Bool) (b : Bool) : (false :: (told ++ [b])).IsChain (· ≠ ·) ↔
    (false :: told).IsChain (· ≠ ·) ∧ (b = true ↔ told.getLast? ≠ some true) := by
  rw [← List.cons_append, List.isChain_append]
  cases b <;> cases h : told.getLast? with
  | none => simp [List.getLast?_cons, h]
  | some l => cases l <;> simp [List.getLast?_cons, h]

/-- **One more call** ends right exactly when the one before it was not at 0. -/
theorem follows_snoc (ht : 0 < threshold) (hrange : ∀ c ∈ calls, 0 ≤ c.1) (h : Follows threshold calls) :
    Follows threshold (calls ++ [c]) ↔ ∀ c₀, calls.getLast? = some c₀ → c₀.1 ≠ 0 := by
  obtain ⟨hchain, hlast⟩ := h
  have hnow : (∃ d, (calls ++ [c]).getLast? = some d ∧ d.1 < threshold) ↔ c.1 < threshold := by simp
  simp only [Follows]
  rw [breaches_snoc ht, hnow]
  generalize breaches (run threshold calls).2 = told at hchain hlast
  cases hc₀ : calls.getLast? with
  | none =>
    have hquiet : told.getLast? ≠ some true := by simp [hlast, hc₀]
    simp only [Option.map_none, Option.getD_none, alertOf]
    split <;> simp_all [chain_snoc]
  | some c₀ =>
    have hpos : 0 ≤ c₀.1 := hrange c₀ (List.mem_of_getLast? hc₀)
    have hheld : told.getLast? = some true ↔ c₀.1 < threshold := by simp [hlast, hc₀]
    simp only [Option.map_some, Option.getD_some, Option.some.injEq, forall_eq', alertOf]
    by_cases hzero : c₀.1 = 0
    · -- the scorer does not know that it is below: a second breach, or no recovery
      have hbelow : told.getLast? = some true := hheld.mpr (by omega)
      by_cases hnow : c.1 < threshold <;> simp [hzero, hnow, chain_snoc, hbelow]
    · have hwas : (0 < c₀.1 ∧ c₀.1 < threshold) ↔ told.getLast? = some true := by
        rw [hheld]
        omega
      simp only [hwas]
      by_cases hnow : c.1 < threshold <;> by_cases hheld : told.getLast? = some true <;>
        simp [hnow, hheld, chain_snoc, hchain, hzero]

theorem forall_mem_dropLast {P : Int × String → Prop} :
    (∀ c ∈ calls, P c) ↔ (∀ c ∈ calls.dropLast, P c) ∧ ∀ c₀, calls.getLast? = some c₀ → P c₀ := by
  rcases List.eq_nil_or_concat' calls with rfl | ⟨init, e, rfl⟩
  · simp
  · simp [or_imp, forall_and]

end Calls

/-- **Posture alerts alternate and end right, after every call, exactly when no score but the last one
    is 0.** -/
theorem posture_follows_iff {threshold : Int} (ht : 0 < threshold) {calls : List (Int × String)}
    (hrange : ∀ c ∈ calls, 0 ≤ c.1 ∧ c.1 ≤ 100) :
    (∀ n, Follows threshold (calls.take n)) ↔ ∀ c ∈ calls.dropLast, c.1 ≠ 0 := by
  induction calls using List.reverseRecOn with
  | nil => simp [Follows, run, breaches]
  | append_singleton calls c ih =>
    have hfront : ∀ c ∈ calls, 0 ≤ c.1 ∧ c.1 ≤ 100 := fun d hd => hrange d (List.mem_append_left _ hd)
    rw [Passes.forall_take_concat, ih hfront, List.dropLast_concat]
    refine Iff.trans (and_congr_right fun hearlier => ?_) forall_mem_dropLast.symm
    have hcalls : Follows threshold calls := by simpa using (ih hfront).mpr hearlier calls.length
    exact follows_snoc ht (fun d hd => (hfront d hd).1) hcalls

theorem posture_follows_drop_and_recovery :
    (∀ c ∈ [(90, "green"), (40, "orange"), (85, "green")].dropLast, c.1 ≠ (0 : Int)) ∧
      ∀ n, Follows 60 ([(90, "green"), (40, "orange"), (85, "green")].take n) :=
  ⟨by decide, (posture_follows_iff (by decide) (by decide)).mpr (by decide)⟩

/-- From 0 to 10 there is a second breach, from 0 to 80 no recovery. -/
theorem posture_zero_forgotten :
    breaches (run 60 [(0, "red"), (10, "red")]).2 = [true, true] ∧ ¬Follows 60 [(0, "red"), (10, "red")] ∧
      breaches (run 60 [(0, "red"), (80, "green")]).2 = [true] ∧ ¬Follows 60 [(0, "red"), (80, "green")] := by
  refine ⟨by decide, fun h => absurd h.1 (by decide), by decide, fun h => ?_⟩
  obtain ⟨c, hc, hbelow⟩ := h.2.mp rfl
  cases hc
  exact absurd hbelow (by decide)

end Maintenant.Security
