/-
  File:      Maintenant/Lib/Quota.lean
  Subject:   COUNT FIRST, ADD LATER. Programs of a pool count what there is, and add one more in a later
             call, when the count left room below a bound. No program fact.

  Between the count and the addition others may add too, so the bound can be overrun.

  * `CountsFirst` -- a program adds only after a count that left room, and once for each count;
  * `admitted` -- how many programs are past such a count and have not added yet;
  * `Fits` -- a program counts only while those admitted before it still fit below the bound;
  * `within_of_fits` -- then the bound holds in every state that is reached;
  * `size_le_earned` -- where each count that leaves room uses something up, there are never more additions than
    were earned so, whatever the schedule.
-/
import Maintenant.Lib.Pool

namespace Quota

variable {ι : Type} {β : ι → Type} {σ χ κ : Type}

/-- The calls that count, those that may add one, and the answers that leave room. -/
structure Calls (ι : Type) (β : ι → Type) where
  counts : ι → Prop
  adds : ι → Prop
  room : (i : ι) → β i → Prop

variable (C : Calls ι β)

/-- Past a count that left room, and still to add. -/
def Admitted (p : Prog ι β Unit) : Prop := p.Ahead C.counts C.adds

/-- What is still to come adds only after a count that left room, and once for each. -/
abbrev Careful (p : Prog ι β Unit) : Prop :=
  p.Disciplined C.counts (fun i (_ : Unit) => C.adds i) (fun i b _ => C.room i b) fun i _ => C.adds i

/-- The same of a whole program, which has counted nothing yet. -/
abbrev CountsFirst (p : Prog ι β Unit) : Prop :=
  p.Unburdened C.counts (fun i (_ : Unit) => C.adds i) (fun i b _ => C.room i b) fun i _ => C.adds i

/-- The handler and the bodies play by these calls, and `size` is what is counted. -/
structure Bounded (M : Machine ι β σ χ κ) (size : σ → Nat) (n : Nat) : Prop where
  apart : ∀ i, C.counts i → ¬ C.adds i
  counted : ∀ x s i, C.counts i → C.room i (M.handle x s i).1 → size s < n
  added : ∀ x s i, C.adds i → size (M.handle x s i).2 ≤ size s + 1
  other : ∀ x s i, ¬ C.adds i → size (M.handle x s i).2 ≤ size s
  body : ∀ op, CountsFirst C (M.body op)
  forks : ∀ i, M.forks i = none

open Classical in
/-- How many threads are admitted and have not added yet. -/
noncomputable def admitted (p : Pool ι β σ κ) : Nat := p.threads.countP fun t => decide (Admitted C t.2)

/-- A thread counts only while those admitted before it still fit. -/
def Fits (size : σ → Nat) (n : Nat) (p : Pool ι β σ κ) : Pool.Move χ κ → Prop
  | .start _ => True
  | .run m _ => ∀ op i k, p.threads[m]? = some (op, .call i k) → C.counts i → size p.world < n →
      size p.world + admitted C p < n

/-- Those admitted fit, and every thread goes on carefully. -/
structure Within (size : σ → Nat) (n : Nat) (p : Pool ι β σ κ) : Prop where
  fits : size p.world + admitted C p ≤ n
  careful : ∀ t ∈ p.threads, Careful C t.2

variable {C} {M : Machine ι β σ χ κ} {size : σ → Nat} {n : Nat} {p p' : Pool ι β σ κ}

/-! ## 1. One call of a careful program -/

section Call

variable {i : ι} {k : β i → Prog ι β Unit}

variable (h : Careful C (.call i k))

include h

/-- After an addition nothing is left to add. -/
theorem not_admitted_added (hi : C.adds i) (b : β i) : ¬ Admitted C (k b) :=
  h.releases.1 () hi b

omit h

theorem admitted_adds (hi : C.adds i) : Admitted C (.call i k) := Or.inl hi

theorem not_admitted_counts (hi : C.counts i) (hadd : ¬ C.adds i) : ¬ Admitted C (.call i k) := by
  intro h
  rcases h with h | h
  · exact hadd h
  · exact h.1 hi

end Call

/-! ## 2. Programs with one count -/

variable {i : ι} {m : Nat} {x : χ} {op : κ} {k : β i → Prog ι β Unit}

variable (C) in
/-- Neither counts nor adds. -/
def Calm (i : ι) : Prop := ¬ C.counts i ∧ ¬ C.adds i

/-- A program that adds nothing. -/
theorem countsFirst_of_no_add {p : Prog ι β Unit} (h : p.Always fun i => ¬ C.adds i) : CountsFirst C p :=
  Prog.unburdened_of_no_use (h.mono fun _ hi _ => hi)

/-- A count, and after it no addition, or at most one where the answer leaves room. -/
theorem countsFirst_ask {f : β i → Prog ι β Unit} (hi : C.counts i) (hapart : ∀ j, C.counts j → ¬ C.adds j)
    (hf : ∀ b, (f b).Always (Calm C) ∨ C.room i b ∧ (f b).Once (Calm C) C.adds) :
    CountsFirst C (Prog.ask i >>= f) := by
  have hadd : ¬ C.adds i := hapart i hi
  have honce : ∀ b, (f b).Once (Calm C) C.adds := fun b => (hf b).elim Prog.once_of_always And.right
  have hnocount : ∀ b, (f b).Always fun j => ¬ C.counts j := fun b =>
    (honce b).always.mono fun j hj => hj.elim (fun h => h.1) fun h hcount => hapart j hcount h
  refine Prog.unburdened_stop hi (fun _ => hadd) (fun _ => hadd) (fun b => ⟨Prog.grants_of_always (hnocount b), ?_⟩)
    fun b _ hb => ?_
  · exact (honce b).releases (fun j _ hj hcalm => hcalm.2 hj) fun j _ hj hcalm => hcalm.2 hj
  · exact ((hf b).resolve_left fun hcalm => hcalm.not_ahead (fun _ hj => hj.2) hb).1

/-! ## 3. Steps -/

theorem admitted_start (op : κ) (h : CountsFirst C (M.body op)) :
    admitted C (⟨p.world, p.threads ++ [(op, M.body op)]⟩ : Pool ι β σ κ) = admitted C p := by
  have hfirst : ¬ Admitted C (M.body op) := h.first ()
  unfold admitted
  rw [List.countP_append, List.countP_singleton, if_neg (by simpa using hfirst), Nat.add_zero]

open Classical in
/-- The threads after a call: the caller may have changed sides. -/
theorem admitted_run (hforks : M.forks i = none) (ht : p.threads[m]? = some (op, .call i k)) :
    admitted C (Pool.after M p m x op i k) + (if Admitted C (.call i k) then 1 else 0) =
      admitted C p + if Admitted C (k (M.handle x p.world i).1) then 1 else 0 := by
  have hset := Runs.countP_set (fun t => decide (Admitted C t.2)) ht (op, k (M.handle x p.world i).1)
  unfold admitted Pool.after
  rw [hforks]
  simpa using hset

/-- What is there and what is admitted grows by one at most, and only with a count that left room. -/
theorem load_run (hforks : M.forks i = none) (hadded : C.adds i → size (M.handle x p.world i).2 ≤ size p.world + 1)
    (hother : ¬ C.adds i → size (M.handle x p.world i).2 ≤ size p.world) (hcareful : Careful C (.call i k))
    (ht : p.threads[m]? = some (op, .call i k)) :
    size (M.handle x p.world i).2 + admitted C (Pool.after M p m x op i k) ≤ size p.world + admitted C p ∨
      C.counts i ∧ C.room i (M.handle x p.world i).1 ∧
        size (M.handle x p.world i).2 + admitted C (Pool.after M p m x op i k) ≤ size p.world + admitted C p + 1 := by
  have hnumber := admitted_run (C := C) (x := x) hforks ht
  by_cases hadd : C.adds i
  · -- the caller leaves those admitted, and one more is there
    have hsize := hadded hadd
    rw [if_pos (admitted_adds hadd), if_neg (not_admitted_added hcareful hadd _)] at hnumber
    omega
  · have hsize := hother hadd
    by_cases hnew : Admitted C (k (M.handle x p.world i).1)
    · by_cases hcount : C.counts i
      · rw [if_neg (not_admitted_counts hcount hadd), if_pos hnew] at hnumber
        exact Or.inr ⟨hcount, hcareful.grants.1 hcount _ () hnew, by omega⟩
      · rw [if_pos hnew, if_pos (show Admitted C (.call i k) from hnew.before hcount)] at hnumber
        omega
    · rw [if_neg hnew] at hnumber
      omega

section

variable (hB : Bounded C M size n)

include hB

theorem within_start (h : Within C size n p) :
    Within C size n (⟨p.world, p.threads ++ [(op, M.body op)]⟩ : Pool ι β σ κ) := by
  refine ⟨?_, Pool.forall_start h.careful (hB.body op).toDisciplined⟩
  rw [admitted_start op (hB.body op)]
  exact h.fits

theorem within_run
    (h : Within C size n p) (hfits : Fits C size n p (.run m x)) (ht : p.threads[m]? = some (op, .call i k)) :
    Within C size n (Pool.after M p m x op i k) := by
  have hcareful : Careful C (.call i k) := h.careful _ (List.mem_of_getElem? ht)
  have hroom := h.fits
  refine ⟨?_, Pool.forall_run (hB.forks i) h.careful (hcareful.next _)⟩
  change size (M.handle x p.world i).2 + _ ≤ n
  rcases load_run (hB.forks i) (hB.added _ _ i) (hB.other _ _ i) hcareful ht with hle | ⟨hcount, hleft, hle⟩
  · exact Nat.le_trans hle hroom
  · have := hfits op i k ht hcount (hB.counted x p.world i hcount hleft)
    omega

/-! ## 4. Runs -/

/-- **The bound holds in every run in which a program counts only while those admitted before it still fit.** -/
theorem within_of_fits {s : σ} (hs : size s ≤ n)
    (h : Runs.Reach (Pool.step M) (Fits C size n) ⟨s, []⟩ p) : size p.world ≤ n := by
  have hinv : Within C size n p :=
    Pool.inv ⟨by simpa [admitted] using hs, List.forall_mem_nil _⟩
      (fun _ _ hp _ => within_start hB hp) (fun _ _ _ _ _ _ hp hfits ht => within_run hB hp hfits ht) h
  exact Nat.le_trans (Nat.le_add_right _ _) hinv.fits

open Classical in
/-- One program after the other always fits. -/
theorem fits_of_sole {move : Pool.Move χ κ} (h : Pool.sole p move = true) : Fits C size n p move := by
  cases move with
  | start => exact trivial
  | run m =>
    intro op i k ht hcount hlt
    have hnone : admitted C p = 0 := by
      refine List.countP_eq_zero.mpr fun t htm => ?_
      rw [decide_eq_true_eq]
      obtain ⟨j, hj⟩ := List.mem_iff_getElem?.mp htm
      by_cases hjm : j = m
      · rw [hjm, ht] at hj
        rw [← Option.some.inj hj]
        exact not_admitted_counts hcount (hB.apart i hcount)
      · rw [Pool.done_of_sole h hjm hj]
        exact fun hadm => hadm
    rwa [hnone, Nat.add_zero]

end

/-! ## 5. Additions that are earned -/

variable (C) in
/-- A count that leaves room earns one addition. -/
structure Earning (M : Machine ι β σ χ κ) (size earned : σ → Nat) : Prop where
  earns : ∀ x s i, C.counts i → C.room i (M.handle x s i).1 → earned s + 1 ≤ earned (M.handle x s i).2
  kept : ∀ x s i, earned s ≤ earned (M.handle x s i).2
  added : ∀ x s i, C.adds i → size (M.handle x s i).2 ≤ size s + 1
  other : ∀ x s i, ¬ C.adds i → size (M.handle x s i).2 ≤ size s
  body : ∀ op, CountsFirst C (M.body op)
  forks : ∀ i, M.forks i = none

variable (C) in
/-- What is there and what is admitted was earned, and every thread goes on carefully. -/
structure Earned (size earned : σ → Nat) (p : Pool ι β σ κ) : Prop where
  earned : size p.world + admitted C p ≤ earned p.world
  careful : ∀ t ∈ p.threads, Careful C t.2

variable {earned : σ → Nat}

theorem earned_run (hE : Earning C M size earned)
    (h : Earned C size earned p) (ht : p.threads[m]? = some (op, .call i k)) :
    Earned C size earned (Pool.after M p m x op i k) := by
  have hcareful : Careful C (.call i k) := h.careful _ (List.mem_of_getElem? ht)
  have hsum := h.earned
  have hkept := hE.kept x p.world i
  refine ⟨?_, Pool.forall_run (hE.forks i) h.careful (hcareful.next _)⟩
  change size (M.handle x p.world i).2 + _ ≤ earned (M.handle x p.world i).2
  rcases load_run (x := x) (hE.forks i) (hE.added _ _ i)
    (hE.other _ _ i) hcareful ht with hle | ⟨hcount, hroom, hle⟩
  · omega
  · have := hE.earns x p.world i hcount hroom
    omega

/-- **There are never more additions than were earned**, whatever the schedule. -/
theorem size_le_earned {ok : Pool ι β σ κ → Pool.Move χ κ → Prop} (hE : Earning C M size earned) {s : σ}
    (hs : size s ≤ earned s) (h : Runs.Reach (Pool.step M) ok ⟨s, []⟩ p) : size p.world ≤ earned p.world := by
  have hinv : Earned C size earned p := by
    refine Pool.inv ⟨by simpa [admitted] using hs, List.forall_mem_nil _⟩ (fun p op hp _ => ?_)
      (fun _ _ _ _ _ _ hp _ ht => earned_run hE hp ht) h
    refine ⟨?_, Pool.forall_start hp.careful (hE.body op).toDisciplined⟩
    rw [admitted_start op (hE.body op)]
    exact hp.earned
  exact Nat.le_trans (Nat.le_add_right _ _) hinv.earned

end Quota
