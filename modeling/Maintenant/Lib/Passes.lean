/-
  File:      Maintenant/Lib/Passes.lean
  Subject:   PASSES OVER A LIST OF INPUTS. A machine that takes every input is a function
             `σ → ι → σ`, a run of it a left fold. No program fact.

  * `Along f P s is` -- every input of the pass meets `P` at the state it meets;
  * `lockstep` -- two machines agree after every prefix exactly when they agree on each input, at
    the state the first of them meets it in;
  * `along_filterMap` -- a pass of which only some inputs count, as a pass over those;
  * `prefixes_iff` -- an agreement that each step keeps exactly under a condition stands after every
    prefix exactly when every input meets the condition;
  * `along_iff_of_inv` -- the same for what each input achieves by itself; `prefixes_iff_of_inv` -- the
    same beside an invariant;
  * `foldl_view` -- a view that each step respects is respected by the whole pass;
  * `forall_take_concat` -- a property of every prefix, from a list to a list one longer;
  * `foldl_grows` -- a pass that only adds adds nothing exactly when no step does.
-/
import Mathlib.Data.List.Basic

namespace Passes

variable {σ ν ι : Type*}

/-- Every input of the pass meets `P`, at the state it meets. -/
def Along (f : σ → ι → σ) (P : σ → ι → Prop) : σ → List ι → Prop
  | _, [] => True
  | s, i :: is => P s i ∧ Along f P (f s i) is

section

variable {f g : σ → ι → σ} {P Q : σ → ι → Prop} {s : σ} {is : List ι}

theorem along_cons {i : ι} : Along f P s (i :: is) ↔ P s i ∧ Along f P (f s i) is := Iff.rfl

instance decidableAlong [∀ s i, Decidable (P s i)] : ∀ (s : σ) (is : List ι), Decidable (Along f P s is)
  | _, [] => inferInstanceAs (Decidable True)
  | s, i :: is =>
    have := decidableAlong (f s i) is
    inferInstanceAs (Decidable (P s i ∧ Along f P (f s i) is))

theorem along_congr (h : ∀ s, ∀ i ∈ is, (P s i ↔ Q s i)) : Along f P s is ↔ Along f Q s is := by
  induction is generalizing s with
  | nil => exact Iff.rfl
  | cons i _ ih =>
    rw [along_cons, along_cons, h s i List.mem_cons_self,
      ih fun s j hj => h s j (List.mem_cons_of_mem i hj)]

/-- Position by position. -/
theorem along_iff : Along f P s is ↔ ∀ n i, is[n]? = some i → P ((is.take n).foldl f s) i := by
  induction is generalizing s with
  | nil => simp [Along]
  | cons i _ ih =>
    rw [along_cons, ih]
    constructor
    · intro h n j hj
      cases n with
      | zero =>
        rw [List.getElem?_cons_zero, Option.some.injEq] at hj
        exact hj ▸ h.1
      | succ n => exact h.2 n j hj
    · intro h
      exact ⟨h 0 i rfl, fun n j hj => h (n + 1) j hj⟩

theorem along_append {is' : List ι} : Along f P s (is ++ is') ↔ Along f P s is ∧ Along f P (is.foldl f s) is' := by
  induction is generalizing s with
  | nil => simp [Along]
  | cons _ _ ih => rw [List.cons_append, along_cons, along_cons, ih, and_assoc, List.foldl_cons]

theorem along_true : Along f (fun _ _ => True) s is := along_iff.mpr fun _ _ _ => trivial

/-- A condition on each input alone. -/
theorem along_mem {R : ι → Prop} : Along f (fun _ i => R i) s is ↔ ∀ i ∈ is, R i := by
  simp only [along_iff, List.mem_iff_getElem?, forall_exists_index]
  exact forall_comm

/-- A condition on each step's two ends, state by state. -/
theorem along_ends {R : σ → σ → Prop} (hrefl : ∀ s, R s s) : Along f (fun s i => R s (f s i)) s is ↔
      ∀ n, R ((is.take n).foldl f s) ((is.take (n + 1)).foldl f s) := by
  rw [along_iff]
  have hnext : ∀ n i, is[n]? = some i →
      (is.take (n + 1)).foldl f s = f ((is.take n).foldl f s) i := by
    intro n i hi
    rw [List.take_add_one, hi, List.foldl_append]
    rfl
  constructor
  · intro h n
    cases hi : is[n]? with
    | none =>
      rw [List.take_add_one, hi, Option.toList_none, List.append_nil]
      exact hrefl _
    | some i =>
      rw [hnext n i hi]
      exact h n i hi
  · intro h n i hi
    rw [← hnext n i hi]
    exact h n

/-- A pass seen through a view of the states and of the inputs. -/
theorem along_map {κ : Type*} {h : ν → κ → ν} {R : ν → κ → Prop} (view : σ → ν) (u : ι → κ)
    (hview : ∀ s i, view (f s i) = h (view s) (u i)) :
    Along f (fun s i => R (view s) (u i)) s is ↔ Along h R (view s) (is.map u) := by
  induction is generalizing s with
  | nil => exact Iff.rfl
  | cons _ _ ih => rw [List.map_cons, along_cons, along_cons, ih, hview]

/-- A pass of which only some inputs count. -/
theorem along_filterMap {κ : Type*} {h : ν → κ → ν} {R : ν → κ → Prop} (view : σ → ν)
    (u : ι → Option κ) (hview : ∀ s, ∀ i ∈ is, view (f s i) = (u i).elim (view s) (h (view s))) :
    Along f (fun s i => ∀ k, u i = some k → R (view s) k) s is ↔ Along h R (view s) (is.filterMap u) := by
  induction is generalizing s with
  | nil => exact Iff.rfl
  | cons i _ ih =>
    have hhere : view (f s i) = (u i).elim (view s) (h (view s)) := hview s i List.mem_cons_self
    rw [along_cons, ih fun s j hj => hview s j (List.mem_cons_of_mem i hj), hhere]
    cases hu : u i with
    | none =>
      rw [List.filterMap_cons_none hu]
      exact and_iff_right fun k hk => nomatch hk
    | some k =>
      rw [List.filterMap_cons_some hu, along_cons]
      refine and_congr ⟨fun h => h k rfl, fun h k' hk' => ?_⟩ Iff.rfl
      rw [← Option.some.inj hk']
      exact h

/-- **Two machines side by side.** -/
theorem lockstep : (∀ n, (is.take n).foldl g s = (is.take n).foldl f s) ↔
    Along f (fun s i => g s i = f s i) s is := by
  induction is generalizing s with
  | nil => simp [Along]
  | cons i _ ih =>
    rw [along_cons, ← ih]
    constructor
    · intro h
      have hone : g s i = f s i := h 1
      refine ⟨hone, fun n => ?_⟩
      have hn := h (n + 1)
      rwa [List.take_succ_cons, List.foldl_cons, List.foldl_cons, hone] at hn
    · rintro ⟨hone, hrest⟩ n
      cases n with
      | zero => rfl
      | succ n =>
        rw [List.take_succ_cons, List.foldl_cons, List.foldl_cons, hone]
        exact hrest n

variable {ok : σ → ι → Prop}

/-- **An agreement along a pass.** Each input that meets `ok` leaves `A` standing exactly when it meets
    `Q`; then `A` stands after every prefix exactly when all inputs meet `Q`. -/
theorem prefixes_iff {A : σ → Prop} (hok : Along f ok s is)
    (hstep : ∀ s, ∀ i ∈ is, ok s i → A s → (A (f s i) ↔ Q s i)) (hA : A s) :
    (∀ n, A ((is.take n).foldl f s)) ↔ Along f Q s is := by
  induction is generalizing s with
  | nil => simp [Along, hA]
  | cons i is ih =>
    have hone : A (f s i) ↔ Q s i := hstep s i List.mem_cons_self hok.1 hA
    have hrest : A (f s i) → ((∀ n, A ((is.take n).foldl f (f s i))) ↔ Along f Q (f s i) is) :=
      ih hok.2 fun s j hj => hstep s j (List.mem_cons_of_mem i hj)
    rw [along_cons]
    constructor
    · intro h
      have hnext : A (f s i) := h 1
      exact ⟨hone.mp hnext, (hrest hnext).mp fun n => h (n + 1)⟩
    · intro h n
      have hnext : A (f s i) := hone.mpr h.1
      cases n with
      | zero => exact hA
      | succ n => exact (hrest hnext).mpr h.2 n

theorem along_and : Along f (fun s i => P s i ∧ Q s i) s is ↔ Along f P s is ∧ Along f Q s is := by
  simp only [along_iff, imp_and, forall_and]

variable (hok : Along f ok s is)

include hok

/-- **What each input achieves**, where an invariant carries from one to the next. Under `J` an input
    achieves `P` exactly when it meets `Q`, and then `J` stands; so all of them achieve `P` exactly when all
    meet `Q`. -/
theorem along_iff_of_inv {J : σ → Prop}
    (hstep : ∀ s, ∀ i ∈ is, ok s i → J s → (P s i ↔ Q s i) ∧ (Q s i → J (f s i))) (hJ : J s) :
    Along f P s is ↔ Along f Q s is := by
  induction is generalizing s with
  | nil => exact Iff.rfl
  | cons i _ ih =>
    obtain ⟨hone, hkeeps⟩ := hstep s i List.mem_cons_self hok.1 hJ
    rw [along_cons, along_cons, hone]
    refine and_congr_right fun hQ => ?_
    exact ih hok.2 (fun s j hj => hstep s j (List.mem_cons_of_mem i hj)) (hkeeps hQ)

/-- **An invariant along a pass**, after every prefix. -/
theorem prefixes_inv {I : σ → Prop}
    (hstep : ∀ s, ∀ i ∈ is, ok s i → I s → I (f s i)) (hI : I s) (n : Nat) : I ((is.take n).foldl f s) := by
  refine (prefixes_iff (Q := fun _ _ => True) hok (fun s i hi hs h => ?_) hI).mpr ?_ n
  · exact iff_true_intro (hstep s i hi hs h)
  · exact along_true

/-- **An agreement along a pass that keeps an invariant**; what keeps the agreement is exact under it. -/
theorem prefixes_iff_of_inv {I A : σ → Prop} (hinv : ∀ s, ∀ i ∈ is, ok s i → I s → I (f s i))
    (hstep : ∀ s, ∀ i ∈ is, ok s i → I s → A s → (A (f s i) ↔ Q s i)) (hI : I s) (hA : A s) :
    (∀ n, A ((is.take n).foldl f s)) ↔ Along f Q s is := by
  have hboth := prefixes_iff (A := fun s => I s ∧ A s) (Q := Q) hok (fun s i hi hs h => ?_) ⟨hI, hA⟩
  · rw [← hboth]
    exact forall_congr' fun n => (and_iff_right (prefixes_inv hok hinv hI n)).symm
  · rw [and_iff_right (hinv s i hi hs h.1)]
    exact hstep s i hi hs h.1 h.2

omit hok

/-- **A view of the state goes along.** -/
theorem foldl_view (view : σ → Option ν) {vstep : ν → ι → ν} {v : ν}
    (hstep : ∀ s v, ∀ i ∈ is, view s = some v → view (f s i) = some (vstep v i))
    (hv : view s = some v) : view (is.foldl f s) = some (is.foldl vstep v) := by
  induction is generalizing s v with
  | nil => exact hv
  | cons i _ ih =>
    exact ih (fun s v j hj => hstep s v j (List.mem_cons_of_mem i hj))
      (hstep s v i List.mem_cons_self hv)

/-- A property of every prefix, of a list one longer. -/
theorem forall_take_concat {P : List ι → Prop} {i : ι} :
    (∀ n, P ((is ++ [i]).take n)) ↔ (∀ n, P (is.take n)) ∧ P (is ++ [i]) := by
  constructor
  · intro h
    refine ⟨fun n => ?_, ?_⟩
    · rw [List.take_eq_take_min, ← List.take_append_of_le_length (Nat.min_le_right n is.length)]
      exact h _
    · have hall := h (is.length + 1)
      rwa [List.take_of_length_le (by simp)] at hall
  · rintro ⟨hearlier, hnow⟩ n
    rcases Nat.lt_or_ge is.length n with hn | hn
    · rwa [List.take_of_length_le (List.length_append ▸ hn)]
    · rw [List.take_append_of_le_length hn]
      exact hearlier n

section Growth

variable (le : σ → σ → Prop) (hrefl : ∀ s, le s s) (htrans : ∀ a b c, le a b → le b c → le a c)
  (hgrow : ∀ s i, le s (f s i))

include hrefl htrans hgrow

theorem le_foldl : ∀ (is : List ι) (s : σ), le s (is.foldl f s)
  | [], s => hrefl s
  | i :: is, s => htrans _ _ _ (hgrow s i) (le_foldl is (f s i))

/-- **A pass that only adds**: it ends below where it began exactly when every step stays there. -/
theorem foldl_grows : le (is.foldl f s) s ↔ Along f (fun s i => le (f s i) s) s is := by
  induction is generalizing s with
  | nil => exact iff_of_true (hrefl s) trivial
  | cons i is ih =>
    rw [along_cons, ← ih, List.foldl_cons]
    constructor
    · intro h
      exact ⟨htrans _ _ _ (le_foldl le hrefl htrans hgrow is (f s i)) h, htrans _ _ _ h (hgrow s i)⟩
    · rintro ⟨hone, hrest⟩
      exact htrans _ _ _ hrest hone

end Growth

end

end Passes
