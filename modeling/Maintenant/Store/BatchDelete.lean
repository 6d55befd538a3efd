/-
  File:      Maintenant/Store/BatchDelete.lean
  Subject:   DELETES IN BATCHES (internal/store/batchdelete.go).

  A run that the time budget, a stop or an error cuts short is left out: it deletes less, and the next
  run goes on from there.

  * **`deleteRowsWhere_eq`** -- the batches together delete every matching row and no other.
-/
import Mathlib.Data.List.Basic

namespace Maintenant.BatchDelete

variable {ρ : Type} {p : ρ → Bool}

/-- One statement: at most `n` of the matching rows. Which of them is the engine's choice; here the
    first ones. -/
def deleteBatch (p : ρ → Bool) : Nat → List ρ → List ρ
  | _, [] => []
  | 0, r :: rs => r :: rs
  | n + 1, r :: rs => if p r then deleteBatch p n rs else r :: deleteBatch p (n + 1) rs

/-- The loop: until a batch is not filled. -/
def runBatchedDelete (p : ρ → Bool) (batchSize : Nat) : Nat → List ρ → List ρ
  | 0, rs => rs
  | fuel + 1, rs =>
    let left := deleteBatch p batchSize rs
    let affected := rs.length - left.length
    if affected = 0 ∨ affected < batchSize then left else runBatchedDelete p batchSize fuel left

def defaultBatchSize : Nat := 1000

/-- `batchOpts.normalized`. -/
def normalizedBatch (batchSize : Int) : Nat := if batchSize ≤ 0 then defaultBatchSize else batchSize.toNat

theorem normalizedBatch_pos (batchSize : Int) : 0 < normalizedBatch batchSize := by
  unfold normalizedBatch
  split
  · decide
  · omega

/-- `deleteRowsWhere`: each round but the last deletes a row, so there are no more rounds than rows. -/
def deleteRowsWhere (p : ρ → Bool) (batchSize : Int) (rs : List ρ) : List ρ :=
  runBatchedDelete p (normalizedBatch batchSize) (rs.length + 1) rs

theorem deleteBatch_filter (n : Nat) (rs : List ρ) :
    (deleteBatch p n rs).filter (fun r => !p r) = rs.filter fun r => !p r := by
  induction rs generalizing n with
  | nil => cases n <;> rfl
  | cons r _ ih =>
    cases n with
    | zero => rfl
    | succ =>
      rw [deleteBatch]
      by_cases hr : p r = true
      · rw [if_pos hr, ih, List.filter_cons_of_neg (by simp [hr])]
      · rw [if_neg hr, List.filter_cons_of_pos (by simp [hr]), List.filter_cons_of_pos (by simp [hr]), ih]

/-- A batch takes as many rows as match, up to its size. -/
theorem deleteBatch_length (n : Nat) (rs : List ρ) :
    (deleteBatch p n rs).length + min n (rs.countP p) = rs.length := by
  induction rs generalizing n with
  | nil => cases n <;> rfl
  | cons r _ ih =>
    cases n with
    | zero =>
      rw [Nat.zero_min]
      rfl
    | succ n =>
      rw [deleteBatch]
      by_cases hr : p r = true
      · have h := ih n
        rw [if_pos hr, List.countP_cons_of_pos hr, List.length_cons]
        omega
      · have h := ih (n + 1)
        rw [if_neg hr, List.countP_cons_of_neg hr, List.length_cons, List.length_cons]
        omega

theorem deleteBatch_countP (n : Nat) (rs : List ρ) :
    (deleteBatch p n rs).countP p + min n (rs.countP p) = rs.countP p := by
  have hlength := deleteBatch_length (p := p) n rs
  have hleft := List.length_eq_length_filter_add (l := deleteBatch p n rs) p
  have hall := List.length_eq_length_filter_add (l := rs) p
  rw [deleteBatch_filter] at hleft
  simp only [List.countP_eq_length_filter] at hlength ⊢
  omega

theorem runBatchedDelete_eq {n : Nat} (hn : 0 < n) (fuel : Nat) (rs : List ρ) (hfuel : rs.countP p < fuel) :
    runBatchedDelete p n fuel rs = rs.filter fun r => !p r := by
  induction fuel generalizing rs with
  | zero => omega
  | succ _ ih =>
    have hlength := deleteBatch_length (p := p) n rs
    have hcount := deleteBatch_countP (p := p) n rs
    rw [runBatchedDelete]
    by_cases hlast : rs.length - (deleteBatch p n rs).length = 0 ∨
        rs.length - (deleteBatch p n rs).length < n
    · -- A batch that is not filled leaves no matching row.
      have hnone : (deleteBatch p n rs).countP p = 0 := by omega
      rw [if_pos hlast, ← deleteBatch_filter n rs, List.filter_eq_self.mpr]
      intro r hr
      have hr := List.countP_eq_zero.mp hnone r hr
      simpa using hr
    · rw [if_neg hlast, ih _ (by omega), deleteBatch_filter]

/-- Every matching row goes, and no other. -/
theorem deleteRowsWhere_eq (p : ρ → Bool) (batchSize : Int) (rs : List ρ) :
    deleteRowsWhere p batchSize rs = rs.filter fun r => !p r := by
  have hle := List.countP_le_length (p := p) (l := rs)
  exact runBatchedDelete_eq (normalizedBatch_pos batchSize) _ _ (by omega)

/-- If no row asked for goes, the answer is the same. -/
theorem filter_of_imp {q : ρ → Bool} {rs : List ρ} (himp : ∀ r ∈ rs, p r = true → q r = true) :
    (rs.filter q).filter p = rs.filter p := by
  rw [List.filter_filter]
  refine List.filter_congr fun r hr => ?_
  cases hp : p r with
  | false => rfl
  | true => simp [himp r hr hp]

end Maintenant.BatchDelete
