/-
  File:      Maintenant/Push/Budget.lean
  Subject:   WHAT THE DISK BUDGET DROPS (`DeleteOldestBytes` of internal/agent/spool_store.go).

  The statement picks the rows BEFORE which the target is not reached, and deletes up to the last of them.

  * `shortest_oldest` -- these rows are the shortest prefix that reaches the target;
  * `deleteOldestBytes_shortest` -- so the delete takes that prefix, or all that was scanned.
-/
import Maintenant.Push.Spool

namespace Maintenant.Push.SpoolStore

variable {target total : Int} {r : Row} {rows scanned gone : List Row}

def bytes (rows : List Row) : Int := (rows.map Row.size).sum

/-- The shortest prefix that reaches the target, or all the rows when they do not reach it. -/
def Shortest (target : Int) (scanned gone : List Row) : Prop :=
  gone <+: scanned ∧
    if target ≤ bytes scanned then target ≤ bytes gone ∧ ∀ p, p <+: scanned →
      target ≤ bytes p → gone <+: p
    else gone = scanned

theorem bytes_cons : bytes (r :: rows) = r.size + bytes rows := List.sum_cons

theorem bytes_nonneg (rows : List Row) : 0 ≤ bytes rows := by
  induction rows with
  | nil => exact Int.le_refl 0
  | cons r rows ih => exact Int.add_nonneg (Int.natCast_nonneg _) ih

/-- The scanned rows before which the total is below the target. -/
def oldest (target total : Int) (rows : List Row) : List Row :=
  ((runningTotals total rows).filter fun x => decide (x.2 - x.1.size < target)).map fun x => x.1

theorem total_le_of_mem {x : Row × Int} (h : x ∈ runningTotals total rows) : total ≤ x.2 - x.1.size := by
  induction rows generalizing total with
  | nil => cases h
  | cons r rows ih =>
    rcases List.mem_cons.mp h with rfl | h
    · dsimp only
      omega
    · have hsize : 0 ≤ r.size := Int.natCast_nonneg _
      have hle := ih h
      omega

theorem oldest_cons : oldest target total (r :: rows) =
    if total < target then r :: oldest target (total + r.size) rows else [] := by
  unfold oldest
  split
  · rw [runningTotals, List.filter_cons_of_pos (by simpa), List.map_cons]
  · rw [List.filter_eq_nil_iff.mpr, List.map_nil]
    intro x hx
    have hle := total_le_of_mem hx
    simp only [decide_eq_true_eq]
    omega

theorem shortest_nil (h : target ≤ 0) : Shortest target scanned [] := by
  refine ⟨List.nil_prefix, ?_⟩
  rw [if_pos (h.trans (bytes_nonneg scanned))]
  exact ⟨h, fun _ _ _ => List.nil_prefix⟩

theorem Shortest.cons (h : Shortest (target - r.size) scanned gone) (htarget : 0 < target) :
    Shortest target (r :: scanned) (r :: gone) := by
  obtain ⟨hpre, h⟩ := h
  refine ⟨(List.prefix_cons_inj r).mpr hpre, ?_⟩
  rw [bytes_cons, bytes_cons]
  split
  · rw [if_pos (by omega)] at h
    refine ⟨by omega, fun p hp hreach => ?_⟩
    cases p with
    | nil => exact absurd htarget (Int.not_lt.mpr hreach)
    | cons r' p =>
      obtain ⟨rfl, hrest⟩ := List.cons_prefix_cons.mp hp
      rw [bytes_cons] at hreach
      exact (List.prefix_cons_inj r').mpr (h.2 p hrest (by omega))
  · rw [if_neg (by omega)] at h
    rw [h]

theorem shortest_oldest (target : Int) (rows : List Row) (total : Int) :
    Shortest (target - total) rows (oldest target total rows) := by
  induction rows generalizing total with
  | nil =>
    refine ⟨List.prefix_rfl, ?_⟩
    split
    · next h => exact ⟨h, fun _ _ _ => List.nil_prefix⟩
    · rfl
  | cons r rows ih =>
    rw [oldest_cons]
    split
    · refine Shortest.cons ?_ (by omega)
      rw [Int.sub_sub]
      exact ih (total + r.size)
    · exact shortest_nil (by omega)

theorem any_max {l : List Nat} {n : Nat} :
    (l.max?.any fun last => decide (n ≤ last)) = true ↔ ∃ m ∈ l, n ≤ m := by
  cases h : l.max? with
  | none => simp [List.max?_eq_none_iff.mp h]
  | some last =>
    obtain ⟨hmem, hle⟩ := List.max?_eq_some_iff.mp h
    simp only [Option.any_some, decide_eq_true_eq]
    exact ⟨fun hn => ⟨last, hmem, hn⟩, fun ⟨m, hm, hn⟩ => hn.trans (hle m hm)⟩

/-- **The delete takes the shortest prefix that reaches the target**, or all the scanned rows; what it leaves is
    newer. -/
theorem deleteOldestBytes_shortest (st : SpoolStore) (target : Int) : ∃ gone kept, st.events.rows = gone ++ kept ∧
    (st.deleteOldestBytes target).events.rows = kept ∧ (∀ r ∈ gone, ∀ r' ∈ kept, r.1 < r'.1) ∧
      Shortest target (st.events.rows.take spoolDropScanLimit) gone := by
  have hshort := shortest_oldest target (st.events.rows.take spoolDropScanLimit) 0
  rw [Int.sub_zero] at hshort
  obtain ⟨kept, hrows⟩ := hshort.1.trans (List.take_prefix _ _)
  have hsorted := st.events.sorted
  rw [← hrows] at hsorted
  have hnewer := (List.pairwise_append.mp hsorted).2.2
  refine ⟨_, kept, hrows.symm, ?_, hnewer, hshort⟩
  have hlast :
    st.oldestBytes target = ((oldest target 0 (st.events.rows.take spoolDropScanLimit)).map Prod.fst).max? := by
    rw [oldest, List.map_map]
    rfl
  generalize oldest target 0 (st.events.rows.take spoolDropScanLimit) = gone at hrows hnewer hlast ⊢
  show (st.events.rows.filter fun r => !(st.oldestBytes target).any fun last => decide (r.1 ≤ last)) = kept
  rw [hlast, ← hrows, List.filter_append, List.filter_eq_nil_iff.mpr, List.filter_eq_self.mpr, List.nil_append]
  · intro r' hr'
    rw [Bool.not_eq_true', ← Bool.not_eq_true, any_max]
    rintro ⟨_, hm, hle⟩
    obtain ⟨r, hr, rfl⟩ := List.mem_map.mp hm
    exact absurd (hnewer r hr r' hr') (Nat.not_lt.mpr hle)
  · intro r hr
    rw [Bool.not_eq_true', Bool.not_eq_false, any_max]
    exact ⟨r.1, List.mem_map_of_mem hr, Nat.le_refl _⟩

end Maintenant.Push.SpoolStore
