/-
  File:      Maintenant/Lib/Journal.lean
  Subject:   NUMBERED JOURNALS: rows numbered in the order they were appended, never renumbered,
             their numbers never used twice. No program fact.

  An AUTOINCREMENT table: `last` is the highest number ever given, also after its row is gone.
   * `append` numbers the new rows above `last`; `keep` deletes the rows a condition misses;
   * `Later`: what appends and deletes can do, in one relation;
   * `readFrom` reads a batch above a cursor, `readFrom_before`: between the cursor and a row of
     the batch there is no row that does not come before it in the batch;
   * `contents` is what the rows hold, in the order of their numbers, `gone` what a delete took.
-/
import Mathlib.Data.List.Chain
import Mathlib.Data.Multiset.Filter

/-- Rows in the order of their numbers. -/
structure Journal (α : Type) where
  rows : List (Nat × α)
  last : Nat
  sorted : rows.Pairwise fun r r' => r.1 < r'.1
  bounded : ∀ r ∈ rows, 0 < r.1 ∧ r.1 ≤ last

namespace Journal

variable {α : Type} {j : Journal α} {r r' : Nat × α}

instance : Membership (Nat × α) (Journal α) := ⟨fun j r => r ∈ j.rows⟩

def empty : Journal α := ⟨[], 0, .nil, List.forall_mem_nil _⟩

/-- One row has a number. -/
theorem eq_of_number (h : r ∈ j) (h' : r' ∈ j) (e : r.1 = r'.1) : r = r' := by
  have hnodup : (j.rows.map Prod.fst).Nodup := List.pairwise_map.mpr (j.sorted.imp Nat.ne_of_lt)
  exact List.inj_on_of_nodup_map hnodup h h' e

/-! ## 1. Appending -/

variable {xs : List α} {after limit : Nat}

/-- The elements with the numbers from `n` on. -/
def numbered : Nat → List α → List (Nat × α)
  | _, [] => []
  | n, x :: xs => (n, x) :: numbered (n + 1) xs

theorem number_of_numbered {n : Nat} (h : r ∈ numbered n xs) : n ≤ r.1 ∧ r.1 < n + xs.length := by
  induction xs generalizing n with
  | nil => cases h
  | cons _ _ ih =>
    rcases List.mem_cons.mp h with rfl | h
    · exact ⟨Nat.le_refl _, by simp⟩
    · have := ih h
      rw [List.length_cons]
      omega

theorem numbered_sorted (n : Nat) (xs : List α) : (numbered n xs).Pairwise fun r r' => r.1 < r'.1 := by
  induction xs generalizing n with
  | nil => exact .nil
  | cons _ _ ih =>
    refine List.pairwise_cons.mpr ⟨fun r hr => ?_, ih (n + 1)⟩
    have := number_of_numbered hr
    show n < r.1
    omega

/-- New rows, numbered above every number given so far. -/
def append (j : Journal α) (xs : List α) : Journal α where
  rows := j.rows ++ numbered (j.last + 1) xs
  last := j.last + xs.length
  sorted := by
    refine List.pairwise_append.mpr ⟨j.sorted, numbered_sorted _ _, fun r hr r' hr' => ?_⟩
    have h1 := (j.bounded r hr).2
    have h2 := (number_of_numbered hr').1
    omega
  bounded r hr := by
    rcases List.mem_append.mp hr with hr | hr
    · have := j.bounded r hr
      omega
    · have := number_of_numbered hr
      omega

theorem mem_of_append (h : r ∈ j.append xs) : r ∈ j ∨ j.last < r.1 := by
  rcases List.mem_append.mp h with h | h
  · exact Or.inl h
  · have := (number_of_numbered h).1
    exact Or.inr (by omega)

/-! ## 2. Deleting -/

/-- `DELETE … WHERE NOT p`. -/
def keep (j : Journal α) (p : Nat × α → Bool) : Journal α where
  rows := j.rows.filter p
  last := j.last
  sorted := j.sorted.filter p
  bounded r hr := j.bounded r (List.mem_filter.mp hr).1

theorem mem_keep {p : Nat × α → Bool} : r ∈ j.keep p ↔ r ∈ j ∧ p r = true := List.mem_filter

/-! ## 3. What happens to a journal over time -/

/-- `j'` is `j` after some appends and deletes: no number was given again. -/
structure Later (j j' : Journal α) : Prop where
  last : j.last ≤ j'.last
  rows : ∀ r ∈ j', r ∈ j ∨ j.last < r.1

theorem Later.refl (j : Journal α) : Later j j := ⟨Nat.le_refl _, fun _ => Or.inl⟩

theorem later_append (j : Journal α) (xs : List α) : Later j (j.append xs) :=
  ⟨Nat.le_add_right _ _, fun _ => mem_of_append⟩

theorem later_keep (j : Journal α) (p : Nat × α → Bool) : Later j (j.keep p) :=
  ⟨Nat.le_refl _, fun _ h => Or.inl (mem_keep.mp h).1⟩

/-- A row of the later journal that is numbered in the range of the earlier one was in it. -/
theorem Later.mem {j' : Journal α} (h : Later j j') (hr : r ∈ j') (hle : r.1 ≤ j.last) : r ∈ j := by
  rcases h.rows r hr with hr | hlt
  · exact hr
  · omega

/-! ## 4. Reading -/

/-- `SELECT … WHERE number > after ORDER BY number LIMIT limit`. -/
def readFrom (j : Journal α) (after limit : Nat) : List (Nat × α) :=
  (j.rows.filter fun r => decide (after < r.1)).take limit

theorem mem_readFrom (h : r ∈ j.readFrom after limit) : r ∈ j ∧ after < r.1 := by
  obtain ⟨hr, hlt⟩ := List.mem_filter.mp (List.mem_of_mem_take h)
  exact ⟨hr, of_decide_eq_true hlt⟩

/-- Nothing read: nothing lies above the cursor. -/
theorem le_of_readFrom_nil (hlim : 0 < limit) (h : j.readFrom after limit = []) (hr : r ∈ j) : r.1 ≤ after := by
  refine Nat.le_of_not_lt fun hlt => ?_
  rcases List.take_eq_nil_iff.mp h with hzero | hnil
  · omega
  · exact List.filter_eq_nil_iff.mp hnil r hr (decide_eq_true hlt)

/-- A batch has no gap: what lies between the cursor and a row of it comes before that row. -/
theorem readFrom_before {pre post : List (Nat × α)}
    (h : j.readFrom after limit = pre ++ r' :: post) (hr : r ∈ j) (hlow : after < r.1)
    (hup : r.1 < r'.1) : r ∈ pre := by
  have hall : (pre ++ r' :: post) ++ (j.rows.filter fun r => decide (after < r.1)).drop limit =
      j.rows.filter fun r => decide (after < r.1) := by
    rw [← h]
    exact List.take_append_drop _ _
  have hmem : r ∈ (pre ++ r' :: post) ++
      (j.rows.filter fun r => decide (after < r.1)).drop limit := by
    rw [hall]
    exact List.mem_filter.mpr ⟨hr, decide_eq_true hlow⟩
  have hsorted := j.sorted.filter fun r => decide (after < r.1)
  rw [← hall, List.append_assoc, List.pairwise_append] at hsorted
  rw [List.append_assoc, List.mem_append] at hmem
  rcases hmem with hmem | hmem
  · exact hmem
  · rw [List.cons_append] at hmem hsorted
    have hafter := (List.pairwise_cons.mp hsorted.2.1).1
    rcases List.mem_cons.mp hmem with rfl | hmem
    · exact absurd hup (Nat.lt_irrefl _)
    · have := hafter r hmem
      omega

/-- No row of the journal lies between the two. -/
def Adjacent (j : Journal α) (x y : Nat × α) : Prop := ∀ r ∈ j, r.1 ≤ x.1 ∨ y.1 ≤ r.1

theorem readFrom_head {xs : List (Nat × α)}
    (h : j.readFrom after limit = r' :: xs) (hr : r ∈ j) : r.1 ≤ after ∨ r'.1 ≤ r.1 := by
  by_cases hlow : after < r.1
  · refine Or.inr (Nat.le_of_not_lt fun hup => ?_)
    have hnil : r ∈ ([] : List (Nat × α)) := readFrom_before h hr hlow hup
    exact List.not_mem_nil hnil
  · exact Or.inl (Nat.le_of_not_lt hlow)

theorem readFrom_chain (j : Journal α) (after limit : Nat) : (j.readFrom after limit).IsChain j.Adjacent := by
  refine List.isChain_iff_forall_rel_of_append_cons_cons.mpr fun x y pre post hsplit r hr => ?_
  refine Classical.byContradiction fun hbetween => ?_
  have hsorted : (j.readFrom after limit).Pairwise fun r r' => r.1 < r'.1 :=
    (j.sorted.filter _).sublist (List.take_sublist _ _)
  have hx : x ∈ j.readFrom after limit := by
    rw [hsplit]
    exact List.mem_append_right _ List.mem_cons_self
  have hafter : after < x.1 := (mem_readFrom hx).2
  have hsplit' : j.readFrom after limit = (pre ++ [x]) ++ y :: post := by
    rw [hsplit, List.append_assoc, List.singleton_append]
  have hmem : r ∈ pre ++ [x] := readFrom_before hsplit' hr (by omega) (by omega)
  rw [hsplit] at hsorted
  rcases List.mem_append.mp hmem with hpre | hlast
  · have := (List.pairwise_append.mp hsorted).2.2 r hpre x List.mem_cons_self
    omega
  · obtain rfl := List.mem_singleton.mp hlast
    omega

/-! ## 5. What the rows hold -/

/-- In the order of the numbers. -/
def contents (j : Journal α) : List α := j.rows.map Prod.snd

theorem map_snd_numbered (n : Nat) (xs : List α) : (numbered n xs).map Prod.snd = xs := by
  induction xs generalizing n with
  | nil => rfl
  | cons _ _ ih => rw [numbered, List.map_cons, ih (n + 1)]

@[simp] theorem contents_append (j : Journal α) (xs : List α) : (j.append xs).contents = j.contents ++ xs := by
  rw [contents, append, List.map_append, map_snd_numbered]
  rfl

section Gone

variable [DecidableEq α]

/-- What rows of `j` that `j'` does not have held. -/
def gone (j j' : Journal α) : List α :=
  (j.rows.filter fun r => decide (r ∉ j'.rows)).map Prod.snd

/-- **A delete splits the contents** into what stays and what is gone. -/
theorem contents_keep_add_gone (j : Journal α) (p : Nat × α → Bool) :
    ((j.keep p).contents : Multiset α) + (j.gone (j.keep p) : Multiset α) = j.contents := by
  have hgone : (j.rows.filter fun r => decide (r ∉ (j.keep p).rows)) =
      j.rows.filter fun r => !p r := by
    refine List.filter_congr fun r hr => ?_
    simp [keep, hr]
  have hsplit : (j.rows.filter p ++ j.rows.filter fun r => !p r).Perm j.rows :=
    List.filter_append_perm p j.rows
  rw [contents, gone, hgone, keep, contents, Multiset.coe_add, ← List.map_append]
  exact Multiset.coe_eq_coe.mpr (hsplit.map _)

@[simp] theorem gone_self (j : Journal α) : j.gone j = [] := by
  rw [gone, List.map_eq_nil_iff, List.filter_eq_nil_iff]
  intro r hr
  simpa using hr

theorem length_gone_keep (j : Journal α) (p : Nat × α → Bool) :
    (j.gone (j.keep p)).length = j.rows.length - (j.keep p).rows.length := by
  have hcard := congrArg Multiset.card (contents_keep_add_gone j p)
  rw [Multiset.card_add, Multiset.coe_card, Multiset.coe_card, Multiset.coe_card] at hcard
  simp only [contents, List.length_map] at hcard
  omega

end Gone

/-- **Rows that come in the order of a list are numbered in that order.** -/
theorem number_lt_of_idxOf_lt [DecidableEq α] (hsub : j.contents.Sublist xs)
    (hnodup : xs.Nodup) (hr : r ∈ j) (hr' : r' ∈ j) (hlt : xs.idxOf r.2 < xs.idxOf r'.2) : r.1 < r'.1 := by
  have hxs : xs.Pairwise fun x y => xs.idxOf x < xs.idxOf y := by
    refine List.pairwise_iff_getElem.mpr fun i k hi hk hik => ?_
    rw [hnodup.idxOf_getElem, hnodup.idxOf_getElem]
    exact hik
  have hcontents : (j.rows.map Prod.snd).Pairwise fun x y => xs.idxOf x < xs.idxOf y :=
    hxs.sublist hsub
  rw [List.pairwise_map] at hcontents
  obtain ⟨i, hi, rfl⟩ := List.mem_iff_getElem.mp hr
  obtain ⟨k, hk, rfl⟩ := List.mem_iff_getElem.mp hr'
  rcases Nat.lt_trichotomy i k with hik | rfl | hki
  · exact List.pairwise_iff_getElem.mp j.sorted i k hi hk hik
  · exact absurd hlt (Nat.lt_irrefl _)
  · have := List.pairwise_iff_getElem.mp hcontents k i hk hi hki
    omega

end Journal
