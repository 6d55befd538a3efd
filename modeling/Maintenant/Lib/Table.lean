/-
  File:      Maintenant/Lib/Table.lean
  Subject:   SQL TABLES WITH A PRIMARY KEY. A table is a list of rows together with the proof
             that no two rows share their key; the statements below keep it. No program fact.

  * `Table.insert` refuses a key that is taken (`none`, the constraint violation);
  * `Table.update` is `UPDATE … SET f WHERE p` for an `f` that keeps the key;
  * `Table.upsert` is `INSERT … ON CONFLICT DO UPDATE SET f`;
  * `Table.delete` is `DELETE … WHERE p`; `Table.get` is `SELECT … WHERE key = k`,
    `Table.select` is `SELECT … WHERE p ORDER BY le`, its rows again with different keys;
  * `Table.count` is `SELECT COUNT(*) … WHERE p`, with what each statement does to it.
  Each statement has one membership lemma; no caller looks inside `rows`.
-/
import Mathlib.Data.List.Sort

/-- Rows with pairwise different keys. -/
structure Table {ρ κ : Type} (pk : ρ → κ) where
  rows : List ρ
  nodup : (rows.map pk).Nodup

namespace Table

variable {ρ κ : Type} {pk : ρ → κ}

instance : Membership ρ (Table pk) := ⟨fun t r => r ∈ t.rows⟩

instance [DecidableEq ρ] (r : ρ) (t : Table pk) : Decidable (r ∈ t) :=
  inferInstanceAs (Decidable (r ∈ t.rows))

instance (t : Table pk) (p : ρ → Prop) [DecidablePred p] : Decidable (∀ r ∈ t, p r) :=
  inferInstanceAs (Decidable (∀ r ∈ t.rows, p r))

variable {t t' : Table pk} {r x : ρ} {k : κ} {p : ρ → Bool} {f : ρ → ρ} {hf : ∀ r, pk (f r) = pk r}

theorem mem_rows : r ∈ t.rows ↔ r ∈ t := Iff.rfl

def empty : Table pk := ⟨[], List.nodup_nil⟩

@[simp] theorem not_mem_empty (r : ρ) : ¬ r ∈ (empty : Table pk) := List.not_mem_nil

/-- Two rows with the same key are the same row. -/
theorem eq_of_key (t : Table pk) {r' : ρ} (h : r ∈ t) (h' : r' ∈ t) (e : pk r = pk r') :
    r = r' := List.inj_on_of_nodup_map t.nodup h h' e

/-- `UPDATE … SET f WHERE p`, for a change that keeps the key. -/
def update (t : Table pk) (p : ρ → Bool) (f : ρ → ρ) (hf : ∀ r, pk (f r) = pk r) : Table pk :=
  ⟨t.rows.map fun r => if p r then f r else r, by
    have e : (t.rows.map fun r => if p r then f r else r).map pk = t.rows.map pk := by
      rw [List.map_map]
      refine List.map_congr_left fun r _ => ?_
      simp only [Function.comp]
      split
      · exact hf r
      · rfl
    rw [e]
    exact t.nodup⟩

theorem mem_update : x ∈ t.update p f hf ↔ ∃ r ∈ t, x = if p r then f r else r := by
  rw [← mem_rows, update]
  simp only [List.mem_map, mem_rows, eq_comm]

/-- `DELETE … WHERE p`. -/
def delete (t : Table pk) (p : ρ → Bool) : Table pk :=
  ⟨t.rows.filter fun r => !p r, (List.filter_sublist.map pk).nodup t.nodup⟩

theorem mem_delete : r ∈ t.delete p ↔ r ∈ t ∧ p r = false := by
  rw [← mem_rows, delete, List.mem_filter, mem_rows, Bool.not_eq_true']

/-- A delete that may not be made. -/
theorem mem_ite_delete {c : Prop} [Decidable c] :
    r ∈ (if c then t.delete p else t) ↔ r ∈ t ∧ (c → p r = false) := by
  split
  · next hc => rw [mem_delete, forall_prop_of_true hc]
  · next hc => rw [forall_prop_of_false hc, and_true]

/-- The rows of a query, their keys pairwise different. -/
def Rows (pk : ρ → κ) : Type := { rs : List ρ // (rs.map pk).Nodup }

/-- `SELECT … WHERE p ORDER BY le`. -/
def select (t : Table pk) (p : ρ → Bool) (le : ρ → ρ → Prop) [DecidableRel le] : Rows pk :=
  ⟨(t.rows.filter p).insertionSort le, by
    rw [((List.perm_insertionSort le (t.rows.filter p)).map pk).nodup_iff]
    exact (List.filter_sublist.map pk).nodup t.nodup⟩

theorem mem_select {le : ρ → ρ → Prop} [DecidableRel le] :
    r ∈ (t.select p le).val ↔ r ∈ t ∧ p r = true := by
  unfold select
  rw [List.mem_insertionSort, List.mem_filter, mem_rows]

/-- `SELECT COUNT(*) … WHERE p`. -/
def count (t : Table pk) (p : ρ → Bool) : Nat := t.rows.countP p

/-- A change that makes no row count makes the count no larger. -/
theorem count_update_le (t : Table pk) (q : ρ → Bool) (f : ρ → ρ) (hf : ∀ r, pk (f r) = pk r)
    (h : ∀ r, q r = true → p (f r) = true → p r = true) : (t.update q f hf).count p ≤ t.count p := by
  unfold count update
  rw [List.countP_map]
  refine List.countP_mono_left fun r _ hr => ?_
  simp only [Function.comp] at hr
  split at hr
  · rename_i hq
    exact h r hq hr
  · exact hr

variable [DecidableEq κ]

/-- The key is taken. -/
def hasKey (t : Table pk) (k : κ) : Bool := decide (k ∈ t.rows.map pk)

theorem hasKey_iff : t.hasKey k = true ↔ ∃ r ∈ t, pk r = k := by
  simp only [hasKey, decide_eq_true_eq, List.mem_map, mem_rows]

theorem hasKey_eq_false : t.hasKey k = false ↔ ∀ r ∈ t, pk r ≠ k := by
  rw [← Bool.not_eq_true, hasKey_iff]
  simp only [not_exists, not_and, ne_eq]

/-- `INSERT`: the new row last, or `none` when its key is taken. -/
def insert (t : Table pk) (r : ρ) : Option (Table pk) :=
  if h : pk r ∈ t.rows.map pk then none
  else some ⟨t.rows ++ [r], by
    rw [List.map_append, List.map_singleton]
    exact List.Nodup.append t.nodup (List.nodup_singleton _)
      (List.disjoint_singleton.mpr h)⟩

theorem insert_isSome (h : t.hasKey (pk r) = false) : ∃ t', t.insert r = some t' := by
  rw [hasKey, decide_eq_false_iff_not] at h
  exact ⟨_, dif_neg h⟩

theorem insert_eq_none : t.insert r = none ↔ t.hasKey (pk r) = true := by
  unfold insert hasKey
  split <;> simp_all

theorem insert_fresh (h : t.insert r = some t') : t.hasKey (pk r) = false := by
  cases hk : t.hasKey (pk r) with
  | false => rfl
  | true => rw [insert_eq_none.mpr hk] at h; cases h

/-- The rows of an insert: the old ones and the new one, at the end. -/
theorem rows_insert (h : t.insert r = some t') : t'.rows = t.rows ++ [r] := by
  unfold insert at h
  split at h
  · cases h
  · cases h; rfl

theorem mem_insert (h : t.insert r = some t') : x ∈ t' ↔ x ∈ t ∨ x = r := by
  rw [← mem_rows, rows_insert h, List.mem_append, List.mem_singleton, mem_rows]

/-- **`UPDATE … WHERE key = k` changes the row of that key and no other.** -/
theorem mem_update_key : x ∈ t.update (fun r => pk r == k) f hf ↔
      (x ∈ t ∧ pk x ≠ k) ∨ ∃ r ∈ t, pk r = k ∧ x = f r := by
  rw [mem_update]
  constructor
  · rintro ⟨r, hr, rfl⟩
    by_cases hk : pk r = k
    · exact Or.inr ⟨r, hr, hk, by simp [hk]⟩
    · exact Or.inl ⟨by simpa [hk] using hr, by simp [hk]⟩
  · rintro (⟨hx, hk⟩ | ⟨r, hr, hk, rfl⟩)
    · exact ⟨x, hx, by simp [hk]⟩
    · exact ⟨r, hr, by simp [hk]⟩

/-- `SELECT … WHERE key = k`. -/
def get (t : Table pk) (k : κ) : Option ρ := t.rows.find? fun r => pk r == k

theorem get_eq_some : t.get k = some r ↔ r ∈ t ∧ pk r = k := by
  unfold get
  constructor
  · intro h
    exact ⟨List.mem_of_find?_eq_some h, by simpa using List.find?_some h⟩
  · rintro ⟨hr, e⟩
    cases hf : t.rows.find? fun r => pk r == k with
    | none =>
      have := List.find?_eq_none.mp hf r hr
      simp [e] at this
    | some r' =>
      have hr' : r' ∈ t := List.mem_of_find?_eq_some hf
      have e' : pk r' = k := by simpa using List.find?_some hf
      rw [t.eq_of_key hr' hr (e'.trans e.symm)]

theorem get_eq_none : t.get k = none ↔ t.hasKey k = false := by
  rw [hasKey_eq_false, get, List.find?_eq_none]
  simp [mem_rows]

/-- A new row is found under its key. -/
theorem get_insert (h : t.insert r = some t') (k : κ) :
    t'.get k = if k = pk r then some r else t.get k := by
  unfold get
  rw [rows_insert h, List.find?_append]
  by_cases e : k = pk r
  · have hnone : t.rows.find? (fun r' => pk r' == k) = none := by
      rw [e]
      exact get_eq_none.mpr (insert_fresh h)
    rw [hnone, if_pos e, Option.none_or, List.find?_singleton, if_pos (beq_iff_eq.mpr e.symm)]
  · rw [if_neg e, List.find?_singleton, if_neg (mt beq_iff_eq.mp (Ne.symm e)), Option.or_none]

/-- An update changes what `get` answers by its change. -/
theorem get_update : (t.update p f hf).get k = (t.get k).map fun r => if p r then f r else r := by
  unfold get update
  rw [List.find?_map]
  congr 2
  funext r
  simp only [Function.comp]
  split
  · rw [hf r]
  · rfl

theorem get_update_of_not (h : ∀ r, pk r = k → p r = false) : (t.update p f hf).get k = t.get k := by
  rw [get_update]
  cases hk : t.get k with
  | none => rfl
  | some r => simp [h r (get_eq_some.mp hk).2]

/-- `UPDATE … WHERE key = k`, of a row that is there. -/
theorem get_update_key {k' : κ} (h : t.get k = some r) :
    (t.update (fun r => pk r == k) f hf).get k' = if k' = k then some (f r) else t.get k' := by
  by_cases e : k' = k
  · have hr : (pk r == k) = true := beq_iff_eq.mpr (get_eq_some.mp h).2
    rw [if_pos e, e, get_update, h, Option.map_some, if_pos hr]
  · rw [if_neg e]
    exact get_update_of_not fun r hr => beq_eq_false_iff_ne.mpr (hr ▸ e)

/-- `INSERT … ON CONFLICT DO UPDATE SET f`, for a change that keeps the key. -/
def upsert (t : Table pk) (r : ρ) (f : ρ → ρ) (hf : ∀ r, pk (f r) = pk r) : Table pk :=
  match t.insert r with
  | some t' => t'
  | none => t.update (fun r' => pk r' == pk r) f hf

/-- **An upsert** puts the new row under its key, or the changed one that was there. -/
theorem get_upsert (k : κ) :
    (t.upsert r f hf).get k = if k = pk r then some ((t.get k).elim r f) else t.get k := by
  unfold upsert
  cases hi : t.insert r with
  | some =>
    rw [get_insert hi]
    refine ite_congr rfl (fun hk => ?_) fun _ => rfl
    rw [hk, get_eq_none.mpr (insert_fresh hi)]
    rfl
  | none =>
    obtain ⟨old, hmem, hold⟩ := hasKey_iff.mp (insert_eq_none.mp hi)
    have hget : t.get (pk r) = some old := get_eq_some.mpr ⟨hmem, hold⟩
    rw [get_update_key hget]
    refine ite_congr rfl (fun hk => ?_) fun _ => rfl
    rw [hk, hget]
    rfl

theorem count_insert (h : t.insert r = some t') (p : ρ → Bool) :
    t'.count p = t.count p + if p r then 1 else 0 := by
  unfold count
  rw [rows_insert h, List.countP_append, List.countP_singleton]

/-- A change of one key makes at most one more row count. -/
theorem count_update_key_le (hf : ∀ r, pk (f r) = pk r)
    (p : ρ → Bool) : (t.update (fun r => pk r == k) f hf).count p ≤ t.count p + 1 := by
  have hlist : ∀ l : List ρ, (l.map pk).Nodup →
      (l.map fun r => if pk r == k then f r else r).countP p ≤ l.countP p + 1 := by
    intro l
    induction l with
    | nil => intro _; simp
    | cons r l ih =>
      intro hnd
      rw [List.map_cons, List.nodup_cons] at hnd
      rw [List.map_cons, List.countP_cons, List.countP_cons]
      by_cases hk : pk r = k
      · -- no other row has the key
        have hrest : (l.map fun r => if pk r == k then f r else r) = l := by
          refine (List.map_congr_left fun x hx => ?_).trans (List.map_id l)
          have hx' : pk x ≠ k := fun e => hnd.1 (List.mem_map.mpr ⟨x, hx, e.trans hk.symm⟩)
          simp [hx']
        rw [hrest]
        split <;> split <;> omega
      · have hr : (if pk r == k then f r else r) = r := by simp [hk]
        have hrest := ih hnd.2
        rw [hr]
        omega
  exact hlist t.rows t.nodup

theorem count_upsert_le (p : ρ → Bool) : (t.upsert r f hf).count p ≤ t.count p + 1 := by
  unfold upsert
  cases hi : t.insert r with
  | some =>
    rw [count_insert hi]
    split <;> omega
  | none => exact count_update_key_le hf p

end Table
