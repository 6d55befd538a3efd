/-
  File:      Maintenant/Lib/GoMap.lean
  Subject:   FINITE MAPS THAT ARE RANGED OVER. Go's maps are Mathlib's association lists
             (`AList`, no key twice); this file adds what a `for k, v := range m` loop needs:
             the entries a condition selects, and the map without them.
-/
import Mathlib.Data.List.AList

namespace GoMap

variable {κ β : Type} [DecidableEq κ]

/-- The values under the keys `p` selects, in the order of the entries. -/
def valuesWhere (m : AList fun _ : κ => β) (p : κ → Bool) : List β :=
  (m.entries.filter fun e => p e.1).map fun e => e.2

/-- `delete(m, k)` for every listed key. -/
def eraseAll (m : AList fun _ : κ => β) (ks : List κ) : AList fun _ : κ => β :=
  ks.foldl (fun m k => m.erase k) m

/-- `delete(m, k)` for every key `p` selects. -/
def eraseWhere (m : AList fun _ : κ => β) (p : κ → Bool) : AList fun _ : κ => β :=
  eraseAll m (m.keys.filter p)

variable {m : AList fun _ : κ => β} {k : κ} {v : β}

theorem lookup_insert (k' : κ) : (m.insert k v).lookup k' = if k' = k then some v else m.lookup k' := by
  by_cases hk : k' = k
  · rw [if_pos hk, hk, AList.lookup_insert]
  · rw [if_neg hk, AList.lookup_insert_ne hk]

theorem lookup_erase (k' : κ) : (m.erase k).lookup k' = if k' = k then none else m.lookup k' := by
  by_cases hk : k' = k
  · rw [if_pos hk, hk, AList.lookup_erase]
  · rw [if_neg hk, AList.lookup_erase_ne hk]

theorem lookup_eraseAll (m : AList fun _ : κ => β) (ks : List κ) (k : κ) :
    (eraseAll m ks).lookup k = if k ∈ ks then none else m.lookup k := by
  induction ks generalizing m with
  | nil => simp [eraseAll]
  | cons k' ks ih =>
    have e : eraseAll m (k' :: ks) = eraseAll (m.erase k') ks := rfl
    rw [e, ih, lookup_erase]
    by_cases hk : k = k' <;> simp [hk]

theorem lookup_eq_some : m.lookup k = some v ↔ (⟨k, v⟩ : Sigma fun _ : κ => β) ∈ m.entries :=
  AList.mem_lookup_iff

theorem mem_keys_of_lookup (h : m.lookup k = some v) :
    k ∈ m.keys := AList.mem_keys.mp (AList.lookup_isSome.mp (by rw [h]; rfl))

/-- **The map without the selected keys**: their entries are gone, the others stay. -/
theorem lookup_eraseWhere (m : AList fun _ : κ => β) (p : κ → Bool) (k : κ) :
    (eraseWhere m p).lookup k = if p k then none else m.lookup k := by
  unfold eraseWhere
  rw [lookup_eraseAll]
  cases hp : p k with
  | false => simp [hp]
  | true =>
    by_cases hk : k ∈ m.keys
    · simp [hp, hk]
    · have hnone : m.lookup k = none := by
        cases hl : m.lookup k with
        | none => rfl
        | some => exact absurd (mem_keys_of_lookup hl) hk
      simp [hnone]

/-- **The selected values are the entries of the selected keys.** -/
theorem mem_valuesWhere {p : κ → Bool} : v ∈ valuesWhere m p ↔ ∃ k, p k = true ∧ m.lookup k = some v := by
  unfold valuesWhere
  simp only [List.mem_map, List.mem_filter]
  constructor
  · rintro ⟨⟨k, w⟩, ⟨he, hp⟩, rfl⟩
    exact ⟨k, hp, lookup_eq_some.mpr he⟩
  · rintro ⟨k, hp, hl⟩
    exact ⟨⟨k, v⟩, ⟨lookup_eq_some.mp hl, hp⟩, rfl⟩

/-- All the values, in the order of the entries. -/
def values (m : AList fun _ : κ => β) : List β := m.entries.map fun e => e.2

theorem mem_values : v ∈ values m ↔ ∃ k, m.lookup k = some v := by
  have hall : values m = valuesWhere m fun _ => true := by rw [values, valuesWhere, List.filter_true]
  simp only [hall, mem_valuesWhere, true_and]

theorem values_insert (v : β) (h : m.lookup k = none) : values (m.insert k v) = v :: values m := by
  rw [values, AList.entries_insert_of_notMem (AList.lookup_eq_none.mp h)]
  rfl

/-- A key takes its value along. -/
theorem perm_values_erase (h : m.lookup k = some v) : (values m).Perm (v :: values (m.erase k)) := by
  obtain ⟨w, l₁, l₂, -, hl, he⟩ := List.exists_of_kerase (mem_keys_of_lookup h)
  have hw : m.lookup k = some w := lookup_eq_some.mpr (by rw [hl]; simp)
  obtain rfl : w = v := Option.some.inj (hw.symm.trans h)
  have herase : values (m.erase k) = (l₁ ++ l₂).map fun e => e.2 := congrArg (List.map _) he
  rw [herase, values, hl, List.map_append, List.map_append, List.map_cons]
  exact List.perm_middle

/-- `m[f(v)] = v` for every listed value, in order. -/
def insertAll (f : β → κ) (m : AList fun _ : κ => β) (l : List β) : AList fun _ : κ => β :=
  l.foldl (fun m v => m.insert (f v) v) m

/-- A filled map holds the last listed value of a key, and its old entries under the other keys. -/
theorem lookup_insertAll (f : β → κ) (l : List β) (m : AList fun _ : κ => β) (k : κ) :
    (insertAll f m l).lookup k = (l.reverse.find? fun b => f b == k).or (m.lookup k) := by
  induction l generalizing m with
  | nil => rfl
  | cons a l ih =>
    have e : insertAll f m (a :: l) = insertAll f (m.insert (f a) a) l := rfl
    rw [e, ih, lookup_insert, List.reverse_cons, List.find?_append, Option.or_assoc]
    by_cases hk : f a = k
    · simp [hk]
    · simp [hk, Ne.symm hk]

/-- Whatever is found in a map filled from nothing was listed, and is under its own key. -/
theorem mem_of_insertAll {f : β → κ} {l : List β} (h : (insertAll f ∅ l).lookup k = some v) :
    v ∈ l ∧ f v = k := by
  rw [lookup_insertAll, AList.lookup_empty, Option.or_none] at h
  have hk := List.find?_some h
  exact ⟨List.mem_reverse.mp (List.mem_of_find?_eq_some h), beq_iff_eq.mp hk⟩

/-- **A map filled from values with different keys** holds each value under its key. -/
theorem insertAll_of_mem {f : β → κ} {l : List β} (hinj : ∀ a ∈ l, ∀ b ∈ l, f a = f b → a = b)
    (hv : v ∈ l) : (insertAll f ∅ l).lookup (f v) = some v := by
  obtain ⟨w, hw⟩ : ∃ w, (insertAll f ∅ l).lookup (f v) = some w := by
    rw [lookup_insertAll, AList.lookup_empty, Option.or_none, ← Option.isSome_iff_exists, List.find?_isSome]
    exact ⟨v, List.mem_reverse.mpr hv, beq_self_eq_true _⟩
  obtain ⟨hl, hk⟩ := mem_of_insertAll hw
  rw [hw, hinj w hl v hv hk]

end GoMap
