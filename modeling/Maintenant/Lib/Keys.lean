/-
  File:      Maintenant/Lib/Keys.lean
  Subject:   KEYS THAT PROGRAMS DRAW, AND ROWS THAT ARE USED ONCE. No program fact.

  Programs of a pool store rows under keys they have drawn. Where no key is drawn twice, no key is stored twice, not
  even after its row is gone; and where a row can be used only as long as it is not spent, each key is used at most
  once.

  * `Minting`, `Minted`, `minted_start`, `minted_run` -- keys are stored once;
  * `Spending` -- a table of such rows with the keys that were stored and used, and what each statement does to it.
-/
import Maintenant.Lib.Pool
import Maintenant.Lib.Table

namespace Keys

/-! ## 1. Stored once -/

section Stored

variable {ι : Type} {β : ι → Type} {σ χ κ ρ : Type}

/-- The programs store keys of their own only, one by one. -/
structure Minting (M : Machine ι β σ χ κ) (stores : ι → ρ → Prop) (owns : κ → ρ → Prop)
    (stored : σ → List ρ) : Prop where
  forks : ∀ i, M.forks i = none
  own : ∀ op, (M.body op).Always fun i => ∀ r, stores i r → owns op r
  grows : ∀ x s i, stored (M.handle x s i).2 = stored s ∨
    ∃ r, stores i r ∧ stored (M.handle x s i).2 = stored s ++ [r]

/-- Nobody has drawn or stored the keys of a new operation, and it stores each at most once. -/
structure Unseen (M : Machine ι β σ χ κ) (stores : ι → ρ → Prop) (owns : κ → ρ → Prop)
    (stored : σ → List ρ) (p : Pool ι β σ κ) (op : κ) : Prop where
  once : (M.body op).Releases (fun _ => False) stores stores
  unstored : ∀ r, owns op r → r ∉ stored p.world
  unowned : ∀ t ∈ p.threads, ∀ r, owns op r → ¬ owns t.1 r

/-- No key is stored twice, and none that is stored is still ahead. -/
structure Minted (stores : ι → ρ → Prop) (owns : κ → ρ → Prop) (stored : σ → List ρ)
    (p : Pool ι β σ κ) : Prop where
  nodup : (stored p.world).Nodup
  own : ∀ t ∈ p.threads, t.2.Always fun i => ∀ r, stores i r → owns t.1 r
  once : ∀ t ∈ p.threads, t.2.Releases (fun _ => False) stores stores
  ahead : ∀ t ∈ p.threads, ∀ r, t.2.Ever (stores · r) → r ∉ stored p.world
  apart : ∀ (m m' : Nat) (t t' : κ × Prog ι β Unit), p.threads[m]? = some t →
    p.threads[m']? = some t' → m ≠ m' → ∀ r, owns t.1 r → ¬ owns t'.1 r

variable {M : Machine ι β σ χ κ} {stores : ι → ρ → Prop} {owns : κ → ρ → Prop}
  {stored : σ → List ρ} {p : Pool ι β σ κ}

variable (h : Minted stores owns stored p)

include h

/-- A key that a thread may still store is its own. -/
theorem Minted.owns_of_ever {t : κ × Prog ι β Unit} (ht : t ∈ p.threads) {r : ρ}
    (hr : t.2.Ever (stores · r)) : owns t.1 r := by
  obtain ⟨i, hown, hi⟩ := (h.own t ht).ever hr
  exact hown r hi

variable {op : κ}

variable (hM : Minting M stores owns stored)

include hM

theorem minted_start (hnew : Unseen M stores owns stored p op) :
    Minted stores owns stored (⟨p.world, p.threads ++ [(op, M.body op)]⟩ : Pool ι β σ κ) := by
  refine ⟨h.nodup, Pool.forall_start h.own (hM.own op), Pool.forall_start h.once hnew.once,
    Pool.forall_start h.ahead fun r hr => ?_, fun m m' t t' hm hm' hne r hr => ?_⟩
  · obtain ⟨i, hown, hi⟩ := (hM.own op).ever hr
    exact hnew.unstored r (hown r hi)
  · rcases Pool.get_start hm with hold | ⟨hlast, rfl⟩
    · rcases Pool.get_start hm' with hold' | ⟨_, rfl⟩
      · exact h.apart m m' t t' hold hold' hne r hr
      · exact fun hr' => hnew.unowned t (List.mem_of_getElem? hold) r hr' hr
    · rcases Pool.get_start hm' with hold' | ⟨hlast', _⟩
      · exact hnew.unowned t' (List.mem_of_getElem? hold') r hr
      · exact absurd (hlast.trans hlast'.symm) hne

/-- A key that a call stores is neither there nor ahead any more, for nobody. -/
theorem Minted.not_ahead {n : Nat} {x : χ} {i : ι} {k : β i → Prog ι β Unit} {r : ρ}
    (hn : p.threads[n]? = some (op, .call i k)) (hr : stores i r) :
    ∀ t ∈ (Pool.after M p n x op i k).threads, ¬ t.2.Ever (stores · r) := by
  have hmem := List.mem_of_getElem? hn
  intro t ht hever
  obtain ⟨m, hm⟩ := List.mem_iff_getElem?.mp ht
  rcases Pool.get_run hm with ⟨_, rfl⟩ | ⟨hne, hold⟩ | ⟨child, hchild, _⟩
  · exact (h.once _ hmem).1 r hr _ hever
  · have howns : owns t.1 r := h.owns_of_ever (List.mem_of_getElem? hold) hever
    exact h.apart m n t _ hold hn hne r howns (h.owns_of_ever hmem (Or.inl hr))
  · simp [hM.forks i] at hchild

theorem minted_run {n : Nat} {x : χ} {i : ι} {k : β i → Prog ι β Unit}
    (hn : p.threads[n]? = some (op, .call i k)) :
    Minted stores owns stored (Pool.after M p n x op i k) := by
  have hmem := List.mem_of_getElem? hn
  have hworld : (Pool.after M p n x op i k).world = (M.handle x p.world i).2 := rfl
  -- what was ahead of a thread before the call
  have hbefore : ∀ t ∈ (Pool.after M p n x op i k).threads, ∀ r, t.2.Ever (stores · r) →
    r ∉ stored p.world :=
    Pool.forall_run (hM.forks i) h.ahead fun r hr => h.ahead _ hmem r (hr.before fun hf => hf)
  refine ⟨?_, Pool.forall_run (hM.forks i) h.own ((h.own _ hmem).2 _),
    Pool.forall_run (hM.forks i) h.once ((h.once _ hmem).2 _), fun t ht r hr => ?_,
      fun m m' t t' hm hm' hne r hr => ?_⟩
  · rcases hM.grows x p.world i with hsame | ⟨r, hr, hgrown⟩
    · rw [hworld, hsame]
      exact h.nodup
    · rw [hworld, hgrown]
      refine List.Nodup.append h.nodup (List.nodup_singleton r) (List.disjoint_singleton.mpr ?_)
      exact h.ahead _ hmem r (Or.inl hr)
  · rcases hM.grows x p.world i with hsame | ⟨r', hr', hgrown⟩
    · rw [hworld, hsame]
      exact hbefore t ht r hr
    · rw [hworld, hgrown, List.mem_append, List.mem_singleton, not_or]
      refine ⟨hbefore t ht r hr, fun heq => ?_⟩
      rw [heq] at hr
      exact h.not_ahead hM hn hr' t ht hr
  · -- the operations of the threads stay the same
    have hops : ∀ (m : Nat) t, (Pool.after M p n x op i k).threads[m]? = some t →
        ∃ t₀, p.threads[m]? = some t₀ ∧ t₀.1 = t.1 := by
      intro m t hm
      rcases Pool.get_run hm with ⟨rfl, rfl⟩ | ⟨_, hold⟩ | ⟨child, hchild, _⟩
      · exact ⟨_, hn, rfl⟩
      · exact ⟨t, hold, rfl⟩
      · simp [hM.forks i] at hchild
    obtain ⟨t₀, hm₀, ht₀⟩ := hops m t hm
    obtain ⟨t₀', hm₀', ht₀'⟩ := hops m' t' hm'
    rw [← ht₀']
    rw [← ht₀] at hr
    exact h.apart m m' t₀ t₀' hm₀ hm₀' hne r hr

omit h hM

theorem minted_begin {s : σ} (hs : (stored s).Nodup) : Minted stores owns stored (⟨s, []⟩ : Pool ι β σ κ) :=
  ⟨hs, List.forall_mem_nil _, List.forall_mem_nil _, List.forall_mem_nil _, fun _ _ _ _ hm => nomatch hm⟩

end Stored

/-! ## 2. Used once -/

section Used

variable {ρ κ : Type} {pk : ρ → κ}

/-- Rows with the keys that were ever stored, and those that were used; a used row is spent. -/
structure Spending (rows : Table pk) (spent : ρ → Bool) (stored used : List κ) : Prop where
  known : ∀ r ∈ rows, pk r ∈ stored
  once : used.Nodup
  stored : ∀ k ∈ used, k ∈ stored
  gone : ∀ r ∈ rows, pk r ∈ used → spent r = true

namespace Spending

variable {rows rows' : Table pk} {spent : ρ → Bool} {stored used : List κ}

variable (h : Spending rows spent stored used)

include h

theorem insert [DecidableEq κ] {r : ρ} (hi : rows.insert r = some rows')
    (hnew : pk r ∉ stored) : Spending rows' spent (stored ++ [pk r]) used := by
  refine ⟨fun x hx => ?_, h.once, fun k hk => List.mem_append_left _ (h.stored k hk), fun x hx hused => ?_⟩
  · rcases (Table.mem_insert hi).mp hx with hx | rfl
    · exact List.mem_append_left _ (h.known x hx)
    · exact List.mem_append_right _ (List.mem_singleton_self _)
  · rcases (Table.mem_insert hi).mp hx with hx | rfl
    · exact h.gone x hx hused
    · exact absurd (h.stored _ hused) hnew

/-- An update that unspends nothing. -/
theorem update {p : ρ → Bool} (f : ρ → ρ) (hf : ∀ r, pk (f r) = pk r)
    (hspent : ∀ r, spent r = true → spent (f r) = true) : Spending (rows.update p f hf) spent stored used := by
  have hpk : ∀ r, pk (if p r then f r else r) = pk r := by
    intro r
    split
    · exact hf r
    · rfl
  refine ⟨fun x hx => ?_, h.once, h.stored, fun x hx hused => ?_⟩
  · obtain ⟨r, hr, rfl⟩ := Table.mem_update.mp hx
    rw [hpk r]
    exact h.known r hr
  · obtain ⟨r, hr, rfl⟩ := Table.mem_update.mp hx
    rw [hpk r] at hused
    split
    · exact hspent r (h.gone r hr hused)
    · exact h.gone r hr hused

/-- The use of a row that is not spent. -/
theorem use [DecidableEq κ] {k : κ} {r : ρ} (f : ρ → ρ) (hf : ∀ r, pk (f r) = pk r)
    (hget : rows.get k = some r) (hunspent : spent r = false) (hspent : ∀ r, spent (f r) = true) :
    Spending (rows.update (fun r => pk r == k) f hf) spent stored (used ++ [k]) := by
  obtain ⟨hr, hk⟩ := Table.get_eq_some.mp hget
  have hunused : k ∉ used := by
    intro hmem
    rw [← hk] at hmem
    simp [h.gone r hr hmem] at hunspent
  have hall := h.update (p := fun r => pk r == k) f hf fun r _ => hspent r
  refine ⟨hall.known, List.Nodup.append h.once (List.nodup_singleton k) (List.disjoint_singleton.mpr hunused),
    fun k' hk' => ?_, fun x hx hused => ?_⟩
  · rcases List.mem_append.mp hk' with hk' | hk'
    · exact h.stored k' hk'
    · rw [List.mem_singleton.mp hk', ← hk]
      exact h.known r hr
  · rcases Table.mem_update_key.mp hx with ⟨hx', hne⟩ | ⟨y, _, _, rfl⟩
    · rcases List.mem_append.mp hused with hused | hused
      · exact hall.gone x hx hused
      · exact absurd (List.mem_singleton.mp hused) hne
    · exact hspent y

theorem delete {p : ρ → Bool} : Spending (rows.delete p) spent stored used :=
  ⟨fun x hx => h.known x (Table.mem_delete.mp hx).1, h.once, h.stored, fun x hx =>
    h.gone x (Table.mem_delete.mp hx).1⟩

end Spending

end Used

end Keys
