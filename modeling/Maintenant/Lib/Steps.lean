/-
  File:      Maintenant/Lib/Steps.lean
  Subject:   STEP FUNCTIONS KEPT AS LISTS. A record is in force from its own instant until the next
             one's; what is measured is the time during which the record in force has a property.
             No program fact.

  * `inForce time h x` -- the last record of `h` at or before the instant `x`;
  * `lasts p a b` -- how many instants of `[a, b)` have the property `p`;
  * `held time up h a b` -- the time of `[a, b)` during which the record in force is up;
  * `lasts_add`, `sum_periods` -- adjacent spans add up, and so do the periods of a longer span;
  * `held_recent` -- of the records before a span only the last one matters, of those after it none;
  * `held_add_diff` -- two properties of the records are up equally long, up to where they differ;
  * **`held_cons_cons`** -- the first of two records contributes its own span, clipped at both ends,
    and nothing else: the step of every loop that sums such spans;
  * `Ordered.split` -- an ordered list cut at a key.
-/
import Mathlib.Data.Int.Interval
import Mathlib.Data.List.GetD

namespace Steps

/-! ## 1. How long a property lasts -/

/-- The number of instants of `[a, b)` with the property. -/
def lasts (p : Int → Bool) (a b : Int) : Int :=
  -- the interval that computes; there is one by way of the complete order too
  ((@Finset.Ico Int _ Int.instLocallyFiniteOrder a b).filter fun x => p x = true).card

section

variable {p q : Int → Bool} {a b c : Int}

theorem lasts_congr (h : ∀ x, a ≤ x → x < b → p x = q x) : lasts p a b = lasts q a b := by
  refine congrArg (fun s : Finset Int => (s.card : Int)) (Finset.filter_congr fun x hx => ?_)
  rw [Finset.mem_Ico] at hx
  rw [h x hx.1 hx.2]

theorem lasts_add (hab : a ≤ b) (hbc : b ≤ c) : lasts p a b + lasts p b c = lasts p a c := by
  have hdisj := Finset.Ico_disjoint_Ico_consecutive a b c
  unfold lasts
  rw [← Finset.Ico_union_Ico_eq_Ico hab hbc, Finset.filter_union,
    Finset.card_union_of_disjoint (Finset.disjoint_filter_filter hdisj), Int.natCast_add]

theorem lasts_eq_zero_iff : lasts p a b = 0 ↔ ∀ x, a ≤ x → x < b → p x = false := by
  unfold lasts
  rw [Int.natCast_eq_zero, Finset.card_filter_eq_zero_iff]
  simp only [Finset.mem_Ico, Bool.not_eq_true, and_imp]

theorem lasts_of_le (h : b ≤ a) : lasts p a b = 0 := lasts_eq_zero_iff.mpr fun x _ _ => by omega

theorem lasts_eq_sub_iff (hab : a ≤ b) : lasts p a b = b - a ↔ ∀ x, a ≤ x → x < b → p x = true := by
  have hlength : b - a = (Finset.Ico a b).card := by
    rw [Int.card_Ico]
    omega
  unfold lasts
  rw [hlength, Int.natCast_inj, Finset.card_filter_eq_iff]
  simp only [Finset.mem_Ico, and_imp]

/-- Two properties of which only one holds at a time. -/
theorem lasts_or (hpq : ∀ x, p x = true → q x = false) (a b : Int) :
    lasts (fun x => p x || q x) a b = lasts p a b + lasts q a b := by
  have hdisj : Disjoint ((Finset.Ico a b).filter fun x => p x = true) ((Finset.Ico a b).filter fun x => q x = true) :=
    Finset.disjoint_filter.mpr fun x _ hp => by simp [hpq x hp]
  unfold lasts
  simp only [Bool.or_eq_true]
  rw [Finset.filter_or, Finset.card_union_of_disjoint hdisj, Int.natCast_add]

/-- What one of two properties has more of the time, it has while the other one does not hold. -/
theorem lasts_add_diff (p q : Int → Bool) (a b : Int) :
    lasts p a b + lasts (fun x => q x && !p x) a b = lasts q a b + lasts (fun x => p x && !q x) a b := by
  rw [← lasts_or (by simp +contextual), ← lasts_or (by simp +contextual)]
  refine lasts_congr fun x _ _ => ?_
  cases p x <;> cases q x <;> rfl

theorem lasts_between (c d a b : Int) :
    lasts (fun x => decide (c ≤ x ∧ x < d)) a b = max 0 (min b d - max a c) := by
  have hfilter : (Finset.Ico a b).filter (fun x => decide (c ≤ x ∧ x < d) = true) =
      Finset.Ico (max a c) (min b d) := by
    ext x
    simp only [Finset.mem_filter, Finset.mem_Ico, decide_eq_true_eq]
    omega
  unfold lasts
  rw [hfilter, Int.card_Ico]
  omega

end

/-- **Periods add up.** What is additive over adjacent spans adds up, over `n + 1` periods of length
    `d` of which the last one is cut off at `e`, to its value over the whole span. -/
theorem sum_periods {M : Type*} [AddCommMonoid M] (f : Int → Int → M)
    (hadd : ∀ a b c, a ≤ b → b ≤ c → f a b + f b c = f a c) {s d e : Int} (hs : s ≤ e) (hd : 0 ≤ d)
    (he : e ≤ s + d) (n : Nat) : ((List.range (n + 1)).map fun i : Nat => f (s - i * d) (min (s - i * d + d) e)).sum =
      f (s - n * d) e := by
  induction n with
  | zero =>
    have hmin : min (s + d) e = e := min_eq_right he
    simp [hmin]
  | succ n ih =>
    -- The next period is a whole one, and ends where the sum so far begins.
    have hstep : s - ((n + 1 : Nat) : Int) * d + d = s - n * d := by
      rw [Int.natCast_add, Int.natCast_one, Int.add_mul, Int.one_mul]
      omega
    have hn : 0 ≤ (n : Int) * d := Int.mul_nonneg (Int.natCast_nonneg n) hd
    rw [List.range_succ, List.map_append, List.sum_append, ih, List.map_singleton,
      List.sum_singleton, hstep, min_eq_left (by omega), add_comm]
    exact hadd _ _ _ (by omega) (by omega)

/-! ## 2. Records in the order of a key -/

section Ordered

variable {σ : Type*} {key : σ → Int} {h : List σ}

/-- In the order of the key. -/
def Ordered (key : σ → Int) (h : List σ) : Prop := h.Pairwise fun s t => key s ≤ key t

theorem Ordered.tail {s : σ} (hs : Ordered key (s :: h)) : Ordered key h :=
  (List.pairwise_cons.mp hs).2

theorem Ordered.head_le {s : σ} (hs : Ordered key (s :: h)) : ∀ t ∈ s :: h, key s ≤ key t :=
  List.forall_mem_cons.mpr ⟨Int.le_refl _, (List.pairwise_cons.mp hs).1⟩

theorem Ordered.filter (p : σ → Bool) (hs : Ordered key h) : Ordered key (h.filter p) :=
  List.Pairwise.filter p hs

/-- An ordered list is what lies before a key, and then what does not. -/
theorem Ordered.split (hs : Ordered key h) (c : Int) :
    h = h.filter (fun s => decide (key s < c)) ++ h.filter (fun s => decide (c ≤ key s)) := by
  induction h with
  | nil => rfl
  | cons s h ih =>
    by_cases hc : key s < c
    · have hnot : ¬c ≤ key s := by omega
      rw [List.filter_cons_of_pos (by simpa using hc), List.filter_cons_of_neg (by simpa using hnot),
        List.cons_append, ← ih hs.tail]
    · have hnone : h.filter (fun t => decide (key t < c)) = [] := by
        rw [List.filter_eq_nil_iff]
        intro t ht hlt
        have hle := hs.head_le t (List.mem_cons_of_mem _ ht)
        have hlt : key t < c := by simpa using hlt
        omega
      have hle : c ≤ key s := by omega
      have htail := ih hs.tail
      rw [hnone, List.nil_append] at htail
      rw [List.filter_cons_of_neg (by simpa using hc), List.filter_cons_of_pos (by simpa using hle),
        hnone, List.nil_append, ← htail]

/-- Of what lies from a key on, the last one is the last of all, if it does. -/
theorem Ordered.getLast?_filter (hs : Ordered key h) (c : Int) :
    (h.filter fun s => decide (c ≤ key s)).getLast? = h.getLast?.filter fun s => decide (c ≤ key s) := by
  rcases List.eq_nil_or_concat h with rfl | ⟨init, s, rfl⟩
  · rfl
  rw [List.concat_eq_append] at hs ⊢
  by_cases hc : c ≤ key s
  · simp [List.filter_append, hc, Option.filter]
  · have hnone : (init ++ [s]).filter (fun t => decide (c ≤ key t)) = [] := by
      rw [List.filter_eq_nil_iff]
      intro t ht
      have hle : key t ≤ key s := by
        rcases List.mem_append.mp ht with ht | ht
        · exact (List.pairwise_append.mp hs).2.2 t ht s List.mem_cons_self
        · rw [List.mem_singleton.mp ht]
      simp only [decide_eq_true_eq]
      omega
    simp [hnone, hc, Option.filter]

end Ordered

/-! ## 3. The record in force -/

section InForce

variable {σ : Type*} {time : σ → Int} {up : σ → Bool} {h : List σ} {x : Int}

/-- The last record at or before the instant. -/
def inForce (time : σ → Int) (h : List σ) (x : Int) : Option σ :=
  (h.filter fun s => decide (time s ≤ x)).getLast?

/-- The record in force is up. -/
def upAt (time : σ → Int) (up : σ → Bool) (h : List σ) (x : Int) : Bool := (inForce time h x).any up

/-- The time of `[a, b)` during which the record in force is up. -/
def held (time : σ → Int) (up : σ → Bool) (h : List σ) (a b : Int) : Int :=
  lasts (upAt time up h) a b

theorem inForce_of_all (hx : ∀ s ∈ h, time s ≤ x) : inForce time h x = h.getLast? := by
  unfold inForce
  rw [List.filter_eq_self.mpr]
  intro s hs
  exact decide_eq_true (hx s hs)

theorem inForce_eq_none (hx : ∀ s ∈ h, x < time s) : inForce time h x = none := by
  unfold inForce
  rw [List.getLast?_eq_none_iff, List.filter_eq_nil_iff]
  intro s hs
  have hlt := hx s hs
  simp only [decide_eq_true_eq]
  omega

/-- The record in force is one of the later part, if that has begun. -/
theorem inForce_append (h l : List σ) : inForce time (h ++ l) x = (inForce time l x).or (inForce time h x) := by
  unfold inForce
  rw [List.filter_append, List.getLast?_append]

theorem upAt_before (hx : ∀ s ∈ h, x < time s) : upAt time up h x = false := by
  unfold upAt
  rw [inForce_eq_none hx]
  rfl

variable {s : σ}

theorem upAt_cons_before (hx : ∀ t ∈ h, x < time t) :
    upAt time up (s :: h) x = (decide (time s ≤ x) && up s) := by
  have hcons : inForce time (s :: h) x = inForce time [s] x := by
    rw [← List.singleton_append, inForce_append, inForce_eq_none hx, Option.none_or]
  unfold upAt
  rw [hcons]
  unfold inForce
  by_cases hs : time s ≤ x
  · simp [hs]
  · simp [hs]

theorem upAt_cons_later {n : σ} (hn : n ∈ h) (hx : time n ≤ x) : upAt time up (s :: h) x = upAt time up h x := by
  have hmem : n ∈ h.filter fun s => decide (time s ≤ x) := List.mem_filter.mpr ⟨hn, decide_eq_true hx⟩
  have hcons : inForce time (s :: h) x = inForce time h x := by
    rw [← List.singleton_append, inForce_append]
    exact Option.or_of_isSome (List.getLast?_isSome.mpr (List.ne_nil_of_mem hmem))
  unfold upAt
  rw [hcons]

end InForce

/-! ## 4. Spans -/

section Spans

variable {σ : Type*} {time : σ → Int} {up : σ → Bool} {h : List σ} {a b : Int}

/-- What one record contributes that is in force until an instant. -/
theorem lasts_one (u : Bool) (c d a b : Int) : lasts (fun x => decide (c ≤ x ∧ x < d) && u) a b =
    if u then max 0 (min b d - max a c) else 0 := by
  cases u with
  | false => exact lasts_eq_zero_iff.mpr fun x _ _ => Bool.and_false _
  | true =>
    rw [if_pos rfl, ← lasts_between]
    exact lasts_congr fun x _ _ => Bool.and_true _

theorem held_nil (time : σ → Int) (up : σ → Bool) (a b : Int) : held time up [] a b = 0 :=
  lasts_eq_zero_iff.mpr fun _ _ _ => upAt_before (List.forall_mem_nil _)

theorem held_singleton (time : σ → Int) (up : σ → Bool) (s : σ) (a b : Int) :
    held time up [s] a b = if up s then max 0 (b - max a (time s)) else 0 := by
  have hone := lasts_one (up s) (time s) b a b
  rw [min_self] at hone
  refine Eq.trans (lasts_congr fun x _ hb => ?_) hone
  simp only [upAt_cons_before (List.forall_mem_nil _), hb, and_true]

/-- **The first of two records contributes its own span**, from its instant or the start of the
    window to the next record's instant or the end of the window. -/
theorem held_cons_cons {s n : σ} (hs : Ordered time (s :: n :: h)) (a b : Int) : held time up (s :: n :: h) a b =
      (if up s then max 0 (min b (time n) - max a (time s)) else 0) + held time up (n :: h) a b := by
  have hearly : ∀ {x}, x < time n → ∀ t ∈ n :: h, x < time t := fun hx t ht =>
    hx.trans_le (hs.tail.head_le t ht)
  unfold held
  rw [← lasts_one, ← lasts_or]
  · -- the first record is in force until the second one is
    refine lasts_congr fun x _ _ => ?_
    by_cases hx : time n ≤ x
    · simp [upAt_cons_later List.mem_cons_self hx, not_lt.mpr hx]
    · have hx := not_le.mp hx
      simp [upAt_cons_before (hearly hx), upAt_before (hearly hx), hx]
  · intro x hx
    simp only [Bool.and_eq_true, decide_eq_true_eq] at hx
    exact upAt_before (hearly hx.1.2)

/-- Of the records before a span only the last one matters, and of those after it none. -/
theorem held_recent {l₁ l₂ l₃ : List σ} (h₁ : ∀ s ∈ l₁, time s ≤ a)
    (h₃ : ∀ s ∈ l₃, b ≤ time s) :
    held time up (l₁ ++ l₂ ++ l₃) a b = held time up (l₁.getLast?.toList ++ l₂) a b := by
  refine lasts_congr fun x ha hb => ?_
  have hlast : ∀ s ∈ l₁.getLast?.toList, time s ≤ x := fun s hs =>
    (h₁ s (List.mem_of_getLast? (Option.mem_toList.mp hs))).trans ha
  unfold upAt
  rw [inForce_append, inForce_append, inForce_append, inForce_eq_none fun s hs => hb.trans_le (h₃ s hs),
    inForce_of_all fun s hs => (h₁ s hs).trans ha, inForce_of_all hlast, Option.none_or]
  cases l₁.getLast? <;> rfl

theorem held_add_diff (time : σ → Int) (up up' : σ → Bool) (h : List σ) (a b : Int) :
    held time up h a b + held time (fun s => up' s && !up s) h a b =
      held time up' h a b + held time (fun s => up s && !up' s) h a b := by
  have hdiff : ∀ up up' : σ → Bool, held time (fun s => up' s && !up s) h a b =
      lasts (fun x => upAt time up' h x && !upAt time up h x) a b := by
    intro up up'
    refine lasts_congr fun x _ _ => ?_
    unfold upAt
    cases inForce time h x <;> rfl
  rw [hdiff, hdiff]
  exact lasts_add_diff _ _ a b

end Spans

end Steps
