/-
  File:      Maintenant/Lib/Prog.lean
  Subject:   PROGRAMS OF CALLS: a program is the tree of the calls it makes to its environment.

  `Prog ι β α` makes a call `i : ι`, goes on with the answer in `β i`, and ends with an `α`. A
  handler answers a call from a state, under a choice of the environment (what fails, how much
  time passes); the same program then has two readings:
   - run on its own (`exec`), with the rules of `wp` for what holds afterwards, under the
     choices a guard admits;
   - one thread among others (Lib/Pool.lean), with `Ahead`, `Grants`, `Releases` for
     what the rest of the tree may still call, on whose word, and no longer (`Unburdened` of a whole
     program), and `Once` for code with one call that matters.
-/
import Mathlib.Data.List.Nodup

/-- A program that calls its environment. -/
inductive Prog (ι : Type) (β : ι → Type) (α : Type) where
  | done (a : α)
  | call (i : ι) (k : β i → Prog ι β α)

namespace Prog

variable {ι : Type} {β : ι → Type} {α γ δ ρ : Type}

/-! ## 1. Sequencing -/

protected def bind : Prog ι β α → (α → Prog ι β γ) → Prog ι β γ
  | done a, f => f a
  | call i k, f => call i fun b => (k b).bind f

instance : Monad (Prog ι β) where
  pure := done
  bind := Prog.bind

/-- One call, its answer the result. -/
def ask (i : ι) : Prog ι β (β i) := call i done

/-- The body for each element in turn. -/
def forEach (body : δ → Prog ι β Unit) : List δ → Prog ι β Unit
  | [] => done ()
  | x :: xs => body x >>= fun _ => forEach body xs

@[simp] theorem forEach_cons (body : δ → Prog ι β Unit) (x : δ) (xs : List δ) :
    forEach body (x :: xs) = body x >>= fun _ => forEach body xs := rfl

protected theorem bind_assoc (p : Prog ι β α) (f : α → Prog ι β γ) (g : γ → Prog ι β δ) :
    (p >>= f) >>= g = p >>= fun a => f a >>= g := by
  induction p with
  | done a => rfl
  | call i k ih => exact congrArg (call i) (funext fun b => ih b)

theorem forEach_append (body : δ → Prog ι β Unit) (xs ys : List δ) :
    forEach body (xs ++ ys) = forEach body xs >>= fun _ => forEach body ys := by
  induction xs with
  | nil => rfl
  | cons _ _ ih =>
    rw [List.cons_append, forEach_cons, ih, forEach_cons, Prog.bind_assoc]

/-! ## 2. On its own: runs and weakest preconditions -/

variable {a : α} {i : ι} {f : β i → Prog ι β α} {g : α → Prog ι β γ} {p : Prog ι β α}
    {body : δ → Prog ι β Unit} {xs : List δ} {P stop : ι → Prop}

section Handler

variable {σ χ : Type} (h : χ → σ → (i : ι) → β i × σ) (ok : χ → ι → Bool)

/-- The run under a list of choices, one for each call; `none` when the list is too short. -/
def exec : Prog ι β α → List χ → σ → Option (α × σ)
  | done a, _, s => some (a, s)
  | call _ _, [], _ => none
  | call i k, x :: xs, s => exec (k (h x s i).1) xs (h x s i).2

/-- The run under a stream of choices. -/
def run : Prog ι β α → (Nat → χ) → σ → α × σ
  | done a, _, s => (a, s)
  | call i k, xs, s => run (k (h (xs 0) s i).1) (fun n => xs (n + 1)) (h (xs 0) s i).2

/-- Every choice of the run is `ok` for the call it is made at. -/
def meets : Prog ι β α → List χ → σ → Bool
  | done _, _, _ => true
  | call _ _, [], _ => true
  | call i k, x :: xs, s => ok x i && meets (k (h x s i).1) xs (h x s i).2

/-- Under every choice that is `ok`, at every call, the program ends in `Q`. -/
def wp : Prog ι β α → (α → σ → Prop) → σ → Prop
  | done a, Q, s => Q a s
  | call i k, Q, s => ∀ x, ok x i = true → wp (k (h x s i).1) Q (h x s i).2

variable {h ok} {Q R : α → σ → Prop} {s : σ}

theorem wp_ask : wp h ok (ask i >>= f) Q s ↔ ∀ x, ok x i = true → wp h ok (f (h x s i).1) Q (h x s i).2 :=
  Iff.rfl

/-- A call after which `I` holds: the rest is shown from every state with `I`. -/
theorem wp_ask_of {I : σ → Prop} (hI : ∀ x, I (h x s i).2)
    (hf : ∀ x, ok x i = true → ∀ s', I s' → wp h ok (f (h x s i).1) Q s') : wp h ok (ask i >>= f) Q s :=
  fun x hx => hf x hx _ (hI x)

theorem wp_mono (hQ : ∀ a s', Q a s' → R a s') (hp : wp h ok p Q s) : wp h ok p R s := by
  induction p generalizing s with
  | done a => exact hQ a s hp
  | call _ _ ih => exact fun x hx => ih _ (hp x hx)

theorem wp_bind {T : γ → σ → Prop} :
    wp h ok (p >>= g) T s ↔ wp h ok p (fun a => wp h ok (g a) T) s := by
  induction p generalizing s with
  | done => exact Iff.rfl
  | call _ _ ih => exact forall₂_congr fun x _ => ih _

/-- The loop rule: `I` speaks of the elements still to come. -/
theorem wp_forEach {I : List δ → σ → Prop}
    (hbody : ∀ x xs s, I (x :: xs) s → wp h ok (body x) (fun _ => I xs) s)
    (hs : I xs s) : wp h ok (forEach body xs) (fun _ => I []) s := by
  induction xs generalizing s with
  | nil => exact hs
  | cons x xs ih =>
    rw [forEach_cons, wp_bind]
    exact wp_mono (fun _ s' hI => ih hI) (hbody x xs s hs)

/-- What the body keeps for each element, the loop keeps. -/
theorem wp_forEach_mem {I : σ → Prop} (hbody : ∀ x ∈ xs, ∀ s, I s → wp h ok (body x) (fun _ => I) s)
    (hs : I s) : wp h ok (forEach body xs) (fun _ => I) s := by
  refine wp_mono (fun _ _ hI => hI.2) (wp_forEach (I := fun rest s' => (∀ x ∈ rest, x ∈ xs) ∧ I s')
    (fun x rest s' hI => ?_) ⟨fun _ => id, hs⟩)
  obtain ⟨hx, hrest⟩ := List.forall_mem_cons.mp hI.1
  exact wp_mono (fun _ _ h => ⟨hrest, h⟩) (hbody x hx s' hI.2)

theorem wp_and (hQ : wp h ok p Q s) (hR : wp h ok p R s) : wp h ok p (fun a s' => Q a s' ∧ R a s') s := by
  induction p generalizing s with
  | done => exact ⟨hQ, hR⟩
  | call _ _ ih => exact fun x hx => ih _ (hQ x hx) (hR x hx)

/-- **A run whose choices are `ok` ends as the weakest precondition says.** -/
theorem wp_exec {xs : List χ} {s' : σ} (hp : wp h ok p Q s)
    (hm : meets h ok p xs s = true) (he : exec h p xs s = some (a, s')) : Q a s' := by
  induction p generalizing s xs with
  | done =>
    obtain ⟨rfl, rfl⟩ := Prod.mk.inj (Option.some.inj he)
    exact hp
  | call _ _ ih =>
    cases xs with
    | nil => cases he
    | cons x =>
      obtain ⟨hx, hxs⟩ := Bool.and_eq_true_iff.mp hm
      exact ih _ (hp x hx) hxs he

theorem wp_run {xs : Nat → χ} (hp : wp h ok p Q s)
    (hxs : ∀ n i, ok (xs n) i = true) : Q (run h p xs s).1 (run h p xs s).2 := by
  induction p generalizing s xs with
  | done => exact hp
  | call i _ ih => exact ih _ (hp (xs 0) (hxs 0 i)) fun n => hxs (n + 1)

/-- Every choice is admitted. -/
def anyChoice : χ → ι → Bool := fun _ _ => true

theorem meets_anyChoice {xs : List χ} : meets h anyChoice p xs s = true := by
  induction p generalizing s xs with
  | done => rfl
  | call _ _ ih =>
    cases xs with
    | nil => rfl
    | cons => exact ih _

end Handler

/-! ## 3. Among others: what is still ahead -/

/-- A `hit` call may still come before any `stop` call. -/
def Ahead (stop hit : ι → Prop) : Prog ι β α → Prop
  | done _ => False
  | call i k => hit i ∨ ¬ stop i ∧ ∃ b, Ahead stop hit (k b)

/-- Some path makes a `hit` call. -/
def Ever (hit : ι → Prop) : Prog ι β α → Prop := Ahead (fun _ => False) hit

/-- Every call of every path is a `P` call. -/
def Always (P : ι → Prop) : Prog ι β α → Prop
  | done _ => True
  | call i k => P i ∧ ∀ b, Always P (k b)

/-- What is used after a `stop` call is what its answer gives. -/
def Grants (stop : ι → Prop) (uses : ι → ρ → Prop) (gives : (i : ι) → β i → ρ → Prop) :
    Prog ι β α → Prop
  | done _ => True
  | call i k => (stop i → ∀ b r, Ahead stop (uses · r) (k b) → gives i b r) ∧
      ∀ b, Grants stop uses gives (k b)

/-- Once a call ended the use of `r`, no use of `r` is ahead. -/
def Releases (stop : ι → Prop) (uses ends : ι → ρ → Prop) : Prog ι β α → Prop
  | done _ => True
  | call i k => (∀ r, ends i r → ∀ b, ¬ Ahead stop (uses · r) (k b)) ∧
      ∀ b, Releases stop uses ends (k b)

section Ahead

variable {stop hit : ι → Prop}

@[simp] theorem not_ahead_done : ¬ Ahead stop hit (done a : Prog ι β α) := fun h => h

theorem ahead_ask : Ahead stop hit (ask i >>= f) ↔ hit i ∨ ¬ stop i ∧ ∃ b, Ahead stop hit (f b) := Iff.rfl

/-- What is ahead after a call that does not stop was ahead before it. -/
theorem Ahead.before {k : β i → Prog ι β α} {b : β i} (hs : ¬ stop i)
    (h : Ahead stop hit (k b)) : Ahead stop hit (call i k) := Or.inr ⟨hs, b, h⟩

theorem Ahead.mono {stop' hit' : ι → Prop} (hstop : ∀ i, stop' i → stop i) (hhit : ∀ i, hit i → hit' i)
    (h : Ahead stop hit p) : Ahead stop' hit' p := by
  induction p with
  | done => exact h
  | call i _ ih =>
    rcases h with h | ⟨hs, b, hb⟩
    · exact Or.inl (hhit i h)
    · exact Or.inr ⟨mt (hstop i) hs, b, ih b hb⟩

theorem Ahead.ever (h : Ahead stop hit p) : Ever hit p := h.mono (fun _ => False.elim) fun _ => id

theorem ahead_bind (h : Ahead stop hit (p >>= g)) :
    Ahead stop hit p ∨ ∃ a, Ahead stop hit (g a) := by
  induction p with
  | done a => exact Or.inr ⟨a, h⟩
  | call _ _ ih =>
    rcases h with h | ⟨hs, b, hb⟩
    · exact Or.inl (Or.inl h)
    · rcases ih b hb with h | h
      · exact Or.inl (h.before hs)
      · exact Or.inr h

theorem ahead_forEach (h : Ahead stop hit (forEach body xs)) : ∃ x ∈ xs, Ahead stop hit (body x) := by
  induction xs with
  | nil => exact absurd h not_ahead_done
  | cons x _ ih =>
    rcases ahead_bind h with h | ⟨_, h⟩
    · exact ⟨x, List.mem_cons_self, h⟩
    · obtain ⟨y, hy, h⟩ := ih h
      exact ⟨y, List.mem_cons_of_mem x hy, h⟩

end Ahead

theorem Always.mono {P' : ι → Prop} (hP : ∀ i, P i → P' i) (h : Always P p) : Always P' p := by
  induction p with
  | done => exact trivial
  | call i _ ih => exact ⟨hP i h.1, fun b => ih b (h.2 b)⟩

/-- A call that some path makes is one of those every call is. -/
theorem Always.ever {hit : ι → Prop} (h : Always P p) (he : Ever hit p) : ∃ i, P i ∧ hit i := by
  induction p with
  | done => exact he.elim
  | call i _ ih =>
    rcases he with hi | ⟨_, b, hb⟩
    · exact ⟨i, h.1, hi⟩
    · exact ih b (h.2 b) hb

theorem Always.not_ahead {hit : ι → Prop} (h : Always P p) (hno : ∀ i, P i → ¬ hit i) :
    ¬ Ahead stop hit p := by
  intro hahead
  obtain ⟨i, hi, hhit⟩ := h.ever hahead.ever
  exact hno i hi hhit

@[simp] theorem always_done : Always P (done a : Prog ι β α) ↔ True := Iff.rfl

@[simp] theorem always_pure : Always P (pure a : Prog ι β α) ↔ True := Iff.rfl

@[simp] theorem always_ask_alone : Always P (ask i : Prog ι β (β i)) ↔ P i :=
  ⟨And.left, fun h => ⟨h, fun _ => trivial⟩⟩

@[simp] theorem always_ask_iff : Always P (ask i >>= f) ↔ P i ∧ ∀ b, Always P (f b) := Iff.rfl

@[simp] theorem always_ite {c : Prop} [Decidable c] {q : Prog ι β α} :
    Always P (if c then p else q) ↔ (c → Always P p) ∧ (¬c → Always P q) := by
  split <;> simp_all

theorem forall_except {ε : Type} {P : Except ε α → Prop} :
    (∀ r, P r) ↔ (∀ e, P (.error e)) ∧ ∀ a, P (.ok a) :=
  ⟨fun h => ⟨fun e => h _, fun a => h _⟩, fun h r => by cases r <;> simp [h]⟩

theorem always_ask (h : P i) (hf : ∀ b, Always P (f b)) : Always P (ask i >>= f) := ⟨h, hf⟩

theorem always_bind (hp : Always P p) (hf : ∀ a, Always P (g a)) : Always P (p >>= g) := by
  induction p with
  | done a => exact hf a
  | call _ _ ih => exact ⟨hp.1, fun b => ih b (hp.2 b)⟩

theorem always_forEach (h : ∀ x, Always P (body x)) : Always P (forEach body xs) := by
  induction xs with
  | nil => exact trivial
  | cons x _ ih => exact always_bind (h x) fun _ => ih

theorem always_of_forall (h : ∀ i, P i) (p : Prog ι β α) : Always P p := by
  induction p with
  | done => exact trivial
  | call i _ ih => exact ⟨h i, ih⟩

/-- **The frame rule**: what every call a program may make keeps, the program keeps. -/
theorem wp_always {σ χ : Type} {h : χ → σ → (i : ι) → β i × σ} {ok : χ → ι → Bool} {I : σ → Prop}
    (hI : ∀ i, P i → ∀ x s, ok x i = true → I s → I (h x s i).2) (hp : p.Always P) {s : σ} (hs : I s) :
    wp h ok p (fun _ => I) s := by
  induction p generalizing s with
  | done => exact hs
  | call i _ ih => exact fun x hx => ih _ (hp.2 _) (hI i hp.1 x s hx hs)

section Grants

variable {stop : ι → Prop} {uses : ι → ρ → Prop} {gives : (i : ι) → β i → ρ → Prop}

theorem grants_of_always (h : Always (fun i => ¬ stop i) p) : Grants stop uses gives p := by
  induction p with
  | done => exact trivial
  | call _ _ ih => exact ⟨fun hs => absurd hs h.1, fun b => ih b (h.2 b)⟩

theorem grants_ask (h : stop i → ∀ b r, Ahead stop (uses · r) (f b) → gives i b r)
    (hf : ∀ b, Grants stop uses gives (f b)) : Grants stop uses gives (ask i >>= f) := ⟨h, hf⟩

/-- Who uses nothing needs no grant. -/
theorem grants_of_no_use (h : Always (fun i => ∀ r, ¬ uses i r) p) : Grants stop uses gives p := by
  induction p with
  | done => exact trivial
  | call _ _ ih =>
    exact ⟨fun _ b r hb => absurd hb ((h.2 b).not_ahead fun _ hi => hi r), fun b => ih b (h.2 b)⟩

/-- What follows uses nothing it was not given later. -/
theorem grants_bind (hp : Grants stop uses gives p)
    (hf : ∀ a, Grants stop uses gives (g a)) (hno : ∀ a r, ¬ Ahead stop (uses · r) (g a)) :
    Grants stop uses gives (p >>= g) := by
  induction p with
  | done a => exact hf a
  | call _ _ ih =>
    refine ⟨fun hs b r hb => ?_, fun b => ih b (hp.2 b)⟩
    rcases ahead_bind hb with hb | ⟨a, ha⟩
    · exact hp.1 hs b r hb
    · exact absurd ha (hno a r)

end Grants

section Releases

variable {stop : ι → Prop} {uses ends : ι → ρ → Prop}

theorem releases_of_always (h : Always (fun i => ∀ r, ¬ ends i r) p) : Releases stop uses ends p := by
  induction p with
  | done => exact trivial
  | call _ _ ih => exact ⟨fun r hr => absurd hr (h.1 r), fun b => ih b (h.2 b)⟩

/-- Who uses nothing has nothing to release. -/
theorem releases_of_no_use (h : Always (fun i => ∀ r, ¬ uses i r) p) : Releases stop uses ends p := by
  induction p with
  | done => exact trivial
  | call _ _ ih =>
    exact ⟨fun r _ b => (h.2 b).not_ahead fun _ hi => hi r, fun b => ih b (h.2 b)⟩

theorem releases_ask (h : ∀ r, ends i r → ∀ b, ¬ Ahead stop (uses · r) (f b))
    (hf : ∀ b, Releases stop uses ends (f b)) : Releases stop uses ends (ask i >>= f) := ⟨h, hf⟩

theorem releases_bind (hp : Releases stop uses ends p) (hf : ∀ a, Releases stop uses ends (g a))
    (hpf : ∀ r, Ever (ends · r) p → ∀ a, ¬ Ahead stop (uses · r) (g a)) :
    Releases stop uses ends (p >>= g) := by
  induction p with
  | done a => exact hf a
  | call _ _ ih =>
    refine ⟨fun r hr b hb => ?_, fun b =>
      ih b (hp.2 b) fun r hr => hpf r (Or.inr ⟨id, b, hr⟩)⟩
    rcases ahead_bind hb with hb | ⟨a, ha⟩
    · exact hp.1 r hr b hb
    · exact hpf r (Or.inl hr) a ha

/-- A loop releases when each round has a resource of its own. -/
theorem releases_forEach {key : δ → ρ} (hbody : ∀ x, Releases stop uses ends (body x))
    (hends : ∀ x r, Ever (ends · r) (body x) → r = key x)
    (huses : ∀ x r, Ahead stop (uses · r) (body x) → r = key x)
    (hxs : (xs.map key).Nodup) : Releases stop uses ends (forEach body xs) := by
  induction xs with
  | nil => exact trivial
  | cons x _ ih =>
    rw [List.map_cons, List.nodup_cons] at hxs
    refine releases_bind (hbody x) (fun _ => ih hxs.2) fun r hr _ hb => hxs.1 ?_
    obtain ⟨y, hy, hb⟩ := ahead_forEach hb
    rw [← hends x r hr, huses y r hb]
    exact List.mem_map_of_mem hy

/-- Where nothing ends a use there is nothing to release. -/
theorem releases_never (p : Prog ι β α) : Releases stop uses (fun _ _ => False) p :=
  releases_of_always (always_of_forall (fun _ _ => id) p)

end Releases

/-! ## 4. Discipline -/

section Discipline

variable (stop : ι → Prop) (uses : ι → ρ → Prop) (gives : (i : ι) → β i → ρ → Prop)
  (ends : ι → ρ → Prop)

/-- What is used was given by the last `stop` call, and is used no more once a call ended that. -/
structure Disciplined (p : Prog ι β α) : Prop where
  grants : Grants stop uses gives p
  releases : Releases stop uses ends p

/-- The same of a program that was given nothing yet. -/
structure Unburdened (p : Prog ι β α) : Prop extends Disciplined stop uses gives ends p where
  first : ∀ r, ¬ Ahead stop (uses · r) p

variable {stop uses gives ends}

theorem Disciplined.next {k : β i → Prog ι β α} (h : Disciplined stop uses gives ends (call i k)) (b : β i) :
    Disciplined stop uses gives ends (k b) := ⟨h.grants.2 b, h.releases.2 b⟩

theorem unburdened_of_no_use (h : Always (fun i => ∀ r, ¬ uses i r) p) : Unburdened stop uses gives ends p :=
  ⟨⟨grants_of_no_use h, releases_of_no_use h⟩, fun r => h.not_ahead fun _ hi => hi r⟩

theorem unburdened_bind (hp : Unburdened stop uses gives ends p)
    (hf : ∀ a, Unburdened stop uses gives ends (g a)) : Unburdened stop uses gives ends (p >>= g) where
  grants := grants_bind hp.grants (fun a => (hf a).grants) fun a => (hf a).first
  releases := releases_bind hp.releases (fun a => (hf a).releases) fun r _ a => (hf a).first r
  first r h := by
    rcases ahead_bind h with h | ⟨a, h⟩
    · exact hp.first r h
    · exact (hf a).first r h

theorem unburdened_ask (hi : ∀ r, ¬ uses i r) (hf : ∀ b, Unburdened stop uses gives ends (f b)) :
    Unburdened stop uses gives ends (ask i >>= f) :=
  unburdened_bind (unburdened_of_no_use ⟨hi, fun _ => trivial⟩) hf

theorem unburdened_forEach (h : ∀ x, Unburdened stop uses gives ends (body x)) :
    Unburdened stop uses gives ends (forEach body xs) := by
  induction xs with
  | nil => exact unburdened_of_no_use trivial
  | cons x _ ih => exact unburdened_bind (h x) fun _ => ih

/-- A `stop` call, and what follows uses what it was given. -/
theorem unburdened_stop (hs : stop i) (hi : ∀ r, ¬ uses i r) (hends : ∀ r, ¬ ends i r)
    (hf : ∀ b, Disciplined stop uses gives ends (f b)) (hgives : ∀ b r, Ahead stop (uses · r) (f b) →
      gives i b r) :
    Unburdened stop uses gives ends (ask i >>= f) where
  grants := grants_ask (fun _ => hgives) fun b => (hf b).grants
  releases := releases_ask (fun r h => absurd h (hends r)) fun b => (hf b).releases
  first r h := by
    rcases ahead_ask.mp h with h | ⟨h, -⟩
    · exact hi r h
    · exact h hs

end Discipline

/-! ## 5. One call among calm ones -/

/-- Calm calls, and on each path at most one `hit` call among them. -/
def Once (calm hit : ι → Prop) : Prog ι β α → Prop
  | done _ => True
  | call i k => calm i ∧ (∀ b, Once calm hit (k b)) ∨ hit i ∧ ∀ b, Always calm (k b)

section Once

variable {calm hit : ι → Prop}

theorem once_of_always (h : Always calm p) : Once calm hit p := by
  induction p with
  | done => exact trivial
  | call _ _ ih => exact Or.inl ⟨h.1, fun b => ih b (h.2 b)⟩

theorem once_ask (hi : hit i) (hf : ∀ b, Always calm (f b)) : Once calm hit (ask i >>= f) := Or.inr ⟨hi, hf⟩

theorem once_calm (hp : Always calm p)
    (hf : ∀ a, Once calm hit (g a)) : Once calm hit (p >>= g) := by
  induction p with
  | done a => exact hf a
  | call _ _ ih => exact Or.inl ⟨hp.1, fun b => ih b (hp.2 b)⟩

theorem once_bind (hp : Once calm hit p)
    (hf : ∀ a, Always calm (g a)) : Once calm hit (p >>= g) := by
  induction p with
  | done a => exact once_of_always (hf a)
  | call _ _ ih =>
    rcases hp with ⟨hi, hk⟩ | ⟨hi, hk⟩
    · exact Or.inl ⟨hi, fun b => ih b (hk b)⟩
    · exact Or.inr ⟨hi, fun b => always_bind (hk b) hf⟩

theorem Once.mono {calm' hit' : ι → Prop} (hcalm : ∀ i, calm i → calm' i) (hhit : ∀ i, hit i → hit' i)
    (h : Once calm hit p) : Once calm' hit' p := by
  induction p with
  | done => exact trivial
  | call i _ ih =>
    rcases h with ⟨hi, hk⟩ | ⟨hi, hk⟩
    · exact Or.inl ⟨hcalm i hi, fun b => ih b (hk b)⟩
    · exact Or.inr ⟨hhit i hi, fun b => (hk b).mono hcalm⟩

theorem Once.always (h : Once calm hit p) : Always (fun i => calm i ∨ hit i) p := by
  induction p with
  | done => exact trivial
  | call _ _ ih =>
    rcases h with ⟨hi, hk⟩ | ⟨hi, hk⟩
    · exact ⟨Or.inl hi, fun b => ih b (hk b)⟩
    · exact ⟨Or.inr hi, fun b => (hk b).mono fun _ hj => Or.inl hj⟩

/-- What is not calm and still ahead is the one call. -/
theorem Once.ahead {use : ι → Prop} (h : Once calm hit p)
    (huse : ∀ i, use i → ¬ calm i) (ha : Ahead stop use p) : ∃ i, hit i ∧ use i := by
  obtain ⟨i, hi, hu⟩ := h.always.ever ha.ever
  exact ⟨i, hi.resolve_left (huse i hu), hu⟩

/-- Nothing is used after the one call. -/
theorem Once.releases {uses ends : ι → ρ → Prop}
    (h : Once calm hit p) (huses : ∀ i r, uses i r → ¬ calm i) (hends : ∀ i r, ends i r → ¬ calm i) :
    Releases stop uses ends p := by
  induction p with
  | done => exact trivial
  | call i _ ih =>
    rcases h with ⟨hi, hk⟩ | ⟨_, hk⟩
    · exact ⟨fun r hr => absurd hi (hends i r hr), fun b => ih b (hk b)⟩
    · exact ⟨fun r _ b => (hk b).not_ahead fun j hj hr => huses j r hr hj,
        fun b => releases_of_always ((hk b).mono fun j hj r hr => hends j r hr hj)⟩

end Once

end Prog
