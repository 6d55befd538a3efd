/-
  File:      Maintenant/Lib/Pool.lean
  Subject:   A POOL OF PROGRAMS that share one state and interleave call by call.

  A machine says how a call is answered, what program an operation is, which operation a call
  forks off, and which may start beside those in progress. A move starts an operation or lets
  one thread make its next call, under a choice of the environment. `step_start` and `step_run`
  say everything a move can do, `get_run` what every thread is after one, `Pool.inv` is the invariant
  rule. `good_of_reach` is the rule for what programs do only on the word of an answer.
-/
import Maintenant.Lib.Prog
import Maintenant.Lib.Runs

/-- Shared state, calls, operations. -/
structure Machine (ι : Type) (β : ι → Type) (σ χ κ : Type) where
  handle : χ → σ → (i : ι) → β i × σ
  body : κ → Prog ι β Unit
  forks : ι → Option κ
  /-- May the operation start beside these in progress? -/
  admits : List κ → κ → Bool

/-- The shared state and the threads, each with the operation it runs. -/
structure Pool (ι : Type) (β : ι → Type) (σ κ : Type) where
  world : σ
  threads : List (κ × Prog ι β Unit)

namespace Pool

variable {ι : Type} {β : ι → Type} {σ χ κ : Type}

inductive Move (χ κ : Type) where
  | start (op : κ)
  | run (n : Nat) (x : χ)

/-- The operations still in progress. -/
def inProgress (threads : List (κ × Prog ι β Unit)) : List κ :=
  threads.filterMap fun t => match t.2 with
    | .done _ => none
    | .call _ _ => some t.1

/-- The pool after thread `n`, running `op`, made call `i` under choice `x`. -/
def after (M : Machine ι β σ χ κ) (p : Pool ι β σ κ) (n : Nat) (x : χ) (op : κ) (i : ι)
    (k : β i → Prog ι β Unit) : Pool ι β σ κ :=
  ⟨(M.handle x p.world i).2, p.threads.set n (op, k (M.handle x p.world i).1) ++
    (M.forks i).toList.map fun child => (child, M.body child)⟩

def step (M : Machine ι β σ χ κ) (p : Pool ι β σ κ) : Move χ κ → Option (Pool ι β σ κ)
  | .start op =>
    if M.admits (inProgress p.threads) op then some ⟨p.world, p.threads ++ [(op, M.body op)]⟩
    else none
  | .run n x =>
    match p.threads[n]? with
    | some (op, .call i k) => some (after M p n x op i k)
    | _ => none

variable {M : Machine ι β σ χ κ} {p p' : Pool ι β σ κ}

variable {op : κ} {n m : Nat} {x : χ} {t : κ × Prog ι β Unit} {i : ι} {k : β i → Prog ι β Unit}

theorem step_start (h : step M p (.start op) = some p') : M.admits (inProgress p.threads) op = true ∧
      p' = ⟨p.world, p.threads ++ [(op, M.body op)]⟩ := by
  simp only [step] at h
  split at h
  · rename_i ha
    exact ⟨ha, (Option.some.inj h).symm⟩
  · cases h

theorem step_run (h : step M p (.run n x) = some p') :
    ∃ op i k, p.threads[n]? = some (op, .call i k) ∧ p' = after M p n x op i k := by
  simp only [step] at h
  split at h
  · rename_i op i k hn
    exact ⟨op, i, k, hn, (Option.some.inj h).symm⟩
  · cases h

/-- A thread after a start is an old one or the new operation. -/
theorem get_start (ht : (p.threads ++ [(op, M.body op)])[m]? = some t) :
    p.threads[m]? = some t ∨ m = p.threads.length ∧ t = (op, M.body op) := Runs.get_concat.mp ht

/-- A thread after a call is the caller going on, another one unchanged, or the fork. -/
theorem get_run (ht : (after M p n x op i k).threads[m]? = some t) :
    (m = n ∧ t = (op, k (M.handle x p.world i).1)) ∨ (m ≠ n ∧ p.threads[m]? = some t) ∨
      ∃ child, M.forks i = some child ∧ m = p.threads.length ∧ t = (child, M.body child) := by
  unfold after at ht
  rcases Nat.lt_or_ge m p.threads.length with hm | hm
  · rw [List.getElem?_append_left (by simpa using hm), List.getElem?_set] at ht
    by_cases hnm : n = m
    · rw [if_pos hnm, if_pos (hnm ▸ hm)] at ht
      exact Or.inl ⟨hnm.symm, (Option.some.inj ht).symm⟩
    · rw [if_neg hnm] at ht
      exact Or.inr (Or.inl ⟨fun h => hnm h.symm, ht⟩)
  · rw [List.getElem?_append_right (by simpa using hm), List.length_set] at ht
    cases hf : M.forks i with
    | none => simp [hf] at ht
    | some child =>
      rw [hf] at ht
      obtain ⟨hlt, rfl⟩ := List.getElem?_eq_some_iff.mp ht
      simp only [Option.toList_some, List.map_cons, List.map_nil, List.length_singleton,
        Nat.lt_one_iff] at hlt
      exact Or.inr (Or.inr ⟨child, rfl, by omega, by simp [hlt]⟩)

/-- The other threads stay where they are. -/
theorem get_run_other (hmn : m ≠ n) (ht : p.threads[m]? = some t) : (after M p n x op i k).threads[m]? = some t := by
  have hm : m < p.threads.length := (List.getElem?_eq_some_iff.mp ht).1
  unfold after
  rw [List.getElem?_append_left (by simpa using hm), List.getElem?_set_ne (Ne.symm hmn)]
  exact ht

/-- The caller goes on with the answer. -/
theorem get_run_self (ht : p.threads[n]? = some t) :
    (after M p n x op i k).threads[n]? = some (op, k (M.handle x p.world i).1) := by
  have hn : n < p.threads.length := (List.getElem?_eq_some_iff.mp ht).1
  unfold after
  rw [List.getElem?_append_left (by simpa using hn), List.getElem?_set_self hn]

/-- What holds of every thread, and of the new operation. -/
theorem forall_start {Q : κ × Prog ι β Unit → Prop} (hold : ∀ t ∈ p.threads, Q t) (hnew : Q (op, M.body op)) :
    ∀ t ∈ p.threads ++ [(op, M.body op)], Q t :=
  List.forall_mem_append.mpr ⟨hold, List.forall_mem_singleton.mpr hnew⟩

/-- What holds of every thread, and of the caller going on, where nothing is forked. -/
theorem forall_run {Q : κ × Prog ι β Unit → Prop} (hforks : M.forks i = none) (hold : ∀ t ∈ p.threads, Q t)
    (hself : Q (op, k (M.handle x p.world i).1)) : ∀ t ∈ (after M p n x op i k).threads, Q t := by
  intro t ht
  obtain ⟨m, hm⟩ := List.mem_iff_getElem?.mp ht
  rcases get_run hm with ⟨_, rfl⟩ | ⟨_, hm⟩ | ⟨child, hchild, _⟩
  · exact hself
  · exact hold t (List.mem_of_getElem? hm)
  · simp [hforks] at hchild

/-- **The invariant rule for pools**: one case for a start, one for a call. -/
theorem inv {ok : Pool ι β σ κ → Move χ κ → Prop} {p₀ : Pool ι β σ κ} {I : Pool ι β σ κ → Prop}
    (h0 : I p₀) (hstart : ∀ p op, I p → ok p (.start op) → I ⟨p.world, p.threads ++ [(op, M.body op)]⟩)
    (hrun : ∀ p n x op i k, I p → ok p (.run n x) → p.threads[n]? = some (op, .call i k) →
      I (after M p n x op i k))
    (h : Runs.Reach (step M) ok p₀ p) : I p := by
  refine h.inv h0 ?_
  intro p move p' hp hok hstep
  cases move with
  | start op =>
    obtain ⟨_, rfl⟩ := step_start hstep
    exact hstart p op hp hok
  | run n x =>
    obtain ⟨op, i, k, hn, rfl⟩ := step_run hstep
    exact hrun p n x op i k hp hok hn

/-- No thread but the one that moves has a call left. -/
def sole (p : Pool ι β σ κ) : Move χ κ → Bool
  | .start _ => true
  | .run n _ => (inProgress (p.threads.eraseIdx n)).isEmpty

theorem done_of_sole (h : sole p (.run n x : Move χ κ) = true)
    (hmn : m ≠ n) (ht : p.threads[m]? = some t) : t.2 = .done () := by
  have hmem : t ∈ p.threads.eraseIdx n := List.mem_eraseIdx_iff_getElem?.mpr ⟨m, hmn, ht⟩
  obtain ⟨op, prog⟩ := t
  cases prog with
  | done => rfl
  | call =>
    have hprogress : op ∈ inProgress (p.threads.eraseIdx n) := List.mem_filterMap.mpr ⟨_, hmem, rfl⟩
    rw [List.isEmpty_iff.mp h] at hprogress
    exact absurd hprogress List.not_mem_nil

/-! ## What is done only on the word of an answer -/

section Granting

variable {ρ : Type} {stop : ι → Prop} {uses : ι → ρ → Prop} {gives : (i : ι) → β i → ρ → Prop}

/-- Programs use what an answer gives; `known` holds of the state, `good` of what an answer gives, `recorded` are the
    uses that were made. -/
structure Granting (M : Machine ι β σ χ κ) (stop : ι → Prop) (uses : ι → ρ → Prop)
    (gives : (i : ι) → β i → ρ → Prop) (known : σ → Prop) (good recorded : σ → ρ → Prop) : Prop where
  forks : ∀ i, M.forks i = none
  body : ∀ op, (M.body op).Unburdened stop uses gives fun _ _ => False
  known_step : ∀ x s i, known s → known (M.handle x s i).2
  given : ∀ x s i r, known s → stop i → gives i (M.handle x s i).1 r → good (M.handle x s i).2 r
  good_step : ∀ x s i r, good s r → good (M.handle x s i).2 r
  record : ∀ x s i r, recorded (M.handle x s i).2 r → recorded s r ∨ uses i r

/-- What threads may use now is good, and so is what was used. -/
structure AllGood (stop : ι → Prop) (uses : ι → ρ → Prop) (gives : (i : ι) → β i → ρ → Prop)
    (known : σ → Prop) (good recorded : σ → ρ → Prop) (p : Pool ι β σ κ) : Prop where
  known : known p.world
  grants : ∀ t ∈ p.threads, t.2.Grants stop uses gives
  ahead : ∀ t ∈ p.threads, ∀ r, t.2.Ahead stop (uses · r) → good p.world r
  used : ∀ r, recorded p.world r → good p.world r

variable {known : σ → Prop} {good recorded : σ → ρ → Prop}

theorem allGood_run
    (hG : Granting M stop uses gives known good recorded) (h : AllGood stop uses gives known good recorded p)
    (hn : p.threads[n]? = some (op, .call i k)) :
    AllGood stop uses gives known good recorded (after M p n x op i k) := by
  have hmem := List.mem_of_getElem? hn
  have hgrants : (Prog.call i k).Grants stop uses gives := h.grants _ hmem
  refine ⟨hG.known_step x p.world i h.known, forall_run (hG.forks i) h.grants (hgrants.2 _),
    forall_run (hG.forks i) (fun t ht r hr => hG.good_step x p.world i r (h.ahead t ht r hr)) fun r hr => ?_,
    fun r hr => ?_⟩
  · by_cases hs : stop i
    · exact hG.given x p.world i r h.known hs (hgrants.1 hs _ r hr)
    · exact hG.good_step x p.world i r (h.ahead _ hmem r (hr.before hs))
  · rcases hG.record x p.world i r hr with hr | hr
    · exact hG.good_step x p.world i r (h.used r hr)
    · exact hG.good_step x p.world i r (h.ahead _ hmem r (Or.inl hr))

/-- **Every use that was made is good**, whatever the schedule. -/
theorem good_of_reach {ok : Pool ι β σ κ → Move χ κ → Prop} {s : σ}
    (hG : Granting M stop uses gives known good recorded)
    (hs : known s) (hrec : ∀ r, ¬ recorded s r) (h : Runs.Reach (step M) ok ⟨s, []⟩ p) {r : ρ}
    (hr : recorded p.world r) : good p.world r := by
  have hinv : AllGood stop uses gives known good recorded p := by
    refine Pool.inv ⟨hs, List.forall_mem_nil _, List.forall_mem_nil _,
      fun r hr => absurd hr (hrec r)⟩ (fun p op hp _ => ?_) (fun p n x op i k hp _ hn => allGood_run hG hp hn) h
    exact ⟨hp.known, forall_start hp.grants (hG.body op).grants,
      forall_start hp.ahead fun r hr => absurd hr ((hG.body op).first r), hp.used⟩
  exact hinv.used r hr

end Granting

end Pool
