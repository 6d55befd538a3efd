/-
  File:      Maintenant/Lib/GoChan.lean
  Subject:   BUFFERED CHANNELS THAT ARE CLOSED. A heap of Go channels, each known by its number;
             what panics in Go is an error here. No program fact.

  * `trySend` -- `select { case ch <- v: default: }`: a full buffer drops the value, a closed
    channel panics whether it is full or not;
  * `close`, `closeEach` -- closing a closed channel panics;
  * `OpenSet h ns` -- the open channels of the heap are those listed, each once; one lemma for each
    operation says that it succeeds on a listed channel, and what is listed afterwards.
-/
import Mathlib.Data.List.Nodup
import Maintenant.Lib.Runs

namespace GoChan

variable {α : Type}

structure Chan (α : Type) where
  buf : List α
  closed : Bool
deriving DecidableEq, Repr

inductive Panic where
  | sendOnClosed
  | closeOfClosed
  | closeOfNil
deriving DecidableEq, Repr

/-- The channels made so far; a channel is its place in the list. -/
abbrev Heap (α : Type) := List (Chan α)

/-- `make(chan T, cap)`; the new channel is number `h.length`. -/
def make (h : Heap α) : Heap α := h ++ [⟨[], false⟩]

def trySend (cap : Nat) (h : Heap α) (n : Nat) (v : α) : Except Panic (Heap α) :=
  match h[n]? with
  | none => .ok h
  | some c =>
    if c.closed then .error .sendOnClosed
    else .ok (h.set n { c with buf := if c.buf.length < cap then c.buf ++ [v] else c.buf })

def close (h : Heap α) (n : Nat) : Except Panic (Heap α) :=
  match h[n]? with
  | none => .error .closeOfNil
  | some c => if c.closed then .error .closeOfClosed else .ok (h.set n { c with closed := true })

def closeEach (h : Heap α) : List Nat → Except Panic (Heap α)
  | [] => .ok h
  | n :: ns => match close h n with
      | .error p => .error p
      | .ok h' => closeEach h' ns

def IsOpen (h : Heap α) (n : Nat) : Prop := ∃ c, h[n]? = some c ∧ c.closed = false

variable {h h' : Heap α} {n m : Nat}

theorem IsOpen.lt (ho : IsOpen h n) : n < h.length := by
  obtain ⟨c, hc, -⟩ := ho
  exact (List.getElem?_eq_some_iff.mp hc).1

/-- The channel made last is open, and the others are what they were. -/
theorem isOpen_make : IsOpen (make h) m ↔ IsOpen h m ∨ m = h.length := by
  unfold IsOpen make
  simp only [Runs.get_concat]
  constructor
  · rintro ⟨c, hc | ⟨hm, -⟩, hopen⟩
    · exact Or.inl ⟨c, hc, hopen⟩
    · exact Or.inr hm
  · rintro (⟨c, hc, hopen⟩ | hm)
    · exact ⟨c, Or.inl hc, hopen⟩
    · exact ⟨_, Or.inr ⟨hm, rfl⟩, rfl⟩

/-- A channel that changes place `n` of the heap. -/
theorem isOpen_set {c : Chan α} (hn : n < h.length) :
    IsOpen (h.set n c) m ↔ if m = n then c.closed = false else IsOpen h m := by
  unfold IsOpen
  rw [List.getElem?_set]
  by_cases hm : m = n
  · subst hm
    simp [hn]
  · rw [if_neg (fun e => hm e.symm), if_neg hm]

variable {cap : Nat} {v : α}

/-- A value that could be sent leaves every channel open that was. -/
theorem isOpen_trySend (hs : trySend cap h n v = .ok h') : IsOpen h' m ↔ IsOpen h m := by
  unfold trySend at hs
  split at hs
  · cases hs
    exact Iff.rfl
  · next c hc =>
    split at hs
    · cases hs
    · next hopen =>
      cases hs
      rw [isOpen_set (List.getElem?_eq_some_iff.mp hc).1]
      by_cases hm : m = n
      · subst hm
        rw [if_pos rfl]
        exact ⟨fun hcl => ⟨c, hc, hcl⟩, fun _ => Bool.eq_false_iff.mpr hopen⟩
      · rw [if_neg hm]

theorem trySend_of_open (cap : Nat) (v : α) (ho : IsOpen h n) : ∃ h', trySend cap h n v = .ok h' := by
  obtain ⟨c, hc, hopen⟩ := ho
  unfold trySend
  rw [hc]
  dsimp only
  rw [if_neg (Bool.eq_false_iff.mp hopen)]
  exact ⟨_, rfl⟩

/-- A send panics in one way only. -/
theorem trySend_error {p : Panic} (hs : trySend cap h n v = .error p) : p = .sendOnClosed := by
  unfold trySend at hs
  split at hs
  · cases hs
  · split at hs <;> cases hs
    rfl

/-- **The open channels** are those listed, each once. -/
structure OpenSet (h : Heap α) (ns : List Nat) : Prop where
  nodup : ns.Nodup
  opened : ∀ m, IsOpen h m ↔ m ∈ ns

namespace OpenSet

variable {ns ms : List Nat}

theorem nil : OpenSet ([] : Heap α) [] :=
  ⟨.nil, fun _ => ⟨fun ho => absurd ho.lt (Nat.not_lt_zero _), fun hm => absurd hm List.not_mem_nil⟩⟩

theorem perm (ho : OpenSet h ns) (hp : ns.Perm ms) : OpenSet h ms :=
  ⟨hp.nodup_iff.mp ho.nodup, fun m => (ho.opened m).trans hp.mem_iff⟩

theorem make (ho : OpenSet h ns) : OpenSet (GoChan.make h) (h.length :: ns) := by
  refine ⟨List.nodup_cons.mpr ⟨fun hmem => ?_, ho.nodup⟩, fun m => ?_⟩
  · exact Nat.lt_irrefl _ ((ho.opened _).mpr hmem).lt
  · rw [isOpen_make, ho.opened, List.mem_cons, or_comm]

theorem send (ho : OpenSet h ns) (hs : trySend cap h n v = .ok h') :
    OpenSet h' ns := ⟨ho.nodup, fun m => (isOpen_trySend hs).trans (ho.opened m)⟩

/-- A listed channel can be closed. -/
theorem close (ho : OpenSet h (n :: ns)) : ∃ h', GoChan.close h n = .ok h' ∧ OpenSet h' ns := by
  obtain ⟨c, hc, hopen⟩ := (ho.opened n).mpr List.mem_cons_self
  obtain ⟨hn, hnodup⟩ := List.nodup_cons.mp ho.nodup
  refine ⟨h.set n { c with closed := true }, ?_, hnodup, fun m => ?_⟩
  · unfold GoChan.close
    rw [hc]
    dsimp only
    rw [if_neg (Bool.eq_false_iff.mp hopen)]
  · rw [isOpen_set (List.getElem?_eq_some_iff.mp hc).1]
    by_cases hm : m = n
    · subst hm
      simpa using hn
    · rw [if_neg hm, ho.opened, List.mem_cons, or_iff_right hm]

/-- **Listed channels can all be closed.** -/
theorem closeEach (ho : OpenSet h (ms ++ ns)) : ∃ h', GoChan.closeEach h ms = .ok h' ∧ OpenSet h' ns := by
  induction ms generalizing h with
  | nil => exact ⟨h, rfl, ho⟩
  | cons _ _ ih =>
    obtain ⟨h₁, hclose, ho₁⟩ := ho.close
    obtain ⟨h₂, hrest, ho₂⟩ := ih ho₁
    exact ⟨h₂, by rw [GoChan.closeEach, hclose]; exact hrest, ho₂⟩

end OpenSet

end GoChan
