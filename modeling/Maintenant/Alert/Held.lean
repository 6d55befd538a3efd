/-
  File:      Maintenant/Alert/Held.lean
  Subject:   THE ENGINE AS THE SET OF ALERTS IT HOLDS, for the services that report to it.

  A service keeps its own idea of what is alerting and sends the engine events; whether the two
  agree is a question about whole runs. Here is the engine's side of it.

  * `processEvent_lookup` -- what one event does to the map, entry by entry;
  * `Engine.take_holds`, `Engine.takeAll_holds` -- a signal that is heard sets what is held under its
    key, and nothing else (`Signal.on`);
  * `Watched` -- a service and the engine side by side; `agrees_iff`, the rule for "they agree after
    every prefix exactly when …".
-/
import Maintenant.Alert.Engine
import Maintenant.Lib.Passes

namespace Maintenant.Alerting

/-! ## 1. The map, entry by entry -/

section Entries

variable {c : Call} {evt : Event} {s : State}

/-- A firing event with no alert under its key opens one: nothing silences it, and its row is
    inserted. -/
def heard (c : Call) (evt : Event) (s : State) : Bool :=
  !checkSilenceRules c evt && !c.faults.insertAlert && !s.alerts.hasKey c.newID

/-- The entry an event leaves under its key. -/
def entryAfter (c : Call) (evt : Event) (s : State) : Option Alert :=
  if evt.isRecover then none
  else match s.activeAlerts.lookup evt.key with
    | some a => some (if severityRank a.severity < severityRank evt.severity then a.escalated evt else a)
    | none => if heard c evt s then some (evt.toAlert c.newID .active) else none

theorem openAlert_map : (openAlert c evt s).1.activeAlerts =
    if heard c evt s then s.activeAlerts.insert evt.key (evt.toAlert c.newID .active) else s.activeAlerts := by
  have hinserts : ∀ st, insertAlert s.alerts c.faults.insertAlert (evt.toAlert c.newID st) = none ↔
      (!c.faults.insertAlert && !s.alerts.hasKey c.newID) = false := by
    intro st
    rw [insertAlert_eq_none, ← Bool.not_or, Bool.not_eq_false', Bool.or_eq_true]
    exact Iff.rfl
  unfold openAlert heard
  rw [Bool.and_assoc]
  cases checkSilenceRules c evt with
  | true =>
    dsimp only
    split <;> rfl
  | false =>
    dsimp only
    cases hi : insertAlert s.alerts c.faults.insertAlert
        (evt.toAlert c.newID (if false = true then .silenced else .active)) with
    | none =>
      rw [(hinserts _).mp hi]
      rfl
    | some t =>
      have hinserted : (!c.faults.insertAlert && !s.alerts.hasKey c.newID) = true :=
        Bool.not_eq_false _ ▸ mt (hinserts _).mpr (hi ▸ Option.some_ne_none t)
      rw [hinserted]
      rfl

/-- **What one event does to the map.** -/
theorem processEvent_lookup (hkeyed : ∀ a, s.activeAlerts.lookup evt.key = some a → a.key = evt.key)
    (k : ActiveAlertKey) : (processEvent c evt s).1.activeAlerts.lookup k =
      if k = evt.key then entryAfter c evt s else s.activeAlerts.lookup k := by
  unfold entryAfter
  have hsame : s.activeAlerts.lookup k = if k = evt.key then s.activeAlerts.lookup evt.key
    else s.activeAlerts.lookup k := by
    split
    · next hk => rw [hk]
    · rfl
  unfold processEvent
  split
  · rw [processRecovery_map, GoMap.lookup_erase]
  · cases hl : s.activeAlerts.lookup evt.key with
    | none =>
      rw [hl] at hsame
      rw [openAlert_map]
      split
      · exact GoMap.lookup_insert _
      · exact hsame
    | some a =>
      rw [hl] at hsame
      dsimp only
      split
      · exact escalateAlert_map (hkeyed a hl) k
      · exact hsame

end Entries

/-- Keys that differ in their type at most. -/
theorem key_inj {τ : Type} (text : τ → String) (htext : ∀ t t', text t = text t' → t = t')
    {source entityType id : String}
    {t t' : τ} : ActiveAlertKey.mk source (text t) entityType id = ⟨source, text t', entityType, id⟩ ↔ t = t' :=
  ⟨fun h => htext t t' (congrArg ActiveAlertKey.alertType h), fun h => by rw [h]⟩

/-! ## 2. The engine and its signals -/

/-- The engine's state; the map holds each alert under its own key. -/
structure Engine where
  state : State
  keyed : ∀ k a, state.activeAlerts.lookup k = some a → a.key = k

/-- What the services send the engine: an event, or that an entity is gone. -/
inductive Signal where
  | event (evt : Event)
  | removed (entityType entityID : String)

/-- What one signal meets in the engine: the call, and the order the loop of `ResolveByEntity` ranges
    over the map in. -/
structure Handling where
  call : Call
  range : ∀ l : List Alert, { l' : List Alert // l'.Perm l }

namespace Engine

/-- An alert is active under the key. -/
def holds (e : Engine) (k : ActiveAlertKey) : Bool := (e.state.activeAlerts.lookup k).isSome

/-- An engine that holds nothing, over a table. -/
def idle (t : AlertTable) : Engine := ⟨⟨∅, t⟩, fun k a h => by rw [AList.lookup_empty] at h; cases h⟩

theorem idle_holds (t : AlertTable) (k : ActiveAlertKey) : (idle t).holds k = false := by
  rfl

/-- One event. -/
def process (e : Engine) (c : Call) (evt : Event) : Engine where
  state := (processEvent c evt e.state).1
  keyed k a h := by
    rw [processEvent_lookup (e.keyed evt.key)] at h
    split at h
    · next hk =>
      rw [hk]
      unfold entryAfter at h
      split at h
      · cases h
      · split at h
        · next a' hl =>
          have ha' : a'.key = evt.key := e.keyed _ _ hl
          cases h
          split
          · exact ha'
          · exact ha'
        · split at h
          · cases h
            rfl
          · cases h
    · exact e.keyed k a h

/-- One removal. -/
def resolve (e : Engine) (h : Handling) (entityType entityID : String) : Engine where
  state := (resolveByEntity h.call entityType entityID
    (h.range (GoMap.valuesWhere e.state.activeAlerts (ofEntity entityType entityID))).1 e.state).1
  keyed k a hl := by
    have hmap : (GoMap.eraseWhere e.state.activeAlerts (ofEntity entityType entityID)).lookup k = some a := hl
    rw [GoMap.lookup_eraseWhere] at hmap
    split at hmap
    · cases hmap
    · exact e.keyed k a hmap

/-- One signal. -/
def take (e : Engine) (h : Handling) : Signal → Engine
  | .event evt => e.process h.call evt
  | .removed entityType entityID => e.resolve h entityType entityID

/-- The signals in order; the `n`-th one is handled as `h n` has it. -/
def takeAll (e : Engine) (h : Nat → Handling) (sigs : List Signal) : Engine :=
  sigs.zipIdx.foldl (fun e p => e.take (h p.2) p.1) e

end Engine

/-- What a signal makes of what is held under a key. -/
def Signal.on (k : ActiveAlertKey) (held : Bool) : Signal → Bool
  | .event evt => if evt.key = k then !evt.isRecover else held
  | .removed entityType entityID => !ofEntity entityType entityID k && held

/-- The signals in order. -/
def Signal.onAll (k : ActiveAlertKey) (held : Bool) (sigs : List Signal) : Bool :=
  sigs.foldl (Signal.on k) held

variable (k : ActiveAlertKey)

@[simp] theorem Signal.onAll_nil (held : Bool) : Signal.onAll k held [] = held := rfl

@[simp] theorem Signal.onAll_cons (held : Bool) (sig : Signal) (sigs : List Signal) :
    Signal.onAll k held (sig :: sigs) = Signal.onAll k (sig.on k held) sigs := rfl

@[simp] theorem Signal.onAll_append (held : Bool) (sigs sigs' : List Signal) :
    Signal.onAll k held (sigs ++ sigs') = Signal.onAll k (Signal.onAll k held sigs) sigs' :=
  List.foldl_append

/-- No silence and no store error keeps the signal from taking effect: a firing event that finds
    nothing under its key opens an alert. -/
def Engine.Hears (e : Engine) (h : Handling) : Signal → Prop
  | .event evt => evt.isRecover = false → heard h.call evt e.state = true
  | .removed .. => True

/-- No signal of the list is kept from taking effect. -/
def Engine.HearsAll (e : Engine) (h : Nat → Handling) (sigs : List Signal) : Prop :=
  Passes.Along (fun e p => e.take (h p.2) p.1) (fun e p => e.Hears (h p.2) p.1) e sigs.zipIdx

section Holds

variable {e : Engine}

/-- **A signal sets what is held under its key.** -/
theorem Engine.take_holds {h : Handling} {sig : Signal} (hears : e.Hears h sig) (k : ActiveAlertKey) :
    (e.take h sig).holds k = sig.on k (e.holds k) := by
  cases sig with
  | removed entityType entityID =>
    have hmap : (e.take h (.removed entityType entityID)).holds k =
        ((GoMap.eraseWhere e.state.activeAlerts (ofEntity entityType entityID)).lookup k).isSome := rfl
    rw [hmap, GoMap.lookup_eraseWhere, Signal.on, Engine.holds]
    cases ofEntity entityType entityID k <;> rfl
  | event evt =>
    have hmap : (e.take h (.event evt)).holds k =
        ((processEvent h.call evt e.state).1.activeAlerts.lookup k).isSome := rfl
    rw [hmap, processEvent_lookup (e.keyed evt.key), Signal.on, Engine.holds]
    by_cases hk : k = evt.key
    · rw [if_pos hk, if_pos hk.symm, entryAfter]
      cases hr : evt.isRecover with
      | true => rfl
      | false =>
        have hopen := hears hr
        cases e.state.activeAlerts.lookup evt.key with
        | some => rfl
        | none =>
          rw [if_pos hopen]
          rfl
    · rw [if_neg hk, if_neg (Ne.symm hk)]

/-- The same for signals that stand somewhere in a longer list. -/
theorem Engine.foldl_holds {h : Nat → Handling} (k : ActiveAlertKey) (sigs : List (Signal × Nat)) :
    ∀ e : Engine, Passes.Along (fun e p => e.take (h p.2) p.1) (fun e p => e.Hears (h p.2) p.1) e sigs →
      (sigs.foldl (fun e p => e.take (h p.2) p.1) e).holds k = Signal.onAll k (e.holds k) (sigs.map Prod.fst) := by
  induction sigs with
  | nil =>
    intro e _
    rfl
  | cons _ _ ih =>
    intro e hears
    rw [List.foldl_cons, ih _ hears.2, Engine.take_holds hears.1]
    rfl

/-- **Signals that are all heard.** -/
theorem Engine.takeAll_holds {h : Nat → Handling} {sigs : List Signal} (hears : e.HearsAll h sigs)
    (k : ActiveAlertKey) : (e.takeAll h sigs).holds k = Signal.onAll k (e.holds k) sigs := by
  rw [Engine.takeAll, Engine.foldl_holds k sigs.zipIdx e hears, List.zipIdx_map_fst]

end Holds

/-! ## 3. A service beside the engine -/

/-- A service and the engine it reports to. -/
structure Watched (σ : Type) where
  service : σ
  engine : Engine

section Watched

variable {σ ι : Type}

/-- One operation of the service; the engine then takes its signals in order. -/
def Watched.step (op : σ → ι → σ × List Signal) (w : Watched σ) (i : ι × (Nat → Handling)) : Watched σ :=
  ⟨(op w.service i.1).1, w.engine.takeAll i.2 (op w.service i.1).2⟩

/-- The operations in order. -/
def Watched.run (op : σ → ι → σ × List Signal) (w : Watched σ) (is : List (ι × (Nat → Handling))) :
    Watched σ := is.foldl (Watched.step op) w

/-- No signal of the run is silenced or meets a store error. -/
def Watched.Undisturbed (op : σ → ι → σ × List Signal) (w : Watched σ)
    (is : List (ι × (Nat → Handling))) : Prop :=
  Passes.Along (Watched.step op) (fun w i => w.engine.HearsAll i.2 (op w.service i.1).2) w is

variable {op : σ → ι → σ × List Signal} {w : Watched σ} {is : List (ι × (Nat → Handling))}

variable {i : ι × (Nat → Handling)}

theorem Watched.run_cons : w.run op (i :: is) = (w.step op i).run op is := rfl

theorem Watched.run_succ {n : Nat} (hi : is[n]? = some i) :
    w.run op (is.take (n + 1)) = (w.run op (is.take n)).step op i := by
  rw [List.take_add_one, hi, Watched.run, List.foldl_append]
  rfl

/-- **What the engine holds after one operation.** -/
theorem Watched.step_holds (hears : w.engine.HearsAll i.2 (op w.service i.1).2) (k : ActiveAlertKey) :
    (w.step op i).engine.holds k = Signal.onAll k (w.engine.holds k) (op w.service i.1).2 :=
  Engine.takeAll_holds hears k

/-- **Agreement along a run.** `A s held` is the agreement of a service in state `s` with what the
    engine holds; one operation keeps it exactly under `Q`. -/
theorem Watched.agrees_iff {I : σ → Prop} {A : σ → (ActiveAlertKey → Bool) → Prop} {Q : σ → ι → Prop}
    (hundisturbed : w.Undisturbed op is) (hinv : ∀ s, ∀ i ∈ is, I s → I (op s i.1).1)
    (hstep : ∀ s held, ∀ i ∈ is, I s → A s held →
      (A (op s i.1).1 (fun k => Signal.onAll k (held k) (op s i.1).2) ↔ Q s i.1))
    (hI : I w.service) (hA : A w.service w.engine.holds) :
    (∀ n, A (w.run op (is.take n)).service (w.run op (is.take n)).engine.holds) ↔
      Passes.Along (fun s i => (op s i).1) Q w.service (is.map Prod.fst) := by
  have hview : ∀ (w : Watched σ) (i : ι × (Nat → Handling)),
      (w.step op i).service = (op w.service i.1).1 := fun _ _ => rfl
  rw [← Passes.along_map Watched.service Prod.fst hview]
  refine Passes.prefixes_iff_of_inv
    (A := fun w => A w.service w.engine.holds) hundisturbed (fun w i hi _ => hinv w.service i hi) ?_ hI hA
  intro w i hi hears hIw hagree
  have hholds : (w.step op i).engine.holds =
      fun k => Signal.onAll k (w.engine.holds k) (op w.service i.1).2 :=
    funext fun k => Watched.step_holds hears k
  rw [hholds]
  exact hstep w.service w.engine.holds i hi hIw hagree

theorem Watched.run_service (w : Watched σ) (is : List (ι × (Nat → Handling))) :
    (w.run op is).service = (is.map Prod.fst).foldl (fun s i => (op s i).1) w.service := by
  induction is generalizing w with
  | nil => rfl
  | cons i _ ih => exact ih (w.step op i)

/-- The rule for a condition on where an operation starts and ends. -/
theorem Watched.agrees_iff_ends {I : σ → Prop} {A : σ → (ActiveAlertKey → Bool) → Prop}
    {R : σ → σ → Prop}
    (hrefl : ∀ s, R s s) (hundisturbed : w.Undisturbed op is) (hinv : ∀ s, ∀ i ∈ is, I s → I (op s i.1).1)
    (hstep : ∀ s held, ∀ i ∈ is, I s → A s held →
      (A (op s i.1).1 (fun k => Signal.onAll k (held k) (op s i.1).2) ↔ R s (op s i.1).1))
    (hI : I w.service) (hA : A w.service w.engine.holds) :
    (∀ n, A (w.run op (is.take n)).service (w.run op (is.take n)).engine.holds) ↔
      ∀ n, R (w.run op (is.take n)).service (w.run op (is.take (n + 1))).service := by
  have hends : Passes.Along (fun s i => (op s i).1) (fun s i => R s (op s i).1) w.service (is.map Prod.fst) ↔ _ :=
    Passes.along_ends hrefl
  rw [Watched.agrees_iff (Q := fun s i => R s (op s i).1) hundisturbed hinv hstep hI hA, hends]
  simp only [Watched.run_service, List.map_take]

/-! ## 4. A small setting for concrete runs -/

/-- A call that draws the id `id` and in which nothing fails. -/
def Handling.plain (id : String) : Handling := ⟨.plain id .bare, fun l => ⟨l, .refl l⟩⟩

instance (e : Engine) (h : Handling) (sig : Signal) : Decidable (e.Hears h sig) :=
  match sig with
  | .event evt => inferInstanceAs (Decidable (evt.isRecover = false → heard h.call evt e.state = true))
  | .removed .. => inferInstanceAs (Decidable True)

instance (e : Engine) (h : Nat → Handling) (sigs : List Signal) : Decidable (e.HearsAll h sigs) :=
  Passes.decidableAlong e sigs.zipIdx

instance : Decidable (w.Undisturbed op is) := Passes.decidableAlong w is

end Watched

end Maintenant.Alerting
