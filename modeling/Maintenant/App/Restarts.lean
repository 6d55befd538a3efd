/-
  File:      Maintenant/App/Restarts.lean
  Subject:   DO THE RESTART ALERTS FOLLOW THE RESTARTS? The container service beside the alert engine
             (internal/container/service.go: `handleStateChange`, internal/alert/alerts.go:
             `RestartDetector.Check`, internal/store/containers.go: `CountRestartsSince`,
             internal/app/wiring.go).

  The check counts rows of the transitions table, and runs only when a container is back from a crash.

  * `count_run` -- the rows it counts are the returns of the run;
  * `restart_alerts_follow` -- the alert after every return, over any live events of one container.
-/
import Maintenant.App.Tracking

namespace Maintenant.App

open GoTime Alerting Containers

/-! ## 1. Returns -/

/-- A live event of the container, processed at its timestamp, which is a whole second. -/
structure Live (id : ContainerID) (i : Env × ContainerEvent) : Prop where
  id : i.2.id = id
  live : i.2.replayed = false
  checker : i.1.restartChecker = true
  now : i.1.now = i.2.timestamp
  whole : i.2.timestamp % second = 0

/-- The event brings its container back to running, from exited or restarting. -/
def returns (s : Containers.Service) (i : Env × ContainerEvent) : Bool :=
  let state (s : Containers.Service) := (s.containers.get i.2.id).map Container.state
  (state s == some .restarting || state s == some .exited) &&
    state (s.processEvent i.1 i.2) == some .running

/-- The returns in the ten minutes up to `t`. -/
def recentReturns (t : Time) (s : Containers.Service) : List (Env × ContainerEvent) → Nat
  | [] => 0
  | i :: is => (if returns s i ∧ t - defaultRestartWindow ≤ i.2.timestamp ∧ i.2.timestamp ≤ t then 1 else 0) +
      recentReturns t (s.processEvent i.1 i.2) is

section Counting

variable {s : Containers.Service} {c : Container} {i : Env × ContainerEvent}

/-- Of whole seconds, the query cuts off those the clock does. -/
theorem unix_window {t u : Int} (ht : t % second = 0) (hu : u % second = 0) :
    unix (t - defaultRestartWindow) ≤ unix u ↔ t - defaultRestartWindow ≤ u := by
  unfold second at ht hu
  unfold unix defaultRestartWindow second
  omega

theorem after_same (c : Container) (evt : ContainerEvent) (e : Containers.Effect) :
    (c.after evt e).restartThreshold = c.restartThreshold ∧
      ((c.after evt e).state = c.state ∨ e = .state (c.after evt e).state) := by
  cases e with
  | keep | health => exact ⟨rfl, .inl rfl⟩
  | state => exact ⟨rfl, .inr rfl⟩
  | archive =>
    unfold Container.after Container.archive
    dsimp only
    split <;> exact ⟨rfl, .inl rfl⟩

section Stored

variable (hc : s.containers.get i.2.id = some c)

include hc

theorem returns_iff :
    returns s i = true ↔ (c.state = .restarting ∨ c.state = .exited) ∧ c.effect i.2 = .state .running := by
  have hafter := (after_same c i.2 (c.effect i.2)).2
  unfold returns
  dsimp only
  rw [processEvent_row hc, hc]
  simp only [Option.map_some, Bool.and_eq_true, Bool.or_eq_true, beq_iff_eq, Option.some.injEq]
  refine and_congr_right fun hcrash => ?_
  constructor
  · intro hrunning
    rcases hafter with hsame | hstate
    · rw [← hsame, hrunning] at hcrash
      rcases hcrash with h | h <;> cases h
    · rw [hstate, hrunning]
  · intro heffect
    rw [heffect]
    rfl

/-- **One event, on the count**: a return adds its row, and nothing else is counted. -/
theorem count_step {t : Time} (ht : t % second = 0) (hwhole : i.2.timestamp % second = 0) (hle : i.2.timestamp ≤ t) :
    countRestartsSince (s.processEvent i.1 i.2).transitions i.2.id (t - defaultRestartWindow) =
      countRestartsSince s.transitions i.2.id (t - defaultRestartWindow) +
        if returns s i ∧ t - defaultRestartWindow ≤ i.2.timestamp ∧ i.2.timestamp ≤ t then 1 else 0 := by
  have hwindow := unix_window ht hwhole
  rw [processEvent_stored hc, apply_transitions, countRestartsSince, List.countP_append]
  refine congrArg (countRestartsSince s.transitions i.2.id _ + ·) ?_
  simp only [returns_iff hc, hle, and_true]
  cases he : c.effect i.2 with
  | keep | archive => simp [Container.moves]
  | health new =>
    -- its row has one state, which is not both running and crashed
    cases hstate : c.state <;> simp [Container.moves, healthTransition, hstate]
  | state new =>
    have hid : c.id = i.2.id := (Table.get_eq_some.mp hc).2
    by_cases hrunning : new = .running
    · by_cases hcrash : c.state = .restarting ∨ c.state = .exited
      · simp [Container.moves, stateTransition, hid, hrunning, hcrash, hwindow]
      · simp [Container.moves, stateTransition, hrunning, hcrash]
    · simp [Container.moves, stateTransition, hrunning]

end Stored

end Counting

/-! ## 2. The alert -/

section Alert

variable {α : Type} (x : Texts α) {id : ContainerID}

/-- `ProcessEvent`, and what the callback sends the engine for it. -/
def happened (s : Containers.Service) (i : Env × ContainerEvent) : Containers.Service × List Signal :=
  let s' := s.processEvent i.1 i.2
  (s', (s'.emitted.drop s.emitted.length).flatMap (containerSignals { x with now := i.1.now }))

def restartKey (uid : String) : ActiveAlertKey := ⟨"container", "restart_loop", "container", uid⟩

/-- The alert at a number of restarts: active from the threshold on, critical from three times it. -/
structure Looping (e : Engine) (uid : String) (threshold count : Int) : Prop where
  active : e.holds (restartKey uid) = true ↔ threshold ≤ count
  critical : 3 * threshold ≤ count →
    (e.state.activeAlerts.lookup (restartKey uid)).map Alert.severity = some severityCritical

variable {c : Container} {w : Watched Containers.Service} {is : List ((Env × ContainerEvent) × (Nat → Handling))}

variable {i : (Env × ContainerEvent) × (Nat → Handling)}

/-- **The rows are the returns.** -/
theorem count_run {t : Time} (ht : t % second = 0) (hlive : ∀ i ∈ is, Live id i.1)
    (hle : ∀ i ∈ is, i.1.2.timestamp ≤ t) (hc : w.service.containers.get id = some c) :
    (∃ c', (w.run (happened x) is).service.containers.get id = some c' ∧
      c'.restartThreshold = c.restartThreshold) ∧
      countRestartsSince (w.run (happened x) is).service.transitions id (t - defaultRestartWindow) =
        countRestartsSince w.service.transitions id (t - defaultRestartWindow) +
          recentReturns t w.service (is.map Prod.fst) := by
  induction is generalizing w c with
  | nil => exact ⟨⟨c, hc, rfl⟩, rfl⟩
  | cons i is ih =>
    obtain ⟨hi, hlive⟩ := List.forall_mem_cons.mp hlive
    obtain ⟨hit, hle⟩ := List.forall_mem_cons.mp hle
    obtain rfl := hi.id
    obtain ⟨⟨c', hc', hthreshold⟩, hcount⟩ := ih (w := w.step (happened x) i) hlive hle (processEvent_row hc)
    refine ⟨⟨c', hc', hthreshold.trans (after_same c i.1.2 _).1⟩, ?_⟩
    rw [Watched.run_cons, hcount, List.map_cons, recentReturns, ← Nat.add_assoc]
    exact congrArg (· + _) (count_step hc ht hi.whole hit)

/-- **A return sends one event**: it fires from the threshold on, critical from three times it. -/
theorem happened_return {s : Containers.Service} {i : Env × ContainerEvent} (hc : s.containers.get id = some c)
    (hlive : Live id i) (hreturn : returns s i = true) :
    let count := countRestartsSince (s.processEvent i.1 i.2).transitions id (i.2.timestamp - defaultRestartWindow)
    ∃ evt : Event, (happened x s i).2 = [.event evt] ∧ evt.key = restartKey (x.uid id) ∧
      (evt.isRecover = false ↔ c.restartThreshold ≤ count) ∧
      (3 * c.restartThreshold ≤ count → evt.severity = severityCritical) := by
  obtain rfl := hlive.id
  intro count
  have hid : c.id = i.2.id := (Table.get_eq_some.mp hc).2
  obtain ⟨hcrash, heffect⟩ := (returns_iff hc).mp hreturn
  have hstep : s.processEvent i.1 i.2 = s.changeState i.1 i.2 c .running := by
    rw [processEvent_stored hc, heffect]
    rfl
  have hcount : count = countRestartsSince (s.transitions ++ [stateTransition i.1 i.2 c .running]) c.id
      (i.1.now - defaultRestartWindow) := by
    rw [← changeState_transitions, ← hstep, hlive.now, hid]
  have hlate : ¬i.2.replayed = true := by
    rw [hlive.live]
    decide
  unfold happened
  dsimp only
  rw [hstep]
  unfold Service.changeState Service.noteRestart checkRestarts
  dsimp only [Service.insertTransition, Service.updateContainer]
  rw [if_neg hlate, if_pos ⟨rfl, hcrash, hlive.checker, hlive.live⟩, ← hcount, ← hid]
  by_cases hbelow : (count : Int) < c.restartThreshold
  · rw [if_pos hbelow]
    dsimp only [Service.emit]
    rw [List.append_assoc, List.drop_left]
    refine ⟨_, rfl, rfl, ⟨nofun, fun h => ?_⟩, fun h => ?_⟩
    · omega
    · omega
  · rw [if_neg hbelow]
    dsimp only [Service.emit]
    rw [List.append_assoc, List.drop_left]
    refine ⟨_, rfl, rfl, ⟨fun _ => ?_, fun _ => rfl⟩, fun h => if_pos ?_⟩
    · omega
    · show c.restartThreshold * 3 ≤ (count : Int)
      omega

/-- A critical event that is heard leaves a critical alert. -/
theorem entryAfter_critical {c : Call} {evt : Event} {s : State} (hfires : evt.isRecover = false)
    (hcritical : evt.severity = severityCritical) (hheard : heard c evt s = true) :
    (entryAfter c evt s).map Alert.severity = some severityCritical := by
  unfold entryAfter
  rw [if_neg (by rw [hfires]; decide)]
  cases s.activeAlerts.lookup evt.key with
  | none =>
    dsimp only
    rw [if_pos hheard]
    exact congrArg some hcritical
  | some a =>
    dsimp only
    rw [hcritical, Option.map_some]
    split
    · exact congrArg some hcritical
    · next hrank =>
      -- no other text has the highest rank
      refine congrArg some (Decidable.byContradiction fun hother => hrank ?_)
      show severityRank a.severity < 2
      unfold severityRank
      rw [if_neg hother]
      split
      · decide
      · split <;> decide

/-- **One return.** -/
theorem step_return (hc : w.service.containers.get id = some c) (hlive : Live id i.1)
    (hreturn : returns w.service i.1 = true) (hears : w.engine.HearsAll i.2 (happened x w.service i.1).2) :
    Looping (w.step (happened x) i).engine (x.uid id) c.restartThreshold
      (countRestartsSince (w.step (happened x) i).service.transitions id (i.1.2.timestamp - defaultRestartWindow)) := by
  obtain ⟨evt, hsent, hkey, hfires, hcritical⟩ := happened_return x hc hlive hreturn
  have hholds := Watched.step_holds hears (restartKey (x.uid id))
  rw [hsent, Signal.onAll_cons, Signal.onAll_nil, Signal.on, if_pos hkey] at hholds
  rw [hsent] at hears
  have hactive : _ ↔ c.restartThreshold ≤ countRestartsSince (w.step (happened x) i).service.transitions id
      (i.1.2.timestamp - defaultRestartWindow) := hfires
  refine ⟨by rw [hholds, Bool.not_eq_true', hactive], fun hmany => ?_⟩
  have hfiring : evt.isRecover = false := hactive.mpr (by omega)
  have hentry : (w.step (happened x) i).engine.state.activeAlerts.lookup (restartKey (x.uid id)) =
      entryAfter (i.2 0).call evt w.engine.state := by
    show (w.engine.takeAll i.2 (happened x w.service i.1).2).state.activeAlerts.lookup _ = _
    rw [hsent, ← hkey]
    exact (processEvent_lookup (w.engine.keyed evt.key) evt.key).trans (if_pos rfl)
  rw [hentry]
  exact entryAfter_critical hfiring (hcritical hmany) (hears.1 hfiring)

/-- **The restart alerts follow the restarts**: after every return the alert is active exactly when
    the returns of the last ten minutes reach the threshold, and critical from three times it. -/
theorem restart_alerts_follow (hlive : ∀ i ∈ is, Live id i.1)
    (hordered : is.Pairwise fun i j => i.1.2.timestamp ≤ j.1.2.timestamp)
    (hundisturbed : w.Undisturbed (happened x) is) (hc : w.service.containers.get id = some c)
    (hfirst : ∀ since, countRestartsSince w.service.transitions id since = 0) {n : Nat} (hi : is[n]? = some i)
    (hreturn : returns (w.run (happened x) (is.take n)).service i.1 = true) :
    Looping (w.run (happened x) (is.take (n + 1))).engine (x.uid id) c.restartThreshold
      (recentReturns i.1.2.timestamp w.service ((is.take (n + 1)).map Prod.fst)) := by
  have hlive' := hlive i (List.mem_of_getElem? hi)
  have hsplit : is.take (n + 1) = is.take n ++ [i] := by
    rw [List.take_add_one, hi]
    rfl
  have hle : ∀ j ∈ is.take (n + 1), j.1.2.timestamp ≤ i.1.2.timestamp := by
    have hpairs := hordered.sublist (List.take_sublist (n + 1) is)
    rw [hsplit] at hpairs ⊢
    intro j hj
    rcases List.mem_append.mp hj with hbefore | hlast
    · exact (List.pairwise_append.mp hpairs).2.2 j hbefore i (List.mem_singleton_self i)
    · rw [List.mem_singleton.mp hlast]
  have hrun := fun m (hm : ∀ j ∈ is.take m, j.1.2.timestamp ≤ i.1.2.timestamp) =>
    count_run x hlive'.whole (fun j hj => hlive j (List.mem_of_mem_take hj)) hm hc
  obtain ⟨⟨c', hc', hthreshold⟩, -⟩ := hrun n fun j hj => hle j (hsplit ▸ List.mem_append_left _ hj)
  obtain ⟨-, hcount⟩ := hrun (n + 1) hle
  rw [hfirst, Nat.zero_add] at hcount
  rw [← hcount, ← hthreshold, Watched.run_succ hi]
  exact step_return x hc' hlive' hreturn (Passes.along_iff.mp hundisturbed n i hi)

end Alert

/-! ### Three crashes -/

/-- An event of the sample container, at a second. -/
def eventAt (p : Int × Action) : (Env × ContainerEvent) × (Nat → Handling) :=
  ((⟨p.1 * second, true, none, none, none⟩, ⟨p.2, "a1", "web", "", "", p.1 * second, false⟩),
    fun _ => .plain "a")

def crashLoop : List ((Env × ContainerEvent) × (Nat → Handling)) :=
  [(10, .kill), (20, .start), (30, .kill), (40, .start), (50, .kill), (60, .start)].map eventAt

theorem crash_loop_alerted :
    ((sampleHealth none).run (happened sampleTexts) (crashLoop.take 6)).engine.holds (restartKey "") = true := by
  have hlive : ∀ i ∈ crashLoop, Live ⟨"a1", "web"⟩ i.1 := by
    intro i hi
    obtain ⟨p, -, rfl⟩ := List.mem_map.mp hi
    exact ⟨(show ContainerID.mk (uidAgent "a1") "web" = _ by decide), rfl, rfl, rfl, Int.mul_emod_left ..⟩
  have hheard : (sampleHealth none).Undisturbed (happened sampleTexts) crashLoop := by decide
  have hordered : crashLoop.Pairwise fun i j => i.1.2.timestamp ≤ j.1.2.timestamp := by decide
  have hlast : crashLoop[5]? = some (eventAt (60, .start)) := rfl
  have hc : (sampleHealth none).service.containers.get ⟨"a1", "web"⟩ = some (sampleRow "a1") := rfl
  refine (restart_alerts_follow sampleTexts hlive hordered hheard hc (fun _ => rfl) hlast ?_).active.mpr ?_
  · decide +kernel
  · decide +kernel

end Maintenant.App
