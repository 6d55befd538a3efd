/-
  File:      Maintenant/Container/Paths.lean
  Subject:   ONE CONTAINER, TWO PATHS. The same runtime events go to `ProcessEvent` on the server's
             own host, and through the agent, the wire and `HandleAgentEvent` on another; in
             between the agent sends inventories.

  The three columns at issue are `View`. Each path is a machine on views (`View.viaLocal`,
  `View.viaAgent`) that the services refine (`localStep_view`, `agentStep_view`).

  * `viaAgent_eq_viaLocal` -- on which inputs the two machines agree (`View.Carries`);
  * `paths_agree` -- the two rows agree all the way exactly when every input is one of these;
  * `clean_stop_ends_exited` -- an ordinary `docker stop` is not.
-/
import Maintenant.Container.Agent
import Maintenant.Lib.Passes

namespace Maintenant.Containers

open GoTime Passes

/-! ## 1. The columns -/

structure View where
  state : ContainerState
  health : Option HealthStatus
  archived : Bool
deriving DecidableEq, Repr

def Container.view (c : Container) : View := ⟨c.state, c.healthStatus, c.archived⟩

/-- The columns of a stored container. -/
def Service.view (s : Service) (agentID id : String) : Option View :=
  (s.lookup agentID id).map Container.view

namespace View

/-- A message, on the columns. -/
def reported (v : View) (ev : WireContainer) : View :=
  if ev.destroyed then { v with archived := true }
  else ⟨ev.target.getD v.state, (HealthStatus.ofText ev.healthStatus).or v.health, false⟩

/-- An event of the runtime, on the columns. -/
def processed (v : View) (e : RuntimeEvent) : View where
  state := (e.action.target e.exitCode v.state).getD v.state
  health := if e.action = .healthStatus then (HealthStatus.ofText e.healthStatus).or v.health
    else v.health
  archived := e.action == .destroy || v.archived

end View

/-! ## 2. The two paths -/

/-- What the runtime of a host gives its observer: events, and now and then what it lists. -/
inductive Input where
  | event (e : RuntimeEvent)
  | inventory (found : List Discovered)

/-- An input, and what is around it on either side. -/
structure Turn where
  input : Input
  localEnv : Env
  agentEnv : Env
  pushed : Meta

/-- The events are those of one container. -/
def Input.Of (id : String) : Input → Prop
  | .event e => e.externalID = id
  | .inventory _ => True

/-- The event as the server's own watcher hands it on. -/
def RuntimeEvent.toContainerEvent (e : RuntimeEvent) : ContainerEvent :=
  ⟨e.action, localAgent, e.externalID, e.exitCode, e.healthStatus, e.timestamp, false⟩

/-- On the server's host: an event is processed; inventories are the agents'. -/
def localStep (s : Service) (t : Turn) : Service :=
  match t.input with
  | .event e => s.processEvent t.localEnv e.toContainerEvent
  | .inventory _ => s

/-- On an agent's host: what becomes of the message on the server. -/
def agentStep (agentID : String) (s : Service) (t : Turn) : Service :=
  match t.input with
  | .event e =>
    match runtimeEventToProto e with
    | none => s
    | some ev => (s.handleAgentEvent t.agentEnv agentID ev t.pushed).1
  | .inventory found =>
    (s.handleAgentInventory t.agentEnv agentID ⟨found.map Discovered.entry, true⟩ t.pushed).1

namespace View

variable (agentID id : String)

def viaLocal (v : View) : Input → View
  | .event e => v.processed e
  | .inventory _ => v

def viaAgent (v : View) : Input → View
  | .event e => (runtimeEventToProto e).elim v v.reported
  | .inventory found =>
    let mine := found.filter fun d => d.externalID = id
    if mine = [] ∧ uidAgent agentID = agentID then { v with archived := true }
    else mine.foldl (fun v d => v.reported d.entry) v

end View

/-! ## 3. The services refine the machines -/

section Refinement

variable {env : Env} {s : Service} {agentID id : String} {c : Container} {v : View}

theorem view_eq_some : s.view agentID id = some v ↔
    ∃ c, s.lookup agentID id = some c ∧ c.view = v := Option.map_eq_some_iff

/-- An effect, on the columns. -/
def View.after (v : View) : Effect → View
  | .keep => v
  | .state new => { v with state := new }
  | .archive => { v with archived := true }
  | .health new => { v with health := some new }

theorem view_after (evt : ContainerEvent) (e : Effect) : (c.after evt e).view = c.view.after e := by
  cases e with
  | archive =>
    show (c.archive evt.timestamp).view = _
    unfold Container.archive
    cases h : c.archived with
    | true =>
      rw [if_pos rfl, View.after, ← h]
      rfl
    | false => rfl
  | keep | state | health => rfl

theorem after_state (o : Option ContainerState) :
    (v.after (o.elim .keep fun new => if v.state = new then .keep else .state new)) =
      { v with state := o.getD v.state } := by
  cases o with
  | none => rfl
  | some =>
    dsimp only [Option.elim, Option.getD]
    split
    · next h =>
      subst h
      rfl
    · rfl

theorem after_health (o : Option HealthStatus) :
    (v.after (o.elim .keep fun new => if v.health = some new then .keep else .health new)) =
      { v with health := o.or v.health } := by
  cases o with
  | none => rfl
  | some =>
    dsimp only [Option.elim, Option.or]
    split
    · next h =>
      rw [← h]
      rfl
    · rfl

/-- One event of the runtime, on the row. -/
theorem view_processed (e : RuntimeEvent) :
    (c.after e.toContainerEvent (c.effect e.toContainerEvent)).view = c.view.processed e := by
  rw [view_after]
  unfold Container.effect View.processed RuntimeEvent.toContainerEvent
  cases e.action with
  | healthStatus =>
    cases HealthStatus.ofText e.healthStatus <;> rfl
  | start | stop | die | kill | pause | unpause => exact after_state _
  | destroy | restart | create | other => rfl

variable {ev : WireContainer} {m : Meta}

/-- One message, on the row. -/
theorem view_reported (hlive : ev.destroyed = false) : (c.reported agentID ev m).view = c.view.reported ev := by
  have hhealth : (c.checked agentID ev m).view =
      ⟨c.state, (HealthStatus.ofText ev.healthStatus).or c.healthStatus, false⟩ := by
    rw [Container.checked, view_after]
    exact after_health (v := (c.touched ev).view) _
  rw [Container.reported, view_after, hhealth, View.reported, hlive, if_neg Bool.false_ne_true]
  exact after_state (v := ⟨c.state, (HealthStatus.ofText ev.healthStatus).or c.healthStatus, false⟩) _

theorem processEvent_view (e : RuntimeEvent) (hv : s.view localAgent e.externalID = some v) :
    (s.processEvent env e.toContainerEvent).view localAgent e.externalID = some (v.processed e) := by
  obtain ⟨c, hc, rfl⟩ := view_eq_some.mp hv
  have hstep : s.processEvent env e.toContainerEvent =
      s.apply env e.toContainerEvent c (c.effect e.toContainerEvent) := processEvent_stored hc
  refine view_eq_some.mpr ⟨_, ?_, view_processed e⟩
  rw [hstep, Service.lookup, ← lookup_id hc, apply_get (get_of_lookup hc), if_pos rfl]

theorem entry_health (d : Discovered) : HealthStatus.ofText d.entry.healthStatus = d.healthStatus := by
  show HealthStatus.ofText (d.healthStatus.elim "" HealthStatus.text) = d.healthStatus
  cases d.healthStatus with
  | none => decide
  | some h => exact HealthStatus.ofText_text h

theorem entry_not_refused (d : Discovered) : ¬d.entry.refused := by
  rintro ⟨hne, hof⟩
  rw [entry_health] at hof
  refine hne ?_
  dsimp only [Discovered.entry]
  rw [hof]
  rfl

theorem live_contains (hid : id ≠ "") (found : List Discovered) :
    (((found.map Discovered.entry).map WireContainer.containerID).filter (· ≠ "")).contains id = true ↔
      (found.filter fun d => d.externalID = id) ≠ [] := by
  simp only [List.contains_iff_mem, List.mem_filter, List.mem_map, ne_eq, List.filter_eq_nil_iff]
  constructor
  · rintro ⟨⟨ev, ⟨d, hd, rfl⟩, e⟩, -⟩ hnone
    exact hnone d hd (decide_eq_true e)
  · intro hsome
    push Not at hsome
    obtain ⟨d, hd, e⟩ := hsome
    exact ⟨⟨d.entry, ⟨d, hd, rfl⟩, of_decide_eq_true e⟩, decide_eq_true hid⟩

variable {t : Turn}

/-- **The server's own path is `viaLocal`.** -/
theorem localStep_view (hown : t.input.Of id) (hv : s.view localAgent id = some v) :
    (localStep s t).view localAgent id = some (v.viaLocal t.input) := by
  unfold localStep
  cases hi : t.input with
  | event e =>
    rw [hi] at hown
    subst hown
    exact processEvent_view e hv
  | inventory => exact hv

/-- The message is about the event's container. -/
theorem toProto_containerID {e : RuntimeEvent}
    (h : runtimeEventToProto e = some ev) : ev.containerID = e.externalID := by
  unfold runtimeEventToProto at h
  split at h
  · cases h
    rfl
  · cases h
    rfl
  · obtain ⟨st, -, rfl⟩ := Option.map_eq_some_iff.mp h
    rfl

section Stored

variable (hv : s.view agentID id = some v)

include hv

/-- The sweep, on the columns. -/
theorem archiveMissing_view {live : List String} :
    (s.archiveMissing env agentID live).view agentID id =
      some (if live.contains id = false ∧ uidAgent agentID = agentID then { v with archived := true }
        else v) := by
  obtain ⟨c, hc, rfl⟩ := view_eq_some.mp hv
  refine view_eq_some.mpr ⟨c.swept agentID live env.now, ?_, ?_⟩
  · rw [Service.lookup, archiveMissing_get, ← lookup_id hc, get_of_lookup hc]
    rfl
  · unfold Container.swept
    rw [lookup_id hc, apply_ite Container.view]
    refine if_congr ?_ (view_after ⟨.destroy, "", "", "", "", env.now, false⟩ .archive) rfl
    rw [Bool.and_eq_true, beq_iff_eq, Bool.not_eq_true', and_comm]

variable (hid : id ≠ "")

include hid

/-- A message changes the columns of its own container. -/
theorem handleAgentEvent_view : (s.handleAgentEvent env agentID ev m).1.view agentID id =
      some (if ev.containerID = id then v.reported ev else v) := by
  obtain ⟨c, hc, rfl⟩ := view_eq_some.mp hv
  by_cases e : ev.containerID = id
  · subst e
    have hget := get_of_lookup hc
    rw [if_pos rfl]
    cases hgone : ev.destroyed with
    | true =>
      have hrow : (c.archive (agentEventTime ev m)).view = c.view.reported ev := by
        rw [View.reported, hgone]
        exact view_after (baseEvent agentID ev m .destroy) .archive
      refine view_eq_some.mpr ⟨_, ?_, hrow⟩
      rw [handleAgentEvent_destroyed hid hc hgone, Service.lookup, ← lookup_id hc, archive_get hget,
        if_pos rfl]
      rfl
    | false =>
      refine view_eq_some.mpr ⟨c.reported agentID ev m, ?_, view_reported hgone⟩
      rw [Service.lookup, ← lookup_id hc, handleAgentEvent_get hid hc hgone, if_pos rfl]
  · rw [if_neg e]
    refine view_eq_some.mpr ⟨c, ?_, rfl⟩
    have hne : (⟨uidAgent agentID, id⟩ : ContainerID) ≠ ⟨uidAgent agentID, ev.containerID⟩ :=
      fun h => e (ContainerID.mk.inj h).2.symm
    exact (handleAgentEvent_frame hne).trans hc

/-- The entries of an inventory that are about one container, on its columns. -/
theorem entries_view (found : List Discovered) :
    ((found.map Discovered.entry).foldl (Service.take env agentID m) s).view agentID id =
      some ((found.filter fun d => d.externalID = id).foldl (fun v d => v.reported d.entry) v) := by
  have hfold : ((found.map Discovered.entry).foldl (Service.take env agentID m) s).view agentID id =
      some ((found.map Discovered.entry).foldl
        (fun v ev => if ev.containerID = id then v.reported ev else v) v) :=
    foldl_view (fun s : Service => s.view agentID id)
      (fun s v ev _ hv => handleAgentEvent_view hv hid) hv
  rw [hfold, List.foldl_map, List.foldl_filter]
  congr 2
  funext v d
  exact (if_congr decide_eq_true_iff rfl rfl).symm

theorem agentStep_inventory {found : List Discovered} :
    (s.handleAgentInventory env agentID ⟨found.map Discovered.entry, true⟩ m).1.view agentID id =
      some (v.viaAgent agentID id (.inventory found)) := by
  have hall : ∀ ev ∈ found.map Discovered.entry, ¬ev.refused := by
    intro ev hev
    obtain ⟨d, -, rfl⟩ := List.mem_map.mp hev
    exact entry_not_refused d
  unfold Service.handleAgentInventory
  rw [Bool.not_true, Bool.and_false, if_neg Bool.false_ne_true, reportAll_ok hall]
  rw [archiveMissing_view (entries_view hv hid found), View.viaAgent]
  have hlive := live_contains hid found
  by_cases hmine : (found.filter fun d => d.externalID = id) = []
  · have hgone := Bool.eq_false_iff.mpr fun h => hlive.mp h hmine
    simp only [hgone, hmine, List.foldl_nil, true_and]
  · rw [if_neg fun h => absurd (hlive.mpr hmine) (Bool.eq_false_iff.mp h.1), if_neg fun h => hmine h.1]

/-- **An agent's path is `viaAgent`.** -/
theorem agentStep_view (hown : t.input.Of id) :
    (agentStep agentID s t).view agentID id = some (v.viaAgent agentID id t.input) := by
  unfold agentStep
  cases hi : t.input with
  | event e =>
    rw [hi] at hown
    subst hown
    dsimp only [View.viaAgent]
    cases hev : runtimeEventToProto e with
    | none => exact hv
    | some =>
      exact (handleAgentEvent_view hv hid).trans (by rw [if_pos (toProto_containerID hev)]; rfl)
  | inventory => exact agentStep_inventory hv hid

end Stored

end Refinement

/-! ## 4. Where the two machines agree -/

/-- **The input is carried**: the agent's path does with it what the server's own does. Only a
    `destroy` and what no path knows is carried for an archived row. A `stop` is carried when the
    exit code it comes with says what the row says, a `kill` when it comes with none that is
    graceful; an inventory when it lists the container as it is stored, or omits an archived one. -/
def View.Carries (agentID id : String) (v : View) : Input → Prop
  | .event e =>
    match e.action with
    | .destroy | .other _ => True
    | .stop => v.archived = false ∧ (v.state = .completed ↔ graceful e.exitCode = true)
    | .kill => v.archived = false ∧ graceful e.exitCode = false
    | .start | .die | .pause | .unpause | .restart | .create | .healthStatus => v.archived = false
  | .inventory found =>
    let mine := found.filter fun d => d.externalID = id
    if mine = [] then v.archived = true ∨ uidAgent agentID ≠ agentID
    else v.archived = false ∧ mine.foldl (fun st d => d.entry.target.getD st) v.state = v.state ∧
      mine.foldl (fun h d => d.healthStatus.or h) v.health = v.health

section Agreement

variable {agentID id : String} {v : View}

theorem foldl_reported (ds : List Discovered) : ds.foldl (fun v d => v.reported d.entry) v =
    ⟨ds.foldl (fun st d => d.entry.target.getD st) v.state,
      ds.foldl (fun h d => d.healthStatus.or h) v.health, v.archived && ds.isEmpty⟩ := by
  induction ds generalizing v with
  | nil => simp
  | cons d _ ih =>
    have hone : v.reported d.entry = ⟨d.entry.target.getD v.state, d.healthStatus.or v.health, false⟩ := by
      rw [View.reported, entry_health]
      rfl
    rw [List.foldl_cons, hone, ih, List.isEmpty_cons, Bool.and_false]
    rfl

theorem inventory_agrees (found : List Discovered) :
    v.viaAgent agentID id (.inventory found) = v ↔ v.Carries agentID id (.inventory found) := by
  dsimp only [View.viaAgent, View.Carries]
  rw [foldl_reported]
  generalize (found.filter fun d => d.externalID = id) = mine
  obtain ⟨state, health, archived⟩ := v
  cases mine with
  | nil =>
    by_cases h : uidAgent agentID = agentID <;> simp [h, eq_comm]
  | cons d ds =>
    rw [if_neg fun h => List.cons_ne_nil d ds h.1, if_neg (List.cons_ne_nil d ds), View.mk.injEq,
      List.isEmpty_cons, Bool.and_false]
    constructor
    · rintro ⟨hs, hh, ha⟩
      exact ⟨ha.symm, hs, hh⟩
    · rintro ⟨ha, hs, hh⟩
      exact ⟨hs, hh, ha.symm⟩

/-- The message of an event that names a state names no health. -/
theorem reported_action {e : RuntimeEvent} {st : WireState} (hst : actionToContainerState e.action = some st) :
    (runtimeEventToProto e).elim v v.reported =
      ⟨(WireContainer.target ⟨e.externalID, e.name, e.image, st, e.exitCode, e.labels, "", false, false,
        none⟩).getD v.state, v.health, false⟩ := by
  have hempty : HealthStatus.ofText "" = none := by decide
  unfold runtimeEventToProto
  split
  · next h => rw [h] at hst; cases hst
  · next h => rw [h] at hst; cases hst
  · rw [hst]
    dsimp only [Option.map, Option.elim, View.reported]
    rw [hempty]
    rfl

theorem view_eq_iff {st st' : ContainerState} {h : Option HealthStatus} {b : Bool} :
    (⟨st, h, false⟩ : View) = ⟨st', h, b⟩ ↔ b = false ∧ st = st' := by
  rw [View.mk.injEq]
  constructor
  · rintro ⟨hs, -, hb⟩
    exact ⟨hb.symm, hs⟩
  · rintro ⟨hb, hs⟩
    exact ⟨hs, rfl, hb.symm⟩

/-- For an event that names a state: a row that is not archived, and the same state. -/
theorem action_agrees {e : RuntimeEvent} {st : WireState} (hst : actionToContainerState e.action = some st) :
    v.viaAgent agentID id (.event e) = v.processed e ↔ v.archived = false ∧
      (WireContainer.target ⟨e.externalID, e.name, e.image, st, e.exitCode, e.labels, "", false, false,
        none⟩).getD v.state = (e.action.target e.exitCode v.state).getD v.state := by
  have hhealth : (v.processed e).health = v.health := by
    refine if_neg fun h => ?_
    rw [h] at hst
    cases hst
  have harchived : (v.processed e).archived = v.archived := by
    cases h : e.action == .destroy with
    | true =>
      rw [beq_iff_eq.mp h] at hst
      cases hst
    | false => exact (congrArg (· || v.archived) h).trans (Bool.false_or _)
  have hview : v.processed e =
      ⟨(e.action.target e.exitCode v.state).getD v.state, v.health, v.archived⟩ := by
    rw [← hhealth, ← harchived]
    rfl
  rw [hview, ← view_eq_iff, ← reported_action hst]
  rfl

theorem stop_target (state : ContainerState) (b : Bool) : (if b then ContainerState.completed else .exited) =
        (if state = .completed then none else some ContainerState.exited).getD state ↔
      (state = .completed ↔ b = true) := by
  cases state <;> cases b <;> decide

theorem event_agrees (e : RuntimeEvent) :
    v.viaAgent agentID id (.event e) = v.processed e ↔ v.Carries agentID id (.event e) := by
  cases h : e.action with
  | destroy | other =>
    dsimp only [View.viaAgent, View.Carries, View.processed, runtimeEventToProto]
    rw [h]
    exact iff_of_true rfl trivial
  | healthStatus =>
    dsimp only [View.viaAgent, View.Carries, View.processed, runtimeEventToProto]
    rw [h]
    exact view_eq_iff.trans (and_iff_left rfl)
  | stop =>
    rw [action_agrees (by rw [h]; rfl)]
    dsimp only [View.Carries]
    rw [h]
    exact and_congr_right fun _ => stop_target v.state _
  | kill =>
    rw [action_agrees (by rw [h]; rfl)]
    dsimp only [View.Carries]
    rw [h]
    refine and_congr_right fun _ => ?_
    show (if graceful e.exitCode then ContainerState.completed else .exited) = .exited ↔ _
    cases graceful e.exitCode <;> decide
  | start | unpause | pause | restart | create | die =>
    rw [action_agrees (by rw [h]; rfl)]
    dsimp only [View.Carries]
    rw [h]
    exact and_iff_left rfl

/-- **Where the two paths do the same.** -/
theorem viaAgent_eq_viaLocal (i : Input) : v.viaAgent agentID id i = v.viaLocal i ↔ v.Carries agentID id i := by
  cases i with
  | event e => exact event_agrees e
  | inventory found => exact inventory_agrees found

/-- The rows of the two paths, after every prefix of the inputs. -/
theorem paths_agree {l a : Service} (hid : id ≠ "") (hl : l.view localAgent id = some v)
    (ha : a.view agentID id = some v) (turns : List Turn) (hown : ∀ t ∈ turns, t.input.Of id) :
    (∀ n, ((turns.take n).foldl (agentStep agentID) a).view agentID id =
        ((turns.take n).foldl localStep l).view localAgent id) ↔
      Along (fun v t => v.viaLocal t.input) (fun v t => v.Carries agentID id t.input) v turns := by
  have hagent : ∀ n, ((turns.take n).foldl (agentStep agentID) a).view agentID id =
      some ((turns.take n).foldl (fun v t => v.viaAgent agentID id t.input) v) := fun n =>
    foldl_view (fun s : Service => s.view agentID id)
      (fun s v t ht hv => agentStep_view hv hid (hown t (List.mem_of_mem_take ht))) ha
  have hlocal : ∀ n, ((turns.take n).foldl localStep l).view localAgent id =
      some ((turns.take n).foldl (fun v t => v.viaLocal t.input) v) := fun n =>
    foldl_view (fun s : Service => s.view localAgent id)
      (fun s v t ht hv => localStep_view (hown t (List.mem_of_mem_take ht)) hv) hl
  simp only [hagent, hlocal, Option.some.injEq]
  rw [lockstep]
  exact along_congr fun v t _ => viaAgent_eq_viaLocal t.input

end Agreement

/-! ## 5. Two runs -/

def sampleTurn (action : Action) (exitCode : String) : Turn :=
  ⟨.event ⟨action, "web", "web", "nginx", exitCode, "", ∅, 0⟩, sampleEnv, sampleEnv, ⟨0, false⟩⟩

/-- A crash and the restart after it are carried. -/
theorem crash_carried :
    ([sampleTurn .die "1", sampleTurn .start ""].foldl (agentStep "a1")
        (sampleService "a1")).view "a1" "web" =
      ([sampleTurn .die "1", sampleTurn .start ""].foldl localStep
        (sampleService localAgent)).view localAgent "web" :=
  (paths_agree (v := ⟨.running, none, false⟩) (by decide) rfl rfl
    [sampleTurn .die "1", sampleTurn .start ""]
    (List.forall_mem_cons.mpr ⟨rfl, List.forall_mem_singleton.mpr rfl⟩)).mpr ⟨rfl, rfl, trivial⟩ 2

/-- **`docker stop`**: `kill`, `die` with exit code 0, `stop`. The server's own container ends as
    completed; that of the agent has been completed, and the `stop`, which the wire cannot tell from
    a `die` without exit code, makes it exited. -/
theorem clean_stop_ends_exited :
    ([sampleTurn .kill "", sampleTurn .die "0", sampleTurn .stop ""].foldl localStep
        (sampleService localAgent)).view localAgent "web" = some ⟨.completed, none, false⟩ ∧
      ([sampleTurn .kill "", sampleTurn .die "0", sampleTurn .stop ""].foldl (agentStep "a1")
        (sampleService "a1")).view "a1" "web" = some ⟨.exited, none, false⟩ := by
  decide

end Maintenant.Containers
