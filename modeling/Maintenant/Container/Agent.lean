/-
  File:      Maintenant/Container/Agent.lean
  Subject:   CONTAINER EVENTS FROM AN AGENT: what the agent makes of its runtime's events
             (internal/agent/collector.go: `runtimeEventToProto`, `containerStateToProto`) and what
             the server makes of the messages (internal/container/agent_event.go).

  * `handleAgentEvent_stored` -- a message on a container that is stored: the row is brought up to
    date and out of the archive (`Container.touched`), then come a health and a state event;
  * `handleAgentEvent_get` -- the row afterwards (`Container.reported`);
  * `handleAgentEvent_frame`, `archiveMissing_get` -- what happens to the other rows.
-/
import Maintenant.Container.Service

namespace Maintenant.Containers

open GoTime

/-! ## 1. On the wire -/

/-- `agentpb.ContainerState`; a number that is none of these is treated as `unspecified`. -/
inductive WireState where
  | unspecified
  | created
  | running
  | paused
  | restarting
  | removing
  | exited
  | dead
deriving DecidableEq, Repr

abbrev Labels := AList fun _ : String => String

/-- `agentpb.ContainerEvent`. -/
structure WireContainer where
  containerID : String
  name : String
  image : String
  state : WireState
  statusMessage : String
  labels : Labels
  healthStatus : String
  hasHealthCheck : Bool
  destroyed : Bool
  startedAt : Option Time

/-- `agentpb.ContainerInventory`. -/
structure WireInventory where
  containers : List WireContainer
  complete : Bool

/-- `agentevent.Meta`. -/
structure Meta where
  observedAt : Time
  replayed : Bool
deriving DecidableEq, Repr

/-! ## 2. The agent -/

/-- `runtime.RuntimeEvent` of a container. -/
structure RuntimeEvent where
  action : Action
  externalID : String
  name : String
  image : String
  exitCode : String
  healthStatus : String
  labels : Labels
  timestamp : Time

def actionToContainerState : Action → Option WireState
  | .start | .unpause => some .running
  | .stop | .die | .kill => some .exited
  | .pause => some .paused
  | .restart => some .restarting
  | .create => some .created
  | .destroy | .healthStatus | .other _ => none

def runtimeEventToProto (ev : RuntimeEvent) : Option WireContainer :=
  match ev.action with
  | .destroy =>
    some ⟨ev.externalID, ev.name, ev.image, .exited, "", ev.labels, "", false, true, none⟩
  | .healthStatus =>
    some ⟨ev.externalID, ev.name, ev.image, .unspecified, "", ev.labels, ev.healthStatus, true,
      false, none⟩
  | action => (actionToContainerState action).map fun state =>
    ⟨ev.externalID, ev.name, ev.image, state, ev.exitCode, ev.labels, "", false, false, none⟩

/-- A container as the agent's runtime discovers it. -/
structure Discovered where
  externalID : String
  name : String
  image : String
  state : ContainerState
  healthStatus : Option HealthStatus
  hasHealthCheck : Bool
  labels : Labels

def containerStateToProto : ContainerState → WireState
  | .running => .running
  | .exited | .completed => .exited
  | .paused => .paused
  | .restarting => .restarting
  | .created => .created
  | .dead => .dead

/-- An entry of `syncInventory`. -/
def Discovered.entry (d : Discovered) : WireContainer :=
  ⟨d.externalID, d.name, d.image, containerStateToProto d.state, "", d.labels,
    d.healthStatus.elim "" HealthStatus.text, d.hasHealthCheck, false, none⟩

/-! ## 3. The server -/

def containerStateToState : WireState → ContainerState
  | .running => .running
  | .exited => .exited
  | .paused => .paused
  | .restarting => .restarting
  | .dead => .dead
  | .created => .created
  | .unspecified | .removing => .running

def containerStateToAction : WireState → Option Action
  | .running => some .start
  | .exited | .dead => some .die
  | .paused => some .pause
  | .restarting => some .restart
  | .created => some .create
  | .unspecified | .removing => none

def agentEventTime (ev : WireContainer) (m : Meta) : Time := ev.startedAt.getD m.observedAt

/-- A label, "" when it is not there. -/
def label (labels : Labels) (key : String) : String := (labels.lookup key).getD ""

def severityOfText (s : String) : Option AlertSeverity :=
  if s = "critical" then some .critical
  else if s = "warning" then some .warning
  else if s = "info" then some .info
  else none

/-- The threshold a label sets: a positive number. -/
def thresholdOfText (s : String) : Option Int :=
  match atoi s with
  | some n => if 0 < n then some n else none
  | none => none

/-- `applyAgentLabels`. -/
def applyAgentLabels (c : Container) (labels : Labels) : Container :=
  { c with
    isIgnored := match labels.lookup "maintenant.ignore" with
      | some v => v == "true" || v == "1" || c.isIgnored
      | none => c.isIgnored
    customGroup := match labels.lookup "maintenant.group" with
      | some v => if v = "" then c.customGroup else v
      | none => c.customGroup
    alertSeverity := match labels.lookup "maintenant.alert.severity" with
      | some v => (severityOfText v).getD c.alertSeverity
      | none => c.alertSeverity
    restartThreshold := match labels.lookup "maintenant.alert.restart_threshold" with
      | some v => (thresholdOfText v).getD c.restartThreshold
      | none => c.restartThreshold
    alertChannels := match labels.lookup "maintenant.alert.channels" with
      | some v => if v = "" then c.alertChannels else v
      | none => c.alertChannels }

/-- The row of a container an agent reports for the first time. -/
def newAgentContainer (env : Env) (agentID : String) (ev : WireContainer) (m : Meta) : Container :=
  let state := containerStateToState ev.state
  let now := unix (agentEventTime ev m)
  applyAgentLabels
    { id := ⟨uidAgent agentID, ev.containerID⟩
      name := ev.name
      image := ev.image
      state := state
      healthStatus := if ev.healthStatus = "" then none else HealthStatus.ofText ev.healthStatus
      hasHealthCheck := ev.hasHealthCheck || ev.healthStatus != ""
      orchestrationGroup := label ev.labels "com.docker.compose.project"
      orchestrationUnit := label ev.labels "com.docker.compose.service"
      composeWorkingDir := label ev.labels "com.docker.compose.project.working_dir"
      customGroup := ""
      isIgnored := false
      alertSeverity := .warning
      restartThreshold := 3
      alertChannels := ""
      archived := false
      archivedAt := none
      firstSeenAt := now
      lastStateChangeAt := now
      runtimeType := match env.agentRuntime with
        | some rt => if rt = "" then "docker" else rt
        | none => "docker"
      podCount := 1
      readyCount := if state = .running then 1 else 0 } ev.labels

/-- `agent event: insert …`. -/
inductive AgentError where
  | insert (externalID : String)
deriving DecidableEq, Repr

/-- The store refuses the row of a new container: a health status it does not know. -/
def WireContainer.refused (ev : WireContainer) : Prop :=
  ev.healthStatus ≠ "" ∧ HealthStatus.ofText ev.healthStatus = none

instance (ev : WireContainer) : Decidable ev.refused := inferInstanceAs (Decidable (_ ∧ _))

/-- The transition that starts a container's history. -/
def firstTransition (c : Container) (t : Time) : StateTransition where
  containerID := c.id
  previousState := .created
  newState := c.state
  previousHealth := none
  newHealth := none
  exitCode := none
  logSnippet := ""
  timestamp := unix t

def Service.insertAgentContainer (env : Env) (s : Service) (agentID : String) (ev : WireContainer)
    (m : Meta) : Service × Option AgentError :=
  if ev.refused then (s, some (.insert ev.containerID))
  else
    let c := newAgentContainer env agentID ev m
    let s := s.insertContainer c
    let s := if c.state = .created then s
      else s.insertTransition (firstTransition c (agentEventTime ev m))
    (s.emit (.discovered c), none)

/-- The row brought up to date: the image, whether there is a health check, out of the archive. -/
def Container.touched (c : Container) (ev : WireContainer) : Container :=
  { c with
    image := if ev.image = "" then c.image else ev.image
    hasHealthCheck := c.hasHealthCheck || ev.hasHealthCheck
    archived := false
    archivedAt := if c.archived then none else c.archivedAt }

/-- `dirty`. -/
def Container.dirtyBy (c : Container) (ev : WireContainer) : Bool :=
  (ev.image != "" && ev.image != c.image) || (ev.hasHealthCheck && !c.hasHealthCheck) || c.archived

/-- The events `HandleAgentEvent` makes of a message. -/
def baseEvent (agentID : String) (ev : WireContainer) (m : Meta) (action : Action) : ContainerEvent :=
  ⟨action, agentID, ev.containerID, "", "", agentEventTime ev m, m.replayed⟩

def healthEvent (agentID : String) (ev : WireContainer) (m : Meta) : ContainerEvent :=
  { baseEvent agentID ev m .healthStatus with healthStatus := ev.healthStatus }

def stateEvent (agentID : String) (ev : WireContainer) (m : Meta) (action : Action) : ContainerEvent :=
  { baseEvent agentID ev m action with exitCode := ev.statusMessage }

namespace Service

def touch (s : Service) (c : Container) (ev : WireContainer) : Service :=
  if c.dirtyBy ev then s.updateContainer (c.touched ev) else s

/-- The health event, when the message names another status than the row. -/
def reportHealth (env : Env) (s : Service) (agentID : String) (ev : WireContainer) (m : Meta)
    (health : Option HealthStatus) : Service :=
  if ev.healthStatus ≠ "" ∧ health.map HealthStatus.text ≠ some ev.healthStatus then
    s.processEvent env (healthEvent agentID ev m)
  else s

def reportState (env : Env) (s : Service) (agentID : String) (ev : WireContainer) (m : Meta) : Service :=
  match containerStateToAction ev.state with
  | none => s
  | some action => s.processEvent env (stateEvent agentID ev m action)

def handleAgentEvent (env : Env) (s : Service) (agentID : String) (ev : WireContainer) (m : Meta) :
    Service × Option AgentError :=
  if ev.containerID = "" then (s, none)
  else match s.lookup agentID ev.containerID with
    | none => if ev.destroyed then (s, none) else s.insertAgentContainer env agentID ev m
    | some c =>
      if ev.destroyed then (s.processEvent env (baseEvent agentID ev m .destroy), none)
      else
        let s := s.touch c ev
        let s := s.reportHealth env agentID ev m c.healthStatus
        (s.reportState env agentID ev m, none)

/-- The reported containers one after the other, up to the first error. -/
def reportAll (env : Env) (s : Service) (agentID : String) (m : Meta) :
    List WireContainer → Service × Option AgentError
  | [] => (s, none)
  | ev :: evs =>
    match s.handleAgentEvent env agentID ev m with
    | (s, none) => reportAll env s agentID m evs
    | (s, some err) => (s, some err)

/-- The containers of the agent that the snapshot omits are archived. -/
def archiveMissing (env : Env) (s : Service) (agentID : String) (live : List String) : Service :=
  let stored := s.containers.select (fun c => !c.archived && c.id.agentID == agentID)
    fun c c' => c.name ≤ c'.name
  stored.val.foldl (fun s c =>
    if live.contains c.id.externalID then s
    else (s.archiveContainer c.id env.now).emit (.archived c.id env.now)) s

def handleAgentInventory (env : Env) (s : Service) (agentID : String) (inv : WireInventory)
    (m : Meta) : Service × Option AgentError :=
  if inv.containers.isEmpty && !inv.complete then (s, none)
  else match s.reportAll env agentID m inv.containers with
    | (s, some err) => (s, some err)
    | (s, none) =>
      let live := (inv.containers.map WireContainer.containerID).filter (· ≠ "")
      (s.archiveMissing env agentID live, none)

end Service

/-! ## 4. A message on a stored container -/

/-- What the health in a message does to a row. -/
def WireContainer.healthEffect (ev : WireContainer) (health : Option HealthStatus) : Effect :=
  (HealthStatus.ofText ev.healthStatus).elim .keep fun new =>
    if health = some new then .keep else .health new

/-- The state a message leaves a container in; `none` leaves it alone. -/
def WireContainer.target (ev : WireContainer) : Option ContainerState :=
  match ev.state with
  | .running => some .running
  | .exited | .dead => some (if graceful ev.statusMessage then .completed else .exited)
  | .paused => some .paused
  | .restarting | .created | .unspecified | .removing => none

/-- What the state in a message does to a row. -/
def WireContainer.stateEffect (ev : WireContainer) (state : ContainerState) : Effect :=
  ev.target.elim .keep fun new => if state = new then .keep else .state new

/-- The state event of a message (that of a message without one is never processed). -/
def WireContainer.stateEvent (ev : WireContainer) (agentID : String) (m : Meta) : ContainerEvent :=
  Containers.stateEvent agentID ev m ((containerStateToAction ev.state).getD (.other ""))

/-- The row after the first two steps of a message, -/
def Container.checked (c : Container) (agentID : String) (ev : WireContainer) (m : Meta) : Container :=
  (c.touched ev).after (healthEvent agentID ev m) (ev.healthEffect c.healthStatus)

/-- and after the third. -/
def Container.reported (c : Container) (agentID : String) (ev : WireContainer) (m : Meta) : Container :=
  (c.checked agentID ev m).after (ev.stateEvent agentID m) (ev.stateEffect c.state)

section Spec

variable {env : Env} {s : Service} {agentID : String} {ev : WireContainer} {m : Meta} {c : Container}

theorem touched_of_clean (hclean : c.dirtyBy ev = false) : c.touched ev = c := by
  simp only [Container.dirtyBy, Bool.or_eq_false_iff, Bool.and_eq_false_iff, bne_eq_false_iff_eq,
    Bool.not_eq_false'] at hclean
  obtain ⟨⟨himage, hcheck⟩, harchived⟩ := hclean
  have himage' : (if ev.image = "" then c.image else ev.image) = c.image := by
    split
    · rfl
    · next hne => exact himage.resolve_left hne
  have hcheck' : (c.hasHealthCheck || ev.hasHealthCheck) = c.hasHealthCheck := by
    rcases hcheck with h | h
    · rw [h, Bool.or_false]
    · rw [h, Bool.true_or]
  unfold Container.touched
  rw [himage', hcheck', harchived]
  cases c
  cases harchived
  rfl

theorem touch_get (hc : s.containers.get c.id = some c) (id : ContainerID) : (s.touch c ev).containers.get id =
      if id = c.id then some (c.touched ev) else s.containers.get id := by
  unfold Service.touch
  split
  · exact get_updateContainer hc rfl
  · next hclean =>
    rw [touched_of_clean (Bool.eq_false_iff.mpr hclean)]
    by_cases h : id = c.id
    · rw [if_pos h, h]
      exact hc
    · rw [if_neg h]

theorem touch_transitions : (s.touch c ev).transitions = s.transitions := by
  unfold Service.touch
  split <;> rfl

theorem touch_emitted : (s.touch c ev).emitted = s.emitted := by
  unfold Service.touch
  split <;> rfl

theorem reportHealth_stored (hc : s.lookup agentID ev.containerID = some c) :
    s.reportHealth env agentID ev m c.healthStatus =
      s.apply env (healthEvent agentID ev m) c (ev.healthEffect c.healthStatus) := by
  have hstep : s.processEvent env (healthEvent agentID ev m) =
      s.apply env (healthEvent agentID ev m) c (c.effect (healthEvent agentID ev m)) :=
    processEvent_stored hc
  have heffect : c.effect (healthEvent agentID ev m) = (HealthStatus.ofText ev.healthStatus).elim .keep .health := rfl
  unfold Service.reportHealth WireContainer.healthEffect
  cases hof : HealthStatus.ofText ev.healthStatus with
  | none =>
    rw [hof] at heffect
    split
    · rw [hstep, heffect]
      rfl
    · rfl
  | some new =>
    have htext := HealthStatus.text_of_ofText hof
    have hne : ev.healthStatus ≠ "" := htext ▸ new.text_ne_empty
    rw [hof] at heffect
    by_cases hsame : c.healthStatus = some new
    · rw [if_neg fun h => h.2 (by rw [hsame, ← htext]; rfl), Option.elim_some, if_pos hsame]
      rfl
    · have hother : c.healthStatus.map HealthStatus.text ≠ some ev.healthStatus := by
        intro h
        obtain ⟨old, hold, hold'⟩ := Option.map_eq_some_iff.mp h
        have : HealthStatus.ofText old.text = some new := by rw [hold', hof]
        rw [HealthStatus.ofText_text] at this
        exact hsame (hold.trans this)
      rw [if_pos ⟨hne, hother⟩, hstep, heffect, Option.elim_some, Option.elim_some, if_neg hsame]

theorem reportState_stored (hc : s.lookup agentID ev.containerID = some c) : s.reportState env agentID ev m =
      s.apply env (ev.stateEvent agentID m) c (ev.stateEffect c.state) := by
  unfold Service.reportState WireContainer.stateEffect WireContainer.target WireContainer.stateEvent
  cases ev.state with
  | unspecified | removing => rfl
  | created | running | paused | restarting | exited | dead => exact processEvent_stored hc

theorem after_id (evt : ContainerEvent) (e : Effect) : (c.after evt e).id = c.id := by
  cases e with
  | archive =>
    show (c.archive evt.timestamp).id = c.id
    unfold Container.archive
    split <;> rfl
  | keep | state | health => rfl

theorem healthEffect_cases (ev : WireContainer) (health : Option HealthStatus) :
    ev.healthEffect health = .keep ∨ ∃ new, ev.healthEffect health = .health new := by
  unfold WireContainer.healthEffect
  cases HealthStatus.ofText ev.healthStatus with
  | none => exact .inl rfl
  | some new =>
    by_cases h : health = some new
    · exact .inl (if_pos h)
    · exact .inr ⟨new, if_neg h⟩

theorem stateEffect_cases (ev : WireContainer) (state : ContainerState) :
    ev.stateEffect state = .keep ∨ ∃ new, ev.stateEffect state = .state new := by
  unfold WireContainer.stateEffect
  cases ev.target with
  | none => exact .inl rfl
  | some new =>
    by_cases h : state = new
    · exact .inl (if_pos h)
    · exact .inr ⟨new, if_neg h⟩

theorem checked_state : (c.checked agentID ev m).state = c.state := by
  unfold Container.checked
  rcases healthEffect_cases ev c.healthStatus with h | ⟨_, h⟩ <;> (rw [h]; rfl)

theorem lookup_id {id : String} (hc : s.lookup agentID id = some c) : c.id = ⟨uidAgent agentID, id⟩ :=
  (Table.get_eq_some.mp hc).2

theorem get_of_lookup {id : String} (hc : s.lookup agentID id = some c) : s.containers.get c.id = some c := by
  rw [lookup_id hc]
  exact hc

theorem handleAgentEvent_nameless (hid : ev.containerID = "") :
    s.handleAgentEvent env agentID ev m = (s, none) := if_pos hid

section

variable (hid : ev.containerID ≠ "")

include hid

theorem handleAgentEvent_unknown (hc : s.lookup agentID ev.containerID = none) : s.handleAgentEvent env agentID ev m =
      if ev.destroyed then (s, none) else s.insertAgentContainer env agentID ev m := by
  unfold Service.handleAgentEvent
  rw [if_neg hid, hc]

variable (hc : s.lookup agentID ev.containerID = some c)

include hc

omit hid in
theorem touched_lookup : (s.touch c ev).lookup agentID ev.containerID = some (c.touched ev) := by
  rw [Service.lookup, ← lookup_id hc, touch_get (get_of_lookup hc), if_pos rfl]

omit hid in
theorem checked_lookup : ((s.touch c ev).apply env (healthEvent agentID ev m) (c.touched ev)
    (ev.healthEffect c.healthStatus)).lookup agentID ev.containerID = some (c.checked agentID ev m) := by
  rw [Service.lookup, ← lookup_id hc, apply_get (get_of_lookup (touched_lookup hc))]
  exact if_pos rfl

/-- **A message on a stored container**: three steps, each on the row the one before has left. -/
theorem handleAgentEvent_stored (hlive : ev.destroyed = false) :
    s.handleAgentEvent env agentID ev m = (((s.touch c ev).apply env (healthEvent agentID ev m) (c.touched ev)
          (ev.healthEffect c.healthStatus)).apply env (ev.stateEvent agentID m)
          (c.checked agentID ev m) (ev.stateEffect c.state), none) := by
  unfold Service.handleAgentEvent
  rw [if_neg hid, hc]
  dsimp only
  rw [hlive, if_neg Bool.false_ne_true, show c.healthStatus = (c.touched ev).healthStatus from rfl,
    reportHealth_stored (touched_lookup hc)]
  refine congrArg (·, none) ((reportState_stored (checked_lookup hc)).trans ?_)
  rw [checked_state]
  rfl

theorem handleAgentEvent_destroyed (hgone : ev.destroyed = true) :
    s.handleAgentEvent env agentID ev m = (s.archive (baseEvent agentID ev m .destroy) c, none) := by
  have hstep : s.processEvent env (baseEvent agentID ev m .destroy) =
      s.apply env (baseEvent agentID ev m .destroy) c .archive := processEvent_stored hc
  unfold Service.handleAgentEvent
  rw [if_neg hid, hc]
  rw [hgone, if_pos rfl, hstep]
  rfl

/-- **The rows after a message on a stored container.** -/
theorem handleAgentEvent_get (hlive : ev.destroyed = false)
    (id : ContainerID) : (s.handleAgentEvent env agentID ev m).1.containers.get id =
      if id = c.id then some (c.reported agentID ev m) else s.containers.get id := by
  have hid₂ : (c.checked agentID ev m).id = c.id := after_id _ _
  rw [handleAgentEvent_stored hid hc hlive]
  dsimp only
  rw [apply_get (get_of_lookup (checked_lookup hc)), apply_get (get_of_lookup (touched_lookup hc)),
    touch_get (get_of_lookup hc), hid₂]
  by_cases e : id = c.id
  · rw [if_pos e, if_pos e]
    rfl
  · rw [if_neg e, if_neg e]
    exact (if_neg e).trans (if_neg e).symm

omit hc

end

theorem insertAgentContainer_refused (h : ev.refused) :
    s.insertAgentContainer env agentID ev m = (s, some (.insert ev.containerID)) := if_pos h

/-- **The rows after the first message of a container.** -/
theorem insertAgentContainer_get (hnew : s.lookup agentID ev.containerID = none) (h : ¬ev.refused)
    (id : ContainerID) : (s.insertAgentContainer env agentID ev m).1.containers.get id =
      if id = ⟨uidAgent agentID, ev.containerID⟩ then some (newAgentContainer env agentID ev m)
      else s.containers.get id := by
  unfold Service.insertAgentContainer
  rw [if_neg h]
  have hget : (s.insertContainer (newAgentContainer env agentID ev m)).containers.get id = _ :=
    get_insertContainer hnew
  dsimp only
  split <;> exact hget

/-- **A message leaves the rows of other containers alone.** -/
theorem handleAgentEvent_frame {id : ContainerID} (hne : id ≠ ⟨uidAgent agentID, ev.containerID⟩) :
    (s.handleAgentEvent env agentID ev m).1.containers.get id = s.containers.get id := by
  by_cases hid : ev.containerID = ""
  · rw [handleAgentEvent_nameless hid]
  cases hc : s.lookup agentID ev.containerID with
  | none =>
    rw [handleAgentEvent_unknown hid hc]
    split
    · rfl
    · by_cases href : ev.refused
      · rw [insertAgentContainer_refused href]
      · rw [insertAgentContainer_get hc href, if_neg hne]
  | some c =>
    have hne' : id ≠ c.id := by
      rw [lookup_id hc]
      exact hne
    cases hgone : ev.destroyed with
    | true => rw [handleAgentEvent_destroyed hid hc hgone, archive_get (get_of_lookup hc), if_neg hne']
    | false => rw [handleAgentEvent_get hid hc hgone, if_neg hne']

/-- A message whose health the store would take is answered without an error. -/
theorem handleAgentEvent_ok (h : ¬ev.refused) : (s.handleAgentEvent env agentID ev m).2 = none := by
  unfold Service.handleAgentEvent Service.insertAgentContainer
  split
  · rfl
  · split
    · split <;> rfl
    · split <;> rfl

/-- What is handed to the callback for a message that is replayed. -/
def Service.heard (env : Env) (s : Service) (agentID : String) (ev : WireContainer) (m : Meta) :
    List Emitted :=
  if ev.containerID = "" then []
  else match s.lookup agentID ev.containerID with
    | none =>
      if ev.destroyed = true ∨ ev.refused then []
      else [.discovered (newAgentContainer env agentID ev m)]
    | some c =>
      if ev.destroyed then [.archived c.id (agentEventTime ev m)]
      else (c.touched ev).tells (healthEvent agentID ev m) (ev.healthEffect c.healthStatus)

/-- **A replayed message is silent but for health, discovery and archiving.** -/
theorem handleAgentEvent_emitted (h : m.replayed = true) :
    (s.handleAgentEvent env agentID ev m).1.emitted = s.emitted ++ s.heard env agentID ev m := by
  unfold Service.heard
  by_cases hid : ev.containerID = ""
  · rw [handleAgentEvent_nameless hid, if_pos hid, List.append_nil]
  rw [if_neg hid]
  cases hc : s.lookup agentID ev.containerID with
  | none =>
    rw [handleAgentEvent_unknown hid hc]
    unfold Service.insertAgentContainer
    cases hgone : ev.destroyed with
    | true => rw [if_pos rfl, if_pos (Or.inl rfl), List.append_nil]
    | false =>
      rw [if_neg Bool.false_ne_true]
      by_cases href : ev.refused
      · rw [if_pos href, if_pos (Or.inr href), List.append_nil]
      · rw [if_neg href, if_neg (not_or.mpr ⟨Bool.false_ne_true, href⟩)]
        show (ite _ _ _ : Service).emitted ++ _ = _
        congr 1
        unfold Service.insertContainer
        split <;> split <;> rfl
  | some c =>
    dsimp only
    cases hgone : ev.destroyed with
    | true =>
      rw [handleAgentEvent_destroyed hid hc hgone]
      rfl
    | false =>
      have hstate : (c.checked agentID ev m).tells (ev.stateEvent agentID m) (ev.stateEffect c.state) = [] := by
        rcases stateEffect_cases ev c.state with h | ⟨_, h⟩ <;> (rw [h]; rfl)
      rw [handleAgentEvent_stored hid hc hgone, apply_emitted h, apply_emitted h, touch_emitted, hstate,
        List.append_nil, if_neg Bool.false_ne_true]

/-! ## 5. An inventory -/

/-- A message, whatever it is answered with. -/
def Service.take (env : Env) (agentID : String) (m : Meta) (s : Service) (ev : WireContainer) : Service :=
  (s.handleAgentEvent env agentID ev m).1

theorem reportAll_ok {evs : List WireContainer} (h : ∀ ev ∈ evs, ¬ev.refused) :
    s.reportAll env agentID m evs = (evs.foldl (Service.take env agentID m) s, none) := by
  induction evs generalizing s with
  | nil => rfl
  | cons ev _ ih =>
    have hok : s.handleAgentEvent env agentID ev m = (s.take env agentID m ev, none) :=
      Prod.ext rfl (handleAgentEvent_ok (h ev List.mem_cons_self))
    rw [Service.reportAll, hok]
    exact ih fun ev' h' => h ev' (List.mem_cons_of_mem ev h')

/-- The row of a container the snapshot omits. -/
def Container.swept (c : Container) (agentID : String) (live : List String) (now : Time) : Container :=
  if c.id.agentID == agentID && !live.contains c.id.externalID then c.archive now else c

theorem archive_archived (c : Container) (t : Time) : (c.archive t).archived = true := by
  unfold Container.archive
  split
  · next h => exact h
  · rfl

theorem archive_archive (t : Time) : (c.archive t).archive t = c.archive t := by
  unfold Container.archive
  cases h : c.archived with
  | true => rw [if_pos rfl, if_pos h]
  | false => rfl

/-- One row of the sweep. -/
def Service.sweep (now : Time) (live : List String) (s : Service) (c : Container) : Service :=
  if live.contains c.id.externalID then s
  else (s.archiveContainer c.id now).emit (.archived c.id now)

theorem sweep_get (now : Time) (live : List String) (id : ContainerID) :
    (s.sweep now live c).containers.get id = (s.containers.get id).map fun r =>
      if r.id = c.id ∧ live.contains r.id.externalID = false then r.archive now else r := by
  unfold Service.sweep
  split
  · next h =>
    have hid : (fun r : Container =>
        if r.id = c.id ∧ live.contains r.id.externalID = false then r.archive now else r) = fun r => r := by
      funext r
      refine if_neg fun hr => ?_
      rw [hr.1, h] at hr
      exact Bool.noConfusion hr.2
    rw [hid, Option.map_id']
  · next h =>
    show (s.archiveContainer c.id now).containers.get id = _
    rw [archiveContainer_get]
    congr 1
    funext r
    by_cases e : r.id = c.id
    · rw [if_pos e, if_pos ⟨e, by rw [e]; exact Bool.eq_false_iff.mpr h⟩]
    · rw [if_neg e, if_neg fun hr => e hr.1]

theorem sweepAll_get (now : Time) (live : List String) (id : ContainerID) (cs : List Container) :
    ∀ s : Service, (cs.foldl (Service.sweep now live) s).containers.get id = (s.containers.get id).map fun r =>
        if (∃ c ∈ cs, r.id = c.id) ∧ live.contains r.id.externalID = false then r.archive now else r := by
  induction cs with
  | nil =>
    intro s
    simp
  | cons c cs ih =>
    intro s
    rw [List.foldl_cons, ih, sweep_get, Option.map_map]
    congr 1
    funext r
    by_cases h : r.id = c.id ∧ live.contains r.id.externalID = false
    · have hr : (∃ c' ∈ c :: cs, r.id = c'.id) ∧ live.contains r.id.externalID = false :=
        ⟨⟨c, List.mem_cons_self, h.1⟩, h.2⟩
      rw [Function.comp, if_pos h, if_pos hr, archive_archive, ite_self]
    · rw [Function.comp, if_neg h]
      refine if_congr (and_congr_left fun hlive => ?_) rfl rfl
      rw [List.exists_mem_cons_iff, or_iff_right fun e => h ⟨e, hlive⟩]

/-- **What the snapshot omits is archived**, and nothing else changes. -/
theorem archiveMissing_get (live : List String) (id : ContainerID) :
    (s.archiveMissing env agentID live).containers.get id =
      (s.containers.get id).map fun r => r.swept agentID live env.now := by
  refine (sweepAll_get env.now live id _ s).trans ?_
  cases hr : s.containers.get id with
  | none => rfl
  | some r =>
    obtain ⟨hmem, -⟩ := Table.get_eq_some.mp hr
    rw [Option.map_some, Option.map_some, Container.swept]
    congr 1
    cases harchived : r.archived with
    | true =>
      have : r.archive env.now = r := if_pos harchived
      rw [this, ite_self, ite_self]
    | false =>
      refine if_congr ?_ rfl rfl
      rw [Bool.and_eq_true, beq_iff_eq, Bool.not_eq_true']
      refine and_congr_left fun _ => ?_
      constructor
      · rintro ⟨c, hc, e⟩
        obtain ⟨-, hc⟩ := Table.mem_select.mp hc
        rw [e]
        exact beq_iff_eq.mp (Bool.and_eq_true_iff.mp hc).2
      · intro e
        exact ⟨r, Table.mem_select.mpr ⟨hmem, by rw [harchived, e, beq_self_eq_true]; rfl⟩, rfl⟩

end Spec

/-! ## 6. A container to run on -/

/-- A container that runs, as agent `agentID` reports it. -/
def sampleRow (agentID : String) : Container where
  id := ⟨agentID, "web"⟩
  name := "web"
  image := "nginx"
  state := .running
  healthStatus := none
  hasHealthCheck := false
  orchestrationGroup := ""
  orchestrationUnit := ""
  composeWorkingDir := ""
  customGroup := ""
  isIgnored := false
  alertSeverity := .warning
  restartThreshold := 3
  alertChannels := ""
  archived := false
  archivedAt := none
  firstSeenAt := 0
  lastStateChangeAt := 0
  runtimeType := "docker"
  podCount := 1
  readyCount := 1

def sampleService (agentID : String) : Service := ⟨⟨[sampleRow agentID], List.nodup_singleton _⟩, [], []⟩

/-- Nobody to ask, at the epoch. -/
def sampleEnv : Env := ⟨0, false, none, none, none⟩

end Maintenant.Containers
