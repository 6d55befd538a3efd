/-
  File:      Maintenant/Container/Service.lean
  Subject:   THE CONTAINER SERVICE (internal/container/service.go: `ProcessEvent`,
             `handleStateChange`, `handleDestroy`, `handleHealthChange`; internal/alert/alerts.go:
             `RestartDetector.Check`).

  * `Container.effect`, `processEvent_stored` -- what an event does to a container that is stored;
  * `apply_get`, `apply_transitions`, `apply_emitted` -- rows, transitions and, for a replay, what
    is emitted afterwards.
-/
import Maintenant.Container.Model

namespace Maintenant.Containers

open GoTime

/-! ## 1. Events -/

/-- The actions the runtimes report, and every other text. -/
inductive Action where
  | start
  | stop
  | die
  | kill
  | pause
  | unpause
  | restart
  | create
  | destroy
  | healthStatus
  | other (text : String)
deriving DecidableEq, Repr

/-- `ContainerEvent`; name, error detail and labels are read by no handler. -/
structure ContainerEvent where
  action : Action
  agentID : String
  externalID : String
  exitCode : String
  healthStatus : String
  timestamp : Time
  replayed : Bool
deriving DecidableEq, Repr

def ContainerEvent.id (evt : ContainerEvent) : ContainerID := ⟨uidAgent evt.agentID, evt.externalID⟩

/-- What is around one event: the clock, whether a restart checker is wired, what the log fetcher
    and the resolver of an agent's runtime answer (`none`: an error, or nobody to ask), the
    discoverer's `Reconcile`. -/
structure Env where
  now : Time
  restartChecker : Bool
  logSnippet : Option String
  agentRuntime : Option String
  reconcile : Option (Service → Service)

/-! ## 2. Handlers -/

def defaultRestartWindow : Int := 10 * 60 * second

/-- `RestartDetector.Check`. -/
def checkRestarts (env : Env) (s : Service) (c : Container) : Option RestartAlert :=
  let count := countRestartsSince s.transitions c.id (env.now - defaultRestartWindow)
  if (count : Int) < c.restartThreshold then none
  else some ⟨c.id, c.name, count, c.restartThreshold, c.alertSeverity, c.alertChannels, env.now⟩

/-- The exit code of the transition. -/
def ContainerEvent.exitCode? (evt : ContainerEvent) : Option Int :=
  if evt.exitCode = "" then none else some (parseExitCode evt.exitCode)

/-- The transition of a state change. -/
def stateTransition (env : Env) (evt : ContainerEvent) (c : Container) (new : ContainerState) :
    StateTransition where
  containerID := c.id
  previousState := c.state
  newState := new
  previousHealth := none
  newHealth := none
  exitCode := evt.exitCode?
  logSnippet := if evt.action = .die ∧ c.id.agentID = localAgent then env.logSnippet.getD "" else ""
  timestamp := unix evt.timestamp

/-- The transition of a health change. -/
def healthTransition (evt : ContainerEvent) (c : Container) (new : HealthStatus) :
    StateTransition where
  containerID := c.id
  previousState := c.state
  newState := c.state
  previousHealth := c.healthStatus
  newHealth := some new
  exitCode := none
  logSnippet := ""
  timestamp := unix evt.timestamp

namespace Service

variable (env : Env) (s : Service) (evt : ContainerEvent)

/-- The restart threshold, on the way back to running from a crash. -/
def noteRestart (c : Container) (previous : ContainerState) : Service :=
  if c.state = .running ∧ (previous = .restarting ∨ previous = .exited) ∧ env.restartChecker = true ∧
      evt.replayed = false then
    match checkRestarts env s c with
    | some alert => s.emit (.restartAlert alert)
    | none => s.emit (.restartRecover c.id c.name evt.timestamp)
  else s

/-- `handleStateChange`, from where the state is known to change. -/
def changeState (c : Container) (new : ContainerState) : Service :=
  let c' := { c with state := new, lastStateChangeAt := unix evt.timestamp }
  let s := s.updateContainer c'
  let s := s.insertTransition (stateTransition env evt c new)
  let s := s.noteRestart env evt c' c.state
  if evt.replayed then s
  else s.emit (.stateChanged c.id new c.state c.healthStatus evt.exitCode? evt.timestamp)

def handleStateChange (new : ContainerState) : Service :=
  match s.lookup evt.agentID evt.externalID with
  | none =>
    if new = .running ∧ uidAgent evt.agentID = localAgent then
      match env.reconcile with
      | none => s
      | some reconcile => reconcile s
    else s
  | some c => if c.state = new then s else s.changeState env evt c new

/-- `handleDestroy`, for a container that is stored. -/
def archive (c : Container) : Service :=
  (s.archiveContainer c.id evt.timestamp).emit (.archived c.id evt.timestamp)

def handleDestroy : Service :=
  match s.lookup evt.agentID evt.externalID with
  | none => s
  | some c => s.archive evt c

/-- `handleHealthChange`, for a container that is stored and a health the store takes. -/
def changeHealth (c : Container) (new : HealthStatus) : Service :=
  let s := s.updateContainer
    { c with healthStatus := some new, lastStateChangeAt := unix evt.timestamp }
  let s := s.insertTransition (healthTransition evt c new)
  s.emit (.healthChanged c.id new c.healthStatus evt.timestamp)

def handleHealthChange : Service :=
  match s.lookup evt.agentID evt.externalID with
  | none => s
  | some c =>
    match HealthStatus.ofText evt.healthStatus with
    | none => s
    | some new => s.changeHealth evt c new

end Service

/-- `evt.ExitCode != "" && isGracefulExitCode(parseExitCode(evt.ExitCode))`. -/
def graceful (exitCode : String) : Bool :=
  exitCode != "" && isGracefulExitCode (parseExitCode exitCode)

def Service.processEvent (env : Env) (s : Service) (evt : ContainerEvent) : Service :=
  match evt.action with
  | .start => s.handleStateChange env evt .running
  | .stop =>
    -- the clean end that `die` has seen is not overwritten
    if (s.lookup evt.agentID evt.externalID).any (·.state == .completed) then s
    else s.handleStateChange env evt .exited
  | .die => s.handleStateChange env evt (if graceful evt.exitCode then .completed else .exited)
  | .kill => s.handleStateChange env evt .exited
  | .pause => s.handleStateChange env evt .paused
  | .unpause => s.handleStateChange env evt .running
  | .destroy => s.handleDestroy evt
  | .healthStatus => s.handleHealthChange evt
  | .restart | .create | .other _ => s

/-! ## 3. What they do -/

/-- The state an action leaves a container in; `none` leaves it alone. -/
def Action.target (exitCode : String) (state : ContainerState) : Action → Option ContainerState
  | .start | .unpause => some .running
  | .stop => if state = .completed then none else some .exited
  | .die => some (if graceful exitCode then .completed else .exited)
  | .kill => some .exited
  | .pause => some .paused
  | .restart | .create | .destroy | .healthStatus | .other _ => none

/-- What an event does to a container that is stored. -/
inductive Effect where
  | keep
  | state (new : ContainerState)
  | archive
  | health (new : HealthStatus)
deriving DecidableEq, Repr

def Container.effect (c : Container) (evt : ContainerEvent) : Effect :=
  match evt.action with
  | .destroy => .archive
  | .healthStatus => (HealthStatus.ofText evt.healthStatus).elim .keep .health
  | action => (action.target evt.exitCode c.state).elim .keep fun new =>
    if c.state = new then .keep else .state new

def Service.apply (env : Env) (s : Service) (evt : ContainerEvent) (c : Container) :
    Effect → Service
  | .keep => s
  | .state new => s.changeState env evt c new
  | .archive => s.archive evt c
  | .health new => s.changeHealth evt c new

section Spec

variable {env : Env} {s : Service} {evt : ContainerEvent} {c : Container}

theorem handleStateChange_stored (hc : s.lookup evt.agentID evt.externalID = some c)
    (new : ContainerState) : s.handleStateChange env evt new =
      s.apply env evt c (if c.state = new then .keep else .state new) := by
  unfold Service.handleStateChange
  rw [hc]
  dsimp only
  split <;> rfl

/-- **One event, one container.** -/
theorem processEvent_stored (hc : s.lookup evt.agentID evt.externalID = some c) :
    s.processEvent env evt = s.apply env evt c (c.effect evt) := by
  unfold Service.processEvent Container.effect
  cases evt.action with
  | stop =>
    dsimp only [Action.target]
    rw [hc, Option.any_some]
    by_cases hcompleted : c.state = .completed
    · rw [if_pos (beq_iff_eq.mpr hcompleted), if_pos hcompleted]
      rfl
    · rw [if_neg (mt beq_iff_eq.mp hcompleted), if_neg hcompleted]
      exact handleStateChange_stored hc .exited
  | destroy =>
    dsimp only [Service.handleDestroy]
    rw [hc]
    rfl
  | healthStatus =>
    dsimp only [Service.handleHealthChange]
    rw [hc]
    cases HealthStatus.ofText evt.healthStatus <;> rfl
  | start | die | kill | pause | unpause => exact handleStateChange_stored hc _
  | restart | create | other => rfl

variable (previous : ContainerState)

theorem noteRestart_containers :
    (s.noteRestart env evt c previous).containers = s.containers := by
  unfold Service.noteRestart
  split
  · split <;> rfl
  · rfl

theorem noteRestart_transitions :
    (s.noteRestart env evt c previous).transitions = s.transitions := by
  unfold Service.noteRestart
  split
  · split <;> rfl
  · rfl

/-- A replayed event is silent here. -/
theorem noteRestart_emitted (h : evt.replayed = true) :
    (s.noteRestart env evt c previous).emitted = s.emitted := by
  unfold Service.noteRestart
  rw [if_neg fun hall => by rw [h] at hall; exact absurd hall.2.2.2 (by decide)]

/-- The row of a state change. -/
def Container.withState (c : Container) (evt : ContainerEvent) (new : ContainerState) : Container :=
  { c with state := new, lastStateChangeAt := unix evt.timestamp }

/-- The row of a health change. -/
def Container.withHealth (c : Container) (evt : ContainerEvent) (new : HealthStatus) : Container :=
  { c with healthStatus := some new, lastStateChangeAt := unix evt.timestamp }

/-- The row `ArchiveContainer` leaves. -/
def Container.archive (c : Container) (t : Time) : Container :=
  if c.archived then c else { c with archived := true, archivedAt := some (unix t) }

theorem archiveContainer_get (id : ContainerID) (t : Time) (id' : ContainerID) :
    (s.archiveContainer id t).containers.get id' =
      (s.containers.get id').map fun r => if r.id = id then r.archive t else r := by
  unfold Service.archiveContainer
  rw [Table.get_update]
  congr 1
  funext r
  by_cases h : r.id = id
  · rw [if_pos h, Container.archive, beq_iff_eq.mpr h, Bool.true_and]
    cases r.archived <;> rfl
  · rw [if_neg h, beq_eq_false_iff_ne.mpr h, Bool.false_and]
    rfl

theorem changeState_get (hc : s.containers.get c.id = some c) (new : ContainerState)
    (id : ContainerID) : (s.changeState env evt c new).containers.get id =
      if id = c.id then some (c.withState evt new) else s.containers.get id := by
  unfold Service.changeState
  have hget : (s.updateContainer (c.withState evt new)).containers.get id = _ :=
    get_updateContainer hc rfl
  split
  · rw [noteRestart_containers]
    exact hget
  · show (Service.noteRestart ..).containers.get id = _
    rw [noteRestart_containers]
    exact hget

theorem changeState_transitions (new : ContainerState) : (s.changeState env evt c new).transitions =
      s.transitions ++ [stateTransition env evt c new] := by
  unfold Service.changeState
  split
  · rw [noteRestart_transitions]
    rfl
  · show (Service.noteRestart ..).transitions = _
    rw [noteRestart_transitions]
    rfl

/-- **A replayed state change is silent.** -/
theorem changeState_emitted (h : evt.replayed = true) (new : ContainerState) :
    (s.changeState env evt c new).emitted = s.emitted := by
  unfold Service.changeState
  rw [if_pos h, noteRestart_emitted _ h]
  rfl

section

variable (hc : s.containers.get c.id = some c)

include hc

theorem archive_get (id : ContainerID) : (s.archive evt c).containers.get id =
      if id = c.id then some (c.archive evt.timestamp) else s.containers.get id := by
  show (s.archiveContainer c.id evt.timestamp).containers.get id = _
  rw [archiveContainer_get]
  by_cases e : id = c.id
  · rw [e, hc, if_pos rfl, Option.map_some, if_pos rfl]
  · rw [if_neg e]
    cases hr : s.containers.get id with
    | none => rfl
    | some r => rw [Option.map_some, if_neg fun h => e ((Table.get_eq_some.mp hr).2.symm.trans h)]

theorem changeHealth_get (new : HealthStatus) (id : ContainerID) : (s.changeHealth evt c new).containers.get id =
      if id = c.id then some (c.withHealth evt new) else s.containers.get id :=
  get_updateContainer hc rfl

/-- The row after an event. -/
def Container.after (c : Container) (evt : ContainerEvent) : Effect → Container
  | .keep => c
  | .state new => c.withState evt new
  | .archive => c.archive evt.timestamp
  | .health new => c.withHealth evt new

/-- **An event touches the row of its container and no other.** -/
theorem apply_get (e : Effect) (id : ContainerID) :
    (s.apply env evt c e).containers.get id = if id = c.id then some (c.after evt e) else s.containers.get id := by
  cases e with
  | keep =>
    by_cases h : id = c.id
    · subst h
      exact hc.trans (if_pos rfl).symm
    · exact (if_neg h).symm
  | state new => exact changeState_get hc new id
  | archive => exact archive_get hc id
  | health new => exact changeHealth_get hc new id

end

/-- **The row of the container after one of its events.** -/
theorem processEvent_row (hc : s.containers.get evt.id = some c) :
    (s.processEvent env evt).containers.get evt.id = some (c.after evt (c.effect evt)) := by
  have hid : c.id = evt.id := (Table.get_eq_some.mp hc).2
  rw [processEvent_stored hc, apply_get (hid ▸ hc), if_pos hid.symm]

/-- The transitions of an event. -/
def Container.moves (env : Env) (c : Container) (evt : ContainerEvent) : Effect → List StateTransition
  | .keep | .archive => []
  | .state new => [stateTransition env evt c new]
  | .health new => [healthTransition evt c new]

theorem apply_transitions (e : Effect) : (s.apply env evt c e).transitions = s.transitions ++ c.moves env evt e := by
  cases e with
  | keep | archive => exact (List.append_nil _).symm
  | state new => exact changeState_transitions new
  | health => rfl

/-- What is emitted for an event that is replayed. -/
def Container.tells (c : Container) (evt : ContainerEvent) : Effect → List Emitted
  | .keep | .state _ => []
  | .archive => [.archived c.id evt.timestamp]
  | .health new => [.healthChanged c.id new c.healthStatus evt.timestamp]

theorem apply_emitted (h : evt.replayed = true) (e : Effect) :
    (s.apply env evt c e).emitted = s.emitted ++ c.tells evt e := by
  cases e with
  | keep => exact (List.append_nil _).symm
  | state new => exact (changeState_emitted h new).trans (List.append_nil _).symm
  | archive | health => rfl

end Spec

end Maintenant.Containers
