/-
  File:      Maintenant/Endpoint/Service.lean
  Subject:   PROBE RESULTS FROM AN AGENT (internal/endpoint/agent_event.go, service.go:
             `ProcessCheckResult`, internal/store/endpoints.go: the statements it uses).

  * `handleAgentEvent_checkResults` -- a result is a new row of check_results when its target has an
    active endpoint, whether it is live or replayed, and nothing otherwise.
-/
import Maintenant.Container.Agent

namespace Maintenant.Endpoints

open GoTime Containers

/-! ## 1. Data -/

inductive EndpointStatus where
  | up
  | down
  | degraded
  | unknown
deriving DecidableEq, Repr

inductive AlertState where
  | normal
  | alerting
deriving DecidableEq, Repr

/-- A row of endpoints, as far as a result reads or writes it. -/
structure Endpoint where
  id : String
  agentID : String
  containerName : String
  target : String
  active : Bool
  status : EndpointStatus
  alertState : AlertState
  consecutiveFailures : Int
  consecutiveSuccesses : Int
  lastCheckAt : Option Int
  lastResponseTimeMs : Option Int
  lastHTTPStatus : Option Int
  lastError : String
deriving DecidableEq, Repr

/-- `agentpb.EndpointStatus`. -/
inductive WireStatus where
  | unspecified
  | up
  | down
  | degraded
deriving DecidableEq, Repr

/-- `agentpb.EndpointEvent`; the endpoint id it carries is not read. -/
structure WireResult where
  url : String
  status : WireStatus
  statusCode : UInt32
  latencyMs : UInt64
  errorMessage : String
deriving DecidableEq, Repr

structure CheckResult where
  endpointID : String
  success : Bool
  degraded : Bool
  degradedReason : String
  responseTimeMs : Int
  httpStatus : Option Int
  errorMessage : String
  timestamp : Time
  replayed : Bool
  agentID : String
deriving DecidableEq, Repr

/-- A row of check_results; its id is fresh and never read. -/
structure CheckRow where
  endpointID : String
  success : Bool
  responseTimeMs : Int
  httpStatus : Option Int
  errorMessage : String
  timestamp : Int
deriving DecidableEq, Repr

/-- What the alert callback answers. -/
inductive AlertEvent where
  | alert
  | recovery
deriving DecidableEq, Repr

/-- What the service hands to its event callback. -/
inductive Emitted where
  | statusChanged (ep : Endpoint) (new : EndpointStatus) (result : CheckResult)
  | alerted (endpointID : String) (event : AlertEvent)
deriving DecidableEq, Repr

structure Service where
  endpoints : Table Endpoint.id
  checkResults : List CheckRow
  emitted : List Emitted

/-- The clock, and the alert callback (`none`: nobody is wired, or nothing to say). -/
structure Env where
  now : Time
  alertCallback : Endpoint → CheckResult → Option AlertEvent

/-! ## 2. The service -/

def statusForResult (result : CheckResult) : EndpointStatus :=
  if result.success && result.degraded then .degraded else if result.success then .up else .down

/-- The counters after a result. -/
def Endpoint.counted (ep : Endpoint) (result : CheckResult) : Endpoint :=
  if result.success then
    { ep with consecutiveSuccesses := ep.consecutiveSuccesses + 1, consecutiveFailures := 0 }
  else { ep with consecutiveFailures := ep.consecutiveFailures + 1, consecutiveSuccesses := 0 }

def AlertEvent.state : AlertEvent → AlertState
  | .alert => .alerting
  | .recovery => .normal

namespace Service

variable (env : Env) (s : Service)

/-- `GetActiveAgentEndpointByTarget`. -/
def activeByTarget (agentID target : String) : Option Endpoint :=
  (s.endpoints.select (fun ep => ep.agentID == uidAgent agentID && ep.target == target && ep.active)
    fun _ _ => True).val.head?

/-- `UpdateCheckResult`. -/
def updateCheckResult (ep : Endpoint) (status : EndpointStatus) (alertState : AlertState)
    (result : CheckResult) : Service :=
  let endpoints := s.endpoints.update (fun r => r.id == ep.id)
    (fun r => { r with
      status := status
      alertState := alertState
      consecutiveFailures := ep.consecutiveFailures
      consecutiveSuccesses := ep.consecutiveSuccesses
      lastCheckAt := some (unix env.now)
      lastResponseTimeMs := some result.responseTimeMs
      lastHTTPStatus := result.httpStatus
      lastError := result.errorMessage }) fun _ => rfl
  { s with endpoints := endpoints }

def insertCheckResult (result : CheckResult) : Service :=
  let row : CheckRow := ⟨result.endpointID, result.success, result.responseTimeMs, result.httpStatus,
    result.errorMessage, unix result.timestamp⟩
  { s with checkResults := s.checkResults ++ [row] }

def emit (e : Emitted) : Service := { s with emitted := s.emitted ++ [e] }

/-- The alert thresholds, over the counters as they are stored now. -/
def evaluateAlert (endpointID : String) (result : CheckResult) : Service :=
  match s.endpoints.get endpointID with
  | none => s
  | some updated =>
    match env.alertCallback updated result with
    | none => s
    | some event =>
      (s.updateCheckResult env updated (statusForResult result) event.state result).emit
        (.alerted endpointID event)

def processCheckResult (endpointID : String) (result : CheckResult) : Service :=
  match s.endpoints.get endpointID with
  | none => s
  | some ep =>
    -- a replayed probe is history: it feeds uptime and nothing else
    if result.replayed then s.insertCheckResult result
    else
      let new := statusForResult result
      let s := s.updateCheckResult env (ep.counted result) new ep.alertState result
      let s := s.insertCheckResult result
      let s := if new = ep.status then s else s.emit (.statusChanged ep new result)
      s.evaluateAlert env endpointID result

/-- The result a message reports. -/
def resultOf (agentID : String) (ep : Endpoint) (ev : WireResult) (m : Meta) : CheckResult where
  endpointID := ep.id
  success := ev.status == .up || ev.status == .degraded
  degraded := ev.status == .degraded
  degradedReason := ev.errorMessage
  responseTimeMs := ev.latencyMs.toInt64.toInt
  httpStatus := some ev.statusCode.toNat
  errorMessage := ev.errorMessage
  timestamp := m.observedAt
  replayed := m.replayed
  agentID := agentID

def handleAgentEvent (agentID : String) (ev : WireResult) (m : Meta) : Service :=
  if ev.url = "" then s
  else match s.activeByTarget agentID ev.url with
    | none => s
    | some ep => s.processCheckResult env ep.id (resultOf agentID ep ev m)

end Service

/-! ## 3. What a result adds -/

section Spec

variable {env : Env} {s : Service} {agentID : String} {ev : WireResult} {m : Meta}

theorem activeByTarget_mem {target : String} {ep : Endpoint}
    (h : s.activeByTarget agentID target = some ep) : s.endpoints.get ep.id = some ep := by
  have hmem := List.mem_of_mem_head? (Option.mem_def.mpr h)
  exact Table.get_eq_some.mpr ⟨(Table.mem_select.mp hmem).1, rfl⟩

/-- The columns `UpdateCheckResult` sets. -/
def Endpoint.written (env : Env) (ep : Endpoint) (status : EndpointStatus) (alertState : AlertState)
    (result : CheckResult) (row : Endpoint) : Endpoint :=
  { row with
    status := status
    alertState := alertState
    consecutiveFailures := ep.consecutiveFailures
    consecutiveSuccesses := ep.consecutiveSuccesses
    lastCheckAt := some (unix env.now)
    lastResponseTimeMs := some result.responseTimeMs
    lastHTTPStatus := result.httpStatus
    lastError := result.errorMessage }

theorem evaluateAlert_checkResults (id : String) (result : CheckResult) :
    (s.evaluateAlert env id result).checkResults = s.checkResults := by
  unfold Service.evaluateAlert
  split
  · rfl
  · split <;> rfl

/-- **A result of a stored endpoint is one row, live or replayed.** -/
theorem processCheckResult_checkResults {ep : Endpoint} (h : s.endpoints.get ep.id = some ep)
    (result : CheckResult) :
    ∃ row, (s.processCheckResult env ep.id result).checkResults = s.checkResults ++ [row] := by
  unfold Service.processCheckResult
  rw [h]
  dsimp only
  split
  · exact ⟨_, rfl⟩
  · rw [evaluateAlert_checkResults]
    split <;> exact ⟨_, rfl⟩

/-- No endpoint takes the result. -/
def Service.Drops (s : Service) (agentID : String) (ev : WireResult) : Prop :=
  ev.url = "" ∨ s.activeByTarget agentID ev.url = none
deriving Decidable

theorem handleAgentEvent_dropped (h : s.Drops agentID ev) : s.handleAgentEvent env agentID ev m = s := by
  unfold Service.handleAgentEvent
  rcases h with h | h
  · rw [if_pos h]
  · rw [h]
    exact ite_self s

theorem handleAgentEvent_checkResults (h : ¬s.Drops agentID ev) :
    ∃ row, (s.handleAgentEvent env agentID ev m).checkResults = s.checkResults ++ [row] := by
  obtain ⟨hurl, hep⟩ := not_or.mp h
  obtain ⟨ep, hep⟩ := Option.ne_none_iff_exists'.mp hep
  unfold Service.handleAgentEvent
  rw [if_neg hurl, hep]
  exact processCheckResult_checkResults (activeByTarget_mem hep) _

end Spec

end Maintenant.Endpoints
