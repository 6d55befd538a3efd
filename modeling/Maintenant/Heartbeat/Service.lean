/-
  File:      Maintenant/Heartbeat/Service.lean
  Subject:   THE HEARTBEAT SERVICE (internal/heartbeat/service.go) as programs of the statements it
             makes, and what each of them does to a row when it is alone.

  Log lines are left out. A row that is read is worked on in memory and written back with all its
  state columns, whatever was written to it in between.

  * `Heartbeat.pinged`, `Heartbeat.startPinged`, `Heartbeat.exitPinged`, `Heartbeat.missed` -- the state
    columns the handlers write back;
  * `processPing` … `resumeHeartbeat` -- the handlers.
-/
import Maintenant.Heartbeat.Model

namespace Maintenant.Heartbeats

open GoTime

/-! ## 1. What is computed from a row -/

/-- `LicenseChecker`. -/
structure License where
  canCreateHeartbeat : Nat → Bool
  canStorePayload : Bool

/-- `DefaultLicenseChecker`; a negative maximum means unlimited. -/
def License.ofMax (maxHeartbeats : Int) : License where
  canCreateHeartbeat count := decide (maxHeartbeats < 0) || decide ((count : Int) < maxHeartbeats)
  canStorePayload := false

def License.filterPayload (lic : License) (payload : Option Payload) : Option Payload :=
  if lic.canStorePayload then payload.map (List.take maxPayloadBytes) else none

inductive HeartbeatError where
  | heartbeatNotFound
  | limitReached
  | invalidInput (text : String)
  | invalidExitCode
  | store
  deriving DecidableEq, Repr

/-- `len(s)`: the bytes of a string. -/
def byteLength (s : String) : Nat := s.utf8ByteSize

def validateCreateInput (input : CreateHeartbeatInput) : Option String :=
  if byteLength input.name = 0 ∨ maxNameLength < byteLength input.name then
    some ("name must be 1-" ++ toString maxNameLength ++ " characters")
  else if input.intervalSeconds < minIntervalSeconds ∨ maxIntervalSeconds < input.intervalSeconds then
    some ("interval must be " ++ toString minIntervalSeconds ++ "-" ++ toString maxIntervalSeconds ++
      " seconds")
  else if input.graceSeconds < 0 ∨ input.intervalSeconds < input.graceSeconds then
    some ("grace must be 0-" ++ toString input.intervalSeconds ++ " seconds")
  else none

namespace Heartbeat

variable (h : Heartbeat) (now : Time)

/-- `now.Add(time.Duration(h.IntervalSeconds+h.GraceSeconds) * time.Second)`. -/
def deadline : Time := now + seconds (h.intervalSeconds + h.graceSeconds)

/-- A run that was started and not finished: the duration at `now`, in milliseconds. -/
def runDuration : Option Int :=
  if h.status = .started then
    h.currentRunStartedAt.map fun started => (now - ofUnix started).tdiv millisecond
  else none

/-- A success takes the alert back: after a missed deadline, and from an alerting state a start/finish
    pair has left. -/
def recovering : Bool := h.status == .down || h.alertState == .alerting

/-- The state after a success ping. -/
def pinged : HeartbeatState where
  status := .up
  alertState := if h.recovering then .normal else h.alertState
  lastPingAt := some (unix now)
  nextDeadlineAt := some (unix (h.deadline now))
  currentRunStartedAt := if (h.runDuration now).isSome then none else h.currentRunStartedAt
  lastExitCode := h.lastExitCode
  lastDurationMs := (h.runDuration now).or h.lastDurationMs
  consecutiveFailures := 0
  consecutiveSuccesses := h.consecutiveSuccesses + 1

/-- The state after a start ping; `last_ping_at` and the alert state are written as they were read. -/
def startPinged : HeartbeatState where
  status := .started
  alertState := h.alertState
  lastPingAt := h.lastPingAt
  nextDeadlineAt := some (unix (h.deadline now))
  currentRunStartedAt := some (unix now)
  lastExitCode := h.lastExitCode
  lastDurationMs := h.lastDurationMs
  consecutiveFailures := h.consecutiveFailures
  consecutiveSuccesses := h.consecutiveSuccesses

/-- The state after an exit code ping. -/
def exitPinged (exitCode : Int) : HeartbeatState where
  status := .up
  alertState := if exitCode = 0 then .normal else .alerting
  lastPingAt := some (unix now)
  nextDeadlineAt := some (unix (h.deadline now))
  currentRunStartedAt := if (h.runDuration now).isSome then none else h.currentRunStartedAt
  lastExitCode := some exitCode
  lastDurationMs := (h.runDuration now).or h.lastDurationMs
  consecutiveFailures := if exitCode = 0 then 0 else h.consecutiveFailures + 1
  consecutiveSuccesses := if exitCode = 0 then h.consecutiveSuccesses + 1 else 0

/-- The state after a missed deadline; the other columns are written as they were read. -/
def missed : HeartbeatState :=
  { h.toHeartbeatState with
    status := .down
    alertState := .alerting
    consecutiveFailures := h.consecutiveFailures + 1
    consecutiveSuccesses := 0 }

/-- The row in memory with other state columns. -/
def withState (state : HeartbeatState) : Heartbeat := { h with toHeartbeatState := state }

end Heartbeat

/-! ## 2. The handlers -/

section Handlers

/-- A program of the service. -/
abbrev Job := Prog Request Answer

abbrev ask (i : Request) : Job (Answer i) := Prog.ask i

variable (lic : License)

def tell (t : Told) : Job Unit := ask (.tell t)

/-- `if newStatus != previousStatus { emitEvent(HeartbeatStatusChanged, …) }`. -/
def tellStatus (h : Heartbeat) (newStatus : HeartbeatStatus) (agentID : Option String) : Job Unit :=
  if newStatus = h.status then .done ()
  else tell (.statusChanged h.id h.status newStatus agentID)

/-- The recovery of a success. -/
def tellRecovery (h : Heartbeat) (agentID : Option String) : Job Unit :=
  if h.recovering then do
    tell (.recovery h.id h.name agentID)
    tell (.recoveryCallback h.id h.name)
  else .done ()

/-- Closes the execution in progress; the answer is whether there was one. -/
def closeExecution (h : Heartbeat) (now : Time) (durationMs exitCode : Option Int)
    (outcome : ExecutionOutcome) (payload : Option Payload) : Job Bool := do
  match ← ask (.getCurrentExecution h.id) with
  | none => return false
  | some exec =>
    let _ ← ask (.updateExecution exec.id now durationMs exitCode outcome payload)
    return true

/-- The first lines of a handler: its row is read. -/
def withRow {α : Type} (read : Job (Except Unit (Option Heartbeat)))
    (body : Heartbeat → Job (Except HeartbeatError α)) : Job (Except HeartbeatError α) := do
  match ← read with
  | .error _ => return .error .store
  | .ok none => return .error .heartbeatNotFound
  | .ok (some h) => body h

def createHeartbeat (input : CreateHeartbeatInput) (token : String) :
    Job (Except HeartbeatError Heartbeat) :=
  match validateCreateInput input with
  | some text => .done (.error (.invalidInput text))
  | none => do
      match ← ask .countActiveHeartbeats with
      | .error _ => return .error .store
      | .ok count =>
        if lic.canCreateHeartbeat count = false then return .error .limitReached
        else
          match ← ask (.createHeartbeat token input) with
          | .error _ => return .error .store
          | .ok id =>
            match ← ask (.getHeartbeatByID id) with
            | .error _ => return .error .store
            | .ok none => return .error .heartbeatNotFound
            | .ok (some created) =>
              tell (.created created.id created.name created.status)
              return .ok created

def deleteHeartbeat (id : String) : Job (Except HeartbeatError Unit) :=
  withRow (ask (.getHeartbeatByID id)) fun _ => do
    let ok ← ask (.update (.deleteHeartbeat id))
    if ok = false then return .error .store
    else
      tell (.deleted id)
      return .ok ()

/-- What a ping records of itself. -/
structure PingSource where
  sourceIP : String
  httpMethod : String
  payload : Option Payload

def PingSource.record (src : PingSource) (h : Heartbeat) (type : PingType) (exitCode : Option Int)
    (payload : Option Payload) (now : Time) : HeartbeatPing :=
  ⟨h.id, type, exitCode, src.sourceIP, src.httpMethod, payload, unix now⟩

/-- The execution of a success ping: that of the start/finish pair, or one of its own. -/
def recordSuccess (h : Heartbeat) (now : Time) (payload : Option Payload) : Job Unit :=
  if (h.runDuration now).isSome then do
    let _ ← closeExecution h now (h.runDuration now) none .success payload
  else do
    let _ ← ask (.insertExecution ⟨h.id, none, some (unix now), none, none, .success, payload⟩)

/-- `ProcessPing`, from where the row is read. -/
def ping (src : PingSource) (agentID : Option String) (h : Heartbeat) :
    Job (Except HeartbeatError Heartbeat) := do
  let now ← ask .now
  let _ ← ask (.insertPing (src.record h .success none (lic.filterPayload src.payload) now))
  recordSuccess h now (lic.filterPayload src.payload)
  let ok ← ask (.update (.updateHeartbeatState h.id (h.pinged now) (.ping .success)))
  if ok = false then return .error .store
  else
    tell (.pingReceived h.id .success none .up agentID)
    tellStatus h .up agentID
    tellRecovery h agentID
    return .ok (h.withState (h.pinged now))

def processPing (token : String) (src : PingSource) (agentID : Option String) :
    Job (Except HeartbeatError Heartbeat) :=
  withRow (ask (.getHeartbeatByUUID token)) (ping lic src agentID)

/-- `ProcessStartPing`, from where the row is read. -/
def startPing (src : PingSource) (h : Heartbeat) : Job (Except HeartbeatError Heartbeat) := do
  let now ← ask .now
  let _ ← ask (.insertPing (src.record h .start none none now))
  let _ ← closeExecution h now none none .timeout none
  let _ ← ask (.insertExecution ⟨h.id, some (unix now), none, none, none, .inProgress, none⟩)
  let ok ← ask (.update (.updateHeartbeatState h.id (h.startPinged now) (.ping .start)))
  if ok = false then return .error .store
  else
    tell (.pingReceived h.id .start none .started none)
    tellStatus h .started none
    return .ok (h.withState (h.startPinged now))

def processStartPing (token : String) (src : PingSource) : Job (Except HeartbeatError Heartbeat) :=
  withRow (ask (.getHeartbeatByUUID token)) (startPing src)

def exitOutcome (exitCode : Int) : ExecutionOutcome := if exitCode = 0 then .success else .failure

/-- The execution of an exit code ping: the one in progress, or one of its own. -/
def recordExit (h : Heartbeat) (now : Time) (exitCode : Int) (payload : Option Payload) : Job Unit := do
  let closed ← closeExecution h now (h.runDuration now) (some exitCode) (exitOutcome exitCode) payload
  if closed then return ()
  else
    let _ ← ask (.insertExecution ⟨h.id, none, some (unix now), h.runDuration now, some exitCode,
      exitOutcome exitCode, payload⟩)

/-- The alert of an exit code, or the recovery. -/
def tellExit (h : Heartbeat) (exitCode : Int) : Job Unit :=
  if exitCode = 0 then tellRecovery h none
  else do
    tell (.alert h.id h.name .exitCodeFailure ("exit code " ++ toString exitCode))
    tell (.alertCallback h.id h.name .exitCodeFailure (some exitCode) ("exit code " ++ toString exitCode))

/-- `ProcessExitCodePing`, from where the row is read. -/
def exitCodePing (exitCode : Int) (src : PingSource) (h : Heartbeat) :
    Job (Except HeartbeatError Heartbeat) := do
  let now ← ask .now
  let _ ← ask (.insertPing (src.record h .exitCode (some exitCode) (lic.filterPayload src.payload) now))
  recordExit h now exitCode (lic.filterPayload src.payload)
  let ok ← ask (.update (.updateHeartbeatState h.id (h.exitPinged now exitCode) (.ping .exitCode)))
  if ok = false then return .error .store
  else
    tell (.pingReceived h.id .exitCode (some exitCode) .up none)
    tellStatus h .up none
    tellExit h exitCode
    return .ok (h.withState (h.exitPinged now exitCode))

def processExitCodePing (token : String) (exitCode : Int) (src : PingSource) :
    Job (Except HeartbeatError Heartbeat) :=
  if exitCode < 0 ∨ 255 < exitCode then .done (.error .invalidExitCode)
  else withRow (ask (.getHeartbeatByUUID token)) (exitCodePing lic exitCode src)

def alertMsg (h : Heartbeat) : String :=
  if h.status = .started then "Job started but never finished" else "Heartbeat missed deadline"

/-- The execution in progress of a started run. -/
def timeoutRun (now : Time) (h : Heartbeat) : Job Unit :=
  if h.status = .started then do
    let _ ← closeExecution h now none none .timeout none
  else .done ()

/-- The loop body of `checkDeadlines`. -/
def missDeadline (now : Time) (h : Heartbeat) : Job Unit := do
  let ok ← ask (.update (.updateHeartbeatState h.id h.missed .deadline))
  if ok = false then return ()
  else
    timeoutRun now h
    tell (.statusChanged h.id h.status .down none)
    tell (.alert h.id h.name .deadlineMissed (alertMsg h))
    tell (.alertCallback h.id h.name .deadlineMissed none (alertMsg h))

def checkDeadlines : Job Unit := do
  let now ← ask .now
  match ← ask (.listOverdueHeartbeats now) with
  | .error _ => return ()
  | .ok overdue => Prog.forEach (missDeadline now) overdue.val

/-- `s.store.GetHeartbeatByID(ctx, id)` as the last line. -/
def readBack (id : String) : Job (Except HeartbeatError (Option Heartbeat)) := do
  match ← ask (.getHeartbeatByID id) with
  | .error _ => return .error .store
  | .ok h => return .ok h

def pauseHeartbeat (id : String) : Job (Except HeartbeatError (Option Heartbeat)) :=
  withRow (ask (.getHeartbeatByID id)) fun h => do
    let ok ← ask (.update (.pauseHeartbeat id))
    if ok = false then return .error .store
    else
      tell (.statusChanged id h.status .paused none)
      readBack id

/-- `ResumeHeartbeat`, from where the row is read. -/
def resume (id : String) (h : Heartbeat) : Job (Except HeartbeatError (Option Heartbeat)) :=
  if h.status ≠ .paused then .done (.error (.invalidInput "heartbeat is not paused"))
  else do
    let now ← ask .now
    let ok ← ask (.update (.resumeHeartbeat id (h.deadline now)))
    if ok = false then return .error .store
    else
      tell (.statusChanged id .paused .up none)
      readBack id

def resumeHeartbeat (id : String) : Job (Except HeartbeatError (Option Heartbeat)) :=
  withRow (ask (.getHeartbeatByID id)) (resume id)

end Handlers

end Maintenant.Heartbeats
