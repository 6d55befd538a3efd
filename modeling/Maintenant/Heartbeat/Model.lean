/-
  File:      Maintenant/Heartbeat/Model.lean
  Subject:   HEARTBEATS: rows, store statements and what a statement meets
             (internal/heartbeat/model.go, internal/store/heartbeats.go).

  An instant in a row is what its column keeps, whole seconds. The columns created_at and updated_at
  are read by no function here and are left out.

  The service talks to its store one statement at a time (`Request`); `handle` answers a statement
  from the `World` of tables. Its `Choice` says what the environment does: the clock, the id that is
  drawn, whether a statement is executed, and whether the caller learns of it (a write whose context
  ends while it waits for the writer is executed and reported as an error). A query without ORDER BY
  gives its rows in an order of the environment's choosing.

  `World.log` is a record of the updates of a row and of the reads of the overdue list, in order;
  nothing reads it back. For it alone `updateHeartbeatState` carries the caller's name.
-/
import Maintenant.Lib.Pool
import Maintenant.Container.Model

namespace Maintenant.Heartbeats

open GoTime

/-! ## 1. Rows -/

inductive HeartbeatStatus where
  | new
  | up
  | down
  | started
  | paused
  deriving DecidableEq, Repr

inductive AlertState where
  | normal
  | alerting
  deriving DecidableEq, Repr

inductive PingType where
  | success
  | start
  | exitCode
  deriving DecidableEq, Repr

/-- `AlertTypeDeadlineMissed`, `AlertTypeExitCodeFailure`. -/
inductive AlertType where
  | deadlineMissed
  | exitCodeFailure
  deriving DecidableEq, Repr

def AlertType.text : AlertType → String
  | .deadlineMissed => "deadline_missed"
  | .exitCodeFailure => "exit_code_failure"

inductive ExecutionOutcome where
  | success
  | failure
  | timeout
  | inProgress
  deriving DecidableEq, Repr

def minIntervalSeconds : Int := 60

def maxIntervalSeconds : Int := 604800

def maxPayloadBytes : Nat := 10240

def maxNameLength : Nat := 255

/-- The bytes of a payload. -/
abbrev Payload := List UInt8

/-- The columns `UpdateHeartbeatState` writes. -/
structure HeartbeatState where
  status : HeartbeatStatus
  alertState : AlertState
  lastPingAt : Option Int
  nextDeadlineAt : Option Int
  currentRunStartedAt : Option Int
  lastExitCode : Option Int
  lastDurationMs : Option Int
  consecutiveFailures : Int
  consecutiveSuccesses : Int
  deriving DecidableEq, Repr

/-- A row of heartbeats; its id is the public ping token. -/
structure Heartbeat extends HeartbeatState where
  id : String
  agentID : String
  name : String
  intervalSeconds : Int
  graceSeconds : Int
  active : Bool
  deriving DecidableEq, Repr

/-- A row of heartbeat_pings. -/
structure HeartbeatPing where
  heartbeatID : String
  pingType : PingType
  exitCode : Option Int
  sourceIP : String
  httpMethod : String
  payload : Option Payload
  timestamp : Int
  deriving DecidableEq, Repr

/-- What an execution records besides its id. -/
structure ExecutionColumns where
  heartbeatID : String
  startedAt : Option Int
  completedAt : Option Int
  durationMs : Option Int
  exitCode : Option Int
  outcome : ExecutionOutcome
  payload : Option Payload
  deriving DecidableEq, Repr

/-- A row of heartbeat_executions. -/
structure HeartbeatExecution extends ExecutionColumns where
  id : String
  deriving DecidableEq, Repr

structure CreateHeartbeatInput where
  name : String
  intervalSeconds : Int
  graceSeconds : Int
  deriving DecidableEq, Repr

/-! ## 2. Callbacks -/

/-- What the service hands to its two callbacks. Of the heartbeat the alert callback reads id and name. -/
inductive Told where
  | created (id name : String) (status : HeartbeatStatus)
  | deleted (id : String)
  | pingReceived (id : String) (type : PingType) (exitCode : Option Int) (status : HeartbeatStatus)
      (agentID : Option String)
  | statusChanged (id : String) (oldStatus newStatus : HeartbeatStatus) (agentID : Option String)
  | alert (id name : String) (type : AlertType) (details : String)
  | recovery (id name : String) (agentID : Option String)
  /-- `alertCallback(h, "alert", …)` -/
  | alertCallback (id name : String) (type : AlertType) (exitCode : Option Int) (message : String)
  /-- `alertCallback(h, "recovery", …)` -/
  | recoveryCallback (id name : String)
  deriving DecidableEq, Repr

/-- The heartbeat a callback is about. -/
def Told.id : Told → String
  | .created id _ _ | .deleted id | .pingReceived id _ _ _ _ | .statusChanged id _ _ _ | .alert id _ _ _
  | .recovery id _ _ | .alertCallback id _ _ _ _ | .recoveryCallback id _ => id

/-! ## 3. Statements -/

/-- Who writes the state columns. -/
inductive Writer where
  | ping (type : PingType)
  | deadline
  deriving DecidableEq, Repr

/-- The `UPDATE` statements on heartbeats. -/
inductive Statement where
  | deleteHeartbeat (id : String)
  | updateHeartbeatState (id : String) (state : HeartbeatState) (writer : Writer)
  | pauseHeartbeat (id : String)
  | resumeHeartbeat (id : String) (nextDeadlineAt : Time)
  deriving DecidableEq, Repr

/-- What the service asks its store, the clock and its callbacks. -/
inductive Request where
  | now
  | countActiveHeartbeats
  | createHeartbeat (token : String) (input : CreateHeartbeatInput)
  | getHeartbeatByID (id : String)
  | getHeartbeatByUUID (token : String)
  | update (stmt : Statement)
  | listOverdueHeartbeats (now : Time)
  | insertPing (p : HeartbeatPing)
  | getCurrentExecution (heartbeatID : String)
  | updateExecution (id : String) (completedAt : Time) (durationMs exitCode : Option Int)
      (outcome : ExecutionOutcome) (payload : Option Payload)
  | insertExecution (e : ExecutionColumns)
  | tell (t : Told)

/-- `false` and `.error` stand for a returned error; the callers of `GetCurrentExecution` take one path
    for an error and for no row. -/
@[reducible] def Answer : Request → Type
  | .now => Time
  | .countActiveHeartbeats => Except Unit Nat
  | .createHeartbeat .. => Except Unit String
  | .getHeartbeatByID _ | .getHeartbeatByUUID _ => Except Unit (Option Heartbeat)
  | .update _ => Bool
  | .listOverdueHeartbeats _ => Except Unit (Table.Rows Heartbeat.id)
  | .getCurrentExecution _ => Option HeartbeatExecution
  | .insertPing _ | .updateExecution .. | .insertExecution _ => Bool
  | .tell _ => Unit

/-- What the environment does at one request. -/
structure Choice where
  now : Time
  newID : String
  executed : Bool
  reported : Bool
  order : ∀ l : List Heartbeat, { l' : List Heartbeat // l'.Perm l }

/-- The caller gets no error. -/
def Choice.ok (x : Choice) : Bool := x.executed && x.reported

/-- `SELECT … WHERE p`, in an order of the environment's choosing. -/
def Choice.select (x : Choice) (t : Table Heartbeat.id) (p : Heartbeat → Bool) : Table.Rows Heartbeat.id :=
  ⟨(x.order (t.rows.filter p)).1, by
    rw [((x.order (t.rows.filter p)).2.map Heartbeat.id).nodup_iff]
    exact (List.filter_sublist.map Heartbeat.id).nodup t.nodup⟩

theorem Choice.mem_select {x : Choice} {t : Table Heartbeat.id} {p : Heartbeat → Bool} {h : Heartbeat} :
    h ∈ (x.select t p).val ↔ h ∈ t ∧ p h = true := by
  unfold Choice.select
  rw [(x.order (t.rows.filter p)).2.mem_iff, List.mem_filter, Table.mem_rows]

/-- An entry of the record. -/
inductive Entry where
  | listed
  | updated (stmt : Statement)
  deriving DecidableEq, Repr

structure World where
  heartbeats : Table Heartbeat.id
  pings : List HeartbeatPing
  executions : Table HeartbeatExecution.id
  told : List Told
  log : List Entry

/-- The row a statement is about. -/
def Statement.id : Statement → String
  | .deleteHeartbeat id | .updateHeartbeatState id _ _ | .pauseHeartbeat id | .resumeHeartbeat id _ => id

/-- What a statement sets. -/
def Statement.set (r : Heartbeat) : Statement → Heartbeat
  | .deleteHeartbeat _ => { r with active := false }
  | .updateHeartbeatState _ state _ => { r with toHeartbeatState := state }
  | .pauseHeartbeat _ => { r with status := .paused, alertState := .normal, nextDeadlineAt := none }
  | .resumeHeartbeat _ deadline => { r with status := .up, nextDeadlineAt := some (unix deadline) }

theorem Statement.set_id (stmt : Statement) (r : Heartbeat) : (stmt.set r).id = r.id := by
  cases stmt <;> rfl

/-- The row `CreateHeartbeat` inserts. -/
def freshRow (id : String) (input : CreateHeartbeatInput) : Heartbeat where
  id := id
  agentID := Containers.localAgent
  name := input.name
  status := .new
  alertState := .normal
  intervalSeconds := input.intervalSeconds
  graceSeconds := input.graceSeconds
  lastPingAt := none
  nextDeadlineAt := none
  currentRunStartedAt := none
  lastExitCode := none
  lastDurationMs := none
  consecutiveFailures := 0
  consecutiveSuccesses := 0
  active := true

/-- What it sets in a row there is: everything the row keeps of its state stays. -/
def Heartbeat.renewed (r : Heartbeat) (input : CreateHeartbeatInput) : Heartbeat :=
  { r with
    name := input.name
    intervalSeconds := input.intervalSeconds
    graceSeconds := input.graceSeconds
    active := true }

theorem Heartbeat.renewed_id (input : CreateHeartbeatInput) (r : Heartbeat) : (r.renewed input).id = r.id := rfl

namespace World

variable (w : World)

/-- `UPDATE heartbeats SET … WHERE id`. -/
def update (stmt : Statement) : World :=
  let heartbeats := w.heartbeats.update (fun r => r.id == stmt.id) (fun r => stmt.set r) stmt.set_id
  { w with heartbeats := heartbeats, log := w.log ++ [.updated stmt] }

/-- `INSERT … ON CONFLICT(id) DO UPDATE SET name, interval_seconds, grace_seconds, active`. -/
def createHeartbeat (id : String) (input : CreateHeartbeatInput) : World :=
  match w.heartbeats.insert (freshRow id input) with
  | some t => { w with heartbeats := t }
  | none =>
    let heartbeats := w.heartbeats.update (fun r => r.id == id) (fun r => r.renewed input)
      (Heartbeat.renewed_id input)
    { w with heartbeats := heartbeats }

/-- `SELECT … WHERE heartbeat_id AND outcome='in_progress' ORDER BY id DESC LIMIT 1`. -/
def getCurrentExecution (heartbeatID : String) : Option HeartbeatExecution :=
  (w.executions.select (fun e => e.heartbeatID == heartbeatID && e.outcome == .inProgress)
    fun e e' => e'.id ≤ e.id).val.head?

def insertExecution (id : String) (e : ExecutionColumns) : World :=
  match w.executions.insert { e with id := id } with
  | some t => { w with executions := t }
  | none => w

def updateExecution (id : String) (completedAt : Time) (durationMs exitCode : Option Int)
    (outcome : ExecutionOutcome) (payload : Option Payload) : World :=
  let executions := w.executions.update (fun e => e.id == id)
    (fun e => { e with
      completedAt := some (unix completedAt)
      durationMs := durationMs
      exitCode := exitCode
      outcome := outcome
      payload := payload }) fun _ => rfl
  { w with executions := executions }

end World

/-- The `WHERE` of `ListOverdueHeartbeats`. -/
def Heartbeat.isOverdue (now : Time) (h : Heartbeat) : Bool :=
  h.active && (h.status == .up || h.status == .started) &&
    h.nextDeadlineAt.any fun deadline => decide (deadline < unix now)

/-- The id `CreateHeartbeat` uses. -/
def Choice.idFor (x : Choice) (token : String) : String := if token = "" then x.newID else token

/-- The row `GetHeartbeatByUUID` finds. -/
def World.activeRow (w : World) (token : String) : Option Heartbeat :=
  (w.heartbeats.get token).filter Heartbeat.active

/-- The answer to a request. -/
def answer (x : Choice) (w : World) : (i : Request) → Answer i
  | .now => x.now
  | .countActiveHeartbeats =>
    if x.ok then .ok (w.heartbeats.rows.countP Heartbeat.active) else .error ()
  | .createHeartbeat token _ => if x.ok then .ok (x.idFor token) else .error ()
  | .getHeartbeatByID id => if x.ok then .ok (w.heartbeats.get id) else .error ()
  | .getHeartbeatByUUID token =>
    if x.ok then .ok (w.activeRow token) else .error ()
  | .update _ => x.ok
  | .listOverdueHeartbeats now =>
    if x.ok then .ok (x.select w.heartbeats (Heartbeat.isOverdue now)) else .error ()
  | .getCurrentExecution heartbeatID => if x.ok then w.getCurrentExecution heartbeatID else none
  | .insertPing _ | .updateExecution .. => x.ok
  | .insertExecution _ => x.ok && !w.executions.hasKey x.newID
  | .tell _ => ()

/-- The world after a request that is executed. -/
def World.after (w : World) (x : Choice) : Request → World
  | .now | .countActiveHeartbeats | .getHeartbeatByID _ | .getHeartbeatByUUID _
  | .getCurrentExecution _ => w
  | .createHeartbeat token input => w.createHeartbeat (x.idFor token) input
  | .update stmt => w.update stmt
  | .listOverdueHeartbeats _ => if x.ok then { w with log := w.log ++ [.listed] } else w
  | .insertPing p => { w with pings := w.pings ++ [p] }
  | .updateExecution id at_ duration exitCode outcome payload =>
    w.updateExecution id at_ duration exitCode outcome payload
  | .insertExecution e => w.insertExecution x.newID e
  | .tell t => { w with told := w.told ++ [t] }

/-- A callback is no statement: nothing keeps it from being called. -/
def Request.isCallback : Request → Bool
  | .tell _ => true
  | _ => false

def handle (x : Choice) (w : World) (i : Request) : Answer i × World :=
  (answer x w i, if x.executed || i.isCallback then w.after x i else w)

end Maintenant.Heartbeats
