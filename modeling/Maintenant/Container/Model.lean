/-
  File:      Maintenant/Container/Model.lean
  Subject:   CONTAINERS AND THEIR TRANSITIONS (internal/container/model.go, internal/store/
             containers.go, internal/uid/uid.go): the rows, the statements on them, what the
             service tells its callback.

  A container's id is derived from agent and runtime id; here it is that pair. The columns of
  Kubernetes and Swarm are written back as they are read by everything modelled, and left out. The
  CHECK constraint on `health_status` is the type `HealthStatus`: a text that is none of its values
  cannot be written (`HealthStatus.ofText`). Store failures other than that are left out: the
  handlers log them and return. Instants in columns are whole Unix seconds.
-/
import Maintenant.Lib.GoText
import Maintenant.Lib.GoTime
import Maintenant.Lib.GoMap
import Maintenant.Lib.Table

namespace Maintenant.Containers

open GoTime

open GoText (isSpace)

/-! ## 1. Texts -/

def digitsValue (ds : List Char) : Nat := ds.foldl (fun n d => 10 * n + (d.toNat - '0'.toNat)) 0

/-- `strconv.ParseInt` of a sign and digits: `none` out of the range of int64, or without digits. -/
def signedValue (negative : Bool) (ds : List Char) : Option Int :=
  let n : Int := if negative then -digitsValue ds else digitsValue ds
  if ds.isEmpty then none else if -(2 ^ 63) ≤ n ∧ n < 2 ^ 63 then some n else none

/-- The sign, and the rest. -/
def takeSign : List Char → Bool × List Char
  | '-' :: cs => (true, cs)
  | '+' :: cs => (false, cs)
  | cs => (false, cs)

/-- `strconv.Atoi`. -/
def atoi (s : String) : Option Int :=
  let (negative, cs) := takeSign s.toList
  if cs.all Char.isDigit then signedValue negative cs else none

/-- Blanks before a number; a line break is none (`\r\n` is one blank and a line break). -/
def skipSpace : List Char → Option (List Char)
  | [] => some []
  | '\n' :: _ => none
  | c :: cs => if isSpace c then skipSpace cs else some (c :: cs)

/-- `fmt.Sscanf(s, "%d", &n)`: blanks, a sign, digits; what follows is not looked at. -/
def scanInt (s : String) : Option Int := do
  let cs ← skipSpace s.toList
  let (negative, cs) := takeSign cs
  signedValue negative (cs.takeWhile Char.isDigit)

/-- `parseExitCode`: a text that is no number counts as 0. -/
def parseExitCode (s : String) : Int := (scanInt s).getD 0

/-- A normal end, or by SIGKILL or SIGTERM. -/
def isGracefulExitCode (code : Int) : Bool := code == 0 || code == 137 || code == 143

def localAgent : String := "00000000-0000-0000-0000-000000000000"

/-- `uid.Agent`. -/
def uidAgent (agentID : String) : String :=
  if agentID.toList.all isSpace then localAgent else agentID

/-! ## 2. Rows -/

inductive ContainerState where
  | running
  | exited
  | completed
  | restarting
  | paused
  | created
  | dead
deriving DecidableEq, Repr

inductive HealthStatus where
  | healthy
  | unhealthy
  | starting
deriving DecidableEq, Repr

namespace HealthStatus

def text : HealthStatus → String
  | healthy => "healthy"
  | unhealthy => "unhealthy"
  | starting => "starting"

/-- What the CHECK constraint lets through. -/
def ofText (s : String) : Option HealthStatus :=
  if s = "healthy" then some healthy
  else if s = "unhealthy" then some unhealthy
  else if s = "starting" then some starting
  else none

@[simp] theorem ofText_text (h : HealthStatus) : ofText h.text = some h := by
  cases h <;> decide

theorem text_ne_empty (h : HealthStatus) : h.text ≠ "" := by
  cases h <;> decide

theorem text_of_ofText {s : String} {h : HealthStatus} (hs : ofText s = some h) : h.text = s := by
  unfold ofText at hs
  split_ifs at hs with e e e <;> cases hs <;> exact e.symm

end HealthStatus

inductive AlertSeverity where
  | critical
  | warning
  | info
deriving DecidableEq, Repr

/-- `uid.Container(agentID, externalID)`. -/
structure ContainerID where
  agentID : String
  externalID : String
deriving DecidableEq, Repr

/-- A row of containers. -/
structure Container where
  id : ContainerID
  name : String
  image : String
  state : ContainerState
  healthStatus : Option HealthStatus
  hasHealthCheck : Bool
  orchestrationGroup : String
  orchestrationUnit : String
  composeWorkingDir : String
  customGroup : String
  isIgnored : Bool
  alertSeverity : AlertSeverity
  restartThreshold : Int
  alertChannels : String
  archived : Bool
  archivedAt : Option Int
  firstSeenAt : Int
  lastStateChangeAt : Int
  runtimeType : String
  podCount : Nat
  readyCount : Nat
deriving DecidableEq, Repr

/-- A row of state_transitions. -/
structure StateTransition where
  containerID : ContainerID
  previousState : ContainerState
  newState : ContainerState
  previousHealth : Option HealthStatus
  newHealth : Option HealthStatus
  exitCode : Option Int
  logSnippet : String
  timestamp : Int
deriving DecidableEq, Repr

/-- `alert.RestartAlert`. -/
structure RestartAlert where
  containerID : ContainerID
  containerName : String
  restartCount : Nat
  threshold : Int
  severity : AlertSeverity
  channels : String
  timestamp : Time
deriving DecidableEq, Repr

/-- What the service hands to its callback. -/
inductive Emitted where
  | stateChanged (id : ContainerID) (state previous : ContainerState)
      (health : Option HealthStatus) (exitCode : Option Int) (timestamp : Time)
  | healthChanged (id : ContainerID) (health : HealthStatus) (previous : Option HealthStatus)
      (timestamp : Time)
  | archived (id : ContainerID) (archivedAt : Time)
  | discovered (c : Container)
  | restartAlert (alert : RestartAlert)
  | restartRecover (id : ContainerID) (name : String) (timestamp : Time)
deriving DecidableEq, Repr

/-! ## 3. The service's tables -/

/-- The two tables, and what was handed to the callback, in order. -/
structure Service where
  containers : Table Container.id
  transitions : List StateTransition
  emitted : List Emitted

namespace Service

/-- `GetContainerByExternalID`. -/
def lookup (s : Service) (agentID externalID : String) : Option Container :=
  s.containers.get ⟨uidAgent agentID, externalID⟩

/-- `UpdateContainer`: every column but the id and `first_seen_at`. -/
def updateContainer (s : Service) (c : Container) : Service :=
  let containers := s.containers.update (fun r => r.id == c.id)
    (fun r => { c with id := r.id, firstSeenAt := r.firstSeenAt }) fun _ => rfl
  { s with containers := containers }

/-- `InsertContainer`: an upsert, which leaves `first_seen_at` and `archived_at` of a row there is. -/
def insertContainer (s : Service) (c : Container) : Service :=
  match s.containers.insert c with
  | some t => { s with containers := t }
  | none =>
    let containers := s.containers.update (fun r => r.id == c.id)
      (fun r => { c with id := r.id, firstSeenAt := r.firstSeenAt, archivedAt := r.archivedAt })
      fun _ => rfl
    { s with containers := containers }

/-- `ArchiveContainer`: `… WHERE id AND archived = 0`. -/
def archiveContainer (s : Service) (id : ContainerID) (archivedAt : Time) : Service :=
  let containers := s.containers.update (fun r => r.id == id && !r.archived)
    (fun r => { r with archived := true, archivedAt := some (unix archivedAt) }) fun _ => rfl
  { s with containers := containers }

def insertTransition (s : Service) (t : StateTransition) : Service :=
  { s with transitions := s.transitions ++ [t] }

/-- `emitEvent`. -/
def emit (s : Service) (e : Emitted) : Service := { s with emitted := s.emitted ++ [e] }

end Service

/-- `CountRestartsSince`. -/
def countRestartsSince (transitions : List StateTransition) (id : ContainerID) (since : Time) : Nat :=
  transitions.countP fun t => t.containerID == id && t.newState == .running &&
    (t.previousState == .restarting || t.previousState == .exited) &&
    decide (unix since ≤ t.timestamp)

section Statements

variable {s : Service} {c : Container} {id : ContainerID}

/-- A row written back changes its own place only. -/
theorem get_updateContainer {c₀ : Container} (h : s.containers.get c.id = some c₀)
    (hseen : c.firstSeenAt = c₀.firstSeenAt) :
    (s.updateContainer c).containers.get id = if id = c.id then some c else s.containers.get id := by
  have hid : c₀.id = c.id := (Table.get_eq_some.mp h).2
  unfold Service.updateContainer
  rw [Table.get_update_key h, hid, ← hseen]

/-- A new row. -/
theorem get_insertContainer (h : s.containers.get c.id = none) :
    (s.insertContainer c).containers.get id = if id = c.id then some c else s.containers.get id := by
  obtain ⟨t, ht⟩ := Table.insert_isSome (Table.get_eq_none.mp h)
  have hins : s.insertContainer c = { s with containers := t } := by
    unfold Service.insertContainer
    rw [ht]
  rw [hins]
  exact Table.get_insert ht id

end Statements

end Maintenant.Containers
