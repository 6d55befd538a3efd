/-
  File:      Maintenant/Escalation/Model.lean
  Subject:   THE ESCALATION DATA MODEL (internal/alert/escalation/model.go, runner.go) and the
             pure helpers of the runner.

  Columns that hold an instant are whole Unix seconds (`Int`); the runner itself works with
  `Time`. The snapshot column is kept as what `unmarshalPolicySnapshot` reads from it, `none`
  for a text that is no policy. Names, creation times and authors of a policy, the order field
  of a level, tag filters and a delivery's error text are read by none of these functions.
-/
import Maintenant.Alert.Store

namespace Maintenant.Escalation

open GoTime
open Alerting (Alert NotificationChannel)

/-! ## 1. Records -/

/-- `RunStatus…`: the CHECK constraint of escalation_runs. -/
inductive RunStatus where
  | active
  | pausedByMaintenance
  | stoppedByAck
  | stoppedByResolution
  | stoppedByPolicyDeletion
  | stoppedByPolicyDisabled
  | stoppedByEditionDowngrade
  | exhausted
  deriving DecidableEq, Repr

/-- `status IN ('active','paused_by_maintenance')`. -/
def RunStatus.live : RunStatus → Bool
  | .active | .pausedByMaintenance => true
  | _ => false

/-- `DeliveryStatus…`: the CHECK constraint of escalation_deliveries. -/
inductive DeliveryStatus where
  | pending
  | sent
  | failed
  | abandoned
  | skippedMaintenance
  deriving DecidableEq, Repr

/-- The level index of acknowledgment notices. -/
def specialLevelAck : Int := -1

/-- The level index of exhausted notices. -/
def specialLevelExhausted : Int := -3

def defaultOrphanTimeout : Int := 120 * second

def maintenanceRecheck : Int := 60 * second

/-- One escalation step. -/
structure Level where
  delaySeconds : Int
  channelIDs : List String
  deriving DecidableEq, Repr

structure Scope where
  kind : String
  refID : String
  deriving DecidableEq, Repr

structure Filters where
  severities : List String
  scopes : List Scope
  deriving DecidableEq, Repr

structure Policy where
  id : String
  active : Bool
  activeBeforeDowngrade : Bool
  filters : Filters
  levels : List Level
  deriving DecidableEq, Repr

/-- A row of escalation_runs. -/
structure Run where
  id : String
  policyID : Option String
  policySnapshot : Option Policy
  alertID : String
  status : RunStatus
  lastExecutedLevelIndex : Int
  startedAt : Int
  endedAt : Option Int
  nextActionAt : Option Int
  deriving DecidableEq, Repr

/-- A row of escalation_deliveries; the channel is NULL once its row is deleted. -/
structure Delivery where
  id : String
  runID : String
  levelIndex : Int
  channelID : Option String
  status : DeliveryStatus
  attemptStartedAt : Int
  sentAt : Option Int
  deriving DecidableEq, Repr

/-- `alert.Acknowledgment`; the instant as the RFC 3339 text the notice prints. -/
structure Acknowledgment where
  ackBy : String
  ackAt : String
  deriving DecidableEq, Repr

/-! ## 2. Helpers of the runner -/

/-- `matchPolicyFilters`: an empty filter matches everything. -/
def matchPolicyFilters (a : Alert) (p : Policy) : Bool :=
  (p.filters.severities.isEmpty || p.filters.severities.contains a.severity) &&
  (p.filters.scopes.isEmpty ||
    p.filters.scopes.any fun sc => sc.kind == a.entityType && sc.refID == a.entityID)

/-- `Levels[i]` for an index inside the list. -/
def levelAt (levels : List Level) (i : Int) : Option Level :=
  if 0 ≤ i then levels[i.toNat]? else none

theorem levelAt_eq_some {levels : List Level} {i : Int} {l : Level}
    (h : levelAt levels i = some l) : 0 ≤ i ∧ i < levels.length := by
  unfold levelAt at h
  split at h
  · rename_i hi
    obtain ⟨hlt, _⟩ := List.getElem?_eq_some_iff.mp h
    omega
  · cases h

/-- `formatAckAlert`. -/
def formatAckAlert (a : Alert) (ack : Acknowledgment) : Alert :=
  { a with
    status := .resolved
    message := "✓ Acquittée par " ++ (if ack.ackBy = "" then "—" else ack.ackBy) ++ " à " ++
      ack.ackAt ++ " — " ++ a.message }

/-- `formatExhaustedAlert`. -/
def formatExhaustedAlert (a : Alert) (totalLevels : Nat) : Alert :=
  { a with
    message := "⚠ Escalation épuisée — action humaine requise après " ++ toString totalLevels ++
      " palier(s) sans acquittement. " ++ a.message }

end Maintenant.Escalation
