/-
  File:      Maintenant/Escalation/Runner.lean
  Subject:   THE ESCALATION RUNNER (internal/alert/escalation/runner.go, service.go) as programs
             of the calls it makes.

  Every function of the runner is a `Prog` over `Request`: one request per store statement,
  clock read, suppressor question, `go` statement, and two for `SendNow` (it is called, it
  returns). Log lines are left out. `handle` answers a request from the `World` of tables; its
  `Choice` says what the environment does: time that passes, failures, what the suppressor,
  the channel store and the network answer, the id `uid.New` draws.

  Two requests carry a note for the record that the code's call does not pass: the run a
  suppressor question is asked for, and run, level and pass time of the clock read that opens
  `executeLevel` (`World.marks`). The functions below never read it back.

  The orphan timeout is the default one: the application wires no other. `UpdateRunProgress`
  takes a status too; its one caller passes `RunStatusActive`.
-/
import Maintenant.Escalation.Store
import Maintenant.Lib.Pool

namespace Maintenant.Escalation

open GoTime
open Alerting (Alert AlertTable NotificationChannel ActiveAlertKey)

/-! ## 1. Requests and answers -/

/-- What the escalation code asks its environment. -/
inductive Request where
  | clock
  | levelClock (runID : String) (levelIndex : Int) (passAt : Time)
  | selectOrphanPendingDeliveries (before : Time)
  | selectRun (id : String)
  | selectActiveRunsByAlert (alertID : String)
  | selectDueRuns (now : Time)
  | selectPolicies
  | selectPolicy (id : String)
  | getAlert (id : String)
  | isSuppressed (runID source entityType entityID : String)
  | getChannel (id : String)
  | insertRun (policyID : String) (snapshot : Policy) (alertID : String)
      (startedAt nextActionAt : Time)
  | updateRunProgress (runID : String) (levelIndex : Int) (nextActionAt : Time)
  | terminateRun (runID : String) (status : RunStatus) (endedAt : Time)
  | pauseRunForMaintenance (runID : String) (recheckAt : Time)
  | resumeRunFromMaintenance (runID : String) (nextActionAt : Time)
  | insertDelivery (runID : String) (levelIndex : Int) (channelID : String)
      (attemptStartedAt : Time)
  | updateDelivery (id : String) (status : DeliveryStatus) (sentAt : Option Time)
  | goDeliver (deliveryID : String) (a : Alert) (ch : NotificationChannel)
  | sendStart (deliveryID : String) (a : Alert) (ch : NotificationChannel)
  | sendReturn (deliveryID : String)
  | stopRunsOfPolicy (policyID : String) (endedAt : Time)
  | deletePolicyRow (policyID : String)
  | bulkDeactivateAllPolicies
  | bulkStopActiveRuns (status : RunStatus) (endedAt : Time)
  | insightsAcknowledged (containerID : String)
  | getActiveAlert (key : ActiveAlertKey)
  | acknowledgeAlert (id ackBy : String) (ackAt : Time)
  | writeAlerts (alerts : AlertTable)

/-- `none` and `false` stand for a returned error; `getAlert` keeps error and nil apart, and
    `selectRun`, `selectPolicy`, `getChannel`, `getActiveAlert` do not: their callers take one
    path for both. -/
@[reducible] def Answer : Request → Type
  | .clock | .levelClock .. => Time
  | .selectOrphanPendingDeliveries _ => Option (Table.Rows Delivery.id)
  | .selectRun _ => Option Run
  | .selectActiveRunsByAlert _ | .selectDueRuns _ => Option (Table.Rows Run.id)
  | .selectPolicies => Option (Table.Rows Policy.id)
  | .selectPolicy _ => Option Policy
  | .getAlert _ => Except Unit (Option Alert)
  | .isSuppressed .. => Bool
  | .getChannel _ => Option NotificationChannel
  | .updateRunProgress .. | .terminateRun .. | .pauseRunForMaintenance ..
  | .resumeRunFromMaintenance .. => Bool
  | .insertDelivery .. => Option String
  | .sendReturn _ => Bool
  | .stopRunsOfPolicy .. | .deletePolicyRow _ | .bulkDeactivateAllPolicies
  | .bulkStopActiveRuns .. => Bool
  | .insightsAcknowledged _ => Bool
  | .getActiveAlert _ => Option Alert
  | .acknowledgeAlert .. => Bool
  | .insertRun .. | .updateDelivery .. | .goDeliver .. | .sendStart .. | .writeAlerts _ => Unit

/-- What the environment does at one request. -/
structure Choice where
  elapsed : Nat := 0
  fails : Bool := false
  suppressed : Bool := false
  channel : Option NotificationChannel := none
  newID : String := ""
  sent : Bool := true
  insightsAcknowledged : Bool := true

/-! ## 2. The world of tables -/

/-- Notes for the record. -/
inductive Mark where
  | executed (runID : String) (levelIndex : Int) (passAt : Time)
  | suppressed (runID : String)
  deriving DecidableEq, Repr

/-- The clock, the tables, the notes, and the deliveries whose `SendNow` has succeeded. -/
structure World where
  now : Time
  alerts : AlertTable
  policies : PolicyTable
  runs : RunTable
  deliveries : Deliveries
  marks : List Mark
  succeeded : List String

def newDelivery (id runID : String) (levelIndex : Int) (channelID : String)
    (attemptStartedAt : Time) : Delivery where
  id := id
  runID := runID
  levelIndex := levelIndex
  channelID := some channelID
  status := .pending
  attemptStartedAt := unix attemptStartedAt
  sentAt := none

/-- The answer to a request. -/
def answer (x : Choice) (w : World) : (i : Request) → Answer i
  | .clock | .levelClock .. => w.now
  | .selectOrphanPendingDeliveries before =>
    if x.fails then none else some (w.deliveries.selectOrphanPending before)
  | .selectRun id => if x.fails then none else w.runs.get id
  | .selectActiveRunsByAlert alertID =>
    if x.fails then none else some (selectActiveRunsByAlert w.runs alertID)
  | .selectDueRuns now => if x.fails then none else some (selectDueRuns w.runs now)
  | .selectPolicies => if x.fails then none else some (selectActivePolicies w.policies)
  | .selectPolicy id => if x.fails then none else w.policies.get id
  | .getAlert id =>
    -- a missing row comes back as the error sql.ErrNoRows
    if x.fails then .error () else match Alerting.getAlert w.alerts id with
      | none => .error ()
      | some a => .ok (some a)
  | .isSuppressed .. => x.suppressed
  | .getChannel id => if x.fails then none else x.channel.map fun ch => { ch with id := id }
  | .insertDelivery runID levelIndex channelID attemptStartedAt =>
    if x.fails then none else
      (w.deliveries.insert (newDelivery x.newID runID levelIndex channelID attemptStartedAt)).map
        fun _ => x.newID
  | .sendReturn _ => x.sent
  | .updateRunProgress .. | .terminateRun .. | .pauseRunForMaintenance ..
  | .resumeRunFromMaintenance .. | .stopRunsOfPolicy .. | .deletePolicyRow _
  | .bulkDeactivateAllPolicies | .bulkStopActiveRuns .. | .acknowledgeAlert .. => !x.fails
  | .insightsAcknowledged _ => x.insightsAcknowledged
  | .getActiveAlert key => if x.fails then none else Alerting.getActiveAlert w.alerts key
  | .insertRun .. | .updateDelivery .. | .goDeliver .. | .sendStart .. | .writeAlerts _ => ()

/-- The runs after a request. -/
def runsAfter (x : Choice) (t : RunTable) (i : Request) : RunTable :=
  if x.fails then t else match i with
    | .insertRun policyID snapshot alertID startedAt nextActionAt =>
      insertRun t x.newID policyID snapshot alertID startedAt nextActionAt
    | .updateRunProgress runID levelIndex nextActionAt =>
      updateRunProgress t runID levelIndex nextActionAt .active
    | .terminateRun runID status endedAt => terminateRun t runID status endedAt
    | .pauseRunForMaintenance runID recheckAt => pauseRunForMaintenance t runID recheckAt
    | .resumeRunFromMaintenance runID nextActionAt =>
      resumeRunFromMaintenance t runID nextActionAt
    | .stopRunsOfPolicy policyID endedAt => stopRunsOfPolicy t policyID endedAt
    | .deletePolicyRow policyID => forgetPolicy t policyID
    | .bulkStopActiveRuns status endedAt => bulkStopActiveRuns t status endedAt
    | _ => t

/-- The deliveries after a request. -/
def deliveriesAfter (x : Choice) (t : Deliveries) (i : Request) : Deliveries :=
  if x.fails then t else match i with
    | .insertDelivery runID levelIndex channelID attemptStartedAt =>
      (t.insert (newDelivery x.newID runID levelIndex channelID attemptStartedAt)).getD t
    | .updateDelivery id status sentAt => t.update id status sentAt
    | _ => t

/-- The policies after a request. -/
def policiesAfter (x : Choice) (t : PolicyTable) (i : Request) : PolicyTable :=
  if x.fails then t else match i with
    | .deletePolicyRow policyID => t.delete fun p => p.id == policyID
    | .bulkDeactivateAllPolicies => bulkDeactivateAllPolicies t
    | _ => t

/-- The alerts after a request. -/
def alertsAfter (x : Choice) (t : AlertTable) (i : Request) : AlertTable :=
  if x.fails then t else match i with
    | .acknowledgeAlert id ackBy ackAt => Alerting.acknowledgeAlert t id ackBy ackAt
    | .writeAlerts alerts => alerts
    | _ => t

/-- The notes after a request. -/
def marksAfter (x : Choice) (marks : List Mark) : Request → List Mark
  | .levelClock runID levelIndex passAt => marks ++ [.executed runID levelIndex passAt]
  | .isSuppressed runID _ _ _ => if x.suppressed then marks ++ [.suppressed runID] else marks
  | _ => marks

/-- The successful sends after a request. -/
def succeededAfter (x : Choice) (succeeded : List String) : Request → List String
  | .sendReturn deliveryID => if x.sent then deliveryID :: succeeded else succeeded
  | _ => succeeded

/-- The world after a request. -/
def World.after (x : Choice) (w : World) (i : Request) : World where
  now := w.now
  alerts := alertsAfter x w.alerts i
  policies := policiesAfter x w.policies i
  runs := runsAfter x w.runs i
  deliveries := deliveriesAfter x w.deliveries i
  marks := marksAfter x w.marks i
  succeeded := succeededAfter x w.succeeded i

/-- Time passes, then the request is served. -/
def handle (x : Choice) (w : World) (i : Request) : Answer i × World :=
  let w' := { w with now := w.now + x.elapsed }
  (answer x w' i, w'.after x i)

section Handle

variable {x : Choice} {w : World}

variable {i : Request}

theorem handle_alerts : (handle x w i).2.alerts = alertsAfter x w.alerts i := rfl

end Handle

/-! ## 3. Deliveries -/

/-- The escalation code makes these programs. -/
abbrev Code := Prog Request Answer Unit

abbrev ask (i : Request) : Prog Request Answer (Answer i) := Prog.ask i

/-- A request whose answer is only logged. -/
def tell (i : Request) : Code := .call i fun _ => .done ()

/-- `deliverAndUpdate`. -/
def deliverAndUpdate (deliveryID : String) (a : Alert) (ch : NotificationChannel) : Code := do
  let _ ← ask (.sendStart deliveryID a ch)
  let ok ← ask (.sendReturn deliveryID)
  if ok then
    let t ← ask .clock
    tell (.updateDelivery deliveryID .sent (some t))
  else tell (.updateDelivery deliveryID .failed none)

/-- `dispatchToChannel`: the row first, then the send. -/
def dispatchToChannel (runID : String) (levelIndex : Int) (a : Alert) (now : Time)
    (chID : String) : Code := do
  match ← ask (.getChannel chID) with
  | none => pure ()
  | some ch =>
    match ← ask (.insertDelivery runID levelIndex chID now) with
    | none => pure ()
    | some id =>
      if ch.enabled then tell (.goDeliver id a ch) else tell (.updateDelivery id .failed none)

/-- `executeLevel`. -/
def executeLevel (runID : String) (levelIndex : Int) (channelIDs : List String) (a : Alert)
    (passAt : Time) : Code := do
  let now ← ask (.levelClock runID levelIndex passAt)
  Prog.forEach (dispatchToChannel runID levelIndex a now) channelIDs

/-- `dispatchSpecial`. -/
def dispatchSpecial (runID : String) (levelIndex : Int) (channelIDs : List String) (a : Alert) :
    Code := do
  let now ← ask .clock
  Prog.forEach (dispatchToChannel runID levelIndex a now) channelIDs

/-- `abandonDelivery`. -/
def abandonDelivery (d : Delivery) : Code := tell (.updateDelivery d.id .abandoned none)

/-- The loop body of `recoverOrphans`. -/
def recoverOrphan (d : Delivery) : Code := do
  match ← ask (.selectRun d.runID) with
  | none => abandonDelivery d
  | some run =>
    if run.status.live then
      match ← ask (.getAlert run.alertID) with
      | .ok (some a) =>
        if a.status = .active then
          match d.channelID with
          | none => abandonDelivery d
          | some chID =>
            match ← ask (.getChannel chID) with
            | none => abandonDelivery d
            | some ch => tell (.goDeliver d.id a ch)
        else abandonDelivery d
      | _ => abandonDelivery d
    else abandonDelivery d

/-- `recoverOrphans`. -/
def recoverOrphans (now : Time) : Code := do
  match ← ask (.selectOrphanPendingDeliveries (now - defaultOrphanTimeout)) with
  | none => pure ()
  | some orphans => Prog.forEach recoverOrphan orphans.val

/-! ## 4. The evaluation cycle -/

/-- When the level after `levelIndex` is due; after the last one, at once. -/
def nextActionTime (levels : List Level) (levelIndex : Int) (now : Time) : Time :=
  match levelAt levels (levelIndex + 1) with
  | some l => now + seconds l.delaySeconds
  | none => now

/-- The exhausted notice goes to the channels of the last executed level. -/
def notifyExhausted (run : Run) (policy : Policy) (a : Alert) : Code :=
  match levelAt policy.levels run.lastExecutedLevelIndex with
  | none => .done ()
  | some level =>
    dispatchSpecial run.id specialLevelExhausted level.channelIDs
      (formatExhaustedAlert a policy.levels.length)

/-- The end of `processRun`: every level was executed. -/
def exhaust (run : Run) (policy : Policy) (a : Alert) (now : Time) : Code := do
  notifyExhausted run policy a
  tell (.terminateRun run.id .exhausted now)

/-- The end of `processRun`: the next level. An index below -1, which would panic, is never
    stored. -/
def advance (run : Run) (policy : Policy) (a : Alert) (now : Time) : Code := do
  let nextLevel := run.lastExecutedLevelIndex + 1
  if nextLevel ≥ policy.levels.length then exhaust run policy a now
  else
    match levelAt policy.levels nextLevel with
    | none => pure ()
    | some level =>
      executeLevel run.id nextLevel level.channelIDs a now
      tell (.updateRunProgress run.id nextLevel (nextActionTime policy.levels nextLevel now))

/-- `processRun`. -/
def processRun (now : Time) (run : Run) : Code := do
  match ← ask (.getAlert run.alertID) with
  | .error _ => pure ()
  | .ok none => tell (.terminateRun run.id .stoppedByResolution now)
  | .ok (some a) =>
    if a.status = .active then
      let suppressed ← ask (.isSuppressed run.id a.source a.entityType a.entityID)
      if suppressed then tell (.pauseRunForMaintenance run.id (now + maintenanceRecheck))
      else if run.status = .pausedByMaintenance then
        tell (.resumeRunFromMaintenance run.id now)
      else
        match run.policySnapshot with
        | none => tell (.terminateRun run.id .stoppedByPolicyDeletion now)
        | some policy => advance run policy a now
    else tell (.terminateRun run.id .stoppedByResolution now)

/-- `EvaluateCycle`. -/
def evaluateCycle : Code := do
  let now ← ask .clock
  recoverOrphans now
  match ← ask (.selectDueRuns now) with
  | none => pure ()
  | some runs => Prog.forEach (processRun now) runs.val

/-! ## 5. The hooks -/

/-- The loop body of `OnAlertCreated`; `covered` are the policies with a live run. -/
def startRun (a : Alert) (covered : List String) (now : Time) (p : Policy) : Code :=
  if covered.contains p.id then .done ()
  else if matchPolicyFilters a p then
    match p.levels with
    | [] => .done ()
    | first :: _ => tell (.insertRun p.id p a.id now (now + seconds first.delaySeconds))
  else .done ()

/-- `OnAlertCreated`. -/
def onAlertCreated (a : Alert) : Code :=
  if a.id = "" then .done ()
  else do
    match ← ask (.selectActiveRunsByAlert a.id) with
    | none => pure ()
    | some existing =>
      match ← ask .selectPolicies with
      | none => pure ()
      | some policies =>
        let now ← ask .clock
        Prog.forEach (startRun a (existing.val.filterMap Run.policyID) now) policies.val

/-- The notice of an acknowledgment goes to the channels of the last executed level. -/
def notifyAck (a : Option Alert) (ack : Acknowledgment) (run : Run) : Code :=
  match a, run.policySnapshot with
  | some a, some policy =>
    match levelAt policy.levels run.lastExecutedLevelIndex with
    | some level => dispatchSpecial run.id specialLevelAck level.channelIDs (formatAckAlert a ack)
    | none => .done ()
  | _, _ => .done ()

/-- The loop body of `OnAlertAcknowledged`. -/
def stopByAck (a : Option Alert) (now : Time) (ack : Acknowledgment) (run : Run) : Code := do
  let ok ← ask (.terminateRun run.id .stoppedByAck now)
  if ok then notifyAck a ack run else pure ()

/-- `OnAlertAcknowledged`. -/
def onAlertAcknowledged (alertID : String) (ack : Acknowledgment) : Code := do
  match ← ask (.selectActiveRunsByAlert alertID) with
  | none => pure ()
  | some runs =>
    if runs.val = [] then pure ()
    else
      let r ← ask (.getAlert alertID)
      let now ← ask .clock
      let a := match r with
        | .ok a => a
        | .error _ => none
      Prog.forEach (stopByAck a now ack) runs.val

/-- `OnAlertResolved`. -/
def onAlertResolved (alertID : String) (resolvedAt : Time) : Code := do
  match ← ask (.selectActiveRunsByAlert alertID) with
  | none => pure ()
  | some runs =>
    Prog.forEach (fun run => tell (.terminateRun run.id .stoppedByResolution resolvedAt)) runs.val

/-- `Service.DeletePolicy`, the two statements of the store's `DeletePolicy` at its end. -/
def deletePolicy (id : String) : Code := do
  match ← ask (.selectPolicy id) with
  | none => pure ()
  | some _ =>
    let now ← ask .clock
    let ok ← ask (.stopRunsOfPolicy id now)
    if ok then tell (.deletePolicyRow id) else pure ()

/-- `OnEditionDowngraded`. -/
def onEditionDowngraded : Code := do
  let ok ← ask .bulkDeactivateAllPolicies
  if ok then
    let now ← ask .clock
    tell (.bulkStopActiveRuns .stoppedByEditionDowngrade now)
  else pure ()

/-! ## 6. The operations together -/

/-- What may be in progress; `writeAlerts` is any other component's write to the alerts. -/
inductive Op where
  | evaluateCycle
  | onAlertCreated (a : Alert)
  | onAlertAcknowledged (alertID : String) (ack : Acknowledgment)
  | onAlertResolved (alertID : String) (resolvedAt : Time)
  | deletePolicy (id : String)
  | onEditionDowngraded
  | deliverAndUpdate (deliveryID : String) (a : Alert) (ch : NotificationChannel)
  | writeAlerts (alerts : AlertTable)

def Op.body : Op → Code
  | .evaluateCycle => Escalation.evaluateCycle
  | .onAlertCreated a => Escalation.onAlertCreated a
  | .onAlertAcknowledged alertID ack => Escalation.onAlertAcknowledged alertID ack
  | .onAlertResolved alertID resolvedAt => Escalation.onAlertResolved alertID resolvedAt
  | .deletePolicy id => Escalation.deletePolicy id
  | .onEditionDowngraded => Escalation.onEditionDowngraded
  | .deliverAndUpdate deliveryID a ch => Escalation.deliverAndUpdate deliveryID a ch
  | .writeAlerts alerts => tell (.writeAlerts alerts)

/-- `go r.deliverAndUpdate(…)`. -/
def forks : Request → Option Op
  | .goDeliver deliveryID a ch => some (.deliverAndUpdate deliveryID a ch)
  | _ => none

/-- One goroutine ticks, so one cycle at a time; a send starts by its `go` statement only. -/
def admits (inProgress : List Op) : Op → Bool
  | .evaluateCycle => inProgress.all fun op => match op with
    | .evaluateCycle => false
    | _ => true
  | .deliverAndUpdate .. => false
  | _ => true

/-- The escalation machine: any number of operations, interleaved request by request. -/
def machine : Machine Request Answer World Choice Op where
  handle := handle
  body := Op.body
  forks := forks
  admits := admits

abbrev State := Pool Request Answer World Op

abbrev Move := Pool.Move Choice Op

def step : State → Move → Option State := Pool.step machine

/-- Nothing in progress. -/
def State.idle (w : World) : State := ⟨w, []⟩

/-! ## 7. A small setting for concrete runs -/

/-- An active alert. -/
def sampleAlert : Alert where
  id := "a1"
  source := "resource"
  alertType := "cpu_threshold"
  severity := "critical"
  status := .active
  message := "cpu"
  entityType := "container"
  entityID := "c1"
  entityName := "web"
  details := "{}"
  resolvedByID := none
  firedAt := 0
  resolvedAt := none
  acknowledgedAt := none
  acknowledgedBy := ""

/-- Two levels, a minute apart, both to channel `ch`. -/
def samplePolicy : Policy where
  id := "p1"
  active := true
  activeBeforeDowngrade := false
  filters := ⟨[], []⟩
  levels := [⟨60, ["ch"]⟩, ⟨120, ["ch"]⟩]

/-- A run of the policy for the alert, its first level due at second 60. -/
def sampleRun : Run where
  id := "r1"
  policyID := some "p1"
  policySnapshot := some samplePolicy
  alertID := "a1"
  status := .active
  lastExecutedLevelIndex := -1
  startedAt := 0
  endedAt := none
  nextActionAt := some 60

def sampleWorld : World where
  now := 60 * second
  alerts := ⟨[sampleAlert], by decide⟩
  policies := ⟨[samplePolicy], by decide⟩
  runs := ⟨[sampleRun], by decide⟩
  deliveries := .empty
  marks := []
  succeeded := []

/-- The channel store answers an enabled channel. -/
def channelUp : Choice := { channel := some ⟨"ch", "webhook", true⟩ }

/-- No thread but the one that moves has a request left. -/
def sole (s : State) : Move → Bool
  | .start _ => true
  | .run n _ => (List.range s.threads.length).all fun m => m == n ||
      match s.threads[m]? with
      | some (_, .done _) => true
      | _ => false

theorem finished_of_sole {s : State} {n m : Nat} {x : Choice} {t : Op × Code}
    (h : sole s (.run n x) = true) (hmn : m ≠ n) (ht : s.threads[m]? = some t) : ∃ op, t = (op, .done ()) := by
  have hm : m < s.threads.length := (List.getElem?_eq_some_iff.mp ht).1
  have hdone := List.all_eq_true.mp h m (List.mem_range.mpr hm)
  rw [ht] at hdone
  obtain ⟨op, p⟩ := t
  cases p with
  | done => exact ⟨op, rfl⟩
  | call => simp [hmn] at hdone

end Maintenant.Escalation
