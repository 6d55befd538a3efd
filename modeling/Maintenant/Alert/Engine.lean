/-
  File:      Maintenant/Alert/Engine.lean
  Subject:   THE ALERT ENGINE (internal/alert/engine.go) as functions on its map and the table.

  `State` is the engine's `activeAlerts` map beside the `alerts` table; one call of the engine
  maps a state to a state and the list of what it did to the outside, in order (`Effect`).
  `Call` is what one call meets: the clock, the ids `uid.New` hands out, the configuration
  rows it reads, the extension points' answers, and which store calls fail.

  `NewEngine` panics on a nil alert, channel, trigger or silence store, so the nil checks on
  them never fire and are left out; the notifier and the broadcaster may be nil.

  A map entry and the local variable `existing` are one pointer in the code: `escalateAlert`
  changes the record in the map before it writes the table, so the map keeps the change when
  the write fails. `ResolveByEntity` ranges over the map; the order of its rows is Go's choice
  and is an argument here.
-/
import Maintenant.Alert.Store
import Maintenant.Lib.GoMap

namespace Maintenant.Alerting

open GoTime

/-! ## 1. What a call meets -/

/-- Which store calls of one engine call fail. -/
structure Faults where
  insertAlert : Bool := false
  updateAlertOnEscalation : Bool := false
  updateAlertStatus : String → Bool := fun _ => false
  getActiveSilenceRules : Bool := false
  listEnabledTriggers : Bool := false
  getChannel : String → Bool := fun _ => false
  insertDelivery : String → Bool := fun _ => false

/-- The rows and extension points the engine reads. `route` is the entity router's channel list
    (an error next to it is only logged), `isSuppressed` the maintenance suppressor. -/
structure Config where
  notifier : Bool
  broadcaster : Bool
  triggers : List AlertTrigger
  channels : Table NotificationChannel.id
  silenceRules : List SilenceRule
  route : String → String → String → List String
  isSuppressed : String → String → String → Except Unit Bool

/-- One call of the engine: its clock, the ids drawn for its inserts, what it reads and what
    fails. -/
structure Call where
  now : Time
  newID : String
  newDeliveryID : String → String
  faults : Faults
  cfg : Config

/-- What the engine does to the outside. A delivery row is recorded with the trigger whose loop
    inserted it (`none`: the entity router's loop); the row itself does not name it. -/
inductive Effect where
  | broadcastAlert (a : Alert) (silenced : Bool)
  | broadcastResolved (a : Alert)
  | onAlertCreated (a : Alert)
  | onAlertResolved (alertID : String) (resolvedAt : Time)
  | insertDelivery (d : NotificationDelivery) (via : Option AlertTrigger)
  | enqueue (d : NotificationDelivery) (ch : NotificationChannel) (a : Alert)
  deriving DecidableEq, Repr

/-- The map `activeAlerts`. -/
abbrev ActiveAlerts := AList fun _ : ActiveAlertKey => Alert

/-- The engine's memory and its table. -/
structure State where
  activeAlerts : ActiveAlerts
  alerts : AlertTable

/-! ## 2. Silences -/

/-- `GetActiveSilenceRules`. -/
def Call.getActiveSilenceRules (c : Call) : Except Unit (List SilenceRule) :=
  if c.faults.getActiveSilenceRules then .error ()
  else .ok (c.cfg.silenceRules.filter fun r => r.isActive c.now)

/-- `checkSilenceRules`: a failed read silences nothing, and the maintenance suppressor is asked
    only after the rules. -/
def checkSilenceRules (c : Call) (evt : Event) : Bool :=
  match c.getActiveSilenceRules with
  | .error _ => false
  | .ok rules =>
    if rules.any fun r => matchesSilenceRule r evt then true
    else match c.cfg.isSuppressed evt.source evt.entityType evt.entityID with
      | .error _ => false
      | .ok suppressed => suppressed

/-! ## 3. Dispatch -/

/-- `GetChannel`; a failed call and a missing row are both skipped by the caller. -/
def Call.getChannel (c : Call) (chID : String) : Option NotificationChannel :=
  if c.faults.getChannel chID then none else c.cfg.channels.get chID

/-- A channel picked for a delivery, and the trigger that picked it (`none`: entity router). -/
structure Pick where
  channel : NotificationChannel
  via : Option AlertTrigger
  deriving DecidableEq, Repr

/-- The body of both channel loops of `dispatchNotifications`. -/
def offer (c : Call) (via : Option AlertTrigger) (picks : List Pick) (chID : String) :
    List Pick :=
  if picks.any fun p => p.channel.id == chID then picks
  else match c.getChannel chID with
    | none => picks
    | some ch => if ch.enabled then picks ++ [⟨ch, via⟩] else picks

/-- The trigger loop's body. -/
def offerTrigger (c : Call) (routeBy : Alert) (picks : List Pick) (t : AlertTrigger) :
    List Pick :=
  if matchesTrigger t routeBy then t.channelIDs.foldl (offer c (some t)) picks else picks

/-- `ListEnabledTriggers`; a failed call leaves the list nil. -/
def Call.enabledTriggers (c : Call) : List AlertTrigger :=
  if c.faults.listEnabledTriggers then [] else c.cfg.triggers.filter fun t => t.enabled

/-- The channels a record routes to: triggers first, then the entity router. -/
def routing (c : Call) (routeBy : Alert) : List Pick :=
  let picks := c.enabledTriggers.foldl (offerTrigger c routeBy) []
  (c.cfg.route routeBy.entityType routeBy.entityID routeBy.severity).foldl (offer c none) picks

/-- The row `enqueueDelivery` inserts. -/
def newDelivery (c : Call) (ch : NotificationChannel) (a : Alert) : NotificationDelivery :=
  ⟨c.newDeliveryID ch.id, a.id, ch.id, .pending⟩

/-- `enqueueDelivery`: nothing is enqueued when the row cannot be inserted. -/
def enqueueDelivery (c : Call) (p : Pick) (a : Alert) : List Effect :=
  if c.faults.insertDelivery p.channel.id then []
  else [.insertDelivery (newDelivery c p.channel a) p.via,
    .enqueue (newDelivery c p.channel a) p.channel a]

/-- `dispatchNotifications`. -/
def dispatchNotifications (c : Call) (routeBy payload : Alert) : List Effect :=
  if c.cfg.notifier then (routing c routeBy).flatMap fun p => enqueueDelivery c p payload
  else []

def broadcastAlert (c : Call) (a : Alert) (silenced : Bool) : List Effect :=
  if c.cfg.broadcaster then [.broadcastAlert a silenced] else []

def broadcastResolved (c : Call) (a : Alert) : List Effect :=
  if c.cfg.broadcaster then [.broadcastResolved a] else []

/-! ## 4. Events -/

/-- The record a firing event opens. -/
def Event.toAlert (evt : Event) (id : String) (status : AlertStatus) : Alert where
  id := id
  source := evt.source
  alertType := evt.alertType
  severity := evt.severity
  status := status
  message := evt.message
  entityType := evt.entityType
  entityID := evt.entityID
  entityName := evt.entityName
  details := evt.detailsJSON
  resolvedByID := none
  firedAt := evt.timestamp
  resolvedAt := none
  acknowledgedAt := none
  acknowledgedBy := ""

/-- The record after an escalation: severity, message, entity name and details of the event. -/
def Alert.escalated (a : Alert) (evt : Event) : Alert :=
  { a with
    severity := evt.severity
    message := evt.message
    entityName := evt.entityName
    details := evt.detailsJSON }

@[simp] theorem Alert.escalated_key (a : Alert) (evt : Event) : (a.escalated evt).key = a.key :=
  rfl

/-- `escalateAlert`. -/
def escalateAlert (c : Call) (existing : Alert) (evt : Event) (s : State) :
    State × List Effect :=
  let existing' := existing.escalated evt
  -- the map holds the pointer that was just written through
  let mutated := s.activeAlerts.insert evt.key existing'
  if c.faults.updateAlertOnEscalation then (⟨mutated, s.alerts⟩, [])
  else
    let alerts := updateAlertOnEscalation s.alerts existing.id evt.severity evt.message
      evt.entityName evt.detailsJSON
    (⟨mutated.insert existing'.key existing', alerts⟩,
      broadcastAlert c existing' false ++ [.onAlertCreated existing'] ++
        dispatchNotifications c existing' existing')

/-- The branch of `processEvent` for a key with no active alert. -/
def openAlert (c : Call) (evt : Event) (s : State) : State × List Effect :=
  let silenced := checkSilenceRules c evt
  let a := evt.toAlert c.newID (if silenced then .silenced else .active)
  match insertAlert s.alerts c.faults.insertAlert a with
  | none => (s, [])
  | some alerts =>
    if silenced then (⟨s.activeAlerts, alerts⟩, broadcastAlert c a true)
    else
      (⟨s.activeAlerts.insert evt.key a, alerts⟩,
        broadcastAlert c a false ++ [.onAlertCreated a] ++ dispatchNotifications c a a)

/-- The record after its recovery. -/
def Alert.resolvedBy (a : Alert) (recoveryID : String) (now : Time) : Alert :=
  { a with status := .resolved, resolvedAt := some now, resolvedByID := some recoveryID }

/-- `processRecovery`: the key leaves the map before anything is written. The recovery is
    routed by the resolved record and delivers the event's message and severity. -/
def processRecovery (c : Call) (evt : Event) (s : State) : State × List Effect :=
  match s.activeAlerts.lookup evt.key with
  | none => (s, [])
  | some activeAlert =>
    let remaining := s.activeAlerts.erase evt.key
    let recovery := evt.toAlert c.newID .resolved
    match insertAlert s.alerts c.faults.insertAlert recovery with
    | none => (⟨remaining, s.alerts⟩, [])
    | some alerts =>
      let alerts :=
        if c.faults.updateAlertStatus activeAlert.id then alerts
        else updateAlertStatus alerts activeAlert.id .resolved (some evt.timestamp)
          (some recovery.id)
      let resolved := activeAlert.resolvedBy recovery.id evt.timestamp
      (⟨remaining, alerts⟩,
        [.onAlertResolved activeAlert.id evt.timestamp] ++ broadcastResolved c resolved ++
          dispatchNotifications c resolved
            { resolved with message := evt.message, severity := evt.severity })

/-- `processEvent`. -/
def processEvent (c : Call) (evt : Event) (s : State) : State × List Effect :=
  if evt.isRecover then processRecovery c evt s
  else match s.activeAlerts.lookup evt.key with
    | some existing =>
      if severityRank existing.severity < severityRank evt.severity then
        escalateAlert c existing evt s
      else (s, [])
    | none => openAlert c evt s

section Branches

variable {c : Call} {evt : Event} {s : State} {a : Alert}

theorem processEvent_recovery (h : evt.isRecover = true) : processEvent c evt s = processRecovery c evt s := by
  simp only [processEvent, h, if_pos]

variable (h : evt.isRecover = false)

include h

theorem processEvent_open (hl : s.activeAlerts.lookup evt.key = none) :
    processEvent c evt s = openAlert c evt s := by
  simp only [processEvent, h, hl, Bool.false_eq_true, if_false]

theorem processEvent_escalate (hl : s.activeAlerts.lookup evt.key = some a)
    (hr : severityRank a.severity < severityRank evt.severity) : processEvent c evt s = escalateAlert c a evt s := by
  simp only [processEvent, h, hl, hr, Bool.false_eq_true, if_false, if_pos]

theorem processEvent_duplicate (hl : s.activeAlerts.lookup evt.key = some a)
    (hr : ¬ severityRank a.severity < severityRank evt.severity) : processEvent c evt s = (s, []) := by
  simp only [processEvent, h, hl, hr, Bool.false_eq_true, if_false]

omit h

/-- A recovery takes its key out of the map, whatever fails. -/
theorem processRecovery_map : (processRecovery c evt s).1.activeAlerts = s.activeAlerts.erase evt.key := by
  unfold processRecovery
  split
  · next hl => exact AList.ext (List.kerase_of_notMem_keys (AList.lookup_eq_none.mp hl)).symm
  · dsimp only
    split <;> rfl

/-- An escalation shows in the map, whatever fails. -/
theorem escalateAlert_map (hkey : a.key = evt.key) (k : ActiveAlertKey) :
    (escalateAlert c a evt s).1.activeAlerts.lookup k =
      if k = evt.key then some (a.escalated evt) else s.activeAlerts.lookup k := by
  unfold escalateAlert
  dsimp only
  split
  · exact GoMap.lookup_insert _
  · rw [Alert.escalated_key, hkey, GoMap.lookup_insert, GoMap.lookup_insert]
    exact ite_congr rfl (fun _ => rfl) fun hk => if_neg hk

end Branches

/-! ## 5. Entity removal and reload -/

/-- The keys `ResolveByEntity` selects. -/
def ofEntity (entityType entityID : String) (key : ActiveAlertKey) : Bool :=
  key.entityType == entityType && key.entityID == entityID

/-- The second loop's body: a failed update skips the row's hooks. -/
def resolveOne (c : Call) (acc : AlertTable × List Effect) (a : Alert) :
    AlertTable × List Effect :=
  if c.faults.updateAlertStatus a.id then acc
  else
    let resolved : Alert := { a with status := .resolved, resolvedAt := some c.now }
    (updateAlertStatus acc.1 a.id .resolved (some c.now) none,
      acc.2 ++ [.onAlertResolved a.id c.now] ++ broadcastResolved c resolved)

/-- `ResolveByEntity`; `toResolve` is the order the range loop met the entries in. -/
def resolveByEntity (c : Call) (entityType entityID : String) (toResolve : List Alert)
    (s : State) : State × List Effect :=
  let res := toResolve.foldl (resolveOne c) (s.alerts, [])
  (⟨GoMap.eraseWhere s.activeAlerts (ofEntity entityType entityID), res.1⟩, res.2)

/-- The loop of `reloadActiveAlerts` over the listed rows. -/
def reloadActiveAlerts (m : ActiveAlerts) (t : AlertTable) : ActiveAlerts :=
  GoMap.insertAll Alert.key m (listActiveAlerts t)

/-! ## 6. A small setting for concrete runs -/

/-- No trigger, no channel, no silence, no router, no maintenance window. -/
def Config.bare : Config where
  notifier := true
  broadcaster := true
  triggers := []
  channels := .empty
  silenceRules := []
  route _ _ _ := []
  isSuppressed _ _ _ := .ok false

/-- A call at time 0 that draws the id `id` and in which nothing fails. -/
def Call.plain (id : String) (cfg : Config) : Call where
  now := 0
  newID := id
  newDeliveryID ch := id ++ "/" ++ ch
  faults := {}
  cfg := cfg

/-- A CPU event of container `c1`. -/
def cpuEvent (severity : String) (isRecover : Bool) : Event where
  source := "resource"
  alertType := "cpu_threshold"
  severity := severity
  isRecover := isRecover
  message := "cpu"
  entityType := "container"
  entityID := "c1"
  entityName := "web"
  details := none
  timestamp := 0

end Maintenant.Alerting
