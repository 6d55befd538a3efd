/-
  File:      Maintenant/Swarm/Model.lean
  Subject:   THE DETECTORS OF A SWARM (internal/swarm: crashloop.go, alerts.go, node.go, `checkReplicaHealth` of
             events.go; internal/store/swarm_node.go) and the alert events they emit.

  Every event names its service or node in its text and details, and none in its entity id. What is
  broadcast to browsers is left out, and so are the columns of a node that nothing here reads.
-/
import Maintenant.Alert.Held
import Maintenant.Container.Model

namespace Maintenant.Swarm

open GoTime Alerting Containers

/-- A row of swarm_nodes. -/
structure SwarmNode where
  agentID : String
  nodeID : String
  hostname : String
  role : String
  status : String
  availability : String
  deriving DecidableEq, Repr

/-- What a call meets: the clock, details as JSON, and the order in which rows are read and maps ranged over. -/
structure Sending where
  now : Time
  json : List (String × (String ⊕ Int)) → Except Unit String
  scan : ∀ l : List SwarmNode, { l' : List SwarmNode // l'.Perm l }
  range : ∀ l : List String, { l' : List String // l'.Perm l }

/-- An alert event, and the service or node it is about. -/
structure Emission where
  entity : String
  evt : Event

def swarmEvent (x : Sending) (alertType severity : String) (isRecover : Bool) (message entityType entityName : String)
    (details : Option (List (String × (String ⊕ Int)))) : Event where
  source := "swarm"
  alertType := alertType
  severity := severity
  isRecover := isRecover
  message := message
  entityType := entityType
  entityID := ""
  entityName := entityName
  details := details.map x.json
  timestamp := x.now

/-! ## 1. Crash loops -/

def minute : Int := 60 * second
def crashLoopThreshold : Nat := 3
def crashLoopWindow : Int := 5 * minute
def crashLoopRecoveryTime : Int := 10 * minute
def crashLoopBufferMax : Int := 30 * minute

structure FailureState where
  failures : List Time
  inCrashLoop : Bool
  lastFailure : Time

abbrev CrashLoops := AList fun _ : String => FailureState

def recordFailure (x : Sending) (m : CrashLoops) (serviceID serviceName lastError : String) :
    CrashLoops × List Emission :=
  let state := (m.lookup serviceID).getD ⟨[], false, zeroTime⟩
  let failures := (state.failures ++ [x.now]).filter (x.now - crashLoopBufferMax < ·)
  let count := failures.countP (x.now - crashLoopWindow < ·)
  if crashLoopThreshold ≤ count ∧ state.inCrashLoop = false then
    (m.insert serviceID ⟨failures, true, x.now⟩,
      [⟨serviceID, swarmEvent x "crash_loop" severityCritical false
        ("Swarm service " ++ serviceName ++ " is crash-looping (" ++ toString count ++ " failures in 5 min)")
        "swarm_service" serviceName
        (some [("service_id", .inl serviceID), ("failure_count", .inr count), ("last_error", .inl lastError)])⟩])
  else (m.insert serviceID ⟨failures, state.inCrashLoop, x.now⟩, [])

/-- One service of the loop; the name in the recovery is the service's id. -/
def checkRecovery (x : Sending) (p : CrashLoops × List Emission) (serviceID : String) : CrashLoops × List Emission :=
  match p.1.lookup serviceID with
  | none => p
  | some state =>
    if state.inCrashLoop = true ∧ crashLoopRecoveryTime ≤ x.now - state.lastFailure then
      (p.1.insert serviceID { state with inCrashLoop := false },
        p.2 ++ [⟨serviceID, swarmEvent x "crash_loop" severityInfo true
          ("Swarm service crash-loop resolved for " ++ serviceID) "swarm_service" serviceID none⟩])
    else p

def checkRecoveries (x : Sending) (m : CrashLoops) : CrashLoops × List Emission :=
  (x.range m.keys).val.foldl (checkRecovery x) (m, [])

/-! ## 2. Replicas -/

structure SwarmService where
  serviceID : String
  name : String
  mode : String
  runningReplicas : Int
  desiredReplicas : Int
  deriving DecidableEq, Repr

def replicaEvent (x : Sending) (svc : SwarmService) (severity : String) (isRecover : Bool) (what : String)
    (counts : Bool) : Emission :=
  ⟨svc.serviceID, swarmEvent x "replica_unhealthy" severity isRecover ("Swarm service " ++ svc.name ++ what)
    "swarm_service" svc.name (some (("service_id", .inl svc.serviceID) ::
      if counts then [("running_replicas", .inr svc.runningReplicas), ("desired_replicas", .inr svc.desiredReplicas)]
      else []))⟩

def SwarmService.ratio (svc : SwarmService) : String :=
  toString svc.runningReplicas ++ "/" ++ toString svc.desiredReplicas

/-- A replicated service that wants replicas. -/
def SwarmService.checked (svc : SwarmService) : Bool := svc.mode == "replicated" && svc.desiredReplicas != 0

def SwarmService.degraded (svc : SwarmService) : Bool := decide (svc.runningReplicas < svc.desiredReplicas)

def defaultReplicaAlertDelay : Int := 5 * minute

structure ReplicaState where
  firstSeen : Time
  alerted : Bool
  deriving DecidableEq, Repr

abbrev ReplicaHealthChecker := String → Option ReplicaState

def ReplicaHealthChecker.recover (x : Sending) (m : ReplicaHealthChecker) (svc : SwarmService) :
    ReplicaHealthChecker × List Emission :=
  match m svc.serviceID with
  | none => (m, [])
  | some state => (Function.update m svc.serviceID none,
      if state.alerted then [replicaEvent x svc severityInfo true " replicas restored" false] else [])

/-- One service of `Check`. -/
def ReplicaHealthChecker.checkOne (x : Sending) (m : ReplicaHealthChecker) (svc : SwarmService) :
    ReplicaHealthChecker × List Emission :=
  if svc.checked && svc.degraded then
    match m svc.serviceID with
    | none => (Function.update m svc.serviceID (some ⟨x.now, false⟩), [])
    | some state =>
      if state.alerted = false ∧ defaultReplicaAlertDelay ≤ x.now - state.firstSeen then
        (Function.update m svc.serviceID (some { state with alerted := true }),
          [replicaEvent x svc severityWarning false (" under-replicated for 5m0s: " ++ svc.ratio ++ " replicas") true])
      else (m, [])
  else m.recover x svc

/-- The listed services in order; those that are not listed are forgotten. -/
def ReplicaHealthChecker.check (x : Sending) (m : ReplicaHealthChecker) (services : List SwarmService) :
    ReplicaHealthChecker × List Emission :=
  let p := services.foldl (fun p svc => ((p.1.checkOne x svc).1, p.2 ++ (p.1.checkOne x svc).2)) (m, [])
  (fun id => if services.any (·.serviceID == id) then p.1 id else none, p.2)

/-- The services with a replica alert, as the event processor knows them. -/
abbrev ReplicaAlerted := String → Bool

def checkReplicaHealth (x : Sending) (m : ReplicaAlerted) (svc : SwarmService) : ReplicaAlerted × List Emission :=
  if !svc.checked then (m, [])
  else if svc.degraded && !m svc.serviceID then
    (Function.update m svc.serviceID true,
      [replicaEvent x svc severityWarning false (" degraded: " ++ svc.ratio ++ " replicas running") true])
  else if !svc.degraded && m svc.serviceID then
    (Function.update m svc.serviceID false,
      [replicaEvent x svc severityInfo true (" recovered: " ++ svc.ratio ++ " replicas running") true])
  else (m, [])

/-! ## 3. Nodes -/

/-- swarm_nodes: one row for each node of each agent. -/
abbrev Nodes := Table fun n : SwarmNode => (n.agentID, n.nodeID)

def upsertNode (t : Nodes) (node : SwarmNode) : Nodes :=
  let node := { node with agentID := uidAgent node.agentID }
  t.upsert node (fun row => { node with agentID := row.agentID, nodeID := row.nodeID }) fun _ => rfl

def replaceNodesForAgent (t : Nodes) (agentID : String) (nodes : List SwarmNode) : Nodes :=
  (nodes.foldl (fun t n => upsertNode t { n with agentID := agentID }) t).delete fun row =>
    row.agentID == uidAgent agentID && !(nodes.map SwarmNode.nodeID).contains row.nodeID

/-- A row of any agent. -/
def getNodeByNodeID (x : Sending) (t : Nodes) (nodeID : String) : Option SwarmNode :=
  (x.scan (t.rows.filter (·.nodeID == nodeID))).val.head?

def SwarmNode.isDown (n : SwarmNode) : Bool := n.status == "down" || n.status == "disconnected"
def SwarmNode.isDrain (n : SwarmNode) : Bool := n.availability == "drain"

def nodeEvent (x : Sending) (n : SwarmNode) (alertType severity : String) (isRecover : Bool)
    (what field old new : String) : Emission :=
  ⟨n.nodeID, swarmEvent x alertType severity isRecover ("Swarm node " ++ n.hostname ++ " (" ++ n.role ++ ") " ++ what)
    "swarm_node" n.hostname
    (some [("node_id", .inl n.nodeID), ("role", .inl n.role), ("old_" ++ field, .inl old),
      ("new_" ++ field, .inl new)])⟩

/-- Where nothing changed, no condition is met. -/
def detectTransitions (x : Sending) (old cur : SwarmNode) : List Emission :=
  (if old.status = "ready" ∧ cur.isDown then
    [nodeEvent x cur "node_down" severityCritical false ("is " ++ cur.status) "status" old.status
      cur.status] else []) ++
  (if old.isDown ∧ cur.status = "ready" then
    [nodeEvent x cur "node_down" severityInfo true "recovered" "status" old.status cur.status] else []) ++
  (if cur.isDrain ∧ ¬old.isDrain then
    [nodeEvent x cur "node_drain" severityWarning false "set to drain" "availability" old.availability
      cur.availability] else []) ++
  if old.isDrain ∧ ¬cur.isDrain then
    [nodeEvent x cur "node_drain" severityInfo true ("returned to " ++ cur.availability) "availability"
      old.availability cur.availability] else []

/-- The managers listed, and those that are ready. -/
def managers (nodes : List SwarmNode) : Nat := nodes.countP (·.role == "manager")
def readyManagers (nodes : List SwarmNode) : Nat := nodes.countP fun n => n.role == "manager" && n.status == "ready"

/-- Managers are listed, and fewer than a majority of them are ready. -/
def Degraded (nodes : List SwarmNode) : Prop := 0 < managers nodes ∧ readyManagers nodes < managers nodes / 2 + 1
deriving Decidable

def checkQuorum (x : Sending) (nodes : List SwarmNode) : List Emission :=
  if Degraded nodes then
    [⟨"swarm", swarmEvent x "quorum_degraded" severityCritical false
      ("Swarm quorum degraded: " ++ toString (readyManagers nodes) ++ "/" ++ toString (managers nodes) ++
        " managers ready (need " ++ toString (managers nodes / 2 + 1) ++ ")") "swarm_cluster" "swarm"
      (some [("total_managers", .inr (managers nodes)), ("ready_managers", .inr (readyManagers nodes)),
        ("quorum_needed", .inr (managers nodes / 2 + 1 : Nat))])⟩]
  else []

/-- One listed node, compared with the row that is read for it. -/
def reconcileNode (x : Sending) (p : Nodes × List Emission) (n : SwarmNode) : Nodes × List Emission :=
  (upsertNode p.1 { n with agentID := "" },
    p.2 ++ (getNodeByNodeID x p.1 n.nodeID).toList.flatMap (detectTransitions x · n))

def reconcile (x : Sending) (t : Nodes) (nodes : List SwarmNode) : Nodes × List Emission :=
  let p := nodes.foldl (reconcileNode x) (t, [])
  (p.1, p.2 ++ checkQuorum x nodes)

/-! ## 4. All of them -/

structure Detectors where
  crashLoops : CrashLoops
  checker : ReplicaHealthChecker
  alerted : ReplicaAlerted
  nodes : Nodes

inductive Op where
  | recordFailure (serviceID serviceName lastError : String)
  | checkRecoveries
  | check (services : List SwarmService)
  | updated (svc : SwarmService)
  | reconcile (nodes : List SwarmNode)

def Detectors.perform (d : Detectors) (i : Op × Sending) : Detectors × List Emission :=
  match i.1 with
  | .recordFailure serviceID serviceName lastError =>
    (recordFailure i.2 d.crashLoops serviceID serviceName lastError).map (fun m => { d with crashLoops := m }) id
  | .checkRecoveries => (checkRecoveries i.2 d.crashLoops).map (fun m => { d with crashLoops := m }) id
  | .check services => (d.checker.check i.2 services).map (fun m => { d with checker := m }) id
  | .updated svc => (checkReplicaHealth i.2 d.alerted svc).map (fun m => { d with alerted := m }) id
  | .reconcile nodes => (reconcile i.2 d.nodes nodes).map (fun t => { d with nodes := t }) id

/-- What is emitted over the calls, in order. -/
def emissions : Detectors → List (Op × Sending) → List Emission
  | _, [] => []
  | d, i :: is => (d.perform i).2 ++ emissions (d.perform i).1 is

end Maintenant.Swarm
