/-
  File:      Maintenant/Swarm/Alerts.lean
  Subject:   THE ALERTS OF A SWARM AND WHAT THEY ARE ABOUT (internal/swarm: `Check`, `checkReplicaHealth`,
             `Reconcile`, `RecordFailure`, `CheckRecoveries`), with the engine, over any calls.

  The detectors send what changed against what they remember, and their events carry no entity id. What
  was raised by someone else, or is about someone else, they neither clear nor keep apart.

  * `replica_alerts_end_iff` -- one service's replica alert, after every check;
  * `node_alerts_follow_iff` -- node and quorum alerts, after every reconcile;
  * `swarm_alerts_per_entity_iff` -- each failing entity has an alert of its own exactly as long as
    events come one entity at a time.
-/
import Maintenant.Swarm.Model

namespace Maintenant.Swarm

open GoTime Alerting

/-- What the engine is sent. -/
def signals (l : List Emission) : List Signal := l.map fun e => .event e.evt

theorem signals_nil : signals [] = [] := rfl

theorem signals_append (l l' : List Emission) : signals (l ++ l') = signals l ++ signals l' := List.map_append

/-! ## 1. One service's replicas -/

def replicaKey : ActiveAlertKey := ⟨"swarm", "replica_unhealthy", "swarm_service", ""⟩

/-- The two trackers; `since` is the first of the checks in a row, up to the last one, that found the service
    under-replicated. -/
structure Replicas where
  checker : ReplicaHealthChecker
  alerted : ReplicaAlerted
  since : Option Time

/-- An update event with what a refresh yields, a remove event, or a check of the listed service. -/
inductive ReplicaOp where
  | updated (svc : Option SwarmService)
  | removed
  | check (listed : Option SwarmService)

/-- The service `id`, whatever else is said of it. -/
def only (id : String) (svc : Option SwarmService) : List SwarmService :=
  svc.toList.map fun svc => { svc with serviceID := id }

/-- The service is listed and under-replicated. -/
def under (listed : Option SwarmService) : Bool := listed.any fun svc => svc.checked && svc.degraded

def Replicas.perform (id : String) (s : Replicas) (i : ReplicaOp × Sending) : Replicas × List Signal :=
  match i.1 with
  | .updated none | .removed => (s, [])
  | .updated (some svc) =>
    let p := checkReplicaHealth i.2 s.alerted { svc with serviceID := id }
    ({ s with alerted := p.1 }, signals p.2)
  | .check listed =>
    let p := s.checker.check i.2 (only id listed)
    ({ s with checker := p.1, since := if under listed then some (s.since.getD i.2.now) else none }, signals p.2)

/-- The alert is due. -/
def ReplicaState.due (state : ReplicaState) (now : Time) : Bool :=
  decide (defaultReplicaAlertDelay ≤ now - state.firstSeen)

/-- After a check an alert is held only for a listed service that is under-replicated, and for one that
    has been so at every check over the delay. -/
def EndsWithCause (id : String) (w : Watched Replicas) (i : (ReplicaOp × Sending) × (Nat → Handling)) : Prop :=
  match i.1.1 with
  | .check listed =>
    let w' := w.step (Replicas.perform id) i
    (w'.engine.holds replicaKey = true → under listed = true) ∧
      ∀ t, w'.service.since = some t → defaultReplicaAlertDelay ≤ i.1.2.now - t →
        w'.engine.holds replicaKey = true
  | _ => True

/-- A check meets no alert it has to end and did not raise, and none it counts on that is gone. -/
def Traceable (id : String) (w : Watched Replicas) (i : (ReplicaOp × Sending) × (Nat → Handling)) : Bool :=
  match i.1.1 with
  | .check listed =>
    if under listed then
      (w.service.checker id).all fun state => !(state.alerted && state.due i.1.2.now) || w.engine.holds replicaKey
    else listed.isSome && (w.service.checker id).any ReplicaState.alerted || !w.engine.holds replicaKey
  | _ => true

theorem replicaEvent_on (x : Sending) (svc : SwarmService) (severity what : String) (isRecover counts held : Bool) :
    Signal.onAll replicaKey held (signals [replicaEvent x svc severity isRecover what counts]) = !isRecover := by
  simp [signals, replicaEvent, swarmEvent, Signal.on, Event.key, replicaKey]

/-- **A check of the service**: what becomes of its entry, and what the engine is told. -/
theorem checkOne_spec (x : Sending) (m : ReplicaHealthChecker) (svc : SwarmService) (held : Bool) :
    ((m.checkOne x svc).1 svc.serviceID).map ReplicaState.firstSeen =
        (if under (some svc) then some (((m svc.serviceID).map ReplicaState.firstSeen).getD x.now) else none) ∧
      Signal.onAll replicaKey held (signals (m.checkOne x svc).2) =
        if under (some svc) then held || (m svc.serviceID).any fun state => !state.alerted && state.due x.now
        else held && !(m svc.serviceID).any ReplicaState.alerted := by
  have hunder : under (some svc) = (svc.checked && svc.degraded) := rfl
  unfold ReplicaHealthChecker.checkOne
  by_cases hdegraded : svc.checked && svc.degraded
  · rw [hunder, if_pos hdegraded, if_pos hdegraded, if_pos hdegraded]
    rcases hstate : m svc.serviceID with _ | ⟨t, _ | _⟩
    · simp [signals_nil]
    · by_cases hdue : defaultReplicaAlertDelay ≤ x.now - t <;>
        simp [hstate, hdue, ReplicaState.due, signals_nil, replicaEvent_on]
    · simp [hstate, signals_nil]
  · rw [hunder, if_neg hdegraded, if_neg hdegraded, if_neg hdegraded, ReplicaHealthChecker.recover]
    rcases hstate : m svc.serviceID with _ | ⟨t, _ | _⟩ <;> simp [hstate, signals_nil, replicaEvent_on]

theorem check_only (x : Sending) (m : ReplicaHealthChecker) (id : String) (listed : Option SwarmService) (held : Bool) :
    ((m.check x (only id listed)).1 id).map ReplicaState.firstSeen =
        (if under listed then some (((m id).map ReplicaState.firstSeen).getD x.now) else none) ∧
      Signal.onAll replicaKey held (signals (m.check x (only id listed)).2) =
        if under listed then held || (m id).any fun state => !state.alerted && state.due x.now
        else held && !(listed.isSome && (m id).any ReplicaState.alerted) := by
  cases listed with
  | none => simp [only, ReplicaHealthChecker.check, under, signals]
  | some svc =>
    have hunder : under (some { svc with serviceID := id }) = under (some svc) := rfl
    simpa [only, ReplicaHealthChecker.check, hunder] using checkOne_spec x m { svc with serviceID := id } held

/-- **The replica alert ends with its cause** exactly when every check can trace what is held. -/
theorem replica_alerts_end_iff {id : String} {s : Replicas} {e : Engine}
    {is : List ((ReplicaOp × Sending) × (Nat → Handling))}
    (hundisturbed : Watched.Undisturbed (Replicas.perform id) ⟨s, e⟩ is)
    (hstart : s.since = (s.checker id).map ReplicaState.firstSeen) :
    Passes.Along (Watched.step (Replicas.perform id)) (EndsWithCause id) ⟨s, e⟩ is ↔
      Passes.Along (Watched.step (Replicas.perform id)) (fun w i => Traceable id w i = true) ⟨s, e⟩ is := by
  -- the checker's entry starts with the checks in a row
  refine Passes.along_iff_of_inv
    (J := fun w => w.service.since = (w.service.checker id).map ReplicaState.firstSeen) hundisturbed ?_ hstart
  rintro w ⟨⟨op, x⟩, h⟩ - hears hsince
  have hholds := Watched.step_holds hears replicaKey
  unfold EndsWithCause Traceable
  cases op with
  | updated svc =>
    refine ⟨by simp, fun _ => ?_⟩
    cases svc <;> exact hsince
  | removed => exact ⟨by simp, fun _ => hsince⟩
  | check listed =>
    obtain ⟨hfirst, hon⟩ := check_only x w.service.checker id listed (w.engine.holds replicaKey)
    have hnext : (w.step (Replicas.perform id) ((.check listed, x), h)).service.since =
      if under listed then some (w.service.since.getD x.now) else none := rfl
    rw [hsince] at hnext
    refine ⟨?_, fun _ => hnext.trans hfirst.symm⟩
    dsimp only at hholds ⊢
    rw [hholds.trans hon, hnext]
    cases under listed with
    | false => cases w.engine.holds replicaKey <;> cases listed <;> simp
    | true =>
      have hdelay : 0 < defaultReplicaAlertDelay := by decide
      rcases w.service.checker id with _ | ⟨t, alerted⟩
      · simp [hdelay]
      · by_cases hdue : defaultReplicaAlertDelay ≤ x.now - t <;> cases alerted <;> simp [ReplicaState.due, hdue]

/-- A call at `now`. -/
def sampleSending (now : Time) : Sending :=
  ⟨now, fun _ => .ok "", fun l => ⟨l, .refl l⟩, fun l => ⟨l, .refl l⟩⟩

def sampleService (id : String) (running : Int) : SwarmService := ⟨id, id, "replicated", running, 2⟩

def replicaCall (op : ReplicaOp) (now : Time) (id : String) : (ReplicaOp × Sending) × (Nat → Handling) :=
  ((op, sampleSending now), fun _ => .plain id)

def idleReplicas : Watched Replicas := ⟨⟨fun _ => none, fun _ => false, none⟩, .idle .empty⟩

/-- What the checker raises after the delay, it ends. -/
theorem replica_alert_raised_and_ended :
    Passes.Along (Watched.step (Replicas.perform "s")) (EndsWithCause "s") idleReplicas
      [replicaCall (.check (some (sampleService "s" 1))) 0 "a", replicaCall (.check (some (sampleService "s" 1)))
        defaultReplicaAlertDelay "b", replicaCall (.check (some (sampleService "s" 2))) (6 * minute) "c"] :=
  (replica_alerts_end_iff (by decide) rfl).mpr (by decide)

/-- What the event processor raises outlives the service. -/
theorem replica_alert_outlives_service :
    let calls := [replicaCall (.updated (some (sampleService "s" 1))) 0 "a", replicaCall .removed 1 "b",
      replicaCall (.check none) minute "c"]
    idleReplicas.Undisturbed (Replicas.perform "s") calls ∧
      (idleReplicas.run (Replicas.perform "s") calls).engine.holds replicaKey = true := by
  decide

/-! ## 2. Nodes and the quorum -/

def nodeDownKey : ActiveAlertKey := ⟨"swarm", "node_down", "swarm_node", ""⟩
def nodeDrainKey : ActiveAlertKey := ⟨"swarm", "node_drain", "swarm_node", ""⟩
def quorumKey : ActiveAlertKey := ⟨"swarm", "quorum_degraded", "swarm_cluster", ""⟩

/-- A reconcile of the listed nodes, or the nodes of a remote agent. -/
inductive NodeOp where
  | reconcile (nodes : List SwarmNode)
  | replaceNodesForAgent (agentID : String) (nodes : List SwarmNode)

def NodeOp.perform (t : Nodes) (i : NodeOp × Sending) : Nodes × List Signal :=
  match i.1 with
  | .reconcile nodes => ((Swarm.reconcile i.2 t nodes).1, signals (Swarm.reconcile i.2 t nodes).2)
  | .replaceNodesForAgent agentID nodes => (Swarm.replaceNodesForAgent t agentID nodes, [])

/-- After a reconcile the alerts are as the listed nodes are. -/
def FollowsNodes (w : Watched Nodes) (i : (NodeOp × Sending) × (Nat → Handling)) : Prop :=
  match i.1.1 with
  | .reconcile nodes =>
    let held := (w.step NodeOp.perform i).engine.holds
    (∀ n, nodes = [n] → held nodeDownKey = n.isDown ∧ held nodeDrainKey = n.isDrain) ∧
      held quorumKey = decide (Degraded nodes)
  | _ => True

/-- A node's alert is right already, or the row that is read for it takes a step that is reported; and no
    quorum alert is held once the quorum is back. -/
def Reported (w : Watched Nodes) (i : (NodeOp × Sending) × (Nat → Handling)) : Prop :=
  match i.1.1 with
  | .reconcile nodes =>
    let held := w.engine.holds
    (∀ n, nodes = [n] →
      (held nodeDownKey = n.isDown ∨ ∃ old ∈ getNodeByNodeID i.1.2 w.service n.nodeID,
        (old.status = "ready" ∧ n.isDown) ∨ (old.isDown ∧ n.status = "ready")) ∧
      (held nodeDrainKey = n.isDrain ∨ ∃ old ∈ getNodeByNodeID i.1.2 w.service n.nodeID,
        old.isDrain ≠ n.isDrain)) ∧
      (Degraded nodes ∨ held quorumKey = false)
  | _ => True

variable (x : Sending)

/-- What a node's step does to the three alerts. -/
theorem detectTransitions_on (old n : SwarmNode) (held : Bool) :
    Signal.onAll nodeDownKey held (signals (detectTransitions x old n)) =
        (if old.status = "ready" ∧ n.isDown ∨ old.isDown ∧ n.status = "ready" then n.isDown else held) ∧
      Signal.onAll nodeDrainKey held (signals (detectTransitions x old n)) =
        (if old.isDrain ≠ n.isDrain then n.isDrain else held) ∧
      Signal.onAll quorumKey held (signals (detectTransitions x old n)) = held := by
  have hready : n.status = "ready" → n.isDown = false := fun h => by simp [SwarmNode.isDown, h]
  simp only [detectTransitions, signals, List.map_append, Signal.onAll_append, apply_ite (List.map _), List.map_cons,
    List.map_nil, apply_ite (Signal.onAll _ _), Signal.onAll_cons, Signal.onAll_nil, Signal.on, nodeEvent, swarmEvent,
    Event.key, nodeDownKey,
    nodeDrainKey, quorumKey]
  refine ⟨?_, ?_, ?_⟩
  · grind
  · grind
  · grind

theorem checkQuorum_on (nodes : List SwarmNode) (held : Bool) (k : ActiveAlertKey) :
    Signal.onAll k held (signals (checkQuorum x nodes)) = if k = quorumKey ∧ Degraded nodes then true else held := by
  unfold checkQuorum
  by_cases hdegraded : Degraded nodes
  · rw [if_pos hdegraded]
    show (if quorumKey = k then true else held) = _
    simp only [hdegraded, and_true, eq_comm]
  · simp [hdegraded, signals]

/-- The nodes leave the quorum's alert alone. -/
theorem reconcile_quorum (t : Nodes) (nodes : List SwarmNode) (held : Bool) :
    Signal.onAll quorumKey held (signals (reconcile x t nodes).2) = (decide (Degraded nodes) || held) := by
  have hnodes : Signal.onAll quorumKey held (signals (nodes.foldl (reconcileNode x) (t, [])).2) = held := by
    refine List.foldlRecOn nodes _ (motive := fun p : Nodes × List Emission =>
      Signal.onAll quorumKey held (signals p.2) = held) rfl ?_
    intro p hp n _
    cases hold : getNodeByNodeID x p.1 n.nodeID with
    | none => simpa [reconcileNode, hold] using hp
    | some => simp [reconcileNode, hold, signals_append, hp, detectTransitions_on]
  simp [reconcile, signals_append, hnodes, checkQuorum_on]

/-- **Node and quorum alerts follow the last reconcile** exactly when what changes is reported. -/
theorem node_alerts_follow_iff {w : Watched Nodes} {is : List ((NodeOp × Sending) × (Nat → Handling))}
    (hundisturbed : w.Undisturbed NodeOp.perform is) :
    Passes.Along (Watched.step NodeOp.perform) FollowsNodes w is ↔
      Passes.Along (Watched.step NodeOp.perform) Reported w is := by
  refine Passes.along_iff_of_inv (J := fun _ => True) hundisturbed ?_ trivial
  rintro w ⟨⟨op, x⟩, h⟩ - hears -
  refine ⟨?_, fun _ => trivial⟩
  have hholds := Watched.step_holds hears
  unfold FollowsNodes Reported
  cases op with
  | replaceNodesForAgent => rfl
  | reconcile nodes =>
    simp only [hholds, NodeOp.perform, reconcile_quorum]
    refine and_congr (forall_congr' fun n => forall_congr' fun hn => ?_) ?_
    · subst hn
      have hsent : signals (reconcile x w.service [n]).2 = signals
        ((getNodeByNodeID x w.service n.nodeID).toList.flatMap (detectTransitions x · n)) ++ signals
          (checkQuorum x [n]) := by
        simp [reconcile, reconcileNode, signals_append]
      rw [hsent]
      have hdown : nodeDownKey ≠ quorumKey := by decide
      have hdrain : nodeDrainKey ≠ quorumKey := by decide
      cases getNodeByNodeID x w.service n.nodeID with
      | none => simp [checkQuorum_on, hdown, hdrain, signals_nil]
      | some =>
        simp [checkQuorum_on, hdown, hdrain, detectTransitions_on, ite_eq_left_iff, or_iff_not_imp_right]
    · by_cases hdegraded : Degraded nodes <;> simp [hdegraded]

def sampleNode (role status : String) : SwarmNode := ⟨"", "n", "host", role, status, "active"⟩

def nodeCall (role status id : String) : (NodeOp × Sending) × (Nat → Handling) :=
  ((.reconcile [sampleNode role status], sampleSending 0), fun _ => .plain id)

def idleNodes : Watched Nodes := ⟨.empty, .idle .empty⟩

/-- A worker that is ready when it is first seen, goes down and comes back. -/
theorem node_seen_ready : Passes.Along (Watched.step NodeOp.perform) FollowsNodes idleNodes
    [nodeCall "worker" "ready" "a", nodeCall "worker" "down" "b", nodeCall "worker" "ready" "c"] :=
  (node_alerts_follow_iff (by decide)).mpr ⟨⟨fun n hn => by cases hn; decide, by decide⟩,
    ⟨fun n hn => by cases hn; decide, by decide⟩, ⟨fun n hn => by cases hn; decide, by decide⟩, trivial⟩

/-- A node that is down when it is first seen has no alert; and the alert of the quorum it takes stays
    once it is back. -/
theorem node_seen_down :
    let calls := [nodeCall "manager" "down" "a", nodeCall "manager" "ready" "b"]
    idleNodes.Undisturbed NodeOp.perform calls ∧
      (idleNodes.run NodeOp.perform (calls.take 1)).engine.holds nodeDownKey = false ∧
      (idleNodes.run NodeOp.perform calls).engine.holds quorumKey = true ∧
      ¬Degraded [sampleNode "manager" "ready"] := by
  decide

/-! ## 3. One alert for each entity -/

/-- The entities that fail under each key of the engine, by the events about them. -/
abbrev Failing := ActiveAlertKey → String → Bool

def Failing.after (f : Failing) (e : Emission) : Failing :=
  Function.update f e.evt.key (Function.update (f e.evt.key) e.entity !e.evt.isRecover)

/-- One event, in the order of emission. -/
def deliver (h : Nat → Handling) (w : Watched Failing) (p : Emission × Nat) : Watched Failing :=
  ⟨w.service.after p.1, w.engine.take (h p.2) (.event p.1.evt)⟩

/-- An alert is held exactly for a failing entity, and no two entities share one. -/
def PerEntity (w : Watched Failing) : Prop :=
  ∀ k, (w.engine.holds k = true ↔ ∃ e, w.service k e = true) ∧
    ∀ e e', w.service k e = true → w.service k e' = true → e = e'

/-- No other entity fails under the event's key. -/
def Alone (w : Watched Failing) (p : Emission × Nat) : Prop :=
  ∀ e, e ≠ p.1.entity → w.service p.1.evt.key e = false

theorem perEntity_deliver {h : Nat → Handling} {w : Watched Failing} {p : Emission × Nat}
    (hears : w.engine.Hears (h p.2) (.event p.1.evt)) (hw : PerEntity w) : PerEntity (deliver h w p) ↔ Alone w p := by
  have hholds : ∀ k, (deliver h w p).engine.holds k = if p.1.evt.key = k then !p.1.evt.isRecover
    else w.engine.holds k :=
    Engine.take_holds hears
  have hfails : ∀ k e, (deliver h w p).service k e =
      if k = p.1.evt.key ∧ e = p.1.entity then !p.1.evt.isRecover else w.service k e := by
    intro k e
    simp only [deliver, Failing.after, Function.update_apply]
    split_ifs <;> simp_all
  constructor
  · intro h' e he
    obtain ⟨hheld, hsame⟩ := h' p.1.evt.key
    by_contra hfail
    have hother : (deliver h w p).service p.1.evt.key e = true := by simpa [hfails, he] using hfail
    cases hr : p.1.evt.isRecover with
    | true => simpa [hholds, hr] using hheld.mpr ⟨e, hother⟩
    | false => exact he (hsame e p.1.entity hother (by simp [hfails, hr]))
  · intro halone k
    by_cases hk : k = p.1.evt.key
    · subst hk
      have honly : ∀ e, (deliver h w p).service p.1.evt.key e = true ↔ e = p.1.entity ∧
        p.1.evt.isRecover = false := by
        intro e
        by_cases he : e = p.1.entity
        · simp [hfails, he]
        · simp [hfails, he, halone e he]
      simp only [hholds, honly]
      exact ⟨by simp, fun e e' he he' => he.1.trans he'.1.symm⟩
    · simpa [hholds, hfails, hk, Ne.symm hk] using hw k

/-- **Each failing entity has an alert of its own** exactly as long as no event comes while another entity
    fails under its key. -/
theorem swarm_alerts_per_entity_iff {d : Detectors} {calls : List (Op × Sending)} {h : Nat → Handling}
    {t : AlertTable}
    (hheard : Passes.Along (deliver h) (fun w p => w.engine.Hears (h p.2) (.event p.1.evt))
      ⟨fun _ _ => false, .idle t⟩ (emissions d calls).zipIdx) :
    (∀ n, PerEntity (((emissions d calls).zipIdx.take n).foldl (deliver h) ⟨fun _ _ => false, .idle t⟩)) ↔
      Passes.Along (deliver h) Alone ⟨fun _ _ => false, .idle t⟩ (emissions d calls).zipIdx := by
  refine Passes.prefixes_iff hheard (fun w p _ hears hw => perEntity_deliver hears hw) fun k => ?_
  simp [Engine.idle_holds]

def idleDetectors : Detectors := ⟨∅, fun _ => none, fun _ => false, .empty⟩

def twoChecks (calls : List (Int × Int)) : List (Op × Sending) :=
  calls.zipIdx.map fun p =>
    (.check [sampleService "s" p.1.1, sampleService "t" p.1.2], sampleSending (p.2 * defaultReplicaAlertDelay))

/-- One of them fails and recovers, and then the other one fails. -/
theorem one_service_fails :
    PerEntity (((emissions idleDetectors (twoChecks [(1, 2), (1, 2), (2, 2), (2, 1), (2, 1)])).zipIdx.take 3).foldl
      (deliver fun n => .plain (toString n)) ⟨fun _ _ => false, .idle .empty⟩) := by
  refine (swarm_alerts_per_entity_iff (by decide)).mpr ?_ 3
  refine ⟨fun _ _ => rfl, fun e he => ?_, fun e he => ?_, trivial⟩
  · have hs : e ≠ "s" := he
    show Function.update (fun _ => false) "s" true e = false
    rw [Function.update_of_ne hs]
  · show Function.update (Function.update (fun _ => false) "s" true) "s" false e = false
    by_cases hs : e = "s"
    · rw [hs, Function.update_self]
    · rw [Function.update_of_ne hs, Function.update_of_ne hs]

/-- Two services fail, and the recovery of one resolves the alert of the other. -/
theorem two_services_fail :
    let w := (emissions idleDetectors (twoChecks [(1, 1), (1, 1), (1, 2)])).zipIdx.foldl
      (deliver fun n => .plain (toString n)) ⟨fun _ _ => false, .idle .empty⟩
    w.service replicaKey "s" = true ∧ w.engine.holds replicaKey = false := by
  decide

end Maintenant.Swarm
