/-
  File:      Maintenant/App/Wiring.lean
  Subject:   FROM THE SERVICES TO THE ALERT ENGINE (internal/app/wiring.go: the callbacks of the
             container and the resource service), and what of it a replay sets off.

  An agent that was cut off drains its spool later; the server flags these events `Replayed`. They
  are history: rows are written, nobody is alerted.

  * `sent` -- the alert events one message sends;
  * `replay_silent` -- which replayed messages send none and move no counter (`Quiet`);
  * `replay_alerts` -- a container's old health and an old sample do.
-/
import Maintenant.Alert.Model
import Maintenant.Resource.Service

namespace Maintenant.App

open GoTime Alerting Containers

/-! ## 1. The callbacks -/

/-- What the callbacks look up: the clock, the text of a derived id, a map as JSON. -/
structure Texts (α : Type) where
  now : Time
  uid : ContainerID → String
  health : ContainerID → HealthStatus → Option HealthStatus → Time → Except Unit String
  sample : Resources.Emitted α → Except Unit String
  restarts : RestartAlert → Except Unit String

def criticalRestartMultiplier : Int := 3

section Callbacks

variable {α : Type} (x : Texts α)

/-- The alert events of the container callback. -/
def containerAlerts : Containers.Emitted → List Event
  | .restartAlert ra =>
    [{ source := "container"
       alertType := "restart_loop"
       severity := if ra.threshold * criticalRestartMultiplier ≤ ra.restartCount then "critical"
         else "warning"
       isRecover := false
       message := "Container " ++ ra.containerName ++ " exceeded restart threshold (" ++
         toString ra.restartCount ++ "/" ++ toString ra.threshold ++ ")"
       entityType := "container"
       entityID := x.uid ra.containerID
       entityName := ra.containerName
       details := some (x.restarts ra)
       timestamp := ra.timestamp }]
  | .restartRecover id name _ =>
    [{ source := "container"
       alertType := "restart_loop"
       severity := "info"
       isRecover := true
       message := "Container " ++ name ++ " restart rate returned to normal"
       entityType := "container"
       entityID := x.uid id
       entityName := name
       details := none
       timestamp := x.now }]
  | .healthChanged id health previous t =>
    let event (severity message : String) (isRecover : Bool) : Event :=
      { source := "container"
        alertType := "health_unhealthy"
        severity := severity
        isRecover := isRecover
        message := message
        entityType := "container"
        entityID := x.uid id
        entityName := ""
        details := some (x.health id health previous t)
        timestamp := x.now }
    if previous = some .healthy ∧ health = .unhealthy then
      [event "warning" "Container became unhealthy" false]
    else if previous = some .unhealthy ∧ health = .healthy then
      [event "info" "Container recovered to healthy" true]
    else []
  | .stateChanged .. | .archived .. | .discovered _ => []

/-- The alert events of the resource callback. -/
def resourceAlerts (e : Resources.Emitted α) : List Event :=
  match e with
  | .snapshot .. => []
  | .alert id name type _ _ _ =>
    [{ source := "resource"
       alertType := type.text ++ "_threshold"
       severity := "warning"
       isRecover := false
       message := "Resource " ++ type.text ++ " threshold exceeded for container " ++ name
       entityType := "container"
       entityID := x.uid id
       entityName := name
       details := some (x.sample e)
       timestamp := x.now }]
  | .recovery id name type _ _ _ =>
    [{ source := "resource"
       alertType := type.text ++ "_threshold"
       severity := "info"
       isRecover := true
       message := "Resource usage returned to normal for container " ++ name
       entityType := "container"
       entityID := x.uid id
       entityName := name
       details := some (x.sample e)
       timestamp := x.now }]

end Callbacks

/-! ## 2. A message of the drain -/

/-- The two services. -/
structure World (α : Type) where
  containers : Containers.Service
  resources : Resources.Service α

/-- What a drain pushes: what happened to a container, or a resource sample. -/
inductive Drained (α : Type) where
  | container (agentID : String) (ev : WireContainer) (observedAt : Time)
  | resource (agentID : String) (ev : Resources.ResourceSample α) (observedAt : Time)

section Replay

variable {α : Type} (F : Resources.Floats α) (env : Env) (x : Texts α)

/-- The message is handled, flagged as replayed. -/
def World.replay (w : World α) : Drained α → World α
  | .container agentID ev t =>
    { w with containers := (w.containers.handleAgentEvent env agentID ev ⟨t, true⟩).1 }
  | .resource agentID ev t =>
    let resources := w.resources.handleAgentEvent F env.now w.containers agentID ev ⟨t, true⟩
    { w with resources := resources }

/-- The alert events between two states: what the callbacks make of what has been handed to them
    since. -/
def sent (w w' : World α) : List Event :=
  (w'.containers.emitted.drop w.containers.emitted.length).flatMap (containerAlerts x) ++
    (w'.resources.emitted.drop w.resources.emitted.length).flatMap (resourceAlerts x)

/-- The alerts a replay must not set off. -/
def alertTypes : List String := ["health_unhealthy", "restart_loop", "cpu_threshold", "memory_threshold"]

/-- No such event, raising or recovering, reaches the engine, and no breach counter moves. -/
structure Silent (w w' : World α) : Prop where
  events : ∀ e ∈ sent x w w', e.alertType ∉ alertTypes
  counters : ∀ id, w'.resources.counters id = w.resources.counters id

/-- The health goes from healthy to unhealthy, or back. -/
def Flips (old new : Option HealthStatus) : Prop :=
  (old = some .healthy ∧ new = some .unhealthy) ∨ (old = some .unhealthy ∧ new = some .healthy)

/-- **A message that leaves the alerts alone.** Of a container: it brings no health that flips the
    stored one. A sample: it is a host's, or of a container that is unknown or has no thresholds, or
    finds its thresholds idle with no alert of one metric standing. -/
def Quiet (w : World α) : Drained α → Prop
  | .container agentID ev _ =>
    ev.containerID = "" ∨ ev.destroyed = true ∨
      ∀ c, w.containers.lookup agentID ev.containerID = some c →
        ¬Flips c.healthStatus (HealthStatus.ofText ev.healthStatus)
  | .resource agentID ev t =>
    ev.containerID = "" ∨ ∀ c, w.containers.lookup agentID ev.containerID = some c →
      ∀ cfg, w.resources.active c.id = some cfg →
        cfg.Idle F (Resources.Service.snapshotOf agentID c ev ⟨t, true⟩) ∧
          (cfg.alertState = .normal ∨ cfg.alertState = .both)

variable {F env x} {w : World α} {agentID : String} {t : Time}

theorem health_listed : "health_unhealthy" ∈ alertTypes := List.mem_cons_self

theorem containerAlerts_healthChanged (id : ContainerID) (new : HealthStatus) (old : Option HealthStatus) (t : Time) :
    (∀ e ∈ containerAlerts x (.healthChanged id new old t), e.alertType ∉ alertTypes) ↔
    ¬Flips old (some new) := by
  unfold containerAlerts Flips
  simp only [Option.some.injEq]
  by_cases hdown : old = some .healthy ∧ new = .unhealthy
  · rw [if_pos hdown]
    exact iff_of_false (fun h => h _ (List.mem_singleton_self _) health_listed) (fun h => h (.inl hdown))
  · rw [if_neg hdown]
    by_cases hup : old = some .unhealthy ∧ new = .healthy
    · rw [if_pos hup]
      exact iff_of_false (fun h => h _ (List.mem_singleton_self _) health_listed) (fun h => h (.inr hup))
    · rw [if_neg hup]
      exact iff_of_true (List.forall_mem_nil _) (not_or.mpr ⟨hdown, hup⟩)

theorem not_flips_self (h : Option HealthStatus) : ¬Flips h h := by
  rintro (⟨h₁, h₂⟩ | ⟨h₁, h₂⟩) <;> cases h₁.symm.trans h₂

theorem not_flips_none (h : Option HealthStatus) : ¬Flips h none := by
  rintro (⟨-, h⟩ | ⟨-, h⟩) <;> cases h

/-- What the callback makes of the health in a message. -/
theorem tells_health (c : Container) (ev : WireContainer) (m : Meta) :
    (∀ e ∈ ((c.touched ev).tells (healthEvent agentID ev m)
        (ev.healthEffect c.healthStatus)).flatMap (containerAlerts x), e.alertType ∉ alertTypes) ↔
      ¬Flips c.healthStatus (HealthStatus.ofText ev.healthStatus) := by
  unfold WireContainer.healthEffect
  cases HealthStatus.ofText ev.healthStatus with
  | none => exact iff_of_true (List.forall_mem_nil _) (not_flips_none _)
  | some new =>
    dsimp only [Option.elim]
    by_cases hsame : c.healthStatus = some new
    · rw [if_pos hsame, hsame]
      exact iff_of_true (List.forall_mem_nil _) (not_flips_self _)
    · rw [if_neg hsame]
      dsimp only [Container.tells]
      rw [List.flatMap_singleton]
      exact containerAlerts_healthChanged c.id new c.healthStatus _

/-- What is sent for what one of the two services has added to its log. -/
theorem sent_eq (w w' : World α) {es : List Containers.Emitted} {rs : List (Resources.Emitted α)}
    (hc : w'.containers.emitted = w.containers.emitted ++ es) (hr : w'.resources.emitted = w.resources.emitted ++ rs) :
    sent x w w' = es.flatMap (containerAlerts x) ++ rs.flatMap (resourceAlerts x) := by
  rw [sent, hc, hr, List.drop_left, List.drop_left]

/-- The alerts of what a replayed message hands to the container callback. -/
theorem heard_listed {s : Containers.Service} {ev : WireContainer} {m : Meta} :
    (∀ e ∈ (s.heard env agentID ev m).flatMap (containerAlerts x), e.alertType ∉ alertTypes) ↔
      ev.containerID = "" ∨ ev.destroyed = true ∨ ∀ c, s.lookup agentID ev.containerID = some c →
        ¬Flips c.healthStatus (HealthStatus.ofText ev.healthStatus) := by
  unfold Containers.Service.heard
  by_cases hid : ev.containerID = ""
  · rw [if_pos hid]
    exact iff_of_true (List.forall_mem_nil _) (.inl hid)
  rw [if_neg hid, or_iff_right hid]
  cases hc : s.lookup agentID ev.containerID with
  | none =>
    refine iff_of_true ?_ (.inr fun c hsome => nomatch hsome)
    dsimp only
    split <;> exact List.forall_mem_nil _
  | some c =>
    dsimp only
    cases ev.destroyed with
    | true => exact iff_of_true (List.forall_mem_nil _) (.inl rfl)
    | false =>
      rw [if_neg Bool.false_ne_true, tells_health, or_iff_right Bool.false_ne_true]
      exact ⟨fun h c' hc' => Option.some.inj hc' ▸ h, fun h => h c rfl⟩

theorem replay_container (ev : WireContainer) :
    Silent x w (w.replay F env (.container agentID ev t)) ↔ Quiet F w (.container agentID ev t) := by
  have hsent : sent x w (w.replay F env (.container agentID ev t)) =
      (w.containers.heard env agentID ev ⟨t, true⟩).flatMap (containerAlerts x) ++ [] :=
    sent_eq w (w.replay F env (.container agentID ev t)) (handleAgentEvent_emitted rfl)
      (List.append_nil w.resources.emitted).symm
  rw [List.append_nil] at hsent
  constructor
  · intro h
    have hlisted := h.events
    rw [hsent] at hlisted
    exact heard_listed.mp hlisted
  · intro h
    refine ⟨?_, fun _ => rfl⟩
    rw [hsent]
    exact heard_listed.mpr h

/-- A recovery that is announced while the row is idle. -/
theorem recovery_listed (id : ContainerID) (name : String) (st : Resources.AlertState) (v v' : α) :
    (∀ e ∈ (if st = .normal then [] else [Resources.Emitted.recovery id name st.recovered v v' t]).flatMap
        (resourceAlerts x), e.alertType ∉ alertTypes) ↔ st = .normal ∨ st = .both := by
  cases st with
  | normal => exact iff_of_true (List.forall_mem_nil _) (.inl rfl)
  | both =>
    refine iff_of_true (fun e he => ?_) (.inr rfl)
    rw [List.mem_singleton.mp he]
    show "both" ++ "_threshold" ∉ alertTypes
    decide
  | cpu =>
    refine iff_of_false (fun h => h _ (List.mem_singleton_self _) ?_) (by decide)
    show "cpu" ++ "_threshold" ∈ alertTypes
    decide
  | memory =>
    refine iff_of_false (fun h => h _ (List.mem_singleton_self _) ?_) (by decide)
    show "memory" ++ "_threshold" ∈ alertTypes
    decide

/-- A replayed sample of a stored container. -/
theorem replay_snapshot {snap : Resources.ResourceSnapshot α} (hreplayed : snap.replayed = true) :
    Silent x w ⟨w.containers, w.resources.processSnapshot F env.now w.containers snap⟩ ↔
      ∀ cfg, w.resources.active snap.containerID = some cfg →
        cfg.Idle F snap ∧ (cfg.alertState = .normal ∨ cfg.alertState = .both) := by
  have hprocess : w.resources.processSnapshot F env.now w.containers snap =
      Resources.Service.evaluateAlerts F env.now w.containers
        { w.resources with snapshots := w.resources.snapshots ++ [snap] } snap := by
    unfold Resources.Service.processSnapshot
    dsimp only
    rw [if_pos hreplayed]
  rw [hprocess]
  generalize hstored : ({ w.resources with
    snapshots := w.resources.snapshots ++ [snap] } : Resources.Service α) = r
  have hemitted : r.emitted = w.resources.emitted := hstored ▸ rfl
  have hcounters : r.counters = w.resources.counters := hstored ▸ rfl
  have hactive : r.active = w.resources.active := hstored ▸ rfl
  rw [← hactive]
  cases hcfg : r.active snap.containerID with
  | none =>
    rw [Resources.evaluateAlerts_inactive hcfg]
    refine iff_of_true ⟨?_, fun id => congrFun hcounters id⟩ (fun cfg h => nomatch h)
    rw [sent_eq w ⟨w.containers, r⟩ (List.append_nil _).symm
      (hemitted.trans (List.append_nil _).symm)]
    exact List.forall_mem_nil _
  | some cfg =>
    obtain ⟨name, hsaid⟩ : ∃ name, (r.evaluateAlerts F env.now w.containers snap).emitted =
        r.emitted ++ cfg.announced F snap name env.now := Resources.evaluateAlerts_emitted hcfg
    have hidle : (∀ id, (r.evaluateAlerts F env.now w.containers snap).counters id = r.counters id) ↔
        cfg.Idle F snap := Resources.counters_unmoved hcfg
    have hsent := sent_eq (x := x) w ⟨w.containers, r.evaluateAlerts F env.now w.containers snap⟩
      (List.append_nil _).symm (hemitted ▸ hsaid)
    simp only [Option.some.injEq, forall_eq']
    constructor
    · intro h
      have hi := hidle.mp fun id => (h.counters id).trans (congrFun hcounters id).symm
      refine ⟨hi, ?_⟩
      have hlisted := h.events
      rw [hsent, Resources.announced_of_idle hi] at hlisted
      exact (recovery_listed _ _ _ _ _).mp hlisted
    · rintro ⟨hi, hstate⟩
      refine ⟨?_, fun id => (hidle.mpr hi id).trans (congrFun hcounters id)⟩
      rw [hsent, Resources.announced_of_idle hi]
      exact (recovery_listed _ _ _ _ _).mpr hstate

/-- **Which replays are silent.** -/
theorem replay_silent (w : World α) (d : Drained α) : Silent x w (w.replay F env d) ↔ Quiet F w d := by
  cases d with
  | container _ ev => exact replay_container ev
  | resource agentID ev t =>
    have hkeep : w.resources.handleAgentEvent F env.now w.containers agentID ev ⟨t, true⟩ =
        w.resources → Silent x w (w.replay F env (.resource agentID ev t)) := by
      intro h
      have hworld : w.replay F env (.resource agentID ev t) = w := congrArg (World.mk w.containers) h
      rw [hworld]
      refine ⟨?_, fun _ => rfl⟩
      rw [sent_eq w w (List.append_nil _).symm (List.append_nil _).symm]
      exact List.forall_mem_nil _
    by_cases hid : ev.containerID = ""
    · refine iff_of_true (hkeep ?_) (.inl hid)
      unfold Resources.Service.handleAgentEvent
      rw [if_pos hid]
      exact if_pos (.inr rfl)
    cases hc : w.containers.lookup agentID ev.containerID with
    | none =>
      refine iff_of_true (hkeep ?_) (.inr fun c h => nomatch hc.symm.trans h)
      unfold Resources.Service.handleAgentEvent
      rw [if_neg hid, hc]
    | some c =>
      have hworld : w.replay F env (.resource agentID ev t) =
          ⟨w.containers, w.resources.processSnapshot F env.now w.containers
            (Resources.Service.snapshotOf agentID c ev ⟨t, true⟩)⟩ := by
        refine congrArg (World.mk w.containers) ?_
        unfold Resources.Service.handleAgentEvent
        rw [if_neg hid, hc]
      rw [hworld, replay_snapshot rfl]
      dsimp only [Quiet]
      rw [or_iff_right hid, hc]
      simp only [Option.some.injEq, forall_eq']
      exact Iff.rfl

end Replay

/-! ## 3. Two replays that are not -/

/-- A healthy container of agent a1, its CPU over the threshold once before. -/
def sampleWorld : World Nat where
  containers := ⟨⟨[{ sampleRow "a1" with healthStatus := some .healthy }], List.nodup_singleton _⟩, [], []⟩
  resources :=
    ⟨[], ⟨[⟨⟨"a1", "web"⟩, 80, 80, true, .normal, 1, 0, none⟩], List.nodup_singleton _⟩, ∅, []⟩

def sampleFloats : Resources.Floats Nat :=
  ⟨0, fun a b => decide (b ≤ a), fun used limit => (used * 100 / limit).toNat⟩

/-- An hour-old report that the container is unhealthy. -/
def oldHealth : Drained Nat :=
  .container "a1" ⟨"web", "web", "nginx", .unspecified, "", ∅, "unhealthy", true, false, none⟩ 0

/-- An hour-old sample, the CPU at 95 %. -/
def oldSample : Drained Nat := .resource "a1" ⟨"web", 95, 10, 100, 0, 0, 0, 0, 0, 0⟩ 0

def sampleTexts : Texts Nat :=
  ⟨0, fun _ => "", fun _ _ _ _ => .ok "", fun _ => .ok "", fun _ => .ok ""⟩

/-- **Replays that alert**: the health event pays no attention to the flag, nor does the
    evaluation of a sample, which goes on counting and raises its alert. -/
theorem replay_alerts :
    (sent sampleTexts sampleWorld (sampleWorld.replay sampleFloats sampleEnv oldHealth)).map
        Event.alertType = ["health_unhealthy"] ∧
      (sent sampleTexts sampleWorld (sampleWorld.replay sampleFloats sampleEnv oldSample)).map
        Event.alertType = ["cpu_threshold"] ∧
      (sampleWorld.replay sampleFloats sampleEnv oldSample).resources.counters ⟨"a1", "web"⟩ =
        some (2, 0) := by
  decide

end Maintenant.App
