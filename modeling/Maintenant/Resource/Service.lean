/-
  File:      Maintenant/Resource/Service.lean
  Subject:   RESOURCE SAMPLES AND THEIR THRESHOLDS (internal/resource/agent_event.go,
             host_registry.go: `RecordHostSample`, service.go: `processSnapshot`,
             `evaluateAlerts`).

  The measurements are `float64`; what is used of them is an order test and one quotient
  (`Floats`), so the numbers are a parameter.

  * `AlertConfig.evaluated`, `AlertConfig.announced` -- a threshold's row after a sample, and what
    is handed to the callback;
  * `counters_evaluated` -- when the counters of a row stay where they are (`AlertConfig.Idle`);
  * `announced_of_idle` -- what is announced then;
  * `evaluateAlerts_counters`, `evaluateAlerts_emitted` -- `evaluateAlerts` is these two.
-/
import Maintenant.Container.Agent

namespace Maintenant.Resources

open GoTime Containers

/-! ## 1. Data -/

/-- What is used of `float64`: the constant `0.0`, `>=`, and
    `float64(used) / float64(limit) * 100.0`. -/
structure Floats (α : Type) where
  zero : α
  ge : α → α → Bool
  percent : Int → Int → α

/-- `agentpb.ResourceSample`. -/
structure ResourceSample (α : Type) where
  containerID : String
  cpuPercent : α
  memoryBytes : UInt64
  memoryLimitBytes : UInt64
  networkRxBytes : UInt64
  networkTxBytes : UInt64
  diskReadBytes : UInt64
  diskWriteBytes : UInt64
  hostDiskTotalBytes : UInt64
  hostDiskUsedBytes : UInt64

structure ResourceSnapshot (α : Type) where
  containerID : ContainerID
  cpuPercent : α
  memUsed : Int
  memLimit : Int
  netRxBytes : Int
  netTxBytes : Int
  blockReadBytes : Int
  blockWriteBytes : Int
  timestamp : Time
  replayed : Bool
  agentID : String

structure HostSample (α : Type) where
  agentID : String
  cpuPercent : α
  memUsed : Int
  memTotal : Int
  diskTotal : UInt64
  diskUsed : UInt64
  timestamp : Time
  replayed : Bool

inductive AlertState where
  | normal
  | cpu
  | memory
  | both
deriving DecidableEq, Repr

/-- `alert_type` and `recovered_type`. -/
inductive Metric where
  | cpu
  | memory
  | both
deriving DecidableEq, Repr

def Metric.text : Metric → String
  | .cpu => "cpu"
  | .memory => "memory"
  | .both => "both"

/-- A row of resource_alert_configs. -/
structure AlertConfig (α : Type) where
  containerID : ContainerID
  cpuThreshold : α
  memThreshold : α
  enabled : Bool
  alertState : AlertState
  cpuConsecutiveBreaches : Int
  memConsecutiveBreaches : Int
  lastAlertedAt : Option Int

/-- What the service hands to its callback. -/
inductive Emitted (α : Type) where
  | snapshot (snap : ResourceSnapshot α) (memPercent : α)
  | alert (containerID : ContainerID) (containerName : String) (alertType : Metric)
      (currentValue threshold : α) (timestamp : Time)
  | recovery (containerID : ContainerID) (containerName : String) (recoveredType : Metric)
      (currentValue threshold : α) (timestamp : Time)

/-- The tables, the registry of host samples, and what was handed to the callback. -/
structure Service (α : Type) where
  snapshots : List (ResourceSnapshot α)
  configs : Table (@AlertConfig.containerID α)
  hosts : AList fun _ : String => HostSample α
  emitted : List (Emitted α)

/-! ## 2. Thresholds -/

section Thresholds

variable {α : Type} (F : Floats α)

def memPercent (snap : ResourceSnapshot α) : α :=
  if 0 < snap.memLimit then F.percent snap.memUsed snap.memLimit else F.zero

/-- A counter of breaches in a row. -/
def breaches (breaching : Bool) (consecutive : Int) : Int := if breaching then consecutive + 1 else 0

/-- The `switch` on the two alerts. -/
def AlertState.of : Bool → Bool → AlertState
  | true, true => .both
  | true, false => .cpu
  | false, true => .memory
  | false, false => .normal

/-- The metric a recovery names. -/
def AlertState.recovered : AlertState → Metric
  | .memory => .memory
  | .both => .both
  | .cpu | .normal => .cpu

namespace AlertConfig

variable (cfg : AlertConfig α) (snap : ResourceSnapshot α)

def cpuBreaches : Int := breaches (F.ge snap.cpuPercent cfg.cpuThreshold) cfg.cpuConsecutiveBreaches

def memBreaches : Int :=
  breaches (F.ge (memPercent F snap) cfg.memThreshold) cfg.memConsecutiveBreaches

def cpuAlert : Bool := decide (2 ≤ cfg.cpuBreaches F snap)

def memAlert : Bool := decide (2 ≤ cfg.memBreaches F snap)

def newState : AlertState := .of (cfg.cpuAlert F snap) (cfg.memAlert F snap)

/-- The state leaves normal. -/
def raises : Bool := cfg.newState F snap != .normal && cfg.alertState == .normal

/-- The state returns to normal. -/
def recovers : Bool := cfg.newState F snap == .normal && cfg.alertState != .normal

/-- The row after a sample. -/
def evaluated (now : Time) : AlertConfig α :=
  { cfg with
    cpuConsecutiveBreaches := cfg.cpuBreaches F snap
    memConsecutiveBreaches := cfg.memBreaches F snap
    alertState := cfg.newState F snap
    lastAlertedAt := if cfg.raises F snap then some (unix now) else cfg.lastAlertedAt }

/-- What is announced; `name` is the container's name. -/
def announced (name : String) (now : Time) : List (Emitted α) :=
  (if cfg.raises F snap && cfg.cpuAlert F snap then
    [.alert snap.containerID name .cpu snap.cpuPercent cfg.cpuThreshold now] else []) ++
  (if cfg.raises F snap && cfg.memAlert F snap then
    [.alert snap.containerID name .memory (memPercent F snap) cfg.memThreshold now] else []) ++
  (if cfg.recovers F snap then
    [.recovery snap.containerID name cfg.alertState.recovered snap.cpuPercent cfg.cpuThreshold now]
  else [])

end AlertConfig

/-! ## 3. The service -/

namespace Service

variable (now : Time) (containers : Containers.Service) (s : Service α)

/-- `UpsertAlertConfig`. -/
def upsertAlertConfig (cfg : AlertConfig α) : Service α :=
  match s.configs.insert cfg with
  | some t => { s with configs := t }
  | none =>
    let configs := s.configs.update (fun r => r.containerID == cfg.containerID)
      (fun r => { cfg with containerID := r.containerID }) fun _ => rfl
    { s with configs := configs }

def emit (es : List (Emitted α)) : Service α := { s with emitted := s.emitted ++ es }

def evaluateAlerts (snap : ResourceSnapshot α) : Service α :=
  match s.configs.get snap.containerID with
  | none => s
  | some cfg =>
    if cfg.enabled then
      let name := if cfg.newState F snap = cfg.alertState then ""
        else ((containers.containers.get snap.containerID).map Container.name).getD ""
      (s.emit (cfg.announced F snap name now)).upsertAlertConfig (cfg.evaluated F snap now)
    else s

def processSnapshot (snap : ResourceSnapshot α) : Service α :=
  let s := { s with snapshots := s.snapshots ++ [snap] }
  let s := if snap.replayed then s else s.emit [.snapshot snap (memPercent F snap)]
  s.evaluateAlerts F now containers snap

/-- `RecordHostSample`: neither a replay nor a late sample replaces what is there. -/
def recordHostSample (sample : HostSample α) : Service α :=
  if sample.agentID = "" ∨ sample.replayed then s
  else if (s.hosts.lookup sample.agentID).any fun current => decide (sample.timestamp < current.timestamp)
    then s
  else { s with hosts := s.hosts.insert sample.agentID sample }

/-- `clampInt64`. -/
def clampInt64 (v : UInt64) : Int := if 2 ^ 63 - 1 < v.toNat then 2 ^ 63 - 1 else v.toNat

/-- The snapshot of a sample of a stored container. -/
def snapshotOf (agentID : String) (c : Container) (ev : ResourceSample α) (m : Meta) :
    ResourceSnapshot α where
  containerID := c.id
  cpuPercent := ev.cpuPercent
  memUsed := clampInt64 ev.memoryBytes
  memLimit := clampInt64 ev.memoryLimitBytes
  netRxBytes := clampInt64 ev.networkRxBytes
  netTxBytes := clampInt64 ev.networkTxBytes
  blockReadBytes := clampInt64 ev.diskReadBytes
  blockWriteBytes := clampInt64 ev.diskWriteBytes
  timestamp := m.observedAt
  replayed := m.replayed
  agentID := uidAgent agentID

/-- The host sample in a sample that names no container. -/
def hostSampleOf (agentID : String) (ev : ResourceSample α) (m : Meta) : HostSample α where
  agentID := agentID
  cpuPercent := ev.cpuPercent
  memUsed := clampInt64 ev.memoryBytes
  memTotal := clampInt64 ev.memoryLimitBytes
  diskTotal := ev.hostDiskTotalBytes
  diskUsed := ev.hostDiskUsedBytes
  timestamp := m.observedAt
  replayed := m.replayed

def handleAgentEvent (agentID : String) (ev : ResourceSample α) (m : Meta) : Service α :=
  if ev.containerID = "" then s.recordHostSample (hostSampleOf agentID ev m)
  else match containers.lookup agentID ev.containerID with
    | none => s
    | some c => s.processSnapshot F now containers (snapshotOf agentID c ev m)

end Service

/-! ## 4. Counters and announcements -/

/-- The two counters of a row. -/
def AlertConfig.counters (cfg : AlertConfig α) : Int × Int :=
  (cfg.cpuConsecutiveBreaches, cfg.memConsecutiveBreaches)

def Service.counters (s : Service α) (id : ContainerID) : Option (Int × Int) :=
  (s.configs.get id).map AlertConfig.counters

/-- Nothing is breached, and nothing has been. -/
structure AlertConfig.Idle (cfg : AlertConfig α) (snap : ResourceSnapshot α) : Prop where
  cpu : F.ge snap.cpuPercent cfg.cpuThreshold = false
  cpuCount : cfg.cpuConsecutiveBreaches = 0
  mem : F.ge (memPercent F snap) cfg.memThreshold = false
  memCount : cfg.memConsecutiveBreaches = 0

section Spec

variable {F} {cfg : AlertConfig α} {snap : ResourceSnapshot α} {now : Time} {s : Service α}
  {containers : Containers.Service}

theorem breaches_eq (b : Bool) (n : Int) : breaches b n = n ↔ b = false ∧ n = 0 := by
  cases b with
  | true =>
    simp only [breaches, if_true, Bool.true_eq_false, false_and, iff_false]
    omega
  | false => simp [breaches, eq_comm]

/-- **The counters stay where they are exactly when the row is idle.** -/
theorem counters_evaluated : (cfg.evaluated F snap now).counters = cfg.counters ↔ cfg.Idle F snap := by
  have hpair : (cfg.evaluated F snap now).counters = cfg.counters ↔
      cfg.cpuBreaches F snap = cfg.cpuConsecutiveBreaches ∧
        cfg.memBreaches F snap = cfg.memConsecutiveBreaches := Prod.mk.injEq .. ▸ Iff.rfl
  rw [hpair, AlertConfig.cpuBreaches, AlertConfig.memBreaches, breaches_eq, breaches_eq]
  constructor
  · rintro ⟨⟨hcpu, hcpu0⟩, hmem, hmem0⟩
    exact ⟨hcpu, hcpu0, hmem, hmem0⟩
  · intro h
    exact ⟨⟨h.cpu, h.cpuCount⟩, h.mem, h.memCount⟩

theorem newState_of_idle (h : cfg.Idle F snap) : cfg.newState F snap = .normal := by
  have hcpu : cfg.cpuAlert F snap = false := by
    rw [AlertConfig.cpuAlert, AlertConfig.cpuBreaches, h.cpu]
    rfl
  have hmem : cfg.memAlert F snap = false := by
    rw [AlertConfig.memAlert, AlertConfig.memBreaches, h.mem]
    rfl
  rw [AlertConfig.newState, hcpu, hmem]
  rfl

/-- An idle row announces no alert, but it does announce that an alert is over. -/
theorem announced_of_idle (h : cfg.Idle F snap) (name : String) :
    cfg.announced F snap name now = if cfg.alertState = .normal then [] else
      [.recovery snap.containerID name cfg.alertState.recovered snap.cpuPercent cfg.cpuThreshold now] := by
  have hraises : cfg.raises F snap = false := by
    rw [AlertConfig.raises, newState_of_idle h]
    rfl
  have hrecovers : cfg.recovers F snap = (cfg.alertState != .normal) := by
    rw [AlertConfig.recovers, newState_of_idle h]
    rfl
  unfold AlertConfig.announced
  rw [hraises, hrecovers]
  cases cfg.alertState <;> rfl

theorem upsertAlertConfig_get {old : AlertConfig α} (h : s.configs.get cfg.containerID = some old)
    (id : ContainerID) : (s.upsertAlertConfig cfg).configs.get id =
      if id = cfg.containerID then some cfg else s.configs.get id := by
  have htaken : s.configs.insert cfg = none :=
    Table.insert_eq_none.mpr (Table.hasKey_iff.mpr ⟨old, Table.get_eq_some.mp h⟩)
  have hold : old.containerID = cfg.containerID := (Table.get_eq_some.mp h).2
  unfold Service.upsertAlertConfig
  rw [htaken]
  rw [Table.get_update_key h, hold]

theorem upsertAlertConfig_emitted : (s.upsertAlertConfig cfg).emitted = s.emitted := by
  unfold Service.upsertAlertConfig
  split <;> rfl

/-- The thresholds a sample is held against: those of its container, when they are enabled. -/
def Service.active (s : Service α) (id : ContainerID) : Option (AlertConfig α) :=
  (s.configs.get id).filter AlertConfig.enabled

theorem evaluateAlerts_inactive (h : s.active snap.containerID = none) :
    s.evaluateAlerts F now containers snap = s := by
  unfold Service.evaluateAlerts
  rw [Service.active, Option.filter_eq_none_iff] at h
  cases hc : s.configs.get snap.containerID with
  | none => rfl
  | some cfg => exact if_neg (h cfg hc)

variable (h : s.active snap.containerID = some cfg)

include h

theorem evaluateAlerts_counters (id : ContainerID) : (s.evaluateAlerts F now containers snap).counters id =
      if id = snap.containerID then some (cfg.evaluated F snap now).counters else s.counters id := by
  obtain ⟨hcfg, henabled⟩ := Option.filter_eq_some_iff.mp h
  have hid : cfg.containerID = snap.containerID := (Table.get_eq_some.mp hcfg).2
  unfold Service.evaluateAlerts
  rw [hcfg]
  dsimp only
  rw [if_pos henabled, Service.counters, upsertAlertConfig_get (hid ▸ hcfg)]
  rw [show (cfg.evaluated F snap now).containerID = snap.containerID from hid]
  by_cases e : id = snap.containerID
  · rw [if_pos e, if_pos e]
    rfl
  · rw [if_neg e, if_neg e]
    rfl

/-- **The row of an enabled container after an evaluation.** -/
theorem evaluateAlerts_active :
    (s.evaluateAlerts F now containers snap).active snap.containerID = some (cfg.evaluated F snap now) := by
  obtain ⟨hcfg, henabled⟩ := Option.filter_eq_some_iff.mp h
  have hid : cfg.containerID = snap.containerID := (Table.get_eq_some.mp hcfg).2
  have hget : (s.evaluateAlerts F now containers snap).configs.get snap.containerID =
      some (cfg.evaluated F snap now) := by
    unfold Service.evaluateAlerts
    rw [hcfg]
    dsimp only
    rw [if_pos henabled, upsertAlertConfig_get (hid ▸ hcfg)]
    exact if_pos hid.symm
  exact Option.filter_eq_some_iff.mpr ⟨hget, henabled⟩

/-- An evaluation moves no counter exactly when it finds its thresholds idle. -/
theorem counters_unmoved :
    (∀ id, (s.evaluateAlerts F now containers snap).counters id = s.counters id) ↔ cfg.Idle F snap := by
  have hbefore : s.counters snap.containerID = some cfg.counters := by
    rw [Service.counters, (Option.filter_eq_some_iff.mp h).1]
    rfl
  have hstay : (cfg.evaluated F snap now).counters = cfg.counters ↔ cfg.Idle F snap :=
    counters_evaluated
  rw [← hstay]
  constructor
  · intro hall
    have hhere := hall snap.containerID
    rw [evaluateAlerts_counters h, if_pos rfl, hbefore] at hhere
    exact Option.some.inj hhere
  · intro hsame id
    rw [evaluateAlerts_counters h]
    split
    · next e => rw [e, hbefore, hsame]
    · rfl

theorem evaluateAlerts_emitted :
    ∃ name, (s.evaluateAlerts F now containers snap).emitted = s.emitted ++ cfg.announced F snap name now := by
  obtain ⟨hcfg, henabled⟩ := Option.filter_eq_some_iff.mp h
  unfold Service.evaluateAlerts
  rw [hcfg]
  dsimp only
  rw [if_pos henabled, upsertAlertConfig_emitted]
  exact ⟨_, rfl⟩

/-- What a snapshot is announced by before it is evaluated. -/
def noted (F : Floats α) (snap : ResourceSnapshot α) : List (Emitted α) :=
  if snap.replayed then [] else [.snapshot snap (memPercent F snap)]

/-- **A snapshot of an enabled container**: its row, and what is handed to the callback. -/
theorem processSnapshot_spec :
    (s.processSnapshot F now containers snap).active snap.containerID = some (cfg.evaluated F snap now) ∧
      ∃ name, (s.processSnapshot F now containers snap).emitted =
        s.emitted ++ (noted F snap ++ cfg.announced F snap name now) := by
  unfold Service.processSnapshot
  dsimp only
  generalize hs' : (if snap.replayed then { s with snapshots := s.snapshots ++ [snap] }
    else Service.emit { s with snapshots := s.snapshots ++ [snap] }
      [.snapshot snap (memPercent F snap)] : Service α) = s'
  have hactive : s'.active snap.containerID = some cfg := by
    rw [← hs', ← h]
    split <;> rfl
  have hemitted : s'.emitted = s.emitted ++ noted F snap := by
    rw [← hs', noted]
    split
    · exact (List.append_nil _).symm
    · rfl
  obtain ⟨name, hsaid⟩ : ∃ name, (s'.evaluateAlerts F now containers snap).emitted =
      s'.emitted ++ cfg.announced F snap name now := evaluateAlerts_emitted hactive
  refine ⟨evaluateAlerts_active hactive, name, ?_⟩
  rw [hsaid, hemitted, List.append_assoc]

end Spec

end Thresholds

end Maintenant.Resources
