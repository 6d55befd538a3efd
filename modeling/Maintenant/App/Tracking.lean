/-
  File:      Maintenant/App/Tracking.lean
  Subject:   DO THE ALERTS FOLLOW WHAT IS MEASURED? The resource service and the container service
             beside the alert engine (internal/resource/service.go: `evaluateAlerts`,
             internal/container/service.go: `handleHealthChange`, internal/app/wiring.go).

  Both callbacks look at changes only. What the engine holds follows the service exactly as long as
  every change is one they react to.

  * `resource_alerts_follow` -- the threshold alerts, over any snapshots of one container;
  * `health_alerts_follow` -- the health alert, over any health changes of one container.
-/
import Maintenant.App.Wiring
import Maintenant.Alert.Held
import Mathlib.Data.List.Induction

namespace Maintenant.App

open GoTime Alerting Containers

/-! ## 1. Two in a row -/

section Rows

variable {β : Type} (p : β → Bool)

/-- The last entry of the list meets `p`, and the one before it. -/
def lastTwo (l : List β) : Bool := l.getLast?.any p && l.dropLast.getLast?.any p

/-- A counter of breaches over a list. -/
def trailing (l : List β) : Int := l.foldl (fun n a => Resources.breaches (p a) n) 0

variable (l : List β)

theorem trailing_concat (a : β) : trailing p (l ++ [a]) = if p a then trailing p l + 1 else 0 := by
  rw [trailing, List.foldl_append]
  rfl

theorem trailing_nonneg : 0 ≤ trailing p l := by
  induction l using List.reverseRecOn with
  | nil => exact Int.le_refl 0
  | append_singleton =>
    rw [trailing_concat]
    split <;> omega

theorem one_le_trailing : 1 ≤ trailing p l ↔ l.getLast?.any p = true := by
  induction l using List.reverseRecOn with
  | nil => simp [trailing]
  | append_singleton l a =>
    have hnonneg := trailing_nonneg p l
    rw [trailing_concat, List.getLast?_concat, Option.any_some]
    cases p a with
    | false => simp
    | true =>
      simp only [if_true, iff_true]
      omega

/-- **A counter of two says that the last two entries breach.** -/
theorem two_le_trailing : 2 ≤ trailing p l ↔ lastTwo p l = true := by
  induction l using List.reverseRecOn with
  | nil => simp [trailing, lastTwo]
  | append_singleton l a =>
    have hone := one_le_trailing p l
    rw [trailing_concat, lastTwo, List.getLast?_concat, List.dropLast_concat, Option.any_some]
    cases p a with
    | false => simp
    | true =>
      rw [if_pos rfl, Bool.true_and, ← hone]
      omega

end Rows

/-! ## 2. Resource alerts -/

section Resource

variable {α : Type} (F : Resources.Floats α) (x : Texts α)

/-- A snapshot as it is processed: the clocks of the service and of its callback, and where the
    container's name is looked up. -/
structure Sampling (α : Type) where
  snap : Resources.ResourceSnapshot α
  now : Time
  sentAt : Time
  containers : Containers.Service

/-- What the resource callback sends the engine. -/
def resourceSignals (e : Resources.Emitted α) : List Signal := (resourceAlerts x e).map .event

/-- `processSnapshot`, and what the callback sends the engine for it. -/
def sampled (s : Resources.Service α) (i : Sampling α) : Resources.Service α × List Signal :=
  let s' := s.processSnapshot F i.now i.containers i.snap
  (s', (s'.emitted.drop s.emitted.length).flatMap (resourceSignals { x with now := i.sentAt }))

/-- The key of a metric's alert. -/
def metricKey (uid : String) (m : Resources.Metric) : ActiveAlertKey :=
  ⟨"resource", m.text ++ "_threshold", "container", uid⟩

/-- The metrics an alert state stands for. -/
def alertsOf : Resources.AlertState → Resources.Metric → Bool
  | .cpu, .cpu | .memory, .memory | .both, .cpu | .both, .memory => true
  | _, _ => false

/-- The alert states the callback follows: out of normal, back from one metric, or no change. -/
def Followed (old new : Resources.AlertState) : Prop :=
  new = old ∨ old = .normal ∨ (new = .normal ∧ old ≠ .both)
deriving Decidable

/-- What a change of the alert state leaves of a metric's alert. -/
def changed (old new : Resources.AlertState) (m : Resources.Metric) (held : Bool) : Bool :=
  if old = .normal ∧ alertsOf new m then true
  else if new = .normal ∧ old ≠ .normal ∧ old.recovered = m then false
  else held

/-- **One change, two alerts.** They follow it exactly when the callback does. -/
theorem changed_iff (old new : Resources.AlertState) :
    (∀ m, m ≠ .both → changed old new m (alertsOf old m) = alertsOf new m) ↔ Followed old new := by
  constructor
  · intro h
    have hcpu := h .cpu (by decide)
    have hmem := h .memory (by decide)
    revert hcpu hmem
    cases old <;> cases new <;> decide
  · intro h m hm
    revert h hm
    cases old <;> cases new <;> cases m <;> decide

section Step

variable {F x} {cfg : Resources.AlertConfig α} {s : Resources.Service α} {i : Sampling α}

variable {m : Resources.Metric}

theorem metricKey_inj {uid : String} {m' : Resources.Metric} : metricKey uid m = metricKey uid m' ↔ m = m' :=
  key_inj (fun m : Resources.Metric => m.text ++ "_threshold") fun m m' => by cases m <;> cases m' <;> decide

@[simp] theorem onAll_alert (id : ContainerID) (name : String) (m m' : Resources.Metric) (v v' : α)
    (t : Time) (held : Bool) :
    Signal.onAll (metricKey (x.uid id) m) held (resourceSignals x (.alert id name m' v v' t)) =
      if m' = m then true else held := by
  show (if metricKey (x.uid id) m' = metricKey (x.uid id) m then true else held) = _
  simp only [metricKey_inj]

@[simp] theorem onAll_recovery (id : ContainerID) (name : String) (m m' : Resources.Metric) (v v' : α)
    (t : Time) (held : Bool) :
    Signal.onAll (metricKey (x.uid id) m) held (resourceSignals x (.recovery id name m' v v' t)) =
      if m' = m then false else held := by
  show (if metricKey (x.uid id) m' = metricKey (x.uid id) m then false else held) = _
  simp only [metricKey_inj]

/-- What an announcement does to the alert of a metric. -/
theorem announced_on (hm : m ≠ .both) (snap : Resources.ResourceSnapshot α) (name : String) (now : Time)
    (held : Bool) : Signal.onAll (metricKey (x.uid snap.containerID) m) held
        ((cfg.announced F snap name now).flatMap (resourceSignals x)) =
      changed cfg.alertState (cfg.newState F snap) m held := by
  unfold Resources.AlertConfig.announced Resources.AlertConfig.raises Resources.AlertConfig.recovers
    Resources.AlertConfig.newState
  cases cfg.cpuAlert F snap <;> cases cfg.memAlert F snap <;> cases cfg.alertState <;> cases m <;>
    simp [changed, alertsOf, Resources.AlertState.of, Resources.AlertState.recovered] at hm ⊢

/-- The alert state of a container's row. -/
def stateOf (s : Resources.Service α) (id : ContainerID) : Resources.AlertState :=
  ((s.active id).map Resources.AlertConfig.alertState).getD .normal

theorem sampled_active (h : s.active i.snap.containerID = some cfg) :
    (sampled F x s i).1.active i.snap.containerID = some (cfg.evaluated F i.snap i.now) :=
  (Resources.processSnapshot_spec h).1

/-- **One snapshot, on the alert of a metric.** -/
theorem sampled_on (hm : m ≠ .both) (h : s.active i.snap.containerID = some cfg)
    (held : Bool) : Signal.onAll (metricKey (x.uid i.snap.containerID) m) held (sampled F x s i).2 =
      changed (stateOf s i.snap.containerID) (stateOf (sampled F x s i).1 i.snap.containerID) m held := by
  obtain ⟨-, name, hsaid⟩ : _ ∧ ∃ name, (s.processSnapshot F i.now i.containers i.snap).emitted =
      s.emitted ++ (Resources.noted F i.snap ++ cfg.announced F i.snap name i.now) :=
    Resources.processSnapshot_spec h
  have hnoted : (Resources.noted F i.snap).flatMap (resourceSignals { x with now := i.sentAt }) = [] := by
    unfold Resources.noted
    split <;> rfl
  have hsent : (sampled F x s i).2 =
      (cfg.announced F i.snap name i.now).flatMap (resourceSignals { x with now := i.sentAt }) := by
    unfold sampled
    dsimp only
    rw [hsaid, List.drop_left, List.flatMap_append, hnoted, List.nil_append]
  rw [hsent, stateOf, stateOf, sampled_active h, h]
  exact announced_on (x := { x with now := i.sentAt }) hm i.snap name i.now held

end Step

/-! ### Whole runs -/

/-- A row no snapshot has been held against. -/
structure Fresh (cfg : Resources.AlertConfig α) : Prop where
  state : cfg.alertState = .normal
  cpu : cfg.cpuConsecutiveBreaches = 0
  memory : cfg.memConsecutiveBreaches = 0

def cpuBreaching (cfg : Resources.AlertConfig α) (snap : Resources.ResourceSnapshot α) : Bool :=
  F.ge snap.cpuPercent cfg.cpuThreshold

def memBreaching (cfg : Resources.AlertConfig α) (snap : Resources.ResourceSnapshot α) : Bool :=
  F.ge (Resources.memPercent F snap) cfg.memThreshold

/-- Which metrics have breached in at least the last two snapshots. -/
def breaching (cfg : Resources.AlertConfig α) (snaps : List (Resources.ResourceSnapshot α)) :
    Resources.AlertState :=
  .of (lastTwo (cpuBreaching F cfg) snaps) (lastTwo (memBreaching F cfg) snaps)

/-- **The alerts track the metrics**: each is active exactly when its metric has breached in at least
    the last two of the snapshots. -/
structure Tracks (cfg : Resources.AlertConfig α) (uid : String)
    (snaps : List (Resources.ResourceSnapshot α)) (e : Engine) : Prop where
  cpu : e.holds (metricKey uid .cpu) = lastTwo (cpuBreaching F cfg) snaps
  memory : e.holds (metricKey uid .memory) = lastTwo (memBreaching F cfg) snaps

section Runs

variable {F x} {cfg : Resources.AlertConfig α} {id : ContainerID}

/-- The row of the container after the snapshots of a list. -/
def rowAfter (F : Resources.Floats α) (cfg : Resources.AlertConfig α) (l : List (Sampling α)) :
    Resources.AlertConfig α := l.foldl (fun cfg i => cfg.evaluated F i.snap i.now) cfg

/-- What the snapshots leave of a row: its thresholds, and the counters of the list. -/
theorem rowAfter_spec (hfresh : Fresh cfg) (l : List (Sampling α)) :
    (rowAfter F cfg l).cpuThreshold = cfg.cpuThreshold ∧ (rowAfter F cfg l).memThreshold = cfg.memThreshold ∧
      (rowAfter F cfg l).cpuConsecutiveBreaches = trailing (cpuBreaching F cfg) (l.map Sampling.snap) ∧
      (rowAfter F cfg l).memConsecutiveBreaches = trailing (memBreaching F cfg) (l.map Sampling.snap) ∧
      (rowAfter F cfg l).alertState = breaching F cfg (l.map Sampling.snap) := by
  induction l using List.reverseRecOn with
  | nil => exact ⟨rfl, rfl, hfresh.cpu, hfresh.memory, hfresh.state⟩
  | append_singleton l i ih =>
    obtain ⟨hcpuT, hmemT, hcpu, hmem, -⟩ := ih
    have hrow : rowAfter F cfg (l ++ [i]) = (rowAfter F cfg l).evaluated F i.snap i.now := by
      rw [rowAfter, List.foldl_append]
      rfl
    have hcpu' : (rowAfter F cfg l).cpuBreaches F i.snap =
        trailing (cpuBreaching F cfg) ((l ++ [i]).map Sampling.snap) := by
      rw [Resources.AlertConfig.cpuBreaches, hcpuT, hcpu, List.map_append, List.map_singleton,
        trailing_concat]
      rfl
    have hmem' : (rowAfter F cfg l).memBreaches F i.snap =
        trailing (memBreaching F cfg) ((l ++ [i]).map Sampling.snap) := by
      rw [Resources.AlertConfig.memBreaches, hmemT, hmem, List.map_append, List.map_singleton,
        trailing_concat]
      rfl
    rw [hrow]
    refine ⟨hcpuT, hmemT, hcpu', hmem', ?_⟩
    show (rowAfter F cfg l).newState F i.snap = _
    unfold Resources.AlertConfig.newState Resources.AlertConfig.cpuAlert
      Resources.AlertConfig.memAlert breaching
    rw [hcpu', hmem', Bool.decide_congr (two_le_trailing _ _), Bool.decide_congr (two_le_trailing _ _)]
    simp only [Bool.decide_eq_true]

theorem tracks_iff {uid : String} {snaps : List (Resources.ResourceSnapshot α)} {e : Engine} :
    (∀ m, m ≠ .both → e.holds (metricKey uid m) = alertsOf (breaching F cfg snaps) m) ↔
    Tracks F cfg uid snaps e := by
  obtain ⟨hcpu, hmem⟩ : alertsOf (breaching F cfg snaps) .cpu = lastTwo (cpuBreaching F cfg) snaps ∧
      alertsOf (breaching F cfg snaps) .memory = lastTwo (memBreaching F cfg) snaps := by
    unfold breaching
    cases lastTwo (cpuBreaching F cfg) snaps <;> cases lastTwo (memBreaching F cfg) snaps <;> exact ⟨rfl, rfl⟩
  constructor
  · intro h
    exact ⟨(h .cpu (by decide)).trans hcpu, (h .memory (by decide)).trans hmem⟩
  · intro h m hm
    cases m with
    | cpu => exact h.cpu.trans hcpu.symm
    | memory => exact h.memory.trans hmem.symm
    | both => exact absurd rfl hm

theorem run_active {s : Resources.Service α} {l : List (Sampling α)}
    (hid : ∀ i ∈ l, i.snap.containerID = id) (hcfg : s.active id = some cfg) :
    (l.foldl (fun s i => (sampled F x s i).1) s).active id = some (rowAfter F cfg l) := by
  refine Passes.foldl_view (fun s => Resources.Service.active s id) ?_ hcfg
  intro s cfg i hi hactive
  rw [← hid i hi] at hactive ⊢
  exact sampled_active hactive

/-- **When the resource alerts track the metrics**: after every snapshot, exactly as long as the
    metrics that breach change from none, or from one to none. -/
theorem resource_alerts_follow {w : Watched (Resources.Service α)}
    {is : List (Sampling α × (Nat → Handling))} (hid : ∀ i ∈ is, i.1.snap.containerID = id)
    (hundisturbed : w.Undisturbed (sampled F x) is) (hcfg : w.service.active id = some cfg)
    (hfresh : Fresh cfg)
    (hnone : ∀ m, m ≠ .both → w.engine.holds (metricKey (x.uid id) m) = false) :
    (∀ n, Tracks F cfg (x.uid id) ((is.take n).map fun i => i.1.snap)
        (w.run (sampled F x) (is.take n)).engine) ↔
      ∀ n, Followed (breaching F cfg ((is.take n).map fun i => i.1.snap))
        (breaching F cfg ((is.take (n + 1)).map fun i => i.1.snap)) := by
  have hstate : ∀ n, stateOf (w.run (sampled F x) (is.take n)).service id =
      breaching F cfg ((is.take n).map fun i => i.1.snap) := by
    intro n
    have hid' : ∀ i ∈ (is.take n).map Prod.fst, i.snap.containerID = id := by
      intro i hi
      obtain ⟨j, hj, rfl⟩ := List.mem_map.mp hi
      exact hid j (List.mem_of_mem_take hj)
    rw [Watched.run_service, stateOf, run_active hid' hcfg]
    refine ((rowAfter_spec hfresh _).2.2.2.2).trans ?_
    rw [List.map_map]
    rfl
  have hagrees := Watched.agrees_iff_ends (I := fun s => ∃ cfg, s.active id = some cfg)
    (A := fun s held => ∀ m, m ≠ .both → held (metricKey (x.uid id) m) = alertsOf (stateOf s id) m)
    (R := fun s s' => Followed (stateOf s id) (stateOf s' id)) (fun s => .inl rfl) hundisturbed
    ?_ ?_ ⟨cfg, hcfg⟩ ?_
  · simp only [hstate] at hagrees
    rw [← hagrees]
    exact forall_congr' fun n => tracks_iff.symm
  · rintro s i hi ⟨cfg, hactive⟩
    rw [← hid i hi] at hactive ⊢
    exact ⟨_, sampled_active hactive⟩
  · rintro s held i hi ⟨cfg, hactive⟩ hheld
    rw [← changed_iff]
    refine forall₂_congr fun m hm => ?_
    rw [← hid i hi] at hactive hheld ⊢
    dsimp only
    rw [sampled_on hm hactive, hheld m hm]
  · intro m hm
    rw [hnone m hm, stateOf, hcfg, Option.map_some, Option.getD_some, hfresh.state]
    cases m <;> rfl

end Runs

end Resource

/-! ### Two spikes -/

def sampleThresholds : Resources.AlertConfig Nat := ⟨⟨"a1", "web"⟩, 80, 80, true, .normal, 0, 0, none⟩

/-- A container with thresholds no snapshot has met yet, and an engine that holds nothing. -/
def sampleWatch : Watched (Resources.Service Nat) where
  service := ⟨[], ⟨[sampleThresholds], List.nodup_singleton _⟩, ∅, []⟩
  engine := .idle .empty

/-- A snapshot: CPU and memory in percent; its alerts get the ids `id` and `id'`. -/
def reading (cpu mem : Nat) (id : String) : Sampling Nat × (Nat → Handling) :=
  (⟨⟨⟨"a1", "web"⟩, cpu, mem, 100, 0, 0, 0, 0, 0, false, "a1"⟩, 0, 0, ⟨.empty, [], []⟩⟩,
    fun n => .plain (if n = 0 then id else id ++ "'"))

/-- Both metrics breach twice, then neither does. -/
def bothSpike : List (Sampling Nat × (Nat → Handling)) :=
  [reading 95 95 "a", reading 95 95 "b", reading 10 10 "c"]

/-- **Alerts nobody takes back**: the recovery from both metrics names the type `both_threshold`,
    which is nobody's alert. -/
theorem both_recovery_clears_nothing :
    sampleWatch.Undisturbed (sampled sampleFloats sampleTexts) bothSpike ∧
      ¬Tracks sampleFloats sampleThresholds "" (bothSpike.map fun i => i.1.snap)
        (sampleWatch.run (sampled sampleFloats sampleTexts) bothSpike).engine :=
  ⟨by decide, fun h => absurd h.cpu (by decide)⟩

/-- The CPU breaches twice, then does not. -/
def cpuSpike : List (Sampling Nat × (Nat → Handling)) :=
  [reading 95 10 "a", reading 95 10 "b", reading 10 10 "c"]

theorem cpu_spike_tracked :
    Tracks sampleFloats sampleThresholds "" ((cpuSpike.take 2).map fun i => i.1.snap)
      (sampleWatch.run (sampled sampleFloats sampleTexts) (cpuSpike.take 2)).engine := by
  have hall : ∀ n, cpuSpike.take (n + 3) = cpuSpike := fun n =>
    List.take_of_length_le (Nat.le_add_left 3 n)
  have hid : ∀ i ∈ cpuSpike, i.1.snap.containerID = ⟨"a1", "web"⟩ := by decide
  have hheard : sampleWatch.Undisturbed (sampled sampleFloats sampleTexts) cpuSpike := by decide
  refine (resource_alerts_follow hid hheard rfl ⟨rfl, rfl, rfl⟩ fun m _ => Engine.idle_holds _ _).mpr ?_ 2
  intro n
  rcases n with _ | _ | _ | n
  · decide
  · decide
  · decide
  · rw [hall n, hall (n + 1)]
    exact .inl rfl

/-! ## 3. Health alerts -/

section Health

variable {α : Type} (x : Texts α) (agentID externalID : String)

/-- A health change a runtime reports, with what is around it. -/
structure HealthReport where
  health : HealthStatus
  exitCode : String
  timestamp : Time
  env : Env
  sentAt : Time

/-- The live event of a report. -/
def HealthReport.event (r : HealthReport) : ContainerEvent where
  action := .healthStatus
  agentID := agentID
  externalID := externalID
  exitCode := r.exitCode
  healthStatus := r.health.text
  timestamp := r.timestamp
  replayed := false

/-- What the container callback sends the engine. -/
def containerSignals : Containers.Emitted → List Signal
  | .archived id _ => [.removed "container" (x.uid id)]
  | e => (containerAlerts x e).map .event

/-- `ProcessEvent` of a health change, and what the callback sends the engine for it. -/
def reported (s : Containers.Service) (r : HealthReport) : Containers.Service × List Signal :=
  let s' := s.processEvent r.env (r.event agentID externalID)
  (s', (s'.emitted.drop s.emitted.length).flatMap (containerSignals { x with now := r.sentAt }))

def healthKey (uid : String) : ActiveAlertKey := ⟨"container", "health_unhealthy", "container", uid⟩

/-- What a health change leaves of the alert. -/
def healthAlert (old new : Option HealthStatus) (held : Bool) : Bool :=
  if old = some .healthy ∧ new = some .unhealthy then true
  else if old = some .unhealthy ∧ new = some .healthy then false
  else held

/-- The health changes the callback follows: unhealthy is reached from healthy and left for it. -/
def HealthFollowed (old new : Option HealthStatus) : Prop :=
  (new = some .unhealthy → old = some .healthy ∨ old = some .unhealthy) ∧
    (old = some .unhealthy → new = some .healthy ∨ new = some .unhealthy)
deriving Decidable

/-- The health of the container, as it is stored. -/
def storedHealth (s : Containers.Service) : Option (Option HealthStatus) :=
  (s.lookup agentID externalID).map Container.healthStatus

/-- The health last reported, `old` before the first report. -/
def lastHealth (old : Option HealthStatus) (reports : List HealthStatus) : Option HealthStatus :=
  reports.getLast?.or old

section Steps

variable {x agentID externalID} {s : Containers.Service} {old : Option HealthStatus}

theorem healthFollowed_refl (h : Option HealthStatus) : HealthFollowed h h := ⟨.inr, .inr⟩

/-- **One health change, one alert.** -/
theorem healthAlert_iff (old : Option HealthStatus) (new : HealthStatus) :
    healthAlert old (some new) (old == some .unhealthy) = (some new == some .unhealthy) ↔
      HealthFollowed old (some new) := by
  rcases old with _ | old
  · cases new <;> decide
  · cases old <;> cases new <;> decide

/-- **One report**: the stored health, and what is sent. -/
theorem reported_spec (r : HealthReport) (h : storedHealth agentID externalID s = some old) :
    storedHealth agentID externalID (reported x agentID externalID s r).1 = some (some r.health) ∧
      ∀ held, Signal.onAll (healthKey (x.uid ⟨uidAgent agentID, externalID⟩)) held
        (reported x agentID externalID s r).2 = healthAlert old (some r.health) held := by
  obtain ⟨c, hc, hold⟩ := Option.map_eq_some_iff.mp h
  have hid : c.id = ⟨uidAgent agentID, externalID⟩ := (Table.get_eq_some.mp hc).2
  have hrow : s.containers.get c.id = some c := hid ▸ hc
  have hprocess : s.processEvent r.env (r.event agentID externalID) =
      s.changeHealth (r.event agentID externalID) c r.health := by
    have heffect : c.effect (r.event agentID externalID) = .health r.health := by
      show (HealthStatus.ofText r.health.text).elim _ _ = _
      rw [HealthStatus.ofText_text]
      rfl
    -- in the shape of the lemma, or the unifier opens the table lookup
    have hstored : s.lookup (r.event agentID externalID).agentID
        (r.event agentID externalID).externalID = some c := hc
    rw [processEvent_stored hstored, heffect]
    rfl
  have hafter : (reported x agentID externalID s r).1.lookup agentID externalID =
      some (c.withHealth (r.event agentID externalID) r.health) := by
    show (s.processEvent r.env (r.event agentID externalID)).containers.get _ = _
    rw [hprocess, changeHealth_get hrow, hid, if_pos rfl]
  have hsent : (reported x agentID externalID s r).2 =
      (containerAlerts { x with now := r.sentAt }
        (.healthChanged c.id r.health c.healthStatus r.timestamp)).map .event := by
    show ((s.processEvent r.env (r.event agentID externalID)).emitted.drop s.emitted.length).flatMap _ = _
    rw [hprocess]
    show ((s.emitted ++ [_]).drop s.emitted.length).flatMap _ = _
    rw [List.drop_left, List.flatMap_singleton]
    rfl
  refine ⟨by rw [storedHealth, hafter]; rfl, fun held => ?_⟩
  rw [hsent, healthAlert, containerAlerts, hid, hold]
  simp only [Option.some.injEq]
  split
  · exact if_pos rfl
  · split
    · exact if_pos rfl
    · rfl

theorem run_health {l : List HealthReport} (h : storedHealth agentID externalID s = some old) :
    storedHealth agentID externalID (l.foldl (fun s r => (reported x agentID externalID s r).1) s) =
      some (lastHealth old (l.map HealthReport.health)) := by
  have hview : storedHealth agentID externalID (l.foldl (fun s r => (reported x agentID externalID s r).1) s) =
      some (l.foldl (fun _ r => some r.health) old) :=
    Passes.foldl_view (storedHealth agentID externalID) (fun s v r _ hv => (reported_spec r hv).1) h
  rw [hview]
  congr 1
  induction l using List.reverseRecOn with
  | nil => rfl
  | append_singleton =>
    rw [List.foldl_append, lastHealth, List.map_append, List.map_singleton, List.getLast?_concat]
    rfl

end Steps

variable {x agentID externalID}

/-- **When the health alert tracks the health**: after every report, exactly as long as the health
    becomes unhealthy from healthy only and leaves it for healthy only. -/
theorem health_alerts_follow {w : Watched Containers.Service} {is : List (HealthReport × (Nat → Handling))}
    {c : Container} (hstored : w.service.lookup agentID externalID = some c)
    (hundisturbed : w.Undisturbed (reported x agentID externalID) is)
    (hagree : w.engine.holds (healthKey (x.uid c.id)) = (c.healthStatus == some .unhealthy)) :
    (∀ n, (w.run (reported x agentID externalID) (is.take n)).engine.holds (healthKey (x.uid c.id)) =
        (lastHealth c.healthStatus ((is.take n).map fun i => i.1.health) == some .unhealthy)) ↔
      ∀ n, HealthFollowed (lastHealth c.healthStatus ((is.take n).map fun i => i.1.health))
        (lastHealth c.healthStatus ((is.take (n + 1)).map fun i => i.1.health)) := by
  have hid : c.id = ⟨uidAgent agentID, externalID⟩ := (Table.get_eq_some.mp hstored).2
  have hstart : storedHealth agentID externalID w.service = some c.healthStatus := by
    rw [storedHealth, hstored]
    rfl
  have hstate : ∀ n, storedHealth agentID externalID
      (w.run (reported x agentID externalID) (is.take n)).service =
        some (lastHealth c.healthStatus ((is.take n).map fun i => i.1.health)) := by
    intro n
    rw [Watched.run_service, run_health hstart, List.map_map]
    rfl
  have hagrees := Watched.agrees_iff_ends (I := fun s => ∃ h, storedHealth agentID externalID s = some h)
    (A := fun s held => held (healthKey (x.uid c.id)) =
      ((storedHealth agentID externalID s).getD none == some .unhealthy))
    (R := fun s s' => HealthFollowed ((storedHealth agentID externalID s).getD none)
      ((storedHealth agentID externalID s').getD none))
    (fun s => healthFollowed_refl _) hundisturbed ?_ ?_ ⟨_, hstart⟩ ?_
  · simp only [hstate, Option.getD_some] at hagrees
    exact hagrees
  · intro s i _ hs
    obtain ⟨old, hold⟩ := hs
    exact ⟨_, (reported_spec i.1 hold).1⟩
  · intro s held i _ hs hheld
    obtain ⟨old, hold⟩ := hs
    obtain ⟨hnew, hsent⟩ := reported_spec i.1 hold
    dsimp only
    rw [hid] at hheld ⊢
    rw [hsent, hheld, hnew, hold, Option.getD_some, Option.getD_some]
    exact healthAlert_iff old i.1.health
  · rw [hagree, hstart]
    rfl

end Health

/-! ### Two containers -/

/-- A container with a health, and an engine that holds nothing. -/
def sampleHealth (health : Option HealthStatus) : Watched Containers.Service where
  service := ⟨⟨[{ sampleRow "a1" with healthStatus := health }], List.nodup_singleton _⟩, [], []⟩
  engine := .idle .empty

def report (health : HealthStatus) (id : String) : HealthReport × (Nat → Handling) :=
  (⟨health, "", 0, sampleEnv, 0⟩, fun _ => .plain id)

/-- **An unhealthy container nobody hears of**: it was starting before, as every container with a
    health check is. -/
theorem unhealthy_start_unalerted :
    (sampleHealth none).Undisturbed (reported sampleTexts "a1" "web")
        [report .starting "a", report .unhealthy "b"] ∧
      ((sampleHealth none).run (reported sampleTexts "a1" "web")
        [report .starting "a", report .unhealthy "b"]).engine.holds (healthKey "") = false ∧
      lastHealth none [.starting, .unhealthy] = some .unhealthy := by
  decide

theorem unhealthy_alerted :
    ((sampleHealth (some .healthy)).run (reported sampleTexts "a1" "web")
      ([report .unhealthy "a", report .healthy "b"].take 1)).engine.holds (healthKey "") = true := by
  have hheard : (sampleHealth (some .healthy)).Undisturbed (reported sampleTexts "a1" "web")
      [report .unhealthy "a", report .healthy "b"] := by decide
  refine (health_alerts_follow rfl hheard rfl).mpr ?_ 1
  intro n
  rcases n with _ | _ | n
  · decide
  · decide
  · rw [List.take_of_length_le (Nat.le_add_left 2 n), List.take_of_length_le (Nat.le_add_left 2 (n + 1))]
    exact healthFollowed_refl _

end Maintenant.App
