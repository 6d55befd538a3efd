/-
  File:      Maintenant/Endpoint/Alerts.lean
  Subject:   THE ALERT STATE OF AN ENDPOINT AND THE ALERT ENGINE (internal/alert/endpoint_alerts.go,
             internal/app/wiring.go: the endpoint callbacks), over operations done one at a time.

  A removed endpoint has its alerts resolved, but its row keeps the alert state it had, and the label
  that brings it back leaves that as it is.

  * `checked_row`, `checked_on` -- what a result does to the row and to the alert;
  * `endpoint_alerts_agree` -- the row and the engine agree as long as no endpoint is removed while it
    alerts; a run of failures that reaches the threshold while the row is normal always raises.
-/
import Maintenant.Endpoint.Lifecycle
import Maintenant.Alert.Held

namespace Maintenant.Endpoints

open GoTime Alerting

/-! ## 1. The callbacks -/

/-- `EvaluateCheckResult`. -/
def evaluateCheckResult (config : EndpointConfig) (ep : Endpoint) (result : CheckResult) : Option AlertEvent :=
  if !result.success then
    if config.failureThreshold ≤ ep.consecutiveFailures ∧ ep.alertState = .normal then some .alert else none
  else
    if config.recoveryThreshold ≤ ep.consecutiveSuccesses ∧ ep.alertState = .alerting then some .recovery
    else none

/-- What an operation meets, and a map of details as JSON. -/
structure Sending where
  meets : Meets
  json : List (String × (String ⊕ Int)) → Except Unit String

section Callbacks

variable (x : Sending) (cols : LabelColumns) (ep : Endpoint) (result : CheckResult)

def entityName : String := if ep.containerName = "" then cols.name else ep.containerName

/-- An event about the endpoint. -/
def endpointEvent (alertType severity : String) (isRecover : Bool) (message : String)
    (details : Option (List (String × (String ⊕ Int)))) (timestamp : Time) : Event where
  source := "endpoint"
  alertType := alertType
  severity := severity
  isRecover := isRecover
  message := message
  entityType := "endpoint"
  entityID := ep.id
  entityName := entityName cols ep
  details := details.map x.json
  timestamp := timestamp

/-- Whether the certificate is trusted, apart from every threshold. -/
def trustSignals : List Signal :=
  if result.degraded then
    [.event (endpointEvent x cols ep "certificate_untrusted" severityWarning false
      ("Endpoint " ++ ep.target ++ " is reachable but its certificate is not trusted: " ++ result.degradedReason)
      (some [("target", .inl ep.target), ("reason", .inl result.degradedReason)]) result.timestamp)]
  else if result.success then
    [.event (endpointEvent x cols ep "certificate_untrusted" severityInfo true
      ("Endpoint " ++ ep.target ++ " now presents a trusted certificate") none result.timestamp)]
  else []

/-- The event of a threshold that is reached. -/
def thresholdSignal : AlertEvent → Signal
  | .alert => .event (endpointEvent x cols ep "consecutive_failure" severityCritical false
      ("Endpoint " ++ ep.target ++ " failed " ++ toString ep.consecutiveFailures ++ " consecutive checks")
      (some [("target", .inl ep.target), ("failures", .inr ep.consecutiveFailures),
        ("threshold", .inr cols.config.failureThreshold), ("last_error", .inl result.errorMessage)])
      x.meets.now)
  | .recovery => .event (endpointEvent x cols ep "consecutive_failure" severityInfo true
      ("Endpoint " ++ ep.target ++ " recovered after " ++ toString ep.consecutiveSuccesses ++
        " consecutive successes")
      (some [("target", .inl ep.target), ("successes", .inr ep.consecutiveSuccesses),
        ("threshold", .inr cols.config.recoveryThreshold)])
      x.meets.now)

/-- What the alert callback sends the engine. -/
def callbackSignals : List Signal :=
  trustSignals x cols ep result ++
    (evaluateCheckResult cols.config ep result).toList.map (thresholdSignal x cols ep result)

end Callbacks

/-- The key of an endpoint's outage alert. -/
def failureKey (id : String) : ActiveAlertKey := ⟨"endpoint", "consecutive_failure", "endpoint", id⟩

namespace Registry

variable (r : Registry) (x : Sending)

/-- The clock, and the alert callback as it is wired. -/
def env : Env := ⟨x.meets.now, fun ep result => evaluateCheckResult (r.columns ep.id).config ep result⟩

/-- The row the alert callback is called with, if it is called. -/
def reloaded (endpointID : String) (result : CheckResult) : Option Endpoint :=
  match r.row endpointID with
  | none => none
  | some ep =>
    if result.replayed then none
    else (r.service.updateCheckResult (r.env x) (ep.counted result) (statusForResult result) ep.alertState
      result).endpoints.get endpointID

/-- `ProcessCheckResult`, and what the engine is sent meanwhile. -/
def checked (endpointID : String) (result : CheckResult) : Registry × List Signal :=
  ({ r with service := r.service.processCheckResult (r.env x) endpointID result },
    match r.reloaded x endpointID result with
    | none => []
    | some updated => callbackSignals x (r.columns updated.id) updated result)

end Registry

inductive Op where
  | processCheckResult (endpointID : String) (result : CheckResult)
  | handleContainerStop (externalID : String)
  | syncEndpoints (labels : Labels)
  | handleContainerDestroy (externalID : String)
  | sweepOrphanedLabelEndpoints (seen : String → Bool)

/-- The removal callback: the engine resolves what it holds about the endpoints. -/
def removals (p : Registry × List String) : Registry × List Signal :=
  (p.1, p.2.map (Signal.removed "endpoint"))

/-- One operation, and what the engine is sent for it. -/
def performed (uid : String → String → String → String) (r : Registry) (i : Op × Sending) :
    Registry × List Signal :=
  match i.1 with
  | .processCheckResult endpointID result => r.checked i.2 endpointID result
  | .handleContainerStop externalID => (r.handleContainerStop i.2.meets externalID, [])
  | .syncEndpoints labels => removals (r.syncEndpoints uid i.2.meets labels)
  | .handleContainerDestroy externalID => removals (r.handleContainerDestroy i.2.meets externalID)
  | .sweepOrphanedLabelEndpoints seen => removals (r.sweepOrphanedLabelEndpoints i.2.meets seen)

/-! ## 2. A result -/

/-- The row as the alert callback sees it. -/
def Endpoint.observed (env : Env) (ep : Endpoint) (result : CheckResult) : Endpoint :=
  Endpoint.written env (ep.counted result) (statusForResult result) ep.alertState result ep

/-- What a result says about the thresholds of an endpoint. -/
def Registry.verdict (r : Registry) (x : Sending) (ep : Endpoint) (result : CheckResult) : Option AlertEvent :=
  evaluateCheckResult (r.columns ep.id).config (ep.observed (r.env x) result) result

section Result

variable {r : Registry} {x : Sending} {id : String} {ep : Endpoint} {result : CheckResult}

theorem counted_id : (ep.counted result).id = ep.id := by
  unfold Endpoint.counted
  split <;> rfl

variable {s : Service}

theorem updateCheckResult_row {env : Env} {status : EndpointStatus} {alertState : AlertState} {k : String}
    {row : Endpoint} (hrow : s.endpoints.get k = some row) (hid : ep.id = k) :
    (s.updateCheckResult env ep status alertState result).endpoints.get id =
      if id = k then some (Endpoint.written env ep status alertState result row) else s.endpoints.get id := by
  subst hid
  unfold Service.updateCheckResult
  rw [Table.get_update_key hrow]
  rfl

theorem reloaded_live (hrow : r.row id = some ep) (hlive : result.replayed = false) :
    r.reloaded x id result = some (ep.observed (r.env x) result) := by
  unfold Registry.reloaded
  rw [hrow]
  dsimp only
  rw [if_neg (hlive ▸ Bool.false_ne_true)]
  exact (updateCheckResult_row hrow (counted_id.trans (row_id hrow))).trans (if_pos rfl)

/-- The row as the thresholds leave it. -/
def Endpoint.judged (env : Env) (ep : Endpoint) (result : CheckResult) : Endpoint :=
  match env.alertCallback ep result with
  | none => ep
  | some event => Endpoint.written env ep (statusForResult result) event.state result ep

theorem evaluateAlert_row {env : Env} {k : String} {e : Endpoint} (hrow : s.endpoints.get k = some e) :
    (s.evaluateAlert env k result).endpoints.get id =
      if id = k then some (e.judged env result) else s.endpoints.get id := by
  unfold Service.evaluateAlert Endpoint.judged
  rw [hrow]
  dsimp only
  cases env.alertCallback e result with
  | none => split <;> simp_all
  | some => exact updateCheckResult_row hrow (Table.get_eq_some.mp hrow).2

/-- A live result writes the row of its endpoint and no other. -/
theorem processCheckResult_row {env : Env} {k : String} (hrow : s.endpoints.get k = some ep)
    (hlive : result.replayed = false) : (s.processCheckResult env k result).endpoints.get id =
      if id = k then some ((ep.observed env result).judged env result) else s.endpoints.get id := by
  have hfirst : ∀ id, (s.updateCheckResult env (ep.counted result) (statusForResult result) ep.alertState
      result).endpoints.get id = if id = k then some (ep.observed env result) else s.endpoints.get id :=
    fun _ => updateCheckResult_row hrow (counted_id.trans (Table.get_eq_some.mp hrow).2)
  unfold Service.processCheckResult
  rw [hrow]
  dsimp only
  rw [if_neg (hlive ▸ Bool.false_ne_true), evaluateAlert_row]
  · split
    · rfl
    · next hid => split <;> exact (hfirst id).trans (if_neg hid)
  · split <;> exact (hfirst k).trans (if_pos rfl)

/-- **What a live result does to the row.** -/
theorem checked_row (hrow : r.row id = some ep) (hlive : result.replayed = false) :
    ∃ ep', (r.checked x id result).1.row id = some ep' ∧
      ep'.alertState = ((r.verdict x ep result).map AlertEvent.state).getD ep.alertState ∧
      ep'.consecutiveFailures = (ep.counted result).consecutiveFailures ∧ ep'.active = ep.active := by
  refine ⟨_, (processCheckResult_row hrow hlive).trans (if_pos rfl), ?_⟩
  have hverdict : (r.env x).alertCallback (ep.observed (r.env x) result) result = r.verdict x ep result := rfl
  rw [← hverdict, Endpoint.judged]
  cases (r.env x).alertCallback (ep.observed (r.env x) result) result <;> exact ⟨rfl, rfl, rfl⟩

/-- A replayed result is no result. -/
theorem checked_replayed (hreplayed : result.replayed = true) (k id : String) :
    (r.checked x k result).1.row id = r.row id ∧ (r.checked x k result).2 = [] := by
  unfold Registry.checked Registry.reloaded Service.processCheckResult Registry.row
  cases hrow : r.service.endpoints.get k with
  | none => exact ⟨rfl, rfl⟩
  | some =>
    dsimp only
    rw [if_pos hreplayed, if_pos hreplayed]
    exact ⟨rfl, rfl⟩

theorem checked_absent (hrow : r.row id = none) : (r.checked x id result) = (r, []) := by
  have hrow' : r.service.endpoints.get id = none := hrow
  unfold Registry.checked Registry.reloaded Service.processCheckResult
  rw [hrow, hrow']

/-! ### The alert -/

variable {held : Bool}

/-- What a verdict makes of the alert. -/
def AlertEvent.on (held : Bool) : Option AlertEvent → Bool
  | none => held
  | some .alert => true
  | some .recovery => false

theorem trustSignals_on (cols : LabelColumns) (k : String) :
    Signal.onAll (failureKey k) held (trustSignals x cols ep result) = held := by
  have hother : ∀ severity isRecover message details timestamp, Signal.onAll (failureKey k) held
      [.event (endpointEvent x cols ep "certificate_untrusted" severity isRecover message details timestamp)] =
        held := by
    intro severity isRecover message details timestamp
    rw [Signal.onAll_cons, Signal.onAll_nil, Signal.on]
    refine if_neg fun h => ?_
    have htype : "certificate_untrusted" = "consecutive_failure" := congrArg ActiveAlertKey.alertType h
    exact absurd htype (by decide)
  unfold trustSignals
  split
  · exact hother _ _ _ _ _
  · split
    · exact hother _ _ _ _ _
    · rfl

theorem callbackSignals_on (cols : LabelColumns) (k : String) :
    Signal.onAll (failureKey k) held (callbackSignals x cols ep result) =
      if ep.id = k then AlertEvent.on held (evaluateCheckResult cols.config ep result) else held := by
  have hkey : ∀ event, Signal.on (failureKey k) held (thresholdSignal x cols ep result event) =
      if ep.id = k then AlertEvent.on held (some event) else held := by
    intro event
    have hiff : ((⟨"endpoint", "consecutive_failure", "endpoint", ep.id⟩ : ActiveAlertKey) = failureKey k) =
        (ep.id = k) := by simp [failureKey]
    cases event with
    | alert | recovery => exact ite_congr hiff (fun _ => rfl) fun _ => rfl
  unfold callbackSignals
  rw [Signal.onAll_append, trustSignals_on]
  cases evaluateCheckResult cols.config ep result with
  | none => exact (ite_self held).symm
  | some event => exact hkey event

/-- **What a live result does to the alert.** -/
theorem checked_on (hrow : r.row id = some ep) (hlive : result.replayed = false) :
    Signal.onAll (failureKey id) held (r.checked x id result).2 = AlertEvent.on held (r.verdict x ep result) := by
  unfold Registry.checked
  rw [reloaded_live hrow hlive]
  exact (callbackSignals_on _ id).trans (if_pos (row_id hrow))

/-- **A result is live and of the endpoint, or it is nothing to it.** -/
theorem checked_cases (x : Sending) (result : CheckResult) (id k : String) :
    (∃ ep, k = id ∧ r.row id = some ep ∧ result.replayed = false) ∨
      (k = id → r.row id = none ∨ result.replayed = true) ∧ (r.checked x k result).1.row id = r.row id ∧
        ∀ held, Signal.onAll (failureKey id) held (r.checked x k result).2 = held := by
  cases hrow : r.row k with
  | none =>
    rw [checked_absent hrow]
    exact .inr ⟨fun h => .inl (h ▸ hrow), rfl, fun _ => rfl⟩
  | some ep =>
    cases hlive : result.replayed with
    | true =>
      obtain ⟨hkept, hquiet⟩ := checked_replayed hlive k id
      rw [hquiet]
      exact .inr ⟨fun _ => .inr rfl, hkept, fun _ => rfl⟩
    | false =>
      by_cases hk : k = id
      · subst hk
        exact .inl ⟨ep, rfl, hrow, rfl⟩
      · refine .inr ⟨fun h => absurd h hk, (processCheckResult_row hrow hlive).trans (if_neg (Ne.symm hk)),
          fun held => ?_⟩
        unfold Registry.checked
        rw [reloaded_live hrow hlive]
        exact (callbackSignals_on _ id).trans (if_neg fun hid => hk ((row_id hrow).symm.trans hid))

end Result

/-! ## 3. One operation -/

/-- The operation is a live failure of the endpoint. -/
def Op.fails (id : String) : Op → Bool
  | .processCheckResult endpointID result => endpointID == id && !result.replayed && !result.success
  | _ => false

/-- The failures in a row, after an operation. -/
def Op.tally (id : String) (failures : Int) : Op → Int
  | .processCheckResult endpointID result =>
    if endpointID == id && !result.replayed then if result.success then 0 else failures + 1 else failures
  | _ => failures

/-- Whatever labels the operation reads for the endpoint, they configure it so. -/
def Op.Configures (uid : String → String → String → String) (id : String) (config : EndpointConfig) : Op → Prop
  | .syncEndpoints labels => ∀ p ∈ labels.parsed, Registry.labelID uid labels p = id → p.config = config
  | _ => True

/-- The stored alert state is that of the engine. -/
def Agrees (id : String) (r : Registry) (held : ActiveAlertKey → Bool) : Prop :=
  held (failureKey id) = r.alerting id
deriving Decidable

section Step

variable {uid : String → String → String → String} {id : String} {r : Registry}

theorem removals_on (ids : List String) (held : Bool) :
    Signal.onAll (failureKey id) held (ids.map (Signal.removed "endpoint")) = (held && decide (id ∉ ids)) := by
  induction ids generalizing held with
  | nil => simp
  | cons k _ ih =>
    have hone : Signal.on (failureKey id) held (.removed "endpoint" k) = (held && decide (id ≠ k)) := by
      by_cases hk : id = k <;> simp [Signal.on, ofEntity, failureKey, hk]
    rw [List.map_cons, Signal.onAll_cons, ih, hone, Bool.and_assoc]
    simp only [List.mem_cons, not_or, Bool.decide_and, ne_eq]

variable {held : ActiveAlertKey → Bool} {x : Sending} {n : Int}

/-- An operation that removes endpoints breaks the agreement exactly on one that alerts. -/
theorem removals_agrees {p : Registry × List String} (hkept : Kept id r p.1)
    (hretires : id ∈ p.2 ↔ Retired id r p.1) (hA : Agrees id r held) :
    Agrees id (removals p).1 (fun k => Signal.onAll k (held k) (removals p).2) ↔
      (Retired id r (removals p).1 → r.alerting id = false) := by
  have hheld : held (failureKey id) = r.alerting id := hA
  show Signal.onAll (failureKey id) (held (failureKey id)) (p.2.map (Signal.removed "endpoint")) =
    p.1.alerting id ↔ (Retired id r p.1 → r.alerting id = false)
  rw [removals_on, hkept.alerting, hheld, ← hretires]
  cases r.alerting id <;> simp

theorem not_retired {r' : Registry} (h : r'.active id = r.active id) : ¬Retired id r r' := by
  intro hretired
  rw [Retired, h, hretired.1] at hretired
  exact nomatch hretired.2

theorem checked_active (k : String) (result : CheckResult) : (r.checked x k result).1.active id = r.active id := by
  unfold Registry.active
  rcases checked_cases (r := r) x result id k with ⟨ep, rfl, hrow, hlive⟩ | ⟨-, hkept, -⟩
  · obtain ⟨ep', hep', -, -, hactive⟩ := checked_row hrow hlive
    rw [hep', hrow, Option.any_some, Option.any_some, hactive]
  · rw [hkept]

theorem checked_agrees (k : String) (result : CheckResult) (hA : Agrees id r held) :
    Agrees id (r.checked x k result).1 (fun key => Signal.onAll key (held key) (r.checked x k result).2) := by
  have hheld : held (failureKey id) = r.alerting id := hA
  show Signal.onAll (failureKey id) (held (failureKey id)) (r.checked x k result).2 =
    (r.checked x k result).1.alerting id
  rcases checked_cases (r := r) x result id k with ⟨ep, rfl, hrow, hlive⟩ | ⟨-, hkept, hquiet⟩
  · obtain ⟨ep', hep', hstate, -, -⟩ := checked_row hrow hlive
    rw [Registry.alerting, hrow, Option.any_some] at hheld
    rw [checked_on hrow hlive, Registry.alerting, hep', Option.any_some, hstate]
    -- the alert state and the alert take the same turn
    cases r.verdict x ep result with
    | none => exact hheld
    | some event => cases event <;> rfl
  · rw [hquiet, Registry.alerting, hkept]
    exact hheld

/-- **One operation keeps the agreement** exactly unless it retires the endpoint while it alerts. -/
theorem performed_agrees (i : Op × Sending) (hA : Agrees id r held) :
    Agrees id (performed uid r i).1 (fun k => Signal.onAll k (held k) (performed uid r i).2) ↔
      (Retired id r (performed uid r i).1 → r.alerting id = false) := by
  obtain ⟨op, x⟩ := i
  cases op with
  | processCheckResult k result =>
    refine iff_of_true (checked_agrees k result hA) fun h => ?_
    exact absurd h (not_retired (checked_active k result))
  | handleContainerStop externalID =>
    have hkept : Kept id r (r.handleContainerStop x.meets externalID) := kept_handleContainerStop externalID
    refine iff_of_true (Eq.trans hA hkept.alerting.symm) fun h => ?_
    exact absurd h (not_retired (handleContainerStop_active externalID))
  | syncEndpoints labels =>
    exact removals_agrees (kept_syncEndpoints uid labels) (syncEndpoints_retires uid labels) hA
  | handleContainerDestroy externalID =>
    exact removals_agrees (kept_retireAll _ _ _ _) (handleContainerDestroy_retires externalID) hA
  | sweepOrphanedLabelEndpoints seen =>
    exact removals_agrees (kept_retireAll _ _ _ _) (sweepOrphanedLabelEndpoints_retires seen) hA

/-! ### The counter and the thresholds -/

/-- The stored number of failures in a row. -/
def Registry.failures (r : Registry) (id : String) : Option Int := (r.row id).map Endpoint.consecutiveFailures

theorem kept_failures {r' : Registry} (hkept : Kept id r r') (h : r.failures id = some n) :
    r'.failures id = some n := by
  obtain ⟨ep, hep, rfl⟩ := Option.map_eq_some_iff.mp h
  obtain ⟨ep', hep', hfailures⟩ := hkept.failures ep hep
  rw [Registry.failures, hep', Option.map_some, hfailures]

theorem performed_failures (i : Op × Sending) (h : r.failures id = some n) :
    (performed uid r i).1.failures id = some (i.1.tally id n) := by
  obtain ⟨op, x⟩ := i
  cases op with
  | processCheckResult k result =>
    show (r.checked x k result).1.failures id = some (Op.tally id n (.processCheckResult k result))
    obtain ⟨ep, hep, rfl⟩ := Option.map_eq_some_iff.mp h
    unfold Op.tally Registry.failures
    rcases checked_cases x result id k with ⟨ep₀, rfl, hrow, hlive⟩ | ⟨hnothing, hkept, -⟩
    · obtain ⟨ep', hep', -, hfailures, -⟩ := checked_row hep hlive
      rw [hep', Option.map_some, hfailures]
      unfold Endpoint.counted
      cases hsuccess : result.success <;> simp [hlive, hsuccess]
    · dsimp only
      rw [hkept, hep, Option.map_some, if_neg]
      rw [Bool.and_eq_true, beq_iff_eq, Bool.not_eq_true']
      intro h
      rcases hnothing h.1 with habsent | hreplayed
      · exact nomatch hep.symm.trans habsent
      · exact nomatch h.2.symm.trans hreplayed
  | handleContainerStop externalID => exact kept_failures (kept_handleContainerStop externalID) h
  | syncEndpoints labels => exact kept_failures (kept_syncEndpoints uid labels) h
  | handleContainerDestroy | sweepOrphanedLabelEndpoints => exact kept_failures (kept_retireAll _ _ _ _) h

theorem upsertEndpoint_config {config : EndpointConfig} (k agentID containerName externalID : String)
    {p : ParsedEndpoint} (hp : k = id → p.config = config) (h : (r.columns id).config = config) :
    ((r.upsertEndpoint k agentID containerName externalID p).columns id).config = config := by
  unfold Registry.upsertEndpoint
  dsimp only
  by_cases hk : id = k
  · rw [hk, Function.update_self]
    split <;> exact hp hk.symm
  · rw [Function.update_of_ne hk]
    exact h

theorem retireAll_columns (agentID : Option String) (containerName : Endpoint → String) (reason : Reason)
    (eps : List Endpoint) : (r.retireAll agentID containerName reason eps).1.columns = r.columns :=
  List.foldlRecOn _ _ (motive := fun r' : Registry => r'.columns = r.columns) rfl fun _ h _ _ => h

/-- The configuration of the endpoint stays while the labels say the same. -/
theorem performed_config {config : EndpointConfig} (i : Op × Sending) (hop : i.1.Configures uid id config)
    (h : (r.columns id).config = config) : ((performed uid r i).1.columns id).config = config := by
  obtain ⟨op, x⟩ := i
  let Configured (r' : Registry) : Prop := (r'.columns id).config = config
  cases op with
  | processCheckResult => exact h
  | handleContainerStop => exact List.foldlRecOn _ _ (motive := Configured) h fun _ h _ _ => h
  | syncEndpoints labels =>
    show Configured (Registry.retireAll _ _ _ _ _).1
    unfold Configured
    rw [retireAll_columns]
    have hnoted : Configured (r.noteParseErrors labels) :=
      List.foldlRecOn _ _ (motive := Configured) h fun _ h _ _ => h
    refine List.foldlRecOn _ _ (motive := Configured) hnoted ?_
    intro r' hr' p hp
    have hupsert : Configured (r'.upsertEndpoint _ _ _ _ p) :=
      upsertEndpoint_config (Registry.labelID uid labels p) (labels.agentID.getD "") labels.containerName
        labels.externalID (hop p hp) hr'
    unfold Registry.syncLabel
    split <;> exact hupsert
  | handleContainerDestroy | sweepOrphanedLabelEndpoints =>
    show Configured (Registry.retireAll _ _ _ _ _).1
    unfold Configured
    rw [retireAll_columns]
    exact h

/-- **A failure that reaches the threshold while the row is normal raises the alert.** -/
theorem performed_raises {i : Op × Sending} {held : Bool} (hfails : i.1.fails id = true)
    (hfailures : r.failures id = some n) (hnormal : r.alerting id = false)
    (hreached : (r.columns id).config.failureThreshold ≤ i.1.tally id n) :
    Signal.onAll (failureKey id) held (performed uid r i).2 = true ∧ (performed uid r i).1.alerting id = true := by
  obtain ⟨op, x⟩ := i
  cases op with
  | processCheckResult k result =>
    unfold Op.fails at hfails
    simp only [Bool.and_eq_true, beq_iff_eq, Bool.not_eq_true'] at hfails
    obtain ⟨⟨rfl, hlive⟩, hfailed⟩ := hfails
    obtain ⟨ep, hep, rfl⟩ := Option.map_eq_some_iff.mp hfailures
    have hstate : ep.alertState = .normal := by
      rw [Registry.alerting, hep, Option.any_some, decide_eq_false_iff_not] at hnormal
      cases hs : ep.alertState with
      | normal => rfl
      | alerting => exact absurd hs hnormal
    have hcounted : (ep.counted result).consecutiveFailures = ep.consecutiveFailures + 1 := by
      unfold Endpoint.counted
      rw [hfailed]
      rfl
    have hverdict : r.verdict x ep result = some .alert := by
      unfold Registry.verdict evaluateCheckResult
      rw [if_pos (by rw [hfailed]; rfl)]
      refine if_pos ⟨?_, hstate⟩
      show _ ≤ (ep.counted result).consecutiveFailures
      simpa [Op.tally, hlive, hfailed, hcounted, row_id hep] using hreached
    obtain ⟨ep', hep', hstate', -, -⟩ := checked_row hep hlive
    show Signal.onAll _ held (r.checked x k result).2 = true ∧ (r.checked x k result).1.alerting k = true
    rw [checked_on hep hlive, Registry.alerting, hep', Option.any_some, hstate', hverdict]
    exact ⟨rfl, rfl⟩
  | handleContainerStop | syncEndpoints | handleContainerDestroy | sweepOrphanedLabelEndpoints => exact nomatch hfails

end Step

/-! ## 4. Whole runs -/

/-- The failures in a row after operations, counted from `n`. -/
def failuresAfter (id : String) (n : Int) (ops : List Op) : Int := ops.foldl (Op.tally id) n

section Runs

variable {uid : String → String → String → String} {id : String} {w : Watched Registry}
  {is : List ((Op × Sending) × (Nat → Handling))}

theorem run_failures {n : Int} (h : w.service.failures id = some n) (l : List ((Op × Sending) × (Nat → Handling))) :
    (w.run (performed uid) l).service.failures id = some (failuresAfter id n (l.map fun i => i.1.1)) := by
  rw [Watched.run_service, Passes.foldl_view (fun r : Registry => r.failures id)
    (fun r n i _ hn => performed_failures i hn) h, failuresAfter, List.foldl_map, List.foldl_map]

theorem run_config {config : EndpointConfig} (hops : ∀ i ∈ is, i.1.1.Configures uid id config)
    (h : (w.service.columns id).config = config) (n : Nat) :
    ((w.run (performed uid) (is.take n)).service.columns id).config = config :=
  Passes.prefixes_inv (I := fun w : Watched Registry => (w.service.columns id).config = config)
    (Passes.along_mem.mpr hops) (fun _ i _ hi h => performed_config i.1 hi h) h n

/-- **The alert state of an endpoint and its alert**, over any operations one at a time. The two agree
    after each of them exactly when no operation retires the endpoint while it is alerting; and whatever was
    retired, a failure that makes the failures in a row reach the threshold raises the alert if the stored
    state is normal. -/
theorem endpoint_alerts_agree (hundisturbed : w.Undisturbed (performed uid) is)
    (hA : Agrees id w.service w.engine.holds) :
    ((∀ n, Agrees id (w.run (performed uid) (is.take n)).service
        (w.run (performed uid) (is.take n)).engine.holds) ↔
      ∀ n, Retired id (w.run (performed uid) (is.take n)).service
          (w.run (performed uid) (is.take (n + 1))).service →
        (w.run (performed uid) (is.take n)).service.alerting id = false) ∧
    ∀ ep, w.service.row id = some ep →
      (∀ i ∈ is, i.1.1.Configures uid id (w.service.columns id).config) →
      ∀ n i, is[n]? = some i → i.1.1.fails id = true →
        (w.run (performed uid) (is.take n)).service.alerting id = false →
        (w.service.columns id).config.failureThreshold ≤
          failuresAfter id ep.consecutiveFailures ((is.take (n + 1)).map fun i => i.1.1) →
        (w.run (performed uid) (is.take (n + 1))).engine.holds (failureKey id) = true ∧
          (w.run (performed uid) (is.take (n + 1))).service.alerting id = true := by
  constructor
  · refine Watched.agrees_iff_ends (I := fun _ => True)
      (R := fun r r' => Retired id r r' → r.alerting id = false) (fun r h => ?_) hundisturbed
      (fun _ _ _ _ => trivial) (fun r held i _ _ hA => performed_agrees i.1 hA) trivial hA
    exact absurd h (not_retired rfl)
  · intro ep hep hops n i hi hfails hnormal hreached
    have hears : (w.run (performed uid) (is.take n)).engine.HearsAll i.2 _ :=
      Passes.along_iff.mp hundisturbed n i hi
    have hconfig := run_config hops rfl n
    have hstart : w.service.failures id = some ep.consecutiveFailures := by
      rw [Registry.failures, hep]
      rfl
    have hfailures : (w.run (performed uid) (is.take n)).service.failures id = some _ :=
      run_failures hstart (is.take n)
    have hnext : failuresAfter id ep.consecutiveFailures ((is.take (n + 1)).map fun i => i.1.1) =
        i.1.1.tally id (failuresAfter id ep.consecutiveFailures ((is.take n).map fun i => i.1.1)) := by
      rw [List.take_add_one, hi, failuresAfter, List.map_append, List.foldl_append]
      rfl
    rw [hnext, ← hconfig] at hreached
    rw [Watched.run_succ hi, Watched.step_holds hears]
    exact performed_raises hfails hfailures hnormal hreached

end Runs

/-! ## 5. Two lives of an endpoint -/

def sampleMeets : Meets := ⟨0, fun l => ⟨l, .refl l⟩, fun l => ⟨l, .refl l⟩⟩

/-- An operation whose alerts get the ids `id` and `id'`. -/
def doing (op : Op) (id : String) : (Op × Sending) × (Nat → Handling) :=
  ((op, ⟨sampleMeets, fun _ => .ok ""⟩), fun n => .plain (if n = 0 then id else id ++ "'"))

/-- Two failures in a row are an outage, one success ends it. -/
def sampleLabels : Labels where
  agentID := none
  containerName := "web"
  externalID := "c1"
  parsed := [⟨"maintenant.endpoint.http", .http, "http://web/health", ⟨2, 1⟩⟩]
  parseErrors := []

def refused : CheckResult := ⟨"ep", false, false, "", 5, none, "connection refused", 0, false, ""⟩

/-- No endpoint, no alert. -/
def emptyWatch : Watched Registry :=
  ⟨⟨⟨.empty, [], []⟩, fun _ => ⟨"", "", .http, ⟨0, 0⟩, .label, ""⟩, []⟩, .idle .empty⟩

/-- The only endpoint there is. -/
def sampleUID (_ _ _ : String) : String := "ep"

/-- An outage, a new container in place of the old one, and the outage goes on. -/
def recreatedLife : List ((Op × Sending) × (Nat → Handling)) :=
  [doing (.syncEndpoints sampleLabels) "a", doing (.processCheckResult "ep" refused) "b",
    doing (.processCheckResult "ep" refused) "c", doing (.handleContainerDestroy "c1") "d",
    doing (.syncEndpoints sampleLabels) "e", doing (.processCheckResult "ep" refused) "f"]

/-- **An outage nobody is told about**: the endpoint is active again and fails for the third time in a row,
    its row says alerting, and the engine holds no alert. -/
theorem recreated_endpoint_silent :
    emptyWatch.Undisturbed (performed sampleUID) recreatedLife ∧
      Agrees "ep" emptyWatch.service emptyWatch.engine.holds ∧
      (emptyWatch.run (performed sampleUID) recreatedLife).service.active "ep" = true ∧
      (emptyWatch.run (performed sampleUID) recreatedLife).service.failures "ep" = some 3 ∧
      (emptyWatch.run (performed sampleUID) recreatedLife).service.alerting "ep" = true ∧
      (emptyWatch.run (performed sampleUID) recreatedLife).engine.holds (failureKey "ep") = false := by
  decide

/-- The endpoint is stored. -/
def labelledWatch : Watched Registry := emptyWatch.run (performed sampleUID) (recreatedLife.take 1)

/-- An outage. -/
def outage : List ((Op × Sending) × (Nat → Handling)) :=
  [doing (.processCheckResult "ep" refused) "b", doing (.processCheckResult "ep" refused) "c"]

theorem outage_alerts :
    Agrees "ep" (labelledWatch.run (performed sampleUID) (outage.take 2)).service
        (labelledWatch.run (performed sampleUID) (outage.take 2)).engine.holds ∧
      (labelledWatch.run (performed sampleUID) (outage.take 2)).engine.holds (failureKey "ep") = true := by
  have hheard : labelledWatch.Undisturbed (performed sampleUID) outage := by decide
  obtain ⟨hagrees, hraises⟩ := endpoint_alerts_agree hheard (by decide : Agrees "ep" _ _)
  have hrow : labelledWatch.service.row "ep" = some (Registry.newEndpoint "ep" Containers.localAgent "web"
      ⟨"maintenant.endpoint.http", .http, "http://web/health", ⟨2, 1⟩⟩) := by decide
  have hconfigured : ∀ i ∈ outage, i.1.1.Configures sampleUID "ep" (labelledWatch.service.columns "ep").config := by
    intro i hi
    rcases List.mem_cons.mp hi with rfl | hi
    · trivial
    · obtain rfl := List.mem_singleton.mp hi
      trivial
  refine ⟨hagrees.mpr ?_ 2, (hraises _ hrow hconfigured 1 _ rfl rfl (by decide) (by decide)).1⟩
  intro n hretired
  rcases n with _ | _ | n
  · exact absurd hretired (by decide)
  · exact absurd hretired (by decide)
  · have hend : ∀ m, outage.take (m + 2) = outage := fun m => List.take_of_length_le (Nat.le_add_left 2 m)
    rw [hend, hend] at hretired
    exact absurd hretired (not_retired rfl)

end Maintenant.Endpoints
