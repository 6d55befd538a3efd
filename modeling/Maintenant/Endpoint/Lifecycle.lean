/-
  File:      Maintenant/Endpoint/Lifecycle.lean
  Subject:   ENDPOINTS THAT COME AND GO WITH THEIR CONTAINER (internal/endpoint/service.go:
             `SyncEndpoints`, `SyncAgentEndpoints`, `HandleContainerStop`, `HandleContainerDestroy`,
             `SweepOrphanedLabelEndpoints`; internal/store/endpoints.go: the statements they use).

  An endpoint that loses its label or its container is deactivated, never deleted; the label brings the
  same row back with whatever it held.

  * `Kept` -- the alert state and the failure counter of an endpoint are as they were; every operation
    of this file keeps them;
  * `syncEndpoints_retires`, `handleContainerDestroy_retires`, `sweepOrphanedLabelEndpoints_retires` --
    an active endpoint is reported as removed exactly when it ends inactive.
-/
import Maintenant.Endpoint.Service
import Maintenant.Lib.Passes

namespace Maintenant.Endpoints

open GoTime Containers

/-! ## 1. Data -/

inductive EndpointType where
  | http
  | tcp
deriving DecidableEq, Repr

inductive EndpointSource where
  | label
  | standalone
deriving DecidableEq, Repr

/-- The thresholds of `EndpointConfig`. -/
structure EndpointConfig where
  failureThreshold : Int
  recoveryThreshold : Int
deriving DecidableEq, Repr

/-- The columns of endpoints that the labels decide, beside those of `Endpoint`. -/
structure LabelColumns where
  labelKey : String
  externalID : String
  endpointType : EndpointType
  config : EndpointConfig
  source : EndpointSource
  name : String
deriving DecidableEq, Repr

/-- An endpoint as `ParseEndpointLabels` reads it off the labels. -/
structure ParsedEndpoint where
  labelKey : String
  endpointType : EndpointType
  target : String
  config : EndpointConfig
deriving DecidableEq, Repr

structure LabelParseError where
  labelKey : String
  message : String
deriving DecidableEq, Repr

/-- The labels of a container, parsed; `agentID` is `none` for a container of this host. -/
structure Labels where
  agentID : Option String
  containerName : String
  externalID : String
  parsed : List ParsedEndpoint
  parseErrors : List LabelParseError

/-- The agent whose rows the labels are compared with. -/
def Labels.agent (l : Labels) : String := l.agentID.getD localAgent

/-- Why an endpoint is removed. -/
inductive Reason where
  | labelRemoved
  | containerDestroyed
  | containerGone
deriving DecidableEq, Repr

def Reason.text : Reason → String
  | .labelRemoved => "label_removed"
  | .containerDestroyed => "container_destroyed"
  | .containerGone => "container_gone"

/-- What the service tells its listeners; times are left out. -/
inductive Notice where
  | configError (agentID : Option String) (containerName labelKey error : String)
  | discovered (agentID : Option String) (endpointID containerName : String) (endpointType : EndpointType)
      (target : String)
  | statusChanged (endpointID containerName target : String) (previous new : EndpointStatus) (error : String)
  | removed (agentID : Option String) (endpointID containerName reason : String)
deriving DecidableEq, Repr

/-- The service with the columns the labels decide; `columns` is read under the ids that are stored. -/
structure Registry where
  service : Service
  columns : String → LabelColumns
  notices : List Notice

/-- What an operation meets: the clock, the order the store reads rows in where the query leaves it open,
    and the order a map is ranged over in. -/
structure Meets where
  now : Time
  scan : ∀ l : List Endpoint, { l' : List Endpoint // l'.Perm l }
  range : ∀ l : List Endpoint, { l' : List Endpoint // l'.Perm l }

/-! ## 2. The store -/

namespace Registry

variable (r : Registry)

def note (n : Notice) : Registry := { r with notices := r.notices ++ [n] }

/-- `GetEndpointByID`. -/
def row (id : String) : Option Endpoint := r.service.endpoints.get id

/-- `SELECT … WHERE p AND active=1 ORDER BY le`. -/
def listActive (m : Meets) (p : Endpoint → Bool) (le : Endpoint → Endpoint → Prop) [DecidableRel le] :
    List Endpoint :=
  (m.scan (r.service.endpoints.rows.filter fun ep => p ep && ep.active)).val.insertionSort le

def listEndpointsByExternalID (m : Meets) (agentID externalID : String) : List Endpoint :=
  r.listActive m (fun ep => ep.agentID == uidAgent agentID && (r.columns ep.id).externalID == externalID)
    fun a b => (r.columns a.id).labelKey ≤ (r.columns b.id).labelKey

/-- `ListEndpoints` with `Source: label`, whichever agent. -/
def listLabelEndpoints (m : Meets) : List Endpoint :=
  r.listActive m (fun ep => decide ((r.columns ep.id).source = .label))
    fun a b => a.containerName < b.containerName ∨
      a.containerName = b.containerName ∧ (r.columns a.id).labelKey ≤ (r.columns b.id).labelKey

/-- A label's endpoint when it is new. -/
def newEndpoint (id agentID containerName : String) (p : ParsedEndpoint) : Endpoint where
  id := id
  agentID := agentID
  containerName := containerName
  target := p.target
  active := true
  status := .unknown
  alertState := .normal
  consecutiveFailures := 0
  consecutiveSuccesses := 0
  lastCheckAt := none
  lastResponseTimeMs := none
  lastHTTPStatus := none
  lastError := ""

/-- What `ON CONFLICT(id) DO UPDATE` sets. -/
def relabelled (p : ParsedEndpoint) (ep : Endpoint) : Endpoint := { ep with target := p.target, active := true }

theorem relabelled_id (p : ParsedEndpoint) (ep : Endpoint) : (relabelled p ep).id = ep.id := rfl

/-- `UpsertEndpoint`, under the id that `uid.EndpointLabel` derives. -/
def upsertEndpoint (id agentID containerName externalID : String) (p : ParsedEndpoint) : Registry :=
  let endpoints := r.service.endpoints.upsert (newEndpoint id (uidAgent agentID) containerName p) (relabelled p)
    (relabelled_id p)
  let columns : LabelColumns :=
    if r.service.endpoints.hasKey id then
      { r.columns id with externalID := externalID, endpointType := p.endpointType, config := p.config }
    else ⟨p.labelKey, externalID, p.endpointType, p.config, .label, ""⟩
  { r with
    service := { r.service with endpoints := endpoints }
    columns := Function.update r.columns id columns }

/-- `UPDATE endpoints SET active=0`. -/
def deactivated (ep : Endpoint) : Endpoint := { ep with active := false }

theorem deactivated_id (ep : Endpoint) : (deactivated ep).id = ep.id := rfl

def deactivateEndpoint (id : String) : Registry :=
  let endpoints := r.service.endpoints.update (fun ep => ep.id == id) deactivated deactivated_id
  { r with service := { r.service with endpoints := endpoints } }

/-! ## 3. The service -/

/-- The endpoint is deactivated and reported as removed. -/
def retire (agentID : Option String) (containerName : Endpoint → String) (reason : Reason) (ep : Endpoint) :
    Registry :=
  (r.deactivateEndpoint ep.id).note (.removed agentID ep.id (containerName ep) reason.text)

/-- A loop that retires endpoints; the ids are those the removal callback is called with. -/
def retireAll (agentID : Option String) (containerName : Endpoint → String) (reason : Reason)
    (eps : List Endpoint) : Registry × List String :=
  (eps.foldl (fun r ep => r.retire agentID containerName reason ep) r, eps.map Endpoint.id)

/-- The stored endpoints of the container, the last of each label key. -/
def existingByKey (m : Meets) (l : Labels) : AList fun _ : String => Endpoint :=
  GoMap.insertAll (fun ep => (r.columns ep.id).labelKey) ∅
    (r.listEndpointsByExternalID m l.agent l.externalID)

/-- The stored endpoints whose label is gone. -/
def unlabelled (m : Meets) (l : Labels) : List Endpoint :=
  (m.range (GoMap.valuesWhere (r.existingByKey m l) fun key =>
    !l.parsed.any fun p => p.labelKey == key)).val

def noteParseErrors (l : Labels) : Registry :=
  l.parseErrors.foldl (fun r e => r.note (.configError l.agentID l.containerName e.labelKey e.message)) r

variable (uid : String → String → String → String)

/-- The id of a label's endpoint. -/
def labelID (l : Labels) (p : ParsedEndpoint) : String :=
  uid (uidAgent (l.agentID.getD "")) l.containerName p.labelKey

/-- One label of the loop. -/
def syncLabel (l : Labels) (existing : AList fun _ : String => Endpoint) (p : ParsedEndpoint) : Registry :=
  let id := labelID uid l p
  let next := r.upsertEndpoint id (l.agentID.getD "") l.containerName l.externalID p
  if (existing.lookup p.labelKey).isNone then
    next.note (.discovered l.agentID id l.containerName p.endpointType p.target)
  else next

/-- `SyncEndpoints`, and `SyncAgentEndpoints` for the labels of an agent's container; enrolment in the
    check engine aside, they are the same. `HandleContainerStart` is this too. -/
def syncEndpoints (m : Meets) (l : Labels) : Registry × List String :=
  let existing := r.existingByKey m l
  let synced := l.parsed.foldl (fun r p => r.syncLabel uid l existing p) (r.noteParseErrors l)
  synced.retireAll l.agentID (fun _ => l.containerName) .labelRemoved (r.unlabelled m l)

/-- What a stopped container writes in place of a result. -/
def containerStopped (m : Meets) (ep : Endpoint) : CheckResult where
  endpointID := ep.id
  success := false
  degraded := false
  degradedReason := ""
  responseTimeMs := 0
  httpStatus := none
  errorMessage := "container stopped"
  timestamp := m.now
  replayed := false
  agentID := ""

/-- One endpoint of a stopped container. -/
def stopEndpoint (m : Meets) (ep : Endpoint) : Registry :=
  let env : Env := ⟨m.now, fun _ _ => none⟩
  let service := r.service.updateCheckResult env ep .unknown ep.alertState (containerStopped m ep)
  note { r with service := service }
    (.statusChanged ep.id ep.containerName ep.target ep.status .unknown "container stopped")

def handleContainerStop (m : Meets) (externalID : String) : Registry :=
  (r.listEndpointsByExternalID m localAgent externalID).foldl (fun r ep => r.stopEndpoint m ep) r

def handleContainerDestroy (m : Meets) (externalID : String) : Registry × List String :=
  r.retireAll none Endpoint.containerName .containerDestroyed
    (r.listEndpointsByExternalID m localAgent externalID)

/-- The label endpoints of containers a discovery has not seen. -/
def orphans (m : Meets) (seen : String → Bool) : List Endpoint :=
  (r.listLabelEndpoints m).filter fun ep => !seen (r.columns ep.id).externalID

def sweepOrphanedLabelEndpoints (m : Meets) (seen : String → Bool) : Registry × List String :=
  r.retireAll none Endpoint.containerName .containerGone (r.orphans m seen)

/-! ## 4. What stays -/

/-- The stored alert state is alerting. -/
def alerting (id : String) : Bool := (r.row id).any fun ep => decide (ep.alertState = .alerting)

/-- The endpoint is stored and active. -/
def active (id : String) : Bool := (r.row id).any Endpoint.active

end Registry

/-- The alert state of an endpoint is as it was, and so is the counter of its failures if it was stored. -/
structure Kept (id : String) (r r' : Registry) : Prop where
  alerting : r'.alerting id = r.alerting id
  failures : ∀ ep, r.row id = some ep →
    ∃ ep', r'.row id = some ep' ∧ ep'.consecutiveFailures = ep.consecutiveFailures

namespace Kept

variable {id : String} {r r' r'' : Registry}

theorem of_row (h : r'.row id = r.row id) : Kept id r r' where
  alerting := by unfold Registry.alerting; rw [h]
  failures ep hep := ⟨ep, h.trans hep, rfl⟩

/-- A row that is changed elsewhere. -/
theorem of_change {ep ep' : Endpoint} (hrow : r.row id = some ep) (hrow' : r'.row id = some ep')
    (hstate : ep'.alertState = ep.alertState) (hfailures : ep'.consecutiveFailures = ep.consecutiveFailures) :
    Kept id r r' where
  alerting := by
    unfold Registry.alerting
    rw [hrow, hrow', Option.any_some, Option.any_some, hstate]
  failures ep₀ hep₀ := by
    rw [← Option.some.inj (hrow.symm.trans hep₀)]
    exact ⟨ep', hrow', hfailures⟩

theorem refl (id : String) (r : Registry) : Kept id r r := of_row rfl

theorem trans (h : Kept id r r') (h' : Kept id r' r'') : Kept id r r'' where
  alerting := h'.alerting.trans h.alerting
  failures ep hep := by
    obtain ⟨ep', hep', hfailures⟩ := h.failures ep hep
    obtain ⟨ep'', hep'', hfailures'⟩ := h'.failures ep' hep'
    exact ⟨ep'', hep'', hfailures'.trans hfailures⟩

/-- A loop that keeps the endpoint at each step. -/
theorem foldl {ι : Type} {f : Registry → ι → Registry} (h : ∀ r i, Kept id r (f r i)) (l : List ι)
    (r : Registry) : Kept id r (l.foldl f r) :=
  Passes.le_foldl (Kept id) (refl id) (fun _ _ _ => trans) h l r

end Kept

section Rows

variable {r : Registry} {id : String} {m : Meets}

theorem row_id {ep : Endpoint} (h : r.row id = some ep) : ep.id = id := (Table.get_eq_some.mp h).2

theorem upsertEndpoint_row (k agentID containerName externalID : String) (p : ParsedEndpoint) :
    (r.upsertEndpoint k agentID containerName externalID p).row id = if id = k then
        some ((r.row id).elim (Registry.newEndpoint k (uidAgent agentID) containerName p) (Registry.relabelled p))
      else r.row id :=
  Table.get_upsert id

theorem deactivateEndpoint_row (k : String) : (r.deactivateEndpoint k).row id =
    (r.row id).map fun ep => if ep.id == k then Registry.deactivated ep else ep := by
  show (r.service.endpoints.update _ Registry.deactivated Registry.deactivated_id).get id = _
  rw [Table.get_update]
  rfl

/-- The endpoint stays active through every label. -/
theorem syncLabel_active {uid : String → String → String → String} (l : Labels)
    (existing : AList fun _ : String => Endpoint) (p : ParsedEndpoint) (h : r.active id = true) :
    (r.syncLabel uid l existing p).active id = true := by
  have hupsert : (r.upsertEndpoint (Registry.labelID uid l p) (l.agentID.getD "") l.containerName l.externalID
      p).active id = true := by
    unfold Registry.active
    rw [upsertEndpoint_row]
    split
    · cases r.row id <;> rfl
    · exact h
  unfold Registry.syncLabel
  split <;> exact hupsert

section Retire

variable (agentID : Option String) (containerName : Endpoint → String) (reason : Reason)

theorem retireAll_row (eps : List Endpoint) : (r.retireAll agentID containerName reason eps).1.row id =
      (r.row id).map fun ep => if ep.id ∈ eps.map Endpoint.id then Registry.deactivated ep else ep := by
  unfold Registry.retireAll
  induction eps generalizing r with
  | nil => simp
  | cons ep _ ih =>
    have hone : (r.retire agentID containerName reason ep).row id = _ := deactivateEndpoint_row ep.id
    rw [List.foldl_cons, ih, hone, Option.map_map]
    congr 1
    funext ep'
    by_cases hid : ep'.id = ep.id <;> simp [hid, Registry.deactivated]

/-- **A loop that retires**: exactly its endpoints end inactive. -/
theorem retireAll_active (eps : List Endpoint) : (r.retireAll agentID containerName reason eps).1.active id =
      (r.active id && decide (id ∉ eps.map Endpoint.id)) := by
  unfold Registry.active
  rw [retireAll_row]
  cases hrow : r.row id with
  | none => rfl
  | some =>
    rw [Option.map_some, Option.any_some, Option.any_some, row_id hrow]
    by_cases hk : id ∈ eps.map Endpoint.id <;> simp [hk, Registry.deactivated]

theorem kept_retire (ep : Endpoint) : Kept id r (r.retire agentID containerName reason ep) := by
  have hrow : (r.retire agentID containerName reason ep).row id = _ := deactivateEndpoint_row ep.id
  cases hep : r.row id with
  | none =>
    rw [hep] at hrow
    exact .of_row (hrow.trans hep.symm)
  | some =>
    rw [hep, Option.map_some] at hrow
    refine .of_change hep hrow ?_ ?_
    · split <;> rfl
    · split <;> rfl

theorem kept_retireAll (eps : List Endpoint) : Kept id r (r.retireAll agentID containerName reason eps).1 :=
  .foldl (fun _ ep => kept_retire agentID containerName reason ep) eps r

end Retire

/-! ### Every operation keeps the alert state -/

theorem kept_upsertEndpoint (k agentID containerName externalID : String) (p : ParsedEndpoint) :
    Kept id r (r.upsertEndpoint k agentID containerName externalID p) := by
  have hrow : (r.upsertEndpoint k agentID containerName externalID p).row id = _ :=
    upsertEndpoint_row k agentID containerName externalID p
  by_cases hk : id = k
  · rw [if_pos hk] at hrow
    cases hep : r.row id with
    | some =>
      rw [hep] at hrow
      exact .of_change hep hrow rfl rfl
    | none =>
      rw [hep] at hrow
      constructor
      · unfold Registry.alerting
        rw [hrow, hep]
        rfl
      · intro ep h
        cases hep.symm.trans h
  · rw [if_neg hk] at hrow
    exact .of_row hrow

theorem kept_syncLabel {uid : String → String → String → String} (l : Labels)
    (existing : AList fun _ : String => Endpoint) (p : ParsedEndpoint) : Kept id r (r.syncLabel uid l existing p) := by
  have hupsert : Kept id r (r.upsertEndpoint _ _ _ _ p) :=
    kept_upsertEndpoint (Registry.labelID uid l p) (l.agentID.getD "") l.containerName l.externalID p
  unfold Registry.syncLabel
  split
  · exact hupsert.trans (.of_row rfl)
  · exact hupsert

theorem kept_noteParseErrors (l : Labels) : Kept id r (r.noteParseErrors l) := by
  refine Kept.foldl ?_ l.parseErrors r
  intro r e
  exact .of_row rfl

theorem kept_syncEndpoints (uid : String → String → String → String) (l : Labels) :
    Kept id r (r.syncEndpoints uid m l).1 :=
  (kept_noteParseErrors l).trans <|
    (Kept.foldl (fun _ p => kept_syncLabel l (r.existingByKey m l) p) l.parsed _).trans <|
      kept_retireAll l.agentID _ .labelRemoved (r.unlabelled m l)

theorem stopEndpoint_get (ep : Endpoint) : (r.stopEndpoint m ep).row id =
    (r.row id).map fun row => if row.id == ep.id then
      Endpoint.written ⟨m.now, fun _ _ => none⟩ ep .unknown ep.alertState (Registry.containerStopped m ep) row
    else row := by
  show (r.service.updateCheckResult _ ep .unknown ep.alertState _).endpoints.get id = _
  unfold Service.updateCheckResult
  dsimp only
  rw [Table.get_update]
  rfl

theorem mem_listActive {p : Endpoint → Bool} {le : Endpoint → Endpoint → Prop} [DecidableRel le]
    {ep : Endpoint} (h : ep ∈ r.listActive m p le) : r.row ep.id = some ep ∧ ep.active = true := by
  unfold Registry.listActive at h
  rw [List.mem_insertionSort, (m.scan _).property.mem_iff, List.mem_filter, Bool.and_eq_true] at h
  exact ⟨Table.get_eq_some.mpr ⟨h.1, rfl⟩, h.2.2⟩

variable (externalID : String)

/-- **A stopped container** leaves the alert state, the counter and the activity of its endpoints: each is
    written back as it was listed. -/
theorem handleContainerStop_row {ep₀ : Endpoint} (hrow : r.row id = some ep₀) :
    ∃ ep, (r.handleContainerStop m externalID).row id = some ep ∧ ep.alertState = ep₀.alertState ∧
      ep.consecutiveFailures = ep₀.consecutiveFailures ∧ ep.active = ep₀.active := by
  refine List.foldlRecOn _ _ (motive := fun r' : Registry => ∃ ep, r'.row id = some ep ∧
    ep.alertState = ep₀.alertState ∧ ep.consecutiveFailures = ep₀.consecutiveFailures ∧
    ep.active = ep₀.active) ⟨ep₀, hrow, rfl, rfl, rfl⟩ ?_
  intro r' hr' listed hlisted
  obtain ⟨ep, hep, hstate, hfailures, hactive⟩ := hr'
  have hget : (r'.stopEndpoint m listed).row id = _ := stopEndpoint_get listed
  rw [hep, Option.map_some] at hget
  refine ⟨_, hget, ?_⟩
  split
  · next h =>
    have hid : listed.id = id := (beq_iff_eq.mp h).symm.trans (row_id hep)
    have hstored := (mem_listActive hlisted).1
    rw [hid, hrow] at hstored
    obtain rfl : ep₀ = listed := Option.some.inj hstored
    exact ⟨rfl, rfl, hactive⟩
  · exact ⟨hstate, hfailures, hactive⟩

theorem handleContainerStop_absent (hrow : r.row id = none) :
    (r.handleContainerStop m externalID).row id = none := by
  refine List.foldlRecOn _ _ (motive := fun r' : Registry => r'.row id = none) hrow ?_
  intro r' hr' listed _
  rw [stopEndpoint_get, hr']
  rfl

theorem kept_handleContainerStop : Kept id r (r.handleContainerStop m externalID) := by
  cases hrow : r.row id with
  | none => exact .of_row ((handleContainerStop_absent externalID hrow).trans hrow.symm)
  | some =>
    obtain ⟨ep, hep, hstate, hfailures, -⟩ := handleContainerStop_row externalID hrow
    exact .of_change hrow hep hstate hfailures

theorem handleContainerStop_active :
    (r.handleContainerStop m externalID).active id = r.active id := by
  unfold Registry.active
  cases hrow : r.row id with
  | none => rw [handleContainerStop_absent externalID hrow]
  | some =>
    obtain ⟨ep, hep, -, -, hactive⟩ := handleContainerStop_row externalID hrow
    rw [hep, Option.any_some, Option.any_some, hactive]

/-! ### Who is removed -/

/-- The endpoint was active and is no longer. -/
def Retired (id : String) (r r' : Registry) : Prop := r.active id = true ∧ r'.active id = false
deriving Decidable

theorem active_of_listed {p : Endpoint → Bool} {le : Endpoint → Endpoint → Prop} [DecidableRel le]
    {eps : List Endpoint} (hsub : ∀ ep ∈ eps, ep ∈ r.listActive m p le) (h : id ∈ eps.map Endpoint.id) :
    r.active id = true := by
  obtain ⟨ep, hep, rfl⟩ := List.mem_map.mp h
  obtain ⟨hrow, hactive⟩ := mem_listActive (hsub ep hep)
  unfold Registry.active
  rw [hrow, Option.any_some, hactive]

/-- A loop over listed endpoints, after changes that deactivate none. -/
theorem retireAll_retires {r' : Registry} {agentID : Option String} {containerName : Endpoint → String}
    {reason : Reason} {eps : List Endpoint} (hlisted : id ∈ eps.map Endpoint.id → r.active id = true)
    (hactive : r.active id = true → r'.active id = true) :
    id ∈ (r'.retireAll agentID containerName reason eps).2 ↔
      Retired id r (r'.retireAll agentID containerName reason eps).1 := by
  have hids : (r'.retireAll agentID containerName reason eps).2 = eps.map Endpoint.id := rfl
  unfold Retired
  rw [retireAll_active, hids]
  constructor
  · intro h
    exact ⟨hlisted h, by simp [h]⟩
  · intro h
    rw [hactive h.1, Bool.true_and, decide_eq_false_iff_not, not_not] at h
    exact h.2

theorem unlabelled_listed (l : Labels) : ∀ ep ∈ r.unlabelled m l,
    ep ∈ r.listEndpointsByExternalID m l.agent l.externalID := by
  intro ep h
  unfold Registry.unlabelled at h
  rw [(m.range _).property.mem_iff] at h
  obtain ⟨key, -, hkey⟩ := GoMap.mem_valuesWhere.mp h
  exact (GoMap.mem_of_insertAll hkey).1

theorem syncEndpoints_retires (uid : String → String → String → String) (l : Labels) :
    id ∈ (r.syncEndpoints uid m l).2 ↔ Retired id r (r.syncEndpoints uid m l).1 := by
  refine retireAll_retires (active_of_listed (unlabelled_listed l)) fun h => ?_
  have hnoted : (r.noteParseErrors l).active id = true :=
    List.foldlRecOn _ _ (motive := fun r' : Registry => r'.active id = true) h fun _ h _ _ => h
  exact List.foldlRecOn _ _ (motive := fun r' : Registry => r'.active id = true) hnoted
    fun _ h p _ => syncLabel_active l _ p h

theorem handleContainerDestroy_retires (externalID : String) :
    id ∈ (r.handleContainerDestroy m externalID).2 ↔ Retired id r (r.handleContainerDestroy m externalID).1 :=
  retireAll_retires (active_of_listed fun _ h => h) fun h => h

theorem sweepOrphanedLabelEndpoints_retires (seen : String → Bool) :
      id ∈ (r.sweepOrphanedLabelEndpoints m seen).2 ↔ Retired id r (r.sweepOrphanedLabelEndpoints m seen).1 :=
  retireAll_retires (active_of_listed fun _ h => List.mem_of_mem_filter h) fun h => h

end Rows

end Maintenant.Endpoints
