/-
  File:      Maintenant/Update/Alerts.lean
  Subject:   THE ALERTS OF PENDING UPDATES AND THE FINDINGS (internal/app/wiring.go: `updateDetectedAlert`,
             `updateResolvedAlert`, `wireUpdateCallback`), over any passes.

  A pass first announces what it found and then resolves what is stale. A container whose update moved
  on to a newer tag is in both lists, and the second one wins.

  * `Inventory` -- containers that keep their name and their id;
  * `finding_listed`, `finding_other`, `pass_holds` -- the findings and the alerts after one pass;
  * `update_alerts_follow` -- they agree as long as no pass finds another update than the one on record.
-/
import Maintenant.Update.Service
import Maintenant.Alert.Held

namespace Maintenant.Updates

open GoTime Alerting

/-! ## 1. The callback -/

/-- What the callback looks up: the clock, and the details of an update as JSON, with the changelog fields
    if the edition has them. -/
structure Sending where
  now : Time
  details : Detected → Except Unit String

/-- The entity of an update alert. -/
def entityID (containerUID containerID : String) : String := if containerUID = "" then containerID else containerUID

def updateDetectedAlert (x : Sending) (d : Detected) : Event where
  source := "update"
  alertType := "update_available"
  severity :=
    if 81 ≤ d.riskScore then severityCritical else if 61 ≤ d.riskScore then severityWarning else severityInfo
  isRecover := false
  message := "Update available for " ++ d.containerName ++ ": " ++ d.latestTag
  entityType := "container"
  entityID := entityID d.containerUID d.containerID
  entityName := d.containerName
  details := some (x.details d)
  timestamp := x.now

def updateResolvedAlert (x : Sending) (containerID containerUID containerName : String) : Event where
  source := "update"
  alertType := "update_available"
  severity := severityInfo
  isRecover := true
  message := "Update no longer required for " ++ containerName
  entityType := "container"
  entityID := entityID containerUID containerID
  entityName := containerName
  details := none
  timestamp := x.now

/-- What the event callback sends the engine. -/
def updateSignals (x : Sending) : Emitted → List Signal
  | .detected d => [.event (updateDetectedAlert x d)]
  | .resolved containerID containerUID containerName =>
    if containerName = "" then [] else [.event (updateResolvedAlert x containerID containerUID containerName)]
  | .scanStarted _ | .scanCompleted .. => []

/-- The key of a container's update alert. -/
def updateKey (entity : String) : ActiveAlertKey := ⟨"update", "update_available", "container", entity⟩

/-- A pass, and what the engine is sent for it. -/
def passed (p : Packages) (s : Service) (i : Pass × Sending) : Service × List Signal :=
  ((runScan p s i.1).1, (runScan p s i.1).2.flatMap (updateSignals i.2))

/-! ## 2. What is asked for -/

/-- Containers that are told apart by their external ids, their names and their uids, each of which stays.
    Where two share a name, or one is created again under it, `persisted_last` says whose the finding is:
    an update that is written before another one's under the same key has none. -/
structure Inventory where
  ids : String → Prop
  name : String → String
  uid : String → String
  name_inj : ∀ a b, ids a → ids b → name a = name b → a = b
  uid_inj : ∀ a b, ids a → ids b → uid a = uid b → a = b
  named : ∀ a, ids a → name a ≠ ""
  identified : ∀ a, ids a → uid a ≠ ""

/-- A pass over containers of the inventory in which every statement succeeds; what it lists is stored
    while it runs, and the inventory's containers are never purged. -/
structure Inventory.Scans (v : Inventory) (x : Pass) (scanID : String) (containers : List ContainerInfo) : Prop where
  lists : x.Lists scanID containers
  inserts : ∀ n, x.inserts n = .done
  staleListed : x.staleListed = true
  staleDeleted : x.staleDeleted.executed = true
  orphansListed : x.orphansListed = true
  orphansDeleted : x.orphansDeleted.executed = true
  known : ∀ c ∈ containers, v.ids c.externalID ∧ c.name = v.name c.externalID ∧ c.uid = v.uid c.externalID
  nodup : (containers.map ContainerInfo.externalID).Nodup
  live : ∀ c ∈ containers, x.live c.externalID = true
  uidOf : ∀ a, v.ids a → x.uidOf a = v.uid a

/-- image_updates has a finding for the container. -/
def HasFinding (s : Service) (externalID : String) : Prop := ∃ row ∈ s.updates, row.containerID = externalID

/-- The scan of the pass reports an update for the container. -/
def Reports (p : Packages) (x : Pass) (containers : List ContainerInfo) (s : Service) (c : ContainerInfo) : Prop :=
  ∃ r, (c, .update r) ∈ outcomes p x.scan containers s.baselines

/-- The findings are of containers of the inventory, under their names. -/
def Inventory.Knows (v : Inventory) (t : Table ImageUpdate.key) : Prop :=
  ∀ row ∈ t, v.ids row.containerID ∧ row.containerName = v.name row.containerID

/-- The findings are of containers of the inventory, and each of these has an alert exactly when it has a
    finding. -/
structure Consistent (v : Inventory) (s : Service) (held : ActiveAlertKey → Bool) : Prop where
  known : v.Knows s.updates
  agrees : ∀ a, v.ids a → (held (updateKey (v.uid a)) = true ↔ HasFinding s a)

/-- No update is found for a container that has another one on record. -/
def Steady (p : Packages) (x : Pass) (containers : List ContainerInfo) (s : Service) : Prop :=
  ∀ c r, (c, .update r) ∈ outcomes p x.scan containers s.baselines → ∀ row ∈ s.updates,
    row.containerID = c.externalID → row.image = r.image ∧ row.latestTag = r.latestTag

/-! ## 3. The findings after a pass -/

section Findings

variable {p : Packages} {v : Inventory} {x : Pass} {scanID : String} {containers : List ContainerInfo} {s : Service}
  {c : ContainerInfo} {a : String} {row : ImageUpdate} {r : UpdateResult}

theorem results_hasUpdate : ∀ r ∈ (scan p x.scan containers s.baselines).results, r.hasUpdate = true := by
  intro r hr
  obtain ⟨c, -, -, hof⟩ := mem_results_of hr
  exact hof.hasUpdate

/-- No result is for a container that is not listed. -/
theorem results_listed (ha : ∀ c ∈ containers, c.externalID ≠ a) :
    ∀ r ∈ (scan p x.scan containers s.baselines).results, r.containerID ≠ a := by
  intro r hr hid
  obtain ⟨c, hc, -, hof⟩ := mem_results_of hr
  exact ha c hc (hof.containerID.symm.trans hid)

/-- A finding of the pass is of a container that it reports. -/
theorem reported_of_written (hrow : row ∈ (inserted p x scanID containers s).updates)
    (hnew : row ∉ s.updates) : ∃ c ∈ containers, row.containerID = c.externalID ∧ row.scanID = scanID ∧
      Reports p x containers s c := by
  rcases persisted_mem hrow with hold | ⟨q, hq, -, hwritten⟩
  · exact absurd hold hnew
  · obtain ⟨c, hc, houtcome, hof⟩ := mem_results_of (List.fst_mem_of_mem_zipIdx hq)
    exact ⟨c, hc, hwritten.2.trans hof.containerID, hwritten.1, q.1, houtcome⟩

/-- The pass resolves the update of a container. -/
def ResolvesID (p : Packages) (x : Pass) (scanID : String) (containers : List ContainerInfo) (s : Service)
    (a : String) : Prop :=
  ∃ su ∈ (cleaned x scanID containers (inserted p x scanID containers s).updates).2, su.containerID = a

variable (hscan : v.Scans x scanID containers)
include hscan

namespace Inventory.Scans

/-- A name belongs to one container. -/
theorem id_of_name (ha : v.ids a) (hc : c ∈ containers) (h : v.name a = c.name) : a = c.externalID := by
  obtain ⟨hid, hname, -⟩ := hscan.known c hc
  exact v.name_inj a c.externalID ha hid (h.trans hname)

theorem eq_of_id {c' : ContainerInfo} (hc : c ∈ containers) (hc' : c' ∈ containers)
    (h : c.externalID = c'.externalID) : c = c' :=
  List.inj_on_of_nodup_map hscan.nodup hc hc' h

variable (hr : r ∈ (scan p x.scan containers s.baselines).results)

include hr

/-- A result for a listed container is that container's outcome. -/
theorem outcome_of_id (hc : c ∈ containers) (h : r.containerID = c.externalID) :
    (c, .update r) ∈ outcomes p x.scan containers s.baselines := by
  obtain ⟨c', hc', houtcome, hof⟩ := mem_results_of hr
  have hsame : c' = c := hscan.eq_of_id hc' hc (hof.containerID.symm.trans h)
  exact hsame ▸ houtcome

/-- The key of a result tells whose it is. -/
theorem id_of_key (ha : v.ids a) {k : String × String × String} (hname : k.1 = v.name a)
    (hk : k = (toImageUpdate x scanID r).key) : r.containerID = a := by
  obtain ⟨c, hc, -, hof⟩ := mem_results_of hr
  have hrname : k.1 = c.name := (congrArg Prod.fst hk).trans hof.containerName
  rw [hof.containerID, hscan.id_of_name ha hc (hname.symm.trans hrname)]

/-- The result of a container is on record. -/
theorem written :
    ∃ row, (inserted p x scanID containers s).updates.get (toImageUpdate x scanID r).key = some row ∧
      row.Written scanID r.containerID := by
  obtain ⟨c, hc, -, hof⟩ := mem_results_of hr
  obtain ⟨hid, hname, -⟩ := hscan.known c hc
  obtain ⟨n, hn⟩ := List.mem_iff_getElem?.mp hr
  have hwrites : x.writes (toImageUpdate x scanID r).key (r, n) = true := by
    simp [Pass.writes, hof.hasUpdate, hscan.inserts, Write.executed, toImageUpdate, ImageUpdate.key]
  obtain ⟨q, hq, hlast, row, hget, hwritten⟩ :=
    persisted_last ⟨(r, n), List.mem_zipIdx_iff_getElem?.mpr hn, hwrites⟩
  have hsame : q.1.containerID = c.externalID := hscan.id_of_key (List.fst_mem_of_mem_zipIdx hq) hid
    (hof.containerName.trans hname) (key_of_writes scanID hlast)
  exact ⟨row, hget, hwritten.1, hwritten.2.trans (hsame.trans hof.containerID.symm)⟩

omit hr

/-- What the pass leaves of the findings. -/
theorem mem_after :
    row ∈ (scanPass p x scanID containers s).1.updates ↔ row ∈ (inserted p x scanID containers s).updates ∧
        isStale scanID (containers.map ContainerInfo.name) row = false ∧
        (containers ≠ [] → x.live row.containerID = true) := by
  refine mem_cleaned.trans ?_
  simp only [hscan.staleDeleted, hscan.orphansListed, hscan.orphansDeleted, forall_true_left]

/-- The findings of a listed container are under a scanned name. -/
theorem name_listed {t : Table ImageUpdate.key} (hknown : v.Knows t) (hrow : row ∈ t) (hc : c ∈ containers)
    (hid : row.containerID = c.externalID) : row.containerName ∈ containers.map ContainerInfo.name := by
  rw [(hknown row hrow).2, hid, ← (hscan.known c hc).2.1]
  exact List.mem_map_of_mem hc

variable (hknown : v.Knows s.updates)
include hknown

theorem knows_inserted : v.Knows (inserted p x scanID containers s).updates := by
  intro row hrow
  rcases persisted_mem hrow with hold | ⟨q, hq, hwrites, hwritten⟩
  · exact hknown row hold
  · obtain ⟨c, hc, -, hof⟩ := mem_results_of (List.fst_mem_of_mem_zipIdx hq)
    obtain ⟨hid, hname, -⟩ := hscan.known c hc
    have hrowname : row.containerName = c.name :=
      (congrArg Prod.fst (key_of_writes scanID hwrites)).trans hof.containerName
    rw [hwritten.2, hof.containerID, hrowname]
    exact ⟨hid, hname⟩

/-- A finding that no result of its own container replaces is still there. -/
theorem mem_inserted (hrow : row ∈ s.updates) (hother : ∀ r ∈ (scan p x.scan containers s.baselines).results,
      r.containerID = row.containerID → row.key ≠ (toImageUpdate x scanID r).key) :
    row ∈ (inserted p x scanID containers s).updates := by
  obtain ⟨hid, hname⟩ := hknown row hrow
  have hget : (inserted p x scanID containers s).updates.get row.key = some row := by
    refine (persisted_other fun q hq => ?_).trans (Table.get_eq_some.mpr ⟨hrow, rfl⟩)
    rw [← Bool.not_eq_true]
    intro hwrites
    have hr := List.fst_mem_of_mem_zipIdx hq
    have hkey := key_of_writes scanID hwrites
    exact hother q.1 hr (hscan.id_of_key hr hid hname hkey) hkey
  exact (Table.get_eq_some.mp hget).1

/-- **A listed container has a finding after the pass exactly when the pass reports it.** -/
theorem finding_listed (hfresh : ∀ row ∈ s.updates, row.scanID ≠ scanID) (hc : c ∈ containers) :
    HasFinding (scanPass p x scanID containers s).1 c.externalID ↔ Reports p x containers s c := by
  constructor
  · rintro ⟨row, hrow, hid⟩
    obtain ⟨hinserted, hstale, -⟩ := hscan.mem_after.mp hrow
    have hname : row.containerName ∈ containers.map ContainerInfo.name :=
      hscan.name_listed (hscan.knows_inserted hknown) hinserted hc hid
    have hnew : row ∉ s.updates := fun hold => hfresh row hold (not_stale_iff.mp hstale hname)
    obtain ⟨c', hc', hid', -, hreports⟩ := reported_of_written hinserted hnew
    rw [hscan.eq_of_id hc hc' (hid.symm.trans hid')]
    exact hreports
  · rintro ⟨r, houtcome⟩
    obtain ⟨row, hget, hwritten⟩ := hscan.written (mem_scan_results.mpr ⟨c, houtcome⟩)
    have hid : row.containerID = c.externalID := hwritten.2.trans (outcome_update houtcome).containerID
    refine ⟨row, hscan.mem_after.mpr ⟨(Table.get_eq_some.mp hget).1, not_stale_iff.mpr fun _ => hwritten.1, ?_⟩,
      hid⟩
    rw [hid]
    exact fun _ => hscan.live c hc

variable (ha : ∀ c ∈ containers, c.externalID ≠ a)

include ha

/-- The findings of a container that the pass does not list. -/
theorem mem_inserted_other (hrow : row.containerID = a) :
    row ∈ (inserted p x scanID containers s).updates ↔ row ∈ s.updates := by
  constructor
  · intro hinserted
    by_contra hnew
    obtain ⟨c, hc, hid, -⟩ := reported_of_written hinserted hnew
    exact ha c hc (hid.symm.trans hrow)
  · intro hold
    refine hscan.mem_inserted hknown hold fun r hr hid => ?_
    exact absurd (hid.trans hrow) (results_listed ha r hr)

/-- They are never stale: none of the scanned names is theirs. -/
theorem not_stale_other (hrow : row ∈ s.updates) (hrowid : row.containerID = a) :
    isStale scanID (containers.map ContainerInfo.name) row = false := by
  refine not_stale_iff.mpr fun hname => ?_
  obtain ⟨hid, hrowname⟩ := hknown row hrow
  obtain ⟨c, hc, hcname⟩ := List.mem_map.mp hname
  have hsame : row.containerID = c.externalID := hscan.id_of_name hid hc (hrowname.symm.trans hcname.symm)
  exact absurd (hsame.symm.trans hrowid) (ha c hc)

/-- **A container that the pass does not list keeps its findings while it is stored.** -/
theorem finding_other : HasFinding (scanPass p x scanID containers s).1 a ↔
      HasFinding s a ∧ (containers ≠ [] → x.live a = true) := by
  constructor
  · rintro ⟨row, hrow, rfl⟩
    obtain ⟨hinserted, -, hlive⟩ := hscan.mem_after.mp hrow
    exact ⟨⟨row, (hscan.mem_inserted_other hknown ha rfl).mp hinserted, rfl⟩, hlive⟩
  · rintro ⟨⟨row, hrow, rfl⟩, hlive⟩
    exact ⟨row, hscan.mem_after.mpr ⟨(hscan.mem_inserted_other hknown ha rfl).mpr hrow,
      hscan.not_stale_other hknown ha hrow rfl, hlive⟩, rfl⟩

omit ha

/-! ### What is resolved -/

/-- A listed container is resolved exactly when it has a finding that the pass does not refresh. -/
theorem resolves_listed (hfresh : ∀ row ∈ s.updates, row.scanID ≠ scanID) (hc : c ∈ containers) :
    ResolvesID p x scanID containers s c.externalID ↔ ∃ row ∈ s.updates, row.containerID = c.externalID ∧
        ∀ r, (c, .update r) ∈ outcomes p x.scan containers s.baselines →
        row.key ≠ (toImageUpdate x scanID r).key := by
  constructor
  · rintro ⟨su, hsu, hid⟩
    rcases mem_resolved.mp hsu with ⟨-, row, hrow, hstale, rfl⟩ | ⟨-, -, row, -, -, hdead, rfl⟩
    · have hunrefreshed : row.scanID ≠ scanID := by
        intro hscanID
        simp [not_stale_iff.mpr fun _ => hscanID] at hstale
      have hold : row ∈ s.updates := by
        by_contra hnew
        obtain ⟨-, -, -, hscanID, -⟩ := reported_of_written hrow hnew
        exact hunrefreshed hscanID
      refine ⟨row, hold, hid, fun r houtcome hkey => ?_⟩
      obtain ⟨row', hget, hwritten⟩ := hscan.written (mem_scan_results.mpr ⟨c, houtcome⟩)
      obtain ⟨hrow', hkey'⟩ := Table.get_eq_some.mp hget
      have hsame : row = row' := Table.eq_of_key _ hrow hrow' (hkey.trans hkey'.symm)
      exact hunrefreshed (hsame ▸ hwritten.1)
    · have hdead' : x.live c.externalID = false := hid ▸ hdead
      simp [hscan.live c hc] at hdead'
  · rintro ⟨row, hrow, hid, hother⟩
    have hinserted : row ∈ (inserted p x scanID containers s).updates := by
      refine hscan.mem_inserted hknown hrow fun r hr hrid => ?_
      exact hother r (hscan.outcome_of_id hr hc (hrid.trans hid))
    have hstale : isStale scanID (containers.map ContainerInfo.name) row = true := by
      rw [← Bool.not_eq_false, not_stale_iff]
      intro h
      exact hfresh row hrow (h (hscan.name_listed hknown hrow hc hid))
    exact ⟨_, mem_resolved.mpr (.inl ⟨hscan.staleListed, row, hinserted, hstale, rfl⟩), hid⟩

theorem resolves_other (ha : ∀ c ∈ containers, c.externalID ≠ a) :
    ResolvesID p x scanID containers s a ↔ HasFinding s a ∧ containers ≠ [] ∧ x.live a = false := by
  constructor
  · rintro ⟨su, hsu, hsuid⟩
    rcases mem_resolved.mp hsu with ⟨-, row, hrow, hstale, rfl⟩ | ⟨hne, -, row, hrow, -, hdead, rfl⟩
    · have hold : row ∈ s.updates := (hscan.mem_inserted_other hknown ha hsuid).mp hrow
      simp [hscan.not_stale_other hknown ha hold hsuid] at hstale
    · exact ⟨⟨row, (hscan.mem_inserted_other hknown ha hsuid).mp hrow, hsuid⟩, hne, hsuid ▸ hdead⟩
  · rintro ⟨⟨row, hrow, hrowid⟩, hne, hdead⟩
    exact ⟨_, mem_resolved.mpr (.inr ⟨hne, hscan.orphansListed, row,
      (hscan.mem_inserted_other hknown ha hrowid).mpr hrow, fun _ => hscan.not_stale_other hknown ha hrow hrowid,
      hrowid.symm ▸ hdead, rfl⟩), hrowid⟩

end Inventory.Scans

end Findings

/-! ## 4. The alerts after a pass -/

section Alerts

variable {p : Packages} {v : Inventory} {x : Pass} {y : Sending} {scanID : String} {containers : List ContainerInfo}
  {s : Service} {c : ContainerInfo} {a : String} {held : Bool}

/-- What is announced sets the alerts. -/
theorem detected_on (entity : String) (l : List Detected) :
    Signal.onAll (updateKey entity) held ((l.map Emitted.detected).flatMap (updateSignals y)) =
      (held || l.any fun d => decide (entityID d.containerUID d.containerID = entity)) := by
  induction l generalizing held with
  | nil => simp
  | cons d l ih =>
    have hone : Signal.onAll (updateKey entity) held (updateSignals y (.detected d)) =
        (held || decide (entityID d.containerUID d.containerID = entity)) := by
      by_cases hd : entityID d.containerUID d.containerID = entity <;>
        simp [updateSignals, Signal.on, Event.key, updateDetectedAlert, updateKey, hd]
    rw [List.map_cons, List.flatMap_cons, Signal.onAll_append, hone, ih, List.any_cons, Bool.or_assoc]

/-- The entity whose alert a stale finding resolves. -/
def resolvedEntity (containers : List ContainerInfo) (su : StaleImageUpdate) : String :=
  entityID (if su.containerUID = "" then containerUID containers su.containerID else su.containerUID) su.containerID

/-- What is resolved clears them. -/
theorem resolved_on (entity : String) (l : List StaleImageUpdate) (hnamed : ∀ su ∈ l, su.containerName ≠ "") :
    Signal.onAll (updateKey entity) held ((l.map (toResolved containers)).flatMap (updateSignals y)) =
      (held && !l.any fun su => decide (resolvedEntity containers su = entity)) := by
  induction l generalizing held with
  | nil => simp
  | cons su l ih =>
    have hone : Signal.onAll (updateKey entity) held (updateSignals y (toResolved containers su)) =
        (held && !decide (resolvedEntity containers su = entity)) := by
      have hname : su.containerName ≠ "" := hnamed su List.mem_cons_self
      by_cases hsu : resolvedEntity containers su = entity
      · simp [toResolved, updateSignals, hname, Signal.on, Event.key, updateResolvedAlert, updateKey, ← hsu,
          resolvedEntity]
      · have hne : ¬entityID (if su.containerUID = "" then containerUID containers su.containerID
            else su.containerUID) su.containerID = entity := hsu
        simp [toResolved, updateSignals, hname, Signal.on, Event.key, updateResolvedAlert, updateKey, hne, hsu]
    rw [List.map_cons, List.flatMap_cons, Signal.onAll_append, hone,
      ih fun su' hsu' => hnamed su' (List.mem_cons_of_mem su hsu'), List.any_cons, Bool.not_or, Bool.and_assoc]

theorem entityID_uid (ha : v.ids a) : entityID (v.uid a) a = v.uid a := if_neg (v.identified a ha)

/-- The container's alert agrees with its findings after the pass, and these with the scan. -/
def Follows (p : Packages) (x : Pass) (containers : List ContainerInfo) (s s' : Service)
    (held : ActiveAlertKey → Bool) (v : Inventory) (c : ContainerInfo) : Prop :=
  (held (updateKey (v.uid c.externalID)) = true ↔ HasFinding s' c.externalID) ∧
    (HasFinding s' c.externalID ↔ Reports p x containers s c)

variable (hscan : v.Scans x scanID containers)
include hscan

namespace Inventory.Scans

/-- The uid of a listed container is found. -/
theorem containerUID_eq (hc : c ∈ containers) :
    containerUID containers c.externalID = v.uid c.externalID := by
  have hlookup : (containerByID containers).lookup c.externalID = some c :=
    GoMap.insertAll_of_mem (fun c hc c' hc' h => hscan.eq_of_id hc hc' h) hc
  unfold containerUID
  rw [hlookup]
  exact (hscan.known c hc).2.2

variable (hknown : v.Knows s.updates)

include hknown

/-- Every finding that is resolved is resolved for its own container. -/
theorem resolved_entity {su : StaleImageUpdate}
    (hsu : su ∈ (cleaned x scanID containers (inserted p x scanID containers s).updates).2) :
    v.ids su.containerID ∧ su.containerName ≠ "" ∧ resolvedEntity containers su = v.uid su.containerID := by
  rcases mem_resolved.mp hsu with ⟨-, row, hrow, hstale, rfl⟩ | ⟨-, -, row, hrow, -, -, rfl⟩
  · obtain ⟨hid, hname⟩ := hscan.knows_inserted hknown row hrow
    unfold isStale at hstale
    rw [Bool.and_eq_true, decide_eq_true_eq] at hstale
    obtain ⟨c, hc, hcname⟩ := List.mem_map.mp hstale.2
    have hrowid : row.containerID = c.externalID := hscan.id_of_name hid hc (hname.symm.trans hcname.symm)
    refine ⟨hid, hname ▸ v.named _ hid, ?_⟩
    show entityID (containerUID containers row.containerID) row.containerID = v.uid row.containerID
    rw [hrowid, hscan.containerUID_eq hc]
    exact entityID_uid (hrowid ▸ hid)
  · obtain ⟨hid, hname⟩ := hscan.knows_inserted hknown row hrow
    refine ⟨hid, hname ▸ v.named _ hid, ?_⟩
    unfold resolvedEntity
    rw [hscan.uidOf _ hid, if_neg (v.identified _ hid)]
    exact entityID_uid hid

/-- **The alert of a container after a pass**: it was active or is announced, and it is not resolved. -/
theorem pass_holds (ha : v.ids a) :
    Signal.onAll (updateKey (v.uid a)) held ((scanPass p x scanID containers s).2.flatMap (updateSignals y)) = true ↔
      (held = true ∨ ∃ r ∈ (scan p x.scan containers s.baselines).results, r.containerID = a) ∧
        ¬ResolvesID p x scanID containers s a := by
  have hsplit : ∀ started completed, updateSignals y started = [] → updateSignals y completed = [] →
      ∀ l l' : List Emitted, (started :: (l ++ l' ++ [completed])).flatMap (updateSignals y) =
        l.flatMap (updateSignals y) ++ l'.flatMap (updateSignals y) := by
    intro started completed hstarted hcompleted l l'
    rw [List.flatMap_cons, hstarted, List.nil_append, List.flatMap_append, List.flatMap_append,
      List.flatMap_singleton, hcompleted, List.append_nil]
  have hnamed : ∀ su ∈ (cleaned x scanID containers (inserted p x scanID containers s).updates).2,
      su.containerName ≠ "" := fun su hsu => (hscan.resolved_entity hknown hsu).2.1
  unfold scanPass
  rw [hsplit _ _ rfl rfl, Signal.onAll_append, detected_on, resolved_on _ _ hnamed, Bool.and_eq_true, Bool.or_eq_true,
    Bool.not_eq_true', ← Bool.not_eq_true, List.any_eq_true, List.any_eq_true]
  have hannounced : (inserted p x scanID containers s).detected =
      (scan p x.scan containers s.baselines).results.map (toDetected containers) :=
    persisted_detected hscan.inserts results_hasUpdate s.updates
  rw [hannounced]
  simp only [List.mem_map, decide_eq_true_eq, exists_exists_and_eq_and]
  refine and_congr (or_congr Iff.rfl ?_) (not_congr ?_)
  · refine exists_congr fun r => and_congr_right fun hr => ?_
    obtain ⟨c, hc, -, hof⟩ := mem_results_of hr
    have hid := (hscan.known c hc).1
    show entityID (containerUID containers r.containerID) r.containerID = v.uid a ↔ r.containerID = a
    rw [hof.containerID, hscan.containerUID_eq hc, entityID_uid hid]
    exact ⟨v.uid_inj _ _ hid ha, congrArg v.uid⟩
  · refine exists_congr fun su => and_congr_right fun hsu => ?_
    obtain ⟨hid, -, hentity⟩ := hscan.resolved_entity hknown hsu
    rw [hentity]
    exact ⟨v.uid_inj _ _ hid ha, congrArg v.uid⟩

/-- Refreshing all findings of a reported container is the same as finding no other update. -/
theorem refreshes_iff {r : UpdateResult} (houtcome : (c, .update r) ∈ outcomes p x.scan containers s.baselines)
    {row : ImageUpdate} (hrow : row ∈ s.updates) (hid : row.containerID = c.externalID) :
    row.key = (toImageUpdate x scanID r).key ↔ row.image = r.image ∧ row.latestTag = r.latestTag := by
  have hname : row.containerName = r.containerName := by
    rw [(hknown row hrow).2, hid, (outcome_update houtcome).containerName,
      (hscan.known c (mem_of_outcome houtcome)).2.1]
  unfold ImageUpdate.key toImageUpdate
  rw [Prod.mk.injEq, Prod.mk.injEq, and_iff_right hname]

omit hknown

variable {before : ActiveAlertKey → Bool}

/-- **One pass over a listed container**: the alert follows exactly if no other update was on record. -/
theorem follows_iff (hs : Consistent v s before)
    (hfresh : ∀ row ∈ s.updates, row.scanID ≠ scanID) (hc : c ∈ containers) :
    Follows p x containers s (scanPass p x scanID containers s).1
        (fun k => Signal.onAll k (before k) ((scanPass p x scanID containers s).2.flatMap (updateSignals y))) v c ↔
      ∀ r, (c, .update r) ∈ outcomes p x.scan containers s.baselines → ∀ row ∈ s.updates,
        row.containerID = c.externalID → row.image = r.image ∧ row.latestTag = r.latestTag := by
  have hid : v.ids c.externalID := (hscan.known c hc).1
  have hfinding := hscan.finding_listed (p := p) hs.known hfresh hc
  have hreported : (∃ r ∈ (scan p x.scan containers s.baselines).results, r.containerID = c.externalID) ↔
      Reports p x containers s c := by
    constructor
    · rintro ⟨r, hr, hrid⟩
      exact ⟨r, hscan.outcome_of_id hr hc hrid⟩
    · rintro ⟨r, houtcome⟩
      exact ⟨r, mem_scan_results.mpr ⟨c, houtcome⟩, (outcome_update houtcome).containerID⟩
  unfold Follows
  rw [and_iff_left hfinding, hfinding, hscan.pass_holds hs.known hid, hs.agrees _ hid, hreported,
    hscan.resolves_listed hs.known hfresh hc]
  constructor
  · intro h r houtcome row hrow hrowid
    obtain ⟨-, hrefreshed⟩ := h.mpr ⟨r, houtcome⟩
    rw [← hscan.refreshes_iff hs.known houtcome hrow hrowid]
    by_contra hne
    refine hrefreshed ⟨row, hrow, hrowid, fun r' houtcome' hkey => hne ?_⟩
    obtain ⟨-, hr⟩ := outcome_unique hscan.nodup houtcome houtcome' rfl
    cases hr
    exact hkey
  · intro h
    constructor
    · rintro ⟨hfound | hreports, hrefreshed⟩
      · obtain ⟨row, hrow, hrowid⟩ := hfound
        by_contra hnot
        exact hrefreshed ⟨row, hrow, hrowid, fun r houtcome => absurd ⟨r, houtcome⟩ hnot⟩
      · exact hreports
    · rintro ⟨r, houtcome⟩
      refine ⟨.inr ⟨r, houtcome⟩, ?_⟩
      rintro ⟨row, hrow, hrowid, hother⟩
      exact hother r houtcome ((hscan.refreshes_iff hs.known houtcome hrow hrowid).mpr (h r houtcome row hrow hrowid))

/-- **A steady pass keeps the whole inventory consistent.** -/
theorem consistent (hs : Consistent v s before)
    (hfresh : ∀ row ∈ s.updates, row.scanID ≠ scanID) (hsteady : Steady p x containers s) :
    Consistent v (scanPass p x scanID containers s).1
      (fun k => Signal.onAll k (before k) ((scanPass p x scanID containers s).2.flatMap (updateSignals y))) where
  known row hrow := hscan.knows_inserted hs.known row (hscan.mem_after.mp hrow).1
  agrees a ha := by
    by_cases hlisted : ∃ c ∈ containers, c.externalID = a
    · obtain ⟨c, hc, rfl⟩ := hlisted
      exact ((hscan.follows_iff hs hfresh hc).mpr fun r houtcome => hsteady c r houtcome).1
    · have hother : ∀ c ∈ containers, c.externalID ≠ a := fun c hc h => hlisted ⟨c, hc, h⟩
      have hunreported : ¬∃ r ∈ (scan p x.scan containers s.baselines).results, r.containerID = a := by
        rintro ⟨r, hr, hrid⟩
        exact results_listed hother r hr hrid
      rw [hscan.pass_holds hs.known ha, or_iff_left hunreported, hs.agrees a ha,
        hscan.resolves_other hs.known hother, hscan.finding_other hs.known hother]
      refine and_congr_right fun hfound => ?_
      rw [not_and, not_and, Bool.not_eq_false]
      exact forall_prop_of_true hfound

end Inventory.Scans

end Alerts

/-! ## 5. Whole runs -/

section Runs

variable {p : Packages} {v : Inventory} {w : Watched Service} {is : List ((Pass × Sending) × (Nat → Handling))}

/-- The scan draws an id that no finding carries. -/
def DrawsFresh (w : Watched Service) (i : (Pass × Sending) × (Nat → Handling)) : Prop :=
  ∀ scanID, i.1.1.scanID = some scanID → ∀ row ∈ w.service.updates, row.scanID ≠ scanID

/-- **Update alerts and findings**, over any passes on the containers of an inventory. After each pass every
    container it listed has an alert exactly when it has a finding and a finding exactly when the scan
    reported it, if and only if no pass finds an update for a container that has another one, of another
    image or latest tag, on record. -/
theorem update_alerts_follow (hundisturbed : w.Undisturbed (passed p) is)
    (hscans : ∀ i ∈ is, ∃ scanID containers, v.Scans i.1.1 scanID containers)
    (hfresh : Passes.Along (Watched.step (passed p)) DrawsFresh w is)
    (hw : Consistent v w.service w.engine.holds) :
    (∀ n i containers, is[n]? = some i → i.1.1.containers = some containers → ∀ c ∈ containers,
        Follows p i.1.1 containers (w.run (passed p) (is.take n)).service
          (w.run (passed p) (is.take (n + 1))).service (w.run (passed p) (is.take (n + 1))).engine.holds v c) ↔
      ∀ n i containers, is[n]? = some i → i.1.1.containers = some containers →
        Steady p i.1.1 containers (w.run (passed p) (is.take n)).service := by
  have hstep := Passes.along_iff_of_inv (J := fun w => Consistent v w.service w.engine.holds)
    (P := fun w i => ∀ containers, i.1.1.containers = some containers → ∀ c ∈ containers,
      Follows p i.1.1 containers w.service (w.step (passed p) i).service (w.step (passed p) i).engine.holds v c)
    (Q := fun w i => ∀ containers, i.1.1.containers = some containers → Steady p i.1.1 containers w.service)
    (Passes.along_and.mpr ⟨hundisturbed, hfresh⟩) ?_ hw
  · rw [Passes.along_iff, Passes.along_iff] at hstep
    constructor
    · intro h n i containers hi hlist
      refine hstep.mp (fun n i hi containers hlist c hc => ?_) n i hi containers hlist
      have hfollows := h n i containers hi hlist c hc
      rw [Watched.run_succ hi] at hfollows
      exact hfollows
    · intro h n i containers hi hlist c hc
      rw [Watched.run_succ hi]
      exact hstep.mpr (fun n i hi containers hlist => h n i containers hi hlist) n i hi containers hlist c hc
  · intro w i hi hok hconsistent
    obtain ⟨hears, hdraws⟩ := hok
    obtain ⟨scanID, containers, hscan⟩ := hscans i hi
    have hholds : (w.step (passed p) i).engine.holds =
        fun k => Signal.onAll k (w.engine.holds k) ((runScan p w.service i.1.1).2.flatMap (updateSignals i.1.2)) :=
      funext fun k => Watched.step_holds hears k
    have hservice : (w.step (passed p) i).service = (runScan p w.service i.1.1).1 := rfl
    have honly : ∀ containers', i.1.1.containers = some containers' → containers' = containers :=
      fun containers' h => Option.some.inj (h.symm.trans hscan.lists.containers)
    have hfresh' := hdraws scanID hscan.lists.scanID
    rw [hholds, hservice, runScan_listed hscan.lists]
    constructor
    · constructor
      · intro h containers' hlist c r houtcome
        obtain rfl := honly containers' hlist
        exact (hscan.follows_iff hconsistent hfresh' (mem_of_outcome houtcome)).mp
          (h _ hlist c (mem_of_outcome houtcome)) r houtcome
      · intro h containers' hlist c hc
        obtain rfl := honly containers' hlist
        exact (hscan.follows_iff hconsistent hfresh' hc).mpr fun r houtcome => h _ hlist c r houtcome
    · intro h
      exact hscan.consistent hconsistent hfresh' (h containers hscan.lists.containers)

end Runs

/-! ## 6. A container that is not updated -/

/-- A pass that finds these tags; its alert gets the id of the scan. -/
def passing (scanID : String) (tags : List String) : (Pass × Sending) × (Nat → Handling) :=
  ((samplePass scanID [sampleContainer "nginx:1.0.0"] (sampleLookups tags "d"), ⟨0, fun _ => .ok ""⟩),
    fun n => .plain (if n = 0 then scanID else scanID ++ "'"))

def emptyWatch : Watched Service := ⟨emptyService, .idle .empty⟩

/-- Release 1.1.0 comes out, and then 1.2.0. -/
def twoReleases : List ((Pass × Sending) × (Nat → Handling)) :=
  [passing "s1" ["1.0.0", "1.1.0"], passing "s2" ["1.0.0", "1.1.0", "1.2.0"]]

/-- **A newer release takes the alert away**: the container is reported, its finding is on record, and no
    alert is active. -/
theorem newer_release_unalerted :
    emptyWatch.Undisturbed (passed samplePackages) twoReleases ∧
      ((emptyWatch.run (passed samplePackages) twoReleases).service.updates.rows.map fun row =>
        (row.containerID, row.latestTag)) = [("c1", "1.2.0")] ∧
      (emptyWatch.run (passed samplePackages) twoReleases).engine.holds (updateKey "uid-web") = false := by
  decide

/-- The only container there is. -/
def sampleInventory : Inventory where
  ids a := a = "c1"
  name _ := "web"
  uid _ := "uid-web"
  name_inj a b ha hb _ := ha.trans hb.symm
  uid_inj a b ha hb _ := ha.trans hb.symm
  named _ _ := by decide
  identified _ _ := by decide

/-- The same release is found twice. -/
def oneRelease : List ((Pass × Sending) × (Nat → Handling)) :=
  [passing "s1" ["1.0.0", "1.1.0"], passing "s2" ["1.0.0", "1.1.0"]]

theorem passing_scans (scanID : String) (tags : List String) :
    sampleInventory.Scans (passing scanID tags).1.1 scanID [sampleContainer "nginx:1.0.0"] where
  lists := ⟨rfl, rfl⟩
  inserts _ := rfl
  staleListed := rfl
  staleDeleted := rfl
  orphansListed := rfl
  orphansDeleted := rfl
  known c hc := by
    obtain rfl := List.mem_singleton.mp hc
    exact ⟨rfl, rfl, rfl⟩
  nodup := List.nodup_singleton _
  live _ _ := rfl
  uidOf _ _ := rfl

theorem pending_release_alerted :
    (emptyWatch.run (passed samplePackages) (oneRelease.take 2)).engine.holds (updateKey "uid-web") = true := by
  have hheard : emptyWatch.Undisturbed (passed samplePackages) oneRelease := by decide
  have hscans : ∀ i ∈ oneRelease, ∃ scanID containers, sampleInventory.Scans i.1.1 scanID containers := by
    simp only [oneRelease, List.forall_mem_cons]
    exact ⟨⟨_, _, passing_scans _ _⟩, ⟨_, _, passing_scans _ _⟩, List.forall_mem_nil _⟩
  have hfresh : Passes.Along (Watched.step (passed samplePackages)) DrawsFresh emptyWatch oneRelease := by
    refine ⟨fun scanID hscanID => ?_, fun scanID hscanID => ?_, trivial⟩ <;> cases hscanID <;> decide
  have hstart : Consistent sampleInventory emptyWatch.service emptyWatch.engine.holds := by
    refine ⟨fun row hrow => absurd hrow (Table.not_mem_empty row), fun a _ => ?_⟩
    refine iff_of_false (fun hheld => nomatch (Engine.idle_holds _ _).symm.trans hheld) ?_
    rintro ⟨row, hrow, -⟩
    exact Table.not_mem_empty row hrow
  have hsteady : ∀ n i containers, oneRelease[n]? = some i → i.1.1.containers = some containers →
      Steady samplePackages i.1.1 containers (emptyWatch.run (passed samplePackages) (oneRelease.take n)).service := by
    intro n i containers hi hlist c r houtcome row hrow _
    rcases n with _ | _ | n
    · exact absurd hrow (Table.not_mem_empty row)
    · cases hi
      cases hlist
      have hone : outcomes samplePackages (passing "s2" ["1.0.0", "1.1.0"]).1.1.scan [sampleContainer "nginx:1.0.0"]
          (emptyWatch.run (passed samplePackages) (oneRelease.take 1)).service.baselines =
          [(sampleContainer "nginx:1.0.0", .update ⟨"c1", "web", "nginx:1.0.0", "1.0.0", "", "",
            dockerRegistry, "1.1.0", "d", .minor, true⟩)] := by decide
      have hrows : ∀ row ∈ (emptyWatch.run (passed samplePackages) (oneRelease.take 1)).service.updates,
          row.image = "nginx:1.0.0" ∧ row.latestTag = "1.1.0" := by decide
      obtain ⟨rfl, hr⟩ := Prod.mk.inj (List.mem_singleton.mp (hone ▸ houtcome))
      cases hr
      exact hrows row hrow
    · cases hi
  have hfollows := (update_alerts_follow hheard hscans hfresh hstart).mpr hsteady 1 _ _ rfl rfl
    (sampleContainer "nginx:1.0.0") List.mem_cons_self
  refine hfollows.1.mpr (hfollows.2.mpr ?_)
  exact ⟨⟨"c1", "web", "nginx:1.0.0", "1.0.0", "", "", dockerRegistry, "1.1.0", "d", .minor, true⟩, by decide⟩

end Maintenant.Updates
