/-
  File:      Maintenant/Certificate/Labels.lean
  Subject:   CERTIFICATE MONITORS FROM LABELS (internal/certificate/service.go: `SyncFromLabels`,
             `HandleContainerDestroy`, `deleteLabelMonitors`), over any calls for any containers.

  A monitor belongs to the container that asked first. Another one that asks for the same host and port
  adds none, so the monitor goes with its owner, whoever else still asks for it. Statements do not fail
  here; what is emitted is left out.

  * `mem_addLabels`, `mem_step`, `exists_key` -- what a call leaves monitored;
  * `label_monitors_follow_iff` -- the monitors follow the labels exactly when no call drops the only
    monitor of what another container asks for.
-/
import Maintenant.Lib.Passes
import Maintenant.Lib.Table

namespace Maintenant.Certificates

/-! ## 1. The calls -/

/-- A row of cert_monitors with source label, of the local agent and without a server name. Its id is
    derived from host and port, which stand for it. -/
structure LabelMonitor where
  hostname : String
  port : Int
  externalID : String
  deriving DecidableEq, Repr

def LabelMonitor.site (m : LabelMonitor) : String × Int := (m.hostname, m.port)

abbrev Monitors := Table LabelMonitor.site

/-- `hostname:port`. -/
def hostPort (p : String × Int) : String := p.1 ++ ":" ++ toString p.2

def LabelMonitor.key (m : LabelMonitor) : String := hostPort m.site

/-- One parsed label: `CreateMonitor`, unless `GetMonitorByHostPort` finds one. -/
def addLabel (externalID : String) (t : Monitors) (p : String × Int) : Monitors :=
  if t.hasKey p then t
  else t.upsert ⟨p.1, p.2, externalID⟩ (fun row => { row with externalID := externalID }) fun _ => rfl

/-- The monitors of the container whose key is not kept; a nil map keeps none. -/
def deleteLabelMonitors (externalID : String) (keep : List String) (t : Monitors) : Monitors :=
  t.delete fun m => m.externalID == externalID && !keep.contains m.key

/-- The labels as `ParseCertificateLabels` reads them; without any, the loop is over at once. -/
def syncFromLabels (externalID : String) (parsed : List (String × Int)) (t : Monitors) : Monitors :=
  deleteLabelMonitors externalID (parsed.map hostPort) (parsed.foldl (addLabel externalID) t)

def handleContainerDestroy (externalID : String) (t : Monitors) : Monitors := deleteLabelMonitors externalID [] t

inductive Call where
  | syncFromLabels (externalID : String) (parsed : List (String × Int))
  | handleContainerDestroy (externalID : String)

/-- The container of a call, and the labels it has from then on. -/
def Call.externalID : Call → String
  | .syncFromLabels externalID _ | .handleContainerDestroy externalID => externalID

def Call.parsed : Call → List (String × Int)
  | .syncFromLabels _ parsed => parsed
  | .handleContainerDestroy _ => []

/-- What it asks for. -/
def Call.keys (call : Call) : List String := call.parsed.map hostPort

/-- The monitors, and what the most recent labels of each container ask for: nothing, once it is destroyed. -/
structure Fleet where
  monitors : Monitors
  wants : String → List String

def Fleet.step (s : Fleet) (call : Call) : Fleet where
  monitors := match call with
    | .syncFromLabels externalID parsed => syncFromLabels externalID parsed s.monitors
    | .handleContainerDestroy externalID => handleContainerDestroy externalID s.monitors
  wants := Function.update s.wants call.externalID call.keys

/-! ## 2. What a call leaves monitored -/

section Step

variable {s : Fleet} {externalID : String} {m : LabelMonitor}

theorem mem_addLabel {t : Monitors} {p : String × Int} :
    m ∈ addLabel externalID t p ↔ m ∈ t ∨ t.hasKey p = false ∧ m = ⟨p.1, p.2, externalID⟩ := by
  unfold addLabel
  cases hold : t.hasKey p with
  | true => simp
  | false =>
    obtain ⟨t', ht'⟩ := Table.insert_isSome (t := t) (r := ⟨p.1, p.2, externalID⟩) hold
    simp [Table.upsert, ht', Table.mem_insert ht']

/-- The loop adds monitors of the container only, and leaves each label with a monitor. -/
theorem mem_addLabels (externalID : String) (parsed : List (String × Int)) (t : Monitors) :
    (∀ m ∈ t, m ∈ parsed.foldl (addLabel externalID) t) ∧
      (∀ p ∈ parsed, ∃ m ∈ parsed.foldl (addLabel externalID) t, m.key = hostPort p) ∧
      ∀ m ∈ parsed.foldl (addLabel externalID) t, m ∈ t ∨ m.externalID = externalID := by
  induction parsed generalizing t with
  | nil => simpa using fun m hm => .inl hm
  | cons p _ ih =>
    obtain ⟨hkept, hlabels, hfrom⟩ := ih (addLabel externalID t p)
    have hp : ∃ m ∈ addLabel externalID t p, m.key = hostPort p := by
      cases hold : t.hasKey p with
      | true =>
        obtain ⟨m, hm, rfl⟩ := Table.hasKey_iff.mp hold
        exact ⟨m, mem_addLabel.mpr (.inl hm), rfl⟩
      | false => exact ⟨_, mem_addLabel.mpr (.inr ⟨hold, rfl⟩), rfl⟩
    refine ⟨fun m hm => hkept m (mem_addLabel.mpr (.inl hm)), ?_, fun m hm => ?_⟩
    · rintro q (_ | ⟨_, hq⟩)
      · exact hp.imp fun m hm => ⟨hkept m hm.1, hm.2⟩
      · exact hlabels q hq
    · rcases hfrom m hm with hm | hid
      · refine (mem_addLabel.mp hm).imp_right ?_
        rintro ⟨-, rfl⟩
        rfl
      · exact .inr hid

theorem mem_step (call : Call) : m ∈ (s.step call).monitors ↔
    m ∈ call.parsed.foldl (addLabel call.externalID) s.monitors ∧
      (m.externalID = call.externalID → m.key ∈ call.keys) := by
  have hstep : (s.step call).monitors = syncFromLabels call.externalID call.parsed s.monitors := by
    cases call <;> rfl
  rw [hstep, syncFromLabels, deleteLabelMonitors, Table.mem_delete]
  simp [Call.keys]

/-- **What is monitored after a call.** -/
theorem exists_key (call : Call) (k : String) : (∃ m ∈ (s.step call).monitors, m.key = k) ↔
    k ∈ call.keys ∨ ∃ m ∈ s.monitors, m.key = k ∧ m.externalID ≠ call.externalID := by
  obtain ⟨hkept, hlabels, hfrom⟩ := mem_addLabels call.externalID call.parsed s.monitors
  constructor
  · rintro ⟨m, hm, rfl⟩
    obtain ⟨hm, hkeys⟩ := (mem_step call).mp hm
    by_cases hid : m.externalID = call.externalID
    · exact .inl (hkeys hid)
    · exact .inr ⟨m, (hfrom m hm).resolve_right hid, rfl, hid⟩
  · rintro (hk | ⟨m, hm, rfl, hid⟩)
    · obtain ⟨p, hp, rfl⟩ := List.mem_map.mp hk
      obtain ⟨m, hm, hkey⟩ := hlabels p hp
      exact ⟨m, (mem_step call).mpr ⟨hm, fun _ => hkey ▸ hk⟩, hkey⟩
    · exact ⟨m, (mem_step call).mpr ⟨hkept m hm, fun h => absurd h hid⟩, rfl⟩

/-- What a call makes some container ask for. -/
theorem exists_wants (call : Call) (k : String) : (∃ externalID, k ∈ (s.step call).wants externalID) ↔
    k ∈ call.keys ∨ ∃ other, other ≠ call.externalID ∧ k ∈ s.wants other :=
  Function.exists_update_iff s.wants fun _ keys => k ∈ keys

/-- Every monitor's container asks for it. -/
def Owned (s : Fleet) : Prop := ∀ m ∈ s.monitors, m.key ∈ s.wants m.externalID

theorem owned_step (howned : Owned s) (call : Call) : Owned (s.step call) := by
  intro m hm
  obtain ⟨hm, hkeys⟩ := (mem_step call).mp hm
  show m.key ∈ Function.update s.wants call.externalID call.keys m.externalID
  by_cases hid : m.externalID = call.externalID
  · rw [hid, Function.update_self]
    exact hkeys hid
  · rw [Function.update_of_ne hid]
    exact howned m (((mem_addLabels _ _ _).2.2 m hm).resolve_right hid)

end Step

/-! ## 3. The monitors and the labels -/

/-- There is a monitor exactly for what some container asks for. -/
def Follows (s : Fleet) : Prop := ∀ k, (∃ m ∈ s.monitors, m.key = k) ↔ ∃ externalID, k ∈ s.wants externalID

/-- What another container asks for, and this one no longer, has a monitor that is not this one's. -/
def Spared (s : Fleet) (call : Call) : Prop :=
  ∀ other, other ≠ call.externalID → ∀ k ∈ s.wants other, k ∉ call.keys →
    ∃ m ∈ s.monitors, m.key = k ∧ m.externalID ≠ call.externalID

theorem follows_step {s : Fleet} (howned : Owned s) (call : Call) : Follows (s.step call) ↔ Spared s call := by
  unfold Follows Spared
  simp only [exists_key, exists_wants]
  constructor
  · intro h other hother k hk hdropped
    exact ((h k).mpr (.inr ⟨other, hother, hk⟩)).resolve_left hdropped
  · intro h k
    constructor
    · rintro (hk | ⟨m, hm, rfl, hid⟩)
      · exact .inl hk
      · exact .inr ⟨m.externalID, hid, howned m hm⟩
    · rintro (hk | ⟨other, hother, hk⟩)
      · exact .inl hk
      · exact or_iff_not_imp_left.mpr (h other hother k hk)

def Fleet.empty : Fleet := ⟨.empty, fun _ => []⟩

/-- **The label monitors follow the labels after every call** exactly when no call takes away the only
    monitor of what another container asks for. -/
theorem label_monitors_follow_iff (calls : List Call) :
    (∀ n, Follows ((calls.take n).foldl Fleet.step .empty)) ↔ Passes.Along Fleet.step Spared .empty calls := by
  refine Passes.prefixes_iff_of_inv Passes.along_true (fun s call _ _ hI => owned_step hI call)
    (fun s call _ _ hI _ => follows_step hI call) ?_ ?_
  · intro m hm
    exact absurd hm (Table.not_mem_empty m)
  · simp [Follows, Fleet.empty]

/-- Two containers ask for one host; the first of them is destroyed, and the monitor with it. -/
theorem label_monitor_goes_with_owner :
    let s := [Call.syncFromLabels "a" [("web.example", 443)], .syncFromLabels "b" [("web.example", 443)],
      .handleContainerDestroy "a"].foldl Fleet.step .empty
    s.monitors.rows = [] ∧ s.wants "b" = [hostPort ("web.example", 443)] := by
  decide

end Maintenant.Certificates
