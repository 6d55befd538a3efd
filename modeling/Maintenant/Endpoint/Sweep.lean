/-
  File:      Maintenant/Endpoint/Sweep.lean
  Subject:   THE SWEEP OF ORPHANED ENDPOINTS (internal/endpoint/service.go: `SweepOrphanedLabelEndpoints`;
             internal/app/wiring.go: the callback for a removed endpoint), over any store content.

  The certificate monitor of an endpoint goes with it, and is left out.

  * `mem_orphans` -- which endpoints are retired (`retireAll_row` says what becomes of every row);
  * `takeAll_removed`, `mem_removeDanglingMonitorRefs` -- which alerts and references stay;
  * `sweep_scoped_iff` -- the sweep keeps to the local runtime exactly when no orphan is a remote agent's.
-/
import Maintenant.Endpoint.Alerts

namespace Maintenant.Endpoints

open Alerting Containers

/-! ## 1. The sweep and the callback -/

/-- A row of status_component_monitors. -/
structure MonitorRef where
  componentID : String
  monitorType : String
  monitorID : String
deriving DecidableEq, Repr

/-- The endpoints and the engine, with the references of the status page. -/
structure Site extends Watched Registry where
  refs : List MonitorRef

def removeDanglingMonitorRefs (refs : List MonitorRef) (monitorType monitorID : String) : List MonitorRef :=
  refs.filter fun ref => !(ref.monitorType == monitorType && ref.monitorID == monitorID)

def Site.sweep (m : Meets) (h : Nat → Handling) (seen : String → Bool) (w : Site) : Site :=
  let p := w.service.sweepOrphanedLabelEndpoints m seen
  { service := p.1
    engine := w.engine.takeAll h (removals p).2
    refs := p.2.foldl (removeDanglingMonitorRefs · "endpoint" ·) w.refs }

/-- An active label endpoint whose container the discovery has not seen. -/
def Registry.Orphan (r : Registry) (seen : String → Bool) (ep : Endpoint) : Prop :=
  ep.active = true ∧ (r.columns ep.id).source = .label ∧ seen (r.columns ep.id).externalID = false
deriving Decidable

/-! ## 2. What is retired -/

section Retired

variable {r : Registry} {m : Meets} {seen : String → Bool} {ids : List String}

theorem mem_orphans {ep : Endpoint} (hep : ep ∈ r.service.endpoints) :
    ep.id ∈ (r.orphans m seen).map Endpoint.id ↔ r.Orphan seen ep := by
  have hlisted : ∀ ep, ep ∈ r.orphans m seen ↔ ep ∈ r.service.endpoints ∧ r.Orphan seen ep := by
    intro ep
    have hscan : ∀ l, ep ∈ (m.scan l).val ↔ ep ∈ l := fun l => (m.scan l).property.mem_iff
    show _ ↔ ep ∈ r.service.endpoints.rows ∧ _
    simp only [Registry.orphans, Registry.listLabelEndpoints, Registry.listActive, Registry.Orphan,
      List.mem_filter, List.mem_insertionSort, hscan, Bool.and_eq_true, decide_eq_true_eq, Bool.not_eq_true']
    tauto
  rw [List.mem_map]
  constructor
  · rintro ⟨ep', hep', hid⟩
    obtain ⟨hmem, horphan⟩ := (hlisted ep').mp hep'
    exact r.service.endpoints.eq_of_key hmem hep hid ▸ horphan
  · intro h
    exact ⟨ep, (hlisted ep).mpr ⟨hep, h⟩, rfl⟩

/-- **What is not removed keeps its alerts.** -/
theorem takeAll_removed {e : Engine} {h : Nat → Handling} {k : ActiveAlertKey} (hk : k.entityID ∉ ids) :
    (e.takeAll h (ids.map (Signal.removed "endpoint"))).state.activeAlerts.lookup k =
      e.state.activeAlerts.lookup k := by
  refine List.foldlRecOn _ _ (motive := fun e' : Engine =>
    e'.state.activeAlerts.lookup k = e.state.activeAlerts.lookup k) rfl ?_
  rintro e' he' ⟨sig, n⟩ hsig
  obtain ⟨id, hid, rfl⟩ := List.mem_map.mp (List.fst_mem_of_mem_zipIdx hsig)
  have hne : k.entityID ≠ id := fun h => hk (h ▸ hid)
  show (GoMap.eraseWhere e'.state.activeAlerts (ofEntity "endpoint" id)).lookup k = _
  simp [GoMap.lookup_eraseWhere, ofEntity, hne, he']

theorem mem_removeDanglingMonitorRefs {ref : MonitorRef} (href : ref.monitorID ∉ ids) (refs : List MonitorRef) :
    ref ∈ ids.foldl (removeDanglingMonitorRefs · "endpoint" ·) refs ↔ ref ∈ refs := by
  refine List.foldlRecOn _ _ (motive := fun refs' : List MonitorRef => ref ∈ refs' ↔ ref ∈ refs) Iff.rfl ?_
  intro refs' hrefs id hid
  have hne : ref.monitorID ≠ id := fun h => href (h ▸ hid)
  simp [removeDanglingMonitorRefs, hne, hrefs]

end Retired

/-! ## 3. The scope -/

/-- The local orphans are deactivated, and nothing else; alerts and references of remote agents' endpoints
    are as they were. -/
structure Scoped (seen : String → Bool) (w w' : Site) : Prop where
  rows : ∀ id, w'.service.row id = (w.service.row id).map fun ep =>
    if ep.agentID = localAgent ∧ w.service.Orphan seen ep then Registry.deactivated ep else ep
  alerts : ∀ ep ∈ w.service.service.endpoints, ep.agentID ≠ localAgent → ∀ k, k.entityID = ep.id →
    w'.engine.state.activeAlerts.lookup k = w.engine.state.activeAlerts.lookup k
  refs : ∀ ep ∈ w.service.service.endpoints, ep.agentID ≠ localAgent → ∀ ref : MonitorRef,
    ref.monitorID = ep.id → (ref ∈ w'.refs ↔ ref ∈ w.refs)

/-- **The sweep keeps to the local runtime exactly when every orphan is one of its endpoints.** -/
theorem sweep_scoped_iff (m : Meets) (h : Nat → Handling) (seen : String → Bool) (w : Site) :
    Scoped seen w (w.sweep m h seen) ↔
      ∀ ep ∈ w.service.service.endpoints, w.service.Orphan seen ep → ep.agentID = localAgent := by
  have hrow : ∀ ep ∈ w.service.service.endpoints, w.service.row ep.id = some ep :=
    fun ep hep => Table.get_eq_some.mpr ⟨hep, rfl⟩
  constructor
  · intro hscoped ep hep horphan
    by_contra hremote
    have hswept : (w.sweep m h seen).service.row ep.id = some (Registry.deactivated ep) := by
      refine (retireAll_row none Endpoint.containerName .containerGone _).trans ?_
      rw [hrow ep hep, Option.map_some, if_pos ((mem_orphans hep).mpr horphan)]
    have hkept := hscoped.rows ep.id
    rw [hswept, hrow ep hep, Option.map_some, if_neg fun h => hremote h.1] at hkept
    have hactive : false = ep.active := congrArg Endpoint.active (Option.some.inj hkept)
    simp [horphan.1] at hactive
  · intro hlocal
    have hspared : ∀ ep ∈ w.service.service.endpoints, ep.agentID ≠ localAgent →
        ep.id ∉ (w.service.orphans m seen).map Endpoint.id :=
      fun ep hep hremote h => hremote (hlocal ep hep ((mem_orphans hep).mp h))
    refine ⟨fun id => ?_, fun ep hep hremote k hk => takeAll_removed (hk ▸ hspared ep hep hremote),
      fun ep hep hremote ref href => mem_removeDanglingMonitorRefs (href ▸ hspared ep hep hremote) w.refs⟩
    refine (retireAll_row none Endpoint.containerName .containerGone _).trans ?_
    cases hget : w.service.row id with
    | none => rfl
    | some ep =>
      have hep : ep ∈ w.service.service.endpoints := (Table.get_eq_some.mp hget).1
      have hboth : ep.agentID = localAgent ∧ w.service.Orphan seen ep ↔ w.service.Orphan seen ep :=
        and_iff_right_of_imp (hlocal ep hep)
      simp only [Option.map_some, mem_orphans hep, hboth]

/-- An active label endpoint of an agent's container, on a component of the status page. -/
def remoteSite : Site where
  service :=
    { service :=
        ⟨⟨[⟨"e1", "a1", "web", "http://web", true, .up, .normal, 0, 0, none, none, none, ""⟩], by decide⟩,
          [], []⟩
      columns := fun _ => ⟨"maintenant.endpoint.http", "c1", .http, ⟨1, 1⟩, .label, ""⟩
      notices := [] }
  engine := .idle .empty
  refs := [⟨"s1", "endpoint", "e1"⟩]

/-- A discovery of the local runtime, which knows nothing of the agent's containers, sweeps it. -/
theorem sweep_retires_remote :
    let w := remoteSite.sweep ⟨0, fun l => ⟨l, .refl l⟩, fun l => ⟨l, .refl l⟩⟩ (fun _ => .plain "a")
      (· == "c9")
    (remoteSite.service.row "e1").map Endpoint.agentID = some "a1" ∧ remoteSite.service.active "e1" = true ∧
      w.service.active "e1" = false ∧ w.refs = [] := by
  decide

end Maintenant.Endpoints
