/-
  File:      Maintenant/AgentServer/Dispatch.lean
  Subject:   THE DISPATCHER (internal/agentserver/dispatcher.go): an event of an agent, its
             observation time checked, on its way to the handler of its body.

  Modelled are the bodies that write containers, state_transitions or check_results; the others
  (heartbeats, resource samples, certificates, topologies) write other tables, and are one body
  here. `LabelSync`, which provisions endpoints from labels, is part of what is around an event.

  * `dispatch_accepted`, `accepted_meta` -- an event that is accepted goes to its handler
    (`World.handle`) with the time it was observed at;
  * `dispatch_refused` -- one that is refused changes no table.
-/
import Maintenant.Endpoint.Service

namespace Maintenant.Dispatching

open GoTime Containers

/-! ## 1. Data -/

inductive Body where
  | container (ev : WireContainer)
  | inventory (inv : WireInventory)
  | endpoint (ev : Endpoints.WireResult)
  | other

/-- `agentpb.AgentEvent`; a missing or zero `observed_at` is `none`. -/
structure AgentEvent where
  agentID : String
  observedAt : Option Time
  replayed : Bool
  body : Body

/-- `LabelSyncFunc`, on the endpoints: agent, container name, external id, labels. -/
abbrev LabelSync := String → String → String → Labels → Table Endpoints.Endpoint.id →
  Table Endpoints.Endpoint.id

/-- What is around an event when it arrives. -/
structure Arrival where
  now : Time
  containers : Containers.Env
  endpoints : Endpoints.Env
  labelSync : LabelSync

/-- An event on the stream of an authenticated agent. -/
structure Delivery where
  agentID : String
  event : AgentEvent
  arrival : Arrival

inductive DispatchError where
  | mismatch (claimed : String)
  | ahead (observed : Time)
  | tooOld (observed : Time)
  | container (err : AgentError)
  | inventory (err : AgentError)
deriving DecidableEq, Repr

/-- The tables, and the dispatcher's count of refused events. -/
structure World where
  containers : Containers.Service
  endpoints : Endpoints.Service
  rejected : AList fun _ : String => Nat

/-! ## 2. Dispatch -/

def maxClockSkew : Int := 60 * second

def maxObservationAge : Int := 24 * 3600 * second

def eventMeta (evt : AgentEvent) (now : Time) : Except DispatchError Meta :=
  match evt.observedAt with
  | none => .ok ⟨now, evt.replayed⟩
  | some observed =>
    if now + maxClockSkew < observed then .error (.ahead observed)
    else if observed < now - maxObservationAge then .error (.tooOld observed)
    else .ok ⟨observed, evt.replayed⟩

namespace World

variable (w : World)

def countRejection (agentID : String) : World :=
  let rejected := w.rejected.insert agentID ((w.rejected.lookup agentID).getD 0 + 1)
  { w with rejected := rejected }

def syncLabels (d : Delivery) (ev : WireContainer) (labels : Labels) : World :=
  let endpoints := d.arrival.labelSync d.agentID ev.name ev.containerID labels w.endpoints.endpoints
  { w with endpoints := { w.endpoints with endpoints := endpoints } }

/-- The `switch` on the body. -/
def handle (d : Delivery) (m : Meta) : World × Option DispatchError :=
  match d.event.body with
  | .container ev =>
    match w.containers.handleAgentEvent d.arrival.containers d.agentID ev m with
    | (s, some err) => ({ w with containers := s }, some (.container err))
    | (s, none) => ({ w with containers := s }.syncLabels d ev (if ev.destroyed then ∅ else ev.labels),
        none)
  | .inventory inv =>
    match w.containers.handleAgentInventory d.arrival.containers d.agentID inv m with
    | (s, some err) => ({ w with containers := s }, some (.inventory err))
    | (s, none) => (inv.containers.foldl (fun w ev => w.syncLabels d ev ev.labels)
        { w with containers := s }, none)
  | .endpoint ev =>
    let endpoints := w.endpoints.handleAgentEvent d.arrival.endpoints d.agentID ev m
    ({ w with endpoints := endpoints }, none)
  | .other => (w, none)

def dispatch (d : Delivery) : World × Option DispatchError :=
  if d.event.agentID ≠ "" ∧ d.event.agentID ≠ d.agentID then (w, some (.mismatch d.event.agentID))
  else match eventMeta d.event d.arrival.now with
    | .error err => (w.countRejection d.agentID, some err)
    | .ok m => w.handle d m

/-- The tables after an event, whatever the answer. -/
def deliver (w : World) (d : Delivery) : World := (w.dispatch d).1

end World

/-! ## 3. Refused and accepted events -/

/-- What the event is handled with; `none`: it never gets to a handler. -/
def Delivery.accepted (d : Delivery) : Option Meta :=
  if d.event.agentID ≠ "" ∧ d.event.agentID ≠ d.agentID then none
  else (eventMeta d.event d.arrival.now).toOption

/-- The observation time of an event that is handled. -/
def Delivery.observedAt (d : Delivery) : Time := d.event.observedAt.getD d.arrival.now

section Spec

variable {w : World} {d : Delivery} {m : Meta}

theorem accepted_meta (h : d.accepted = some m) : m = ⟨d.observedAt, d.event.replayed⟩ := by
  unfold Delivery.accepted eventMeta at h
  unfold Delivery.observedAt
  split at h
  · cases h
  · split at h
    · next hnone =>
      rw [hnone]
      exact (Option.some.inj h).symm
    · next hsome =>
      rw [hsome]
      split at h
      · cases h
      · split at h
        · cases h
        · exact (Option.some.inj h).symm

/-- **An event that is accepted goes to its handler.** -/
theorem dispatch_accepted (h : d.accepted = some m) : w.dispatch d = w.handle d m := by
  unfold Delivery.accepted at h
  unfold World.dispatch
  split at h
  · cases h
  · next hclaim =>
    rw [if_neg hclaim]
    cases hmeta : eventMeta d.event d.arrival.now with
    | error =>
      rw [hmeta] at h
      cases h
    | ok =>
      rw [hmeta] at h
      cases h
      rfl

/-- **An event that is refused is answered with an error and changes no table.** -/
theorem dispatch_refused (h : d.accepted = none) :
    (w.deliver d).containers = w.containers ∧ (w.deliver d).endpoints = w.endpoints ∧
    (w.dispatch d).2 ≠ none := by
  unfold Delivery.accepted at h
  unfold World.deliver World.dispatch
  split at h
  · next hclaim =>
    rw [if_pos hclaim]
    exact ⟨rfl, rfl, nofun⟩
  · next hclaim =>
    rw [if_neg hclaim]
    cases hmeta : eventMeta d.event d.arrival.now with
    | error => exact ⟨rfl, rfl, nofun⟩
    | ok =>
      rw [hmeta] at h
      cases h

/-- Labels are about endpoints only. -/
theorem syncAll_eq (evs : List WireContainer) : ∀ w : World,
    (evs.foldl (fun w ev => w.syncLabels d ev ev.labels) w).containers = w.containers ∧
      (evs.foldl (fun w ev => w.syncLabels d ev ev.labels) w).endpoints.checkResults = w.endpoints.checkResults := by
  induction evs with
  | nil => exact fun w => ⟨rfl, rfl⟩
  | cons ev _ ih => exact fun w => ih (w.syncLabels d ev ev.labels)

end Spec

end Maintenant.Dispatching
