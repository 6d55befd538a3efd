/-
  File:      Maintenant/Endpoint/Standalone.lean
  Subject:   ENDPOINTS DEFINED BY HAND (internal/endpoint/service.go: `CreateStandalone`;
             internal/store/endpoints.go: `CountStandaloneEndpoints`, `InsertStandaloneEndpoint`).

  The creation asks its store one statement at a time; `handle` answers from the table, under a choice of
  the environment: the external id that is drawn, whether a statement is executed, and whether the caller
  learns of it. The columns first_seen_at and last_seen_at are left out.

  * `createStandalone` -- count, insert, read back, start the checks, tell;
  * `size_insert`, `size_other` -- only the insert makes more standalone endpoints, and one at most.
-/
import Maintenant.Endpoint.Lifecycle
import Maintenant.Lib.Quota

namespace Maintenant.Endpoints.Standalone

open Containers

/-! ## 1. Rows and statements -/

/-- A row of endpoints with all its columns. -/
structure EndpointRow extends Endpoint, LabelColumns
deriving DecidableEq, Repr

/-- What `CreateStandalone` is given. -/
structure Input where
  name : String
  target : String
  endpointType : EndpointType
  config : EndpointConfig
deriving DecidableEq, Repr

/-- The event `endpoint.discovered`. -/
structure Discovered where
  endpointID : String
  endpointType : EndpointType
  target : String
  name : String
deriving DecidableEq, Repr

structure World where
  endpoints : Table fun row : EndpointRow => row.id
  /-- The endpoints the engine checks. -/
  runners : List String
  told : List Discovered

inductive Request where
  | countStandaloneEndpoints
  | insertStandaloneEndpoint (input : Input)
  | getEndpointByID (id : String)
  | addEndpoint (id : String)
  | tell (d : Discovered)

@[reducible] def Answer : Request → Type
  | .countStandaloneEndpoints => Except Unit Nat
  | .insertStandaloneEndpoint _ => Except Unit String
  | .getEndpointByID _ => Except Unit (Option EndpointRow)
  | .addEndpoint _ | .tell _ => Unit

/-- What the environment does at one request. -/
structure Choice where
  newExternalID : String
  executed : Bool
  reported : Bool

def Choice.ok (x : Choice) : Bool := x.executed && x.reported

def EndpointRow.isStandalone (row : EndpointRow) : Bool := row.active && decide (row.source = .standalone)

def newRow (id externalID : String) (input : Input) : EndpointRow where
  id := id
  agentID := localAgent
  containerName := ""
  target := input.target
  active := true
  status := .unknown
  alertState := .normal
  consecutiveFailures := 0
  consecutiveSuccesses := 0
  lastCheckAt := none
  lastResponseTimeMs := none
  lastHTTPStatus := none
  lastError := ""
  labelKey := externalID
  externalID := externalID
  endpointType := input.endpointType
  config := input.config
  source := .standalone
  name := input.name

/-- What `ON CONFLICT(id) DO UPDATE` sets. -/
def renewed (input : Input) (row : EndpointRow) : EndpointRow :=
  { row with
    target := input.target
    active := true
    endpointType := input.endpointType
    config := input.config
    name := input.name }

section Handler

-- `uid.EndpointLabel`: agent, container name, label key
variable (endpointLabel : String → String → String → String)

def World.insertStandaloneEndpoint (w : World) (externalID : String) (input : Input) : World :=
  { w with
    endpoints := w.endpoints.upsert (newRow (endpointLabel localAgent "" externalID) externalID input) (renewed input)
      fun _ => rfl }

def answer (x : Choice) (w : World) : (i : Request) → Answer i
  | .countStandaloneEndpoints => if x.ok then .ok (w.endpoints.count EndpointRow.isStandalone) else .error ()
  | .insertStandaloneEndpoint _ => if x.ok then .ok (endpointLabel localAgent "" x.newExternalID) else .error ()
  | .getEndpointByID id => if x.ok then .ok (w.endpoints.get id) else .error ()
  | .addEndpoint _ => ()
  | .tell _ => ()

/-- The world after a request that is executed. -/
def World.after (w : World) (x : Choice) : Request → World
  | .countStandaloneEndpoints | .getEndpointByID _ => w
  | .insertStandaloneEndpoint input => w.insertStandaloneEndpoint endpointLabel x.newExternalID input
  | .addEndpoint id => { w with runners := id :: w.runners.filter fun other => other != id }
  | .tell d => { w with told := w.told ++ [d] }

/-- The engine and the callback are called whatever becomes of the statements. -/
def Request.isCall : Request → Bool
  | .addEndpoint _ | .tell _ => true
  | _ => false

def handle (x : Choice) (w : World) (i : Request) : Answer i × World :=
  (answer endpointLabel x w i, if x.executed || i.isCall then w.after endpointLabel x i else w)

/-- The standalone endpoints that are active. -/
def size (w : World) : Nat := w.endpoints.count EndpointRow.isStandalone

theorem size_insert (x : Choice) (w : World) (input : Input) :
    size (handle endpointLabel x w (.insertStandaloneEndpoint input)).2 ≤ size w + 1 := by
  unfold handle
  split
  · exact Table.count_upsert_le _
  · exact Nat.le_succ _

theorem size_other (x : Choice) (w : World) {i : Request} (hi : ∀ input, i ≠ .insertStandaloneEndpoint input) :
    size (handle endpointLabel x w i).2 ≤ size w := by
  unfold handle
  split
  · cases i with
    | insertStandaloneEndpoint input => exact absurd rfl (hi input)
    | countStandaloneEndpoints | getEndpointByID | addEndpoint | tell => exact Nat.le_refl _
  · exact Nat.le_refl _

end Handler

/-! ## 2. The creation -/

inductive CreateError where
  | limitReached
  | store
  /-- The row was gone when it was read back, and the engine is given nil. -/
  | nilEndpoint
deriving DecidableEq, Repr

abbrev Job := Prog Request Answer

abbrev ask (i : Request) : Job (Answer i) := Prog.ask i

/-- `DefaultLicenseChecker`; a negative maximum means unlimited. -/
def canCreateEndpoint (maxEndpoints : Int) (count : Nat) : Bool :=
  decide (maxEndpoints < 0) || decide ((count : Int) < maxEndpoints)

/-- `CreateStandalone`; `started` is whether the service has a context to check endpoints in. -/
def createStandalone (canCreate : Nat → Bool) (started : Bool) (input : Input) :
    Job (Except CreateError (Option EndpointRow)) := do
  match ← ask .countStandaloneEndpoints with
  | .error _ => return .error .store
  | .ok count =>
    if canCreate count = false then return .error .limitReached
    else
      match ← ask (.insertStandaloneEndpoint input) with
      | .error _ => return .error .store
      | .ok id =>
        match ← ask (.getEndpointByID id) with
        | .error _ => return .error .store
        | .ok full =>
          match started, full with
          | true, none => return .error .nilEndpoint
          | true, some row =>
            ask (.addEndpoint row.id)
            ask (.tell ⟨id, input.endpointType, input.target, input.name⟩)
            return .ok full
          | false, _ =>
            ask (.tell ⟨id, input.endpointType, input.target, input.name⟩)
            return .ok full

end Maintenant.Endpoints.Standalone
