/-
  File:      Maintenant/Container/Slices.lean
  Subject:   THE IDS THAT THE HANDLERS SHORTEN FOR THEIR LOG (internal/container/service.go,
             `evt.ExternalID[:12]`), with a store and a log fetcher that may fail.

  A slice beyond the end of a string panics. The handlers of `Service.processEvent` are written once
  more here with the failures that the first model leaves out and with every slice that a branch
  takes; of the texts of the log only the shortened id is kept. The fetchers slice their snippet only
  where its length is checked, and are left out.

  * `Faulty.processEvent_ok` -- an id of twelve bytes is enough, whatever fails;
  * `Faulty.processEvent_never` -- where nothing fails, that is `Service.processEvent`;
  * **`processEvent_safe_iff`** -- an event is safe, whatever the store answers, exactly when its id has
    twelve bytes or its action is not handled.
-/
import Maintenant.Container.Service

namespace Maintenant.Containers

/-- `slice bounds out of range [:bound] with length length`. -/
inductive Panic where
  | slice (bound length : Nat)
deriving DecidableEq, Repr

/-- `s[:n]`; the length of a string is that of its bytes. -/
def sliceTo (s : String) (n : Nat) : Except Panic ByteArray :=
  if s.utf8ByteSize < n then .error (.slice n s.utf8ByteSize) else .ok (s.toUTF8.extract 0 n)

/-- Which of the calls fail. `stopLookup` is the lookup that `stop` makes of its own, `logFetcher` says
    whether there is one to ask; it fails if `Env.logSnippet` has nothing. -/
structure Failures where
  stopLookup : Bool
  lookup : Bool
  update : Bool
  insert : Bool
  count : Bool
  archive : Bool
  logFetcher : Bool
deriving DecidableEq, Repr

namespace Faulty

variable (env : Env) (f : Failures) (s : Service) (evt : ContainerEvent)

/-- The id of a log line. -/
def shortID : Except Panic ByteArray := sliceTo evt.externalID 12

/-- `handleStateChange`, from the written row on. -/
def changeState (c : Container) (new : ContainerState) : Service :=
  let c' := { c with state := new, lastStateChangeAt := GoTime.unix evt.timestamp }
  let s := s.updateContainer c'
  let s := if f.insert then s else s.insertTransition (stateTransition env evt c new)
  let s := if f.count then s else s.noteRestart env evt c' c.state
  if evt.replayed then s
  else s.emit (.stateChanged c.id new c.state c.healthStatus evt.exitCode? evt.timestamp)

def handleStateChange (new : ContainerState) : Except Panic Service := do
  if f.lookup then
    let _ ← shortID evt
    return s
  match s.lookup evt.agentID evt.externalID with
  | none =>
    -- "unknown container event, skipping", or "new container detected, running reconciliation"
    let _ ← shortID evt
    return s.handleStateChange env evt new
  | some c =>
    if c.state = new then return s
    if f.update then return s
    if evt.action = .die ∧ f.logFetcher = true ∧ c.id.agentID = localAgent ∧ env.logSnippet = none then
      let _ ← shortID evt
    return changeState env f s evt c new

def handleDestroy : Except Panic Service := do
  if f.lookup then
    let _ ← shortID evt
    return s
  match s.lookup evt.agentID evt.externalID with
  | none => return s
  | some c =>
    if f.archive then
      let _ ← shortID evt
      return s
    return s.archive evt c

/-- The row of a health that the CHECK constraint refuses is not written either. -/
def handleHealthChange : Except Panic Service := do
  if f.lookup then
    let _ ← shortID evt
    return s
  match s.lookup evt.agentID evt.externalID with
  | none => return s
  | some c =>
    match HealthStatus.ofText evt.healthStatus with
    | none => return s
    | some new =>
      if f.update then return s
      if f.insert then
        let s := s.updateContainer
          { c with healthStatus := some new, lastStateChangeAt := GoTime.unix evt.timestamp }
        return s.emit (.healthChanged c.id new c.healthStatus evt.timestamp)
      return s.changeHealth evt c new

def processEvent : Except Panic Service :=
  match evt.action with
  | .start => handleStateChange env f s evt .running
  | .stop =>
    if f.stopLookup = false ∧ (s.lookup evt.agentID evt.externalID).any (·.state == .completed) = true then
      .ok s
    else handleStateChange env f s evt .exited
  | .die => handleStateChange env f s evt (if graceful evt.exitCode then .completed else .exited)
  | .kill => handleStateChange env f s evt .exited
  | .pause => handleStateChange env f s evt .paused
  | .unpause => handleStateChange env f s evt .running
  | .destroy => handleDestroy f s evt
  | .healthStatus => handleHealthChange f s evt
  | .restart | .create | .other _ => .ok s

end Faulty

/-! ## 1. Enough bytes -/

section Safe

variable {env : Env} {f : Failures} {s : Service} {evt : ContainerEvent}

theorem sliceTo_ok {t : String} {n : Nat} (h : n ≤ t.utf8ByteSize) :
    sliceTo t n = .ok (t.toUTF8.extract 0 n) := if_neg (by omega)

namespace Faulty

/-- Nothing fails; there is no log fetcher that could. -/
def never : Failures := ⟨false, false, false, false, false, false, false⟩

variable (h : 12 ≤ evt.externalID.utf8ByteSize)
include h

theorem shortID_ok : ∃ b, shortID evt = .ok b :=
  ⟨_, sliceTo_ok h⟩

theorem handlers_ok : (∀ new, ∃ s', handleStateChange env f s evt new = .ok s') ∧
    (∃ s', handleDestroy f s evt = .ok s') ∧ ∃ s', handleHealthChange f s evt = .ok s' := by
  obtain ⟨b, hb⟩ := shortID_ok h
  simp only [handleStateChange, handleDestroy, handleHealthChange, hb]
  refine ⟨fun new => ?_, ?_, ?_⟩
  all_goals
    repeat' split
    all_goals exact ⟨_, rfl⟩

/-- **Twelve bytes are enough.** -/
theorem processEvent_ok : ∃ s', processEvent env f s evt = .ok s' := by
  obtain ⟨hstate, hdestroy, hhealth⟩ := @handlers_ok env f s evt h
  unfold processEvent
  cases evt.action with
  | start | die | kill | pause | unpause => exact hstate _
  | stop =>
    dsimp only
    split
    · exact ⟨s, rfl⟩
    · exact hstate _
  | destroy => exact hdestroy
  | healthStatus => exact hhealth
  | restart | create | other => exact ⟨s, rfl⟩

/-! ## 2. Where nothing fails -/

theorem handleStateChange_never (new : ContainerState) :
    handleStateChange env never s evt new = .ok (s.handleStateChange env evt new) := by
  unfold handleStateChange
  rw [if_neg (by decide), shortID, sliceTo_ok h]
  cases hc : s.lookup evt.agentID evt.externalID with
  | none => rfl
  | some =>
    rw [handleStateChange_stored hc]
    dsimp only
    split
    · rfl
    · rw [if_neg (by decide), if_neg fun hall => absurd hall.2.1 (by decide)]
      rfl

/-- **The model with failures extends the one without.** -/
theorem processEvent_never : processEvent env never s evt = .ok (s.processEvent env evt) := by
  unfold processEvent Service.processEvent
  cases evt.action with
  | start | die | kill | pause | unpause => exact handleStateChange_never h _
  | stop =>
    by_cases hcompleted : (s.lookup evt.agentID evt.externalID).any (·.state == .completed) = true
    · rw [if_pos ⟨rfl, hcompleted⟩, if_pos hcompleted]
    · rw [if_neg fun hall => hcompleted hall.2, if_neg hcompleted]
      exact handleStateChange_never h _
  | destroy =>
    dsimp only
    unfold handleDestroy Service.handleDestroy
    rw [if_neg (by decide)]
    cases s.lookup evt.agentID evt.externalID <;> rfl
  | healthStatus =>
    dsimp only
    unfold handleHealthChange Service.handleHealthChange
    rw [if_neg (by decide)]
    cases s.lookup evt.agentID evt.externalID with
    | none => rfl
    | some =>
      cases HealthStatus.ofText evt.healthStatus <;> rfl
  | restart | create | other => rfl

end Faulty

end Safe

/-! ## 3. Which events are safe -/

/-- The actions that `ProcessEvent` has a case for. -/
def Action.handled : Action → Bool
  | .restart | .create | .other _ => false
  | _ => true

/-- The lookups fail, and nothing else. -/
def noLookup : Failures := { Faulty.never with stopLookup := true, lookup := true }

/-- A lookup that fails is logged with the shortened id, by every handler. -/
theorem processEvent_noLookup {evt : ContainerEvent} (h : evt.externalID.utf8ByteSize < 12)
    (ha : evt.action.handled = true) (env : Env) (s : Service) :
    Faulty.processEvent env noLookup s evt = .error (.slice 12 evt.externalID.utf8ByteSize) := by
  have hslice : Faulty.shortID evt = .error (.slice 12 evt.externalID.utf8ByteSize) := if_pos h
  have hlookup : noLookup.lookup = true := rfl
  have hstate : ∀ new, Faulty.handleStateChange env noLookup s evt new =
      .error (.slice 12 evt.externalID.utf8ByteSize) := by
    intro new
    unfold Faulty.handleStateChange
    rw [if_pos hlookup, hslice]
    rfl
  unfold Faulty.processEvent
  cases hact : evt.action with
  | start | die | kill | pause | unpause => exact hstate _
  | stop =>
    rw [if_neg fun hall => absurd hall.1 (by decide)]
    exact hstate _
  | destroy =>
    unfold Faulty.handleDestroy
    rw [if_pos hlookup, hslice]
    rfl
  | healthStatus =>
    unfold Faulty.handleHealthChange
    rw [if_pos hlookup, hslice]
    rfl
  | restart | create | other =>
    rw [hact] at ha
    cases ha

/-- **An event is safe exactly when its id is long enough to be shortened**, or nothing is done with
    it. -/
theorem processEvent_safe_iff (evt : ContainerEvent) :
    (∀ env f s, ∃ s', Faulty.processEvent env f s evt = .ok s') ↔
      12 ≤ evt.externalID.utf8ByteSize ∨ evt.action.handled = false := by
  constructor
  · intro hsafe
    by_cases hlen : 12 ≤ evt.externalID.utf8ByteSize
    · exact .inl hlen
    · right
      cases ha : evt.action.handled with
      | false => rfl
      | true =>
        obtain ⟨s', hs'⟩ := hsafe ⟨0, false, none, none, none⟩ noLookup ⟨Table.empty, [], []⟩
        rw [processEvent_noLookup (by omega) ha] at hs'
        cases hs'
  · intro hcond env f s
    rcases hcond with hlen | ha
    · exact Faulty.processEvent_ok hlen
    · unfold Faulty.processEvent
      cases hact : evt.action with
      | restart | create | other => exact ⟨s, rfl⟩
      | start | stop | die | kill | pause | unpause | destroy | healthStatus =>
        rw [hact] at ha
        cases ha

/-- The pod `web` of the namespace `default` starts; it is not stored, and nothing fails. -/
def podStarted : ContainerEvent where
  action := .start
  agentID := ""
  externalID := "default/web"
  exitCode := ""
  healthStatus := "healthy"
  timestamp := 0
  replayed := false

theorem processEvent_podStarted :
    Faulty.processEvent ⟨0, false, none, none, none⟩ Faulty.never ⟨Table.empty, [], []⟩ podStarted =
      .error (.slice 12 11) := by
  rfl

end Maintenant.Containers
