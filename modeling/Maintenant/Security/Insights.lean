/-
  File:      Maintenant/Security/Insights.lean
  Subject:   SECURITY ALERTS ACROSS RESTARTS (internal/security/service.go: `UpdateContainer`, the callback
             of internal/app/wiring.go), over any lists for one container and any restarts.

  The service reports differences to the types it remembers. A restart empties that memory, while the
  engine reloads its alerts from the store: what was cleaned up in between is never reported.

  * `updateContainer_signals` -- what a call sends, by whether it finds and whether it remembers something;
  * `dangerous_config_tracks_iff` -- the alert follows the lists exactly when no empty list comes while an
    alert is held that the service does not remember.
-/
import Maintenant.Alert.Held
import Mathlib.Data.Finset.Card

namespace Maintenant.Security

open GoTime Alerting

/-! ## 1. Insights -/

inductive InsightType where
  | portExposedAllInterfaces
  | databasePortExposed
  | privilegedContainer
  | hostNetworkMode
  | serviceLoadBalancer
  | serviceNodePort
  | missingNetworkPolicy
  deriving DecidableEq

/-- An insight, with the details its message mentions. -/
structure Insight where
  type : InsightType
  severity : String
  title : String
  port : Option String
  protocol : Option String
  databaseType : Option String

def severityRank (s : String) : Nat :=
  if s = "critical" then 3 else if s = "high" then 2 else if s = "medium" then 1 else 0

def highestSeverity (insights : List Insight) : String :=
  insights.foldl (fun best i => if severityRank best < severityRank i.severity then i.severity else best) ""

def mapSecuritySeverity (s : String) : String :=
  if s = "critical" then severityCritical else if s = "high" then severityWarning else severityInfo

/-- An insight's part of the message; the database's name goes before the protocol's. -/
def Insight.detail (i : Insight) : String :=
  match i.databaseType, i.port, i.protocol with
  | some dbType, some port, _ => i.title ++ " (" ++ dbType ++ " " ++ port ++ ")"
  | _, some port, some proto => i.title ++ " (" ++ port ++ "/" ++ proto ++ ")"
  | _, _, _ => i.title

def formatAlertMessage (insights : List Insight) : String :=
  if insights = [] then ""
  else toString insights.length ++ " security issue(s) detected: " ++ ", ".intercalate (insights.map Insight.detail)

/-! ## 2. The service and its callback -/

/-- The types last seen, by container; a missing entry reads as the empty set. -/
abbrev Previous := String → Finset InsightType

def hasChange (old new : Finset InsightType) : Bool :=
  old.card != new.card || decide (∃ t ∈ new, t ∉ old) || decide (∃ t ∈ old, t ∉ new)

/-- What the callback looks up: the clock, and the details as JSON. -/
structure Sending where
  now : Time
  details : List Insight → Except Unit String

/-- The event of the alert callback; no insights are a recovery. -/
def securityAlert (x : Sending) (containerID containerName : String) (insights : List Insight)
    (isRecover : Bool) : Event where
  source := "security"
  alertType := "dangerous_config"
  severity := if isRecover then severityInfo else mapSecuritySeverity (highestSeverity insights)
  isRecover := isRecover
  message :=
    if isRecover then "All security issues resolved for container " ++ containerName
    else formatAlertMessage insights
  entityType := "container"
  entityID := containerID
  entityName := containerName
  details := some (x.details insights)
  timestamp := x.now

def securityKey (containerID : String) : ActiveAlertKey :=
  ⟨"security", "dangerous_config", "container", containerID⟩

/-- The types of a list. -/
def typesOf (insights : List Insight) : Finset InsightType := (insights.map Insight.type).toFinset

def updateContainer (containerID : String) (previous : Previous) (i : String × List Insight × Sending) :
    Previous × List Signal :=
  let (containerName, newInsights, x) := i
  let oldTypes := previous containerID
  let newTypes := typesOf newInsights
  let next := Function.update previous containerID newTypes
  if !hasChange oldTypes newTypes then (next, [])
  else if newInsights ≠ [] then (next, [.event (securityAlert x containerID containerName newInsights false)])
  else if oldTypes ≠ ∅ then (next, [.event (securityAlert x containerID containerName [] true)])
  else (next, [])

/-- The engine of a new process: its map is filled from the store. -/
def reload (e : Engine) : Engine where
  state := ⟨reloadActiveAlerts ∅ e.state.alerts, e.state.alerts⟩
  keyed _ _ h := (GoMap.mem_of_insertAll h).2

/-- A call for the container, or a restart of the process. -/
inductive Turn where
  | update (call : (String × List Insight × Sending) × (Nat → Handling))
  | restart

def turn (containerID : String) (w : Watched Previous) : Turn → Watched Previous
  | .update call => w.step (updateContainer containerID) call
  | .restart => ⟨fun _ => ∅, reload w.engine⟩

/-! ## 3. The alert and the list just passed -/

/-- No silence and no store error. -/
def Heard (containerID : String) (w : Watched Previous) : Turn → Prop
  | .update call => w.engine.HearsAll call.2 (updateContainer containerID w.service call.1).2
  | .restart => True

/-- After the call an alert is held exactly when the list just passed is not empty. -/
def Tracks (containerID : String) (w : Watched Previous) : Turn → Prop
  | .update call =>
    (turn containerID w (.update call)).engine.holds (securityKey containerID) = true ↔ call.1.2.1 ≠ []
  | .restart => True

/-- An empty list finds no alert of the container that the service does not remember. -/
def Remembered (containerID : String) (w : Watched Previous) : Turn → Prop
  | .update call =>
    call.1.2.1 = [] → w.service containerID = ∅ → w.engine.holds (securityKey containerID) = false
  | .restart => True

instance (containerID : String) (w : Watched Previous) (t : Turn) : Decidable (Heard containerID w t) :=
  match t with
  | .update call => inferInstanceAs (Decidable (w.engine.HearsAll call.2 _))
  | .restart => inferInstanceAs (Decidable True)

instance (containerID : String) (w : Watched Previous) (t : Turn) : Decidable (Remembered containerID w t) :=
  match t with
  | .update call => inferInstanceAs (Decidable (call.1.2.1 = [] → w.service containerID = ∅ → _ = false))
  | .restart => inferInstanceAs (Decidable True)

section Tracking

variable {containerID : String} {previous : Previous}

theorem hasChange_eq (old new : Finset InsightType) : hasChange old new = decide (old ≠ new) := by
  by_cases h : old = new
  · simp [hasChange, h]
  · have hmissing : ¬(new ⊆ old ∧ old ⊆ new) := fun hsub => h (hsub.2.antisymm hsub.1)
    simp only [Finset.subset_iff] at hmissing
    simp only [hasChange, Bool.or_eq_true, decide_eq_true_eq, bne_iff_ne, ne_eq, h, not_false_eq_true, decide_true]
    grind

theorem typesOf_eq_empty {insights : List Insight} : typesOf insights = ∅ ↔ insights = [] := by
  rw [typesOf, List.toFinset_eq_empty_iff, List.map_eq_nil_iff]

@[simp] theorem typesOf_nil : typesOf [] = ∅ := rfl

/-- **What a call does to the container's alert.** Types that did not change leave it alone. -/
theorem updateContainer_signals (i : String × List Insight × Sending) (held : Bool) :
    Signal.onAll (securityKey containerID) held (updateContainer containerID previous i).2 =
      if previous containerID = typesOf i.2.1 then held else decide (i.2.1 ≠ []) := by
  unfold updateContainer
  dsimp only
  rw [hasChange_eq]
  by_cases hsame : previous containerID = typesOf i.2.1
  · simp [hsame]
  · by_cases hnew : i.2.1 = []
    · rw [hnew] at hsame ⊢
      simp_all [Signal.on, securityAlert, Event.key, securityKey]
    · simp [hsame, hnew, Signal.on, securityAlert, Event.key, securityKey]

/-- **The alert follows the lists** exactly when no empty list comes while an alert is held that the
    service does not remember. -/
theorem dangerous_config_tracks_iff {w : Watched Previous} {turns : List Turn}
    (hheard : Passes.Along (turn containerID) (Heard containerID) w turns) (hfresh : w.service containerID = ∅) :
    Passes.Along (turn containerID) (Tracks containerID) w turns ↔
      Passes.Along (turn containerID) (Remembered containerID) w turns := by
  -- what the service remembers is held; a call that changes nothing relies on it
  refine Passes.along_iff_of_inv
    (J := fun w => w.service containerID ≠ ∅ → w.engine.holds (securityKey containerID) = true) hheard ?_
    fun h => absurd hfresh h
  rintro w (⟨i, h⟩ | _) - hears hJ
  · have hholds : (turn containerID w (.update (i, h))).engine.holds (securityKey containerID) = _ :=
      (Watched.step_holds hears _).trans (updateContainer_signals i _)
    have hprevious : (turn containerID w (.update (i, h))).service containerID = typesOf i.2.1 := by
      show (updateContainer containerID w.service i).1 containerID = _
      unfold updateContainer
      dsimp only
      split_ifs <;> exact Function.update_self ..
    rw [Tracks, Remembered, hprevious, hholds]
    by_cases hnew : i.2.1 = []
    · by_cases hold : w.service containerID = ∅ <;> simp [hold, hnew]
    · have htypes : typesOf i.2.1 ≠ ∅ := mt typesOf_eq_empty.mp hnew
      by_cases hsame : w.service containerID = typesOf i.2.1
      · simp [hsame, hnew, hJ (hsame ▸ htypes)]
      · simp [hsame, hnew]
  · exact ⟨Iff.rfl, fun _ h => absurd rfl h⟩

end Tracking

/-- A container with one dangerous setting, and the same container after it was taken away. -/
def privileged (id : String) : Turn :=
  .update (("web", [⟨.privilegedContainer, "critical", "Privileged container", none, none, none⟩],
    ⟨0, fun _ => .ok ""⟩), fun _ => .plain id)

def cleaned (id : String) : Turn := .update (("web", [], ⟨0, fun _ => .ok ""⟩), fun _ => .plain id)

def fresh : Watched Previous := ⟨fun _ => ∅, .idle ⟨[], by decide⟩⟩

/-- A setting that is still there after the restart is found again, and cleaned up after that. -/
theorem dangerous_config_found_again :
    Passes.Along (turn "c1") (Tracks "c1") fresh [privileged "a1", .restart, privileged "a2", cleaned "a3"] :=
  (dangerous_config_tracks_iff (by decide) rfl).mpr (by decide)

/-- A setting that is gone after the restart leaves its alert active. -/
theorem dangerous_config_left_behind :
    Passes.Along (turn "c1") (Heard "c1") fresh [privileged "a1", .restart, cleaned "a2"] ∧
      ([privileged "a1", .restart, cleaned "a2"].foldl (turn "c1") fresh).engine.holds (securityKey "c1") = true := by
  decide

end Maintenant.Security
