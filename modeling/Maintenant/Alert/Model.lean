/-
  File:      Maintenant/Alert/Model.lean
  Subject:   THE ALERT DATA MODEL (internal/alert/model.go) and the pure predicates of
             internal/alert/engine.go: severity ranks, silence rules, trigger filters.

  Free text stays a `String` where the code compares it as one (severity, source, entity ids:
  `severityRank` has a default branch, the trigger filters are CSV lists); a status the code
  only ever takes from its constants is an enumeration.
-/
import Maintenant.Lib.GoTime
import Maintenant.Lib.Table

namespace Maintenant.Alerting

open GoTime

/-! ## 1. Records -/

/-- `StatusActive`, `StatusResolved`, `StatusSilenced`. -/
inductive AlertStatus where
  | active
  | resolved
  | silenced
  deriving DecidableEq, Repr

/-- An event sent to the engine. `details` is the event's `map[string]any`: `none` for the nil
    map, otherwise what `json.Marshal` answers for it (its only reader). -/
structure Event where
  source : String
  alertType : String
  severity : String
  isRecover : Bool
  message : String
  entityType : String
  entityID : String
  entityName : String
  details : Option (Except Unit String)
  timestamp : Time

/-- A persisted alert record. -/
structure Alert where
  id : String
  source : String
  alertType : String
  severity : String
  status : AlertStatus
  message : String
  entityType : String
  entityID : String
  entityName : String
  details : String
  resolvedByID : Option String
  firedAt : Time
  resolvedAt : Option Time
  acknowledgedAt : Option Time
  acknowledgedBy : String
  deriving DecidableEq, Repr

/-- A delivery target. -/
structure NotificationChannel where
  id : String
  type : String
  enabled : Bool
  deriving DecidableEq, Repr

/-- A routing rule; the filters are CSV lists, an empty one matches everything. -/
structure AlertTrigger where
  id : String
  filterSeverities : String
  filterSources : String
  filterScopes : String
  enabled : Bool
  notifyOnResolve : Bool
  channelIDs : List String
  deriving DecidableEq, Repr

/-- `DeliveryPending`, `DeliveryDelivered`, `DeliveryFailed`. -/
inductive DeliveryStatus where
  | pending
  | delivered
  | failed
  deriving DecidableEq, Repr

/-- A row of notification_deliveries. -/
structure NotificationDelivery where
  id : String
  alertID : String
  channelID : String
  status : DeliveryStatus
  deriving DecidableEq, Repr

/-- A row of silence_rules; an empty text column and a NULL one read alike. -/
structure SilenceRule where
  id : String
  entityType : String
  entityID : Option String
  source : String
  startsAt : Int
  durationSeconds : Int
  cancelledAt : Option Int
  deriving DecidableEq, Repr

/-! ## 2. Severity -/

def severityCritical : String := "critical"

def severityWarning : String := "warning"

def severityInfo : String := "info"

/-- The rank severities are compared by (higher is more severe). -/
def severityRank (s : String) : Int :=
  if s = severityInfo then 0
  else if s = severityWarning then 1
  else if s = severityCritical then 2
  else -1

/-! ## 3. The dedup key -/

/-- `activeAlertKey`: what identifies an active alert. -/
structure ActiveAlertKey where
  source : String
  alertType : String
  entityType : String
  entityID : String
  deriving DecidableEq, Repr

def Event.key (evt : Event) : ActiveAlertKey :=
  ⟨evt.source, evt.alertType, evt.entityType, evt.entityID⟩

def Alert.key (a : Alert) : ActiveAlertKey := ⟨a.source, a.alertType, a.entityType, a.entityID⟩

/-- The details column of an event: `"{}"` for no details and for ones that do not marshal. -/
def Event.detailsJSON (evt : Event) : String :=
  match evt.details with
  | some (.ok b) => b
  | _ => "{}"

/-! ## 4. Silence rules -/

/-- The `WHERE` of `GetActiveSilenceRules` at the clock `now`. -/
def SilenceRule.isActive (rule : SilenceRule) (now : Time) : Bool :=
  rule.cancelledAt.isNone && decide (unix now < rule.startsAt + rule.durationSeconds)

/-- The filters of a rule against an event; a rule with no filter is global. -/
def matchesSilenceRule (rule : SilenceRule) (evt : Event) : Bool :=
  if rule.entityType = "" ∧ rule.source = "" ∧ rule.entityID = none then true
  else if rule.source ≠ "" ∧ rule.source ≠ evt.source then false
  else if rule.entityType ≠ "" ∧ rule.entityType ≠ evt.entityType then false
  else match rule.entityID with
    | some id => id == evt.entityID
    | none => true

/-! ## 5. Trigger filters -/

/-- The leading blanks of `trimSpace`. -/
def dropBlanks : List Char → List Char
  | ' ' :: cs => dropBlanks cs
  | cs => cs

/-- `trimSpace`: blanks off both ends (no other white space). -/
def trimSpace (cs : List Char) : List Char := (dropBlanks (dropBlanks cs).reverse).reverse

/-- The loop of `splitCSV`; `item` holds the characters since the last comma, last one first. -/
def splitCSVLoop (item : List Char) : List Char → List String
  | [] => flush item
  | c :: cs => if c = ',' then flush item ++ splitCSVLoop [] cs else splitCSVLoop (c :: item) cs
where
  flush (item : List Char) : List String :=
    let trimmed := trimSpace item.reverse
    if trimmed = [] then [] else [String.ofList trimmed]

/-- `splitCSV`: the trimmed items between commas, empty ones left out. -/
def splitCSV (s : String) : List String := splitCSVLoop [] s.toList

def containsCSV (csv value : String) : Bool := (splitCSV csv).any (· == value)

/-- The scope of an alert, `entityType:entityID`. -/
def Alert.scope (a : Alert) : String := a.entityType ++ ":" ++ a.entityID

/-- `matchesTrigger`: AND between the fields, OR within a CSV field. -/
def matchesTrigger (t : AlertTrigger) (a : Alert) : Bool :=
  if a.status = .resolved ∧ t.notifyOnResolve = false then false
  else if t.filterSeverities ≠ "" ∧ containsCSV t.filterSeverities a.severity = false then false
  else if t.filterSources ≠ "" ∧ containsCSV t.filterSources a.source = false then false
  else if t.filterScopes ≠ "" ∧ containsCSV t.filterScopes a.scope = false then false
  else true

theorem modifyHead_self {α : Type} (l : List α) : l.modifyHead (fun a => a) = l := congrFun List.modifyHead_id l

/-- The items of the loop are the pieces between commas. -/
theorem splitCSVLoop_eq (item cs : List Char) : splitCSVLoop item cs =
    ((cs.splitOn ',').modifyHead (item.reverse ++ ·)).flatMap fun piece => splitCSVLoop.flush piece.reverse := by
  induction cs generalizing item with
  | nil => simp [splitCSVLoop]
  | cons c cs ih =>
    unfold List.splitOn at ih ⊢
    rw [splitCSVLoop, List.splitOnP_cons_eq_if_modifyHead]
    by_cases hc : c = ','
    · simp [hc, ih, modifyHead_self]
    · have hcons : (fun piece => item.reverse ++ piece) ∘ (c :: ·) = fun piece => item.reverse ++ c :: piece := rfl
      simp [hc, ih, hcons]

/-- **A filter accepts** the texts between its commas, without the blanks around them; the empty text never. -/
theorem containsCSV_iff {csv value : String} : containsCSV csv value = true ↔
    value ≠ "" ∧ ∃ piece ∈ csv.toList.splitOn ',', String.ofList (trimSpace piece) = value := by
  simp only [containsCSV, splitCSV, splitCSVLoop_eq, List.reverse_nil, List.nil_append, modifyHead_self,
    List.any_eq_true,
    List.mem_flatMap, splitCSVLoop.flush, List.reverse_reverse, List.mem_ite_nil_left, List.mem_singleton, beq_iff_eq]
  constructor
  · rintro ⟨_, ⟨piece, hpiece, hne, rfl⟩, rfl⟩
    exact ⟨by simpa using hne, piece, hpiece, rfl⟩
  · rintro ⟨hne, piece, hpiece, rfl⟩
    exact ⟨_, ⟨piece, hpiece, by simpa using hne, rfl⟩, rfl⟩

example : splitCSV "warning, ,critical " = ["warning", "critical"] := by decide

end Maintenant.Alerting
