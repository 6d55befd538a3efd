/-
  File:      Maintenant/Alert/Store.lean
  Subject:   THE ALERTS TABLE (internal/store/alerts.go): one function per statement.

  A row is kept as the record `scanAlertFromRow` reads back: instants are whole seconds
  (`stored`), and `InsertAlert` writes neither acknowledgment column. The timestamps
  created_at and escalated_at are read by no function here and are left out.
-/
import Maintenant.Alert.Model

namespace Maintenant.Alerting

open GoTime

/-- The table `alerts`. -/
abbrev AlertTable := Table Alert.id

/-- An instant as the BIGINT column gives it back. -/
def storedTime (t : Time) : Time := ofUnix (unix t)

/-- The row `InsertAlert` writes for a record. -/
def Alert.stored (a : Alert) : Alert :=
  { a with
    firedAt := storedTime a.firedAt
    resolvedAt := a.resolvedAt.map storedTime
    acknowledgedAt := none
    acknowledgedBy := "" }

@[simp] theorem Alert.stored_id (a : Alert) : a.stored.id = a.id := rfl

/-- `INSERT INTO alerts`: `none` when the statement fails (`fails`) or the id is taken. -/
def insertAlert (t : AlertTable) (fails : Bool) (a : Alert) : Option AlertTable :=
  if fails then none else t.insert a.stored

/-- `UPDATE alerts SET status, resolved_at, resolved_by_id WHERE id`. -/
def updateAlertStatus (t : AlertTable) (id : String) (status : AlertStatus)
    (resolvedAt : Option Time) (resolvedByID : Option String) : AlertTable :=
  t.update (fun r => r.id == id)
    (fun r => { r with
      status := status
      resolvedAt := resolvedAt.map storedTime
      resolvedByID := resolvedByID })
    fun _ => rfl

/-- `UPDATE alerts SET severity, message, entity_name, details WHERE id`. -/
def updateAlertOnEscalation (t : AlertTable) (id severity message entityName details : String) :
    AlertTable :=
  t.update (fun r => r.id == id)
    (fun r => { r with
      severity := severity
      message := message
      entityName := entityName
      details := details })
    fun _ => rfl

/-- `SELECT … WHERE status = 'active' ORDER BY fired_at DESC`. -/
def listActiveAlerts (t : AlertTable) : List Alert :=
  (t.rows.filter fun r => r.status == .active).insertionSort fun r r' => r'.firedAt ≤ r.firedAt

/-- `SELECT … WHERE id`; `none` is the `sql.ErrNoRows` the caller gets for a missing row. -/
def getAlert (t : AlertTable) (id : String) : Option Alert := t.get id

/-- `SELECT … WHERE <key> AND status = 'active' LIMIT 1`. -/
def getActiveAlert (t : AlertTable) (key : ActiveAlertKey) : Option Alert :=
  t.rows.find? fun r => r.key == key && r.status == .active

/-- `UPDATE alerts SET acknowledged_at, acknowledged_by WHERE id AND status = 'active' AND
    acknowledged_at IS NULL`. -/
def acknowledgeAlert (t : AlertTable) (id by_ : String) (at_ : Time) : AlertTable :=
  t.update (fun r => r.id == id && r.status == .active && r.acknowledgedAt.isNone)
    (fun r => { r with acknowledgedAt := some (storedTime at_), acknowledgedBy := by_ })
    fun _ => rfl

variable {t : AlertTable}

theorem mem_listActiveAlerts {r : Alert} : r ∈ listActiveAlerts t ↔ r ∈ t ∧ r.status = .active := by
  unfold listActiveAlerts
  rw [List.mem_insertionSort, List.mem_filter, beq_iff_eq]
  exact Iff.rfl

theorem insertAlert_some {t' : AlertTable} {fails : Bool} {a : Alert}
    (h : insertAlert t fails a = some t') : ∀ r, r ∈ t' ↔ r ∈ t ∨ r = a.stored := by
  unfold insertAlert at h
  split at h
  · cases h
  · intro r
    exact Table.mem_insert h

/-- An insert fails exactly when the statement does or the id is taken. -/
theorem insertAlert_eq_none {fails : Bool} {a : Alert} :
    insertAlert t fails a = none ↔ fails = true ∨ t.hasKey a.id = true := by
  unfold insertAlert
  cases fails with
  | true => simp
  | false =>
    rw [if_neg Bool.false_ne_true, Table.insert_eq_none]
    simp

end Maintenant.Alerting
