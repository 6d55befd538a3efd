/-
  File:      Maintenant/Certificate/Alerts.lean
  Subject:   THE ALERTS OF A CERTIFICATE MONITOR, over any results in order (internal/app/wiring.go:
             the certificate callback).

  A recovery is sent for the alert type expiring only. The other four stay with the engine once a
  check has raised them, however good the certificate becomes.

  * `evaluated_row`, `evaluated_on` -- what one result does to the row and to the alerts;
  * `certificate_alerts_clear` -- what is left active after a result with which the certificate is fine.
-/
import Maintenant.Certificate.Service
import Maintenant.Alert.Held

namespace Maintenant.Certificates

open GoTime Alerting

/-! ## 1. The callback -/

/-- What the callback looks up: the clock, and a map as JSON. -/
structure Sending where
  now : Time
  details : Emitted → Except Unit String

/-- What the certificate callback sends the engine. -/
def certificateSignals (x : Sending) (e : Emitted) : List Signal :=
  match e with
  | .alert m data _ =>
    [.event {
      source := "certificate"
      alertType := data.type.text
      severity := if data.severity ≠ "" then data.severity else severityCritical
      isRecover := false
      message := "Certificate alert (" ++ data.type.text ++ ") for " ++ m.hostname ++ ":" ++ toString m.port
      entityType := "certificate"
      entityID := m.id
      entityName := m.hostname
      details := some (x.details e)
      timestamp := x.now }]
  | .recovery m _ _ _ =>
    [.event {
      source := "certificate"
      alertType := "expiring"
      severity := severityInfo
      isRecover := true
      message := "Certificate renewed for " ++ m.hostname
      entityType := "certificate"
      entityID := m.id
      entityName := m.hostname
      details := some (x.details e)
      timestamp := x.now }]
  | .checkCompleted .. | .statusChanged .. => []

/-- The key of a monitor's alert. -/
def certKey (id : String) (type : AlertType) : ActiveAlertKey :=
  ⟨"certificate", type.text, "certificate", id⟩

theorem certKey_inj {id : String} {t t' : AlertType} : certKey id t = certKey id t' ↔ t = t' :=
  key_inj AlertType.text fun t t' => by cases t <;> cases t' <;> decide

/-- A result of the monitor, with what its processing meets. -/
structure Checking where
  raw : CheckCertificateResult
  env : Meets
  sending : Sending

/-- The result is processed, and what the engine is sent for it. -/
def checked (x : Texts) (id : String) (s : Service) (i : Checking) : Service × List Signal :=
  let s' := s.check x id i.env i.raw
  (s', (s'.emitted.drop s.emitted.length).flatMap (certificateSignals i.sending))

/-! ## 2. One result -/

/-- The OCSP status on record. -/
def Checking.ocspStatus (i : Checking) : String := if i.env.ocspStapling then i.raw.stapled.ocspStatus else ""

/-- The result raises an alert of this type, of those that are raised whatever was raised before. -/
def Checking.raises (i : Checking) : AlertType → Bool
  | .chainInvalid => i.raw.error == "" && !i.raw.chainValid
  | .hostnameMismatch => i.raw.error == "" && !i.raw.hostnameMatch
  | .ocspRevoked => i.raw.error == "" && i.ocspStatus == "revoked"
  | .expired => i.raw.error == "" && decide (i.raw.notAfter < i.env.alertBefore)
  | .expiring => false

/-- The days that remain, as the evaluation of the result reads them. -/
def Checking.days (x : Texts) (i : Checking) : Int := x.daysUntil i.raw.notAfter i.env.alertUntil

/-- The result gets as far as the thresholds. -/
def Checking.evaluates (i : Checking) : Bool :=
  i.raw.error == "" && !decide (i.raw.notAfter < i.env.alertBefore)

/-- What the thresholds make of the expiring alert and of last_alerted_threshold. -/
def thresholdTurn (crossed last : Option Int) : Option Bool × Option Int :=
  match crossed, last with
  | none, none => (none, none)
  | none, some _ => (some false, none)
  | some crossed, last =>
    if last.all fun threshold => decide (crossed < threshold) then (some true, some crossed) else (none, last)

/-- The turn of a result. -/
def Checking.turn (x : Texts) (i : Checking) (m : CertMonitor) : Option Bool × Option Int :=
  if i.evaluates then thresholdTurn (crossedThreshold m.warningThresholds (i.days x)) m.lastAlertedThreshold
  else (none, m.lastAlertedThreshold)

/-- The monitor after the evaluation of a result, and what it emits. -/
def Checking.evaluated (x : Texts) (i : Checking) (m : CertMonitor) : CertMonitor × List Emitted :=
  (m.scanned x i.env i.raw).evaluateAlerts x i.env (i.raw.toResult m.id i.env)

section Step

variable {x : Texts} {id : String} {m : CertMonitor} {s : Service} {i : Checking}

/-- A failed handshake says nothing. -/
theorem evaluated_error (h : i.raw.error ≠ "") : i.evaluated x m = (m.scanned x i.env i.raw, []) := by
  exact if_pos h

/-- What a result shows. -/
def Checking.shown (i : Checking) : Shown :=
  ⟨i.raw.leaf, i.raw.notAfter, i.raw.chainValid, i.raw.chainError, i.raw.hostnameMatch⟩

theorem toResult_shown (h : i.raw.error = "") : (i.raw.toResult id i.env).shown = some i.shown :=
  if_neg (not_not_intro h)

/-- The alerts of a result by itself, as signals. -/
def Checking.immediate (i : Checking) (m : CertMonitor) : List Emitted :=
  (immediateAlerts (i.raw.toResult m.id i.env)).map fun data => .alert m.ref data i.env.now

theorem evaluated_shown (h : i.raw.error = "") : i.evaluated x m =
    if i.raw.notAfter < i.env.alertBefore then
      (m.scanned x i.env i.raw, i.immediate m ++ [.alert m.ref (.expired i.raw.notAfter (i.days x)) i.env.now])
    else
      let next := (m.scanned x i.env i.raw).evaluateThresholds x (i.raw.toResult m.id i.env) i.shown (i.days x)
      (next.1, i.immediate m ++ next.2) := by
  unfold Checking.evaluated CertMonitor.evaluateAlerts
  rw [if_neg (not_not_intro h : ¬ (i.raw.toResult m.id i.env).errorMessage ≠ "")]
  rw [CertCheckResult.daysRemaining, toResult_shown h]
  rfl

/-! ### The row -/

/-- What the evaluation leaves of a monitor. -/
theorem evaluated_row :
    (i.evaluated x m).1.id = m.id ∧ (i.evaluated x m).1.warningThresholds = m.warningThresholds ∧
    (i.evaluated x m).1.lastAlertedThreshold = (i.turn x m).2 := by
  unfold Checking.turn Checking.evaluates
  by_cases h : i.raw.error = ""
  · by_cases hexpired : i.raw.notAfter < i.env.alertBefore
    · rw [evaluated_shown h, if_pos hexpired]
      simp [h, hexpired, CertMonitor.scanned]
    · rw [evaluated_shown h, if_neg hexpired]
      simp only [h, hexpired, beq_self_eq_true, decide_false, Bool.not_false, Bool.and_true, if_true]
      unfold CertMonitor.evaluateThresholds thresholdTurn
      show CertMonitor.id (_ : CertMonitor × List Emitted).1 = m.id ∧ _
      have hscanned : (m.scanned x i.env i.raw).warningThresholds = m.warningThresholds ∧
          (m.scanned x i.env i.raw).lastAlertedThreshold = m.lastAlertedThreshold := ⟨rfl, rfl⟩
      rw [hscanned.1, hscanned.2]
      cases crossedThreshold m.warningThresholds (i.days x) with
      | none =>
        cases hlast : m.lastAlertedThreshold with
        | none => exact ⟨rfl, rfl, hlast⟩
        | some => exact ⟨rfl, rfl, rfl⟩
      | some =>
        dsimp only
        split <;> exact ⟨rfl, rfl, rfl⟩
  · rw [evaluated_error h]
    simp [h, CertMonitor.scanned]

/-! ### The alerts -/

variable {y : Sending} {type : AlertType} {held : Bool}

@[simp] theorem onAll_alert (r : MonitorRef) (data : AlertData) (t : Time) :
    Signal.onAll (certKey r.id type) held (certificateSignals y (.alert r data t)) =
      if data.type = type then true else held := by
  show (if certKey r.id data.type = certKey r.id type then true else held) = _
  simp only [certKey_inj]

@[simp] theorem onAll_recovery (r : MonitorRef) (t : Time) (days : Int) (t' : Time) :
    Signal.onAll (certKey r.id type) held (certificateSignals y (.recovery r t days t')) =
      if .expiring = type then false else held := by
  show (if certKey r.id .expiring = certKey r.id type then false else held) = _
  simp only [certKey_inj]

theorem onAll_alerts (r : MonitorRef) (t : Time) (data : List AlertData) : Signal.onAll (certKey r.id type) held
        ((data.map fun d => Emitted.alert r d t).flatMap (certificateSignals y)) =
      (held || data.any fun d => decide (d.type = type)) := by
  induction data generalizing held with
  | nil => simp
  | cons d _ ih =>
    rw [List.map_cons, List.flatMap_cons, Signal.onAll_append, ih, onAll_alert, List.any_cons]
    by_cases hd : d.type = type <;> simp [hd]

/-- What a result says by itself. -/
theorem immediate_any (h : i.raw.error = "") :
    ((immediateAlerts (i.raw.toResult id i.env)).any fun d => decide (d.type = type)) =
      (decide (type ≠ .expired) && i.raises type) := by
  have hstapled : (i.raw.toResult id i.env).stapled = if i.env.ocspStapling then i.raw.stapled else .none := by
    simp [CheckCertificateResult.toResult, h]
  unfold immediateAlerts
  rw [toResult_shown h, hstapled]
  cases hstapling : i.env.ocspStapling <;> cases hchain : i.raw.chainValid <;>
    cases hhost : i.raw.hostnameMatch <;> by_cases hrevoked : i.raw.stapled.ocspStatus = "revoked" <;>
    cases type <;>
    simp [Checking.raises, Checking.ocspStatus, Checking.shown, AlertData.type, Stapled.none, h, hstapling, hchain,
      hhost, hrevoked]

theorem onAll_immediate (h : i.raw.error = "") :
    Signal.onAll (certKey m.id type) held ((i.immediate m).flatMap (certificateSignals y)) =
      (held || (decide (type ≠ .expired) && i.raises type)) := by
  rw [← immediate_any h]
  exact onAll_alerts m.ref i.env.now _

theorem onAll_thresholds (result : CertCheckResult) (shown : Shown) (days : Int) :
    Signal.onAll (certKey m.id type) held ((m.evaluateThresholds x result shown days).2.flatMap
        (certificateSignals y)) = if type = .expiring then
        (thresholdTurn (crossedThreshold m.warningThresholds days) m.lastAlertedThreshold).1.getD held else held := by
  unfold CertMonitor.evaluateThresholds thresholdTurn
  cases crossedThreshold m.warningThresholds days with
  | none =>
    cases m.lastAlertedThreshold with
    | none => cases type <;> rfl
    | some =>
      refine (onAll_recovery m.ref _ _ _).trans ?_
      cases type <;> rfl
  | some =>
    dsimp only
    split
    · refine (onAll_alert m.ref _ _).trans ?_
      cases type <;> rfl
    · cases type <;> rfl

/-- **What a result does to the alerts**: a sticky one is raised, or stays; the expiring one takes its
    turn. -/
theorem evaluated_on : Signal.onAll (certKey m.id type) held ((i.evaluated x m).2.flatMap (certificateSignals y)) =
      if type = .expiring then (i.turn x m).1.getD held else held || i.raises type := by
  by_cases h : i.raw.error = ""
  · by_cases hexpired : i.raw.notAfter < i.env.alertBefore
    · rw [evaluated_shown h, if_pos hexpired]
      rw [List.flatMap_append, Signal.onAll_append, onAll_immediate h, List.flatMap_singleton]
      refine (onAll_alert m.ref _ _).trans ?_
      cases type <;> simp [AlertData.type, Checking.raises, Checking.turn, Checking.evaluates, h, hexpired]
    · rw [evaluated_shown h, if_neg hexpired]
      rw [List.flatMap_append, Signal.onAll_append, onAll_immediate h]
      refine (onAll_thresholds (m := m.scanned x i.env i.raw) _ _ _).trans ?_
      cases type <;> simp [Checking.raises, Checking.turn, Checking.evaluates, CertMonitor.scanned, h, hexpired]
  · rw [evaluated_error h]
    cases type <;> simp [Checking.raises, Checking.turn, Checking.evaluates, h]

/-! ### The service -/

/-- The row after a result. -/
def Checking.row (x : Texts) (i : Checking) (m : CertMonitor) : CertMonitor :=
  if i.env.monitorStored then (i.evaluated x m).1.setBy m else m

theorem check_row (hrow : s.monitors.get id = some m) : (checked x id s i).1.monitors.get id = some (i.row x m) := by
  have hid : m.id = id := (Table.get_eq_some.mp hrow).2
  unfold checked Service.check
  rw [hrow]
  unfold Service.processCheckResult Checking.row
  dsimp only
  split
  · have heval : (i.evaluated x m).1.id = m.id := evaluated_row.1
    show (s.monitors.update (fun row => row.id == (i.evaluated x m).1.id)
      (fun row => (i.evaluated x m).1.setBy row) (i.evaluated x m).1.setBy_id).get id = _
    rw [heval, hid]
    exact (Table.get_update_key hrow).trans (if_pos rfl)
  · exact hrow

theorem check_signals (hrow : s.monitors.get id = some m) :
    (checked x id s i).2 = (i.evaluated x m).2.flatMap (certificateSignals i.sending) := by
  unfold checked Service.check
  rw [hrow]
  show ((s.emitted ++ (i.evaluated x m).2 ++ _ :: _).drop s.emitted.length).flatMap _ = _
  rw [List.append_assoc, List.drop_left, List.flatMap_append, List.flatMap_cons]
  split <;> exact List.append_nil _

end Step

/-! ## 3. Whole runs -/

section Thresholds

/-- The last crossed threshold of a list, whatever its order. -/
theorem foldl_crossed (days : Int) (l : List Int) (last : Option Int) :
    l.foldl (fun crossed threshold => if days ≤ threshold then some threshold else crossed) last = none ↔
      last = none ∧ ∀ threshold ∈ l, threshold < days := by
  induction l generalizing last with
  | nil => simp
  | cons t _ ih =>
    rw [List.foldl_cons, ih, List.forall_mem_cons]
    by_cases h : days ≤ t
    · rw [if_pos h]
      simp [Int.not_lt.mpr h]
    · rw [if_neg h]
      simp [Int.not_le.mp h]

/-- None is crossed exactly when more days remain than each of them says. -/
theorem crossedThreshold_eq_none {thresholds : List Int} {days : Int} :
    crossedThreshold thresholds days = none ↔ ∀ threshold ∈ thresholds, threshold < days := by
  unfold crossedThreshold
  rw [foldl_crossed, and_iff_right rfl]
  simp only [List.mem_insertionSort]

end Thresholds

/-- The certificate is fine: a handshake, a valid chain, the right host name, no revocation on record, and
    more days than every threshold says. -/
structure Fine (x : Texts) (thresholds : List Int) (i : Checking) : Prop where
  error : i.raw.error = ""
  chainValid : i.raw.chainValid = true
  hostnameMatch : i.raw.hostnameMatch = true
  ocspStatus : i.ocspStatus ≠ "revoked"
  days : ∀ threshold ∈ thresholds, threshold < i.days x

/-- An expiring alert that is active is remembered in the row. -/
def Remembered (id : String) (w : Watched Service) : Prop :=
  w.engine.holds (certKey id .expiring) = true →
    ∃ m, w.service.monitors.get id = some m ∧ m.lastAlertedThreshold ≠ none

section Runs

variable {x : Texts} {id : String} {m : CertMonitor} {w : Watched Service}
  {i : Checking × (Nat → Handling)} {is : List (Checking × (Nat → Handling))}

/-- What the engine holds after a result. -/
theorem step_holds (hrow : w.service.monitors.get id = some m)
    (hears : w.engine.HearsAll i.2 (checked x id w.service i.1).2) (type : AlertType) :
    (w.step (checked x id) i).engine.holds (certKey id type) =
      if type = .expiring then (i.1.turn x m).1.getD (w.engine.holds (certKey id type))
      else w.engine.holds (certKey id type) || i.1.raises type := by
  have hid : m.id = id := (Table.get_eq_some.mp hrow).2
  rw [Watched.step_holds hears, check_signals hrow, ← hid]
  exact evaluated_on

theorem row_thresholds (i : Checking) : (i.row x m).warningThresholds = m.warningThresholds := by
  unfold Checking.row
  split
  · exact evaluated_row.2.1
  · rfl

section

variable (hrow : w.service.monitors.get id = some m)

include hrow

/-- **A sticky alert stays**, and the thresholds are those of the start. -/
theorem run_sticky (hundisturbed : w.Undisturbed (checked x id) is) :
    (∃ m', (w.run (checked x id) is).service.monitors.get id = some m' ∧
      m'.warningThresholds = m.warningThresholds) ∧
      ∀ type, type ≠ .expiring → (w.run (checked x id) is).engine.holds (certKey id type) =
        (w.engine.holds (certKey id type) || is.any fun j => j.1.raises type) := by
  induction is generalizing w m with
  | nil => exact ⟨⟨m, hrow, rfl⟩, fun type _ => by simp [Watched.run]⟩
  | cons i _ ih =>
    obtain ⟨hears, hrest⟩ := hundisturbed
    obtain ⟨⟨m', hrow', hthresholds⟩, hholds⟩ := ih (w := w.step (checked x id) i) (check_row hrow) hrest
    refine ⟨⟨m', hrow', hthresholds.trans (row_thresholds i.1)⟩, fun type htype => ?_⟩
    rw [Watched.run_cons, hholds type htype, step_holds hrow hears, if_neg htype, List.any_cons, Bool.or_assoc]

/-- One result that is stored keeps the alert remembered. -/
theorem remembered_step
    (hears : w.engine.HearsAll i.2 (checked x id w.service i.1).2) (hstored : i.1.env.monitorStored = true)
    (hw : Remembered id w) : Remembered id (w.step (checked x id) i) := by
  intro hheld
  refine ⟨i.1.row x m, check_row hrow, ?_⟩
  have hlast : (i.1.row x m).lastAlertedThreshold = (i.1.turn x m).2 := by
    unfold Checking.row
    rw [if_pos hstored]
    exact evaluated_row.2.2
  rw [step_holds hrow hears, if_pos rfl] at hheld
  rw [hlast]
  have hbefore : w.engine.holds (certKey id .expiring) = true → m.lastAlertedThreshold ≠ none := by
    intro h
    obtain ⟨m', hrow', hm'⟩ := hw h
    rw [Option.some.inj (hrow.symm.trans hrow')]
    exact hm'
  revert hheld
  unfold Checking.turn
  split
  · unfold thresholdTurn
    cases crossedThreshold m.warningThresholds (i.1.days x) with
    | none =>
      cases hm : m.lastAlertedThreshold with
      | none => exact fun h => absurd hm (hbefore h)
      | some => exact nofun
    | some crossed =>
      dsimp only
      split
      · exact fun _ => Option.some_ne_none crossed
      · exact hbefore
  · exact hbefore

theorem remembered_run (hundisturbed : w.Undisturbed (checked x id) is)
    (hstored : ∀ j ∈ is, j.1.env.monitorStored = true) (hw : Remembered id w) :
    Remembered id (w.run (checked x id) is) := by
  induction is generalizing w m with
  | nil => exact hw
  | cons i _ ih =>
    obtain ⟨hears, hrest⟩ := hundisturbed
    obtain ⟨hi, his⟩ := List.forall_mem_cons.mp hstored
    exact ih (w := w.step (checked x id) i) (check_row hrow) hrest his (remembered_step hrow hears hi hw)

end

/-- What a fine result leaves of the expiring alert. -/
theorem fine_turn (hfine : Fine x m.warningThresholds i.1) (hexpired : i.1.raises .expired = false) :
    (i.1.turn x m).1 = if m.lastAlertedThreshold = none then none else some false := by
  have hevaluates : i.1.evaluates = true := by
    unfold Checking.raises at hexpired
    unfold Checking.evaluates
    rw [hfine.error] at hexpired ⊢
    simpa using hexpired
  unfold Checking.turn
  rw [if_pos hevaluates, crossedThreshold_eq_none.mpr hfine.days]
  cases m.lastAlertedThreshold <;> rfl

/-- **What is left active when the certificate is fine.** After any results of which the last one shows a
    fine certificate no alert is active exactly when no result has ever raised one of the four that are
    never taken back, and the expiring alert, if it was active, was remembered. It was, if every result
    before was stored. -/
theorem certificate_alerts_clear (hrow : w.service.monitors.get id = some m)
    (hundisturbed : w.Undisturbed (checked x id) (is ++ [i])) (hfine : Fine x m.warningThresholds i.1) :
    ((∀ type, (w.run (checked x id) (is ++ [i])).engine.holds (certKey id type) = false) ↔
      (∀ type, type ≠ .expiring → w.engine.holds (certKey id type) = false ∧
        ∀ j ∈ is ++ [i], j.1.raises type = false) ∧ Remembered id (w.run (checked x id) is)) ∧
    (Remembered id w → (∀ j ∈ is, j.1.env.monitorStored = true) →
      Remembered id (w.run (checked x id) is)) := by
  obtain ⟨hbefore, hlast⟩ := Passes.along_append.mp hundisturbed
  obtain ⟨⟨m', hrow', hthresholds⟩, -⟩ := run_sticky hrow hbefore
  have hsticky := (run_sticky hrow hundisturbed).2
  rw [← hthresholds] at hfine
  have hexpiring : (w.run (checked x id) (is ++ [i])).engine.holds (certKey id .expiring) =
      (i.1.turn x m').1.getD ((w.run (checked x id) is).engine.holds (certKey id .expiring)) := by
    rw [Watched.run, List.foldl_append]
    exact (step_holds hrow' hlast.1 .expiring).trans (if_pos rfl)
  have hnever : ∀ type, type ≠ .expiring →
      ((w.run (checked x id) (is ++ [i])).engine.holds (certKey id type) = false ↔
        w.engine.holds (certKey id type) = false ∧ ∀ j ∈ is ++ [i], j.1.raises type = false) := by
    intro type htype
    rw [hsticky type htype, Bool.or_eq_false_iff, List.any_eq_false]
    simp only [Bool.not_eq_true]
  refine ⟨⟨fun h => ?_, fun h type => ?_⟩, fun hw hstored => remembered_run hrow hbefore hstored hw⟩
  · have hstay := fun type htype => (hnever type htype).mp (h type)
    refine ⟨hstay, fun hheld => ⟨m', hrow', fun hnone => ?_⟩⟩
    have hexpired := (hstay .expired (by decide)).2 i (List.mem_append_right is List.mem_cons_self)
    have hfinal := h .expiring
    simp [hexpiring, fine_turn hfine hexpired, if_pos hnone, hheld] at hfinal
  · obtain ⟨hstay, hremembered⟩ := h
    by_cases htype : type = .expiring
    · have hexpired := (hstay .expired (by decide)).2 i (List.mem_append_right is List.mem_cons_self)
      rw [htype, hexpiring, fine_turn hfine hexpired]
      split
      · next hnone =>
        rw [Option.getD_none, ← Bool.not_eq_true]
        intro hheld
        obtain ⟨m'', hrow'', hsome⟩ := hremembered hheld
        rw [← Option.some.inj (hrow'.symm.trans hrow'')] at hsome
        exact hsome hnone
      · rfl
    · exact (hnever type htype).mpr (hstay type htype)

end Runs

/-! ## 4. Two histories -/

/-- Whole days, as the quotient has them up to rounding. -/
def sampleTexts : Texts := ⟨fun notAfter now => (notAfter - now).tdiv (86400 * second), fun _ _ => false⟩

def sampleMonitor : CertMonitor :=
  ⟨"m", "example.org", 443, "", .standalone, .unknown, 43200, defaultWarningThresholds, none, none, none, ""⟩

/-- A monitor without results, and no alert. -/
def newMonitor : Watched Service :=
  ⟨⟨(Table.empty.insert sampleMonitor).getD .empty, [], [], []⟩, .idle .empty⟩

/-- A certificate that ends on a day, seen on the first. -/
def sampleResult (chainValid : Bool) (lastDay : Int) : CheckCertificateResult :=
  ⟨⟨"example.org", "CA", "CA", [], "1", "", 0⟩, lastDay * 86400 * second, chainValid, "", true, [], "", .none⟩

def sampleMeets : Meets := ⟨0, 0, 0, 0, 0, 0, 0, true, "c", true, true, true, true⟩

/-- The result is processed; alerts that it opens get the ids `id` and `id'`. -/
def sampleChecking (chainValid : Bool) (lastDay : Int) (id : String) : Checking × (Nat → Handling) :=
  (⟨sampleResult chainValid lastDay, sampleMeets, ⟨0, fun _ => .ok ""⟩⟩,
    fun n => .plain (if n = 0 then id else id ++ "'"))

theorem sampleChecking_fine : Fine sampleTexts sampleMonitor.warningThresholds (sampleChecking true 90 "b").1 :=
  ⟨rfl, rfl, rfl, by decide, by decide⟩

/-- **A chain that was invalid once keeps its alert**, with a certificate that is fine. -/
theorem chain_alert_outlasts_renewal :
    let run := [sampleChecking false 90 "a", sampleChecking true 90 "b"]
    newMonitor.Undisturbed (checked sampleTexts "m") run ∧
      Fine sampleTexts sampleMonitor.warningThresholds (sampleChecking true 90 "b").1 ∧
      (newMonitor.run (checked sampleTexts "m") run).engine.holds (certKey "m" .chainInvalid) = true :=
  ⟨by decide, sampleChecking_fine, by decide⟩

/-- A certificate that is about to expire, and its renewal. -/
def renewal : List (Checking × (Nat → Handling)) := [sampleChecking true 5 "a"] ++ [sampleChecking true 90 "b"]

theorem renewal_clears_expiring :
    (newMonitor.run (checked sampleTexts "m") (renewal.take 1)).engine.holds (certKey "m" .expiring) = true ∧
      ∀ type, (newMonitor.run (checked sampleTexts "m") renewal).engine.holds (certKey "m" type) = false := by
  have hrow : newMonitor.service.monitors.get "m" = some sampleMonitor := by decide
  have hundisturbed : newMonitor.Undisturbed (checked sampleTexts "m") renewal := by decide
  obtain ⟨hclear, hremembered⟩ := certificate_alerts_clear hrow hundisturbed sampleChecking_fine
  have hnew : Remembered "m" newMonitor := fun hheld => nomatch (Engine.idle_holds _ _).symm.trans hheld
  refine ⟨by decide, hclear.mpr ⟨fun type htype => ⟨Engine.idle_holds _ _, ?_⟩,
    hremembered hnew (by decide)⟩⟩
  cases type with
  | expiring => exact absurd rfl htype
  | expired | chainInvalid | hostnameMismatch | ocspRevoked => decide

end Maintenant.Certificates
