/-
  File:      Maintenant/Certificate/Thresholds.lean
  Subject:   EXPIRING ALERTS, CHECK BY CHECK (internal/certificate/service.go: `evaluateAlerts`).

  The memory of the last threshold only goes down until none is crossed: it is the lowest one since then
  (`evaluateAll_eq`), not that of the check before. `lower_thresholds_alert_iff`: when that does not matter.
-/
import Maintenant.Certificate.Alerts

namespace Maintenant.Certificates

/-- A check, and the clock it read. -/
abbrev Check := Meets × CertCheckResult

/-- There was a handshake, and the certificate has not expired. -/
def Check.Unexpired (c : Check) : Prop :=
  c.2.errorMessage = "" ∧ (c.2.shown.any fun shown => !decide (shown.notAfter < c.1.alertBefore)) = true
deriving Decidable

def Emitted.isExpiring : Emitted → Bool
  | .alert _ data _ => data.type == .expiring
  | _ => false

/-- A threshold is crossed now, and a lower one than before, if any was. -/
def lower (before now : Option Int) : Bool := now.any fun t => before.all fun p => decide (t < p)

/-- The lowest threshold that was crossed since none was. -/
def lowest (crossed : List (Option Int)) : Option Int :=
  crossed.foldl (fun low now => now.map fun t => low.elim t (min t)) none

namespace CertMonitor

variable (x : Texts) (m : CertMonitor)

/-- The threshold a check crosses. -/
def crossedAt (c : Check) : Option Int := crossedThreshold m.warningThresholds (c.2.daysRemaining x c.1.alertUntil)

/-- The monitor after some checks. -/
def evaluateAll (cs : List Check) : CertMonitor := cs.foldl (fun m c => (m.evaluateAlerts x c.1 c.2).1) m

/-- Each check that crosses a lower threshold than the check before it emits an expiring alert. -/
def LowerAlerts (cs : List Check) : Prop :=
  ∀ before c after, cs = before ++ c :: after →
    lower (before.getLast?.bind (m.crossedAt x)) (m.crossedAt x c) = true →
    ∃ e ∈ ((m.evaluateAll x before).evaluateAlerts x c.1 c.2).2, e.isExpiring = true

/-- Each check that crosses a lower threshold than the check before it crosses a lower one than every check
    since none was crossed. -/
def LowestEach (cs : List Check) : Prop :=
  ∀ before c after, cs = before ++ c :: after →
    lower (before.getLast?.bind (m.crossedAt x)) (m.crossedAt x c) = true →
    lower (lowest (before.map (m.crossedAt x))) (m.crossedAt x c) = true

variable {x m} {c : Check} {cs : List Check}

theorem immediate_not_expiring {result : CertCheckResult} {data : AlertData} (hdata : data ∈ immediateAlerts result) :
    data.type ≠ .expiring := by
  intro htype
  cases data with
  | expiring =>
    unfold immediateAlerts at hdata
    cases hshown : result.shown <;> simp [hshown] at hdata
  | _ => cases htype

/-- One check: the memory is the lowest threshold, and a lower one than the memory alerts. -/
theorem evaluateAlerts_lower (hc : c.Unexpired) : (m.evaluateAlerts x c.1 c.2).1 =
      { m with lastAlertedThreshold := (m.crossedAt x c).map fun t => m.lastAlertedThreshold.elim t (min t) } ∧
    ((∃ e ∈ (m.evaluateAlerts x c.1 c.2).2, e.isExpiring = true) ↔
      lower m.lastAlertedThreshold (m.crossedAt x c) = true) := by
  obtain ⟨herror, hshown⟩ := hc
  obtain ⟨shown, hshown, hexpired⟩ := (Option.any_eq_true _ _).mp hshown
  rw [Bool.not_eq_true', decide_eq_false_iff_not] at hexpired
  have hcrossed : crossedThreshold m.warningThresholds (c.2.daysRemaining x c.1.alertUntil) = m.crossedAt x c := rfl
  have himmediate : ∀ l,
    (∃ e ∈ (immediateAlerts c.2).map (fun data => Emitted.alert m.ref data c.2.checkedAt) ++ l,
      e.isExpiring = true) ↔ ∃ e ∈ l, e.isExpiring = true := by
    intro l
    simp only [List.mem_append, or_and_right, exists_or, or_iff_right_iff_imp]
    rintro ⟨e, he, hexpiring⟩
    obtain ⟨data, hdata, rfl⟩ := List.mem_map.mp he
    exact absurd (eq_of_beq hexpiring) (immediate_not_expiring hdata)
  simp only [evaluateAlerts, herror, hshown, hexpired, evaluateThresholds, hcrossed]
  simp only [ne_eq, not_true_eq_false, if_false, himmediate]
  obtain ⟨id, hostname, port, serverName, source, status, interval, thresholds, last, checked, next, lastError⟩ := m
  generalize crossedAt x _ c = crossed
  cases crossed with
  | none => cases last <;> simp [lower, Emitted.isExpiring]
  | some t =>
    cases last with
    | none => simp [lower, Emitted.isExpiring, expiringData, AlertData.type]
    | some p =>
      by_cases hlt : t < p
      · simp [lower, hlt, hlt.le, Emitted.isExpiring, expiringData, AlertData.type]
      · simp [lower, hlt, not_lt.mp hlt]

/-- The memory is the lowest threshold since none was crossed. -/
theorem evaluateAll_eq (hnew : m.lastAlertedThreshold = none) (hcs : ∀ c ∈ cs, c.Unexpired) :
    m.evaluateAll x cs = { m with lastAlertedThreshold := lowest (cs.map (m.crossedAt x)) } := by
  induction cs using List.reverseRecOn with
  | nil => rw [evaluateAll, List.foldl_nil, List.map_nil, lowest, List.foldl_nil, ← hnew]
  | append_singleton cs c ih =>
    obtain ⟨hcs, hc⟩ := List.forall_mem_append.mp hcs
    have hbefore := ih hcs
    unfold evaluateAll at hbefore ⊢
    have hlowest : lowest ((cs ++ [c]).map (m.crossedAt x)) =
        (m.crossedAt x c).map fun t => (lowest (cs.map (m.crossedAt x))).elim t (min t) := by
      rw [List.map_append]
      exact List.foldl_concat ..
    rw [List.foldl_concat, hbefore, (evaluateAlerts_lower (hc c List.mem_cons_self)).1, hlowest]
    rfl

/-- **Every lower threshold alerts exactly when each is lower than all since none was crossed.** -/
theorem lower_thresholds_alert_iff (hnew : m.lastAlertedThreshold = none) (hcs : ∀ c ∈ cs, c.Unexpired) :
    m.LowerAlerts x cs ↔ m.LowestEach x cs := by
  refine forall₃_congr fun before c after => forall₂_congr fun hsplit _ => ?_
  rw [hsplit] at hcs
  obtain ⟨hbefore, hc⟩ := List.forall_mem_append.mp hcs
  rw [evaluateAll_eq hnew hbefore, (evaluateAlerts_lower (hc c List.mem_cons_self)).2]
  rfl

end CertMonitor

/-- A certificate that ends on a day, checked on the first. -/
def sampleCheck (lastDay : Int) : Check := (sampleMeets, (sampleResult true lastDay).toResult "m" sampleMeets)

theorem lower_thresholds_sample : sampleMonitor.LowerAlerts sampleTexts [sampleCheck 20, sampleCheck 5] := by
  refine (CertMonitor.lower_thresholds_alert_iff rfl (by decide)).mpr ?_
  rintro (_ | ⟨_, _ | ⟨_, _ | ⟨_, _⟩⟩⟩) c after heq _
  all_goals cases heq
  all_goals decide

/-- **A partial renewal**: seven days were crossed, then thirty, and the seven that are crossed again emit nothing. -/
theorem partial_renewal_silences :
    ¬ sampleMonitor.LowerAlerts sampleTexts [sampleCheck 5, sampleCheck 20, sampleCheck 5] := by
  intro h
  have halert := h [sampleCheck 5, sampleCheck 20] (sampleCheck 5) [] rfl (by decide)
  revert halert
  decide

end Maintenant.Certificates
