/-
  File:      Maintenant/Alert/Silence.lean
  Subject:   WHEN A SILENCE HOLDS. A firing event that matches an active silence rule, or that
             the maintenance suppressor covers, should reach nobody.

  The silence check sits on one of the three paths of `processEvent`: opening an alert. A
  duplicate reaches nobody anyway; raising the severity of an active alert never asks.
  `silenced_event_quiet_iff` says exactly when the event stays quiet,
  `silenced_escalation_notifies` is the run where it does not.
-/
import Maintenant.Alert.Agreement

namespace Maintenant.Alerting

/-- The event matches an active rule, or the maintenance suppressor answers true for it. -/
def MatchesSilence (c : Call) (evt : Event) : Prop :=
  (∃ rule ∈ c.cfg.silenceRules, rule.isActive c.now = true ∧ matchesSilenceRule rule evt = true) ∨
    c.cfg.isSuppressed evt.source evt.entityType evt.entityID = .ok true

/-- Nobody is told: no delivery row, no call of the escalator's `OnAlertCreated`. -/
def Quiet (effs : List Effect) : Prop :=
  (∀ d via, Effect.insertDelivery d via ∉ effs) ∧ ∀ a, Effect.onAlertCreated a ∉ effs

variable {c : Call} {evt : Event}

/-- **The check answers true exactly for the silenced events, once the rules can be read.** -/
theorem checkSilenceRules_iff : checkSilenceRules c evt = true ↔
      c.faults.getActiveSilenceRules = false ∧ MatchesSilence c evt := by
  unfold checkSilenceRules Call.getActiveSilenceRules
  cases c.faults.getActiveSilenceRules with
  | true => simp
  | false =>
    simp only [Bool.false_eq_true, if_false, true_and]
    have hany : ((c.cfg.silenceRules.filter fun r => r.isActive c.now).any
        fun r => matchesSilenceRule r evt) = true ↔
        ∃ rule ∈ c.cfg.silenceRules, rule.isActive c.now = true ∧
          matchesSilenceRule rule evt = true := by
      simp only [List.any_eq_true, List.mem_filter, and_assoc]
    unfold MatchesSilence
    rw [← hany]
    split
    · rename_i h
      simp [h]
    · rename_i h
      simp only [h, Bool.false_eq_true, false_or]
      split
      · rename_i e
        simp [e]
      · rename_i b e
        simp [e]

theorem quiet_nil : Quiet [] := ⟨fun _ _ => List.not_mem_nil, fun _ => List.not_mem_nil⟩

theorem not_quiet_of_created {effs : List Effect} {a : Alert}
    (h : Effect.onAlertCreated a ∈ effs) : ¬ Quiet effs := fun hq => hq.2 a h

/-- Opening an alert is quiet when it is silenced or nothing was inserted, and only then. -/
theorem openAlert_quiet_iff {s : State} : Quiet (openAlert c evt s).2 ↔ checkSilenceRules c evt = true ∨
        c.faults.insertAlert = true ∨ s.alerts.hasKey c.newID = true := by
  unfold openAlert
  cases hsil : checkSilenceRules c evt with
  | true =>
    simp only [true_or, iff_true, if_pos]
    split
    · exact quiet_nil
    · unfold broadcastAlert
      split
      · exact ⟨by simp, by simp⟩
      · exact quiet_nil
  | false =>
    simp only [Bool.false_eq_true, false_or, if_false]
    cases hi : insertAlert s.alerts c.faults.insertAlert (evt.toAlert c.newID .active) with
    | none => exact iff_of_true quiet_nil (insertAlert_eq_none.mp hi)
    | some =>
      refine iff_of_false (not_quiet_of_created (a := evt.toAlert c.newID .active) (by simp))
        fun hx => ?_
      rw [insertAlert_eq_none.mpr hx] at hi
      cases hi

/-- Raising a severity is quiet only when its update fails. -/
theorem escalateAlert_quiet_iff {s : State} {a : Alert} :
    Quiet (escalateAlert c a evt s).2 ↔ c.faults.updateAlertOnEscalation = true := by
  unfold escalateAlert
  cases c.faults.updateAlertOnEscalation with
  | true => simp [quiet_nil]
  | false =>
    simp only [Bool.false_eq_true, if_false, iff_false]
    exact not_quiet_of_created (a := a.escalated evt) (by simp)

/-- The path the event takes leaves it quiet: with an active alert under its key the event does
    not raise the severity (or the escalation's update fails); without one the silence rules
    can be read (or the insert fails). -/
def QuietPath (c : Call) (evt : Event) (s : State) : Prop :=
  match s.activeAlerts.lookup evt.key with
  | some a => severityRank evt.severity ≤ severityRank a.severity ∨
      c.faults.updateAlertOnEscalation = true
  | none => c.faults.getActiveSilenceRules = false ∨
      c.faults.insertAlert = true ∨ s.alerts.hasKey c.newID = true

/-- **A silenced firing event reaches nobody if and only if it takes a quiet path.** -/
theorem silenced_event_quiet_iff {c : Call} {evt : Event} (hrec : evt.isRecover = false)
    (hm : MatchesSilence c evt) (s : State) :
    Quiet (processEvent c evt s).2 ↔ QuietPath c evt s := by
  unfold QuietPath
  cases hl : s.activeAlerts.lookup evt.key with
  | none =>
    rw [processEvent_open hrec hl, openAlert_quiet_iff, checkSilenceRules_iff]
    simp [hm]
  | some a =>
    by_cases hlt : severityRank a.severity < severityRank evt.severity
    · rw [processEvent_escalate hrec hl hlt, escalateAlert_quiet_iff]
      simp [not_le.mpr hlt]
    · rw [processEvent_duplicate hrec hl hlt]
      exact iff_of_true quiet_nil (Or.inl (not_lt.mp hlt))

/-- A trigger for everything to channel `ch`, and a rule that silences everything until second
    3600. -/
def silencedConfig : Config := { Config.bare with
  triggers := [⟨"t1", "", "", "", true, true, ["ch"]⟩]
  channels := ⟨[⟨"ch", "webhook", true⟩], List.nodup_singleton "ch"⟩
  silenceRules := [⟨"r1", "", none, "", 0, 3600, none⟩] }

/-- A silenced event that opens an alert stays quiet. -/
theorem silenced_open_quiet :
    MatchesSilence (.plain "a1" silencedConfig) (cpuEvent severityWarning false) ∧
    Quiet (processEvent (.plain "a1" silencedConfig) (cpuEvent severityWarning false)
      ⟨∅, .empty⟩).2 := by
  have hm : MatchesSilence (.plain "a1" silencedConfig) (cpuEvent severityWarning false) :=
    Or.inl ⟨_, List.mem_singleton_self _, rfl, rfl⟩
  exact ⟨hm, (silenced_event_quiet_iff rfl hm ⟨∅, .empty⟩).mpr (Or.inl rfl)⟩

/-- **A silenced event that raises an active warning to critical notifies**: the escalator is
    called and a delivery row is inserted. -/
theorem silenced_escalation_notifies :
    MatchesSilence (.plain "a2" silencedConfig) (cpuEvent severityCritical false) ∧
    ¬ Quiet (processEvent (.plain "a2" silencedConfig) (cpuEvent severityCritical false)
      cpuState).2 ∧
    (processEvent (.plain "a2" silencedConfig) (cpuEvent severityCritical false)
      cpuState).2.any (fun e => match e with | .insertDelivery _ _ => true | _ => false) = true := by
  refine ⟨Or.inl ⟨_, List.mem_singleton_self _, rfl, rfl⟩, fun hq => ?_, by decide⟩
  exact hq.2 (((cpuEvent severityWarning false).toAlert "a1" .active).escalated
    (cpuEvent severityCritical false)) (by decide)

end Maintenant.Alerting
