/-
  File:      Maintenant/Alert/Recovery.lean
  Subject:   DOES THE RECOVERY REACH WHOEVER WAS TOLD? Firing events on one key, then its
             recovery, with triggers, channels and entity router unchanged and no store error.

  Every firing dispatch is routed by the record at that time; the recovery is routed by the
  record as the last severity escalation left it. So a channel told at an earlier severity by a
  trigger with NotifyOnResolve is told of the recovery if and only if something still routes
  to it at the last severity (`recovery_reaches_told_iff`).
-/
import Maintenant.Alert.Dispatch

namespace Maintenant.Alerting

/-! ## 1. Routing as a matter of key and severity -/

/-- The filters of a trigger, for an alert with this key and severity. -/
def passesFilters (t : AlertTrigger) (k : ActiveAlertKey) (severity : String) : Bool :=
  (t.filterSeverities == "" || containsCSV t.filterSeverities severity) &&
  (t.filterSources == "" || containsCSV t.filterSources k.source) &&
  (t.filterScopes == "" || containsCSV t.filterScopes (k.entityType ++ ":" ++ k.entityID))

theorem matchesTrigger_eq (t : AlertTrigger) (a : Alert) : matchesTrigger t a =
      ((a.status != .resolved || t.notifyOnResolve) && passesFilters t a.key a.severity) := by
  have hscope : a.scope = a.key.entityType ++ ":" ++ a.key.entityID := rfl
  have hsource : a.source = a.key.source := rfl
  unfold matchesTrigger passesFilters
  grind

/-- The first enabled trigger that passes at this severity and lists the channel. -/
def firstListing (cfg : Config) (k : ActiveAlertKey) (severity chID : String) :
    Option AlertTrigger :=
  (cfg.triggers.filter fun t => t.enabled).find? fun t =>
    passesFilters t k severity && t.channelIDs.contains chID

/-- The channel exists and is enabled. -/
def ChannelEnabled (cfg : Config) (chID : String) : Prop :=
  ∃ ch, cfg.channels.get chID = some ch ∧ ch.enabled = true

/-- Firing at this severity tells the channel through a trigger with NotifyOnResolve. -/
def Tells (cfg : Config) (k : ActiveAlertKey) (severity chID : String) : Prop :=
  ChannelEnabled cfg chID ∧
    ∃ t, firstListing cfg k severity chID = some t ∧ t.notifyOnResolve = true

/-- A recovery at this severity reaches the channel. -/
def Reaches (cfg : Config) (k : ActiveAlertKey) (severity chID : String) : Prop :=
  ChannelEnabled cfg chID ∧
    ((∃ t ∈ cfg.triggers, t.enabled = true ∧ t.notifyOnResolve = true ∧
        passesFilters t k severity = true ∧ chID ∈ t.channelIDs) ∨
      chID ∈ cfg.route k.entityType k.entityID severity)

/-- A call that reads the triggers, channels, router and notifier of `cfg` and meets no store
    error. Clock, ids, silences and the maintenance suppressor are its own. -/
structure Steady (cfg : Config) (c : Call) : Prop where
  triggers : c.cfg.triggers = cfg.triggers
  channels : c.cfg.channels = cfg.channels
  route : c.cfg.route = cfg.route
  notifier : c.cfg.notifier = cfg.notifier
  faults : c.faults = {}

variable {chID : String}

section Steady

variable {cfg : Config} {c : Call}

variable (h : Steady cfg c)

include h

theorem Steady.getChannel (chID : String) : c.getChannel chID = cfg.channels.get chID := by
  simp [Call.getChannel, h.faults, h.channels]

theorem Steady.enabledTriggers : c.enabledTriggers = cfg.triggers.filter fun t => t.enabled := by
  simp [Call.enabledTriggers, h.faults, h.triggers]

/-- An enabled channel is one the loops may pick. -/
theorem Steady.channelEnabled : ChannelEnabled cfg chID ↔ ∃ ch, ch.id = chID ∧ c.Reachable ch := by
  constructor
  · rintro ⟨ch, hg, he⟩
    have hid : ch.id = chID := getChannel_id ((h.getChannel chID).trans hg)
    exact ⟨ch, hid, by rw [h.getChannel, hid, hg], he⟩
  · rintro ⟨ch, rfl, hg, he⟩
    exact ⟨ch, (h.getChannel ch.id).symm.trans hg, he⟩

/-- A firing record is picked for a channel by its first listing trigger. -/
theorem Steady.picked_via {a : Alert} (ha : a.status = .active) {t : AlertTrigger} :
    (∃ p ∈ routing c a, p.channel.id = chID ∧ p.via = some t) ↔
      ChannelEnabled cfg chID ∧ firstListing cfg a.key a.severity chID = some t := by
  have hfind : ∀ id, c.enabledTriggers.find? (listedBy a id) =
      firstListing cfg a.key a.severity id := fun id => by
    unfold firstListing listedBy
    rw [h.enabledTriggers]
    simp [matchesTrigger_eq, ha]
  rw [h.channelEnabled]
  constructor
  · rintro ⟨p, hp, rfl, hv⟩
    obtain ⟨hr, ⟨t', hv', ht'⟩ | ⟨hv', _⟩⟩ := mem_routing.mp hp
    · rw [hv] at hv'
      exact ⟨⟨p.channel, rfl, hr⟩, by rw [← hfind, ht', hv']⟩
    · simp [hv] at hv'
  · rintro ⟨⟨ch, rfl, hr⟩, ht⟩
    refine ⟨⟨ch, some t⟩, mem_routing.mpr ⟨hr, Or.inl ⟨t, rfl, ?_⟩⟩, rfl, rfl⟩
    rw [hfind, ht]

/-- A resolved record is picked for exactly the channels a recovery at its severity reaches. -/
theorem Steady.picked_resolved {a : Alert} (ha : a.status = .resolved) :
    (∃ p ∈ routing c a, p.channel.id = chID) ↔ Reaches cfg a.key a.severity chID := by
  have hlist : ∀ t id, listedBy a id t = true ↔
      t.notifyOnResolve = true ∧ passesFilters t a.key a.severity = true ∧
        id ∈ t.channelIDs := fun t id => by
    simp [listedBy, matchesTrigger_eq, ha, and_assoc]
  have hmem : ∀ t, t ∈ c.enabledTriggers ↔ t ∈ cfg.triggers ∧ t.enabled = true := fun t => by
    rw [h.enabledTriggers, List.mem_filter]
  have hroute : c.cfg.route a.entityType a.entityID a.severity =
      cfg.route a.key.entityType a.key.entityID a.severity := by
    rw [h.route]
    rfl
  unfold Reaches
  rw [h.channelEnabled]
  constructor
  · rintro ⟨p, hp, rfl⟩
    obtain ⟨hr, ⟨t, _, ht⟩ | ⟨_, _, hid⟩⟩ := mem_routing.mp hp
    · have hin := (hmem t).mp (List.mem_of_find?_eq_some ht)
      exact ⟨⟨p.channel, rfl, hr⟩,
        Or.inl ⟨t, hin.1, hin.2, (hlist t _).mp (List.find?_some ht)⟩⟩
    · exact ⟨⟨p.channel, rfl, hr⟩, Or.inr (hroute ▸ hid)⟩
  · rintro ⟨⟨ch, rfl, hr⟩, hsome⟩
    cases hf : c.enabledTriggers.find? (listedBy a ch.id) with
    | some t => exact ⟨⟨ch, some t⟩, mem_routing.mpr ⟨hr, Or.inl ⟨t, rfl, hf⟩⟩, rfl⟩
    | none =>
      rcases hsome with ⟨t, ht, he, hpass⟩ | hid
      · exact absurd ((hlist t ch.id).mpr hpass)
          (List.find?_eq_none.mp hf t ((hmem t).mpr ⟨ht, he⟩))
      · exact ⟨⟨ch, none⟩, mem_routing.mpr ⟨hr, Or.inr ⟨rfl, hf, hroute ▸ hid⟩⟩, rfl⟩

end Steady

/-! ## 2. Firing events on one key -/

/-- The engine takes the events one after another. -/
def processEvents (s : State) : List (Call × Event) → State × List Effect
  | [] => (s, [])
  | (c, evt) :: rest =>
    let r := processEvent c evt s
    let later := processEvents r.1 rest
    (later.1, r.2 ++ later.2)

/-- Firing events on key `k`, each by a steady call that draws a fresh id. -/
def Firing (cfg : Config) (k : ActiveAlertKey) (s : State) : List (Call × Event) → Prop
  | [] => True
  | (c, evt) :: rest =>
    (evt.isRecover = false ∧ evt.key = k ∧ Steady cfg c ∧ s.alerts.hasKey c.newID = false) ∧
      Firing cfg k (processEvent c evt s).1 rest

/-- The event is dispatched: it opens an alert that is not silenced, or raises the severity. -/
def dispatches (c : Call) (evt : Event) : Option String → Bool
  | none => !checkSilenceRules c evt
  | some severity => decide (severityRank severity < severityRank evt.severity)

/-- The severities the alert was dispatched at, in order; `current` is its severity so far. -/
def firedSeverities (current : Option String) : List (Call × Event) → List String
  | [] => []
  | (c, evt) :: rest =>
    if dispatches c evt current then evt.severity :: firedSeverities (some evt.severity) rest
    else firedSeverities current rest

/-- Key `k` has no active alert, or an active one with the current severity. -/
def Holds (k : ActiveAlertKey) (current : Option String) (s : State) : Prop :=
  match current with
  | none => s.activeAlerts.lookup k = none
  | some severity => ∃ a, s.activeAlerts.lookup k = some a ∧ a.key = k ∧ a.status = .active ∧
      a.severity = severity

/-- A delivery row was inserted for the channel by a trigger with NotifyOnResolve. -/
def Told (effs : List Effect) (chID : String) : Prop :=
  ∃ d t, Effect.insertDelivery d (some t) ∈ effs ∧ t.notifyOnResolve = true ∧ d.channelID = chID

theorem not_told_of_no_delivery {effs : List Effect}
    (h : ∀ d via, Effect.insertDelivery d via ∉ effs) : ¬ Told effs chID := by
  rintro ⟨d, t, hm, _⟩
  exact h d (some t) hm

theorem told_append {xs ys : List Effect} : Told (xs ++ ys) chID ↔ Told xs chID ∨ Told ys chID := by
  simp only [Told, List.mem_append, or_and_right, exists_or]

section FiringStep

variable {cfg : Config} {k : ActiveAlertKey} {c : Call} {evt : Event} {s : State}

/-- Dispatching a firing record tells the channels its severity tells. -/
theorem told_dispatch (h : Steady cfg c) {a payload : Alert} (ha : a.status = .active) :
    Told (dispatchNotifications c a payload) chID ↔ cfg.notifier = true ∧ Tells cfg a.key a.severity chID := by
  have hf : ∀ ch, c.faults.insertDelivery ch = false := fun ch => by rw [h.faults]
  unfold Told Tells
  simp only [insertDelivery_mem_dispatch, h.notifier, hf, true_and]
  constructor
  · rintro ⟨d, t, ⟨hn, p, hp, rfl, hv⟩, hres, rfl⟩
    obtain ⟨hch, hfirst⟩ := (h.picked_via ha).mp ⟨p, hp, rfl, hv.symm⟩
    exact ⟨hn, hch, t, hfirst, hres⟩
  · rintro ⟨hn, hch, t, hfirst, hres⟩
    obtain ⟨p, hp, hid, hv⟩ := (h.picked_via ha).mpr ⟨hch, hfirst⟩
    exact ⟨_, t, ⟨hn, p, hp, rfl, hv.symm⟩, hres, hid⟩

/-- The broadcast and the escalator's hook in front of a dispatch tell nobody. -/
theorem told_announced {a b payload : Alert} :
    Told (broadcastAlert c a false ++ [.onAlertCreated b] ++ dispatchNotifications c a payload)
      chID ↔ Told (dispatchNotifications c a payload) chID := by
  rw [told_append, or_iff_right]
  refine not_told_of_no_delivery fun d via => ?_
  unfold broadcastAlert
  split <;> simp

theorem steady_insert (h : Steady cfg c) (hid : s.alerts.hasKey c.newID = false) (evt : Event) (st : AlertStatus) :
    ∃ t, insertAlert s.alerts c.faults.insertAlert (evt.toAlert c.newID st) = some t := by
  cases hi : insertAlert s.alerts c.faults.insertAlert (evt.toAlert c.newID st) with
  | some t => exact ⟨t, rfl⟩
  | none =>
    rcases insertAlert_eq_none.mp hi with hx | hx
    · simp [h.faults] at hx
    · simp [show (evt.toAlert c.newID st).id = c.newID from rfl, hid] at hx

/-- **One firing event**: a dispatched one leaves its severity in the record and tells the
    channels of that severity; any other changes neither. -/
theorem firing_step {current : Option String} (hrec : evt.isRecover = false) (hk : evt.key = k)
    (h : Steady cfg c) (hid : s.alerts.hasKey c.newID = false) (hs : Holds k current s) :
    if dispatches c evt current then Holds k (some evt.severity) (processEvent c evt s).1 ∧
        ∀ chID, Told (processEvent c evt s).2 chID ↔ cfg.notifier = true ∧ Tells cfg k evt.severity chID else
      Holds k current (processEvent c evt s).1 ∧ ∀ chID, ¬ Told (processEvent c evt s).2 chID := by
  subst hk
  cases current with
  | none =>
    have hl : s.activeAlerts.lookup evt.key = none := hs
    rw [processEvent_open hrec hl]
    unfold openAlert dispatches
    cases hsil : checkSilenceRules c evt with
    | true =>
      obtain ⟨t, ht⟩ := steady_insert h hid evt .silenced
      simp only [if_pos, ht, Bool.not_true, Bool.false_eq_true, if_false]
      refine ⟨hl, fun chID => not_told_of_no_delivery fun d via => ?_⟩
      unfold broadcastAlert
      split <;> simp
    | false =>
      obtain ⟨t, ht⟩ := steady_insert h hid evt .active
      simp only [Bool.false_eq_true, if_false, ht, Bool.not_false, if_pos]
      refine ⟨⟨_, AList.lookup_insert _, rfl, rfl, rfl⟩, fun chID => ?_⟩
      rw [told_announced, told_dispatch h rfl]
      rfl
  | some =>
    obtain ⟨a, hl, hkey, hact, rfl⟩ := hs
    unfold dispatches
    by_cases hlt : severityRank a.severity < severityRank evt.severity
    · rw [processEvent_escalate hrec hl hlt]
      have hf : c.faults.updateAlertOnEscalation = false := by rw [h.faults]
      have hk' : (a.escalated evt).key = evt.key := hkey
      simp only [hlt, decide_true, if_pos, escalateAlert, hf, Bool.false_eq_true, if_false, hk']
      refine ⟨⟨_, AList.lookup_insert _, hk', hact, rfl⟩, fun chID => ?_⟩
      rw [told_announced, told_dispatch (a := a.escalated evt) h hact, hk']
      rfl
    · rw [processEvent_duplicate hrec hl hlt]
      simp only [hlt, decide_false, Bool.false_eq_true, if_false]
      exact ⟨⟨a, hl, hkey, hact, rfl⟩, fun chID =>
        not_told_of_no_delivery fun d via => List.not_mem_nil⟩

end FiringStep

/-- **A run of firing events**: the record has the last dispatched severity, and the channels
    told are those of the dispatched severities. -/
theorem firing_run {cfg : Config} {k : ActiveAlertKey} {evts : List (Call × Event)} :
    ∀ {current : Option String} {s : State}, Firing cfg k s evts → Holds k current s →
      Holds k ((firedSeverities current evts).getLast?.or current) (processEvents s evts).1 ∧
        ∀ chID, Told (processEvents s evts).2 chID ↔ cfg.notifier = true ∧
            ∃ severity ∈ firedSeverities current evts, Tells cfg k severity chID := by
  induction evts with
  | nil =>
    intro current s _ hs
    refine ⟨hs, fun chID => ?_⟩
    simp [processEvents, firedSeverities, Told]
  | cons ce rest ih =>
    obtain ⟨c, evt⟩ := ce
    intro current s ⟨⟨hrec, hk, hc, hid⟩, hrest⟩ hs
    have hstep := firing_step hrec hk hc hid hs
    unfold firedSeverities processEvents
    split at hstep
    · rename_i hd
      obtain ⟨hholds, htold⟩ := ih hrest hstep.1
      rw [if_pos hd]
      refine ⟨?_, fun chID => ?_⟩
      · rw [List.getLast?_cons]
        cases hlast : (firedSeverities (some evt.severity) rest).getLast? with
        | none | some => rwa [hlast] at hholds
      · rw [told_append, hstep.2, htold, ← and_or_left]
        simp only [List.exists_mem_cons_iff]
    · rename_i hd
      obtain ⟨hholds, htold⟩ := ih hrest hstep.1
      rw [if_neg hd]
      refine ⟨hholds, fun chID => ?_⟩
      rw [told_append, htold, or_iff_right (hstep.2 chID)]

/-! ## 3. The recovery -/

/-- A recovery of an alert with the severity delivers once to each channel it reaches, and to no
    other. -/
theorem count_recovery {cfg : Config} {k : ActiveAlertKey} {c : Call} {evt : Event} {s : State}
    {severity : String} (h : Steady cfg c) (hn : cfg.notifier = true)
    (hid : s.alerts.hasKey c.newID = false) (hrec : evt.isRecover = true) (hk : evt.key = k)
    (hs : Holds k (some severity) s) [Decidable (Reaches cfg k severity chID)] :
    (processEvent c evt s).2.countP (isDeliveryTo chID) = if Reaches cfg k severity chID then 1 else 0 := by
  subst hk
  obtain ⟨a, hl, hkey, _, rfl⟩ := hs
  obtain ⟨t, ht⟩ := steady_insert h hid evt .resolved
  rw [processEvent_recovery hrec]
  simp only [processRecovery, hl, ht, show (evt.toAlert c.newID .resolved).id = c.newID from rfl]
  have hfront : ([Effect.onAlertResolved a.id evt.timestamp] ++
      broadcastResolved c (a.resolvedBy c.newID evt.timestamp)).countP (isDeliveryTo chID) = 0 := by
    unfold broadcastResolved
    split <;> rfl
  rw [List.countP_append, hfront, Nat.zero_add,
    count_dispatch (h.notifier.trans hn) (fun ch => by rw [h.faults])]
  have hpick : (∃ p ∈ routing c (a.resolvedBy c.newID evt.timestamp), p.channel.id = chID) ↔ _ :=
    h.picked_resolved rfl
  have hkey' : (a.resolvedBy c.newID evt.timestamp).key = evt.key := hkey
  rw [hkey'] at hpick
  exact if_congr hpick rfl rfl

/-- Whatever was told at a dispatched severity is still reached at the last one. -/
def Covers (cfg : Config) (k : ActiveAlertKey) (severities : List String) : Prop :=
  cfg.notifier = true → ∀ last, severities.getLast? = some last →
    ∀ severity ∈ severities, ∀ chID, Tells cfg k severity chID → Reaches cfg k last chID

/-- **Every channel told with NotifyOnResolve gets exactly one delivery for the recovery if and
    only if every severity's told channels are still reached at the last severity.** -/
theorem recovery_reaches_told_iff {cfg : Config} {k : ActiveAlertKey} {s₀ : State}
    {evts : List (Call × Event)} {c : Call} {evt : Event}
    (h0 : s₀.activeAlerts.lookup k = none) (hfire : Firing cfg k s₀ evts) (hc : Steady cfg c)
    (hid : (processEvents s₀ evts).1.alerts.hasKey c.newID = false)
    (hrec : evt.isRecover = true) (hk : evt.key = k) :
    (∀ chID, Told (processEvents s₀ evts).2 chID →
      (processEvent c evt (processEvents s₀ evts).1).2.countP (isDeliveryTo chID) = 1) ↔
        Covers cfg k (firedSeverities none evts) := by
  classical
  obtain ⟨hholds, htold⟩ := firing_run hfire (show Holds k none s₀ from h0)
  constructor
  · intro hall hn last hlast severity hsev chID htells
    rw [hlast] at hholds
    have hone := hall chID ((htold chID).mpr ⟨hn, severity, hsev, htells⟩)
    rw [count_recovery hc hn hid hrec hk hholds] at hone
    by_contra hno
    simp [if_neg hno] at hone
  · intro hcov chID ht
    obtain ⟨hn, severity, hsev, htells⟩ := (htold chID).mp ht
    cases hlast : (firedSeverities none evts).getLast? with
    | none =>
      rw [List.getLast?_eq_none_iff.mp hlast] at hsev
      exact absurd hsev List.not_mem_nil
    | some last =>
      rw [hlast] at hholds
      rw [count_recovery hc hn hid hrec hk hholds,
        if_pos (hcov hn last hlast severity hsev chID htells)]

/-! ## 4. Two runs -/

/-- One enabled channel `ch`, one trigger with NotifyOnResolve and the severity filter. -/
def filteredConfig (filterSeverities : String) : Config := { Config.bare with
  triggers := [⟨"t1", filterSeverities, "", "", true, true, ["ch"]⟩]
  channels := ⟨[⟨"ch", "webhook", true⟩], by decide⟩ }

/-- A warning that becomes critical. -/
def warningThenCritical (filterSeverities : String) : List (Call × Event) :=
  [(.plain "a1" (filteredConfig filterSeverities), cpuEvent severityWarning false),
    (.plain "a2" (filteredConfig filterSeverities), cpuEvent severityCritical false)]

/-- With no severity filter the channel is told twice and hears of the recovery once. -/
theorem recovery_reaches_unfiltered :
    Told (processEvents ⟨∅, .empty⟩ (warningThenCritical "")).2 "ch" ∧
    ∀ chID, Told (processEvents ⟨∅, .empty⟩ (warningThenCritical "")).2 chID →
      (processEvent (.plain "a3" (filteredConfig "")) (cpuEvent severityInfo true)
        (processEvents ⟨∅, .empty⟩ (warningThenCritical "")).1).2.countP
          (isDeliveryTo chID) = 1 := by
  have hsteady : ∀ id, Steady (filteredConfig "") (.plain id (filteredConfig "")) := fun id =>
    ⟨rfl, rfl, rfl, rfl, rfl⟩
  refine ⟨⟨⟨"a1/ch", "a1", "ch", .pending⟩, ⟨"t1", "", "", "", true, true, ["ch"]⟩,
    by decide, rfl, rfl⟩, ?_⟩
  have hfire : Firing (filteredConfig "") (cpuEvent severityInfo true).key ⟨∅, .empty⟩
      (warningThenCritical "") :=
    ⟨⟨rfl, rfl, hsteady _, by decide⟩, ⟨rfl, rfl, hsteady _, by decide⟩, trivial⟩
  refine (recovery_reaches_told_iff rfl hfire (hsteady "a3") (by decide) rfl rfl).mpr
    fun _ last _ severity _ chID htells => ?_
  obtain ⟨hch, t, ht, hres⟩ := htells
  have hin := List.mem_filter.mp (List.mem_of_find?_eq_some ht)
  have hone : t = ⟨"t1", "", "", "", true, true, ["ch"]⟩ := List.mem_singleton.mp hin.1
  have hlist := List.find?_some ht
  subst hone
  exact ⟨hch, Or.inl ⟨_, hin.1, rfl, rfl, rfl, by simpa using (Bool.and_eq_true_iff.mp hlist).2⟩⟩

/-- **A trigger on "warning" with NotifyOnResolve tells its channel of the warning and not of
    the recovery**, when the alert became critical in between. -/
theorem escalated_alert_recovers_unheard :
    Told (processEvents ⟨∅, .empty⟩ (warningThenCritical severityWarning)).2 "ch" ∧
    (processEvent (.plain "a3" (filteredConfig severityWarning)) (cpuEvent severityInfo true)
      (processEvents ⟨∅, .empty⟩ (warningThenCritical severityWarning)).1).2.countP
        (isDeliveryTo "ch") = 0 := by
  refine ⟨⟨⟨"a1/ch", "a1", "ch", .pending⟩,
    ⟨"t1", severityWarning, "", "", true, true, ["ch"]⟩, by decide, rfl, rfl⟩, by decide⟩

end Maintenant.Alerting
