/-
  File:      Maintenant/Alert/Agreement.lean
  Subject:   THE MAP AND THE TABLE AGREE. The engine keeps its active alerts twice, in the map
             and as the rows with status 'active', and four code paths change both by hand.

  * `Agree` -- the map, read as key ↦ (id, severity, message, entity name, details), is the set
    of active rows; `Agree.unique`: so a key has at most one active row;
  * `Harmless s op` -- the store calls of `op` that fail at `s` are none of those that write an
    alert the map already holds;
  * `step_agree` -- a harmless operation keeps the agreement; `engine_agrees_with_store`: so
    every run without store failures, from a reload on, keeps it, and a reload at any later
    point would give the same map back;
  * `agreement_survives_iff_harmless` -- and a harmful failure always breaks it: the map and
    the active rows then differ in a key or a severity.
-/
import Maintenant.Alert.Engine
import Maintenant.Lib.Runs

namespace Maintenant.Alerting

open Runs

/-! ## 1. Agreement -/

variable {s s' : State} {k : ActiveAlertKey} {a r : Alert} {t' t : AlertTable} {m' : ActiveAlerts} {evt : Event}
    {c : Call}

/-- What the engine and the table are compared by. -/
structure View where
  id : String
  severity : String
  message : String
  entityName : String
  details : String
  deriving DecidableEq

def Alert.view (a : Alert) : View := ⟨a.id, a.severity, a.message, a.entityName, a.details⟩

/-- The row is in the table with status 'active'. -/
def ActiveIn (t : AlertTable) (r : Alert) : Prop := r ∈ t ∧ r.status = .active

/-- **The map, read as a relation, is the set of active rows**; each entry sits under its own
    key. -/
structure Agree (s : State) : Prop where
  read : ∀ k v, (s.activeAlerts.lookup k).map Alert.view = some v ↔
    ∃ r, ActiveIn s.alerts r ∧ r.key = k ∧ r.view = v
  keyed : ∀ k a, s.activeAlerts.lookup k = some a → a.key = k

/-- At most one active row per key. -/
def OneActivePerKey (t : AlertTable) : Prop :=
  ∀ r r', ActiveIn t r → ActiveIn t r' → r.key = r'.key → r = r'

variable (h : Agree s)

include h

/-- The row of an entry. -/
theorem Agree.row (hl : s.activeAlerts.lookup k = some a) :
    ∃ r, ActiveIn s.alerts r ∧ r.key = k ∧ r.view = a.view :=
  (h.read k a.view).mp (by rw [hl]; rfl)

/-- The entry of a row. -/
theorem Agree.entry (hr : ActiveIn s.alerts r) :
    ∃ a, s.activeAlerts.lookup r.key = some a ∧ a.view = r.view := by
  have hv := (h.read r.key r.view).mpr ⟨r, hr, rfl, rfl⟩
  cases hl : s.activeAlerts.lookup r.key with
  | none => rw [hl] at hv; cases hv
  | some a =>
    rw [hl] at hv
    exact ⟨a, rfl, Option.some.inj hv⟩

theorem Agree.unique : OneActivePerKey s.alerts := by
  intro r r' hr hr' hk
  obtain ⟨a, hl, hv⟩ := h.entry hr
  obtain ⟨a', hl', hv'⟩ := h.entry hr'
  rw [hk, hl'] at hl
  cases hl
  exact s.alerts.eq_of_key hr.1 hr'.1 (congrArg View.id (hv.symm.trans hv'))

/-- Among the active rows, the id of an entry and its key select the same row. -/
theorem Agree.id_iff_key (hl : s.activeAlerts.lookup k = some a) (hr : ActiveIn s.alerts r) :
    r.id = a.id ↔ r.key = k := by
  obtain ⟨r', hr', hk', hv'⟩ := h.row hl
  have hid' : r'.id = a.id := congrArg View.id hv'
  constructor
  · intro hid
    rw [s.alerts.eq_of_key hr.1 hr'.1 (hid.trans hid'.symm)]
    exact hk'
  · intro hk
    rw [h.unique r r' hr hr' (hk.trans hk'.symm)]
    exact hid'

/-- No entry, no active row. -/
theorem Agree.no_row (hl : s.activeAlerts.lookup k = none) (hr : ActiveIn s.alerts r) : r.key ≠ k := by
  rintro rfl
  obtain ⟨a, hl', _⟩ := h.entry hr
  simp [hl] at hl'

/-! ## 2. Changes that keep the agreement

  Every path is one of three changes of the two sides: an entry and a row appear, the entry and
  the row of a key change alike, or the entries and rows of some keys disappear. -/

/-- An entry and its row appear under a free key. -/
theorem Agree.opened (hfree : s.activeAlerts.lookup a.key = none)
    (ht : ∀ r, ActiveIn t' r ↔ ActiveIn s.alerts r ∨ r = a.stored) :
    Agree ⟨s.activeAlerts.insert a.key a, t'⟩ where
  read k v := by
    by_cases hk : k = a.key
    · subst hk
      simp only [AList.lookup_insert, Option.map_some, Option.some.injEq]
      constructor
      · rintro rfl
        exact ⟨a.stored, (ht _).mpr (Or.inr rfl), rfl, rfl⟩
      · rintro ⟨r, hr, hk, hv⟩
        rcases (ht r).mp hr with hr | rfl
        · exact absurd hk (h.no_row hfree hr)
        · exact hv
    · simp only [AList.lookup_insert_ne hk, h.read k v]
      constructor
      · rintro ⟨r, hr, hrk, hv⟩
        exact ⟨r, (ht r).mpr (Or.inl hr), hrk, hv⟩
      · rintro ⟨r, hr, hrk, hv⟩
        rcases (ht r).mp hr with hr | rfl
        · exact ⟨r, hr, hrk, hv⟩
        · exact absurd hrk.symm hk
  keyed k b hb := by
    rw [GoMap.lookup_insert] at hb
    split at hb
    · next hk => rw [hk, Option.some.inj hb]
    · exact h.keyed k b hb

/-- Rows that are not active are not seen. -/
theorem Agree.congr_active
    (ht : ∀ r, ActiveIn t' r ↔ ActiveIn s.alerts r) : Agree ⟨s.activeAlerts, t'⟩ where
  read k v := by
    simp only [ht]
    exact h.read k v
  keyed := h.keyed

/-- The entries and the rows of the keys `p` selects disappear. -/
theorem Agree.removed {p : ActiveAlertKey → Bool}
    (hm : ∀ k, m'.lookup k = if p k then none else s.activeAlerts.lookup k)
    (ht : ∀ r, ActiveIn t' r ↔ ActiveIn s.alerts r ∧ p r.key = false) : Agree ⟨m', t'⟩ where
  read k v := by
    rw [hm k]
    cases hp : p k with
    | true =>
      simp only [if_pos, Option.map_none, reduceCtorEq, false_iff]
      rintro ⟨r, hr, rfl, _⟩
      simp [((ht r).mp hr).2] at hp
    | false =>
      simp only [Bool.false_eq_true, if_false, h.read k v]
      constructor
      · rintro ⟨r, hr, rfl, hv⟩
        exact ⟨r, (ht r).mpr ⟨hr, hp⟩, rfl, hv⟩
      · rintro ⟨r, hr, hk, hv⟩
        exact ⟨r, ((ht r).mp hr).1, hk, hv⟩
  keyed k a ha := by
    rw [hm k] at ha
    split at ha
    · cases ha
    · exact h.keyed k a ha

omit h

/-- The rows of an escalated id, among the active ones. -/
theorem activeIn_escalated {id : String} {x : Alert} :
    ActiveIn (updateAlertOnEscalation t id evt.severity evt.message evt.entityName evt.detailsJSON) x ↔
      (ActiveIn t x ∧ x.id ≠ id) ∨ ∃ r, ActiveIn t r ∧ r.id = id ∧ x = r.escalated evt := by
  unfold ActiveIn updateAlertOnEscalation
  rw [Table.mem_update_key]
  constructor
  · rintro ⟨⟨hx, hid⟩ | ⟨r, hr, hid, rfl⟩, hst⟩
    · exact Or.inl ⟨⟨hx, hst⟩, hid⟩
    · exact Or.inr ⟨r, ⟨hr, hst⟩, hid, rfl⟩
  · rintro (⟨⟨hx, hst⟩, hid⟩ | ⟨r, ⟨hr, hst⟩, hid, rfl⟩)
    · exact ⟨Or.inl ⟨hx, hid⟩, hst⟩
    · exact ⟨Or.inr ⟨r, hr, hid, rfl⟩, hst⟩

/-- The entry and the row of a key take the event's fields. -/
theorem Agree.escalated (h : Agree s) (hl : s.activeAlerts.lookup k = some a)
    (hm : ∀ k', m'.lookup k' = if k' = k then some (a.escalated evt) else s.activeAlerts.lookup k') :
    Agree ⟨m', updateAlertOnEscalation s.alerts a.id evt.severity evt.message evt.entityName evt.detailsJSON⟩ where
  read k' v := by
    rw [hm k']
    obtain ⟨r₀, hr₀, hk₀, hv₀⟩ := h.row hl
    have hid₀ : r₀.id = a.id := congrArg View.id hv₀
    have hview : (r₀.escalated evt).view = (a.escalated evt).view := by
      simp only [Alert.view, Alert.escalated, hid₀]
    simp only [activeIn_escalated]
    by_cases hk : k' = k
    · subst hk
      simp only [if_pos, Option.map_some, Option.some.injEq]
      constructor
      · rintro rfl
        exact ⟨r₀.escalated evt, Or.inr ⟨r₀, hr₀, hid₀, rfl⟩, hk₀, hview⟩
      · rintro ⟨x, ⟨hx, hid⟩ | ⟨r, hr, hid, rfl⟩, hxk, rfl⟩
        · exact absurd ((h.id_iff_key hl hx).mpr hxk) hid
        · rw [s.alerts.eq_of_key hr.1 hr₀.1 (hid.trans hid₀.symm)]
          exact hview.symm
    · simp only [if_neg hk, h.read k' v]
      constructor
      · rintro ⟨r, hr, hrk, hv⟩
        refine ⟨r, Or.inl ⟨hr, fun hid => hk ?_⟩, hrk, hv⟩
        rw [← hrk]
        exact (h.id_iff_key hl hr).mp hid
      · rintro ⟨x, ⟨hx, _⟩ | ⟨r, hr, hid, rfl⟩, hxk, hv⟩
        · exact ⟨x, hx, hxk, hv⟩
        · have hrk : r.key = k := (h.id_iff_key hl hr).mp hid
          exact absurd (hxk.symm.trans hrk) hk
  keyed k' b hb := by
    rw [hm k'] at hb
    by_cases hk : k' = k
    · subst hk
      rw [if_pos rfl, Option.some.injEq] at hb
      rw [← hb]
      exact h.keyed k' a hl
    · rw [if_neg hk] at hb
      exact h.keyed k' b hb

/-! ## 3. The paths of the engine -/

theorem activeIn_inserted {fails : Bool} (h : insertAlert t fails a = some t') (hst : a.status = .active) (r : Alert) :
    ActiveIn t' r ↔ ActiveIn t r ∨ r = a.stored := by
  unfold ActiveIn
  rw [insertAlert_some h r]
  constructor
  · rintro ⟨hr | rfl, hs⟩
    · exact Or.inl ⟨hr, hs⟩
    · exact Or.inr rfl
  · rintro (⟨hr, hs⟩ | rfl)
    · exact ⟨Or.inl hr, hs⟩
    · exact ⟨Or.inr rfl, hst⟩

theorem activeIn_inserted_other {fails : Bool}
    (h : insertAlert t fails a = some t') (hst : a.status ≠ .active) (r : Alert) :
    ActiveIn t' r ↔ ActiveIn t r := by
  unfold ActiveIn
  rw [insertAlert_some h r]
  constructor
  · rintro ⟨hr | rfl, hs⟩
    · exact ⟨hr, hs⟩
    · exact absurd hs hst
  · rintro ⟨hr, hs⟩
    exact ⟨Or.inl hr, hs⟩

theorem activeIn_resolved {id : String} {at_ : Option GoTime.Time} {by_ : Option String} (r : Alert) :
    ActiveIn (updateAlertStatus t id .resolved at_ by_) r ↔ ActiveIn t r ∧ r.id ≠ id := by
  unfold ActiveIn updateAlertStatus
  rw [Table.mem_update_key]
  constructor
  · rintro ⟨⟨hr, hid⟩ | ⟨r', _, _, rfl⟩, hs⟩
    · exact ⟨⟨hr, hs⟩, hid⟩
    · cases hs
  · rintro ⟨⟨hr, hs⟩, hid⟩
    exact ⟨Or.inl ⟨hr, hid⟩, hs⟩

/-- The loop of `ResolveByEntity`: the rows whose update succeeded are no longer active. -/
theorem activeIn_resolveAll (c : Call) (l : List Alert) (acc : AlertTable × List Effect) (r : Alert) :
    ActiveIn (l.foldl (resolveOne c) acc).1 r ↔
      ActiveIn acc.1 r ∧ ∀ a ∈ l, c.faults.updateAlertStatus a.id = false → r.id ≠ a.id := by
  induction l generalizing acc with
  | nil => simp
  | cons a _ ih =>
    rw [List.foldl_cons, ih]
    unfold resolveOne
    cases hf : c.faults.updateAlertStatus a.id with
    | true => simp [hf]
    | false =>
      simp only [Bool.false_eq_true, if_false, activeIn_resolved, List.mem_cons,
        forall_eq_or_imp, hf, forall_const]
      tauto

/-- **Opening an alert keeps the agreement, whatever fails**: a refused insert changes neither
    side, a silenced row is not active. -/
theorem openAlert_agree (h : Agree s) (c : Call)
    (hl : s.activeAlerts.lookup evt.key = none) : Agree (openAlert c evt s).1 := by
  unfold openAlert
  cases hsil : checkSilenceRules c evt with
  | true =>
    cases hi : insertAlert s.alerts c.faults.insertAlert (evt.toAlert c.newID .silenced) with
    | none => simpa [hi] using h
    | some =>
      simp only [if_pos, hi]
      exact h.congr_active fun r => activeIn_inserted_other hi (by simp [Event.toAlert]) r
  | false =>
    cases hi : insertAlert s.alerts c.faults.insertAlert (evt.toAlert c.newID .active) with
    | none => simpa [hi] using h
    | some =>
      simp only [Bool.false_eq_true, if_false, hi]
      exact h.opened (a := evt.toAlert c.newID .active) hl fun r =>
        activeIn_inserted hi rfl r

theorem escalateAlert_agree (h : Agree s) (hl : s.activeAlerts.lookup evt.key = some a)
    (hf : c.faults.updateAlertOnEscalation = false) : Agree (escalateAlert c a evt s).1 := by
  unfold escalateAlert
  simp only [hf, Bool.false_eq_true, if_false]
  refine h.escalated hl fun k' => ?_
  have hk : a.key = evt.key := h.keyed _ _ hl
  rw [Alert.escalated_key, hk, GoMap.lookup_insert, GoMap.lookup_insert]
  exact ite_congr rfl (fun _ => rfl) fun e => if_neg e

theorem processRecovery_agree (h : Agree s) (hf : ∀ a, s.activeAlerts.lookup evt.key = some a →
      c.faults.insertAlert = false ∧ s.alerts.hasKey c.newID = false ∧
        c.faults.updateAlertStatus a.id = false) : Agree (processRecovery c evt s).1 := by
  cases hl : s.activeAlerts.lookup evt.key with
  | none =>
    simp only [processRecovery, hl]
    exact h
  | some a =>
    obtain ⟨hins, hfresh, hupd⟩ := hf a hl
    cases hi : insertAlert s.alerts c.faults.insertAlert (evt.toAlert c.newID .resolved) with
    | none =>
      rcases insertAlert_eq_none.mp hi with hx | hx
      · rw [hins] at hx; cases hx
      · simp [show (evt.toAlert c.newID .resolved).id = c.newID from rfl, hfresh] at hx
    | some =>
      simp only [processRecovery, hl, hi]
      rw [hupd, if_neg Bool.false_ne_true]
      refine h.removed (p := fun k => k == evt.key) (fun k => ?_) fun r => ?_
      · simp only [GoMap.lookup_erase, beq_iff_eq]
      · rw [activeIn_resolved, activeIn_inserted_other hi (by simp [Event.toAlert])]
        constructor
        · rintro ⟨hr, hid⟩
          exact ⟨hr, beq_false_of_ne fun hk => hid ((h.id_iff_key hl hr).mpr hk)⟩
        · rintro ⟨hr, hk⟩
          exact ⟨hr, fun hid => ne_of_beq_false hk ((h.id_iff_key hl hr).mp hid)⟩

theorem resolveByEntity_agree (h : Agree s) {et eid : String}
    {l : List Alert} (hl : l.Perm (GoMap.valuesWhere s.activeAlerts (ofEntity et eid)))
    (hf : ∀ k a, ofEntity et eid k = true → s.activeAlerts.lookup k = some a →
      c.faults.updateAlertStatus a.id = false) : Agree (resolveByEntity c et eid l s).1 := by
  have hmem : ∀ a, a ∈ l ↔ ∃ k, ofEntity et eid k = true ∧ s.activeAlerts.lookup k = some a :=
    fun a => hl.mem_iff.trans GoMap.mem_valuesWhere
  refine h.removed
    (fun k => GoMap.lookup_eraseWhere s.activeAlerts (ofEntity et eid) k) fun r => ?_
  rw [activeIn_resolveAll]
  constructor
  · rintro ⟨hr, hids⟩
    refine ⟨hr, ?_⟩
    -- a row of the entity has its entry in the list, and that entry's id is the row's
    cases hp : ofEntity et eid r.key with
    | false => rfl
    | true =>
      obtain ⟨a, ha, hv⟩ := h.entry hr
      have hid : r.id = a.id := (congrArg View.id hv).symm
      exact absurd hid (hids a ((hmem a).mpr ⟨r.key, hp, ha⟩) (hf _ _ hp ha))
  · rintro ⟨hr, hp⟩
    refine ⟨hr, fun a ha _ hid => ?_⟩
    obtain ⟨k, hk, hlk⟩ := (hmem a).mp ha
    simp [(h.id_iff_key hlk hr).mp hid, hk] at hp

/-! ## 4. Operations and runs -/

/-- The operations of the engine: an event taken from the channel, an entity removed. -/
inductive Op where
  | processEvent (c : Call) (evt : Event)
  | resolveByEntity (c : Call) (entityType entityID : String) (toResolve : List Alert)

/-- One operation; the rows to resolve are the selected entries in any order. -/
def step (s : State) : Op → Option State
  | .processEvent c evt => some (processEvent c evt s).1
  | .resolveByEntity c et eid l =>
    if l.Perm (GoMap.valuesWhere s.activeAlerts (ofEntity et eid)) then
      some (resolveByEntity c et eid l s).1
    else none

/-- No write of the alerts table fails: neither the statements nor the primary key. -/
def NoStoreFailure (s : State) : Op → Prop
  | .processEvent c _ =>
    c.faults.insertAlert = false ∧ c.faults.updateAlertOnEscalation = false ∧
      (∀ id, c.faults.updateAlertStatus id = false) ∧ s.alerts.hasKey c.newID = false
  | .resolveByEntity c _ _ _ => ∀ id, c.faults.updateAlertStatus id = false

/-- What fails is not a write about an alert the map holds: an escalation's update, a
    recovery's insert and update, a removal's updates all succeed. The insert that opens an
    alert and every call of the other stores may fail. -/
def Harmless (s : State) : Op → Prop
  | .processEvent c evt => ∀ a, s.activeAlerts.lookup evt.key = some a →
    if evt.isRecover then
      c.faults.insertAlert = false ∧ s.alerts.hasKey c.newID = false ∧
        c.faults.updateAlertStatus a.id = false
    else severityRank a.severity < severityRank evt.severity →
      c.faults.updateAlertOnEscalation = false
  | .resolveByEntity c et eid _ => ∀ k a, ofEntity et eid k = true →
    s.activeAlerts.lookup k = some a → c.faults.updateAlertStatus a.id = false

variable {op : Op}

theorem NoStoreFailure.harmless (h : NoStoreFailure s op) : Harmless s op := by
  cases op with
  | processEvent _ evt =>
    obtain ⟨hi, he, hu, hk⟩ := h
    intro a _
    cases evt.isRecover with
    | true => exact ⟨hi, hk, hu a.id⟩
    | false => exact fun _ => he
  | resolveByEntity => exact fun _ a _ _ => h a.id

/-- **A harmless operation keeps the agreement.** -/
theorem step_agree (h : Agree s) (hh : Harmless s op) (hs : step s op = some s') : Agree s' := by
  cases op with
  | processEvent c evt =>
    simp only [step, Option.some.injEq] at hs
    subst hs
    unfold processEvent
    split
    · next hrec => exact processRecovery_agree h fun a ha => (if_pos hrec).mp (hh a ha)
    · next hrec =>
      split
      · next a hl =>
        split
        · next hlt => exact escalateAlert_agree h hl ((if_neg hrec).mp (hh a hl) hlt)
        · exact h
      · next hl => exact openAlert_agree h c hl
  | resolveByEntity =>
    simp only [step] at hs
    split at hs
    · rename_i hl
      cases hs
      exact resolveByEntity_agree h hl hh
    · cases hs

/-- **A reload agrees with its table** when no key has two active rows. -/
theorem reload_agree (h : OneActivePerKey t) : Agree ⟨reloadActiveAlerts ∅ t, t⟩ := by
  have hlook : ∀ k a, (reloadActiveAlerts ∅ t).lookup k = some a ↔ ActiveIn t a ∧ a.key = k := by
    intro k a
    rw [ActiveIn, ← mem_listActiveAlerts]
    refine ⟨GoMap.mem_of_insertAll, ?_⟩
    rintro ⟨ha, rfl⟩
    refine GoMap.insertAll_of_mem (fun r hr r' hr' hk => ?_) ha
    exact h r r' (mem_listActiveAlerts.mp hr) (mem_listActiveAlerts.mp hr') hk
  refine ⟨fun k v => ?_, fun k a ha => ((hlook k a).mp ha).2⟩
  simp only [Option.map_eq_some_iff]
  constructor
  · rintro ⟨a, ha, hv⟩
    obtain ⟨hr, hk⟩ := (hlook k a).mp ha
    exact ⟨a, hr, hk, hv⟩
  · rintro ⟨r, hr, hk, hv⟩
    exact ⟨r, (hlook k r).mpr ⟨hr, hk⟩, hv⟩

/-- **Engine and database agree along every run without store failures**: after a reload and
    any events and entity removals, the map read as key ↦ (id, severity, message, entity name,
    details) is exactly the active rows, a key has at most one, and reloading gives the map
    back. -/
theorem engine_agrees_with_store {t : AlertTable} (h0 : OneActivePerKey t) {s : State}
    (h : Reach step NoStoreFailure ⟨reloadActiveAlerts ∅ t, t⟩ s) :
    (∀ k v, (s.activeAlerts.lookup k).map Alert.view = some v ↔
      ∃ r, ActiveIn s.alerts r ∧ r.key = k ∧ r.view = v) ∧
    OneActivePerKey s.alerts ∧
    ∀ k, ((reloadActiveAlerts ∅ s.alerts).lookup k).map Alert.view =
      (s.activeAlerts.lookup k).map Alert.view := by
  have hA : Agree s := h.inv (reload_agree h0) fun _ _ _ hI hok hs =>
    step_agree hI hok.harmless hs
  refine ⟨hA.read, hA.unique, fun k => Option.ext fun v => ?_⟩
  exact ((reload_agree hA.unique).read k v).trans (hA.read k v).symm

/-- The table with one active warning. -/
def cpuTable : AlertTable := ⟨[(cpuEvent severityWarning false).toAlert "a1" .active], by decide⟩

theorem cpuTable_one : OneActivePerKey cpuTable := by
  intro r r' hr hr' _
  rw [List.mem_singleton.mp hr.1, List.mem_singleton.mp hr'.1]

/-- A warning is raised to critical and then recovers; the hypotheses hold along the way. -/
theorem engine_agrees_after_recovery :
    ∃ s, Reach step NoStoreFailure ⟨reloadActiveAlerts ∅ cpuTable, cpuTable⟩ s ∧
      s.alerts.rows.length = 2 ∧
      (∀ k v, (s.activeAlerts.lookup k).map Alert.view = some v ↔
        ∃ r, ActiveIn s.alerts r ∧ r.key = k ∧ r.view = v) ∧
      OneActivePerKey s.alerts ∧
      ∀ k, ((reloadActiveAlerts ∅ s.alerts).lookup k).map Alert.view =
        (s.activeAlerts.lookup k).map Alert.view := by
  have hrun : Reach step NoStoreFailure ⟨reloadActiveAlerts ∅ cpuTable, cpuTable⟩ _ :=
    .next _ _ (.processEvent (.plain "a3" .bare) (cpuEvent severityInfo true))
      (.next _ _ (.processEvent (.plain "a2" .bare) (cpuEvent severityCritical false)) .start
        ⟨rfl, rfl, fun _ => rfl, by decide⟩ rfl)
      ⟨rfl, rfl, fun _ => rfl, by decide⟩ rfl
  exact ⟨_, hrun, by decide, engine_agrees_with_store cpuTable_one hrun⟩

/-! ## 5. Store failures -/

/-- The map and the active rows have the same keys with the same severities. -/
def SameKeysAndSeverity (s : State) : Prop :=
  ∀ k sev, (s.activeAlerts.lookup k).map Alert.severity = some sev ↔
    ∃ r, ActiveIn s.alerts r ∧ r.key = k ∧ r.severity = sev

/-- Two operations ask for the same thing: the same event, or the removal of the same entity. -/
def SameRequest : Op → Op → Prop
  | .processEvent _ evt, .processEvent _ evt' => evt = evt'
  | .resolveByEntity _ et eid _, .resolveByEntity _ et' eid' _ => et = et' ∧ eid = eid'
  | _, _ => False

/-- What an operation is for, read off the table: a firing event that is not silenced has an
    active row of at least its severity, a recovery leaves no active row under its key, a
    removal none of its entity. -/
def TookEffect (s : State) : Op → Prop
  | .processEvent c evt =>
    if evt.isRecover then ∀ r, ActiveIn s.alerts r → r.key ≠ evt.key
    else checkSilenceRules c evt = true ∨
      ∃ r, ActiveIn s.alerts r ∧ r.key = evt.key ∧
        severityRank evt.severity ≤ severityRank r.severity
  | .resolveByEntity _ et eid _ => ∀ r, ActiveIn s.alerts r → ofEntity et eid r.key = false

theorem Agree.sameKeysAndSeverity (h : Agree s) : SameKeysAndSeverity s := by
  intro k sev
  constructor
  · intro hm
    obtain ⟨a, hl, rfl⟩ := Option.map_eq_some_iff.mp hm
    obtain ⟨r, hr, hk, hv⟩ := h.row hl
    exact ⟨r, hr, hk, congrArg View.severity hv⟩
  · rintro ⟨r, hr, rfl, rfl⟩
    obtain ⟨a, hl, hv⟩ := h.entry hr
    rw [hl]
    exact congrArg some (congrArg View.severity hv)

theorem escalateAlert_lookup (h : Agree s) (c : Call) (hl : s.activeAlerts.lookup evt.key = some a) :
    (escalateAlert c a evt s).1.activeAlerts.lookup evt.key = some (a.escalated evt) :=
  (escalateAlert_map (h.keyed _ _ hl) _).trans (if_pos rfl)

/-- **An operation in which nothing fails takes effect**, from any state that agrees. -/
theorem step_tookEffect (h : Agree s) (hn : NoStoreFailure s op) (hs : step s op = some s') : TookEffect s' op := by
  have hA : Agree s' := step_agree h hn.harmless hs
  cases op with
  | processEvent c evt =>
    simp only [step, Option.some.injEq] at hs
    subst hs
    simp only [TookEffect]
    generalize hp : processEvent c evt s = p at hA ⊢
    unfold processEvent at hp
    split at hp
    · next hrec =>
      subst hp
      rw [if_pos hrec]
      exact fun r hr => hA.no_row (processRecovery_map ▸ AList.lookup_erase _ _) hr
    · next hrec =>
      rw [if_neg hrec]
      split at hp
      · next a hl =>
        split at hp <;> subst hp
        · obtain ⟨r, hr, hk, hv⟩ := hA.row (escalateAlert_lookup h c hl)
          refine Or.inr ⟨r, hr, hk, le_of_eq ?_⟩
          rw [show r.severity = evt.severity from congrArg View.severity hv]
        · next hlt =>
          obtain ⟨r, hr, hk, hv⟩ := hA.row hl
          refine Or.inr ⟨r, hr, hk, ?_⟩
          rw [show r.severity = a.severity from congrArg View.severity hv]
          exact not_lt.mp hlt
      · subst hp
        cases hsil : checkSilenceRules c evt with
        | true => exact Or.inl rfl
        | false =>
          obtain ⟨hins, _, _, hfresh⟩ := hn
          obtain ⟨t, hi⟩ :
            ∃ t, insertAlert s.alerts c.faults.insertAlert (evt.toAlert c.newID .active) = some t := by
            rw [hins]
            exact Table.insert_isSome hfresh
          refine Or.inr ⟨(evt.toAlert c.newID .active).stored, ?_, rfl, le_refl _⟩
          simp only [openAlert, hsil, Bool.false_eq_true, if_false, hi]
          exact (activeIn_inserted hi rfl _).mpr (Or.inr rfl)
  | resolveByEntity _ et eid =>
    simp only [step] at hs
    split at hs
    · cases hs
      intro r hr
      cases hp : ofEntity et eid r.key with
      | false => rfl
      | true =>
        refine absurd rfl (hA.no_row ?_ hr)
        exact (GoMap.lookup_eraseWhere _ _ _).trans (if_pos hp)
    · cases hs

/-- A stranded row: active in the table, without an entry. -/
theorem not_sameKeys_of_stranded (hr : ActiveIn s.alerts r)
    (hl : s.activeAlerts.lookup r.key = none) : ¬ SameKeysAndSeverity s := by
  intro h
  have := (h r.key r.severity).mpr ⟨r, hr, rfl, rfl⟩
  simp [hl] at this

/-- A failed escalation: the map has the new severity, the row the old one. -/
theorem escalateAlert_failed_differs (h : Agree s) (hl : s.activeAlerts.lookup evt.key = some a)
    (hlt : severityRank a.severity < severityRank evt.severity) (hf : c.faults.updateAlertOnEscalation = true) :
    ¬ SameKeysAndSeverity (escalateAlert c a evt s).1 := by
  intro hsame
  have hmap : ((escalateAlert c a evt s).1.activeAlerts.lookup evt.key).map Alert.severity =
      some evt.severity := by rw [escalateAlert_lookup h c hl]; rfl
  have hrows : (escalateAlert c a evt s).1.alerts = s.alerts := by
    simp only [escalateAlert, hf, if_pos]
  obtain ⟨r, hr, hk, hsev⟩ := (hsame _ _).mp hmap
  rw [hrows] at hr
  obtain ⟨a', hl', hv⟩ := h.entry hr
  rw [hk, hl] at hl'
  cases hl'
  rw [hsev.symm.trans (congrArg View.severity hv).symm] at hlt
  exact Int.lt_irrefl _ hlt

/-- A failed recovery strands the row it was to resolve. -/
theorem processRecovery_failed_differs (h : Agree s) (hl : s.activeAlerts.lookup evt.key = some a)
    (hf : ¬ (c.faults.insertAlert = false ∧ s.alerts.hasKey c.newID = false ∧
      c.faults.updateAlertStatus a.id = false)) : ¬ SameKeysAndSeverity (processRecovery c evt s).1 := by
  obtain ⟨r, hr, hk, hv⟩ := h.row hl
  refine not_sameKeys_of_stranded ?_ (hk ▸ processRecovery_map ▸ AList.lookup_erase _ _)
  cases hi : insertAlert s.alerts c.faults.insertAlert (evt.toAlert c.newID .resolved) with
  | none =>
    simp only [processRecovery, hl, hi]
    exact hr
  | some =>
    have hins : ¬ (c.faults.insertAlert = true ∨ s.alerts.hasKey c.newID = true) := fun hx => by
      rw [insertAlert_eq_none.mpr hx] at hi
      cases hi
    have hupd : c.faults.updateAlertStatus a.id = true := by
      simp only [not_or, Bool.not_eq_true] at hins
      cases hu : c.faults.updateAlertStatus a.id with
      | true => rfl
      | false => exact absurd ⟨hins.1, hins.2, hu⟩ hf
    simp only [processRecovery, hl, hi]
    rw [hupd, if_pos rfl]
    exact (activeIn_inserted_other hi (by simp [Event.toAlert]) r).mpr hr

/-- A removal strands every row whose update fails. -/
theorem resolveByEntity_failed_differs (h : Agree s) {et eid : String} {l : List Alert} (hk : ofEntity et eid k = true)
    (hl : s.activeAlerts.lookup k = some a) (hf : c.faults.updateAlertStatus a.id = true) :
    ¬ SameKeysAndSeverity (resolveByEntity c et eid l s).1 := by
  obtain ⟨r, hr, rfl, hv⟩ := h.row hl
  have hid : r.id = a.id := congrArg View.id hv
  refine not_sameKeys_of_stranded ?_
    ((GoMap.lookup_eraseWhere _ _ _).trans (if_pos hk))
  refine (activeIn_resolveAll c l _ r).mpr ⟨hr, fun b _ hb e => ?_⟩
  rw [← e, hid, hf] at hb
  cases hb

theorem harmful_differs (h : Agree s) (hh : ¬ Harmless s op) (hs : step s op = some s') :
    ¬ SameKeysAndSeverity s' := by
  cases op with
  | processEvent _ evt =>
    simp only [step, Option.some.injEq] at hs
    subst hs
    simp only [Harmless, not_forall] at hh
    obtain ⟨a, hl, hbad⟩ := hh
    cases hrec : evt.isRecover with
    | true =>
      rw [hrec, if_pos rfl] at hbad
      rw [processEvent_recovery hrec]
      exact processRecovery_failed_differs h hl hbad
    | false =>
      simp only [hrec, Bool.false_eq_true, if_false, not_forall, Bool.not_eq_false] at hbad
      obtain ⟨hlt, hf⟩ := hbad
      rw [processEvent_escalate hrec hl hlt]
      exact escalateAlert_failed_differs h hl hlt hf
  | resolveByEntity =>
    simp only [step] at hs
    split at hs
    · cases hs
      simp only [Harmless, not_forall, Bool.not_eq_false] at hh
      obtain ⟨k, a, hk, hl, hf⟩ := hh
      exact resolveByEntity_failed_differs h hk hl hf
    · cases hs

/-- **Exactly the harmless failures keep the agreement**: from a state that agrees, after an
    operation whose store calls may fail, the map and the active rows have the same keys and
    severities, and repeating the request without failures takes effect, if and only if no
    failed call was the write about an alert the map held. -/
theorem agreement_survives_iff_harmless {s s' : State} {op : Op} (h : Agree s)
    (hs : step s op = some s') :
    (SameKeysAndSeverity s' ∧ ∀ op' s'', SameRequest op op' → NoStoreFailure s' op' →
      step s' op' = some s'' → TookEffect s'' op') ↔ Harmless s op := by
  constructor
  · rintro ⟨hsame, _⟩
    by_contra hh
    exact harmful_differs h hh hs hsame
  · intro hh
    have hA : Agree s' := step_agree h hh hs
    exact ⟨hA.sameKeysAndSeverity, fun op' s'' _ hn hs' => step_tookEffect hA hn hs'⟩

/-- The call of a recovery whose InsertAlert fails. -/
def insertFails : Call := { Call.plain "a2" .bare with faults := { insertAlert := true } }

/-- The state after a start on `cpuTable`. -/
def cpuState : State := ⟨reloadActiveAlerts ∅ cpuTable, cpuTable⟩

/-- A new alert whose insert fails leaves both sides alone: the hypotheses hold, and so does the
    condition. -/
theorem agreement_survives_failed_open :
    Agree ⟨∅, .empty⟩ ∧ Harmless ⟨∅, .empty⟩
      (.processEvent insertFails (cpuEvent severityWarning false)) ∧
    SameKeysAndSeverity (processEvent insertFails (cpuEvent severityWarning false)
      ⟨∅, .empty⟩).1 := by
  have hA : Agree ⟨∅, .empty⟩ := reload_agree fun r _ hr =>
    absurd hr.1 (Table.not_mem_empty r)
  have hh : Harmless ⟨∅, .empty⟩
      (.processEvent insertFails (cpuEvent severityWarning false)) := fun a ha => by
    cases ha
  exact ⟨hA, hh, ((agreement_survives_iff_harmless hA rfl).mpr hh).1⟩

/-- **A recovery whose InsertAlert fails strands the alert**: the state agreed, the row is
    still active and the map no longer knows it. -/
theorem recovery_insert_failure_strands_alert :
    Agree cpuState ∧
    ¬ SameKeysAndSeverity (processEvent insertFails (cpuEvent severityInfo true) cpuState).1 := by
  have hA : Agree cpuState := reload_agree cpuTable_one
  have hbad : ¬ Harmless cpuState (.processEvent insertFails (cpuEvent severityInfo true)) :=
    fun hh => absurd (hh ((cpuEvent severityWarning false).toAlert "a1" .active) (by decide)).1
      (by decide)
  exact ⟨hA, harmful_differs hA hbad rfl⟩

end Maintenant.Alerting
