/-
  File:      Maintenant/Alert/Dispatch.lean
  Subject:   WHO A RECORD ROUTES TO (`dispatchNotifications` of internal/alert/engine.go).

  The two channel loops share one set of dispatched channels. `mem_routing` says what they
  leave behind without mentioning the loops: an enabled channel is picked by the first matching
  trigger that lists it, else by the entity router; `routing_distinct`: never twice.
  The rows a dispatch inserts follow (`insertDelivery_mem_dispatch`, `count_dispatch`).
-/
import Maintenant.Alert.Engine

namespace Maintenant.Alerting

variable {c : Call}

/-! ## 1. One channel loop -/

variable {chID : String} {via : Option AlertTrigger} {picks : List Pick} {p : Pick} {routeBy payload : Alert}

/-- A channel the loops may pick: its row can be read, and it is enabled. -/
def Call.Reachable (c : Call) (ch : NotificationChannel) : Prop :=
  c.getChannel ch.id = some ch ∧ ch.enabled = true

theorem getChannel_id {ch : NotificationChannel} (h : c.getChannel chID = some ch) : ch.id = chID := by
  unfold Call.getChannel at h
  split at h
  · cases h
  · exact (Table.get_eq_some.mp h).2

/-- No pick has the channel yet. -/
def Unpicked (picks : List Pick) (chID : String) : Prop := ∀ q ∈ picks, q.channel.id ≠ chID

theorem mem_offer : p ∈ offer c via picks chID ↔ p ∈ picks ∨
        p.via = via ∧ p.channel.id = chID ∧ c.Reachable p.channel ∧ Unpicked picks chID := by
  unfold offer
  split
  · rename_i h
    obtain ⟨q, hq, hid⟩ := List.any_eq_true.mp h
    refine ⟨Or.inl, fun hp => hp.elim id fun hx => ?_⟩
    exact absurd (beq_iff_eq.mp hid) (hx.2.2.2 q hq)
  · rename_i h
    have hun : Unpicked picks chID := fun q hq hid =>
      h (List.any_eq_true.mpr ⟨q, hq, beq_iff_eq.mpr hid⟩)
    cases hg : c.getChannel chID with
    | none =>
      refine ⟨Or.inl, fun hp => hp.elim id fun ⟨_, hid, hr, _⟩ => ?_⟩
      rw [← hid, hr.1] at hg
      cases hg
    | some ch =>
      have hch := getChannel_id hg
      by_cases he : ch.enabled = true
      · simp only [he, if_pos, List.mem_append, List.mem_singleton]
        refine or_congr Iff.rfl ⟨?_, ?_⟩
        · rintro rfl
          exact ⟨rfl, hch, ⟨hch ▸ hg, he⟩, hun⟩
        · rintro ⟨hv, hid, hr, _⟩
          have hrow : p.channel = ch := Option.some.inj (hr.1.symm.trans (hid ▸ hg))
          obtain ⟨channel, via'⟩ := p
          dsimp only at hv hrow
          rw [hv, hrow]
      · simp only [he, if_false, Bool.false_eq_true]
        refine ⟨Or.inl, fun hp => hp.elim id fun ⟨_, hid, hr, _⟩ => ?_⟩
        have hrow : p.channel = ch := Option.some.inj (hr.1.symm.trans (hid ▸ hg))
        exact absurd (hrow ▸ hr.2) he

/-! ## 2. Triggers, then the entity router -/

/-- The trigger matches the record and lists the channel. -/
def listedBy (routeBy : Alert) (chID : String) (t : AlertTrigger) : Bool :=
  matchesTrigger t routeBy && t.channelIDs.contains chID

/-- What the loops offer, in order: the channels of the matching triggers, then those of the entity router. -/
def offered (c : Call) (routeBy : Alert) : List (Option AlertTrigger × String) :=
  (c.enabledTriggers.filter (matchesTrigger · routeBy)).flatMap (fun t => t.channelIDs.map (some t, ·)) ++
    (c.cfg.route routeBy.entityType routeBy.entityID routeBy.severity).map (none, ·)

theorem routing_eq : routing c routeBy = (offered c routeBy).foldl (fun picks o => offer c o.1 picks o.2) [] := by
  simp only [offered, List.foldl_append, List.foldl_flatMap, List.foldl_filter, List.foldl_map]
  rfl

/-- A reachable channel nobody picked before is picked where it is offered first. -/
theorem mem_offers {offers : List (Option AlertTrigger × String)} :
    p ∈ offers.foldl (fun picks o => offer c o.1 picks o.2) picks ↔ p ∈ picks ∨
      offers.find? (·.2 == p.channel.id) = some (p.via, p.channel.id) ∧ c.Reachable p.channel ∧
        Unpicked picks p.channel.id := by
  induction offers generalizing picks with
  | nil => simp
  | cons o offers ih =>
    obtain ⟨via, chID⟩ := o
    rw [List.foldl_cons, ih, mem_offer, or_assoc]
    refine or_congr_right ?_
    by_cases hid : chID = p.channel.id
    · subst hid
      rw [List.find?_cons_of_pos (by exact beq_self_eq_true _)]
      constructor
      · rintro (⟨rfl, -, hr, hun⟩ | ⟨-, hr, hun⟩)
        · exact ⟨rfl, hr, hun⟩
        · -- the channel was just picked, or before
          have hpre : Unpicked picks p.channel.id := fun q hq => hun q (mem_offer.mpr (Or.inl hq))
          exact absurd rfl (hun ⟨p.channel, via⟩ (mem_offer.mpr (Or.inr ⟨rfl, rfl, hr, hpre⟩)))
      · rintro ⟨hv, hr, hun⟩
        exact Or.inl ⟨(Prod.mk.inj (Option.some.inj hv)).1.symm, rfl, hr, hun⟩
    · rw [List.find?_cons_of_neg (by simpa using hid)]
      have hun : Unpicked (offer c via picks chID) p.channel.id ↔ Unpicked picks p.channel.id := by
        refine ⟨fun h q hq => h q (mem_offer.mpr (Or.inl hq)), fun h q hq => ?_⟩
        rcases mem_offer.mp hq with hq | ⟨-, hq, -⟩
        · exact h q hq
        · exact hq ▸ hid
      rw [hun]
      exact or_iff_right fun h => hid h.2.1.symm

/-- The first offer of a channel is that of the first matching trigger that lists it, else the router's. -/
theorem find_offered : (offered c routeBy).find? (·.2 == chID) =
    ((c.enabledTriggers.find? (listedBy routeBy chID)).map fun t => (some t, chID)).or
      (if chID ∈ c.cfg.route routeBy.entityType routeBy.entityID routeBy.severity then some (none, chID)
        else none) := by
  have hlist : ∀ (via : Option AlertTrigger) (chIDs : List String),
      (chIDs.map (via, ·)).find? (·.2 == chID) = if chID ∈ chIDs then some (via, chID) else none := by
    intro via chIDs
    induction chIDs with
    | nil => rfl
    | cons id chIDs ih =>
      by_cases hid : id = chID
      · simp [hid]
      · simp [hid, Ne.symm hid, ih]
  rw [offered, List.find?_append, hlist]
  congr 1
  induction c.enabledTriggers with
  | nil => rfl
  | cons t ts ih =>
    by_cases hm : matchesTrigger t routeBy = true
    · by_cases hl : chID ∈ t.channelIDs
      · simp [listedBy, hm, hl, hlist]
      · simp [listedBy, hm, hl, hlist, ih]
    · simp [listedBy, hm, ih]

/-- **The picks of a record**: every reachable channel that the first matching trigger listing
    it, or failing that the entity router, picks. -/
theorem mem_routing : p ∈ routing c routeBy ↔ c.Reachable p.channel ∧ ((∃ t, p.via = some t ∧
            c.enabledTriggers.find? (listedBy routeBy p.channel.id) = some t) ∨
          p.via = none ∧ c.enabledTriggers.find? (listedBy routeBy p.channel.id) = none ∧
            p.channel.id ∈ c.cfg.route routeBy.entityType routeBy.entityID routeBy.severity) := by
  rw [routing_eq, mem_offers, find_offered]
  cases c.enabledTriggers.find? (listedBy routeBy p.channel.id) with
  | none => simp [Unpicked, and_comm, eq_comm]
  | some t => simp [Unpicked, and_comm, eq_comm]

/-! ## 3. No channel twice -/

/-- No two picks have one channel. -/
def Distinct (picks : List Pick) : Prop := (picks.map fun p => p.channel.id).Nodup

theorem offer_distinct (h : Distinct picks) : Distinct (offer c via picks chID) := by
  unfold offer
  split
  · exact h
  · rename_i hno
    cases hg : c.getChannel chID with
    | none => exact h
    | some =>
      dsimp only
      split
      · unfold Distinct
        rw [List.map_append, List.map_singleton, ← List.concat_eq_append, List.nodup_concat]
        refine ⟨fun hmem => hno ?_, h⟩
        obtain ⟨q, hq, hid⟩ := List.mem_map.mp hmem
        exact List.any_eq_true.mpr ⟨q, hq, beq_iff_eq.mpr (hid.trans (getChannel_id hg))⟩
      · exact h

theorem routing_distinct (c : Call) (routeBy : Alert) : Distinct (routing c routeBy) := by
  rw [routing_eq]
  exact List.foldlRecOn _ _ (motive := Distinct) List.nodup_nil fun _ h _ _ => offer_distinct h

/-! ## 4. The rows of a dispatch -/

/-- The effect inserts a delivery row for the channel. -/
def isDeliveryTo (chID : String) : Effect → Bool
  | .insertDelivery d _ => d.channelID == chID
  | _ => false

theorem insertDelivery_mem_dispatch {d : NotificationDelivery} :
    Effect.insertDelivery d via ∈ dispatchNotifications c routeBy payload ↔
      c.cfg.notifier = true ∧ ∃ p ∈ routing c routeBy,
        c.faults.insertDelivery p.channel.id = false ∧ d = newDelivery c p.channel payload ∧ via = p.via := by
  unfold dispatchNotifications
  cases c.cfg.notifier with
  | false => simp
  | true =>
    simp only [if_pos, List.mem_flatMap, true_and]
    refine exists_congr fun p => and_congr_right fun _ => ?_
    unfold enqueueDelivery
    cases c.faults.insertDelivery p.channel.id <;> simp

/-- **A dispatch without a failing insert delivers once to each channel it picks, and to no
    other.** -/
theorem count_dispatch (hn : c.cfg.notifier = true) (hf : ∀ ch, c.faults.insertDelivery ch = false) :
    (dispatchNotifications c routeBy payload).countP (isDeliveryTo chID) =
      if ∃ p ∈ routing c routeBy, p.channel.id = chID then 1 else 0 := by
  have hsum : ∀ picks : List Pick,
      (picks.flatMap fun p => enqueueDelivery c p payload).countP (isDeliveryTo chID) =
        (picks.map fun p => p.channel.id).count chID := by
    intro picks
    induction picks with
    | nil => rfl
    | cons _ _ ih =>
      rw [List.flatMap_cons, List.countP_append, ih, List.map_cons, List.count_cons, Nat.add_comm]
      simp [enqueueDelivery, hf, isDeliveryTo, newDelivery, List.countP_cons]
  unfold dispatchNotifications
  rw [if_pos hn, hsum, (routing_distinct c routeBy).count]
  simp

/-- **The fan-out is exact**: one row for each enabled channel that a matching trigger or the entity
    router lists, and none for another. -/
theorem dispatch_fans_out (hget : ∀ id, c.faults.getChannel id = false)
    (hinsert : ∀ id, c.faults.insertDelivery id = false) :
    (dispatchNotifications c routeBy payload).countP (isDeliveryTo chID) =
      if c.cfg.notifier = true ∧ (c.cfg.channels.get chID).any (·.enabled) = true ∧
        ((∃ t ∈ c.enabledTriggers, matchesTrigger t routeBy = true ∧ chID ∈ t.channelIDs) ∨
          chID ∈ c.cfg.route routeBy.entityType routeBy.entityID routeBy.severity) then 1 else 0 := by
  cases hn : c.cfg.notifier with
  | false => simp [dispatchNotifications, hn]
  | true =>
    have hfind : (∃ t ∈ c.enabledTriggers, matchesTrigger t routeBy = true ∧ chID ∈ t.channelIDs) ↔
        (c.enabledTriggers.find? (listedBy routeBy chID)).isSome = true := by
      simp [List.find?_isSome, listedBy]
    rw [count_dispatch hn hinsert]
    refine if_congr ?_ rfl rfl
    rw [hfind, and_iff_right rfl]
    constructor
    · rintro ⟨p, hp, rfl⟩
      obtain ⟨hreach, hpicked⟩ := mem_routing.mp hp
      have hrow : c.cfg.channels.get p.channel.id = some p.channel := by
        simpa [Call.getChannel, hget] using hreach.1
      refine ⟨by simp [hrow, hreach.2], ?_⟩
      rcases hpicked with ⟨t, _, ht⟩ | ⟨_, _, hrouted⟩
      · exact Or.inl (by simp [ht])
      · exact Or.inr hrouted
    · rintro ⟨henabled, hlisted⟩
      obtain ⟨ch, hch, hon⟩ := (Option.any_eq_true _ _).mp henabled
      obtain rfl : ch.id = chID := (Table.get_eq_some.mp hch).2
      have hreach : c.Reachable ch := ⟨by simpa [Call.getChannel, hget] using hch, hon⟩
      cases ht : c.enabledTriggers.find? (listedBy routeBy ch.id) with
      | some t => exact ⟨⟨ch, some t⟩, mem_routing.mpr ⟨hreach, Or.inl ⟨t, rfl, ht⟩⟩, rfl⟩
      | none =>
        have hrouted := hlisted.resolve_left (by simp [ht])
        exact ⟨⟨ch, none⟩, mem_routing.mpr ⟨hreach, Or.inr ⟨rfl, ht, hrouted⟩⟩, rfl⟩

/-- Two triggers list the channel, one of them another that does not exist. -/
def doubledConfig : Config := { Config.bare with
  triggers := [⟨"t1", "", "", "", true, true, ["ch", "gone"]⟩,
    ⟨"t2", "info, warning", "", "", true, true, ["ch"]⟩]
  channels := ⟨[⟨"ch", "webhook", true⟩], List.nodup_singleton "ch"⟩ }

theorem listed_twice_told_once :
    let a := (cpuEvent severityWarning false).toAlert "a" .active
    (dispatchNotifications (.plain "a" doubledConfig) a a).countP (isDeliveryTo "ch") = 1 :=
  (dispatch_fans_out (fun _ => rfl) (fun _ => rfl)).trans (by decide)

end Maintenant.Alerting
