/-
  File:      Maintenant/Container/Retelling.lean
  Subject:   A ROW THAT IS TOLD ITS OWN HISTORY AGAIN. A run of messages leaves a row behind; the
             same messages are then told to that row, and say nothing new. It ends as it began.

  What a message that says nothing new still does is bring the row up to date (`Container.touched`)
  or archive it: image, health check, the archive flag and its instant. In between these columns may
  go back to what they were when the message was new, so the argument runs along both tellings at
  once: `Retold fin ρ σ` relates the row `ρ` of the first telling (it may not be there yet) to the row
  `σ` of the second, where `fin` is the row the first ends with.

  * `message_retold`, `Retold.swept` -- a message, and the sweep after an inventory, keep the relation;
  * `Retold.eq` -- at the end the relation is equality.
-/
import Maintenant.Container.Growth

namespace Maintenant.Containers

open GoTime Passes

/-! ## 1. The relation -/

/-- A column of the row told again: as it was left, or as the first telling has it by now. -/
def Follows {β : Type} (f : Container → β) (fin : Container) (ρ : Option Container) (σ : Container) :
    Prop :=
  f σ = f fin ∨ ∃ r, ρ = some r ∧ f r = f σ

/-- The archive columns. -/
def Container.archive? (c : Container) : Bool × Option Int := (c.archived, c.archivedAt)

/-- A row that is not there counts as archived. -/
def archiveOf : Option Container → Bool × Option Int
  | none => (true, none)
  | some c => c.archive?

/-- The row without the columns a message can set again. -/
def Container.rest (c : Container) : Container :=
  { c with image := "", hasHealthCheck := false, archived := false, archivedAt := none }

structure Retold (fin : Container) (ρ : Option Container) (σ : Container) : Prop where
  image : Follows Container.image fin ρ σ
  check : Follows Container.hasHealthCheck fin ρ σ
  /-- Or the flag is not what it will be, on both sides. -/
  archive : Follows Container.archive? fin ρ σ ∨ (σ.archived ≠ fin.archived ∧ (archiveOf ρ).1 = σ.archived)
  rest : σ.rest = fin.rest

theorem Retold.start (fin : Container) (ρ : Option Container) : Retold fin ρ fin :=
  ⟨.inl rfl, .inl rfl, .inl (.inl rfl), rfl⟩

theorem Follows.eq {β : Type} {f : Container → β} {fin σ : Container} (h : Follows f fin (some fin) σ) :
    f σ = f fin := by
  rcases h with h | ⟨r, hr, h⟩
  · exact h
  · cases hr
    exact h.symm

/-- **At the end of both tellings.** -/
theorem Retold.eq {fin σ : Container} (h : Retold fin (some fin) σ) : σ = fin := by
  have himage := h.image.eq
  have hcheck := h.check.eq
  have harchive : σ.archive? = fin.archive? := by
    rcases h.archive with h | ⟨hne, hgone⟩
    · exact h.eq
    · exact absurd hgone.symm hne
  obtain ⟨harchived, hat⟩ := Prod.mk.inj harchive
  have hwhole : ∀ c : Container, c = { c.rest with
      image := c.image, hasHealthCheck := c.hasHealthCheck, archived := c.archived,
      archivedAt := c.archivedAt } := fun _ => rfl
  rw [hwhole σ, h.rest, himage, hcheck, harchived, hat]
  exact (hwhole fin).symm

/-! ## 2. Archiving and bringing up to date -/

section Columns

variable {fin σ : Container} {ρ : Option Container} {ev : WireContainer}

theorem archive_same {β : Type} {f : Container → β}
    (hf : ∀ c at', f { c with archived := true, archivedAt := at' } = f c) (c : Container) (t : Time) :
    f (c.archive t) = f c := by
  unfold Container.archive
  split
  · rfl
  · exact hf c _

theorem archive_of_archived {c : Container} (t : Time) (h : c.archived = true) : c.archive t = c :=
  if_pos h

theorem archive_columns (c : Container) (t : Time) :
    (c.archive t).archive? = if c.archived then c.archive? else (true, some (unix t)) := by
  unfold Container.archive
  split <;> rfl

theorem gone_archive (ρ : Option Container) (t : Time) : (archiveOf (ρ.map (·.archive t))).1 = true := by
  cases ρ with
  | none => rfl
  | some c => exact archive_archived c t

/-- A column that both rows keep, or that becomes the same. -/
theorem Follows.next {β : Type} {f : Container → β} {r' σ' : Container} (h : Follows f fin ρ σ)
    (hnext : (f σ' = f σ ∧ ∀ r, ρ = some r → f r' = f r) ∨ f r' = f σ') : Follows f fin (some r') σ' := by
  rcases hnext with ⟨hσ, hr⟩ | hsame
  · exact h.imp hσ.trans fun ⟨r, hρ, hsame⟩ => ⟨r', rfl, (hr r hρ).trans (hsame.trans hσ.symm)⟩
  · exact .inr ⟨r', rfl, hsame⟩

/-- A column that archiving leaves alone. -/
theorem Follows.archived {β : Type} {f : Container → β} (hf : ∀ c t, f (Container.archive c t) = f c)
    (h : Follows f fin ρ σ) (t : Time) : Follows f fin (ρ.map (·.archive t)) (σ.archive t) := by
  rcases h with h | ⟨r, hr, h⟩
  · exact .inl ((hf σ t).trans h)
  · exact .inr ⟨r.archive t, by rw [hr]; rfl, by rw [hf, hf, h]⟩

/-- **Both rows are archived**, at one instant. -/
theorem Retold.archived (h : Retold fin ρ σ) (t : Time) : Retold fin (ρ.map (·.archive t)) (σ.archive t) := by
  refine ⟨h.image.archived (archive_same fun _ _ => rfl) t, h.check.archived (archive_same fun _ _ => rfl) t, ?_,
    (archive_same (fun _ _ => rfl) σ t).trans h.rest⟩
  have hgone := gone_archive ρ t
  rcases h.archive with (hfin | ⟨r, hr, hsame⟩) | ⟨hne, hgone'⟩
  · cases hflag : σ.archived with
    | true =>
      rw [archive_of_archived t hflag]
      exact .inl (.inl hfin)
    | false =>
      have hfinal : fin.archived = false := (Prod.mk.inj hfin).1.symm.trans hflag
      refine .inr ⟨?_, hgone.trans (archive_archived σ t).symm⟩
      rw [archive_archived, hfinal]
      nofun
  · refine .inl (.inr ⟨r.archive t, by rw [hr]; rfl, ?_⟩)
    rw [archive_columns, archive_columns, hsame, (Prod.mk.inj hsame).1]
  · cases hflag : σ.archived with
    | true =>
      rw [archive_of_archived t hflag]
      exact .inr ⟨hne, hgone.trans hflag.symm⟩
    | false =>
      -- the first telling has the row, not archived either
      rw [hflag] at hgone'
      cases hr : ρ with
      | none =>
        rw [hr] at hgone'
        cases hgone'
      | some r =>
        rw [hr] at hgone'
        have hr' : r.archived = false := hgone'
        refine .inl (.inr ⟨r.archive t, rfl, ?_⟩)
        rw [archive_columns, archive_columns, hflag, hr']
        rfl

/-- The archive columns after a message that is not the last one. -/
def shown (archive : Bool × Option Int) : Bool × Option Int := (false, if archive.1 then none else archive.2)

/-- What such a message makes of a row: `r'` is the row after it. -/
structure Updated (ev : WireContainer) (ρ : Option Container) (r' : Container) : Prop where
  image : (∀ r, ρ = some r → ev.image = "" → r'.image = r.image) ∧ (ev.image ≠ "" → r'.image = ev.image)
  check : (∀ r, ρ = some r → ev.hasHealthCheck = false → r'.hasHealthCheck = r.hasHealthCheck) ∧
    (ev.hasHealthCheck = true → r'.hasHealthCheck = true)
  archive : r'.archive? = shown (archiveOf ρ)

theorem touched_image : (σ.touched ev).image = if ev.image = "" then σ.image else ev.image := rfl

theorem touched_check : (σ.touched ev).hasHealthCheck = (σ.hasHealthCheck || ev.hasHealthCheck) := rfl

theorem touched_columns : (σ.touched ev).archive? = shown σ.archive? := rfl

/-- **Both rows are brought up to date.** -/
theorem Retold.updated {r' : Container} (h : Retold fin ρ σ) (hr' : Updated ev ρ r') :
    Retold fin (some r') (σ.touched ev) := by
  refine ⟨h.image.next ?_, h.check.next ?_, ?_, h.rest⟩
  · by_cases hempty : ev.image = ""
    · exact .inl ⟨by rw [touched_image, if_pos hempty], fun r hr => hr'.image.1 r hr hempty⟩
    · exact .inr (by rw [hr'.image.2 hempty, touched_image, if_neg hempty])
  · cases hset : ev.hasHealthCheck with
    | false => exact .inl ⟨by rw [touched_check, hset, Bool.or_false], fun r hr => hr'.check.1 r hr hset⟩
    | true => exact .inr (by rw [hr'.check.2 hset, touched_check, hset, Bool.or_true])
  · cases hfinal : fin.archived with
    | true => exact .inr ⟨nofun, congrArg Prod.fst hr'.archive⟩
    | false =>
      refine .inl ?_
      rcases h.archive with (hfin | ⟨r, hr, hsame⟩) | ⟨hne, hgone⟩
      · have hflag : fin.archive?.1 = false := hfinal
        refine .inl ?_
        rw [touched_columns, hfin, shown, hflag]
        exact Prod.ext hflag.symm rfl
      · refine .inr ⟨r', rfl, ?_⟩
        rw [hr'.archive, hr, touched_columns, ← hsame]
        rfl
      · have hflag : σ.archive?.1 = true := Bool.eq_true_of_not_eq_false (hfinal ▸ hne)
        refine .inr ⟨r', rfl, ?_⟩
        rw [hr'.archive, touched_columns, shown, shown, hgone.trans hflag, hflag]
        rfl

/-- **The first row is swept**, the second is archived already. -/
theorem Retold.swept (h : Retold fin ρ σ) (hflag : σ.archived = true) (t : Time) :
    Retold fin (ρ.map (·.archive t)) σ := by
  have hagain := h.archived t
  rwa [archive_of_archived t hflag] at hagain

end Columns

/-! ## 3. Messages -/

section Messages

variable {env env' : Env} {s s' : Service} {agentID : String} {ev : WireContainer} {m m' : Meta}
  {id : ContainerID} {fin σ : Container}

variable {c : Container}

theorem after_soft (evt : ContainerEvent) {e : Effect} (hne : e ≠ .archive) :
    (c.after evt e).image = c.image ∧ (c.after evt e).hasHealthCheck = c.hasHealthCheck ∧
      (c.after evt e).archive? = c.archive? := by
  cases e with
  | archive => exact absurd rfl hne
  | keep | state | health => exact ⟨rfl, rfl, rfl⟩

/-- A message on a stored container. -/
theorem reported_updated (c : Container) : Updated ev (some c) (c.reported agentID ev m) := by
  obtain ⟨himage, hcheck, harchive⟩ := after_soft
    (ev.stateEvent agentID m) (stateEffect_ne_archive c.state)
  obtain ⟨himage', hcheck', harchive'⟩ := after_soft
    (healthEvent agentID ev m) (healthEffect_ne_archive c.healthStatus)
  have himage : (c.reported agentID ev m).image = if ev.image = "" then c.image else ev.image :=
    himage.trans himage'
  have hcheck : (c.reported agentID ev m).hasHealthCheck = (c.hasHealthCheck || ev.hasHealthCheck) :=
    hcheck.trans hcheck'
  refine ⟨⟨fun r hr hempty => ?_, fun hset => himage.trans (if_neg hset)⟩,
    ⟨fun r hr hnone => ?_, fun hset => ?_⟩, harchive.trans harchive'⟩
  · cases hr
    exact himage.trans (if_pos hempty)
  · cases hr
    rwa [hnone, Bool.or_false] at hcheck
  · rwa [hset, Bool.or_true] at hcheck

/-- The first message of a container. -/
theorem new_updated : Updated ev none (newAgentContainer env agentID ev m) := by
  refine ⟨⟨fun _ hr => (nomatch hr), fun _ => rfl⟩, ⟨fun _ hr => (nomatch hr), fun hset => ?_⟩, rfl⟩
  show (ev.hasHealthCheck || ev.healthStatus != "") = true
  rw [hset, Bool.true_or]

/-- The first telling: the row is there afterwards, up to date. -/
theorem take_updated (hid : ev.containerID ≠ "") (hlive : ev.destroyed = false)
    (hok : (s.handleAgentEvent env agentID ev m).2 = none) :
    ∃ r', (s.take env agentID m ev).containers.get ⟨uidAgent agentID, ev.containerID⟩ = some r' ∧
      Updated ev (s.containers.get ⟨uidAgent agentID, ev.containerID⟩) r' := by
  cases hc : s.containers.get ⟨uidAgent agentID, ev.containerID⟩ with
  | none =>
    have hhandle : s.handleAgentEvent env agentID ev m =
        s.insertAgentContainer env agentID ev m := by
      rw [handleAgentEvent_unknown hid hc, hlive]
      rfl
    have href : ¬ev.refused := by
      intro href
      rw [hhandle, insertAgentContainer_refused href] at hok
      cases hok
    refine ⟨newAgentContainer env agentID ev m, ?_, new_updated⟩
    rw [Service.take, hhandle, insertAgentContainer_get hc href, if_pos rfl]
  | some c =>
    refine ⟨c.reported agentID ev m, ?_, reported_updated c⟩
    rw [Service.take, handleAgentEvent_get hid hc hlive, if_pos (lookup_id hc).symm]

theorem take_archived (hid : ev.containerID ≠ "") (hgone : ev.destroyed = true) :
    (s.take env agentID m ev).containers.get ⟨uidAgent agentID, ev.containerID⟩ =
      (s.containers.get ⟨uidAgent agentID, ev.containerID⟩).map (·.archive (agentEventTime ev m)) := by
  cases hc : s.containers.get ⟨uidAgent agentID, ev.containerID⟩ with
  | none =>
    rw [Service.take, handleAgentEvent_unknown hid hc, hgone]
    exact hc
  | some c =>
    rw [Service.take, handleAgentEvent_destroyed hid hc hgone, archive_get (get_of_lookup hc),
      if_pos (lookup_id hc).symm]
    rfl

theorem take_frame (h : ev.containerID = "" ∨ id ≠ ⟨uidAgent agentID, ev.containerID⟩) :
    (s.take env agentID m ev).containers.get id = s.containers.get id := by
  rcases h with h | h
  · rw [Service.take, handleAgentEvent_nameless h]
  · exact handleAgentEvent_frame h

/-- **One message, told twice.** -/
theorem message_retold (hok : (s.handleAgentEvent env agentID ev m).2 = none)
    (hsettled : s'.Settled agentID ev) (htime : m'.observedAt = m.observedAt)
    (hσ : s'.containers.get id = some σ) (h : Retold fin (s.containers.get id) σ) :
    ∃ σ', (s'.take env' agentID m' ev).containers.get id = some σ' ∧
      Retold fin ((s.take env agentID m ev).containers.get id) σ' := by
  by_cases hframe : ev.containerID = "" ∨ id ≠ ⟨uidAgent agentID, ev.containerID⟩
  · refine ⟨σ, ?_, ?_⟩
    · rw [take_frame hframe, hσ]
    · rw [take_frame hframe]
      exact h
  obtain ⟨hid, hkey⟩ := not_or.mp hframe
  rw [not_not] at hkey
  subst hkey
  cases hgone : ev.destroyed with
  | true =>
    have hat : agentEventTime ev m' = agentEventTime ev m := by
      unfold agentEventTime
      rw [htime]
    refine ⟨σ.archive (agentEventTime ev m), ?_, ?_⟩
    · rw [take_archived hid hgone, hσ, hat]
      rfl
    · rw [take_archived hid hgone]
      exact h.archived _
  | false =>
    have hsame : ev.healthEffect σ.healthStatus = .keep ∧ ev.stateEffect σ.state = .keep := by
      have hs := (hsettled.resolve_left hid).resolve_left (by rw [hgone]; nofun)
      rwa [show s'.lookup agentID ev.containerID = some σ from hσ] at hs
    obtain ⟨r', hr', hupdated⟩ := take_updated hid hgone hok
    refine ⟨σ.touched ev, ?_, ?_⟩
    · rw [Service.take, handleAgentEvent_get hid hσ hgone, if_pos (lookup_id hσ).symm, Container.reported,
        Container.checked, hsame.1, hsame.2]
      rfl
    · rw [hr']
      exact h.updated hupdated

end Messages

/-! ## 4. Inventories -/

/-- A container of the agent that is not archived and not listed. -/
def Service.Omits (s : Service) (agentID : String) (live : List String) : Prop :=
  ∃ id c, s.containers.get id = some c ∧ c.archived = false ∧ c.id.agentID = agentID ∧
    live.contains c.id.externalID = false

section Inventories

variable {env env' : Env} {s s' : Service} {agentID : String} {m m' : Meta} {id : ContainerID}
  {fin σ : Container}

theorem reportAll_cons {ev : WireContainer} {evs : List WireContainer}
    (hok : (s.reportAll env agentID m (ev :: evs)).2 = none) : (s.handleAgentEvent env agentID ev m).2 = none ∧
      s.reportAll env agentID m (ev :: evs) = (s.take env agentID m ev).reportAll env agentID m evs := by
  rw [Service.reportAll] at hok ⊢
  unfold Service.take
  cases hone : s.handleAgentEvent env agentID ev m with
  | mk _ err =>
    rw [hone] at hok
    cases err with
    | none => exact ⟨rfl, rfl⟩
    | some => cases hok

/-- **The entries of an inventory, told twice.** -/
theorem entries_retold (htime : m'.observedAt = m.observedAt) (evs : List WireContainer)
    (hok : (s.reportAll env agentID m evs).2 = none) (hok' : (s'.reportAll env' agentID m' evs).2 = none)
    (hsettled : s'.SettledAll env' agentID m' evs)
    (hσ : s'.containers.get id = some σ) (h : Retold fin (s.containers.get id) σ) :
    ∃ σ', (s'.reportAll env' agentID m' evs).1.containers.get id = some σ' ∧
      Retold fin ((s.reportAll env agentID m evs).1.containers.get id) σ' := by
  induction evs generalizing s s' σ with
  | nil => exact ⟨σ, hσ, h⟩
  | cons ev _ ih =>
    obtain ⟨hone, hall⟩ := reportAll_cons hok
    obtain ⟨hone', hall'⟩ := reportAll_cons hok'
    obtain ⟨hnow, hlater⟩ := hsettled
    obtain ⟨σ₁, hσ₁, h₁⟩ : ∃ σ₁, (s'.take env' agentID m' ev).containers.get id = some σ₁ ∧ _ :=
      message_retold hone (hnow rfl) htime hσ h
    rw [hall] at hok ⊢
    rw [hall'] at hok' ⊢
    refine ih hok hok' ?_ hσ₁ h₁
    have hpair : reportStep env' agentID m' (s', none) ev = (s'.take env' agentID m' ev, none) :=
      Prod.ext rfl hone'
    rwa [hpair] at hlater

/-- The ids an inventory lists. -/
def WireInventory.live (inv : WireInventory) : List String :=
  (inv.containers.map WireContainer.containerID).filter (· ≠ "")

/-- The inventory has the container archived. -/
def WireInventory.sweeps (inv : WireInventory) (agentID : String) (id : ContainerID) : Bool :=
  id.agentID == agentID && !inv.live.contains id.externalID

theorem archiveMissing_at (inv : WireInventory) : (s.archiveMissing env agentID inv.live).containers.get id =
    if inv.sweeps agentID id then (s.containers.get id).map (·.archive env.now) else s.containers.get id := by
  rw [archiveMissing_get]
  cases hr : s.containers.get id with
  | none =>
    rw [Option.map_none, Option.map_none, ite_self]
  | some =>
    rw [Option.map_some, Container.swept, (Table.get_eq_some.mp hr).2, WireInventory.sweeps]
    split <;> rfl

/-- An inventory that is answered without an error: the entries, then the sweep. -/
theorem inventory_ok {inv : WireInventory} (hcounts : (inv.containers.isEmpty && !inv.complete) = false)
    (hok : (s.handleAgentInventory env agentID inv m).2 = none) :
      (s.reportAll env agentID m inv.containers).2 = none ∧ (s.handleAgentInventory env agentID inv m).1 =
        (s.reportAll env agentID m inv.containers).1.archiveMissing env agentID inv.live := by
  unfold Service.handleAgentInventory at hok ⊢
  rw [hcounts, if_neg Bool.false_ne_true] at hok ⊢
  cases hall : s.reportAll env agentID m inv.containers with
  | mk _ err =>
    rw [hall] at hok
    cases err with
    | none => exact ⟨rfl, rfl⟩
    | some => cases hok

/-- **An inventory, told twice**, when the second time nothing is archived by it. -/
theorem inventory_retold (htime : m'.observedAt = m.observedAt) (inv : WireInventory)
    (hok : (s.handleAgentInventory env agentID inv m).2 = none)
    (hok' : (s'.handleAgentInventory env' agentID inv m').2 = none)
    (hsettled : s'.SettledAll env' agentID m' inv.containers)
    (hlisted : (inv.containers.isEmpty && !inv.complete) = false →
      ¬(s'.reportAll env' agentID m' inv.containers).1.Omits agentID inv.live)
    (hσ : s'.containers.get id = some σ) (h : Retold fin (s.containers.get id) σ) :
    ∃ σ', (s'.handleAgentInventory env' agentID inv m').1.containers.get id = some σ' ∧
      Retold fin ((s.handleAgentInventory env agentID inv m).1.containers.get id) σ' := by
  cases hcounts : inv.containers.isEmpty && !inv.complete with
  | true =>
    refine ⟨σ, ?_, ?_⟩
    · rw [Service.handleAgentInventory, if_pos hcounts, hσ]
    · rw [Service.handleAgentInventory, if_pos hcounts]
      exact h
  | false =>
    obtain ⟨hall, hrun⟩ := inventory_ok hcounts hok
    obtain ⟨hall', hrun'⟩ := inventory_ok hcounts hok'
    obtain ⟨σ₁, hσ₁, h₁⟩ := entries_retold htime inv.containers hall hall' hsettled hσ h
    rw [hrun, hrun', archiveMissing_at, archiveMissing_at, hσ₁]
    cases hsweep : inv.sweeps agentID id with
    | false => exact ⟨σ₁, rfl, h₁⟩
    | true =>
      -- the second sweep passes the row by: it is archived
      obtain ⟨hagent, hout⟩ := Bool.and_eq_true_iff.mp hsweep
      have hid : σ₁.id = id := (Table.get_eq_some.mp hσ₁).2
      have hflag : σ₁.archived = true := by
        refine Bool.eq_true_of_not_eq_false fun hlive =>
          hlisted hcounts ⟨id, σ₁, hσ₁, hlive, ?_, ?_⟩
        · rw [hid]
          exact beq_iff_eq.mp hagent
        · rw [hid]
          exact Bool.not_eq_true' _ ▸ hout
      refine ⟨σ₁, ?_, h₁.swept hflag env.now⟩
      rw [if_pos rfl, Option.map_some, archive_of_archived _ hflag]

end Inventories

end Maintenant.Containers
