/-
  File:      Maintenant/Container/Growth.lean
  Subject:   WHAT A MESSAGE ADDS. Rows of containers are never deleted and transitions never
             rewritten: the two tables only grow. `Service.Within` is that order.

  * `take_grows`, `inventory_grows` -- a message and an inventory only add, and add nothing exactly
    when what they say is stored already (`Service.Settled`, `Service.SettledAll`).
-/
import Maintenant.Container.Agent
import Maintenant.Lib.Passes

namespace Maintenant.Containers

open GoTime Passes

/-! ## 1. The order -/

variable {P : Prop}

theorem append_prefix_self {α : Type} {l l' : List α} : l ++ l' <+: l ↔ l' = [] := by
  have h : l ++ l' <+: l ++ [] ↔ l' <+: [] := List.prefix_append_right_inj l
  rwa [List.append_nil, List.prefix_nil] at h

/-- What `s` holds is held by `s'`: its transitions, in order, and its containers. -/
structure Service.Within (s s' : Service) : Prop where
  transitions : s.transitions <+: s'.transitions
  ids : ∀ id, (s.containers.get id).isSome = true → (s'.containers.get id).isSome = true

theorem Service.Within.refl (s : Service) : s.Within s := ⟨List.prefix_refl _, fun _ h => h⟩

theorem Service.Within.trans {a b c : Service} (h : a.Within b) (h' : b.Within c) : a.Within c :=
  ⟨h.transitions.trans h'.transitions, fun id hid => h'.ids id (h.ids id hid)⟩

/-- From `s` to `s'` the tables grow, unless `P`. -/
structure Service.GrowsUnless (s s' : Service) (P : Prop) : Prop where
  grows : s.Within s'
  within : s'.Within s ↔ P

/-- Nothing is added. -/
theorem Service.GrowsUnless.of_eq {s s' : Service} (h : s' = s) (hP : P) : s.GrowsUnless s' P := by
  subst h
  exact ⟨.refl _, iff_of_true (.refl _) hP⟩

/-- The containers stay: it is a matter of the transitions. -/
theorem Service.GrowsUnless.of_ids {s s' : Service} {added : List StateTransition}
    (hids : ∀ id, (s'.containers.get id).isSome = (s.containers.get id).isSome)
    (htransitions : s'.transitions = s.transitions ++ added) (hP : added = [] ↔ P) : s.GrowsUnless s' P := by
  refine ⟨⟨⟨added, htransitions.symm⟩, fun id h => (hids id).trans h⟩, ?_⟩
  rw [← hP, ← append_prefix_self, ← htransitions]
  exact ⟨fun h => h.transitions, fun h => ⟨h, fun id hsome => (hids id).symm.trans hsome⟩⟩

/-- The message says what is stored. For a container that is not stored: it is gone, or its row is
    refused. -/
def Service.Settled (s : Service) (agentID : String) (ev : WireContainer) : Prop :=
  ev.containerID = "" ∨ ev.destroyed = true ∨
    match s.lookup agentID ev.containerID with
    | none => ev.refused
    | some c => ev.healthEffect c.healthStatus = .keep ∧ ev.stateEffect c.state = .keep

section Message

variable {env : Env} {s : Service} {agentID : String} {ev : WireContainer} {m : Meta} {c : Container}

theorem moves_eq_nil {evt : ContainerEvent} {e : Effect} (hne : e ≠ .archive) :
    c.moves env evt e = [] ↔ e = .keep := by
  cases e with
  | keep => exact iff_of_true rfl rfl
  | archive => exact absurd rfl hne
  | state | health => exact iff_of_false (List.cons_ne_nil _ _) nofun

theorem healthEffect_ne_archive (h : Option HealthStatus) : ev.healthEffect h ≠ .archive := by
  obtain h | ⟨new, h⟩ := healthEffect_cases ev h
  · rw [h]
    nofun
  · rw [h]
    nofun

theorem stateEffect_ne_archive (st : ContainerState) : ev.stateEffect st ≠ .archive := by
  obtain h | ⟨new, h⟩ := stateEffect_cases ev st
  · rw [h]
    nofun
  · rw [h]
    nofun

theorem insertContainer_transitions (s : Service) (c : Container) :
    (s.insertContainer c).transitions = s.transitions := by
  unfold Service.insertContainer
  split <;> rfl

theorem insertAgentContainer_transitions (h : ¬ev.refused) :
    s.transitions <+: (s.insertAgentContainer env agentID ev m).1.transitions := by
  unfold Service.insertAgentContainer
  rw [if_neg h]
  show _ <+: (ite _ _ _ : Service).transitions
  split
  · exact ⟨[], by rw [List.append_nil, insertContainer_transitions]⟩
  · show _ <+: (s.insertContainer _).transitions ++ [_]
    rw [insertContainer_transitions]
    exact List.prefix_append _ _

/-- A row written to its own place keeps the ids. -/
theorem isSome_ite {id : ContainerID} {r r' : Container} (hr : s.containers.get r.id = some r) :
    (if id = r.id then some r' else s.containers.get id).isSome = (s.containers.get id).isSome := by
  split
  · next e =>
    rw [e, hr]
    rfl
  · rfl

variable (hid : ev.containerID ≠ "")

include hid

theorem take_unknown (hc : s.lookup agentID ev.containerID = none) :
    s.GrowsUnless (s.take env agentID m ev) (ev.destroyed = true ∨ ev.refused) := by
  unfold Service.take
  rw [handleAgentEvent_unknown hid hc]
  cases ev.destroyed with
  | true => exact .of_eq rfl (.inl rfl)
  | false =>
    rw [if_neg Bool.false_ne_true, or_iff_right Bool.false_ne_true]
    by_cases href : ev.refused
    · exact .of_eq (by rw [insertAgentContainer_refused href]) href
    have hget : ∀ id, (s.insertAgentContainer env agentID ev m).1.containers.get id = _ :=
      insertAgentContainer_get hc href
    refine ⟨⟨insertAgentContainer_transitions href, fun id hsome => ?_⟩,
      iff_of_false (fun h => ?_) href⟩
    · rw [hget]
      split
      · rfl
      · exact hsome
    · have hnew := h.ids ⟨uidAgent agentID, ev.containerID⟩ (by rw [hget, if_pos rfl]; rfl)
      simp [show s.containers.get _ = none from hc] at hnew

theorem take_destroyed (hc : s.lookup agentID ev.containerID = some c)
    (hgone : ev.destroyed = true) (hP : P) : s.GrowsUnless (s.take env agentID m ev) P := by
  unfold Service.take
  rw [handleAgentEvent_destroyed hid hc hgone]
  refine .of_ids (fun id => ?_) (List.append_nil _).symm (iff_of_true rfl hP)
  rw [archive_get (get_of_lookup hc), isSome_ite (get_of_lookup hc)]

theorem take_live (hc : s.lookup agentID ev.containerID = some c)
    (hlive : ev.destroyed = false) : s.GrowsUnless (s.take env agentID m ev)
      (ev.healthEffect c.healthStatus = .keep ∧ ev.stateEffect c.state = .keep) := by
  have htransitions : (s.take env agentID m ev).transitions = s.transitions ++
      ((c.touched ev).moves env (healthEvent agentID ev m) (ev.healthEffect c.healthStatus) ++
        (c.checked agentID ev m).moves env (ev.stateEvent agentID m) (ev.stateEffect c.state)) := by
    unfold Service.take
    rw [handleAgentEvent_stored hid hc hlive, apply_transitions, apply_transitions, touch_transitions,
      List.append_assoc]
  refine .of_ids (fun id => ?_) htransitions ?_
  · unfold Service.take
    rw [handleAgentEvent_get hid hc hlive, isSome_ite (get_of_lookup hc)]
  · rw [List.append_eq_nil_iff, moves_eq_nil (healthEffect_ne_archive _),
      moves_eq_nil (stateEffect_ne_archive _)]

omit hid

/-- **What one message adds.** -/
theorem take_grows (env : Env) (s : Service) (agentID : String) (m : Meta) (ev : WireContainer) :
    s.GrowsUnless (s.take env agentID m ev) (s.Settled agentID ev) := by
  unfold Service.Settled
  by_cases hid : ev.containerID = ""
  · refine .of_eq ?_ (.inl hid)
    rw [Service.take, handleAgentEvent_nameless hid]
  rw [or_iff_right hid]
  cases hc : s.lookup agentID ev.containerID with
  | none => exact take_unknown hid hc
  | some =>
    cases hgone : ev.destroyed with
    | true => exact take_destroyed hid hc hgone (.inl rfl)
    | false =>
      rw [or_iff_right Bool.false_ne_true]
      exact take_live hid hc hgone

end Message

/-! ## 2. An inventory -/

/-- The reported containers, as a pass that an error ends. -/
def reportStep (env : Env) (agentID : String) (m : Meta) (p : Service × Option AgentError)
    (ev : WireContainer) : Service × Option AgentError :=
  match p.2 with
  | some _ => p
  | none => p.1.handleAgentEvent env agentID ev m

/-- Every entry says what is stored, up to the first that is answered with an error. -/
def Service.SettledAll (env : Env) (s : Service) (agentID : String) (m : Meta)
    (evs : List WireContainer) : Prop :=
  Along (reportStep env agentID m) (fun p ev => p.2 = none → p.1.Settled agentID ev) (s, none) evs

section Inventory

variable {env : Env} {s : Service} {agentID : String} {m : Meta}

theorem reportStep_error (err : AgentError) (evs : List WireContainer) :
    evs.foldl (reportStep env agentID m) (s, some err) = (s, some err) := by
  induction evs with
  | nil => rfl
  | cons _ _ ih => exact ih

theorem reportAll_eq (evs : List WireContainer) :
    s.reportAll env agentID m evs = evs.foldl (reportStep env agentID m) (s, none) := by
  induction evs generalizing s with
  | nil => rfl
  | cons ev evs ih =>
    rw [Service.reportAll, List.foldl_cons]
    show _ = evs.foldl _ (s.handleAgentEvent env agentID ev m)
    split
    · next h =>
      rw [h]
      exact ih
    · next h =>
      rw [h]
      exact (reportStep_error _ evs).symm

theorem reportStep_grows (p : Service × Option AgentError) (ev : WireContainer) :
    p.1.GrowsUnless (reportStep env agentID m p ev).1 (p.2 = none → p.1.Settled agentID ev) := by
  obtain ⟨s, _ | err⟩ := p
  · have h := take_grows env s agentID m ev
    exact ⟨h.grows, h.within.trans ⟨fun hs _ => hs, fun hs => hs rfl⟩⟩
  · exact .of_eq rfl nofun

/-- **What the entries of an inventory add.** -/
theorem reportAll_grows (evs : List WireContainer) :
    s.GrowsUnless (s.reportAll env agentID m evs).1 (s.SettledAll env agentID m evs) := by
  rw [reportAll_eq]
  constructor
  · exact le_foldl (fun p q => p.1.Within q.1) (fun p => .refl p.1) (fun _ _ _ => .trans)
      (fun p ev => (reportStep_grows p ev).grows) evs (s, none)
  · refine (foldl_grows (fun p q => p.1.Within q.1) (fun p => .refl p.1) (fun _ _ _ => .trans)
      fun p ev => (reportStep_grows p ev).grows).trans ?_
    exact along_congr fun p ev _ => (reportStep_grows p ev).within

theorem sweepAll_transitions (now : Time) (live : List String) (cs : List Container) :
    ∀ s : Service, (cs.foldl (Service.sweep now live) s).transitions = s.transitions := by
  induction cs with
  | nil => exact fun s => rfl
  | cons _ _ ih =>
    intro s
    rw [List.foldl_cons, ih]
    unfold Service.sweep
    split <;> rfl

/-- Archiving adds nothing. -/
theorem archiveMissing_within (live : List String) :
    s.Within (s.archiveMissing env agentID live) ∧ (s.archiveMissing env agentID live).Within s := by
  have htransitions : (s.archiveMissing env agentID live).transitions = s.transitions :=
    sweepAll_transitions env.now live _ s
  have hids : ∀ id, ((s.archiveMissing env agentID live).containers.get id).isSome =
      (s.containers.get id).isSome := fun id => by
    rw [archiveMissing_get, Option.isSome_map]
  exact ⟨⟨htransitions ▸ List.prefix_refl _, fun id h => (hids id).trans h⟩,
    ⟨htransitions ▸ List.prefix_refl _, fun id h => (hids id).symm.trans h⟩⟩

/-- **What an inventory adds.** -/
theorem inventory_grows (inv : WireInventory) : s.GrowsUnless (s.handleAgentInventory env agentID inv m).1
      (s.SettledAll env agentID m inv.containers) := by
  have hentries : s.GrowsUnless (s.reportAll env agentID m inv.containers).1 _ :=
    reportAll_grows inv.containers
  unfold Service.handleAgentInventory
  split
  · next h =>
    have hnil := List.isEmpty_iff.mp (Bool.and_eq_true_iff.mp h).1
    rw [hnil]
    exact .of_eq rfl trivial
  · split
    · next hrun =>
      rw [hrun] at hentries
      exact hentries
    · next s' hrun =>
      rw [hrun] at hentries
      obtain ⟨hout, hback⟩ : s'.Within (s'.archiveMissing env agentID _) ∧ _ :=
        archiveMissing_within ((inv.containers.map WireContainer.containerID).filter (· ≠ ""))
      refine ⟨hentries.grows.trans hout, ?_⟩
      rw [← hentries.within]
      exact ⟨hout.trans, hback.trans⟩

end Inventory

end Maintenant.Containers
