/-
  File:      Maintenant/Container/Inventory.lean
  Subject:   AN INVENTORY AND THE AGENT'S CONTAINERS (internal/container/agent_event.go:
             `HandleAgentInventory`).

  * `take_standing` -- one entry: a container stands after it unless the entry calls it destroyed;
  * **`inventory_authoritative`** -- after an inventory the agent's containers are those it lists, by
    their last entries, and the rows of other agents are as they were.
-/
import Maintenant.Container.Agent

namespace Maintenant.Containers

/-- The container is stored, and not archived. -/
def Service.standing (s : Service) (id : ContainerID) : Bool := (s.containers.get id).any fun c => !c.archived

/-- The last entry of a container. -/
def lastEntry (evs : List WireContainer) (externalID : String) : Option WireContainer :=
  (evs.filter fun ev => ev.containerID = externalID).getLast?

section Inventory

variable {env : Env} {s : Service} {agentID : String} {m : Meta} {ev : WireContainer}

theorem reported_unarchived (c : Container) : (c.reported agentID ev m).archived = false := by
  rw [Container.reported, Container.checked]
  rcases healthEffect_cases ev c.healthStatus with hh | ⟨_, hh⟩ <;>
    rcases stateEffect_cases ev c.state with hs | ⟨_, hs⟩ <;> rw [hh, hs] <;> rfl

/-- One entry that is answered without an error. -/
theorem take_standing (hok : (s.handleAgentEvent env agentID ev m).2 = none) {externalID : String}
    (hid : externalID ≠ "") : (s.take env agentID m ev).standing ⟨uidAgent agentID, externalID⟩ =
      if ev.containerID = externalID then !ev.destroyed else s.standing ⟨uidAgent agentID, externalID⟩ := by
  unfold Service.standing Service.take
  split
  · next hev =>
    subst hev
    cases hc : s.lookup agentID ev.containerID with
    | none =>
      rw [handleAgentEvent_unknown hid hc] at hok ⊢
      cases hgone : ev.destroyed with
      | true => simp [show s.containers.get _ = none from hc]
      | false =>
        simp only [hgone, Bool.false_eq_true, if_false] at hok ⊢
        have href : ¬ev.refused := fun h => by simp [insertAgentContainer_refused h] at hok
        rw [insertAgentContainer_get hc href, if_pos rfl]
        rfl
    | some =>
      rw [← lookup_id hc]
      cases hgone : ev.destroyed with
      | true => simp [handleAgentEvent_destroyed hid hc hgone, archive_get (get_of_lookup hc), archive_archived]
      | false => simp [handleAgentEvent_get hid hc hgone, reported_unarchived]
  · next hev =>
    rw [handleAgentEvent_frame]
    simpa using Ne.symm hev

/-- The entries one after the other, if none is answered with an error. -/
theorem reportAll_standing {externalID : String} (hid : externalID ≠ "") (evs : List WireContainer) :
    ∀ s : Service, (s.reportAll env agentID m evs).2 = none →
      (s.reportAll env agentID m evs).1.standing ⟨uidAgent agentID, externalID⟩ =
        ((lastEntry evs externalID).map fun ev => !ev.destroyed).getD
        (s.standing ⟨uidAgent agentID, externalID⟩) := by
  induction evs with
  | nil => intro s _; rfl
  | cons ev _ ih =>
    intro s hok
    rw [Service.reportAll] at hok ⊢
    split at hok
    · next s' hs' =>
      have hstep := take_standing (congrArg Prod.snd hs') hid
      rw [Service.take, hs'] at hstep
      rw [ih s' hok, hstep, lastEntry, lastEntry, List.filter_cons]
      by_cases hev : ev.containerID = externalID <;> simp [hev, List.getLast?_cons]
    · cases hok

theorem reportAll_frame {id : ContainerID} (hagent : id.agentID ≠ uidAgent agentID) (evs : List WireContainer) :
    ∀ s : Service, (s.reportAll env agentID m evs).1.containers.get id = s.containers.get id := by
  induction evs with
  | nil => intro s; rfl
  | cons ev _ ih =>
    intro s
    have hframe : (s.handleAgentEvent env agentID ev m).1.containers.get id = s.containers.get id :=
      handleAgentEvent_frame fun e => hagent (congrArg ContainerID.agentID e)
    rw [Service.reportAll]
    split
    · next s' hs' =>
      rw [hs'] at hframe
      exact (ih s').trans hframe
    · next s' _ hs' =>
      rw [hs'] at hframe
      exact hframe

theorem archive_standing {id : ContainerID} {live : List String} : (s.archiveMissing env agentID live).standing id =
      (s.standing id && !(id.agentID == agentID && !live.contains id.externalID)) := by
  unfold Service.standing
  rw [archiveMissing_get]
  cases hget : s.containers.get id with
  | none => rfl
  | some c =>
    have hid : c.id = id := (Table.get_eq_some.mp hget).2
    rw [Option.map_some, Option.any_some, Option.any_some, Container.swept, hid]
    generalize (id.agentID == agentID && !live.contains id.externalID) = omitted
    cases omitted <;> simp [archive_archived]

/-- **An inventory is authoritative for its agent, and for no other.** -/
theorem inventory_authoritative (env : Env) (s : Service) {agentID : String} (inv : WireInventory) (m : Meta)
    (hagent : uidAgent agentID = agentID) :
    (inv.containers = [] → inv.complete = false → s.handleAgentInventory env agentID inv m = (s, none)) ∧
    (inv.containers ≠ [] ∨ inv.complete = true → (s.handleAgentInventory env agentID inv m).2 = none →
      ∀ externalID, (s.handleAgentInventory env agentID inv m).1.standing ⟨agentID, externalID⟩ = true ↔
        externalID ≠ "" ∧ ∃ ev, lastEntry inv.containers externalID = some ev ∧ ev.destroyed = false) ∧
    ∀ id, id.agentID ≠ agentID →
      (s.handleAgentInventory env agentID inv m).1.containers.get id = s.containers.get id := by
  unfold Service.handleAgentInventory
  refine ⟨fun hempty hincomplete => by simp [hempty, hincomplete], fun hacts hok externalID => ?_, fun id hid => ?_⟩
  · have hgo : ¬(inv.containers.isEmpty && !inv.complete) = true := by
      rcases hacts with h | h <;> simp [h]
    rw [if_neg hgo] at hok ⊢
    split at hok
    · cases hok
    · next s' hs' =>
      rw [archive_standing]
      have hlast : externalID ≠ "" → s'.standing ⟨agentID, externalID⟩ = _ := fun hid => by
        simpa only [hs', hagent] using reportAll_standing hid inv.containers s (congrArg Prod.snd hs')
      have hlive : (∃ ev ∈ inv.containers, ev.containerID = externalID) ↔
          (lastEntry inv.containers externalID).isSome = true := by
        simp [lastEntry]
      by_cases hid : externalID = ""
      · simp [hid]
      · cases hentry : lastEntry inv.containers externalID <;> simp_all
  · split
    · rfl
    · have hframe : (s.reportAll env agentID m inv.containers).1.containers.get id = _ :=
        reportAll_frame (hagent.symm ▸ hid) inv.containers s
      split
      · next hs' => rw [← hframe, hs']
      · next s' hs' =>
        rw [archiveMissing_get, ← hframe, hs']
        cases hget : s'.containers.get id with
        | none => rfl
        | some => simp [Container.swept, (Table.get_eq_some.mp hget).2, hid]

end Inventory

/-- An entry of an inventory: a container that runs, or one that is gone. -/
def sampleEntry (externalID : String) (destroyed : Bool) : WireContainer :=
  ⟨externalID, externalID, "nginx", .running, "", ∅, "", false, destroyed, none⟩

theorem inventory_takes_over :
    let r := (sampleService "a1").handleAgentInventory sampleEnv "a1" ⟨[sampleEntry "db" false], true⟩
      ⟨0, false⟩
    r.2 = none ∧ ∀ externalID, r.1.standing ⟨"a1", externalID⟩ = true ↔
      externalID ≠ "" ∧ ∃ ev, lastEntry [sampleEntry "db" false] externalID = some ev ∧ ev.destroyed = false :=
  ⟨by decide,
    (inventory_authoritative sampleEnv (sampleService "a1") ⟨[sampleEntry "db" false], true⟩ ⟨0, false⟩
    (by decide)).2.1 (.inr rfl) (by decide)⟩

/-- An entry that calls its container destroyed retires it. -/
theorem inventory_lists_destroyed :
    let r := (sampleService "a1").handleAgentInventory sampleEnv "a1" ⟨[sampleEntry "web" true], true⟩
      ⟨0, false⟩
    r.2 = none ∧ r.1.standing ⟨"a1", "web"⟩ = false := by
  decide

end Maintenant.Containers
