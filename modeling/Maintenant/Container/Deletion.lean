/-
  File:      Maintenant/Container/Deletion.lean
  Subject:   DELETING CONTAINERS (internal/store/containers.go: `DeleteContainerByID`,
             `DeleteArchivedContainersBefore`).

  Four tables of findings are keyed by the runtime's id of a container and not by its row. Both
  functions delete from them, one statement each, and then the rows of containers; a statement that
  fails ends the call. What the foreign keys cascade to belongs to the row, and is left out.

  * **`deletion_spares_iff`** -- the findings of the containers that remain are spared exactly when
    none of them has the runtime's id of one that is deleted, or of one the call stopped before.
-/
import Maintenant.Container.Agent

namespace Maintenant.Containers

open GoTime

/-- The tables keyed by the runtime's id, in the order of the statements. -/
inductive Findings where
  | imageUpdates
  | containerCves
  | versionPins
  | riskScoreHistory
deriving DecidableEq, Repr

def Findings.place : Findings → Nat
  | imageUpdates => 0
  | containerCves => 1
  | versionPins => 2
  | riskScoreHistory => 3

/-- A row of one of them; `container_id` is the runtime's id. -/
structure Finding where
  id : String
  table : Findings
  containerID : String
deriving DecidableEq, Repr

structure Rows where
  containers : Table Container.id
  findings : List Finding

/-- What a failed statement is reported as. -/
def statementDescs : List String := ["image updates", "container cves", "version pins", "risk score history"]

/-- The error of the statement in place `done`, the first to fail. -/
def failure (what : String) (done : Nat) : Option String :=
  if 4 < done then none else some ((statementDescs[done]?.map fun desc => what ++ " " ++ desc).getD what)

/-- The five statements of both functions, of which the first `done` succeed. -/
def Rows.purge (s : Rows) (doomed : Container → Bool) (done : Nat) : Rows where
  containers := if 4 < done then s.containers.delete doomed else s.containers
  findings := s.findings.filter fun r => !(decide (r.table.place < done) &&
    s.containers.rows.any fun c => doomed c && c.id.externalID == r.containerID)

def deleteContainerByID (s : Rows) (id : ContainerID) (done : Nat) : Rows × Option String :=
  match s.containers.get id with
  | none => (s, some "get container external_id")
  | some c => (s.purge (fun r => r.id == c.id) done, failure "delete container" done)

/-- `archived=1 AND archived_at<? AND archived_at IS NOT NULL`. -/
def Container.archivedBefore (before : Time) (c : Container) : Bool :=
  c.archived && c.archivedAt.any fun at_ => at_ < unix before

def deleteArchivedContainersBefore (s : Rows) (before : Time) (done : Nat) : Rows × Nat × Option String :=
  let err := failure "delete archived containers" done
  (s.purge (Container.archivedBefore before) done,
    if err = none then s.containers.count (Container.archivedBefore before) else 0, err)

def Rows.findingsOf (s : Rows) (c : Container) : List Finding :=
  s.findings.filter fun r => r.containerID == c.id.externalID

/-- A deletion takes the findings of the containers it deletes, and no others. -/
structure Spares (s s' : Rows) : Prop where
  only : ∀ r ∈ s.findings, r ∉ s'.findings →
    ∃ c ∈ s.containers, c ∉ s'.containers ∧ c.id.externalID = r.containerID
  keeps : ∀ c ∈ s'.containers, s'.findingsOf c = s.findingsOf c

/-- No finding that the statements reach has the runtime's id of a container that is to go and of one
    that stays; all of them stay when a statement fails. -/
def Apart (s : Rows) (doomed : Container → Bool) (done : Nat) : Prop :=
  ∀ r ∈ s.findings, r.table.place < done →
    ∀ d ∈ s.containers, doomed d = true → d.id.externalID = r.containerID →
      ∀ c ∈ s.containers, c.id.externalID = r.containerID → 4 < done ∧ doomed c = true

section Purge

variable {s : Rows} {doomed : Container → Bool} {done : Nat}

theorem mem_purge_containers {c : Container} :
    c ∈ (s.purge doomed done).containers ↔ c ∈ s.containers ∧ (4 < done → doomed c = false) := by
  unfold Rows.purge
  by_cases h : 4 < done <;> simp [h, Table.mem_delete]

theorem mem_purge_findings {r : Finding} : r ∈ (s.purge doomed done).findings ↔ r ∈ s.findings ∧
    ¬(r.table.place < done ∧ ∃ d ∈ s.containers, doomed d = true ∧ d.id.externalID = r.containerID) := by
  simp [Rows.purge, Table.mem_rows, imp_iff_not_or]

theorem purge_spares_iff : Spares s (s.purge doomed done) ↔ Apart s doomed done := by
  constructor
  · rintro ⟨-, hkeeps⟩ r hr hplace d hd hdoomed hdr c hc hcr
    -- a container with the finding's id that stays would have lost it
    by_contra hstays
    have hc' : c ∈ (s.purge doomed done).containers :=
      mem_purge_containers.mpr ⟨hc, fun h => Bool.eq_false_iff.mpr fun hcd => hstays ⟨h, hcd⟩⟩
    have hmine : r ∈ s.findingsOf c := by simp [Rows.findingsOf, hr, hcr]
    rw [← hkeeps c hc'] at hmine
    exact (mem_purge_findings.mp (List.mem_filter.mp hmine).1).2 ⟨hplace, d, hd, hdoomed, hdr⟩
  · intro hapart
    refine ⟨fun r hr hgone => ?_, fun c hc => ?_⟩
    · have hpurged := not_and_not_right.mp (mt mem_purge_findings.mpr hgone) hr
      obtain ⟨hplace, d, hd, hdoomed, hdr⟩ := hpurged
      have hall := hapart r hr hplace d hd hdoomed hdr d hd hdr
      refine ⟨d, hd, fun hd' => ?_, hdr⟩
      exact Bool.noConfusion (hdoomed.symm.trans ((mem_purge_containers.mp hd').2 hall.1))
    · obtain ⟨hc, hstays⟩ := mem_purge_containers.mp hc
      rw [Rows.findingsOf, Rows.findingsOf, Rows.purge, List.filter_filter]
      refine List.filter_congr fun r hr => ?_
      by_cases hcr : c.id.externalID = r.containerID
      · -- the finding is the container's: no statement reaches it
        have hkept : ¬(r.table.place < done ∧
            ∃ d ∈ s.containers, doomed d = true ∧ d.id.externalID = r.containerID) := by
          rintro ⟨hplace, d, hd, hdoomed, hdr⟩
          obtain ⟨h, hcd⟩ := hapart r hr hplace d hd hdoomed hdr c hc hcr
          exact Bool.noConfusion (hcd.symm.trans (hstays h))
        have hmem := List.mem_filter.mp (mem_purge_findings.mpr ⟨hr, hkept⟩)
        rw [hmem.2, Bool.and_true]
      · simp [Ne.symm hcr]

end Purge

/-- **A deletion spares what is not its own exactly when the runtime's ids keep it apart.** -/
theorem deletion_spares_iff (s : Rows) (done : Nat) :
    (∀ id, Spares s (deleteContainerByID s id done).1 ↔ Apart s (fun c => c.id == id) done) ∧
    ∀ before, Spares s (deleteArchivedContainersBefore s before done).1 ↔
      Apart s (Container.archivedBefore before) done := by
  refine ⟨fun id => ?_, fun before => purge_spares_iff⟩
  unfold deleteContainerByID
  cases hget : s.containers.get id with
  | none =>
    refine iff_of_true ⟨fun r hr hgone => absurd hr hgone, fun _ _ => rfl⟩ ?_
    intro r _ _ d hd hdoomed
    exact absurd (beq_iff_eq.mp hdoomed) (Table.hasKey_eq_false.mp (Table.get_eq_none.mp hget) d hd)
  | some =>
    rw [← (Table.get_eq_some.mp hget).2]
    exact purge_spares_iff

/-- One workload id on two agents, and an image update of it. -/
def twoAgents : Rows := ⟨⟨[sampleRow "a1", sampleRow "a2"], by decide⟩, [⟨"u1", .imageUpdates, "web"⟩]⟩

/-- Deleting the container of one agent takes the image update from the other's, which remains. -/
theorem deletion_takes_from_other_agent :
    (deleteContainerByID twoAgents ⟨"a1", "web"⟩ 5).2 = none ∧
      sampleRow "a2" ∈ (deleteContainerByID twoAgents ⟨"a1", "web"⟩ 5).1.containers ∧
      twoAgents.findingsOf (sampleRow "a2") = [⟨"u1", .imageUpdates, "web"⟩] ∧
      (deleteContainerByID twoAgents ⟨"a1", "web"⟩ 5).1.findingsOf (sampleRow "a2") = [] := by
  decide

end Maintenant.Containers
