/-
  File:      Maintenant/Update/Summary.lean
  Subject:   THE UPDATE SUMMARY (internal/store/updates.go: `GetUpdateSummary`).

  The containers that are up to date are the running ones less the findings, whichever containers these are of.

  * `summary_counts_iff` -- when that is the number of containers without a finding.
-/
import Maintenant.Container.Model

namespace Maintenant.Updates

open Containers

/-- The columns of image_updates that the summary reads. -/
structure SummaryRow where
  containerID : String
  status : String
  riskScore : Int
deriving DecidableEq, Repr

inductive RowClass where
  | critical
  | recommended
  | available
  | pinned
deriving DecidableEq, Repr

/-- The two switches of the loop. -/
def SummaryRow.cls (u : SummaryRow) : Option RowClass :=
  if u.status = "pinned" then some .pinned
  else if u.status = "available" ∨ u.status = "dismissed" then
    some (if 81 ≤ u.riskScore then .critical else if 31 ≤ u.riskScore then .recommended else .available)
  else none

structure UpdateSummary where
  critical : Nat
  recommended : Nat
  available : Nat
  upToDate : Nat
  pinned : Nat
deriving DecidableEq, Repr

def UpdateSummary.add (s : UpdateSummary) (u : SummaryRow) : UpdateSummary :=
  match u.cls with
  | some .critical => { s with critical := s.critical + 1 }
  | some .recommended => { s with recommended := s.recommended + 1 }
  | some .available => { s with available := s.available + 1 }
  | some .pinned => { s with pinned := s.pinned + 1 }
  | none => s

section

variable (containers : Table Container.id) (updates : List SummaryRow)

/-- The findings under `liveContainerFilter`. -/
def liveRows : List SummaryRow :=
  updates.filter fun u => containers.rows.any fun c => c.id.externalID == u.containerID && !c.archived

def runningContainers : List Container := containers.rows.filter fun c => c.state == .running && !c.archived

def getUpdateSummary : UpdateSummary :=
  let rows := liveRows containers updates
  -- a difference below 0 counts as 0
  { rows.foldl UpdateSummary.add ⟨0, 0, 0, 0, 0⟩ with
    upToDate := (runningContainers containers).length - rows.length }

def hasFinding (c : Container) : Bool := updates.any fun u => c.id.externalID == u.containerID

end

/-- The counter of a class. -/
def UpdateSummary.of (s : UpdateSummary) : RowClass → Nat
  | .critical => s.critical
  | .recommended => s.recommended
  | .available => s.available
  | .pinned => s.pinned

theorem foldl_add_of (rows : List SummaryRow) (s : UpdateSummary) (k : RowClass) :
    (rows.foldl UpdateSummary.add s).of k = s.of k + rows.countP fun u => u.cls = some k := by
  induction rows generalizing s with
  | nil => rfl
  | cons u rows ih =>
    have hone : (s.add u).of k = s.of k + if u.cls = some k then 1 else 0 := by
      unfold UpdateSummary.add
      rcases u.cls with _ | c
      · rfl
      · cases c <;> cases k <;> rfl
    rw [List.foldl_cons, ih, hone, List.countP_cons]
    simp only [decide_eq_true_eq]
    omega

variable (containers : Table Container.id) (updates : List SummaryRow)

/-- **The summary counts the live findings of each class, and the running containers without a finding**, exactly when
there are as many live findings as running containers with one, or enough and no running container without. -/
theorem summary_counts_iff :
    ((∀ k, (getUpdateSummary containers updates).of k =
        (liveRows containers updates).countP fun u => u.cls = some k) ∧
      (getUpdateSummary containers updates).upToDate =
        (runningContainers containers).countP fun c => ¬ hasFinding updates c) ↔
    (liveRows containers updates).length = (runningContainers containers).countP (hasFinding updates) ∨
      (∀ c ∈ runningContainers containers, hasFinding updates c) ∧
        (runningContainers containers).length ≤ (liveRows containers updates).length := by
  have hclass : ∀ k, (getUpdateSummary containers updates).of k =
      (liveRows containers updates).countP fun u => u.cls = some k := by
    intro k
    have hcount := foldl_add_of (liveRows containers updates) ⟨0, 0, 0, 0, 0⟩ k
    cases k <;> exact hcount.trans (Nat.zero_add _)
  have hsplit := List.length_eq_countP_add_countP (hasFinding updates) (l := runningContainers containers)
  rw [and_iff_right hclass, ← List.countP_eq_length]
  unfold getUpdateSummary
  dsimp only
  omega

/-- A container of the local runtime. -/
def plainContainer (name : String) (state : ContainerState) : Container :=
  ⟨⟨"", name⟩, name, "", state, none, false, "", "", "", "", false, .warning, 0, "", false, none, 0, 0,
    "docker", 0, 0⟩

/-- **The finding of a stopped container hides a running one that is up to date.** -/
theorem stopped_finding_counted :
    let containers : Table Container.id := ⟨[plainContainer "web" .running, plainContainer "db" .exited], by decide⟩
    let updates : List SummaryRow := [⟨"db", "available", 50⟩]
    (getUpdateSummary containers updates).upToDate = 0 ∧
      (runningContainers containers).countP (fun c => ¬ hasFinding updates c) = 1 := by
  decide

end Maintenant.Updates
