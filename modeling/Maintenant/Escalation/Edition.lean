/-
  File:      Maintenant/Escalation/Edition.lean
  Subject:   THE EDITION GOES DOWN AND UP AGAIN (internal/alert/escalation/service.go:
             `OnEditionDowngraded`, `OnEditionUpgraded`; internal/extension/edition.go;
             `wireLicenseSubscriber` of internal/app/wiring.go).

  * `Asleep t t'` -- `t'` is the policy table `t` put to sleep: its active policies are inactive
    and remember it;
  * `downgrade_upgrade_restores` -- after any number of downgrades, one upgrade gives back the
    policies as they were; in between nothing is active and no run is live;
  * `edition_changes_restore` -- so it is for every sequence of editions the license goes through.
-/
import Maintenant.Escalation.Runner

namespace Maintenant.Escalation

open Prog Runs

/-! ## 1. Editions -/

/-- The three editions, in order, and every other text. -/
inductive Edition where
  | community
  | personal
  | pro
  | unknown (text : String)
deriving DecidableEq, Repr

def Edition.rank : Edition → Int
  | .community => 0
  | .personal => 1
  | .pro => 2
  | .unknown _ => -1

/-- False as soon as either side is not known. -/
def Edition.atLeast (e other : Edition) : Bool :=
  if e.rank < 0 ∨ other.rank < 0 then false else decide (other.rank ≤ e.rank)

/-- `extension.MinEdition(extension.CapAlertEscalation)`. -/
def required : Edition := .pro

/-! ## 2. Policies asleep -/

variable {t : PolicyTable}

/-- `OnEditionUpgraded`: one statement, which may fail. -/
def onEditionUpgraded (fails : Bool) (w : World) : World :=
  if fails then w else { w with policies := bulkRestorePoliciesFromDowngrade w.policies }

/-- The table with its active policies put to sleep. -/
structure Asleep (t t' : PolicyTable) : Prop where
  inactive : ∀ p ∈ t', p.active = false
  wakes : bulkRestorePoliciesFromDowngrade t' = t

theorem table_ext {t' : PolicyTable} (h : t.rows = t'.rows) : t = t' := by
  cases t
  cases t'
  cases h
  rfl

/-- A table with no flag left over is put to sleep by one statement, -/
theorem asleep_deactivate (h : ∀ p ∈ t, p.activeBeforeDowngrade = false) :
    Asleep t (bulkDeactivateAllPolicies t) where
  inactive p hp := by
    obtain ⟨q, -, rfl⟩ := Table.mem_update.mp hp
    cases hq : q.active <;> simp [hq]
  wakes := by
    refine table_ext ?_
    show (t.rows.map _).map _ = t.rows
    rw [List.map_map]
    refine (List.map_congr_left fun p hp => ?_).trans (List.map_id _)
    have hflag := h p hp
    cases hactive : p.active with
    | false => simp [hactive, hflag]
    | true =>
      obtain ⟨id, active, flag, filters, levels⟩ := p
      simp_all

/-- and a second one finds nothing to do. -/
theorem Asleep.deactivate {t' : PolicyTable} (h : Asleep t t') : bulkDeactivateAllPolicies t' = t' := by
  refine table_ext ((List.map_congr_left fun p hp => ?_).trans (List.map_id _))
  exact if_neg (Bool.eq_false_iff.mp (h.inactive p hp))

/-- An upgrade finds nothing to do where no flag is set. -/
theorem restore_of_clear (h : ∀ p ∈ t, p.activeBeforeDowngrade = false) :
    bulkRestorePoliciesFromDowngrade t = t := by
  refine table_ext ((List.map_congr_left fun p hp => ?_).trans (List.map_id _))
  exact if_neg (Bool.eq_false_iff.mp (h p hp))

/-! ## 3. Downgrades, then an upgrade -/

/-- No statement fails. -/
def succeeds (x : Choice) (_ : Request) : Bool := !x.fails

/-- Calls of `OnEditionDowngraded` one after the other, `n` of them without an error. -/
inductive Downgraded (w : World) : Nat → World → Prop where
  | start : Downgraded w 0 w
  | failed {n : Nat} {w' w'' : World} (xs : List Choice) (h : Downgraded w n w')
      (he : exec handle onEditionDowngraded xs w' = some ((), w'')) : Downgraded w n w''
  | call {n : Nat} {w' w'' : World} (xs : List Choice) (h : Downgraded w n w')
      (hok : meets handle succeeds onEditionDowngraded xs w' = true)
      (he : exec handle onEditionDowngraded xs w' = some ((), w'')) : Downgraded w (n + 1) w''

/-- The runs of a stop of all. -/
theorem mem_bulkStop {t : RunTable} {endedAt : GoTime.Time} {r : Run}
    (h : r ∈ bulkStopActiveRuns t .stoppedByEditionDowngrade endedAt) :
    r ∈ t ∧ r.status.live = false ∨ r.status = .stoppedByEditionDowngrade := by
  obtain ⟨r₀, hr₀, rfl⟩ := Table.mem_update.mp h
  cases hlive : r₀.status.live with
  | true => exact Or.inr rfl
  | false => exact Or.inl ⟨hr₀, hlive⟩

section Statements

variable (x : Choice) (w : World)

theorem deactivate_policies : (handle x w .bulkDeactivateAllPolicies).2.policies =
    if x.fails then w.policies else bulkDeactivateAllPolicies w.policies := rfl

theorem deactivate_runs : (handle x w .bulkDeactivateAllPolicies).2.runs = w.runs := by
  cases hx : x.fails <;> simp [handle, World.after, runsAfter, hx]

theorem clock_policies : (handle x w .clock).2.policies = w.policies := by
  cases hx : x.fails <;> simp [handle, World.after, policiesAfter, hx]

theorem clock_runs : (handle x w .clock).2.runs = w.runs := by
  cases hx : x.fails <;> simp [handle, World.after, runsAfter, hx]

theorem stop_policies (endedAt : GoTime.Time) :
    (handle x w (.bulkStopActiveRuns .stoppedByEditionDowngrade endedAt)).2.policies = w.policies := by
  cases hx : x.fails <;> simp [handle, World.after, policiesAfter, hx]

theorem stop_runs (endedAt : GoTime.Time) :
    (handle x w (.bulkStopActiveRuns .stoppedByEditionDowngrade endedAt)).2.runs =
      if x.fails then w.runs else
        bulkStopActiveRuns w.runs .stoppedByEditionDowngrade endedAt := rfl

end Statements

/-- What a call does, whatever fails. -/
theorem onEditionDowngraded_wp (w : World) : wp handle anyChoice onEditionDowngraded
    (fun _ w' => (w'.policies = w.policies ∨ w'.policies = bulkDeactivateAllPolicies w.policies) ∧
      ∀ r ∈ w'.runs, r ∈ w.runs ∨ r.status = .stoppedByEditionDowngrade) w := by
  intro x _
  rw [show (handle x w .bulkDeactivateAllPolicies).1 = !x.fails from rfl]
  have hpolicies := deactivate_policies x w
  cases hx : x.fails with
  | true =>
    rw [hx] at hpolicies
    exact ⟨Or.inl hpolicies, fun r hr => Or.inl (deactivate_runs x w ▸ hr)⟩
  | false =>
    rw [hx] at hpolicies
    intro y _ z _
    refine ⟨Or.inr ?_, fun r hr => ?_⟩
    · rw [stop_policies, clock_policies]
      exact hpolicies
    · rw [stop_runs, clock_runs, deactivate_runs] at hr
      split at hr
      · exact Or.inl hr
      · exact (mem_bulkStop hr).imp_left And.left

/-- What a call does when nothing fails. -/
theorem onEditionDowngraded_ok (w : World) : wp handle succeeds onEditionDowngraded
    (fun _ w' => w'.policies = bulkDeactivateAllPolicies w.policies ∧ ∀ r ∈ w'.runs,
      r.status.live = false) w := by
  intro x hx
  have hx' : x.fails = false := Bool.not_eq_true' _ ▸ hx
  rw [show (handle x w .bulkDeactivateAllPolicies).1 = !x.fails from rfl, hx']
  intro y _ z hz
  have hz' : z.fails = false := Bool.not_eq_true' _ ▸ hz
  refine ⟨?_, fun r hr => ?_⟩
  · rw [stop_policies, clock_policies, deactivate_policies, hx']
    rfl
  · rw [stop_runs, hz'] at hr
    rcases mem_bulkStop hr with ⟨-, hlive⟩ | hstopped
    · exact hlive
    · rw [hstopped]
      rfl

/-- The world after downgrades, `n` of which went through. -/
structure DowngradedTo (w : World) (n : Nat) (w' : World) : Prop where
  policies : n = 0 ∧ w'.policies = w.policies ∨ Asleep w.policies w'.policies
  runs : ∀ r ∈ w'.runs, r ∈ w.runs ∨ r.status = .stoppedByEditionDowngrade
  stopped : 1 ≤ n → ∀ r ∈ w'.runs, r.status.live = false

section Calls

variable {w w' w'' : World} {n : Nat} {xs : List Choice}

variable (h0 : ∀ p ∈ w.policies, p.activeBeforeDowngrade = false)

include h0

theorem DowngradedTo.failed
    (h : DowngradedTo w n w') (he : exec handle onEditionDowngraded xs w' = some ((), w'')) : DowngradedTo w n w'' := by
  obtain ⟨hpolicies, hruns⟩ := wp_exec (onEditionDowngraded_wp w') meets_anyChoice he
  refine ⟨?_, fun r hr => ?_, fun hn r hr => ?_⟩
  · rcases hpolicies with e | e
    · rw [e]
      exact h.policies
    · rw [e]
      rcases h.policies with ⟨-, hsame⟩ | hasleep
      · rw [hsame]
        exact Or.inr (asleep_deactivate h0)
      · rw [hasleep.deactivate]
        exact Or.inr hasleep
  · exact (hruns r hr).elim (h.runs r) Or.inr
  · rcases hruns r hr with hr' | hstopped
    · exact h.stopped hn r hr'
    · rw [hstopped]
      rfl

theorem DowngradedTo.call
    (h : DowngradedTo w n w') (hok : meets handle succeeds onEditionDowngraded xs w' = true)
    (he : exec handle onEditionDowngraded xs w' = some ((), w'')) : DowngradedTo w (n + 1) w'' := by
  obtain ⟨hpolicies, hstopped⟩ := wp_exec (onEditionDowngraded_ok w') hok he
  refine ⟨Or.inr ?_, (h.failed h0 he).runs, fun _ => hstopped⟩
  rw [hpolicies]
  rcases h.policies with ⟨-, hsame⟩ | hasleep
  · rw [hsame]
    exact asleep_deactivate h0
  · rw [hasleep.deactivate]
    exact hasleep

theorem Downgraded.to
    (h : Downgraded w n w') : DowngradedTo w n w' := by
  induction h with
  | start => exact ⟨Or.inl ⟨rfl, rfl⟩, fun _ hr => Or.inl hr, nofun⟩
  | failed _ _ he ih => exact ih.failed h0 he
  | call _ _ hok he ih => exact ih.call h0 hok he

end Calls

/-- **Downgrades, then an upgrade.** Whatever number of downgrades goes through (and whatever fails
    besides): one upgrade gives back every policy as it was, its flag cleared; a run is as it was
    or stopped by the downgrade, and the upgrade touches none. Once a downgrade went through, no
    policy is active and no run is active or paused. -/
theorem downgrade_upgrade_restores {w w' : World} {n : Nat}
    (h0 : ∀ p ∈ w.policies, p.activeBeforeDowngrade = false) (h : Downgraded w n w') :
    (onEditionUpgraded false w').policies = w.policies ∧
      (onEditionUpgraded false w').runs = w'.runs ∧
      (∀ r ∈ w'.runs, r ∈ w.runs ∨ r.status = .stoppedByEditionDowngrade) ∧
      (1 ≤ n → (∀ p ∈ w'.policies, p.active = false) ∧ ∀ r ∈ w'.runs, r.status.live = false) := by
  have hto := h.to h0
  refine ⟨?_, rfl, hto.runs, fun hn => ⟨?_, hto.stopped hn⟩⟩
  · show bulkRestorePoliciesFromDowngrade w'.policies = _
    rcases hto.policies with ⟨-, hsame⟩ | hasleep
    · rw [hsame]
      exact restore_of_clear h0
    · exact hasleep.wakes
  · rcases hto.policies with ⟨hzero, -⟩ | hasleep
    · omega
    · exact hasleep.inactive

/-- A policy and its run, downgraded twice and upgraded. -/
theorem sample_restored : ∃ w' : World, Downgraded sampleWorld 2 w' ∧
    w'.policies.rows.map Policy.active = [false] ∧ w'.runs.rows.map Run.status =
      [.stoppedByEditionDowngrade] ∧ (onEditionUpgraded false w').policies = sampleWorld.policies := by
  have hrun : ∃ w', Downgraded sampleWorld 2 w' ∧ w'.policies.rows.map Policy.active = [false] ∧
      w'.runs.rows.map Run.status = [.stoppedByEditionDowngrade] :=
    ⟨_, .call [{}, {}, {}] (.call [{}, {}, {}] .start rfl rfl) rfl rfl, by decide, by decide⟩
  obtain ⟨w', h, hpolicies, hruns⟩ := hrun
  exact ⟨w', h, hpolicies, hruns, (downgrade_upgrade_restores (by decide) h).1⟩

/-! ## 4. The license -/

/-- The edition and the tables. -/
structure Licensed where
  edition : Edition
  world : World

/-- The callback of `wireLicenseSubscriber`, at the edition the license goes to. -/
def Licensed.step (s : Licensed) (a : Edition × List Choice) : Option Licensed :=
  match s.edition.atLeast required, a.1.atLeast required with
  | true, false => (exec handle onEditionDowngraded a.2 s.world).map fun r => ⟨a.1, r.2⟩
  | false, true => some ⟨a.1, onEditionUpgraded false s.world⟩
  | _, _ => some ⟨a.1, s.world⟩

/-- No statement of the callback fails. -/
def Licensed.Succeeds (s : Licensed) (a : Edition × List Choice) : Prop :=
  meets handle succeeds onEditionDowngraded a.2 s.world = true

/-- What holds of the tables with escalation, and without. -/
def Licensed.Kept (t : PolicyTable) (s : Licensed) : Prop :=
  match s.edition.atLeast required with
  | true => s.world.policies = t
  | false => Asleep t s.world.policies ∧ ∀ r ∈ s.world.runs, r.status.live = false

theorem Licensed.Kept.step {s s' : Licensed} {a : Edition × List Choice}
    (ht : ∀ p ∈ t, p.activeBeforeDowngrade = false) (h : s.Kept t) (hok : s.Succeeds a)
    (hs : s.step a = some s') : s'.Kept t := by
  unfold Licensed.step at hs
  unfold Licensed.Kept at h ⊢
  cases hwas : s.edition.atLeast required <;> cases hnow : a.1.atLeast required <;> rw [hwas, hnow] at hs <;>
    rw [hwas] at h
  case true.false =>
    obtain ⟨⟨⟨⟩, w'⟩, hexec, rfl⟩ := Option.map_eq_some_iff.mp hs
    obtain ⟨hpolicies, hstopped⟩ := wp_exec (onEditionDowngraded_ok s.world) hok hexec
    rw [hnow]
    refine ⟨?_, hstopped⟩
    rw [hpolicies, show s.world.policies = t from h]
    exact asleep_deactivate ht
  all_goals cases hs; rw [hnow]
  case false.true => exact h.1.wakes
  all_goals exact h

/-- **Every sequence of editions**, from one that has escalation on: with it, the policies are what
    they were at the start; without it, none is active, and no run is. -/
theorem edition_changes_restore {e : Edition} {w : World} {s : Licensed}
    (he : e.atLeast required = true) (h0 : ∀ p ∈ w.policies, p.activeBeforeDowngrade = false)
    (h : Reach Licensed.step Licensed.Succeeds ⟨e, w⟩ s) :
    (s.edition.atLeast required = true → s.world.policies = w.policies) ∧ (s.edition.atLeast required = false →
        (∀ p ∈ s.world.policies, p.active = false) ∧ ∀ r ∈ s.world.runs, r.status.live = false) := by
  have hkept : s.Kept w.policies := by
    refine h.inv ?_ fun _ _ _ hs hok hstep => hs.step h0 hok hstep
    rw [Licensed.Kept, he]
  unfold Licensed.Kept at hkept
  constructor <;> intro hnow <;> rw [hnow] at hkept
  · exact hkept
  · exact ⟨hkept.1.inactive, hkept.2⟩

/-- The license goes to Community and comes back. -/
theorem sample_returns :
    (runList Licensed.step ⟨.pro, sampleWorld⟩ [(.community, [{}, {}, {}]), (.pro, [])]).world.policies =
      sampleWorld.policies :=
  (edition_changes_restore rfl (by decide) (reach_of_runOk (fun _ _ hok => hok) _ _ (by decide))).1 rfl

end Maintenant.Escalation
