/-
  File:      Maintenant/License/Restart.lean
  Subject:   THE EDITION AFTER A RESTART (internal/license: manager.go, cache.go, window.go). A process stops after a
             check, and a new manager is built at the same instant from the same data directory: does it grant what the
             old one granted?

  The cache is deleted on most refusals, but not on all, and the online path does not look at the expiry the loader
  looks at.

  * `loaded` -- the edition a new manager grants, from the files alone (`newManager_edition`);
  * `Spent` -- the update window is closed for this build, and its grace is over; `spent_mono` -- for ever;
  * `Rooted` -- what a state of the manager has to do with the cache, in every run;
  * `Sound` -- the checks after which a restart changes nothing: `restart_keeps_edition_iff` -- exactly these.
-/
import Maintenant.License.Model

namespace Maintenant.License

open GoTime Runs
open Escalation (Edition)

variable {pk : Packages} {cfg : Config}

/-! ## 1. The update window -/

variable {now t : Time} {disk : Disk} {payload : LicensePayload} {m : Manager} {s : State} {w : World}

/-- The record that holds for a build outside the window. -/
def windowRecord (pk : Packages) (cfg : Config) (disk : Disk) (windowEnd now : Time) : UpdateWindowRecord × Bool :=
  reconcileWindow (readWindowRecord disk) windowEnd now cfg.version (pk.formatTime cfg.buildDate)

/-- The build is newer than the license covers, and the grace is over. -/
def Spent (pk : Packages) (cfg : Config) (disk : Disk) (payload : LicensePayload) (now : Time) : Prop :=
  ∃ windowEnd ∈ payload.updateWindowEnd pk, cfg.buildDateKnown = true ∧ windowEnd < cfg.buildDate ∧
    updateGraceEnd (windowRecord pk cfg disk windowEnd now).1 ≤ now
deriving Decidable

/-- A grace that begins now is not over. -/
theorem grace_open (now : Time) : now < now + updateWindowGracePeriod :=
  Int.lt_add_of_pos_right now (by decide)

/-- The record is a new one, from now on, or the stored one. -/
theorem reconcile_cases (stored : Option UpdateWindowRecord) (windowEnd now : Time) (version buildDate : String) :
    reconcileWindow stored windowEnd now version buildDate = (⟨windowEnd, now, version, buildDate⟩, true) ∨
      ∃ record, stored = some record ∧ windowEnd ≤ record.windowEnd ∧ record.openedAt ≤ now ∧
        reconcileWindow stored windowEnd now version buildDate = (record, false) := by
  unfold reconcileWindow
  cases stored with
  | none => exact Or.inl rfl
  | some record =>
    dsimp only
    split
    · exact Or.inl rfl
    · next hwindow =>
      split
      · exact Or.inl rfl
      · next hopened => exact Or.inr ⟨record, rfl, Int.not_lt.mp hwindow, Int.not_lt.mp hopened, rfl⟩

/-- A stored record that still counts is kept. -/
theorem reconcile_keeps {record : UpdateWindowRecord} {windowEnd : Time} (hwindow : windowEnd ≤ record.windowEnd)
    (hopened : record.openedAt ≤ now) (version buildDate : String) :
    reconcileWindow (some record) windowEnd now version buildDate = (record, false) := by
  unfold reconcileWindow
  dsimp only
  rw [if_neg (Int.not_lt.mpr hwindow), if_neg (Int.not_lt.mpr hopened)]

/-- **What is spent stays spent.** -/
theorem spent_mono (hle : t ≤ now) (h : Spent pk cfg disk payload t) : Spent pk cfg disk payload now := by
  obtain ⟨windowEnd, hend, hknown, hafter, hover⟩ := h
  refine ⟨windowEnd, hend, hknown, hafter, ?_⟩
  unfold windowRecord at hover ⊢
  rcases reconcile_cases (readWindowRecord disk) windowEnd t cfg.version (pk.formatTime cfg.buildDate) with
    hfresh | ⟨record, hstored, hwindow, hopened, hkept⟩
  · rw [hfresh] at hover
    exact absurd hover (Int.not_le.mpr (grace_open t))
  · rw [hkept] at hover
    rw [hstored, reconcile_keeps hwindow (Int.le_trans hopened hle)]
    exact Int.le_trans hover hle

/-- The files after the window was enforced. -/
def windowWritten (pk : Packages) (cfg : Config) (disk : Disk) (windowEnd now : Time) : Disk :=
  if (windowRecord pk cfg disk windowEnd now).2 then
    writeWindowRecord disk (windowRecord pk cfg disk windowEnd now).1
  else disk

/-- The record that was written opens the same grace. -/
theorem openedAt_again (disk : Disk) (windowEnd now : Time) :
    (windowRecord pk cfg (windowWritten pk cfg disk windowEnd now) windowEnd now).1.openedAt =
      (windowRecord pk cfg disk windowEnd now).1.openedAt := by
  rcases reconcile_cases (readWindowRecord disk) windowEnd now cfg.version (pk.formatTime cfg.buildDate) with
    hfresh | ⟨record, _, _, _, hkept⟩
  · have hwritten : windowWritten pk cfg disk windowEnd now =
        writeWindowRecord disk ⟨windowEnd, now, cfg.version, pk.formatTime cfg.buildDate⟩ := by
      unfold windowWritten windowRecord
      rw [hfresh]
      rfl
    rw [hwritten]
    unfold windowRecord
    rw [hfresh]
    -- a record with a zero time is not read back, and a new one takes its place
    rcases reconcile_cases (readWindowRecord (writeWindowRecord disk _)) windowEnd now cfg.version
      (pk.formatTime cfg.buildDate) with hagain | ⟨record, hstored, _, _, hkept⟩
    · rw [hagain]
    · rw [hkept]
      unfold readWindowRecord writeWindowRecord at hstored
      dsimp only at hstored
      split at hstored
      · cases hstored
      · cases hstored
        rfl
  · have hwritten : windowWritten pk cfg disk windowEnd now = disk := by
      unfold windowWritten windowRecord
      rw [hkept]
      rfl
    rw [hwritten]

theorem spent_again {windowEnd : Time} (hend : payload.updateWindowEnd pk = some windowEnd) :
    Spent pk cfg (windowWritten pk cfg disk windowEnd now) payload now ↔ Spent pk cfg disk payload now := by
  unfold Spent updateGraceEnd
  rw [hend]
  simp only [Option.mem_some_iff, exists_eq_left', openedAt_again]

/-- What `enforceUpdateWindow` leaves of a state and of the files. -/
structure Enforced (pk : Packages) (cfg : Config) (disk : Disk) (state : State) (payload : LicensePayload) (now : Time)
    (result : State × Disk) : Prop where
  edition : result.1.edition = if Spent pk cfg disk payload now then .community else state.edition
  expiresAt : result.1.expiresAt = state.expiresAt
  cache : result.2.cache = disk.cache
  spent : state.edition ≠ .community → (Spent pk cfg result.2 payload now ↔ Spent pk cfg disk payload now)
  untouched : state.edition = .community → result.2 = disk

theorem enforced {state : State} (hknown : state.edition ≠ .unknown "") :
    Enforced pk cfg disk state payload now (enforceUpdateWindow pk cfg disk state payload now) := by
  have hquiet : ∀ s : State, s.edition = state.edition → s.expiresAt = state.expiresAt →
      (Spent pk cfg disk payload now → state.edition = .community) →
        Enforced pk cfg disk state payload now (s, disk) := by
    intro s hedition hexpires hspent
    refine ⟨?_, hexpires, rfl, fun _ => Iff.rfl, fun _ => rfl⟩
    split
    · next h => exact hedition.trans (hspent h)
    · exact hedition
  unfold enforceUpdateWindow
  split
  · next hend =>
    refine hquiet state rfl rfl fun h => ?_
    obtain ⟨windowEnd, hmem, _⟩ := h
    simp [hend] at hmem
  · next windowEnd hend =>
    have hspent : Spent pk cfg disk payload now → cfg.buildDateKnown = true ∧ windowEnd < cfg.buildDate ∧
        updateGraceEnd (windowRecord pk cfg disk windowEnd now).1 ≤ now := by
      intro h
      obtain ⟨windowEnd', hmem, hrest⟩ := h
      rw [hend] at hmem
      cases hmem
      exact hrest
    dsimp only
    split
    · next hnothing => exact hquiet _ rfl rfl fun _ => hnothing.resolve_left hknown
    · next hgrants =>
      obtain ⟨_, hgrants⟩ := not_or.mp hgrants
      split
      · next hunknown =>
        refine hquiet _ rfl rfl fun h => ?_
        simp [(hspent h).1] at hunknown
      · next hbuild =>
        split
        · next hcovered => exact hquiet _ rfl rfl fun h => absurd (hspent h).2.1 hcovered
        · next hafter =>
          have hcache : (windowWritten pk cfg disk windowEnd now).cache = disk.cache := by
            unfold windowWritten
            split <;> rfl
          split
          · next hgrace =>
            refine ⟨?_, rfl, hcache, fun _ => spent_again hend, fun h => absurd h hgrants⟩
            rw [if_neg fun h => Int.not_le.mpr hgrace (hspent h).2.2]
          · next hover =>
            refine ⟨?_, rfl, hcache, fun _ => spent_again hend, fun h => absurd h hgrants⟩
            have hspentNow : Spent pk cfg disk payload now :=
              ⟨windowEnd, hend, by simpa using hbuild, Decidable.not_not.mp hafter, Int.not_lt.mp hover⟩
            rw [if_pos hspentNow]

/-! ## 2. What a new manager grants -/

/-- The payload of the cache, when it can be read and verifies. -/
def cached (pk : Packages) (cfg : Config) (disk : Disk) : Option LicensePayload :=
  match readCache pk disk cfg.publicKey with
  | .ok payload => payload
  | .error _ => none

theorem cached_congr {disk' : Disk} (h : disk'.cache = disk.cache) : cached pk cfg disk' = cached pk cfg disk := by
  unfold cached readCache
  rw [h]

/-- The edition in the files. -/
def loaded (pk : Packages) (cfg : Config) (disk : Disk) (now : Time) : Edition :=
  match cached pk cfg disk with
  | none => .community
  | some payload =>
    if pastExpiry payload.expiresAt now ∨ Spent pk cfg disk payload now then .community else resolveEdition payload

theorem loaded_none (h : cached pk cfg disk = none) : loaded pk cfg disk now = .community := by
  unfold loaded
  rw [h]

theorem loaded_some (h : cached pk cfg disk = some payload) : loaded pk cfg disk now =
      if pastExpiry payload.expiresAt now ∨ Spent pk cfg disk payload now then .community
      else resolveEdition payload := by
  unfold loaded
  rw [h]

theorem parseEdition_known (s : String) : (parseEdition s).1 ≠ .unknown "" := by
  unfold parseEdition
  cases editionOf s <;> simp [Edition.rank]

/-- A payload grants one of the three editions. -/
theorem resolveEdition_known (payload : LicensePayload) : resolveEdition payload ≠ .unknown "" := by
  unfold resolveEdition
  split
  · simp
  · split
    · exact parseEdition_known payload.edition
    · split <;> simp

/-- A state that was set has an edition. -/
theorem setState_known (m : Manager) (s : State) : (m.setStateAndNotify s).state.edition ≠ .unknown "" := by
  unfold Manager.setStateAndNotify
  split
  · simp
  · next h => exact h

theorem setState_of_known (h : s.edition ≠ .unknown "") : (m.setStateAndNotify s).state = s := by
  unfold Manager.setStateAndNotify
  rw [if_neg h]

/-- A state without an edition is Community. -/
theorem setState_zero (h : s.edition = .unknown "") :
    (m.setStateAndNotify s).state = { s with edition := .community } := by
  unfold Manager.setStateAndNotify
  rw [if_pos h]

theorem edition_of_known (h : m.state.edition ≠ .unknown "") : m.edition = m.state.edition := if_pos h

theorem edition_zero (h : s.edition = .unknown "") (w : World) : (w.setState s).manager.edition = .community := by
  have hstate : (w.setState s).manager.state = { s with edition := .community } := setState_zero h
  have hknown : (w.setState s).manager.state.edition ≠ .unknown "" := setState_known w.manager s
  rw [edition_of_known hknown, hstate]

/-- What applying a payload leaves. -/
structure Applied (pk : Packages) (cfg : Config) (disk : Disk) (payload : LicensePayload) (now : Time) (w' : World) :
    Prop where
  edition : w'.manager.state.edition = if Spent pk cfg disk payload now then .community else resolveEdition payload
  expiresAt : w'.manager.state.expiresAt = payload.expiresAt
  cache : w'.disk.cache = disk.cache
  spent : resolveEdition payload ≠ .community → (Spent pk cfg w'.disk payload now ↔ Spent pk cfg disk payload now)

theorem edition_ite_known {P : Prop} [Decidable P] {e : Edition} (h : e ≠ .unknown "") :
    (if P then Edition.community else e) ≠ .unknown "" := by
  split
  · simp
  · exact h

variable (pk cfg) in
theorem applied (w : World) (payload : LicensePayload) (now : Time) :
    Applied pk cfg w.disk payload now (applyPayload pk cfg w payload now) := by
  unfold applyPayload
  generalize hstate : ({ State.zero with
    edition := resolveEdition payload, plan := payload.plan, features := payload.features, status := payload.status
    verifiedAt := payload.verifiedAt, expiresAt := payload.expiresAt } : State) = state
  have hedition : state.edition = resolveEdition payload := by rw [← hstate]
  have henforced : Enforced pk cfg w.disk state payload now (enforceUpdateWindow pk cfg w.disk state payload now) :=
    enforced (by rw [hedition]; exact resolveEdition_known payload)
  have hknown : (enforceUpdateWindow pk cfg w.disk state payload now).1.edition ≠ .unknown "" := by
    rw [henforced.edition, hedition]
    exact edition_ite_known (resolveEdition_known payload)
  refine ⟨?_, ?_, henforced.cache, fun h => henforced.spent (hedition ▸ h)⟩
  · rw [setState_of_known hknown, henforced.edition, hedition]
  · rw [setState_of_known hknown, henforced.expiresAt, ← hstate]

variable (h : Applied pk cfg disk payload now w)

include h

theorem Applied.known : w.manager.state.edition ≠ .unknown "" := by
  rw [h.edition]
  exact edition_ite_known (resolveEdition_known payload)

theorem Applied.source : w.manager.state.expiresAt = payload.expiresAt ∧
      (w.manager.state.edition = resolveEdition payload ∨ w.manager.state.edition = .community) := by
  refine ⟨h.expiresAt, ?_⟩
  rw [h.edition]
  split
  · exact Or.inr rfl
  · exact Or.inl rfl

/-- The edition in the files after a payload was applied that is in the cache. -/
theorem Applied.loaded (disk' : Disk) (hwindow : disk'.window = w.disk.window)
    (hcached : cached pk cfg disk' = some payload) (hpast : ¬ pastExpiry payload.expiresAt now) :
    License.loaded pk cfg disk' now = w.manager.state.edition := by
  have hspent : Spent pk cfg disk' payload now ↔ Spent pk cfg w.disk payload now := by
    unfold Spent windowRecord readWindowRecord
    rw [hwindow]
  rw [loaded_some hcached, h.edition]
  by_cases hnone : resolveEdition payload = .community
  · rw [hnone, ite_self, ite_self]
  · simp only [hpast, false_or, hspent, h.spent hnone]

omit h

theorem loadCache_eq (w : World) (now : Time) :
    loadCache pk cfg w now =
      match cached pk cfg w.disk with
      | none => w
      | some payload =>
        if pastExpiry payload.expiresAt now then
          w.deleteCache.setState { State.zero with
            status := "expired", expiresAt := payload.expiresAt, message := expiredMessage }
        else applyPayload pk cfg w payload now := by
  unfold loadCache cached
  cases readCache pk w.disk cfg.publicKey with
  | error => rfl
  | ok payload => cases payload <;> rfl

/-- **A new manager grants the edition in the files.** -/
theorem newManager_edition (disk : Disk) (now : Time) :
    (newManager pk cfg disk now).manager.edition = loaded pk cfg disk now := by
  have hseed : (World.seed disk).disk = disk := rfl
  unfold newManager
  rw [loadCache_eq, hseed]
  cases hcached : cached pk cfg disk with
  | none =>
    rw [loaded_none hcached]
    rfl
  | some payload =>
    rw [loaded_some hcached]
    dsimp only
    by_cases hpast : pastExpiry payload.expiresAt now
    · rw [if_pos hpast, if_pos (Or.inl hpast)]
      exact edition_zero rfl _
    · have happlied := applied pk cfg (World.seed disk) payload now
      rw [if_neg hpast, edition_of_known happlied.known, happlied.edition, hseed]
      simp only [hpast, false_or]

/-! ## 3. The state and the cache -/

/-- What the state of a manager has to do with the cache: it has an edition, and a state with a verification has the
    expiry of the cached payload and its edition, or none. -/
structure Rooted (pk : Packages) (cfg : Config) (w : World) : Prop where
  known : w.manager.state.edition ≠ .unknown ""
  source : ∀ payload, cached pk cfg w.disk = some payload → w.manager.state.verifiedAt ≠ zeroTime →
    w.manager.state.expiresAt = payload.expiresAt ∧
      (w.manager.state.edition = resolveEdition payload ∨ w.manager.state.edition = .community)

/-- The manager grants what is in the files. -/
def Same (pk : Packages) (cfg : Config) (w : World) (now : Time) : Prop := w.manager.edition = loaded pk cfg w.disk now

/-- The manager is rooted, and grants what is in the files exactly under `P`. -/
def Stands (pk : Packages) (cfg : Config) (w : World) (now : Time) (P : Prop) : Prop :=
  Rooted pk cfg w ∧ (Same pk cfg w now ↔ P)

/-- The payload grants nothing: it resolves to Community, or the update window is spent. -/
def Grantless (pk : Packages) (cfg : Config) (disk : Disk) (payload : LicensePayload) (now : Time) : Prop :=
  resolveEdition payload = .community ∨ Spent pk cfg disk payload now
deriving Decidable

/-- The cache grants nothing. -/
def Harmless (pk : Packages) (cfg : Config) (disk : Disk) (now : Time) : Prop :=
  ∀ payload ∈ cached pk cfg disk, pastExpiry payload.expiresAt now ∨ Grantless pk cfg disk payload now
deriving Decidable

theorem harmless_iff (disk : Disk) (now : Time) : loaded pk cfg disk now = .community ↔ Harmless pk cfg disk now := by
  unfold Harmless Grantless
  cases hcached : cached pk cfg disk with
  | none =>
    refine ⟨fun _ payload hmem => ?_, fun _ => loaded_none hcached⟩
    cases hmem
  | some payload =>
    rw [loaded_some hcached]
    simp only [Option.mem_some_iff, forall_eq']
    by_cases hpast : pastExpiry payload.expiresAt now <;> by_cases hspent : Spent pk cfg disk payload now <;>
      simp [hpast, hspent]

section Stands

variable {P : Prop}

/-- Without a cache and without an edition. -/
theorem uncached (hcached : cached pk cfg w.disk = none) (hnone : w.manager.state.edition = .community) (hp : P) :
    Stands pk cfg w now P := by
  have hknown : w.manager.state.edition ≠ .unknown "" := by simp [hnone]
  refine ⟨⟨hknown, fun payload hmem => ?_⟩, iff_of_true ?_ hp⟩
  · simp [hcached] at hmem
  · rw [Same, edition_of_known hknown, hnone, loaded_none hcached]

/-- A refusal that deletes the cache. -/
theorem dropped (hs : s.edition = .unknown "") (hp : P) : Stands pk cfg (w.deleteCache.setState s) now P :=
  uncached (w := w.deleteCache.setState s) rfl (congrArg State.edition (setState_zero hs)) hp

variable (pk cfg) in
/-- A refusal that keeps the cache, with a state that remembers no verification. -/
theorem forgot (w : World) (s : State) (now : Time) (hs : s.edition = .unknown "")
    (hverified : s.verifiedAt = zeroTime) : Stands pk cfg (w.setState s) now (Harmless pk cfg w.disk now) := by
  have hstate : (w.setState s).manager.state = { s with edition := .community } := setState_zero hs
  refine ⟨⟨setState_known _ _, fun payload _ hne => ?_⟩, ?_⟩
  · rw [hstate] at hne
    exact absurd hverified hne
  · rw [Same, edition_zero hs w, ← harmless_iff]
    exact eq_comm

theorem Applied.rooted (h : Applied pk cfg disk payload now w) {disk' : Disk}
    (hcached : cached pk cfg disk' = some payload) : Rooted pk cfg ⟨w.manager, disk'⟩ := by
  refine ⟨h.known, fun payload' hmem _ => ?_⟩
  rw [hcached] at hmem
  cases hmem
  exact h.source

/-- A payload in force is applied, and the answer goes to the cache. -/
theorem accepted {resp : SignedResponse} (w : World) (now : Time)
    (hverify : verify pk cfg.publicKey resp = .ok payload) :
    Stands pk cfg ⟨(applyPayload pk cfg w payload now).manager,
      writeCache (applyPayload pk cfg w payload now).disk resp⟩ now
      (pastExpiry payload.expiresAt now → Grantless pk cfg w.disk payload now) := by
  have happlied := applied pk cfg w payload now
  generalize applyPayload pk cfg w payload now = w' at happlied
  have hcached : cached pk cfg (writeCache w'.disk resp) = some payload := by
    unfold cached readCache writeCache
    simp only [hverify]
  refine ⟨happlied.rooted hcached, ?_⟩
  unfold Same Grantless
  rw [edition_of_known happlied.known]
  by_cases hpast : pastExpiry payload.expiresAt now
  · -- the loader refuses what was granted
    rw [loaded_some hcached, if_pos (Or.inl hpast), happlied.edition]
    by_cases hspent : Spent pk cfg w.disk payload now <;> simp [hpast, hspent]
  · exact ⟨fun _ h => absurd h hpast, fun _ => (happlied.loaded (writeCache w'.disk resp) rfl hcached hpast).symm⟩

/-- A cache that grants nothing grants nothing later. -/
theorem harmless_mono (hle : t ≤ now) (h : Harmless pk cfg disk t) : Harmless pk cfg disk now := by
  intro payload hmem
  rcases h payload hmem with hpast | hnone | hspent
  · exact Or.inl ⟨hpast.1, Int.lt_of_lt_of_le hpast.2 hle⟩
  · exact Or.inr (Or.inl hnone)
  · exact Or.inr (Or.inr (spent_mono hle hspent))

theorem replay_eq (disk : Disk) (state : State) (now : Time) :
    replayUpdateWindow pk cfg disk state now =
      match cached pk cfg disk with
      | none => (state, disk)
      | some payload => enforceUpdateWindow pk cfg disk state payload now := by
  unfold replayUpdateWindow cached
  cases readCache pk disk cfg.publicKey with
  | error => rfl
  | ok payload => cases payload <;> rfl

/-- The manager goes on with its cache. -/
theorem degraded {message : String} (hroot : Rooted pk cfg w) (hsame : Same pk cfg w t) (hle : t ≤ now)
    (hverified : w.manager.state.verifiedAt ≠ zeroTime) (hpast : ¬ pastExpiry w.manager.state.expiresAt now)
    (hp : P) :
    Stands pk cfg (degrade pk cfg w message now) now P := by
  have hknown := hroot.known
  have hsame : w.manager.state.edition = loaded pk cfg w.disk t := (edition_of_known hknown).symm.trans hsame
  unfold degrade
  rw [replay_eq]
  generalize hstate : ({ w.manager.state with message := message } : State) = state
  have hedition : state.edition = w.manager.state.edition := by rw [← hstate]
  have hexpires : state.expiresAt = w.manager.state.expiresAt := by rw [← hstate]
  rw [← hedition] at hknown hsame
  cases hcached : cached pk cfg w.disk with
  | none =>
    refine uncached hcached ?_ hp
    rw [setState_of_known hknown, hsame, loaded_none hcached]
  | some payload =>
    obtain ⟨hexp, hsource⟩ := hroot.source payload hcached hverified
    rw [hexp] at hpast hexpires
    rw [← hedition] at hsource
    have henforced : Enforced pk cfg w.disk state payload now (enforceUpdateWindow pk cfg w.disk state payload now) :=
      enforced hknown
    dsimp only
    generalize enforceUpdateWindow pk cfg w.disk state payload now = result at henforced
    have hknown' : result.1.edition ≠ .unknown "" := by
      rw [henforced.edition]
      exact edition_ite_known hknown
    have hcached' : cached pk cfg result.2 = some payload := (cached_congr henforced.cache).trans hcached
    refine ⟨⟨setState_known _ _, fun payload' hmem _ => ?_⟩, iff_of_true ?_ hp⟩
    · rw [hcached'] at hmem
      cases hmem
      rw [setState_of_known hknown', henforced.expiresAt, henforced.edition]
      refine ⟨hexpires, ?_⟩
      split
      · exact Or.inr rfl
      · exact hsource
    · unfold Same
      rw [edition_of_known (setState_known _ _), setState_of_known hknown', henforced.edition]
      by_cases hnone : state.edition = .community
      · -- nothing was granted, and what the cache grants does not come back
        rw [henforced.untouched hnone, hnone, ite_self]
        exact ((harmless_iff _ _).mpr (harmless_mono hle ((harmless_iff _ _).mp (hsame.symm.trans hnone)))).symm
      · rw [loaded_some hcached', hsource.resolve_right hnone]
        simp only [hpast, false_or, henforced.spent hnone]

/-- **The server cannot be reached.** -/
theorem unreached (hroot : Rooted pk cfg w) (hsame : Same pk cfg w t) (hle : t ≤ now) :
    Stands pk cfg (handleNetworkError pk cfg w now) now (w.manager.state.verifiedAt = zeroTime →
      Harmless pk cfg w.disk now) := by
  unfold handleNetworkError
  dsimp only
  split
  · next hzero =>
    obtain ⟨hrooted, hiff⟩ := forgot pk cfg w { State.zero with
      status := "unreachable", message := "Cannot reach license server. Please check your network connection." }
        now rfl rfl
    exact ⟨hrooted, hiff.trans ⟨fun h _ => h, fun h => h hzero⟩⟩
  · next hverified =>
    have hfine : w.manager.state.verifiedAt = zeroTime → Harmless pk cfg w.disk now := fun hzero =>
      absurd hzero hverified
    split
    · exact dropped rfl hfine
    · next hpast =>
      split
      · exact dropped rfl hfine
      · split
        · exact degraded hroot hsame hle hverified hpast hfine
        · split <;> exact degraded hroot hsame hle hverified hpast hfine

/-! ## 4. A check -/

/-- What a check has to go by. -/
inductive Verdict where
  | refused
  | unreached
  | verified (resp : SignedResponse) (payload : LicensePayload)

def verdict (pk : Packages) (cfg : Config) (reply : Reply) : Verdict :=
  match fetchLicense pk reply with
  | (.error _, statusCode) => if statusCode = statusUnauthorized ∨ statusCode = statusForbidden then .refused
    else .unreached
  | (.ok resp, _) =>
    match verify pk cfg.publicKey resp with
    | .error _ => .unreached
    | .ok payload => .verified resp payload

/-- The checks after which a restart changes nothing: a payload in force is not past its expiry, or grants nothing; a
    payload of an unknown status, or a failure without a verification before it, meets a cache that grants nothing. -/
def Sound (pk : Packages) (cfg : Config) (w : World) (now : Time) : Verdict → Prop
  | .refused => True
  | .unreached => w.manager.state.verifiedAt = zeroTime → Harmless pk cfg w.disk now
  | .verified _ payload =>
    if payload.status = "active" ∨ payload.status = "grace" then
      pastExpiry payload.expiresAt now → Grantless pk cfg w.disk payload now
    else payload.status = "expired" ∨ payload.status = "revoked" ∨ Harmless pk cfg w.disk now

instance (w : World) (now : Time) : (v : Verdict) → Decidable (Sound pk cfg w now v)
  | .refused => inferInstanceAs (Decidable True)
  | .unreached => inferInstanceAs (Decidable (_ → _))
  | .verified _ _ => inferInstanceAs (Decidable (ite _ _ _))

/-- Another message changes nothing else. -/
theorem Stands.remarked {message : String} (hstands : Stands pk cfg w now P) :
    Stands pk cfg (w.setState { w.manager.state with message := message }) now P := by
  obtain ⟨h, hiff⟩ := hstands
  have hstate : (w.setState { w.manager.state with message := message }).manager.state =
      { w.manager.state with message := message } := setState_of_known h.known
  have hknown : (w.setState { w.manager.state with message := message }).manager.state.edition ≠ .unknown "" := by
    rw [hstate]
    exact h.known
  refine ⟨⟨hknown, fun payload hmem hne => ?_⟩, ?_⟩
  · rw [hstate] at hne ⊢
    exact h.source payload hmem hne
  · rw [← hiff, Same, Same, edition_of_known hknown, edition_of_known h.known, hstate]
    rfl

/-- **One check:** from a manager that grants what is in the files, it leads to such a manager exactly when it is
    sound. -/
theorem checked (reply : Reply) (hroot : Rooted pk cfg w) (hsame : Same pk cfg w t) (hle : t ≤ now) :
    Stands pk cfg (check pk cfg w now reply) now (Sound pk cfg w now (verdict pk cfg reply)) := by
  unfold check verdict
  generalize fetchLicense pk reply = fetched
  obtain ⟨result, statusCode⟩ := fetched
  cases result with
  | error =>
    dsimp only
    by_cases hunauthorized : statusCode = statusUnauthorized
    · rw [if_pos hunauthorized, if_pos (Or.inl hunauthorized)]
      exact dropped rfl trivial
    · rw [if_neg hunauthorized]
      by_cases hforbidden : statusCode = statusForbidden
      · rw [if_pos hforbidden, if_pos (Or.inr hforbidden)]
        exact dropped rfl trivial
      · rw [if_neg hforbidden, if_neg (not_or.mpr ⟨hunauthorized, hforbidden⟩)]
        exact unreached hroot hsame hle
  | ok resp =>
    dsimp only
    cases hverify : verify pk cfg.publicKey resp with
    | error => exact unreached hroot hsame hle
    | ok payload =>
      dsimp only [Sound]
      by_cases hactive : payload.status = "active"
      · rw [if_pos hactive, if_pos (Or.inl hactive)]
        exact accepted w now hverify
      · rw [if_neg hactive]
        by_cases hgrace : payload.status = "grace"
        · rw [if_pos hgrace, if_pos (Or.inr hgrace)]
          exact (accepted w now hverify).remarked
        · rw [if_neg hgrace, if_neg (not_or.mpr ⟨hactive, hgrace⟩)]
          by_cases hexpired : payload.status = "expired"
          · rw [if_pos hexpired]
            exact dropped rfl (Or.inl hexpired)
          · rw [if_neg hexpired]
            by_cases hrevoked : payload.status = "revoked"
            · rw [if_pos hrevoked]
              exact dropped rfl (Or.inr (Or.inl hrevoked))
            · rw [if_neg hrevoked]
              obtain ⟨hrooted, hiff⟩ := forgot pk cfg w { State.zero with
                status := payload.status, message := "Unexpected license status: " ++ payload.status } now rfl rfl
              refine ⟨hrooted, hiff.trans ⟨fun h => Or.inr (Or.inr h), fun h => ?_⟩⟩
              exact (h.resolve_left hexpired).resolve_left hrevoked

end Stands

/-! ## 5. The result -/

variable (pk cfg) in
/-- A new manager grants what is in the files it leaves. -/
theorem started (disk : Disk) (now : Time) : Stands pk cfg (newManager pk cfg disk now) now True := by
  unfold newManager
  rw [loadCache_eq]
  cases hcached : cached pk cfg (World.seed disk).disk with
  | none => exact uncached hcached rfl trivial
  | some payload =>
    dsimp only
    split
    · exact dropped rfl trivial
    · next hpast =>
      have happlied := applied pk cfg (World.seed disk) payload now
      have hstill : cached pk cfg (applyPayload pk cfg (World.seed disk) payload now).disk = some payload :=
        (cached_congr happlied.cache).trans hcached
      refine ⟨happlied.rooted hstill, iff_of_true ?_ trivial⟩
      exact (edition_of_known happlied.known).trans (happlied.loaded _ rfl hstill hpast).symm

/-- The check is sound in the state of the process. -/
def SoundCheck (pk : Packages) (cfg : Config) (p : Process) (a : Time × Reply) : Prop :=
  Sound pk cfg p.world a.1 (verdict pk cfg a.2)
deriving Decidable

/-- **A restart keeps the edition:** after checks that are all sound, a manager that is built at the same instant from
    the same data directory grants what the process grants; and the next check keeps it so exactly when it is sound. -/
theorem restart_keeps_edition_iff (pk : Packages) (cfg : Config) (disk : Disk) (t₀ : Time) (p : Process)
    (h : Reach (Process.step pk cfg) (SoundCheck pk cfg) (Process.start pk cfg disk t₀) p) :
    p.restarted pk cfg = p.world.manager.edition ∧
      ∀ a p', p.step pk cfg a = some p' →
      (p'.restarted pk cfg = p'.world.manager.edition ↔ SoundCheck pk cfg p a) := by
  have hstep : ∀ (p : Process) a p', Rooted pk cfg p.world ∧ Same pk cfg p.world p.now →
      p.step pk cfg a = some p' → Stands pk cfg p'.world p'.now (SoundCheck pk cfg p a) := by
    intro p a p' hp hs
    unfold Process.step at hs
    split at hs
    · next hle =>
      cases hs
      exact checked a.2 hp.1 hp.2 hle
    · cases hs
  have hkept : Rooted pk cfg p.world ∧ Same pk cfg p.world p.now := by
    have hstart := (started pk cfg disk t₀).imp_right of_iff_true
    refine h.inv (I := fun p => Rooted pk cfg p.world ∧ Same pk cfg p.world p.now) hstart ?_
    intro p a p' hp hok hs
    obtain ⟨hroot, hiff⟩ := hstep p a p' hp hs
    exact ⟨hroot, hiff.mpr hok⟩
  have hrestarted : ∀ p : Process, p.restarted pk cfg = p.world.manager.edition ↔ Same pk cfg p.world p.now := by
    intro p
    unfold Process.restarted Same
    rw [newManager_edition]
    exact eq_comm
  refine ⟨(hrestarted p).mpr hkept.2, fun a p' hs => ?_⟩
  rw [hrestarted]
  exact (hstep p a p' hkept hs).2

section Sample

/-- The first of January 2026. -/
def newYear : Time := ofUnix 1767225600

/-- The texts of four payloads: in force, in force but past its expiry, in force without a time, of a status nobody
    knows. -/
def activeText : String := "\x7b\"status\":\"active\",\"verified_at\":\"2026-01-01T00:00:00Z\"\x7d"

def lapsedText : String :=
  "\x7b\"status\":\"active\",\"verified_at\":\"2026-01-01T00:00:00Z\",\"expires_at\":\"2025-12-31T00:00:00Z\"\x7d"

def undatedText : String := "\x7b\"status\":\"active\"\x7d"

def pausedText : String := "\x7b\"status\":\"paused\"\x7d"

def samplePayload (status : String) (expiresAt verifiedAt : Time) : LicensePayload :=
  ⟨status, "", "", [], expiresAt, verifiedAt, "", ""⟩

/-- Every signature holds, and an answer is the text of its payload. -/
def samplePackages : Packages where
  decodeString _ := .ok [0]
  ed25519Verify _ _ _ := true
  unmarshalSigned body := (⟨body, "AA=="⟩, none)
  unmarshalPayload text :=
    if text = activeText then (samplePayload "active" zeroTime newYear, none)
    else if text = lapsedText then (samplePayload "active" (newYear - day) newYear, none)
    else if text = undatedText then (samplePayload "active" zeroTime zeroTime, none)
    else if text = pausedText then (samplePayload "paused" zeroTime zeroTime, none)
    else (samplePayload "" zeroTime zeroTime, some "unexpected end of JSON input")
  parseTime _ _ := none
  formatTime _ := ""
  formatDate _ := ""

def sampleConfig : Config := Config.of samplePackages "1.0.0" [0] "unknown"

/-- The checks of a process that begins with an empty data directory, one a day. -/
def sampleRun (replies : List Reply) : Process :=
  runList (Process.step samplePackages sampleConfig)
    (Process.start samplePackages sampleConfig ⟨.missing, none⟩ newYear)
    (replies.zipIdx.map fun r => (newYear + r.2 * day, r.1))

def answer (text : String) : Reply := .answered statusOK (.ok text)

/-- The edition of the process, and the edition after a restart. -/
def editions (p : Process) : Edition × Edition := (p.world.manager.edition, p.restarted samplePackages sampleConfig)

/-- Three restarts that change the edition: after an unknown status, after a payload past its expiry, and after a
    failure that follows a payload without a time of verification. -/
theorem restart_changes_edition :
    editions (sampleRun [answer activeText, answer pausedText]) = (.community, .pro) ∧
    editions (sampleRun [answer lapsedText]) = (.pro, .community) ∧
    editions (sampleRun [answer undatedText, .failed "timeout"]) = (.community, .pro) := by
  refine ⟨by decide, by decide, by decide⟩

/-- A process that was answered once, and then not any more, keeps its edition over a restart. -/
theorem restart_after_failure :
    (sampleRun [answer activeText, .failed "timeout"]).restarted samplePackages sampleConfig = .pro := by
  have hreach : Reach (Process.step samplePackages sampleConfig) (SoundCheck samplePackages sampleConfig)
      (Process.start samplePackages sampleConfig ⟨.missing, none⟩ newYear)
        (sampleRun [answer activeText, .failed "timeout"]) :=
    reach_of_decide _ _ (by decide)
  rw [(restart_keeps_edition_iff samplePackages sampleConfig _ _ _ hreach).1]
  decide

end Sample

end Maintenant.License
