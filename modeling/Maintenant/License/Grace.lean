/-
  File:      Maintenant/License/Grace.lean
  Subject:   ONE GRACE FOR AN UPDATE WINDOW (internal/license: window.go, `enforceUpdateWindow` of manager.go). A build
             that was released after the window closed keeps its edition for 30 days, and no order of updates, rollbacks
             and restarts makes them more.

  A call of `enforceUpdateWindow` is given by the build it runs in, the state and the payload it is handed and its
  instant; what calls share is the data directory.

  * `Anchored` -- a grace has begun by an instant, for a window that ends no earlier;
  * **`one_grace_per_window`** -- while windows and instants are dated (the record of a zero time is not read back);
  * `Host.step`, `Host.call` -- managers that are built on one data directory and look at the server, and the call each
    of these actions makes; `left_step` -- the window file and the edition after an action are those of its call;
  * `history_one_grace` -- the same for the starts and checks of such managers.
-/
import Maintenant.License.Restart
import Maintenant.Lib.Steps

namespace Maintenant.License

open GoTime Steps
open Escalation (Edition)

/-! ## 1. Calls -/

/-- One call of `enforceUpdateWindow`. -/
structure Call where
  cfg : Config
  state : State
  payload : LicensePayload
  now : Int

namespace Call

variable (pk : Packages) (c : Call)

def enforce (disk : Disk) : State × Disk := enforceUpdateWindow pk c.cfg disk c.state c.payload c.now

/-- The end of the window the call is under. -/
def windowEnd : Option Time := c.payload.updateWindowEnd pk

/-- There is an edition to take away, and the build was released after the window closed. -/
structure Outside (windowEnd : Time) : Prop where
  under : c.windowEnd pk = some windowEnd
  set : c.state.edition ≠ .unknown ""
  granted : c.state.edition ≠ .community
  known : c.cfg.buildDateKnown = true
  after : windowEnd < c.cfg.buildDate

/-- The build is not known to have been released after the window closed. -/
def Covered : Prop :=
  ∀ windowEnd, c.windowEnd pk = some windowEnd → ¬ (c.cfg.buildDateKnown = true ∧ windowEnd < c.cfg.buildDate)

/-- The window ends, and the call is made, at a time that is not the zero time. -/
def Dated : Prop := ∀ windowEnd, c.windowEnd pk = some windowEnd → windowEnd ≠ zeroTime ∧ c.now ≠ zeroTime

end Call

/-- The data directory after some calls. -/
def afterCalls (pk : Packages) (disk : Disk) (calls : List Call) : Disk :=
  calls.foldl (fun disk c => (c.enforce pk disk).2) disk

section Enforce

variable {pk : Packages} {c : Call} {windowEnd : Time} {disk : Disk}

/-- Outside the window, the record decides. -/
theorem enforce_outside (h : c.Outside pk windowEnd) (disk : Disk) :
    (c.enforce pk disk).2 = windowWritten pk c.cfg disk windowEnd c.now ∧ (c.enforce pk disk).1.edition =
        if c.now < updateGraceEnd (windowRecord pk c.cfg disk windowEnd c.now).1 then c.state.edition
        else .community := by
  have hwindow : c.payload.updateWindowEnd pk = some windowEnd := h.under
  have hgrants : ¬ (c.state.edition = .unknown "" ∨ c.state.edition = .community) :=
    not_or.mpr ⟨h.set, h.granted⟩
  have hknown : ¬ (!c.cfg.buildDateKnown) = true := by simp [h.known]
  unfold Call.enforce enforceUpdateWindow windowWritten windowRecord
  rw [hwindow]
  dsimp only
  rw [if_neg hgrants, if_neg hknown, if_neg (not_not.mpr h.after)]
  split <;> exact ⟨rfl, rfl⟩

/-- Anything else is left as it is. -/
theorem enforce_inside (h : ∀ windowEnd, ¬ c.Outside pk windowEnd) (disk : Disk) :
    (c.enforce pk disk).2 = disk ∧ (c.enforce pk disk).1.edition = c.state.edition ∧
      (c.enforce pk disk).1.status = c.state.status := by
  unfold Call.enforce enforceUpdateWindow
  cases hwindow : c.payload.updateWindowEnd pk with
  | none => exact ⟨rfl, rfl, rfl⟩
  | some windowEnd =>
    dsimp only
    split
    · exact ⟨rfl, rfl, rfl⟩
    · next hgrants =>
      split
      · exact ⟨rfl, rfl, rfl⟩
      · next hknown =>
        obtain ⟨hset, hgranted⟩ := not_or.mp hgrants
        have hcovered : ¬ windowEnd < c.cfg.buildDate := fun hafter =>
          h windowEnd ⟨hwindow, hset, hgranted, by simpa using hknown, hafter⟩
        rw [if_pos hcovered]
        exact ⟨rfl, rfl, rfl⟩

end Enforce

/-! ## 2. The clock of a window -/

/-- A grace has begun by the instant, for a window that ends no earlier than the given one. -/
def Anchored (windowEnd : Time) (begun : Int) (disk : Disk) : Prop :=
  ∃ record, readWindowRecord disk = some record ∧ windowEnd ≤ record.windowEnd ∧ record.openedAt ≤ begun

section Anchored

variable {pk : Packages} {c : Call} {windowEnd : Time} {begun : Int} {disk : Disk}

/-- The first call outside the window starts its clock, unless it is running. -/
theorem anchored_of_outside (h : c.Outside pk windowEnd) (hdated : c.Dated pk) (disk : Disk) :
    Anchored windowEnd c.now (c.enforce pk disk).2 := by
  rw [(enforce_outside h disk).1]
  unfold windowWritten windowRecord
  rcases reconcile_cases (readWindowRecord disk) windowEnd c.now c.cfg.version (pk.formatTime c.cfg.buildDate) with
    hfresh | ⟨record, hstored, hwindow, hopened, hkept⟩
  · rw [hfresh, if_pos rfl]
    obtain ⟨hend, hnow⟩ := hdated windowEnd h.under
    refine ⟨⟨windowEnd, c.now, c.cfg.version, pk.formatTime c.cfg.buildDate⟩, ?_, Int.le_refl _, Int.le_refl _⟩
    unfold readWindowRecord writeWindowRecord
    dsimp only
    rw [if_neg (not_or.mpr ⟨hend, hnow⟩)]
  · rw [hkept]
    exact ⟨record, hstored, hwindow, hopened⟩

/-- A running clock is the record of a later call. -/
theorem windowRecord_of_anchored {record : UpdateWindowRecord} (hstored : readWindowRecord disk = some record)
    (hend : windowEnd ≤ record.windowEnd) (hopened : record.openedAt ≤ c.now) :
    windowRecord pk c.cfg disk windowEnd c.now = (record, false) := by
  unfold windowRecord
  rw [hstored]
  exact reconcile_keeps hend hopened _ _

/-- Under a window that ends no later, nobody restarts it. -/
theorem Anchored.enforce (h : Anchored windowEnd begun disk) (hnow : begun ≤ c.now)
    (hback : ∀ other, c.windowEnd pk = some other → other ≤ windowEnd) :
    Anchored windowEnd begun (c.enforce pk disk).2 := by
  by_cases houtside : ∃ other, c.Outside pk other
  · obtain ⟨other, houtside⟩ := houtside
    obtain ⟨record, hstored, hend, hopened⟩ := h
    have hkept : windowRecord pk c.cfg disk other c.now = (record, false) :=
      windowRecord_of_anchored hstored (Int.le_trans (hback other houtside.under) hend) (Int.le_trans hopened hnow)
    rw [(enforce_outside houtside disk).1]
    unfold windowWritten
    rw [hkept]
    exact ⟨record, hstored, hend, hopened⟩
  · rw [(enforce_inside (not_exists.mp houtside) disk).1]
    exact h

theorem Anchored.afterCalls (calls : List Call) (h : Anchored windowEnd begun disk)
    (hnow : ∀ c ∈ calls, begun ≤ c.now)
    (hback : ∀ c ∈ calls, ∀ other, c.windowEnd pk = some other → other ≤ windowEnd) :
    Anchored windowEnd begun (afterCalls pk disk calls) := by
  induction calls generalizing disk with
  | nil => exact h
  | cons c _ ih =>
    exact ih (h.enforce (hnow c List.mem_cons_self) (hback c List.mem_cons_self))
      (fun d hd => hnow d (List.mem_cons_of_mem c hd)) (fun d hd => hback d (List.mem_cons_of_mem c hd))

/-- While a clock runs that has begun by an instant, the edition ends 30 days after it. -/
theorem Anchored.bridled (h : Anchored windowEnd begun disk) (hnow : begun ≤ c.now)
    (houtside : c.Outside pk windowEnd)
    (hgranted : (c.enforce pk disk).1.edition ≠ .community) : c.now < begun + updateWindowGracePeriod := by
  obtain ⟨record, hstored, hend, hopened⟩ := h
  rw [(enforce_outside houtside disk).2, windowRecord_of_anchored hstored hend (Int.le_trans hopened hnow)] at hgranted
  have hgrace : c.now < updateGraceEnd record := by
    by_contra hover
    rw [if_neg hover] at hgranted
    exact hgranted rfl
  exact Int.lt_of_lt_of_le hgrace (Int.add_le_add_right hopened _)

end Anchored

/-! ## 3. Histories -/

/-- Window ends never move backwards. -/
def Forward (pk : Packages) (calls : List Call) : Prop :=
  calls.Pairwise fun c d => ∀ earlier later, c.windowEnd pk = some earlier → d.windowEnd pk = some later →
    earlier ≤ later

/-- Of two calls outside one window, the later one finds the clock that ran at the earlier one. -/
theorem clock_shared {pk : Packages} {before between after : List Call} {c d : Call} {windowEnd : Time} (disk : Disk)
    (htime : Ordered Call.now (before ++ c :: (between ++ d :: after)))
    (hforward : Forward pk (before ++ c :: (between ++ d :: after))) (hdated : c.Dated pk)
    (hc : c.Outside pk windowEnd) (hd : d.Outside pk windowEnd)
    (hgranted : (d.enforce pk (afterCalls pk disk (before ++ c :: between))).1.edition ≠ .community) :
    d.now < c.now + updateWindowGracePeriod := by
  have htime := (List.pairwise_append.mp htime).2.1
  have hforward := (List.pairwise_append.mp hforward).2.1
  have hsince : ∀ e ∈ between ++ d :: after, c.now ≤ e.now := (List.pairwise_cons.mp htime).1
  have hd' : d ∈ between ++ d :: after := List.mem_append_right _ List.mem_cons_self
  have hbetween := List.pairwise_append.mp (List.pairwise_cons.mp hforward).2
  have hanchored : Anchored windowEnd c.now (afterCalls pk disk (before ++ c :: between)) := by
    unfold afterCalls
    rw [List.foldl_append, List.foldl_cons]
    refine Anchored.afterCalls between (anchored_of_outside hc hdated _) ?_ ?_
    · exact fun e he => hsince e (List.mem_append_left _ he)
    · exact fun e he other hother => hbetween.2.2 e he d List.mem_cons_self other windowEnd hother hd.under
  exact hanchored.bridled (hsince d hd') hd hgranted

/-- **One grace per update window.** In every sequence of calls at times that do not decrease, under windows whose ends
    do not move backwards, with windows and instants that are dated: a build that was released after the end of a window
    keeps its edition only within 30 days of the first such call under that window, and a covered build keeps it
    always. -/
theorem one_grace_per_window (pk : Packages) (disk : Disk) (calls : List Call) (htime : Ordered Call.now calls)
    (hforward : Forward pk calls) (hdated : ∀ c ∈ calls, c.Dated pk) :
    (∀ before c between d after windowEnd, calls = before ++ c :: (between ++ d :: after) →
      c.Outside pk windowEnd → d.Outside pk windowEnd →
      (d.enforce pk (afterCalls pk disk (before ++ c :: between))).1.edition ≠ .community →
      d.now < c.now + updateWindowGracePeriod) ∧
    ∀ before d after, calls = before ++ d :: after → d.Covered pk →
      (d.enforce pk (afterCalls pk disk before)).1.edition = d.state.edition ∧
        (d.enforce pk (afterCalls pk disk before)).1.status = d.state.status := by
  constructor
  · intro before c between d after windowEnd heq hc hd hgranted
    subst heq
    have hmem : c ∈ before ++ c :: (between ++ d :: after) := List.mem_append_right _ List.mem_cons_self
    exact clock_shared disk htime hforward (hdated c hmem) hc hd hgranted
  · intro before d after _ hcovered
    exact (enforce_inside (fun windowEnd h => hcovered windowEnd h.under ⟨h.known, h.after⟩) _).2

section Sample

/-- Packages that read the zero time in its own text, and the given end of a window in any other. -/
def windowPackages (windowEnd : Int) : Packages where
  decodeString _ := .ok [0]
  ed25519Verify _ _ _ := true
  unmarshalSigned body := (⟨body, ""⟩, none)
  unmarshalPayload _ := (⟨"active", "personal", "", [], zeroTime, zeroTime, "", ""⟩, none)
  parseTime _ text := if text = "0001-01-01T00:00:00Z" then some zeroTime else some windowEnd
  formatTime _ := ""
  formatDate _ := ""

/-- A call in a build of the tenth day, under a window that ends as the text says. -/
def callAt (updatesUntil : String) (now : Int) : Call where
  cfg := ⟨"1.1.0", [0], 10 * day, true⟩
  state := { State.zero with edition := .personal, status := "active" }
  payload := ⟨"active", "personal", "", [], zeroTime, zeroTime, "", updatesUntil⟩
  now := now

/-- The window ended on the fifth day; the build is started on the eleventh and again on the fortieth. -/
theorem one_grace_sample :
    ((callAt "1970-01-06T00:00:00Z" (40 * day)).enforce (windowPackages (5 * day))
      (afterCalls (windowPackages (5 * day)) ⟨.missing, none⟩
        [callAt "1970-01-06T00:00:00Z" (11 * day)])).1.edition = .personal ∧
      (40 * day : Int) < 11 * day + updateWindowGracePeriod := by
  have houtside : ∀ now : Int, (callAt "1970-01-06T00:00:00Z" now).Outside (windowPackages (5 * day)) (5 * day) :=
    fun now =>
      ⟨rfl, show Edition.personal ≠ .unknown "" by decide, show Edition.personal ≠ .community by decide, rfl,
      show (5 * day : Int) < 10 * day by decide⟩
  have hgrace := (one_grace_per_window (windowPackages (5 * day)) ⟨.missing, none⟩
    [callAt "1970-01-06T00:00:00Z" (11 * day), callAt "1970-01-06T00:00:00Z" (40 * day)]
    (by
      unfold Ordered
      decide)
    (by
      refine List.pairwise_pair.mpr fun earlier later he hl => ?_
      have heq : earlier = later := Option.some.inj (he.symm.trans hl)
      exact Int.le_of_eq heq)
    (by
      intro c hc windowEnd hend
      have hwindow : windowEnd = 5 * day := by
        simp only [List.mem_cons, List.not_mem_nil, or_false] at hc
        rcases hc with rfl | rfl <;> exact (Option.some.inj hend).symm
      simp only [List.mem_cons, List.not_mem_nil, or_false] at hc
      rw [hwindow]
      rcases hc with rfl | rfl <;> decide)).1
  exact ⟨by decide, hgrace [] _ [] _ [] (5 * day) rfl (houtside _) (houtside _) (by decide)⟩

/-- A window whose end is the zero time, as an unset time is written: the build is started on the eleventh day and again
    on the hundredth, and runs with its edition. -/
theorem zero_window_grace :
    ((callAt "0001-01-01T00:00:00Z" (100 * day)).enforce (windowPackages (5 * day))
      (afterCalls (windowPackages (5 * day)) ⟨.missing, none⟩
        [callAt "0001-01-01T00:00:00Z" (11 * day)])).1.edition = .personal ∧
      (callAt "0001-01-01T00:00:00Z" (11 * day)).Outside (windowPackages (5 * day)) zeroTime ∧
      (callAt "0001-01-01T00:00:00Z" (100 * day)).Outside (windowPackages (5 * day)) zeroTime ∧
      ¬ (100 * day : Int) < 11 * day + updateWindowGracePeriod := by
  exact ⟨by decide, ⟨rfl, by decide, by decide, rfl, by decide⟩,
    ⟨rfl, by decide, by decide, rfl, by decide⟩, by decide⟩

end Sample

/-! ## 4. Managers on one data directory -/

/-- A build, and the manager it runs. -/
structure Host where
  cfg : Config
  world : World

/-- A start, with this build or another one; a check. -/
inductive Act where
  | boot (cfg : Config) (now : Int)
  | check (now : Int) (reply : Reply)

/-- The state that `applyPayload` hands on. -/
def payloadState (payload : LicensePayload) : State :=
  { State.zero with
    edition := resolveEdition payload
    plan := payload.plan
    features := payload.features
    status := payload.status
    verifiedAt := payload.verifiedAt
    expiresAt := payload.expiresAt }

/-- The message of a manager that goes on with its cache. -/
def offlineMessage (current : State) (now : Int) : String :=
  let age := now - current.verifiedAt
  if age > graceDegradationError then
    let daysLeft := (graceDegradationDisabled - age) / day
    "License server unreachable. This instance falls back to the Community edition in " ++ formatDays daysLeft ++ "."
  else if age > graceDegradationWarn then "License server unreachable. Your edition remains active from cache."
  else current.message

namespace Host

variable (pk : Packages)

def step (h : Host) : Act → Host
  | .boot cfg now => ⟨cfg, newManager pk cfg h.world.disk now⟩
  | .check now reply => { h with world := check pk h.cfg h.world now reply }

/-- The call of a check that could not reach the server. -/
def offlineCall (h : Host) (now : Int) : Option Call :=
  let current := h.world.manager.state
  if current.verifiedAt = zeroTime ∨ pastExpiry current.expiresAt now ∨
    now - current.verifiedAt > graceDegradationDisabled then
    none
  else (cached pk h.cfg h.world.disk).map fun payload =>
    ⟨h.cfg, { current with message := offlineMessage current now }, payload, now⟩

/-- The call that an action makes, if it makes one. -/
def call (h : Host) : Act → Option Call
  | .boot cfg now =>
    match cached pk cfg h.world.disk with
    | none => none
    | some payload => if pastExpiry payload.expiresAt now then none
      else some ⟨cfg, payloadState payload, payload, now⟩
  | .check now reply =>
    match fetchLicense pk reply with
    | (.error _, code) => if code = statusUnauthorized ∨ code = statusForbidden then none else h.offlineCall pk now
    | (.ok resp, _) =>
      match verify pk h.cfg.publicKey resp with
      | .error _ => h.offlineCall pk now
      | .ok payload =>
        if payload.status = "active" ∨ payload.status = "grace" then
          some ⟨h.cfg, payloadState payload, payload, now⟩
        else none

/-- The calls of a history. -/
def calls (h : Host) : List Act → List Call
  | [] => []
  | a :: as => (h.call pk a).toList ++ (h.step pk a).calls as

end Host

section Host

variable {pk : Packages} {h : Host}

/-- A state without an edition counts as Community. -/
def settled (e : Edition) : Edition := if e = .unknown "" then .community else e

theorem edition_setState (m : Manager) (s : State) : (m.setStateAndNotify s).edition = settled s.edition := by
  rw [edition_of_known (setState_known m s)]
  unfold settled
  by_cases hs : s.edition = .unknown ""
  · rw [setState_zero hs, if_pos hs]
  · rw [setState_of_known hs, if_neg hs]

/-- What an action has to leave: the window file and the edition of its call. -/
def Left (pk : Packages) (disk : Disk) (w : World) : Option Call → Prop
  | none => w.disk.window = disk.window
  | some c => w.disk.window = (c.enforce pk disk).2.window ∧ w.manager.edition = settled (c.enforce pk disk).1.edition

theorem left_applyPayload (pk : Packages) (cfg : Config) (w : World) (payload : LicensePayload) (now : Int) :
    Left pk w.disk (applyPayload pk cfg w payload now) (some ⟨cfg, payloadState payload, payload, now⟩) :=
  ⟨rfl, edition_setState _ _⟩

theorem left_boot (h : Host) (cfg : Config) (now : Int) :
    Left pk h.world.disk (h.step pk (.boot cfg now)).world (h.call pk (.boot cfg now)) := by
  have hdisk : (World.seed h.world.disk).disk = h.world.disk := rfl
  unfold Host.step Host.call newManager
  dsimp only
  rw [loadCache_eq, hdisk]
  cases cached pk cfg h.world.disk with
  | none => rfl
  | some payload =>
    dsimp only
    split
    · rfl
    · exact left_applyPayload pk cfg (World.seed h.world.disk) payload now

theorem left_degrade (cfg : Config) (w : World) (message : String) (now : Int) :
    Left pk w.disk (degrade pk cfg w message now)
      ((cached pk cfg w.disk).map fun payload =>
        ⟨cfg, { w.manager.state with message := message }, payload, now⟩) := by
  unfold degrade replayUpdateWindow cached
  cases readCache pk w.disk cfg.publicKey with
  | error => rfl
  | ok payload =>
    cases payload with
    | none => rfl
    | some => exact ⟨rfl, edition_setState _ _⟩

theorem left_handleNetworkError (now : Int) :
    Left pk h.world.disk (handleNetworkError pk h.cfg h.world now) (h.offlineCall pk now) := by
  unfold handleNetworkError Host.offlineCall offlineMessage
  dsimp only
  split
  · next hnever =>
    rw [if_pos (.inl hnever)]
    rfl
  · next hseen =>
    split
    · next hpast =>
      rw [if_pos (.inr (.inl hpast))]
      rfl
    · next hvalid =>
      split
      · next hlong =>
        rw [if_pos (.inr (.inr hlong))]
        rfl
      · next hshort =>
        rw [if_neg (not_or.mpr ⟨hseen, not_or.mpr ⟨hvalid, hshort⟩⟩)]
        split
        · exact left_degrade ..
        · split <;> exact left_degrade ..

/-- **An action leaves what its call leaves.** -/
theorem left_step (pk : Packages) (h : Host) (a : Act) : Left pk h.world.disk (h.step pk a).world (h.call pk a) := by
  cases a with
  | boot cfg now => exact left_boot h cfg now
  | check now reply =>
    unfold Host.step Host.call check
    dsimp only
    rcases hfetch : fetchLicense pk reply with ⟨err | resp, code⟩
    · dsimp only
      by_cases hrefused : code = statusUnauthorized ∨ code = statusForbidden
      · rw [if_pos hrefused]
        rcases hrefused with rfl | rfl <;> rfl
      · obtain ⟨hunauthorized, hforbidden⟩ := not_or.mp hrefused
        rw [if_neg hrefused, if_neg hunauthorized, if_neg hforbidden]
        exact left_handleNetworkError now
    · dsimp only
      cases verify pk h.cfg.publicKey resp with
      | error => exact left_handleNetworkError now
      | ok payload =>
        have happlied := left_applyPayload pk h.cfg h.world payload now
        dsimp only
        split
        · next hactive =>
          rw [if_pos (.inl hactive)]
          exact happlied
        · next hinactive =>
          split
          · next hgrace =>
            -- the notice goes with the edition the manager has by then
            have hknown : (applyPayload pk h.cfg h.world payload now).manager.state.edition ≠ .unknown "" :=
              setState_known _ _
            rw [if_pos (.inr hgrace)]
            refine ⟨happlied.1, (edition_setState _ _).trans ?_⟩
            rw [← happlied.2, edition_of_known hknown]
            exact if_neg hknown
          · next hover =>
            rw [if_neg (not_or.mpr ⟨hinactive, hover⟩)]
            split
            · rfl
            · split <;> rfl

/-- A call looks at nothing but the window file. -/
theorem enforce_congr {disk disk' : Disk} (hwindow : disk.window = disk'.window) (c : Call) :
    (c.enforce pk disk).1.edition = (c.enforce pk disk').1.edition ∧
      (c.enforce pk disk).2.window = (c.enforce pk disk').2.window := by
  have hread : readWindowRecord disk = readWindowRecord disk' := by
    unfold readWindowRecord
    rw [hwindow]
  unfold Call.enforce enforceUpdateWindow
  rw [hread]
  cases c.payload.updateWindowEnd pk with
  | none => exact ⟨rfl, hwindow⟩
  | some =>
    dsimp only
    repeat' split
    all_goals first | exact ⟨rfl, hwindow⟩ | exact ⟨rfl, rfl⟩

theorem afterCalls_congr (calls : List Call) {disk disk' : Disk} (hwindow : disk.window = disk'.window) :
    (afterCalls pk disk calls).window = (afterCalls pk disk' calls).window := by
  induction calls generalizing disk disk' with
  | nil => exact hwindow
  | cons c _ ih => exact ih (enforce_congr hwindow c).2

theorem calls_snoc {as : List Act} {b : Act} {d : Call} (hd : (as.foldl (Host.step pk) h).call pk b = some d) :
    h.calls pk (as ++ [b]) = h.calls pk as ++ [d] := by
  induction as generalizing h with
  | nil =>
    show (h.call pk b).toList ++ [] = [d]
    rw [show h.call pk b = some d from hd]
    rfl
  | cons a as ih =>
    show (h.call pk a).toList ++ (h.step pk a).calls pk (as ++ [b]) = _
    rw [ih hd, ← List.append_assoc]
    rfl

/-- The window file after a history is that of its calls. -/
theorem window_history (pk : Packages) (as : List Act) (h : Host) :
    (as.foldl (Host.step pk) h).world.disk.window = (afterCalls pk h.world.disk (h.calls pk as)).window := by
  induction as generalizing h with
  | nil => rfl
  | cons a as ih =>
    have hleft := left_step pk h a
    rw [List.foldl_cons, ih]
    show _ = (afterCalls pk h.world.disk ((h.call pk a).toList ++ (h.step pk a).calls pk as)).window
    cases hcall : h.call pk a <;> rw [hcall] at hleft
    · exact afterCalls_congr _ hleft
    · exact afterCalls_congr _ hleft.1

/-- **Of two actions outside one window, the edition after the later one ends 30 days after the earlier one**, whatever
    was started, checked, updated and rolled back in between. -/
theorem history_one_grace {between : List Act} {a b : Act} {c d : Call} {windowEnd : Time} (h : Host)
    (htime : Ordered Call.now (h.calls pk (a :: between ++ [b])))
    (hforward : Forward pk (h.calls pk (a :: between ++ [b])))
    (hdated : c.Dated pk) (hc : h.call pk a = some c) (houtside : c.Outside pk windowEnd)
    (hd : ((a :: between).foldl (Host.step pk) h).call pk b = some d) (houtside' : d.Outside pk windowEnd)
    (hgranted : ((a :: between ++ [b]).foldl (Host.step pk) h).world.manager.edition ≠ .community) :
    d.now < c.now + updateWindowGracePeriod := by
  let h' := (a :: between).foldl (Host.step pk) h
  have hcalls : h.calls pk (a :: between) = c :: (h.step pk a).calls pk between := by
    rw [Host.calls, hc]
    rfl
  rw [calls_snoc hd, hcalls] at htime hforward
  have htime : Ordered Call.now ([] ++ c :: ((h.step pk a).calls pk between ++ [d])) := htime
  refine clock_shared h.world.disk htime hforward hdated houtside houtside' fun hcommunity => ?_
  -- The manager grants what the call left, on the window file of the calls before it.
  have hleft : Left pk h'.world.disk (h'.step pk b).world (some d) := hd ▸ left_step pk h' b
  have hwindow : h'.world.disk.window = (afterCalls pk h.world.disk (c :: (h.step pk a).calls pk between)).window :=
    hcalls ▸ window_history pk (a :: between) h
  rw [List.foldl_append] at hgranted
  refine hgranted (hleft.2.trans ?_)
  rw [(enforce_congr hwindow d).1]
  exact congrArg settled hcommunity

/-- Managers of a build of the tenth day, on a license whose window ended on the fifth. -/
def endedPackages : Packages :=
  { windowPackages (5 * day) with
    unmarshalPayload := fun _ => ((callAt "1970-01-06T00:00:00Z" 0).payload, none) }

def licensedHost : Host := ⟨(callAt "" 0).cfg, World.seed ⟨.signed ⟨"", ""⟩, none⟩⟩

def bootAt (days : Int) : Act := .boot licensedHost.cfg (days * day)

theorem restarts_share_grace :
    ([bootAt 11, bootAt 40].foldl (Host.step endedPackages) licensedHost).world.manager.edition = .personal ∧
      (40 * day : Int) < 11 * day + updateWindowGracePeriod := by
  refine ⟨by decide, @history_one_grace endedPackages [] (bootAt 11) (bootAt 40) _ _ (5 * day) licensedHost
    (by unfold Ordered; decide) ?_ (fun _ hend => by cases hend; decide) rfl ⟨rfl, by decide, by decide,
      rfl, by decide⟩ rfl
    ⟨rfl, by decide, by decide, rfl, by decide⟩ (by decide)⟩
  exact List.pairwise_pair.mpr fun _ _ he hl => Int.le_of_eq (Option.some.inj (he.symm.trans hl))

end Host

end Maintenant.License
