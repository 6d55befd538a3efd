/-
  File:      Maintenant/Container/Down.lean
  Subject:   THE CLOCK OF CONTAINER_DOWN (internal/alert/down.go: `Check`; internal/container/service.go:
             `handleStateChange`, `handleHealthChange`), over any events of one container and any sweeps.

  The clock is `last_state_change_at`, in whole seconds. A replayed event takes it back together with the
  state, and a health event takes it forward, whatever the history says.

  * `stateAt`, `DownThroughout` -- the history: all events received so far, ordered by timestamp;
  * `Tracks.step` -- what keeps the row in step with the history; `Tracks.sweep` -- a sweep then fires
    exactly for an outage of the threshold's length;
  * `down_clock_measures_outage` -- so it does along every run whose events keep to `Plain`.
-/
import Maintenant.Container.Service
import Maintenant.Alert.Model
import Maintenant.Lib.Passes
import Mathlib.Algebra.Order.Group.Int
import Mathlib.Algebra.Order.Group.Unbundled.Basic

namespace Maintenant.Containers

open GoTime Alerting

/-! ## 1. The sweep -/

/-- What a sweep meets: the clock, the threshold, the active alerts; ids, durations and details as texts. -/
structure Sweeping where
  now : Time
  after : Int
  active : List Alert
  uid : ContainerID → String
  duration : Int → String
  details : Container → Except Unit String

def isDown : ContainerState → Bool
  | .exited | .dead => true
  | _ => false

def downSeverity (c : Container) : String :=
  match c.alertSeverity with
  | .info => severityInfo
  | .warning => severityWarning
  | .critical => severityCritical

def Sweeping.stoppedFor (x : Sweeping) (c : Container) : Int := x.now - ofUnix c.lastStateChangeAt

def Sweeping.isPast (x : Sweeping) (c : Container) : Bool := isDown c.state && decide (x.after ≤ x.stoppedFor c)

def Sweeping.firing (x : Sweeping) : List Alert :=
  x.active.filter fun a => a.alertType == "container_down" && a.entityType == "container"

def Sweeping.downEvent (x : Sweeping) (c : Container) : Event where
  source := "container"
  alertType := "container_down"
  severity := downSeverity c
  isRecover := false
  message := "Container " ++ c.name ++ " has been " ++ (if c.state = .dead then "dead" else "exited") ++ " for " ++
    x.duration (x.stoppedFor c)
  entityType := "container"
  entityID := x.uid c.id
  entityName := c.name
  details := some (x.details c)
  timestamp := x.now

/-- The name is the container's own, if it is still listed. -/
def Sweeping.upEvent (x : Sweeping) (containers : List Container) (a : Alert) : Event :=
  let name := ((containers.find? fun c => x.uid c.id == a.entityID).map Container.name).getD a.entityName
  { source := "container"
    alertType := "container_down"
    severity := severityInfo
    isRecover := true
    message := "Container " ++ name ++ " is running again"
    entityType := "container"
    entityID := a.entityID
    entityName := name
    details := none
    timestamp := x.now }

/-- `Check`: what is past the threshold and not yet firing, then what is firing and no longer past it.
    Neither archived nor ignored containers are listed. -/
def Sweeping.check (x : Sweeping) (rows : List Container) : List Event :=
  let containers := rows.filter fun c => !c.archived && !c.isIgnored
  let down := containers.filter x.isPast
  (down.filter fun c => !x.firing.any (·.entityID == x.uid c.id)).map x.downEvent ++
    (x.firing.filter fun a => !down.any (x.uid ·.id == a.entityID)).map (x.upEvent containers)

/-! ## 2. The history -/

/-- What an event says of the state, as far as it is known. -/
def ContainerEvent.moves (evt : ContainerEvent) (state : Option ContainerState) : Option ContainerState :=
  (evt.action.target evt.exitCode (state.getD .created)).elim state some

/-- The container as it was first stored, its row as the service keeps it (`processEvent_row`), and the
    events received since. -/
structure Watch where
  first : Container
  row : Container
  received : List ContainerEvent

/-- What is known: the first state at its time, and each event at its own. -/
def Watch.known (w : Watch) : List (Time × (Option ContainerState → Option ContainerState)) :=
  (ofUnix w.first.lastStateChangeAt, fun _ => some w.first.state) :: w.received.map fun e => (e.timestamp, e.moves)

/-- The state at an instant, by all that is known in the order of timestamps. -/
def Watch.stateAt (w : Watch) (t : Time) : Option ContainerState :=
  ((w.known.filter fun o => decide (o.1 ≤ t)).insertionSort fun o o' => o.1 ≤ o'.1).foldl (fun s o => o.2 s) none

def Watch.DownThroughout (w : Watch) (a t : Time) : Prop :=
  ∀ u, a ≤ u → u ≤ t → (w.stateAt u).any isDown = true

inductive DownTurn where
  | event (evt : ContainerEvent)
  | sweep (x : Sweeping)

def Watch.step (w : Watch) : DownTurn → Watch
  | .event evt => { w with row := w.row.after evt (w.row.effect evt), received := w.received ++ [evt] }
  | .sweep _ => w

def Sweeping.raises (x : Sweeping) (w : Watch) : Bool := (x.check [w.row]).any (!·.isRecover)

/-- No container_down alert of the container is active. -/
def Sweeping.Quiet (x : Sweeping) (w : Watch) : Prop := x.firing.any (·.entityID == x.uid w.row.id) = false

/-- What is received is known in its order, up to `t`. -/
def Watch.InOrder (w : Watch) (t : Time) : Prop := w.known.Pairwise (·.1 ≤ ·.1) ∧ ∀ o ∈ w.known, o.1 ≤ t

/-- A sweep raises only for an outage that lasted the threshold, and, in time order and unless it is
    raised already, for every one. -/
def MeasuresOutage (w : Watch) : DownTurn → Prop
  | .event _ => True
  | .sweep x => (x.raises w = true → w.DownThroughout (x.now - x.after) x.now) ∧
      (w.InOrder x.now → x.Quiet w → w.DownThroughout (x.now - x.after) x.now → x.raises w = true)

/-- In time order; a change of state comes on a whole second, later than the clock stands, and not from
    one down state to another; no health is reported of a container that is down. -/
def Plain (w : Watch) : DownTurn → Prop
  | .event evt => (∀ o ∈ w.known, o.1 ≤ evt.timestamp) ∧
      (match w.row.effect evt with
      | .keep => true
      | .state new => decide (ofUnix (unix evt.timestamp) = evt.timestamp) &&
          decide (w.row.lastStateChangeAt < unix evt.timestamp) && !(isDown w.row.state && isDown new)
      | .health _ => !isDown w.row.state
      | .archive => false) = true
  | .sweep x => 0 ≤ x.after ∧ ∀ o ∈ w.known, o.1 ≤ x.now

/-- The row is in step with the history: its state is the one since the second `k`, and if it is down,
    it was not just before. -/
structure Tracks (w : Watch) (k : Int) : Prop where
  listed : w.row.archived = false ∧ w.row.isIgnored = false
  ordered : w.known.Pairwise (·.1 ≤ ·.1)
  seen : ∃ o ∈ w.known, o.1 = ofUnix k
  state : ∀ t, ofUnix k ≤ t → w.stateAt t = some w.row.state
  clock : k ≤ w.row.lastStateChangeAt
  down : isDown w.row.state = true → w.row.lastStateChangeAt = k ∧
    ∀ a < ofUnix k, ∃ u, a ≤ u ∧ u < ofUnix k ∧ (w.stateAt u).any isDown = false

/-- An event says of the state what it makes of the row. -/
theorem moves_effect (c : Container) (evt : ContainerEvent) :
    evt.moves (some c.state) = some (c.after evt (c.effect evt)).state := by
  have hstate : ∀ target : Option ContainerState, target.elim (some c.state) some =
      some (c.after evt (target.elim .keep fun new => if c.state = new then .keep else .state new)).state := by
    rintro (_ | new)
    · rfl
    · by_cases h : c.state = new <;> simp [h, Container.after, Container.withState]
  unfold ContainerEvent.moves Container.effect
  cases evt.action with
  | destroy =>
    show some c.state = some (c.archive evt.timestamp).state
    unfold Container.archive
    split <;> rfl
  | healthStatus => cases HealthStatus.ofText evt.healthStatus <;> rfl
  | _ => exact hstate _

namespace Tracks

variable {w : Watch} {k : Int}

/-- In order, the history is as it was received. -/
theorem stateAt_eq (hordered : w.known.Pairwise (·.1 ≤ ·.1)) (t : Time) :
    w.stateAt t = (w.known.filter fun o => decide (o.1 ≤ t)).foldl (fun s o => o.2 s) none := by
  unfold Watch.stateAt
  rw [(hordered.sublist List.filter_sublist).insertionSort_eq]

theorem known_event (evt : ContainerEvent) : (w.step (.event evt)).known = w.known ++ [(evt.timestamp, evt.moves)] := by
  simp [Watch.step, Watch.known]

section Event

variable {evt : ContainerEvent} (htracks : Tracks w k) (hlatest : ∀ o ∈ w.known, o.1 ≤ evt.timestamp)

include htracks hlatest

theorem ordered_event : (w.step (.event evt)).known.Pairwise (·.1 ≤ ·.1) := by
  rw [known_event, List.pairwise_append]
  exact ⟨htracks.ordered, List.pairwise_singleton .., fun o ho o' ho' => List.mem_singleton.mp ho' ▸ hlatest o ho⟩

/-- The latest event comes last in the history. -/
theorem stateAt_event (t : Time) : (w.step (.event evt)).stateAt t =
    if evt.timestamp ≤ t then evt.moves (w.stateAt t) else w.stateAt t := by
  rw [stateAt_eq (ordered_event htracks hlatest), stateAt_eq htracks.ordered, known_event, List.filter_append,
    List.foldl_append]
  by_cases ht : evt.timestamp ≤ t <;> simp [ht]

/-- The state stays, and so does the clock, unless the container is up. -/
theorem keep (hrow : (w.row.after evt (w.row.effect evt)).state = w.row.state ∧
      (w.row.after evt (w.row.effect evt)).archived = w.row.archived ∧
      (w.row.after evt (w.row.effect evt)).isIgnored = w.row.isIgnored)
    (hclock : k ≤ (w.row.after evt (w.row.effect evt)).lastStateChangeAt) (hdown : isDown w.row.state = true →
      (w.row.after evt (w.row.effect evt)).lastStateChangeAt = w.row.lastStateChangeAt) :
    Tracks (w.step (.event evt)) k := by
  obtain ⟨o, ho, hk⟩ := htracks.seen
  have hsame : ∀ t, (w.step (.event evt)).stateAt t = w.stateAt t := by
    intro t
    rw [stateAt_event htracks hlatest]
    split
    · next ht => rw [htracks.state t (hk ▸ (hlatest o ho).trans ht), moves_effect, hrow.1]
    · rfl
  refine ⟨⟨hrow.2.1.trans htracks.listed.1, hrow.2.2.trans htracks.listed.2⟩, ordered_event htracks hlatest,
    ⟨o, known_event evt ▸ List.mem_append_left _ ho, hk⟩, fun t ht => ?_, hclock, fun h => ?_⟩
  · rw [hsame, htracks.state t ht]
    exact congrArg some hrow.1.symm
  · have hold : isDown w.row.state = true := hrow.1 ▸ h
    simp only [hsame]
    exact ⟨(hdown hold).trans (htracks.down hold).1, (htracks.down hold).2⟩

end Event

/-- **A plain event keeps the row in step.** -/
theorem step (htracks : Tracks w k) {evt : ContainerEvent} (hplain : Plain w (.event evt)) :
    ∃ k', Tracks (w.step (.event evt)) k' := by
  obtain ⟨hlatest, heffect⟩ := hplain
  obtain ⟨o, ho, hk⟩ := htracks.seen
  have hafter : ofUnix k ≤ evt.timestamp := hk ▸ hlatest o ho
  cases he : w.row.effect evt with
  | keep =>
    refine ⟨k, htracks.keep hlatest ?_ ?_ ?_⟩ <;> rw [he]
    · exact ⟨rfl, rfl, rfl⟩
    · exact htracks.clock
    · exact fun _ => rfl
  | archive => simp [he] at heffect
  | health =>
    simp only [he, Bool.not_eq_true'] at heffect
    refine ⟨k, htracks.keep hlatest ?_ ?_ ?_⟩ <;> rw [he]
    · exact ⟨rfl, rfl, rfl⟩
    · exact (Int.le_ediv_iff_mul_le (by decide)).mpr hafter
    · intro h
      simp [heffect] at h
  | state new =>
    simp only [he, Bool.and_eq_true, decide_eq_true_eq, Bool.not_eq_true'] at heffect
    obtain ⟨⟨hwhole, hlater⟩, hchange⟩ := heffect
    have hrow : (w.step (.event evt)).row = w.row.withState evt new := congrArg (w.row.after evt) he
    have hmoves : evt.moves (some w.row.state) = some new := by rw [moves_effect, he]; rfl
    refine ⟨unix evt.timestamp, hrow ▸ htracks.listed, ordered_event htracks hlatest,
      ⟨_, known_event evt ▸ List.mem_append_right _ List.mem_cons_self, hwhole.symm⟩, fun t ht => ?_,
      hrow ▸ le_refl _, fun h => ⟨hrow ▸ rfl, fun a ha => ?_⟩⟩
    · rw [hwhole] at ht
      rw [stateAt_event htracks hlatest, if_pos ht, htracks.state t (hafter.trans ht), hmoves, hrow]
      rfl
    · rw [hwhole] at ha ⊢
      have hbefore : ofUnix k < evt.timestamp :=
        hwhole ▸ Int.mul_lt_mul_of_pos_right (lt_of_le_of_lt htracks.clock hlater) (by decide)
      refine ⟨max a (ofUnix k), le_max_left .., max_lt ha hbefore, ?_⟩
      rw [stateAt_event htracks hlatest, if_neg (not_le.mpr (max_lt ha hbefore)), htracks.state _ (le_max_right ..)]
      rw [hrow] at h
      have hnew : isDown new = true := h
      simpa [hnew] using hchange

/-- **A sweep fires exactly for an outage of the threshold's length**, unless it is known already. -/
theorem sweep (htracks : Tracks w k) {x : Sweeping} (hplain : Plain w (.sweep x)) :
    x.raises w = true ↔ w.DownThroughout (x.now - x.after) x.now ∧ x.Quiet w := by
  obtain ⟨hafter, hlatest⟩ := hplain
  obtain ⟨o, ho, hk⟩ := htracks.seen
  have hnow : ofUnix k ≤ x.now := hk ▸ hlatest o ho
  have hraises : x.raises w = true ↔ x.isPast w.row = true ∧ x.Quiet w := by
    unfold Sweeping.raises Sweeping.Quiet Sweeping.check
    cases hpast : x.isPast w.row <;> cases hfiring : x.firing.any (·.entityID == x.uid w.row.id) <;>
      simp_all [htracks.listed, Sweeping.downEvent, Sweeping.upEvent]
  rw [hraises]
  refine and_congr_left fun _ => ?_
  unfold Sweeping.isPast Sweeping.stoppedFor
  rw [Bool.and_eq_true, decide_eq_true_eq]
  constructor
  · rintro ⟨hdown, hlong⟩ u hu _
    rw [(htracks.down hdown).1] at hlong
    rw [htracks.state u ((le_sub_comm.mp hlong).trans hu)]
    exact hdown
  · intro h
    have hdown : isDown w.row.state = true := by
      have := h x.now (sub_le_self _ hafter) le_rfl
      rwa [htracks.state x.now hnow] at this
    refine ⟨hdown, ?_⟩
    obtain ⟨hlast, hup⟩ := htracks.down hdown
    rw [hlast]
    by_contra hshort
    obtain ⟨u, hu, hbefore, hnot⟩ := hup (x.now - x.after) (lt_of_not_ge (mt le_sub_comm.mp hshort))
    simp [h u hu (hbefore.le.trans hnow)] at hnot

end Tracks

/-- **The down clock measures the outage** along every run of plain events and sweeps. -/
theorem down_clock_measures_outage {c : Container} (hlisted : c.archived = false ∧ c.isIgnored = false)
    {turns : List DownTurn} (hplain : Passes.Along Watch.step Plain ⟨c, c, []⟩ turns) :
    Passes.Along Watch.step MeasuresOutage ⟨c, c, []⟩ turns := by
  have hstart : ∃ k, Tracks ⟨c, c, []⟩ k := by
    refine ⟨c.lastStateChangeAt, hlisted, List.pairwise_singleton .., ⟨_, List.mem_singleton_self _, rfl⟩,
      fun t ht => ?_, le_rfl, fun _ => ⟨rfl, fun a ha => ⟨a, le_rfl, ha, ?_⟩⟩⟩
    · simp [Watch.stateAt, Watch.known, ht]
    · simp [Watch.stateAt, Watch.known, ha]
  refine (Passes.along_iff_of_inv (J := fun w => ∃ k, Tracks w k) hplain ?_ hstart).mpr hplain
  rintro w (evt | x) - hplain ⟨k, htracks⟩
  · exact ⟨iff_of_true trivial hplain, fun _ => htracks.step hplain⟩
  · have hsweep := htracks.sweep hplain
    exact ⟨iff_of_true ⟨fun h => (hsweep.mp h).1, fun _ hquiet h => hsweep.mpr ⟨h, hquiet⟩⟩ hplain, fun _ =>
      ⟨k, htracks⟩⟩

/-- The container `web`, running since the epoch. -/
def web : Container :=
  ⟨⟨localAgent, "web"⟩, "web", "nginx", .running, none, true, "", "", "", "", false, .critical, 3, "", false,
    none, 0, 0, "docker", 1, 1⟩

def webEvent (action : Action) (at_ : Int) (replayed : Bool) : DownTurn :=
  .event ⟨action, "", "web", "1", "unhealthy", ofUnix at_, replayed⟩

/-- A sweep with a threshold of a minute. -/
def webSweep (at_ : Int) : Sweeping :=
  ⟨ofUnix at_, 60 * second, [], ContainerID.externalID, toString, fun _ => .ok ""⟩

/-- The container dies, and is found a minute later. -/
theorem web_down : Passes.Along Watch.step MeasuresOutage ⟨web, web, []⟩
    [webEvent .die 10 false, .sweep (webSweep 70)] :=
  down_clock_measures_outage ⟨rfl, rfl⟩ ⟨⟨by decide, by decide⟩, ⟨by decide, by decide⟩, trivial⟩

/-- A death replayed after the start that followed it raises an alert for a running container. -/
theorem web_replayed :
    let w := [webEvent .start 100 false, webEvent .die 10 true].foldl Watch.step ⟨web, web, []⟩
    (webSweep 200).raises w ∧ w.stateAt (ofUnix 200) = some .running := by
  decide

end Maintenant.Containers
