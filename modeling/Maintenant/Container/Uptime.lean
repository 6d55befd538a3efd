/-
  File:      Maintenant/Container/Uptime.lean
  Subject:   THE UPTIME OF A CONTAINER OVER A WINDOW (internal/container/uptime.go and the listing of
             transitions in internal/store/containers.go).

  A history is what `ORDER BY timestamp` lists of one container. Its queries read the index on
  (container, timestamp DESC), in which rows of one second stand as they were recorded: ascending, it
  is read backwards, and of one second the row that was recorded last is listed first.

  The percentages are float64 numbers: `Arith` is what is done with them. The durations they are taken
  of are exact, and `upTime` is the one `computeUptime` takes its share of.

  * `upTime_eq_held` -- the loop over the transitions it is given measures exactly the time during
    which the state in force is up;
  * `held_window` -- what the transitions inside a window miss of the truth: the time before the first
    of them, if the container was up then;
  * **`windowUptime_iff`** -- when the window's up-time is the true one: with no transition in the
    window, exactly when the container was up; with one, when that time and what the order of rows of
    one second takes and adds make up for each other.
-/
import Maintenant.Lib.Steps
import Maintenant.Container.Model
import Mathlib.Data.Rat.Cast.Order

namespace Maintenant.Containers

open GoTime Steps

/-! ## 1. Histories -/

/-- The instant of a transition: the column holds whole seconds. -/
def StateTransition.time (t : StateTransition) : Int := ofUnix t.timestamp

def isUp (t : StateTransition) : Bool :=
  if t.newState ≠ .running then false
  else if t.newHealth = some .unhealthy then false
  else true

/-- The transitions of one container, in the order in which `ORDER BY timestamp` lists them: those of
    one second in the reverse of the order in which they were recorded. -/
structure History where
  rows : List StateTransition
  ordered : Ordered StateTransition.timestamp rows

namespace History

/-- The row of the same second that was recorded last. -/
def newest (h : History) (t : StateTransition) : StateTransition :=
  (h.rows.find? fun u => u.timestamp == t.timestamp).getD t

/-- The second of the row leaves the container up. -/
def leavesUp (h : History) (t : StateTransition) : Bool := isUp (h.newest t)

/-- The time of `[a, b)` during which the state in force is up, that of the row recorded last. Before
    the first transition no state is in force. -/
def trueUpTime (h : History) (a b : Int) : Int := held StateTransition.time h.leavesUp h.rows a b

/-- The time that the listing `ts` takes: the row in force is listed last of its second and is down,
    the one that was recorded last is up. -/
def lost (h : History) (ts : List StateTransition) (a b : Int) : Int :=
  held StateTransition.time (fun t => h.leavesUp t && !isUp t) ts a b

/-- The time that it adds, the other way round. -/
def gained (h : History) (ts : List StateTransition) (a b : Int) : Int :=
  held StateTransition.time (fun t => isUp t && !h.leavesUp t) ts a b

/-- `GetTransitionsInWindow`. -/
def getTransitionsInWindow (h : History) (start stop : Int) : List StateTransition :=
  h.rows.filter fun t => decide (unix start ≤ t.timestamp) && decide (t.timestamp ≤ unix stop)

/-- `… timestamp < ? ORDER BY timestamp DESC LIMIT 1`. -/
def lastBefore (h : History) (start : Int) : Option StateTransition :=
  (h.rows.filter fun t => decide (t.timestamp < unix start)).getLast?

/-- The container was up when the window began. -/
def upBefore (h : History) (start : Int) : Bool := (h.lastBefore start).any h.leavesUp

end History

/-! ## 2. The share of a window -/

/-- The float64 operations: adding a span to the seconds, and the percentage of a window, at most 100
    and cut to two decimals. -/
structure Arith (α : Type) where
  zero : α
  hundred : α
  add : α → Int → α
  percent : α → Int → α

/-- Where the span of a transition ends: at the next one, or at the end of the window. -/
def spanEnd (stop : Int) : List StateTransition → Int
  | [] => stop
  | next :: _ => next.time

/-- The spans that are added up, one for each transition into an up state: from the transition or the
    start of the window to the next transition or the end of the window. -/
def upSpans (start stop : Int) : List StateTransition → List Int
  | [] => []
  | t :: rest =>
    let spanStart := if t.time < start then start else t.time
    let ending := if stop < spanEnd stop rest then stop else spanEnd stop rest
    let span := ending - spanStart
    if span ≤ 0 then upSpans start stop rest
    else if isUp t then span :: upSpans start stop rest
    else upSpans start stop rest

def computeUptime {α : Type} (A : Arith α) (transitions : List StateTransition) (start stop : Int) : α :=
  if stop - start ≤ 0 then A.zero
  else if transitions.isEmpty then A.hundred
  else A.percent ((upSpans start stop transitions).foldl A.add A.zero) (stop - start)

/-- The duration behind the percentage. -/
def upTime (transitions : List StateTransition) (start stop : Int) : Int :=
  if stop - start ≤ 0 then 0
  else if transitions.isEmpty then stop - start
  else (upSpans start stop transitions).sum

/-- The same computation without rounding. -/
def Arith.exact : Arith ℚ where
  zero := 0
  hundred := 100
  add up span := up + span
  percent up total := up / total * 100

/-- An entry of the calculator's cache. -/
structure CacheEntry (α : Type) where
  value : α
  expiresAt : Int

def uptimeCacheTTL : Int := 60 * second

/-- What `calculateWindow` computes when the cache does not answer, with the measure it applies to the
    transitions of the window: `computeUptime A`, or `upTime` for the duration behind it. -/
def windowUptime {β : Type} (measure : List StateTransition → Int → Int → β) (h : History)
    (window : Int) (now : Int) : β :=
  let start := now - window
  measure (h.getTransitionsInWindow start now) start now

/-- `calculateWindow`, with its three readings of the clock. Only the window of 24 hours is cached. -/
def calculateWindow {β : Type} (measure : List StateTransition → Int → Int → β)
    (transitions : ContainerID → History) (cache : ContainerID × String → Option (CacheEntry β))
    (id : ContainerID) (window : Int) (windowName : String) (asked now stored : Int) :
    β × (ContainerID × String → Option (CacheEntry β)) :=
  let served := (cache (id, windowName)).filter fun e => windowName == "24h" && decide (asked < e.expiresAt)
  match served with
  | some e => (e.value, cache)
  | none =>
    let pct := windowUptime measure (transitions id) window now
    let entry := { value := pct, expiresAt := stored + uptimeCacheTTL }
    (pct, if windowName = "24h" then Function.update cache (id, windowName) (some entry) else cache)

/-! ## 3. The loop -/

variable {ts : List StateTransition}

/-- One turn of the loop. -/
theorem upSpans_cons_sum (t : StateTransition) (rest : List StateTransition) (start stop : Int) :
    (upSpans start stop (t :: rest)).sum =
      (if isUp t then max 0 (min stop (spanEnd stop rest) - max start t.time) else 0) +
        (upSpans start stop rest).sum := by
  rw [upSpans]
  generalize spanEnd stop rest = ending
  have hstart : (if t.time < start then start else t.time) = max start t.time := by
    split <;> omega
  have hending : (if stop < ending then stop else ending) = min stop ending := by
    split <;> omega
  simp only [hstart, hending]
  by_cases hspan : min stop ending - max start t.time ≤ 0
  · rw [if_pos hspan, max_eq_left hspan, ite_self, Int.zero_add]
  · have hpos : 0 ≤ min stop ending - max start t.time := by omega
    rw [if_neg hspan, max_eq_right hpos]
    cases isUp t with
    | false => rw [if_neg (by decide), if_neg (by decide), Int.zero_add]
    | true => rw [if_pos rfl, if_pos rfl, List.sum_cons]

/-- The loop adds up the time during which the state in force is up. -/
theorem upSpans_sum (hs : Ordered StateTransition.time ts) (start stop : Int) :
    (upSpans start stop ts).sum = held StateTransition.time isUp ts start stop := by
  induction ts with
  | nil =>
    rw [held_nil]
    rfl
  | cons _ rest ih =>
    rw [upSpans_cons_sum, ih hs.tail]
    cases rest with
    | nil => rw [held_singleton, held_nil, spanEnd, min_self, Int.add_zero]
    | cons => rw [held_cons_cons hs, spanEnd]

theorem upTime_eq_held (hne : ts ≠ []) (hs : Ordered StateTransition.time ts) (start stop : Int) :
    upTime ts start stop = held StateTransition.time isUp ts start stop := by
  unfold upTime
  by_cases hspan : stop - start ≤ 0
  · rw [if_pos hspan, held, lasts_of_le (by omega)]
  · rw [if_neg hspan, if_neg (by simpa using hne), upSpans_sum hs]

theorem foldl_exact (spans : List Int) (up : ℚ) : spans.foldl Arith.exact.add up = up + (spans.sum : Int) := by
  induction spans generalizing up with
  | nil => simp
  | cons _ _ ih =>
    rw [List.foldl_cons, ih, List.sum_cons]
    simp only [Arith.exact, Int.cast_add, add_assoc]

/-- Without rounding the percentage is the share of `upTime`. -/
theorem computeUptime_exact (ts : List StateTransition) {start stop : Int} (h : start < stop) :
    computeUptime Arith.exact ts start stop = (upTime ts start stop : ℚ) / ((stop - start : Int) : ℚ) * 100 := by
  have hspan : ¬stop - start ≤ 0 := by omega
  unfold computeUptime upTime
  rw [if_neg hspan, if_neg hspan]
  by_cases hts : ts.isEmpty = true
  · have hne : ((stop - start : Int) : ℚ) ≠ 0 := Int.cast_ne_zero.mpr (by omega)
    rw [if_pos hts, if_pos hts, div_self hne]
    simp [Arith.exact]
  · rw [if_neg hts, if_neg hts, foldl_exact]
    simp [Arith.exact]

/-! ## 4. What a window misses -/

section Window

variable {h : History} {start stop : Int} {t : StateTransition}

theorem time_mono {t u : StateTransition} : t.time ≤ u.time ↔ t.timestamp ≤ u.timestamp := by
  unfold StateTransition.time ofUnix second
  omega

theorem ordered_time (hs : Ordered StateTransition.timestamp ts) : Ordered StateTransition.time ts :=
  List.Pairwise.imp (fun hle => time_mono.mpr hle) hs

/-- A row of an earlier second is earlier. -/
theorem time_lt_of_timestamp_lt (hlt : t.timestamp < unix start) : t.time < start := by
  unfold unix second at hlt
  unfold StateTransition.time ofUnix second
  omega

theorem time_le_iff : t.time ≤ stop ↔ t.timestamp ≤ unix stop := by
  unfold StateTransition.time ofUnix unix second
  omega

namespace History

/-- The rows before a second. -/
def before (h : History) (start : Int) : List StateTransition :=
  h.rows.filter fun t => decide (t.timestamp < unix start)

/-- The rows from a second on. -/
def since (h : History) (start : Int) : List StateTransition :=
  h.rows.filter fun t => decide (unix start ≤ t.timestamp)

theorem rows_eq (h : History) (start : Int) : h.rows = h.before start ++ h.since start :=
  h.ordered.split (unix start)

theorem mem_before (ht : t ∈ h.before start) : t.timestamp < unix start := by
  simpa using (List.mem_filter.mp ht).2

theorem mem_since (ht : t ∈ h.since start) : unix start ≤ t.timestamp := by
  simpa using (List.mem_filter.mp ht).2

theorem since_ordered (h : History) (start : Int) : Ordered StateTransition.time (h.since start) :=
  ordered_time (Ordered.filter _ h.ordered)

/-- The listing of a window is that of its start without what came after its end. -/
theorem since_eq (h : History) (start stop : Int) : h.since start = h.getTransitionsInWindow start stop ++
      (h.since start).filter fun t => decide (unix stop + 1 ≤ t.timestamp) := by
  have hwindow : h.getTransitionsInWindow start stop =
      (h.since start).filter fun t => decide (t.timestamp < unix stop + 1) := by
    unfold getTransitionsInWindow since
    rw [List.filter_filter]
    apply List.filter_congr
    intro t _
    have hiff : (t.timestamp ≤ unix stop) ↔ (t.timestamp < unix stop + 1) := by omega
    simp only [hiff, Bool.and_comm]
  rw [hwindow]
  exact (Ordered.filter _ h.ordered).split (unix stop + 1)

theorem window_ordered (h : History) (start stop : Int) :
    Ordered StateTransition.time (h.getTransitionsInWindow start stop) :=
  ordered_time (Ordered.filter _ h.ordered)

theorem later_of_mem {ts : List StateTransition}
    (ht : t ∈ ts.filter fun t => decide (unix stop + 1 ≤ t.timestamp)) : stop < t.time := by
  have hge : unix stop + 1 ≤ t.timestamp := by simpa using (List.mem_filter.mp ht).2
  rw [← not_le, time_le_iff]
  omega

/-- The state of a window is told by its transitions and the last one before it. -/
theorem held_window (h : History) (up : StateTransition → Bool) (start stop : Int) :
    held StateTransition.time up h.rows start stop = held StateTransition.time up
      ((h.lastBefore start).toList ++ h.getTransitionsInWindow start stop) start stop := by
  rw [h.rows_eq start, h.since_eq start stop, ← List.append_assoc]
  exact held_recent (fun t ht => (time_lt_of_timestamp_lt (mem_before ht)).le) fun t ht => (later_of_mem ht).le

/-- **What the transitions inside a window miss**: the time before the first of them, if the container
    was up then. -/
theorem held_window_cons (h : History) {rest : List StateTransition}
    (ht : h.getTransitionsInWindow start stop = t :: rest) : h.trueUpTime start stop =
      (if h.upBefore start then max start t.time - start else 0) +
        held StateTransition.time h.leavesUp (t :: rest) start stop := by
  have hord := h.window_ordered start stop
  have hmem : t ∈ h.getTransitionsInWindow start stop := ht ▸ List.mem_cons_self
  have hin : unix start ≤ t.timestamp ∧ t.timestamp ≤ unix stop := by simpa using (List.mem_filter.mp hmem).2
  rw [trueUpTime, held_window, upBefore]
  cases hs : h.lastBefore start with
  | none => simp [ht]
  | some s =>
    have hbefore := mem_before (List.mem_of_getLast? hs)
    have hstart := time_lt_of_timestamp_lt hbefore
    have hstop := time_le_iff.mpr hin.2
    have hspan : max 0 (min stop t.time - max start s.time) = max start t.time - start := by omega
    rw [ht] at hord ⊢
    have hle : s.time ≤ t.time := time_mono.mpr (by omega)
    have hseeded : Ordered StateTransition.time (s :: t :: rest) :=
      List.pairwise_cons.mpr ⟨fun u hu => hle.trans (hord.head_le u hu), hord⟩
    exact (held_cons_cons hseeded start stop).trans (by rw [hspan]; rfl)

/-- Without a transition the state stays as it was. -/
theorem held_window_nil (h : History) (hle : start ≤ stop) (ht : h.getTransitionsInWindow start stop = []) :
    h.trueUpTime start stop = if h.upBefore start then stop - start else 0 := by
  rw [trueUpTime, held_window, ht, List.append_nil, upBefore]
  cases hs : h.lastBefore start with
  | none => exact held_nil _ _ _ _
  | some s =>
    have hstart := time_lt_of_timestamp_lt (mem_before (List.mem_of_getLast? hs))
    have hspan : max 0 (stop - max start s.time) = stop - start := by omega
    exact (held_singleton _ _ s start stop).trans (by rw [hspan]; rfl)

end History

end Window

/-! ## 5. The up-time of a window -/

/-- What the window's up-time rests on: with no transition in the window, that the container was up
    before; with one, that the time before it, if the container was up then, and the time that the
    order of the listing takes are as long as the time that it adds. -/
def WindowKnown (h : History) (start stop : Int) : Prop :=
  stop ≤ start ∨ match h.getTransitionsInWindow start stop with
    | [] => h.upBefore start = true
    | t :: rest => (if h.upBefore start then max start t.time - start else 0) + h.lost (t :: rest) start stop =
        h.gained (t :: rest) start stop

/-- **The up-time of a window is the true one exactly when the window knows it**, and without rounding
    the percentage is its share. -/
theorem windowUptime_iff (h : History) (window : Int) (now : Int) :
    (windowUptime upTime h window now = h.trueUpTime (now - window) now ↔ WindowKnown h (now - window) now) ∧
      (0 < window → windowUptime (computeUptime Arith.exact) h window now =
        ((windowUptime upTime h window now : Int) : ℚ) / window * 100) := by
  refine ⟨?_, fun hpos => ?_⟩
  · simp only [windowUptime, WindowKnown]
    generalize now - window = start
    by_cases hle : now ≤ start
    · -- An empty window has no up-time.
      have htrue : h.trueUpTime start now = 0 := lasts_of_le hle
      have hcode : upTime (h.getTransitionsInWindow start now) start now = 0 := if_pos (by omega)
      rw [htrue, hcode]
      exact ⟨fun _ => .inl hle, fun _ => rfl⟩
    · rw [or_iff_right hle]
      cases hw : h.getTransitionsInWindow start now with
      | nil =>
        have hall : upTime [] start now = now - start := by
          unfold upTime
          rw [if_neg (by omega)]
          rfl
        rw [h.held_window_nil (by omega) hw, hall]
        cases h.upBefore start
        · simp
          omega
        · simp
      | cons t rest =>
        have hord := h.window_ordered start now
        rw [hw] at hord
        have hdiff : _ + h.lost (t :: rest) start now = _ + h.gained (t :: rest) start now :=
          held_add_diff StateTransition.time isUp h.leavesUp (t :: rest) start now
        rw [h.held_window_cons hw, upTime_eq_held (List.cons_ne_nil t rest) hord]
        omega
  · have hshare := computeUptime_exact (h.getTransitionsInWindow (now - window) now)
      (show now - window < now by omega)
    rw [sub_sub_cancel] at hshare
    exact hshare

def sampleTransition (previous new : ContainerState) (timestamp : Int) : StateTransition where
  containerID := ⟨localAgent, "a"⟩
  previousState := previous
  newState := new
  previousHealth := none
  newHealth := none
  exitCode := none
  logSnippet := ""
  timestamp := timestamp

/-- Stopped long ago, and not started since. -/
def stoppedHistory : History where
  rows := [sampleTransition .running .exited 0]
  ordered := List.pairwise_singleton _ _

/-- The container that was stopped ten days ago counts as up for the whole of the last day. -/
theorem windowUptime_stopped :
    windowUptime upTime stoppedHistory (86400 * second) (864000 * second) = 86400 * second ∧
      stoppedHistory.trueUpTime (864000 * second - 86400 * second) (864000 * second) = 0 := by
  refine ⟨by decide, lasts_eq_zero_iff.mpr fun x _ _ => ?_⟩
  show upAt _ _ [_] x = false
  rw [upAt_cons_before (List.forall_mem_nil _)]
  simp [History.leavesUp, History.newest, stoppedHistory, isUp, sampleTransition]

end Maintenant.Containers
