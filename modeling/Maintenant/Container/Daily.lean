/-
  File:      Maintenant/Container/Daily.lean
  Subject:   THE DAILY UPTIME OF A CONTAINER (`GetContainerDailyUptime` of internal/store/
             uptime_daily.go).

  A day is its first instant in UTC; the text of its date is left out. The series is most recent first.
  It is built with the measure that `computeUptime` or, for the duration behind it, `upTime` is.

  * `held_seeded` -- from the start of the window on, the last transition before it and those after it
    tell the state of the whole history;
  * `dayReport_eq` -- one day: what is measured of it is clipped to what is known, and each fall of the
    day is counted;
  * **`dailyUptime_partitions_iff`** -- the series: the days, their sum, each fall in exactly one of
    them, and when every up-time is the true one.
-/
import Maintenant.Container.Uptime

namespace Maintenant.Containers

open GoTime Steps

/-! ## 1. The code -/

/-- A day in UTC. -/
def dayLength : Int := 86400 * second

/-- The number of days that is reported. -/
def reportedDays (days : Int) : Nat :=
  if days ≤ 0 then 90
  else if 365 < days then 365
  else days.toNat

/-- `startOfToday`. -/
def startOfToday (now : Int) : Int := now / dayLength * dayLength

/-- `startOfToday.AddDate(0, 0, -i)`. -/
def dayStart (now : Int) (i : Nat) : Int := startOfToday now - i * dayLength

/-- The end of a day, or now. -/
def dayEnd (now : Int) (i : Nat) : Int :=
  if now < dayStart now i + dayLength then now else dayStart now i + dayLength

/-- `windowStart`. -/
def windowStart (now : Int) (n : Nat) : Int := startOfToday now - ((n : Int) - 1) * dayLength

structure DailyUptime (β : Type) where
  date : Int
  uptimePercent : Option β
  incidentCount : Nat
deriving DecidableEq

/-- From an up state into another one. -/
def wentDown (t : StateTransition) : Bool :=
  let prevUp := t.previousState == .running && t.previousHealth != some .unhealthy
  let newUp := t.newState == .running && t.newHealth != some .unhealthy
  prevUp && !newUp

def countContainerIncidents (transitions : List StateTransition) (start stop : Int) : Nat :=
  transitions.countP fun t => !(decide (t.time < start) || !decide (t.time < stop)) && wentDown t

namespace History

/-- The last transition before the window, and those since its start. -/
def seeded (h : History) (start : Int) : List StateTransition :=
  (h.lastBefore start).toList ++ h.since start

/-- Where the data of the window begins, if there is any. -/
def dataStart (h : History) (start : Int) : Option Int :=
  if (h.lastBefore start).isSome then some start else (h.seeded start).head?.map StateTransition.time

end History

variable {β : Type}

/-- One turn of the loop over the days. -/
def dayReport (measure : List StateTransition → Int → Int → β) (transitions : List StateTransition)
    (dataStart : Option Int) (now : Int) (i : Nat) : DailyUptime β :=
  match dataStart with
  | none => ⟨dayStart now i, none, 0⟩
  | some d =>
    let start := if dayStart now i < d then d else dayStart now i
    if ¬start < dayEnd now i then ⟨dayStart now i, none, 0⟩
    else ⟨dayStart now i, some (measure transitions start (dayEnd now i)),
      countContainerIncidents transitions start (dayEnd now i)⟩

/-- The series of a container's days. -/
def dailyUptime (measure : List StateTransition → Int → Int → β) (h : History) (days now : Int) :
    List (DailyUptime β) :=
  let n := reportedDays days
  let start := windowStart now n
  (List.range n).map (dayReport measure (h.seeded start) (h.dataStart start) now)

/-- `GetContainerDailyUptime`. -/
def getContainerDailyUptime {α : Type} (A : Arith α) (h : History) (days now : Int) :
    List (DailyUptime α) :=
  dailyUptime (computeUptime A) h days now

/-! ## 2. Days -/

section Days

variable {now : Int} {i n : Nat}

theorem dayLength_pos : 0 < dayLength := by decide

theorem startOfToday_range (now : Int) : startOfToday now ≤ now ∧ now < startOfToday now + dayLength := by
  unfold startOfToday dayLength second
  omega

theorem dayEnd_eq (now : Int) (i : Nat) : dayEnd now i = min (dayStart now i + dayLength) now := by
  unfold dayEnd
  split <;> omega

/-- The days of the report lie in its window. -/
theorem windowStart_le (hi : i < n) : windowStart now n ≤ dayStart now i := by
  have hle : (i : Int) ≤ (n : Int) - 1 := by omega
  have hmul := Int.mul_le_mul_of_nonneg_right hle dayLength_pos.le
  unfold windowStart dayStart
  omega

theorem windowStart_succ (now : Int) (n : Nat) : windowStart now (n + 1) = dayStart now n := by
  unfold windowStart dayStart
  have hcast : ((n + 1 : Nat) : Int) - 1 = n := by omega
  rw [hcast]

/-- The first day of the window. -/
theorem dayStart_first (now : Int) (hn : 0 < n) : dayStart now (n - 1) = windowStart now n := by
  rw [← windowStart_succ, Nat.sub_add_cancel hn]

/-- A later day begins no earlier than the end of the one before it. -/
theorem dayStart_later (now : Int) {j : Nat} (hij : i + 1 ≤ j) : dayStart now j + dayLength ≤ dayStart now i := by
  have hle : (i : Int) + 1 ≤ j := by omega
  have hmul := Int.mul_le_mul_of_nonneg_right hle dayLength_pos.le
  rw [Int.add_mul, Int.one_mul] at hmul
  unfold dayStart
  omega

theorem reportedDays_pos (days : Int) : 0 < reportedDays days := by
  unfold reportedDays
  split
  · decide
  · split
    · decide
    · omega

/-- The window begins at a whole second. -/
theorem ofUnix_windowStart (now : Int) (n : Nat) : ofUnix (unix (windowStart now n)) = windowStart now n := by
  have hday : dayLength = 86400 * second := rfl
  have hmul : windowStart now n = (now / dayLength - ((n : Int) - 1)) * 86400 * second := by
    rw [Int.mul_assoc, ← hday]
    exact (Int.sub_mul _ _ _).symm
  unfold ofUnix unix
  rw [hmul, Int.mul_ediv_cancel _ (by decide)]

/-- Each instant of the window lies in exactly one day. -/
theorem existsUnique_day {x : Int} (hx : windowStart now n ≤ x) (hnow : x < now) :
    ∃! i, i < n ∧ dayStart now i ≤ x ∧ x < dayEnd now i := by
  -- The day is counted back from today.
  have hiff : ∀ j : Nat, dayStart now j ≤ x ∧ x < dayEnd now j ↔
      (j : Int) = startOfToday now / dayLength - x / dayLength := by
    intro j
    rw [dayEnd_eq]
    unfold dayStart startOfToday dayLength second
    omega
  unfold windowStart startOfToday at hx
  have hday : 0 ≤ startOfToday now / dayLength - x / dayLength ∧
      startOfToday now / dayLength - x / dayLength < n := by
    unfold startOfToday
    unfold dayLength second at *
    omega
  refine ⟨(startOfToday now / dayLength - x / dayLength).toNat, ⟨by omega, (hiff _).mpr (by omega)⟩, ?_⟩
  intro j hj
  have heq := (hiff j).mp hj.2
  omega

end Days

/-! ## 3. What the listing knows -/

section Seeded

variable {h : History} {start : Int}

/-- The first instant the history tells of. -/
def History.firstData (h : History) : Option Int := h.rows.head?.map StateTransition.time

/-- The falls of a span. -/
def History.falls (h : History) (a b : Int) : Nat :=
  h.rows.countP fun t => (decide (a ≤ t.time) && decide (t.time < b)) && wentDown t

theorem lastBefore_time {s : StateTransition} (hs : h.lastBefore start = some s) :
    s ∈ h.before start ∧ s.time < start := by
  have hmem : s ∈ h.before start := List.mem_of_getLast? hs
  exact ⟨hmem, time_lt_of_timestamp_lt (History.mem_before hmem)⟩

theorem lastBefore_eq_none : h.lastBefore start = none ↔ h.before start = [] :=
  List.getLast?_eq_none_iff

theorem le_time_of_since (hstart : ofUnix (unix start) = start) {t : StateTransition}
    (ht : t ∈ h.since start) : start ≤ t.time := by
  have hle := History.mem_since ht
  rw [← hstart]
  unfold StateTransition.time ofUnix second
  omega

theorem seeded_ordered (h : History) (start : Int) : Ordered StateTransition.time (h.seeded start) := by
  unfold History.seeded
  cases hs : h.lastBefore start with
  | none => exact h.since_ordered start
  | some =>
    refine List.pairwise_cons.mpr ⟨fun t ht => ?_, h.since_ordered start⟩
    have hbefore := History.mem_before (lastBefore_time hs).1
    have hsince := History.mem_since ht
    exact time_mono.mpr (by omega)

variable {a : Int}

/-- **From the start of the window on** the listing tells the state of the whole history. -/
theorem held_seeded (h : History) (ha : start ≤ a) (b : Int) :
    held StateTransition.time isUp (h.seeded start) a b = held StateTransition.time isUp h.rows a b := by
  have hrecent : held StateTransition.time isUp (h.before start ++ h.since start ++ []) a b = _ :=
    held_recent (fun t ht => ((time_lt_of_timestamp_lt (History.mem_before ht)).trans_le ha).le)
      (List.forall_mem_nil _)
  rw [List.append_nil, ← h.rows_eq start] at hrecent
  exact hrecent.symm

theorem falls_eq (h : History) (a b : Int) : h.falls a b = countContainerIncidents h.rows a b := by
  unfold History.falls countContainerIncidents
  simp only [Bool.not_or, Bool.not_not, ← decide_not (p := _ < a), Int.not_lt]

section

variable {ts : List StateTransition} {b : Int}

theorem countContainerIncidents_none (hts : ∀ t ∈ ts, t.time < a ∨ b ≤ t.time) :
    countContainerIncidents ts a b = 0 := by
  unfold countContainerIncidents
  rw [List.countP_eq_zero]
  intro t ht
  have hout := hts t ht
  simp only [Bool.and_eq_true, Bool.not_eq_true', Bool.or_eq_false_iff, decide_eq_false_iff_not, Bool.not_eq_false',
    decide_eq_true_eq]
  omega

theorem countContainerIncidents_append (hts : ∀ t ∈ ts, t.time < a) (us : List StateTransition) :
    countContainerIncidents (ts ++ us) a b = countContainerIncidents us a b := by
  have hnone : countContainerIncidents ts a b = 0 := countContainerIncidents_none fun t ht => Or.inl (hts t ht)
  unfold countContainerIncidents at hnone ⊢
  rw [List.countP_append, hnone, Nat.zero_add]

end

/-- A fall since the start of the window is one of the rows since then. -/
theorem falls_since (h : History) (ha : start ≤ a) (b : Int) :
    h.falls a b = countContainerIncidents (h.since start) a b := by
  rw [falls_eq, h.rows_eq start, countContainerIncidents_append]
  intro t ht
  have hlt := time_lt_of_timestamp_lt (History.mem_before ht)
  omega

/-- It is one of the listing, too. -/
theorem countContainerIncidents_seeded (h : History) (ha : start ≤ a) (b : Int) :
    countContainerIncidents (h.seeded start) a b = h.falls a b := by
  rw [falls_since h ha, History.seeded, countContainerIncidents_append]
  intro t ht
  have hlt := (lastBefore_time (Option.mem_toList.mp ht)).2
  omega

/-! ### Where the data begins -/

theorem firstData_le {t : StateTransition} (ht : t ∈ h.rows) : ∃ f, h.firstData = some f ∧ f ≤ t.time := by
  have hord := ordered_time h.ordered
  unfold History.firstData
  cases hrows : h.rows with
  | nil =>
    rw [hrows] at ht
    cases ht
  | cons u =>
    rw [hrows] at ht hord
    exact ⟨u.time, rfl, hord.head_le t ht⟩

theorem dataStart_of_seed {s : StateTransition} (hs : h.lastBefore start = some s) :
    h.dataStart start = some start := by
  unfold History.dataStart
  rw [hs]
  rfl

theorem dataStart_of_none (hs : h.lastBefore start = none) : h.dataStart start = h.firstData := by
  have hsplit := h.rows_eq start
  rw [lastBefore_eq_none.mp hs, List.nil_append] at hsplit
  rw [History.dataStart, History.seeded, hs, History.firstData, hsplit]
  rfl

/-- What begins inside the window is the whole history's beginning; what begins before it leaves no
    day of the window without data. -/
theorem max_dataStart (ha : start ≤ a) : (h.dataStart start).map (max a) = h.firstData.map (max a) := by
  cases hs : h.lastBefore start with
  | some s =>
    -- Something was recorded before the window, the first row with it.
    obtain ⟨hmem, hlt⟩ := lastBefore_time hs
    obtain ⟨f, hf, hle⟩ := firstData_le (List.mem_of_mem_filter hmem)
    have hmax : max a f = a := by omega
    rw [dataStart_of_seed hs, hf, Option.map_some, Option.map_some, max_eq_left ha, hmax]
  | none => rw [dataStart_of_none hs]

end Seeded

/-! ## 4. One day -/

namespace History

/-- The time of `[a, b)` during which the listing is up. -/
def listedUpTime (h : History) (a b : Int) : Int := held StateTransition.time isUp h.rows a b

/-- Its share of the span, in percent. -/
def listedShare (h : History) (a b : Int) : ℚ := (h.listedUpTime a b : ℚ) / ((b - a : Int) : ℚ) * 100

/-- What is measured of `[a, b)` from the first data on, if any of it is known. -/
def known (h : History) (measure : Int → Int → β) (a b : Int) : Option β :=
  h.firstData.bind fun f => if max a f < b then some (measure (max a f) b) else none

/-- What is to be told of a day: the measure of what is known of it, and its falls. -/
def day (h : History) (measure : Int → Int → β) (now : Int) (i : Nat) : DailyUptime β where
  date := dayStart now i
  uptimePercent := h.known measure (dayStart now i) (dayEnd now i)
  incidentCount := h.falls (dayStart now i) (dayEnd now i)

/-- A measure that adds up over adjacent spans and is nothing before the first data. -/
structure Spread {M : Type} [AddCommMonoid M] (h : History) (f : Int → Int → M) : Prop where
  add : ∀ a b c, a ≤ b → b ≤ c → f a b + f b c = f a c
  early : ∀ a b, (a < b → ∀ t ∈ h.rows, b ≤ t.time) → f a b = 0

end History

section Day

open History

variable {h : History} {start now : Int} {i : Nat} {a b : Int}

theorem spread_held (h : History) (up : StateTransition → Bool) : h.Spread (held StateTransition.time up h.rows) where
  add _ _ _ hab hbc := lasts_add hab hbc
  early _ _ hearly := lasts_eq_zero_iff.mpr fun _ hx hlt => upAt_before fun t ht =>
    hlt.trans_le (hearly (hx.trans_lt hlt) t ht)

theorem spread_falls (h : History) : h.Spread h.falls where
  add a b c hab hbc := by
    unfold falls
    -- what lies from `a` to `c` lies before `b` or not
    symm
    rw [List.countP_eq_countP_filter_add h.rows _ fun t => decide (t.time < b), List.countP_filter, List.countP_filter]
    refine congrArg₂ _ (List.countP_congr fun t _ => ?_) (List.countP_congr fun t _ => ?_) <;>
      simp only [Bool.and_eq_true, Bool.not_eq_true', decide_eq_true_eq, decide_eq_false_iff_not] <;> grind
  early a b hearly := by
    rw [falls_eq]
    refine countContainerIncidents_none fun t ht => ?_
    by_contra hin
    push Not at hin
    exact absurd (hearly (hin.1.trans_lt hin.2) t ht) (not_le.mpr hin.2)

/-- Clipping takes nothing away. -/
theorem History.Spread.known {M : Type} [AddCommMonoid M] {f : Int → Int → M} (hf : h.Spread f) (a b : Int) :
    (h.known f a b).getD 0 = f a b := by
  unfold History.known
  cases hfirst : h.firstData with
  | none =>
    refine (hf.early a b fun _ t ht => ?_).symm
    obtain ⟨f, hf, -⟩ := firstData_le ht
    cases hfirst.symm.trans hf
  | some d =>
    have hle : ∀ t ∈ h.rows, d ≤ t.time := by
      intro t ht
      obtain ⟨f, hf, hle⟩ := firstData_le ht
      cases hfirst.symm.trans hf
      exact hle
    rw [Option.bind_some]
    by_cases hlt : max a d < b
    · have hearly : f a (max a d) = 0 := hf.early _ _ fun hlt t ht => by
        have hle := hle t ht
        omega
      rw [if_pos hlt, ← hf.add a (max a d) b (le_max_left a d) hlt.le, hearly, zero_add]
      rfl
    · rw [if_neg hlt, hf.early a b fun hlt t ht => by
        have hle := hle t ht
        omega]
      rfl

/-- Two measures of a span agree if what is known of them does. -/
theorem known_inj_iff {f g : Int → Int → Int} (hf : h.Spread f) (hg : h.Spread g) :
    h.known f a b = h.known g a b ↔ f a b = g a b := by
  refine ⟨fun heq => ?_, fun heq => ?_⟩
  · rw [← hf.known, heq, hg.known]
  · rw [← hf.known, ← hg.known] at heq
    unfold known at heq ⊢
    cases hfirst : h.firstData with
    | none => rfl
    | some d =>
      rw [hfirst, Option.bind_some, Option.bind_some] at heq
      rw [Option.bind_some, Option.bind_some]
      split_ifs at heq ⊢
      · exact congrArg some heq
      · rfl

/-- **The report of one day.** -/
theorem dayReport_eq {measure : List StateTransition → Int → Int → β} {value : Int → Int → β}
    (hvalue : h.seeded start ≠ [] → ∀ a b, start ≤ a → a < b → measure (h.seeded start) a b = value a b)
    (hi : start ≤ dayStart now i) :
    dayReport measure (h.seeded start) (h.dataStart start) now i = h.day value now i := by
  have hmax := max_dataStart (h := h) hi
  rw [day, ← (spread_falls h).known]
  unfold known
  cases hd : h.dataStart start with
  | none =>
    rw [hd] at hmax
    rw [Option.map_eq_none_iff.mp hmax.symm]
    rfl
  | some d =>
    obtain ⟨f, hf, hclip⟩ := Option.map_eq_some_iff.mp (hmax.symm.trans (congrArg _ hd))
    have hstart : (if dayStart now i < d then d else dayStart now i) = max (dayStart now i) f := by
      rw [hclip]
      split <;> omega
    have hne : h.seeded start ≠ [] := by
      intro hnil
      have hnone : h.lastBefore start = none := by simpa using (List.append_eq_nil_iff.mp hnil).1
      rw [dataStart, hnone, hnil] at hd
      cases hd
    rw [hf, Option.bind_some, Option.bind_some]
    unfold dayReport
    simp only [hstart]
    by_cases hlt : max (dayStart now i) f < dayEnd now i
    · rw [if_neg (not_not.mpr hlt), if_pos hlt, if_pos hlt, hvalue hne _ _ (by omega) hlt,
        countContainerIncidents_seeded h (by omega)]
      rfl
    · rw [if_pos hlt, if_neg hlt, if_neg hlt]
      rfl

end Day

/-! ## 5. The series -/

section Series

open History

variable {h : History} {days now : Int}

theorem dailyUptime_eq {measure : List StateTransition → Int → Int → β} {value : Int → Int → β}
    (hvalue : h.seeded (windowStart now (reportedDays days)) ≠ [] → ∀ a b,
      windowStart now (reportedDays days) ≤ a → a < b →
        measure (h.seeded (windowStart now (reportedDays days))) a b = value a b) :
    dailyUptime measure h days now = (List.range (reportedDays days)).map (h.day value now) :=
  List.map_congr_left fun _ hi => dayReport_eq hvalue (windowStart_le (List.mem_range.mp hi))

theorem dailyUptime_listed (h : History) (days now : Int) :
    dailyUptime upTime h days now = (List.range (reportedDays days)).map (h.day h.listedUpTime now) :=
  dailyUptime_eq fun hne _ _ ha _ => (upTime_eq_held hne (seeded_ordered h _) _ _).trans (held_seeded h ha _)

theorem dailyUptime_exact (h : History) (days now : Int) : getContainerDailyUptime Arith.exact h days now =
    (List.range (reportedDays days)).map (h.day h.listedShare now) := by
  refine dailyUptime_eq fun hne a b ha hab => ?_
  rw [computeUptime_exact _ hab, upTime_eq_held hne (seeded_ordered h _), held_seeded h ha]
  rfl

/-- What is additive over adjacent spans adds up over the days. -/
theorem sum_days {M : Type} [AddCommMonoid M] {f : Int → Int → M} (hf : h.Spread f) (now : Int) {n : Nat}
    (hn : 0 < n) : ((List.range n).map fun i => f (dayStart now i) (dayEnd now i)).sum = f (windowStart now n) now := by
  obtain ⟨m, rfl⟩ : ∃ m, n = m + 1 := ⟨n - 1, by omega⟩
  have htoday := startOfToday_range now
  have hperiods := sum_periods f hf.add htoday.1 dayLength_pos.le htoday.2.le m
  rw [windowStart_succ]
  unfold dayStart
  rw [← hperiods]
  simp only [dayEnd_eq, dayStart]

/-- The listing against the record. -/
theorem listed_balance (h : History) (a b : Int) :
    h.listedUpTime a b + h.lost h.rows a b = h.trueUpTime a b + h.gained h.rows a b :=
  held_add_diff StateTransition.time isUp h.leavesUp h.rows a b

/-- **The days partition the history.** Each entry tells its day, clipped to the first data and now:
    the time during which the listing is up and its share. The days add up to the window, up to what
    the order of the listing takes and adds; each fall inside the window is counted, in exactly one
    day. The up-times are the true ones exactly when, on each day, what the order takes and what it
    adds are equally long. -/
theorem dailyUptime_partitions_iff (h : History) (days now : Int) :
    let n := reportedDays days
    let start := windowStart now n
    (dailyUptime upTime h days now = (List.range n).map (h.day h.trueUpTime now) ↔
      ∀ i < n, h.lost h.rows (dayStart now i) (dayEnd now i) = h.gained h.rows (dayStart now i) (dayEnd now i)) ∧
    dailyUptime upTime h days now = (List.range n).map (h.day h.listedUpTime now) ∧
    getContainerDailyUptime Arith.exact h days now = (List.range n).map (h.day h.listedShare now) ∧
    (∀ (α : Type) (A : Arith α), getContainerDailyUptime A h days now =
      (List.range n).map (h.day (computeUptime A (h.seeded start)) now)) ∧
    ((dailyUptime upTime h days now).map fun d => d.uptimePercent.getD 0).sum + h.lost h.rows start now =
      h.trueUpTime start now + h.gained h.rows start now ∧
    ((dailyUptime upTime h days now).map DailyUptime.incidentCount).sum = h.falls start now ∧
    ∀ t ∈ h.rows, start ≤ t.time → t.time < now → ∃! i, i < n ∧ dayStart now i ≤ t.time ∧
    t.time < dayEnd now i := by
  intro n start
  have hn : 0 < n := reportedDays_pos days
  have hlisted : h.Spread h.listedUpTime := spread_held h isUp
  have htrue : h.Spread h.trueUpTime := spread_held h h.leavesUp
  refine ⟨?_, dailyUptime_listed h days now, dailyUptime_exact h days now,
    fun α A => dailyUptime_eq fun _ _ _ _ _ => rfl, ?_, ?_, fun t _ hstart hnow => existsUnique_day hstart hnow⟩
  · rw [dailyUptime_listed, List.map_inj_left]
    simp only [List.mem_range]
    refine forall₂_congr fun i _ => ?_
    have hbalance := listed_balance h (dayStart now i) (dayEnd now i)
    rw [day, day, DailyUptime.mk.injEq, known_inj_iff hlisted htrue]
    simp only [true_and, and_true]
    omega
  · have hsum := sum_days hlisted now hn
    rw [dailyUptime_listed, List.map_map]
    simp only [Function.comp_def, day, hlisted.known]
    exact hsum ▸ listed_balance h start now
  · rw [dailyUptime_listed, List.map_map]
    exact sum_days (spread_falls h) now hn

end Series

/-- Stopped and started again within the second 0. -/
def restartedHistory : History where
  rows := [sampleTransition .exited .running 0, sampleTransition .running .exited 0]
  ordered := List.pairwise_pair.mpr le_rfl

/-- The container that runs since yesterday counts as down for the whole of today. -/
theorem dailyUptime_restarted :
    (dailyUptime upTime restartedHistory 1 (dayLength + dayLength / 2)).map DailyUptime.uptimePercent = [some 0] ∧
      restartedHistory.trueUpTime dayLength (dayLength + dayLength / 2) = dayLength / 2 := by
  refine ⟨by decide, (lasts_eq_sub_iff (by decide)).mpr fun x hx _ => ?_⟩
  have hle : 0 ≤ x := dayLength_pos.le.trans hx
  have hforce : inForce StateTransition.time restartedHistory.rows x = some (sampleTransition .running .exited 0) :=
    inForce_of_all (List.forall_mem_cons.mpr ⟨hle, List.forall_mem_singleton.mpr hle⟩)
  unfold upAt
  rw [hforce]
  decide

end Maintenant.Containers
