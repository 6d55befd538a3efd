/-
  File:      Maintenant/Resource/Rollup.lean
  Subject:   HOURLY ROLLUPS OF RESOURCE SNAPSHOTS (internal/resource/rollup.go, `AggregateHourlyRollup` of
             internal/store/resources.go, `runResourceCleanup` of internal/store/retention.go).

  Averages are exact; the integer columns hold them cut towards zero, as SQLite's CAST does. The daily
  rollup and the deletion of old hourly rows are other passes, and left out, as are failing statements.

  Each pass aggregates anew every hour that still may have raw samples, and overwrites the row. At the
  edge of the raw window the retention has already taken a part of the hour.

  * `hourly_rollupHourly` -- what one pass writes, hour by hour;
  * `Spared` -- the passes that meet every hour whole or gone;
  * `whole_until` -- before a sample is old enough, the retention takes nothing of its hour;
  * **`hourly_stable`** -- then each hour that was rolled up once in time ends as the aggregate of all
    its samples.
-/
import Maintenant.Resource.Service
import Maintenant.Store.BatchDelete
import Maintenant.Lib.Passes
import Maintenant.Lib.Steps
import Mathlib.Algebra.Field.Rat

namespace Maintenant.Resources

open GoTime Containers BatchDelete Steps

/-! ## 1. Tables -/

/-- A row of resource_snapshots; the timestamp is stored in whole seconds. -/
abbrev Snapshot := ResourceSnapshot ℚ

def ResourceSnapshot.stored {α : Type} (s : ResourceSnapshot α) : Int := unix s.timestamp

/-- A row of resource_hourly, without its key. -/
structure HourlyRow where
  avgCpuPercent : ℚ
  avgMemUsed : Int
  avgMemLimit : Int
  avgNetRxBytes : Int
  avgNetTxBytes : Int
  avgBlockReadBytes : Int
  avgBlockWriteBytes : Int
  sampleCount : Nat
deriving DecidableEq

/-- `CAST(AVG(…) AS BIGINT)`. -/
def avgInt (column : Snapshot → Int) (rows : List Snapshot) : Int :=
  ((rows.map column).sum).tdiv rows.length

/-- What `GROUP BY container_id` makes of a container's rows: nothing, if there are none. -/
def aggregate (rows : List Snapshot) : Option HourlyRow :=
  if rows.isEmpty then none
  else some {
    avgCpuPercent := (rows.map fun s => s.cpuPercent).sum / rows.length
    avgMemUsed := avgInt (fun s => s.memUsed) rows
    avgMemLimit := avgInt (fun s => s.memLimit) rows
    avgNetRxBytes := avgInt (fun s => s.netRxBytes) rows
    avgNetTxBytes := avgInt (fun s => s.netTxBytes) rows
    avgBlockReadBytes := avgInt (fun s => s.blockReadBytes) rows
    avgBlockWriteBytes := avgInt (fun s => s.blockWriteBytes) rows
    sampleCount := rows.length }

/-- The two tables, and every sample that was ever inserted. -/
structure Rollups where
  snapshots : List Snapshot
  hourly : ContainerID → Int → Option HourlyRow
  inserted : List Snapshot

def Rollups.empty : Rollups := ⟨[], fun _ _ => none, []⟩

/-- A container's rows of `[start, stop)`, in seconds. -/
def rowsIn (rows : List Snapshot) (id : ContainerID) (start stop : Int) : List Snapshot :=
  rows.filter fun s => s.containerID == id && decide (start ≤ s.stored) && decide (s.stored < stop)

/-! ## 2. Passes -/

/-- `time.Hour`. -/
def hour : Int := 3600 * second

/-- `t.Truncate(time.Hour)`. -/
def truncateHour (t : Int) : Int := t / hour * hour

namespace Rollups

def insertSnapshot (w : Rollups) (snap : Snapshot) : Rollups :=
  { w with snapshots := w.snapshots ++ [snap], inserted := w.inserted ++ [snap] }

/-- One upsert for each container that has rows in the bucket. -/
def aggregateHourlyRollup (w : Rollups) (bucketStart bucketEnd : Int) : Rollups :=
  { w with hourly := fun id bucket =>
      if bucket = unix bucketStart then
        (aggregate (rowsIn w.snapshots id (unix bucketStart) (unix bucketEnd))).or (w.hourly id bucket)
      else w.hourly id bucket }

/-- The buckets of the loop, from the edge of the raw window to the last full hour. -/
def buckets (rawWindow now : Int) : List Int :=
  let currentHour := truncateHour now
  let backfillStart := truncateHour (now - rawWindow)
  (List.range ((currentHour - backfillStart) / hour).toNat).map fun i : Nat =>
    backfillStart + i * hour

def rollupHourly (rawWindow : Int) (w : Rollups) (now : Int) : Rollups :=
  (buckets rawWindow now).foldl (fun w bucket => w.aggregateHourlyRollup bucket (bucket + hour)) w

/-- The first third of `runResourceCleanup`. -/
def runResourceCleanup (snapshots batchSize : Int) (w : Rollups) (now : Int) : Rollups :=
  let cutoff := now - snapshots
  { w with snapshots := deleteRowsWhere (fun s => decide (s.stored < unix cutoff)) batchSize w.snapshots }

end Rollups

/-- What happens, each at its instant. -/
inductive Event where
  | insert (snap : Snapshot)
  | rollup (now : Int)
  | cleanup (now : Int)

def Event.time : Event → Int
  | .insert snap => snap.timestamp
  | .rollup now => now
  | .cleanup now => now

/-- The rollup and the retention with one window. -/
def step (window batchSize : Int) (w : Rollups) : Event → Rollups
  | .insert snap => w.insertSnapshot snap
  | .rollup now => w.rollupHourly window now
  | .cleanup now => w.runResourceCleanup window batchSize now

/-- The hours of a pass, counted from the epoch. -/
def InRange (window now k : Int) : Prop := (now - window) / hour ≤ k ∧ k < now / hour

/-- The rows of an hour. -/
def rowsOfHour (rows : List Snapshot) (id : ContainerID) (k : Int) : List Snapshot :=
  rowsIn rows id (k * 3600) (k * 3600 + 3600)

/-- A rollup pass meets no hour of which the retention has taken a part: the samples of a container and
    an hour it goes over are all there, or all gone. -/
def Spared (window : Int) (w : Rollups) : Event → Prop
  | .rollup now => ∀ id k, InRange window now k →
      rowsOfHour w.snapshots id k = rowsOfHour w.inserted id k ∨ rowsOfHour w.snapshots id k = []
  | _ => True

/-! ## 3. One pass -/

section Pass

variable {w : Rollups} {id : ContainerID} {k now window : Int}

/-- The hours of the loop. -/
theorem buckets_eq (window now : Int) : Rollups.buckets window now =
    ((List.range (now / hour - (now - window) / hour).toNat).map fun i : Nat => (now - window) / hour + i).map
      (· * hour) := by
  unfold Rollups.buckets truncateHour
  simp only
  rw [← Int.sub_mul, Int.mul_ediv_cancel _ (by decide), List.map_map]
  exact List.map_congr_left fun i _ => (Int.add_mul ..).symm

theorem mem_hours {lo hi : Int} :
    k ∈ (List.range (hi - lo).toNat).map (fun i : Nat => lo + i) ↔ lo ≤ k ∧ k < hi := by
  rw [List.mem_map]
  constructor
  · rintro ⟨i, hi, rfl⟩
    have hlt := List.mem_range.mp hi
    omega
  · intro hrange
    exact ⟨(k - lo).toNat, List.mem_range.mpr (by omega), by omega⟩

theorem unix_hour (j : Int) : unix (j * hour) = j * 3600 := by
  unfold unix hour
  rw [← Int.mul_assoc, Int.mul_ediv_cancel _ (by decide)]

theorem unix_hour_end (j : Int) : unix (j * hour + hour) = j * 3600 + 3600 := by
  have hsucc : j * hour + hour = (j + 1) * hour := by rw [Int.add_mul, Int.one_mul]
  rw [hsucc, unix_hour]
  omega

theorem foldl_kept (bs : List Int) (w : Rollups) :
    (bs.foldl (fun w b => w.aggregateHourlyRollup b (b + hour)) w).snapshots = w.snapshots ∧
      (bs.foldl (fun w b => w.aggregateHourlyRollup b (b + hour)) w).inserted = w.inserted := by
  induction bs generalizing w with
  | nil => exact ⟨rfl, rfl⟩
  | cons _ _ ih => exact ih _

/-- The hours of a loop, each of which writes its own row. -/
theorem foldl_hourly (ks : List Int) (w : Rollups) (id : ContainerID) (k : Int) :
    ((ks.map (· * hour)).foldl (fun w b => w.aggregateHourlyRollup b (b + hour)) w).hourly id (k * 3600) =
      if k ∈ ks then (aggregate (rowsOfHour w.snapshots id k)).or (w.hourly id (k * 3600))
      else w.hourly id (k * 3600) := by
  induction ks generalizing w with
  | nil => rfl
  | cons j ks ih =>
    have hrow : (w.aggregateHourlyRollup (j * hour) (j * hour + hour)).hourly id (k * 3600) =
        if k = j then (aggregate (rowsOfHour w.snapshots id k)).or (w.hourly id (k * 3600))
        else w.hourly id (k * 3600) := by
      unfold Rollups.aggregateHourlyRollup rowsOfHour
      simp only [unix_hour, unix_hour_end]
      by_cases hk : k = j
      · subst hk
        rw [if_pos rfl, if_pos rfl]
      · rw [if_neg (by omega), if_neg hk]
    rw [List.map_cons, List.foldl_cons, ih, hrow]
    show (if k ∈ ks then (aggregate (rowsOfHour w.snapshots id k)).or _ else _) = _
    by_cases hk : k = j
    · subst hk
      rw [if_pos rfl, ← Option.or_assoc, Option.or_self, ite_self, if_pos List.mem_cons_self]
    · rw [if_neg hk]
      simp only [List.mem_cons, hk, false_or]

/-- **What one pass writes.** -/
theorem hourly_rollupHourly (w : Rollups) (window now : Int) (id : ContainerID) (k : Int)
    [Decidable (InRange window now k)] : (w.rollupHourly window now).hourly id (k * 3600) =
      if InRange window now k then (aggregate (rowsOfHour w.snapshots id k)).or (w.hourly id (k * 3600))
      else w.hourly id (k * 3600) := by
  unfold Rollups.rollupHourly
  rw [buckets_eq, foldl_hourly]
  exact if_congr mem_hours rfl rfl

end Pass

/-! ## 4. Runs -/

section Run

variable {window batchSize : Int} {id : ContainerID} {k : Int}

theorem rowsOfHour_append (rows rows' : List Snapshot) (id : ContainerID) (k : Int) :
    rowsOfHour (rows ++ rows') id k = rowsOfHour rows id k ++ rowsOfHour rows' id k :=
  List.filter_append ..

/-- A sample from the end of the hour on is none of it. -/
theorem rowsOfHour_late {rows : List Snapshot} (h : ∀ s ∈ rows, k * hour + hour ≤ s.timestamp) :
    rowsOfHour rows id k = [] := by
  unfold rowsOfHour rowsIn
  rw [List.filter_eq_nil_iff]
  intro s hs hin
  have hle : unix (k * hour + hour) ≤ s.stored := unix_mono (h s hs)
  rw [unix_hour_end] at hle
  simp only [Bool.and_eq_true, decide_eq_true_eq] at hin
  omega

theorem step_inserted (w : Rollups) (e : Event) : (step window batchSize w e).inserted = match e with
    | .insert snap => w.inserted ++ [snap]
    | _ => w.inserted := by
  cases e with
  | insert | cleanup => rfl
  | rollup => exact (foldl_kept _ _).2

/-- What is ever inserted stays in the account. -/
theorem inserted_foldl (window batchSize : Int) (es : List Event) (w : Rollups) :
    ∃ later, (es.foldl (step window batchSize) w).inserted = w.inserted ++ later ∧ ∀ s ∈ later,
    .insert s ∈ es := by
  induction es generalizing w with
  | nil => exact ⟨[], (List.append_nil _).symm, List.forall_mem_nil _⟩
  | cons e _ ih =>
    obtain ⟨later, hlater, hin⟩ := ih (step window batchSize w e)
    have hin := fun s hs => List.mem_cons_of_mem e (hin s hs)
    rw [List.foldl_cons, hlater, step_inserted]
    cases e with
    | insert snap => exact ⟨snap :: later, by simp, List.forall_mem_cons.mpr ⟨List.mem_cons_self, hin⟩⟩
    | rollup | cleanup => exact ⟨later, rfl, hin⟩

/-- After the end of an hour, none of its samples comes. -/
theorem rowsOfHour_foldl_late (es : List Event) (w : Rollups) (hlate : ∀ e ∈ es, k * hour + hour ≤ e.time) :
    rowsOfHour (es.foldl (step window batchSize) w).inserted id k = rowsOfHour w.inserted id k := by
  obtain ⟨later, hlater, hin⟩ := inserted_foldl window batchSize es w
  rw [hlater, rowsOfHour_append, rowsOfHour_late fun s hs => hlate _ (hin s hs), List.append_nil]

/-- Until the samples of an hour are old enough, the retention leaves them alone. -/
theorem whole_until (cutoff : Int) (es : List Event) (w : Rollups)
    (hwhole : rowsOfHour w.snapshots id k = rowsOfHour w.inserted id k)
    (htimes : ∀ e ∈ es, unix (e.time - window) ≤ cutoff)
    (hyoung : ∀ s ∈ rowsOfHour (es.foldl (step window batchSize) w).inserted id k, cutoff ≤ s.stored) :
    rowsOfHour (es.foldl (step window batchSize) w).snapshots id k =
      rowsOfHour (es.foldl (step window batchSize) w).inserted id k := by
  induction es generalizing w with
  | nil => exact hwhole
  | cons e es ih =>
    apply ih
    · cases e with
      | insert snap =>
        show rowsOfHour (w.snapshots ++ [snap]) id k = rowsOfHour (w.inserted ++ [snap]) id k
        rw [rowsOfHour_append, rowsOfHour_append, hwhole]
      | rollup =>
        rw [step_inserted, show (step window batchSize w (.rollup _)).snapshots = w.snapshots from (foldl_kept _ _).1]
        exact hwhole
      | cleanup now =>
        -- What the pass takes is older than every sample of the hour.
        have hcut : unix (now - window) ≤ cutoff := htimes (.cleanup now) List.mem_cons_self
        show rowsOfHour (deleteRowsWhere _ batchSize w.snapshots) id k = rowsOfHour w.inserted id k
        rw [deleteRowsWhere_eq, ← hwhole]
        refine filter_of_imp fun s hs hin => ?_
        have hmem : s ∈ rowsOfHour w.inserted id k := by
          rw [← hwhole]
          exact List.mem_filter.mpr ⟨hs, hin⟩
        obtain ⟨later, hlater, -⟩ := inserted_foldl window batchSize es (step window batchSize w (.cleanup now))
        have hold := hyoung s (by
          rw [List.foldl_cons, hlater, rowsOfHour_append]
          exact List.mem_append_left _ hmem)
        have hkept : ¬s.stored < unix (now - window) := by omega
        simp [hkept]
    · exact fun e' he' => htimes e' (List.mem_cons_of_mem e he')
    · exact hyoung

/-- The hour is over: its samples are all known, and its row is their aggregate. -/
structure Settled (w : Rollups) (id : ContainerID) (k : Int) (rows : List Snapshot) : Prop where
  inserted : rowsOfHour w.inserted id k = rows
  row : w.hourly id (k * 3600) = aggregate rows

variable {w : Rollups}

/-- One step from there. -/
theorem Settled.step {rows : List Snapshot} (h : Settled w id k rows) (e : Event)
    (hlate : k * hour + hour ≤ e.time) (hspared : Spared window w e) :
    Settled (step window batchSize w e) id k rows := by
  cases e with
  | insert snap =>
    refine ⟨?_, h.row⟩
    show rowsOfHour (w.inserted ++ [snap]) id k = rows
    rw [rowsOfHour_append, rowsOfHour_late (List.forall_mem_singleton.mpr hlate), List.append_nil]
    exact h.inserted
  | rollup now =>
    refine ⟨?_, ?_⟩
    · rw [step_inserted]
      exact h.inserted
    · classical
      show (w.rollupHourly window now).hourly id (k * 3600) = aggregate rows
      rw [hourly_rollupHourly, h.row]
      split
      · next hrange =>
        rcases hspared id k hrange with hall | hnone
        · rw [hall, h.inserted]
          cases aggregate rows <;> rfl
        · rw [hnone]
          rfl
      · rfl
  | cleanup => exact ⟨h.inserted, h.row⟩

/-- A whole run from there. -/
theorem Settled.foldl {rows : List Snapshot} (h : Settled w id k rows) (es : List Event)
    (hlate : ∀ e ∈ es, k * hour + hour ≤ e.time)
    (hspared : Passes.Along (Resources.step window batchSize) (Spared window) w es) :
    Settled (es.foldl (Resources.step window batchSize) w) id k rows := by
  induction es generalizing w with
  | nil => exact h
  | cons e _ ih =>
    exact ih (h.step e (hlate e List.mem_cons_self) hspared.1)
      (fun e' he' => hlate e' (List.mem_cons_of_mem e he')) hspared.2

/-- An hour without samples has no row. -/
theorem no_row (es : List Event) (hspared : Passes.Along (Resources.step window batchSize) (Spared window) w es)
    (hnone : rowsOfHour (es.foldl (step window batchSize) w).inserted id k = [])
    (hrow : w.hourly id (k * 3600) = none) : (es.foldl (step window batchSize) w).hourly id (k * 3600) = none := by
  induction es generalizing w with
  | nil => exact hrow
  | cons e es ih =>
    refine ih hspared.2 hnone ?_
    cases e with
    | insert | cleanup => exact hrow
    | rollup now =>
      classical
      show (w.rollupHourly window now).hourly id (k * 3600) = none
      rw [hourly_rollupHourly, hrow]
      split
      · next hrange =>
        obtain ⟨later, hlater, -⟩ := inserted_foldl window batchSize (.rollup now :: es) w
        rw [hlater, rowsOfHour_append] at hnone
        have hbefore := (List.append_eq_nil_iff.mp hnone).1
        have hgone : rowsOfHour w.snapshots id k = [] := by
          rcases hspared.1 id k hrange with hall | hgone
          · rw [hall, hbefore]
          · exact hgone
        rw [hgone]
        rfl
      · rfl

/-- The hour was rolled up in time: by a pass after its end and before the first of its samples was
    older than the window. -/
def RolledUp (window : Int) (es : List Event) (id : ContainerID) (k : Int) (rows : List Snapshot) : Prop :=
  ∃ before now after, es = before ++ .rollup now :: after ∧ k * hour + hour ≤ now ∧
    ∀ s ∈ rowsOfHour rows id k, unix (now - window) ≤ s.stored

/-- **Hourly rollups are stable** in every run in which no rollup pass meets an hour that the retention
    has taken a part of: what happens comes in the order of time, and each hour that has samples was
    rolled up in time. -/
theorem hourly_stable (window batchSize : Int) (es : List Event) (htime : Ordered Event.time es)
    (hspared : Passes.Along (step window batchSize) (Spared window) Rollups.empty es) (id : ContainerID)
    (k : Int)
    (hrolled : rowsOfHour (es.foldl (step window batchSize) Rollups.empty).inserted id k ≠ [] →
      RolledUp window es id k (es.foldl (step window batchSize) Rollups.empty).inserted) :
    (es.foldl (step window batchSize) Rollups.empty).hourly id (k * 3600) =
      aggregate (rowsOfHour (es.foldl (step window batchSize) Rollups.empty).inserted id k) := by
  by_cases hnone : rowsOfHour (es.foldl (step window batchSize) Rollups.empty).inserted id k = []
  · rw [hnone, no_row es hspared hnone rfl]
    rfl
  · obtain ⟨before, now, after, rfl, hended, hyoung⟩ := hrolled hnone
    rw [Passes.along_append] at hspared
    obtain ⟨hord, hord', hcross⟩ := List.pairwise_append.mp htime
    have hearlier : ∀ e ∈ before, e.time ≤ now := fun e he => hcross e he _ List.mem_cons_self
    have hlater : ∀ e ∈ after, k * hour + hour ≤ e.time := fun e he => by
      have hle : now ≤ e.time := (List.pairwise_cons.mp hord').1 e he
      omega
    rw [List.foldl_append, List.foldl_cons] at hyoung hnone ⊢
    generalize hw : before.foldl (step window batchSize) Rollups.empty = w at *
    rw [rowsOfHour_foldl_late after _ hlater, step_inserted] at hyoung hnone
    -- At the pass, none of them is gone.
    have hwhole : rowsOfHour w.snapshots id k = rowsOfHour w.inserted id k := by
      rw [← hw]
      refine whole_until (unix (now - window)) before Rollups.empty rfl ?_ ?_
      · intro e he
        have hle := hearlier e he
        exact unix_mono (show (e.time - window : Int) ≤ now - window by omega)
      · rw [hw]
        exact hyoung
    have hrange : InRange window now k := by
      obtain ⟨s, hs⟩ := List.exists_mem_of_ne_nil _ hnone
      have hold := hyoung s hs
      have hin : s.stored < k * 3600 + 3600 := by
        have hin := (List.mem_filter.mp hs).2
        simp only [Bool.and_eq_true, decide_eq_true_eq] at hin
        exact hin.2
      unfold InRange
      unfold unix hour second at *
      omega
    have hsettled : Settled (step window batchSize w (.rollup now)) id k (rowsOfHour w.inserted id k) := by
      refine ⟨by rw [step_inserted], ?_⟩
      classical
      show (w.rollupHourly window now).hourly id (k * 3600) = _
      rw [hourly_rollupHourly, if_pos hrange, hwhole]
      unfold aggregate
      rw [if_neg (by simpa using hnone)]
      rfl
    have hend := hsettled.foldl after hlater hspared.2.2
    rw [hend.row, hend.inserted]

end Run

/-! ## 5. The edge of the window -/

/-- A sample of the container `a`, taken at the given minute. -/
def sampleAt (minute : Int) : Snapshot where
  containerID := ⟨localAgent, "a"⟩
  cpuPercent := 1
  memUsed := minute
  memLimit := 100
  netRxBytes := 0
  netTxBytes := 0
  blockReadBytes := 0
  blockWriteBytes := 0
  timestamp := minute * 60 * second
  replayed := false
  agentID := ""

/-- Two samples of the first hour, which is rolled up in its fifth minute after the end. -/
def firstHour : List Event :=
  [.insert (sampleAt 10), .insert (sampleAt 50), .rollup (65 * 60 * second)]

/-- The window of 48 hours. -/
def window48 : Int := 48 * hour

/-- Two days later the retention takes both samples, and another rollup finds nothing of them. -/
def purgedHour : List Event :=
  firstHour ++ [.cleanup (window48 + 65 * 60 * second), .rollup (window48 + 66 * 60 * second)]

theorem hourly_stable_firstHour :
    Passes.Along (step window48 0) (Spared window48) Rollups.empty purgedHour ∧
      (purgedHour.foldl (step window48 0) Rollups.empty).hourly ⟨localAgent, "a"⟩ 0 =
        aggregate [sampleAt 10, sampleAt 50] := by
  have hspared : Passes.Along (step window48 0) (Spared window48) Rollups.empty purgedHour :=
    ⟨trivial, trivial, fun _ _ _ => .inl rfl, trivial, fun _ _ _ => .inr rfl, trivial⟩
  have hordered : Ordered Event.time purgedHour := by
    unfold Ordered purgedHour firstHour
    decide
  have hrows : rowsOfHour (purgedHour.foldl (step window48 0) Rollups.empty).inserted ⟨localAgent, "a"⟩ 0 =
      [sampleAt 10, sampleAt 50] := rfl
  have hstable := hourly_stable window48 0 purgedHour hordered hspared ⟨localAgent, "a"⟩ 0 fun _ => by
    refine ⟨[.insert (sampleAt 10), .insert (sampleAt 50)], 65 * 60 * second, _, rfl, by decide, ?_⟩
    rw [hrows]
    decide
  rw [hrows] at hstable
  exact ⟨hspared, hstable⟩

/-- Half an hour earlier it takes the first sample only, and the next rollup counts the second alone. -/
theorem hourly_rewritten :
    ((firstHour ++ [Event.cleanup (window48 + 30 * 60 * second), Event.rollup (window48 + 32 * 60 * second)]).foldl
        (step window48 0) Rollups.empty).hourly ⟨localAgent, "a"⟩ 0 = aggregate [sampleAt 50] ∧
      aggregate [sampleAt 50] ≠ aggregate [sampleAt 10, sampleAt 50] := by
  decide +kernel

end Maintenant.Resources
