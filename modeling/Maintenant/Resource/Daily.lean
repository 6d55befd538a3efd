/-
  File:      Maintenant/Resource/Daily.lean
  Subject:   DAILY ROLLUPS (`AggregateHourlyRollup` and `AggregateDailyRollup` of internal/store/resources.go):
             mem_used, with averages as exact numbers, before the cast to whole ones.

  A day's average is the average of its hours' averages, whatever the number of samples in each: that is the
  mean of the samples exactly when counts and averages of the hours are uncorrelated (`daily_mean_iff`).
-/
import Maintenant.Resource.Rollup
import Mathlib.Algebra.BigOperators.Group.List.Basic

namespace Maintenant.Resources

open Containers

/-! ## 1. The rollups of a day -/

/-- What a row of resource_hourly and of resource_daily keeps of mem_used. -/
structure MemRow where
  avgMemUsed : ℚ
  sampleCount : Nat
deriving DecidableEq

def sumMemUsed (rows : List Snapshot) : ℚ := (rows.map fun s => (s.memUsed : ℚ)).sum

def meanMemUsed (rows : List Snapshot) : ℚ := sumMemUsed rows / rows.length

/-- `SELECT AVG(mem_used), COUNT(*)` of a container's samples. -/
def hourlyMem (rows : List Snapshot) : Option MemRow :=
  if rows.isEmpty then none else some ⟨meanMemUsed rows, rows.length⟩

/-- `SELECT AVG(avg_mem_used), SUM(sample_count)` of its hours. -/
def dailyMem (hours : List MemRow) : Option MemRow :=
  if hours.isEmpty then none
  else some ⟨(hours.map MemRow.avgMemUsed).sum / hours.length, (hours.map MemRow.sampleCount).sum⟩

section Day

variable (rows : List Snapshot) (id : ContainerID) (d : Int)

def rowsOfDay : List Snapshot := rowsIn rows id (d * 86400) (d * 86400 + 86400)

/-- The samples of the day, hour by hour. -/
def hoursOf : List (List Snapshot) := (List.range 24).map fun k => rowsOfHour rows id (d * 24 + k)

/-- The day's row, once all of its hours are rolled up. -/
def dayRow : Option MemRow := dailyMem ((hoursOf rows id d).filterMap hourlyMem)

variable {rows id d}

theorem rowsIn_append {a b c : Int} (hab : a ≤ b) (hbc : b ≤ c) :
    (rowsIn rows id a b ++ rowsIn rows id b c).Perm (rowsIn rows id a c) := by
  have hsplit := List.filter_append_perm (fun s => decide (s.stored < b)) (rowsIn rows id a c)
  unfold rowsIn at hsplit ⊢
  rw [List.filter_filter, List.filter_filter] at hsplit
  convert hsplit using 2
  all_goals
    refine List.filter_congr fun s _ => ?_
    grind

theorem hours_perm (rows : List Snapshot) (id : ContainerID) (d : Int) :
    (hoursOf rows id d).flatten.Perm (rowsOfDay rows id d) := by
  have hfirst : ∀ n : Nat, ((List.range n).map fun k : Nat => rowsOfHour rows id (d * 24 + k)).flatten.Perm
      (rowsIn rows id (d * 86400) (d * 86400 + n * 3600)) := by
    intro n
    induction n with
    | zero =>
      have hnone : rowsIn rows id (d * 86400) (d * 86400) = [] := List.filter_eq_nil_iff.mpr fun s _ => by grind
      simp [hnone]
    | succ n ih =>
      rw [List.range_succ, List.map_append, List.flatten_append, List.map_singleton, List.flatten_singleton]
      have hstart : (d * 24 + n) * 3600 = d * 86400 + n * 3600 := by omega
      have hstop : d * 86400 + n * 3600 + 3600 = d * 86400 + ((n + 1 : Nat) : Int) * 3600 := by push_cast; omega
      rw [rowsOfHour, hstart, hstop]
      exact (ih.append_right _).trans (rowsIn_append (by omega) (by omega))
  exact hfirst 24

end Day

/-! ## 2. Counts and averages -/

/-- Hours with samples. -/
def sampled (hours : List (List Snapshot)) : List (List Snapshot) := hours.filter fun h => !h.isEmpty

/-- How the hours' counts and averages go together: each average, weighed with how far the hour's count is
    above that of the average hour. -/
def countBias (hours : List (List Snapshot)) : ℚ :=
  (hours.map fun h => (hours.length * h.length - hours.flatten.length) * meanMemUsed h).sum

theorem filterMap_hourlyMem (hours : List (List Snapshot)) : hours.filterMap hourlyMem =
    (sampled hours).map fun h => ⟨meanMemUsed h, h.length⟩ := by
  induction hours with
  | nil => rfl
  | cons h hours ih =>
    cases h with
    | nil => exact ih
    | cons => exact congrArg _ ih

/-- The averages weigh the samples of each hour with its count. -/
theorem sum_means {hours : List (List Snapshot)} (hne : ∀ h ∈ hours, h ≠ []) (a b : ℚ) :
    (hours.map fun h => (a * h.length - b) * meanMemUsed h).sum =
      a * sumMemUsed hours.flatten - b * (hours.map meanMemUsed).sum := by
  induction hours with
  | nil => simp [sumMemUsed]
  | cons h hours ih =>
    obtain ⟨hh, hhours⟩ := List.forall_mem_cons.mp hne
    have hlength : (h.length : ℚ) ≠ 0 := Nat.cast_ne_zero.mpr (mt List.length_eq_zero_iff.mp hh)
    have hmean : meanMemUsed h * h.length = sumMemUsed h := div_mul_cancel₀ _ hlength
    have hsum : sumMemUsed (h :: hours).flatten = sumMemUsed h + sumMemUsed hours.flatten := by
      simp [sumMemUsed]
    rw [List.map_cons, List.sum_cons, ih hhours, hsum, ← hmean, List.map_cons, List.sum_cons]
    grind

/-- Where each hour has equally many samples there is no bias. -/
theorem countBias_of_even {hours : List (List Snapshot)} {n : Nat} (heven : ∀ h ∈ hours, h.length = n) :
    countBias hours = 0 := by
  have htotal : hours.flatten.length = hours.length * n := by
    rw [List.length_flatten, List.map_eq_replicate_iff.mpr heven, List.sum_replicate_nat]
  refine List.sum_eq_zero fun z hz => ?_
  obtain ⟨h, hh, rfl⟩ := List.mem_map.mp hz
  rw [heven h hh, htotal, Nat.cast_mul, sub_self, zero_mul]

/-- **Daily averages weigh samples equally** exactly when counts and averages of the hours with samples are
    uncorrelated; the count is always that of the samples. -/
theorem daily_mean_iff (rows : List Snapshot) (id : ContainerID) (d : Int) (hday : rowsOfDay rows id d ≠ []) :
    ∃ row, dayRow rows id d = some row ∧ row.sampleCount = (rowsOfDay rows id d).length ∧
      (row.avgMemUsed = meanMemUsed (rowsOfDay rows id d) ↔ countBias (sampled (hoursOf rows id d)) = 0) := by
  have hperm := hours_perm rows id d
  have hflatten : (sampled (hoursOf rows id d)).flatten = (hoursOf rows id d).flatten :=
    List.flatten_filter_not_isEmpty
  have hne : ∀ h ∈ sampled (hoursOf rows id d), h ≠ [] := by
    intro h hh
    simpa using (List.mem_filter.mp hh).2
  rw [← hflatten] at hperm
  rw [dayRow, filterMap_hourlyMem]
  generalize sampled (hoursOf rows id d) = hours at *
  have hsum : sumMemUsed hours.flatten = sumMemUsed (rowsOfDay rows id d) := (hperm.map _).sum_eq
  have hcount : ((rowsOfDay rows id d).length : ℚ) ≠ 0 := Nat.cast_ne_zero.mpr (mt List.length_eq_zero_iff.mp hday)
  have hhours : hours ≠ [] := by
    rintro rfl
    exact hday hperm.symm.eq_nil
  have hpos : (hours.length : ℚ) ≠ 0 := Nat.cast_ne_zero.mpr (mt List.length_eq_zero_iff.mp hhours)
  refine ⟨_, if_neg (by simpa using hhours), ?_, ?_⟩ <;> dsimp only <;> rw [List.map_map]
  · rw [← hperm.length_eq, List.length_flatten]
    rfl
  · rw [countBias, sum_means hne, sub_eq_zero, hsum, hperm.length_eq, List.length_map, meanMemUsed,
      div_eq_div_iff hpos hcount, eq_comm, mul_comm, mul_comm (List.sum _)]
    rfl

theorem even_day_mean : ∃ row, dayRow [sampleAt 10, sampleAt 70] ⟨localAgent, "a"⟩ 0 = some row ∧
    row.avgMemUsed = meanMemUsed (rowsOfDay [sampleAt 10, sampleAt 70] ⟨localAgent, "a"⟩ 0) := by
  obtain ⟨row, hrow, -, hmean⟩ := daily_mean_iff [sampleAt 10, sampleAt 70] ⟨localAgent, "a"⟩ 0 (by decide)
  exact ⟨row, hrow, hmean.mpr (countBias_of_even (n := 1) (by decide))⟩

/-- **Hours weigh alike, samples do not**: two of the first hour and one of the second. -/
theorem uneven_day_mean :
    dayRow [sampleAt 10, sampleAt 20, sampleAt 70] ⟨localAgent, "a"⟩ 0 = some ⟨85 / 2, 3⟩ ∧
    meanMemUsed (rowsOfDay [sampleAt 10, sampleAt 20, sampleAt 70] ⟨localAgent, "a"⟩ 0) = 100 / 3 := by
  decide +kernel

end Maintenant.Resources
