/-
  File:      Maintenant/Update/Fixes.lean
  Subject:   WHETHER AN UPDATE FIXES A VULNERABILITY (internal/update/cve.go `fixedInFor`; service.go
             `IsFixedByUpdate`). A record lists affected ranges, each a list of events.

  * `Affects` -- the meaning of a range: introduced at or below a version and not fixed since;
  * `fixedInFor` -- the code takes the fix that the record lists first;
  * `isFixedByUpdate_sound_iff` -- so "fixed by the update" can be trusted where every affected stretch of the
    package is over by that fix, and nowhere else.
-/
import Maintenant.Update.Tags

namespace Maintenant.Updates

open GoText

/-! ## 1. Records and queries -/

structure OsvEvent where
  introduced : String
  fixed : String
deriving DecidableEq, Repr

structure OsvRange where
  events : List OsvEvent
deriving DecidableEq, Repr

structure OsvPackage where
  name : String
  ecosystem : String
deriving DecidableEq, Repr

structure OsvAffected where
  package : OsvPackage
  ranges : List OsvRange
deriving DecidableEq, Repr

structure OsvVulnRecord where
  affected : List OsvAffected
deriving DecidableEq, Repr

structure ImageCVEQuery where
  packageName : String
  ecosystem : String
  version : String
deriving DecidableEq, Repr

/-- The entry is about another package. -/
def OsvAffected.isOther (q : ImageCVEQuery) (a : OsvAffected) : Bool :=
  a.package.ecosystem != q.ecosystem || !equalFold a.package.name q.packageName

def fixedInFor (q : ImageCVEQuery) (rec : OsvVulnRecord) : String :=
  (rec.affected.findSome? fun a =>
    if a.isOther q then none
    else a.ranges.findSome? fun r =>
      r.events.findSome? fun e => if e.fixed ≠ "" then some e.fixed else none).getD ""

def isFixedByUpdate (v : Semver) (latestTag fixedInVersion : String) : Bool :=
  if fixedInVersion = "" ∨ latestTag = "" then false
  else
    match v.newVersion latestTag, v.newVersion fixedInVersion with
    | some latestVer, some fixVer => !v.lessThan latestVer fixVer
    | _, _ => false

/-! ## 2. What a range means -/

section Meaning

variable (v : Semver)

/-- The event introduces the vulnerability at or below the version; `0` stands for the beginning. -/
def Introduces (e : OsvEvent) (w : v.Version) : Prop :=
  e.introduced = "0" ∨ e.introduced ≠ "" ∧ ∃ i, v.newVersion e.introduced = some i ∧ v.le i w = true

/-- The event fixes at `g` what the other introduced before. -/
def EndsAt (e d : OsvEvent) (g : v.Version) : Prop :=
  d.fixed ≠ "" ∧ v.newVersion d.fixed = some g ∧
    (e.introduced = "0" ∨ ∃ i, v.newVersion e.introduced = some i ∧ v.lessThan i g = true)

/-- Introduced at or below the version and not fixed since. -/
def Affects (r : OsvRange) (w : v.Version) : Prop :=
  ∃ e ∈ r.events, Introduces v e w ∧ ∀ d ∈ r.events, ∀ g, EndsAt v e d g → v.le g w = false

/-- The affected ranges of the package asked for. -/
def rangesOf (q : ImageCVEQuery) (rec : OsvVulnRecord) : List OsvRange :=
  rec.affected.flatMap fun a => if a.isOther q then [] else a.ranges

/-- The fixes the record lists for the package, in its order. -/
def listedFixes (q : ImageCVEQuery) (rec : OsvVulnRecord) : List String :=
  ((rangesOf q rec).flatMap OsvRange.events).filterMap fun e => if e.fixed ≠ "" then some e.fixed else none

/-- The version asked for is in one of the ranges. -/
def Inside (q : ImageCVEQuery) (rec : OsvVulnRecord) : Prop :=
  ∃ w, v.newVersion q.version = some w ∧ ∃ r ∈ rangesOf q rec, Affects v r w

/-- Every stretch of every range is over by the fix listed first. -/
def OverByFirstFix (q : ImageCVEQuery) (rec : OsvVulnRecord) : Prop :=
  ∀ s f, (listedFixes q rec).head? = some s → v.newVersion s = some f →
    ∀ r ∈ rangesOf q rec, ∀ e ∈ r.events, (∃ w, Introduces v e w) →
      ∃ d ∈ r.events, ∃ g, EndsAt v e d g ∧ v.le g f = true

end Meaning

/-! ## 3. The fix that is stored -/

theorem fixedInFor_eq (q : ImageCVEQuery) (rec : OsvVulnRecord) :
    fixedInFor q rec = (listedFixes q rec).head?.getD "" := by
  unfold fixedInFor listedFixes rangesOf
  rw [List.filterMap_flatMap, List.flatMap_assoc, List.head?_flatMap]
  simp only [List.head?_flatMap, List.head?_filterMap]
  congr 2
  funext a
  cases a.isOther q <;> rfl

theorem ne_empty_of_listed {q : ImageCVEQuery} {rec : OsvVulnRecord} {s : String} (h : s ∈ listedFixes q rec) :
    s ≠ "" := by
  obtain ⟨e, _, he⟩ := List.mem_filterMap.mp h
  by_cases hfix : e.fixed ≠ ""
  · rw [if_pos hfix] at he
    exact Option.some.inj he ▸ hfix
  · simp [if_neg hfix] at he

theorem isFixedByUpdate_iff {v : Semver} {latestTag fixedInVersion : String} :
    isFixedByUpdate v latestTag fixedInVersion = true ↔ fixedInVersion ≠ "" ∧ latestTag ≠ "" ∧
      ∃ w f, v.newVersion latestTag = some w ∧ v.newVersion fixedInVersion = some f ∧ v.le f w = true := by
  unfold isFixedByUpdate
  by_cases hempty : fixedInVersion = "" ∨ latestTag = ""
  · rw [if_pos hempty]
    simp only [Bool.false_eq_true, false_iff]
    intro h
    exact hempty.elim h.1 h.2.1
  · rw [if_neg hempty]
    obtain ⟨hfix, hlat⟩ := not_or.mp hempty
    cases v.newVersion latestTag with
    | none => simp
    | some =>
      cases v.newVersion fixedInVersion with
      | none => simp
      | some => simp [hfix, hlat, Semver.lessThan]

/-! ## 4. When "fixed by the update" can be trusted -/

section Sound

variable {v : Semver} {q : ImageCVEQuery} {rec : OsvVulnRecord}

/-- A stretch that outlives the fix listed first has a version that counts as fixed: that fix, or where the stretch
    begins. -/
theorem counted_of_outlived {s : String} {f : v.Version} {r : OsvRange} {e : OsvEvent}
    (hs : s ≠ "") (hf : v.newVersion s = some f) (he : e ∈ r.events) (hint : ∃ w, Introduces v e w)
    (hout : ∀ d ∈ r.events, ∀ g, EndsAt v e d g → v.le g f = false) :
    ∃ latest w, isFixedByUpdate v latest s = true ∧ v.newVersion latest = some w ∧ Affects v r w := by
  by_cases hbegun : Introduces v e f
  · exact ⟨s, f, isFixedByUpdate_iff.mpr ⟨hs, hs, f, f, hf, hf, Semver.le_self f⟩, hf, e, he, hbegun, hout⟩
  · obtain ⟨w₀, hw₀⟩ := hint
    obtain ⟨hne, i, hi, _⟩ := hw₀.resolve_left fun h => hbegun (Or.inl h)
    have hfi : v.le f i = true := by
      have htot := v.le_total f i
      have hif : v.le i f = false := by
        rw [← Bool.not_eq_true]
        exact fun hle => hbegun (Or.inr ⟨hne, i, hi, hle⟩)
      rwa [hif, Bool.or_false] at htot
    refine ⟨e.introduced, i, isFixedByUpdate_iff.mpr ⟨hs, hne, i, f, hi, hf, hfi⟩, hi, e, he,
      Or.inr ⟨hne, i, hi, Semver.le_self i⟩, fun d _ g hend => ?_⟩
    -- a fix of what begins at `i` is above `i`
    rcases hend.2.2 with h0 | ⟨j, hj, hlt⟩
    · exact absurd (Or.inl h0) hbegun
    · obtain rfl : i = j := Option.some.inj (hi.symm.trans hj)
      exact Semver.lessThan_iff.mp hlt

/-- **An update that counts as fixing the vulnerability is outside every affected range of the package, where every
    stretch is over by the fix listed first**; otherwise some version counts as fixed and is affected. -/
theorem isFixedByUpdate_sound_iff (v : Semver) (q : ImageCVEQuery) (rec : OsvVulnRecord) :
    (Inside v q rec → ∀ latestTag w, isFixedByUpdate v latestTag (fixedInFor q rec) = true →
        v.newVersion latestTag = some w → ∀ r ∈ rangesOf q rec, ¬ Affects v r w) ↔
      (Inside v q rec → OverByFirstFix v q rec) := by
  refine imp_congr_right fun _ =>
    ⟨fun h s f hhead hf r hr e he hint => ?_, fun h latestTag w hfixed hw r hr haff => ?_⟩
  · by_contra hno
    have hout : ∀ d ∈ r.events, ∀ g, EndsAt v e d g → v.le g f = false := by
      intro d hd g hend
      rw [← Bool.not_eq_true]
      exact fun hle => hno ⟨d, hd, g, hend, hle⟩
    have hs : s ≠ "" := ne_empty_of_listed (List.mem_of_head? hhead)
    obtain ⟨latest, w, hfixed, hw, haff⟩ := counted_of_outlived hs hf he hint hout
    rw [fixedInFor_eq, hhead] at h
    exact h latest w hfixed hw r hr haff
  · rw [fixedInFor_eq] at hfixed
    obtain ⟨hne, _, w', f, hw', hf, hle⟩ := isFixedByUpdate_iff.mp hfixed
    obtain rfl : w = w' := Option.some.inj (hw.symm.trans hw')
    cases hhead : (listedFixes q rec).head? with
    | none =>
      rw [hhead] at hne
      exact hne rfl
    | some s =>
      rw [hhead] at hf
      obtain ⟨e, he, hint, hlasts⟩ := haff
      obtain ⟨d, hd, g, hend, hgf⟩ := h s f hhead hf r hr e he ⟨w, hint⟩
      have hgw : v.le g w = true := v.le_trans g f w hgf hle
      simp [hlasts d hd g hend] at hgw

/-- Two release lines. -/
def lineVersions : Semver := .ofList ["1.0.0", "1.2.0", "2.0.0", "2.1.0", "2.2.0", "2.3.0"]

def lineQuery : ImageCVEQuery := ⟨"nginx", "Docker", "2.1.0"⟩

/-- Fixed in 1.2.0 on the first line and in 2.3.0 on the second. -/
def lineRecord : OsvVulnRecord :=
  ⟨[⟨⟨"nginx", "Docker"⟩,
    [⟨[⟨"1.0.0", ""⟩, ⟨"", "1.2.0"⟩]⟩, ⟨[⟨"2.0.0", ""⟩, ⟨"", "2.3.0"⟩]⟩]⟩]⟩

theorem lineRecord_affects {w : Nat} (h2 : 2 ≤ w) (h5 : w < 5) :
    Affects lineVersions ⟨[⟨"2.0.0", ""⟩, ⟨"", "2.3.0"⟩]⟩ w := by
  refine ⟨⟨"2.0.0", ""⟩, List.mem_cons_self, Or.inr ⟨by decide, (2 : Nat), rfl, decide_eq_true h2⟩,
    fun d hd g hend => ?_⟩
  rcases List.mem_pair.mp hd with rfl | rfl
  · exact absurd rfl hend.1
  · obtain rfl : (5 : Nat) = g := Option.some.inj hend.2.1
    exact decide_eq_false (Nat.not_le.mpr h5)

/-- Version 2.1.0 is running, 2.2.0 counts as fixed by the fix of the other line, and is affected. -/
theorem isFixedByUpdate_other_line : Inside lineVersions lineQuery lineRecord ∧
    isFixedByUpdate lineVersions "2.2.0" (fixedInFor lineQuery lineRecord) = true ∧
    lineVersions.newVersion "2.2.0" = some (4 : Nat) ∧
    ∃ r ∈ rangesOf lineQuery lineRecord, Affects lineVersions r (4 : Nat) :=
  ⟨⟨(3 : Nat), rfl, _, by decide, lineRecord_affects (by decide) (by decide)⟩, by decide, rfl, _, by decide,
    lineRecord_affects (by decide) (by decide)⟩

end Sound

end Maintenant.Updates
