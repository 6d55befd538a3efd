/-
  File:      Maintenant/Update/Tags.lean
  Subject:   WHICH TAG IS AN UPDATE (internal/update/semver.go, tagfilter.go). Versions and their order
             come from the semver package and are a parameter here.

  * `findBestUpdate` -- a newer tag written the same way, the same tag for a comparison of digests, or
    nothing;
  * `TagFilter.filter` -- the tags that the include and exclude labels leave.
-/
import Maintenant.Lib.GoText
import Mathlib.Data.List.Sort

namespace Maintenant.Updates

open GoText

/-! ## 1. Versions -/

inductive UpdateType where
  | major
  | minor
  | patch
  | digestOnly
  | unknown
deriving DecidableEq, Repr

/-- The semver package: a partial parser into a total preorder. -/
structure Semver where
  Version : Type
  newVersion : String → Option Version
  le : Version → Version → Bool
  le_trans : ∀ a b c, le a b = true → le b c = true → le a c = true
  le_total : ∀ a b, (le a b || le b a) = true
  major : Version → Nat
  minor : Version → Nat
  patch : Version → Nat
  prerelease : Version → String

namespace Semver

variable (v : Semver)

def lessThan (a b : v.Version) : Bool := !v.le b a

def greaterThan (a b : v.Version) : Bool := v.lessThan b a

/-- A tag with the version it is written for. -/
structure TagVersion where
  original : String
  version : v.Version

variable {v} {a b c : v.Version}

theorem le_self (a : v.Version) : v.le a a = true := by
  have h := v.le_total a a
  rwa [Bool.or_self] at h

theorem lessThan_iff : v.lessThan a b = true ↔ v.le b a = false := by
  unfold lessThan
  rw [Bool.not_eq_true']

theorem le_of_lessThan (h : v.lessThan a b = true) : v.le a b = true := by
  have htot := v.le_total a b
  rw [lessThan_iff.mp h, Bool.or_false] at htot
  exact htot

theorem le_of_not_lessThan (h : ¬ v.lessThan a b = true) : v.le b a = true := by
  rw [lessThan_iff, Bool.not_eq_false] at h
  exact h

theorem lessThan_of_le (hab : v.lessThan a b = true) (hbc : v.le b c = true) : v.lessThan a c = true := by
  rw [lessThan_iff] at hab ⊢
  by_contra hca
  rw [Bool.not_eq_false] at hca
  simp [v.le_trans b c a hbc hca] at hab

/-- The versions of a list of releases, in its order, each a minor one of major version 1. -/
def ofList (releases : List String) : Semver where
  Version := Nat
  newVersion s := releases.idxOf? s
  le a b := decide (a ≤ b)
  le_trans a b c hab hbc := decide_eq_true (Nat.le_trans (of_decide_eq_true hab) (of_decide_eq_true hbc))
  le_total a b := by simpa using Nat.le_total a b
  major _ := 1
  minor v := v
  patch _ := 0
  prerelease _ := ""

end Semver

/-- The packages the tags are judged with: versions, and what `sort.Slice` makes of the order of equal
    ones. -/
structure Versions extends Semver where
  arrange : ∀ l : List toSemver.TagVersion, { l' : List toSemver.TagVersion // l'.Perm l }

/-! ## 2. How a tag is written -/

/-- `knownVariantSuffixes`, the longest first. -/
def knownVariantSuffixes : List String :=
  ["-slim-bookworm", "-slim-bullseye", "-slim-buster", "-alpine3.21", "-alpine3.20", "-alpine3.19", "-alpine3.18",
    "-alpine", "-bookworm", "-bullseye", "-buster", "-noble", "-jammy", "-focal"]

def splitVariant (tag : String) : String × String :=
  match knownVariantSuffixes.find? (hasSuffix (toLower tag)) with
  | some suffix => cutAt tag (tag.toList.length - suffix.toList.length)
  | none => (tag, "")

/-- The numeric components a version part is written with. -/
def semverPrecision (versionPart : String) : Nat :=
  let core := (trimPrefix versionPart "v").toList.takeWhile fun c => c != '-' && c != '+'
  core.count '.' + 1

def hasVPrefix (versionPart : String) : Bool := hasPrefix versionPart "v"

def digitCount (n : Nat) : Nat := (Nat.toDigits 10 n).length

/-! ## 3. The best update -/

section Best

variable (v : Versions)

def classifyUpdate (current latest : v.Version) : UpdateType :=
  if v.major current < v.major latest then .major
  else if v.minor current < v.minor latest then .minor
  else if v.patch current < v.patch latest then .patch
  else .unknown

/-- The loop of `sortTagVersions` on one tag. -/
def readTag (variant : String) (requireDots : Bool) (precision : Nat) (tag : String) :
    Option v.TagVersion := do
  let (versionPart, tv) := splitVariant tag
  guard (equalFold tv variant)
  guard (!(requireDots && !contains (trimPrefix versionPart "v") "."))
  guard (!(decide (0 < precision) && semverPrecision versionPart != precision))
  let version ← v.newVersion versionPart
  guard (v.prerelease version = "")
  return ⟨tag, version⟩

def sortTagVersions (tags : List String) (variant : String) (requireDots : Bool) (precision : Nat) :
    List v.TagVersion :=
  (v.arrange (tags.filterMap (readTag v variant requireDots precision))).val.insertionSort
    fun a b => v.le a.version b.version = true

def digestOnly (currentTag : String) (allTags : List String) : String × UpdateType :=
  if currentTag ∈ allTags then (currentTag, .digestOnly) else ("", .unknown)

/-- A candidate written like the current tag, and newer. -/
def isFloatingUpdate (currentVer : v.Version) (versionPart : String) (c : v.TagVersion) : Bool :=
  hasVPrefix (splitVariant c.original).1 == hasVPrefix versionPart &&
    !decide (digitCount (v.major currentVer) + 1 < digitCount (v.major c.version)) &&
    v.greaterThan c.version currentVer

def bestFloatingUpdate (currentVer : v.Version) (versionPart variant : String) (allTags : List String) :
    Option v.TagVersion :=
  ((sortTagVersions v allTags variant false (semverPrecision versionPart)).filter
    (isFloatingUpdate v currentVer versionPart)).getLast?

def findBestUpdate (currentTag : String) (allTags : List String) : String × UpdateType :=
  let (versionPart, variant) := splitVariant currentTag
  match v.newVersion versionPart with
  | none => digestOnly currentTag allTags
  | some currentVer =>
    -- a partial version is a channel that the registry moves along
    if semverPrecision versionPart < 3 then
      match bestFloatingUpdate v currentVer versionPart variant allTags with
      | none => digestOnly currentTag allTags
      | some best => (best.original, classifyUpdate v currentVer best.version)
    else
      let candidates := sortTagVersions v allTags variant true 0
      match (candidates.filter fun c => v.greaterThan c.version currentVer).getLast? with
      | none => ("", .unknown)
      | some best => (best.original, classifyUpdate v currentVer best.version)

end Best

/-! ## 4. Tag filters -/

structure TagFilter where
  tagInclude : Option (String → Bool)
  tagExclude : Option (String → Bool)
  variant : String

def TagFilter.filter (f : TagFilter) (tags : List String) : List String :=
  let result :=
    match f.tagInclude with
    | some re => tags.filter re
    | none =>
      if f.variant ≠ "" then tags.filter fun tag => equalFold (splitVariant tag).2 f.variant else tags
  match f.tagExclude with
  | none => result
  | some re => result.filter fun tag => !re tag

end Maintenant.Updates
