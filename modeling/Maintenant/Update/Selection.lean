/-
  File:      Maintenant/Update/Selection.lean
  Subject:   THE NEWEST TAG THAT MAY BE PROPOSED (internal/update/semver.go, tagfilter.go, the filtering of
             scanner.go).

  * `Eligible` -- the tags that may be proposed for the current one;
  * `newest_some`, `newest_none` -- filter, sort and scan together take a maximum of them;
  * `findBestUpdate_best_iff` -- the tag returned is the best one and its type tells what grew, except for a
    prerelease whose own release is the best there is;
  * `proposed_newest_iff` -- an include pattern stands in for the variant only as far as the tags of the
    current variant reach.
-/
import Maintenant.Update.Scanner

namespace Maintenant.Updates

open GoText

/-! ## 1. The last of a sorted list -/

section Last

variable {α : Type} {le : α → α → Prop} {p : α → Bool} {l : List α} {m : α}

theorem le_getLast (hl : l.Pairwise le) (hm : l.getLast? = some m) {x : α} (hx : x ∈ l) : x = m ∨ le x m := by
  obtain ⟨init, rfl⟩ := List.getLast?_eq_some_iff.mp hm
  rcases List.mem_append.mp hx with h | h
  · exact Or.inr ((List.pairwise_append.mp hl).2.2 x h m (List.mem_singleton_self m))
  · exact Or.inl (List.mem_singleton.mp h)

end Last

/-! ## 2. Precedence of versions -/

namespace Semver

variable (v : Semver)

def SameCore (a b : v.Version) : Prop := v.major a = v.major b ∧ v.minor a = v.minor b ∧ v.patch a = v.patch b

/-- The first component that differs is the smaller one. -/
def CoreLt (a b : v.Version) : Prop :=
  v.major a < v.major b ∨ v.major a = v.major b ∧ (v.minor a < v.minor b ∨
    v.minor a = v.minor b ∧ v.patch a < v.patch b)

/-- What the semver package documents of its order: the components decide, then a prerelease is before its
    release; the empty text is no version. -/
structure Precedence : Prop where
  core : ∀ a b, v.CoreLt a b → v.lessThan a b = true
  release : ∀ a b, v.SameCore a b → v.prerelease b = "" → v.le a b = true
  before : ∀ a b, v.SameCore a b → v.prerelease a ≠ "" → v.prerelease b = "" → v.lessThan a b = true
  empty : v.newVersion "" = none

variable {v} {a b : v.Version}

theorem core_trichotomy (a b : v.Version) : v.CoreLt a b ∨ v.SameCore a b ∨ v.CoreLt b a := by
  unfold CoreLt SameCore
  omega

/-- **A newer release has grown, or the older version is a prerelease of it.** -/
theorem Precedence.grown (hv : v.Precedence) (hab : v.lessThan a b = true) :
    v.CoreLt a b ∨ v.SameCore a b ∧ v.prerelease a ≠ "" := by
  have hba : v.le b a = false := lessThan_iff.mp hab
  rcases core_trichotomy a b with h | h | h
  · exact Or.inl h
  · refine Or.inr ⟨h, fun hrel => ?_⟩
    have hle : v.le b a = true := hv.release b a ⟨h.1.symm, h.2.1.symm, h.2.2.symm⟩ hrel
    simp [hba] at hle
  · simp [le_of_lessThan (hv.core b a h)] at hba

end Semver

/-- The most significant component that grew. -/
def Grew (v : Semver) (a b : v.Version) : UpdateType → Prop
  | .major => v.major a < v.major b
  | .minor => v.major a = v.major b ∧ v.minor a < v.minor b
  | .patch => v.major a = v.major b ∧ v.minor a = v.minor b ∧ v.patch a < v.patch b
  | .digestOnly => False
  | .unknown => False

section Classify

variable {v : Versions} {a b : v.Version}

theorem classifyUpdate_of_coreLt (h : v.CoreLt a b) : Grew v.toSemver a b (classifyUpdate v a b) := by
  unfold Semver.CoreLt at h
  unfold classifyUpdate
  split
  · assumption
  · split
    · exact ⟨by omega, by assumption⟩
    · split
      · exact ⟨by omega, by omega, by assumption⟩
      · omega

theorem classifyUpdate_of_sameCore (h : v.SameCore a b) : classifyUpdate v a b = .unknown := by
  obtain ⟨h1, h2, h3⟩ := h
  unfold classifyUpdate
  rw [h1, h2, h3]
  simp only [Nat.lt_irrefl, if_false]

end Classify

/-! ## 3. The tags that may be proposed -/

section Eligible

variable (v : Versions)

/-- Written like the current version part: a partial version keeps its prefix and its number of components, and a
    major number far longer than the current one is a build id; a full version has a dot. -/
def WrittenLike (currentVer : v.Version) (versionPart : String) (c : v.TagVersion) : Prop :=
  if semverPrecision versionPart < 3 then
    semverPrecision (splitVariant c.original).1 = semverPrecision versionPart ∧
      hasVPrefix (splitVariant c.original).1 = hasVPrefix versionPart ∧
      digitCount (v.major c.version) ≤ digitCount (v.major currentVer) + 1
  else contains (trimPrefix (splitVariant c.original).1 "v") "." = true

/-- A tag of the list that may be proposed for the current one. -/
structure Eligible (currentVer : v.Version) (versionPart variant : String) (tags : List String) (c : v.TagVersion) :
    Prop where
  listed : c.original ∈ tags
  variant : equalFold (splitVariant c.original).2 variant = true
  version : v.newVersion (splitVariant c.original).1 = some c.version
  release : v.prerelease c.version = ""
  written : WrittenLike v currentVer versionPart c

variable {v}

theorem readTag_eq_some {variant tag : String} {requireDots : Bool} {precision : Nat} {c : v.TagVersion} :
    readTag v variant requireDots precision tag = some c ↔
      c.original = tag ∧ equalFold (splitVariant tag).2 variant = true ∧
        (requireDots = false ∨ contains (trimPrefix (splitVariant tag).1 "v") "." = true) ∧
        (precision = 0 ∨ semverPrecision (splitVariant tag).1 = precision) ∧
        v.newVersion (splitVariant tag).1 = some c.version ∧ v.prerelease c.version = "" := by
  obtain ⟨original, version⟩ := c
  unfold readTag
  cases hn : v.newVersion (splitVariant tag).1 with
  | none => simp [hn]
  | some w =>
    simp only [Option.bind_eq_bind, Option.bind_eq_some_iff, Option.guard_eq_some', hn, Option.some.injEq,
      Option.pure_def, Semver.TagVersion.mk.injEq]
    constructor
    · intro h
      obtain ⟨_, hvar, _, hdot, _, hprec, w', rfl, _, hrel, rfl, rfl⟩ := h
      exact ⟨rfl, hvar, by simpa using hdot, by simpa using hprec, rfl, hrel⟩
    · intro h
      obtain ⟨rfl, hvar, hdot, hprec, rfl, hrel⟩ := h
      exact ⟨(), hvar, (), by simpa using hdot, (), by simpa using hprec, w, rfl, (), hrel, rfl, rfl⟩

theorem mem_sortTagVersions {tags : List String} {variant : String} {requireDots : Bool} {precision : Nat}
    {c : v.TagVersion} : c ∈ sortTagVersions v tags variant requireDots precision ↔
      ∃ tag ∈ tags, readTag v variant requireDots precision tag = some c := by
  unfold sortTagVersions
  rw [List.mem_insertionSort, (v.arrange _).property.mem_iff, List.mem_filterMap]

theorem sortTagVersions_sorted (tags : List String) (variant : String) (requireDots : Bool) (precision : Nat) :
    (sortTagVersions v tags variant requireDots precision).Pairwise fun a b => v.le a.version b.version = true := by
  have : Std.Total fun a b : v.TagVersion => v.le a.version b.version = true :=
    ⟨fun a b => by simpa using v.le_total a.version b.version⟩
  have : IsTrans v.TagVersion fun a b => v.le a.version b.version = true :=
    ⟨fun a b c => v.le_trans a.version b.version c.version⟩
  exact List.pairwise_insertionSort _ _

/-! ## 4. The scan takes the newest -/

/-- The tag that `FindBestUpdate` settles on for a version, if any. -/
def newest (v : Versions) (currentVer : v.Version) (versionPart variant : String) (tags : List String) :
    Option v.TagVersion :=
  if semverPrecision versionPart < 3 then bestFloatingUpdate v currentVer versionPart variant tags
  else ((sortTagVersions v tags variant true 0).filter fun c => v.greaterThan c.version currentVer).getLast?

/-- The newest one for a tag. -/
abbrev newestFor (v : Versions) (currentVer : v.Version) (currentTag : String) (tags : List String) :
    Option v.TagVersion :=
  newest v currentVer (splitVariant currentTag).1 (splitVariant currentTag).2 tags

theorem findBestUpdate_of_some {currentTag : String} {currentVer : v.Version} (tags : List String)
    (hcur : v.newVersion (splitVariant currentTag).1 = some currentVer) :
    findBestUpdate v currentTag tags =
      match newestFor v currentVer currentTag tags with
      | some best => (best.original, classifyUpdate v currentVer best.version)
      | none => if semverPrecision (splitVariant currentTag).1 < 3 then digestOnly currentTag tags
          else ("", .unknown) := by
  simp only [findBestUpdate, hcur, newest]
  by_cases hp : semverPrecision (splitVariant currentTag).1 < 3
  · simp only [if_pos hp]
    cases bestFloatingUpdate v currentVer (splitVariant currentTag).1 (splitVariant currentTag).2 tags <;> rfl
  · simp only [if_neg hp]
    cases ((sortTagVersions v tags (splitVariant currentTag).2 true 0).filter
      fun c => v.greaterThan c.version currentVer).getLast? <;> rfl

theorem findBestUpdate_of_none {currentTag : String} {tags : List String}
    (hcur : v.newVersion (splitVariant currentTag).1 = none) :
    findBestUpdate v currentTag tags = digestOnly currentTag tags := by
  simp only [findBestUpdate, hcur]

variable {currentVer : v.Version} {versionPart variant : String} {tags : List String} {c : v.TagVersion}

/-- The list the scan goes over: sorted, and the eligible tags that are newer. -/
theorem newest_eq (currentVer : v.Version) (versionPart variant : String) (tags : List String) :
    ∃ l : List v.TagVersion, newest v currentVer versionPart variant tags = l.getLast? ∧
    (l.Pairwise fun a b => v.le a.version b.version = true) ∧
    ∀ c, c ∈ l ↔ Eligible v currentVer versionPart variant tags c ∧
    v.greaterThan c.version currentVer = true := by
  unfold newest
  by_cases hp : semverPrecision versionPart < 3
  · rw [if_pos hp]
    refine ⟨_, rfl, (sortTagVersions_sorted tags variant false _).filter _, fun c => ?_⟩
    have hpos : semverPrecision versionPart ≠ 0 := by simp [semverPrecision]
    simp only [List.mem_filter, mem_sortTagVersions, readTag_eq_some, isFloatingUpdate, Bool.and_eq_true, beq_iff_eq,
      Bool.not_eq_true', decide_eq_false_iff_not, Nat.not_lt]
    constructor
    · intro h
      obtain ⟨⟨tag, htag, rfl, hvar, _, hprec, hver, hrel⟩, ⟨hpre, hdig⟩, hnew⟩ := h
      refine ⟨⟨htag, hvar, hver, hrel, ?_⟩, hnew⟩
      rw [WrittenLike, if_pos hp]
      exact ⟨hprec.resolve_left hpos, hpre, hdig⟩
    · intro h
      obtain ⟨⟨htag, hvar, hver, hrel, hwr⟩, hnew⟩ := h
      rw [WrittenLike, if_pos hp] at hwr
      exact ⟨⟨c.original, htag, rfl, hvar, Or.inl trivial, Or.inr hwr.1, hver, hrel⟩,
        ⟨hwr.2.1, hwr.2.2⟩, hnew⟩
  · rw [if_neg hp]
    refine ⟨_, rfl, (sortTagVersions_sorted tags variant true 0).filter _, fun c => ?_⟩
    simp only [List.mem_filter, mem_sortTagVersions, readTag_eq_some]
    constructor
    · intro h
      obtain ⟨⟨tag, htag, rfl, hvar, hdot, _, hver, hrel⟩, hnew⟩ := h
      refine ⟨⟨htag, hvar, hver, hrel, ?_⟩, hnew⟩
      rw [WrittenLike, if_neg hp]
      exact hdot.resolve_left Bool.true_eq_false.mp
    · intro h
      obtain ⟨⟨htag, hvar, hver, hrel, hwr⟩, hnew⟩ := h
      rw [WrittenLike, if_neg hp] at hwr
      exact ⟨⟨c.original, htag, rfl, hvar, Or.inr hwr, Or.inl trivial, hver, hrel⟩, hnew⟩

/-- **A tag found is eligible, newer, and no eligible tag is above it.** -/
theorem newest_some (h : newest v currentVer versionPart variant tags = some c) :
    Eligible v currentVer versionPart variant tags c ∧ v.greaterThan c.version currentVer = true ∧
      ∀ d, Eligible v currentVer versionPart variant tags d → v.le d.version c.version = true := by
  obtain ⟨l, hl, hsorted, hmem⟩ := newest_eq currentVer versionPart variant tags
  rw [hl] at h
  obtain ⟨hc, hnew⟩ := (hmem c).mp (List.mem_of_getLast? h)
  refine ⟨hc, hnew, fun d hd => ?_⟩
  by_cases hdn : v.greaterThan d.version currentVer = true
  · rcases le_getLast hsorted h ((hmem d).mpr ⟨hd, hdn⟩) with rfl | hle
    · exact Semver.le_self d.version
    · exact hle
  · exact v.le_trans _ _ _ (Semver.le_of_not_lessThan hdn) (Semver.le_of_lessThan hnew)

/-- **Nothing is found when no eligible tag is newer, and then only.** -/
theorem newest_none : newest v currentVer versionPart variant tags = none ↔
    ∀ d, Eligible v currentVer versionPart variant tags d → v.greaterThan d.version currentVer = false := by
  obtain ⟨l, hl, _, hmem⟩ := newest_eq currentVer versionPart variant tags
  rw [hl, List.getLast?_eq_none_iff, List.eq_nil_iff_forall_not_mem]
  simp only [hmem, not_and, Bool.not_eq_true]

/-- An order of the list does not matter to who may be proposed. -/
theorem Eligible.perm {tags' : List String} (hp : tags.Perm tags')
    (h : Eligible v currentVer versionPart variant tags c) : Eligible v currentVer versionPart variant tags' c :=
  ⟨hp.mem_iff.mp h.listed, h.variant, h.version, h.release, h.written⟩

theorem Eligible.dotted (h3 : ¬ semverPrecision versionPart < 3)
    (h : Eligible v currentVer versionPart variant tags c) :
    contains (trimPrefix (splitVariant c.original).1 "v") "." = true := by
  have hwr := h.written
  rwa [WrittenLike, if_neg h3] at hwr

end Eligible

/-! ## 5. The best update -/

section Best

variable (v : Versions)

/-- The tag is the best one to propose, and the type says what grew. -/
def BestUpdate (currentTag : String) (tags : List String) (best : String) (kind : UpdateType) : Prop :=
  ∃ currentVer c, v.newVersion (splitVariant currentTag).1 = some currentVer ∧ c.original = best ∧
    Eligible v currentVer (splitVariant currentTag).1 (splitVariant currentTag).2 tags c ∧
    v.greaterThan c.version currentVer = true ∧
    (∀ d, Eligible v currentVer (splitVariant currentTag).1 (splitVariant currentTag).2 tags d →
      v.greaterThan d.version c.version = false) ∧
    Grew v.toSemver currentVer c.version kind

/-- One and the same tag, or two tags of one version. -/
def SameVersion (a b : String) : Prop :=
  a = b ∨ ∃ x y, v.newVersion (splitVariant a).1 = some x ∧ v.newVersion (splitVariant b).1 = some y ∧
    v.le x y = true ∧ v.le y x = true

/-- Where the current version is a prerelease and its own release may be proposed, so may a greater one. -/
def ReleaseOutgrown (currentTag : String) (tags : List String) : Prop :=
  ∀ currentVer, v.newVersion (splitVariant currentTag).1 = some currentVer → v.prerelease currentVer ≠ "" →
    ∀ c, Eligible v currentVer (splitVariant currentTag).1 (splitVariant currentTag).2 tags c →
      v.SameCore currentVer c.version →
      ∃ d, Eligible v currentVer (splitVariant currentTag).1 (splitVariant currentTag).2 tags d ∧
        v.CoreLt currentVer d.version

variable {v}

variable {currentTag : String} {tags : List String}

theorem digestOnly_eq_self (h : (digestOnly currentTag tags).1 ≠ "") :
    (digestOnly currentTag tags).1 = currentTag := by
  unfold digestOnly at h ⊢
  split
  · rfl
  · rename_i hnot
    rw [if_neg hnot] at h
    exact absurd rfl h

theorem digestOnly_perm {tags' : List String} (hp : tags.Perm tags') :
    digestOnly currentTag tags = digestOnly currentTag tags' := by
  unfold digestOnly
  simp only [hp.mem_iff]

/-- What the function returns when it returns another tag is the newest one. -/
theorem newest_of_returned
    (hne : (findBestUpdate v currentTag tags).1 ≠ "") (hother : (findBestUpdate v currentTag tags).1 ≠ currentTag) :
    ∃ currentVer c, v.newVersion (splitVariant currentTag).1 = some currentVer ∧
      newestFor v currentVer currentTag tags = some c ∧
      findBestUpdate v currentTag tags = (c.original, classifyUpdate v currentVer c.version) := by
  cases hcur : v.newVersion (splitVariant currentTag).1 with
  | none =>
    rw [findBestUpdate_of_none hcur] at hne hother
    exact absurd (digestOnly_eq_self hne) hother
  | some currentVer =>
    have heq := findBestUpdate_of_some tags hcur
    cases hnew : newestFor v currentVer currentTag tags with
    | some c =>
      rw [hnew] at heq
      exact ⟨currentVer, c, rfl, hnew, heq⟩
    | none =>
      rw [hnew] at heq
      by_cases hp : semverPrecision (splitVariant currentTag).1 < 3
      · simp only [if_pos hp] at heq
        rw [heq] at hne hother
        exact absurd (digestOnly_eq_self hne) hother
      · simp only [if_neg hp] at heq
        rw [heq] at hne
        exact absurd rfl hne

/-- The version proposed does not depend on the order of the list. -/
theorem findBestUpdate_perm {tags' : List String} (hp : tags.Perm tags') :
    SameVersion v (findBestUpdate v currentTag tags).1 (findBestUpdate v currentTag tags').1 := by
  cases hcur : v.newVersion (splitVariant currentTag).1 with
  | none =>
    rw [findBestUpdate_of_none hcur, findBestUpdate_of_none hcur, digestOnly_perm hp]
    exact Or.inl rfl
  | some currentVer =>
    rw [findBestUpdate_of_some tags hcur, findBestUpdate_of_some tags' hcur]
    cases hn : newestFor v currentVer currentTag tags with
    | none =>
      have hn' : newestFor v currentVer currentTag tags' = none :=
        newest_none.mpr fun d hd => newest_none.mp hn d (hd.perm hp.symm)
      rw [hn', digestOnly_perm hp]
      exact Or.inl rfl
    | some c =>
      obtain ⟨hc, hnew, hmax⟩ := newest_some hn
      cases hn' : newestFor v currentVer currentTag tags' with
      | none =>
        simp [newest_none.mp hn' c (hc.perm hp)] at hnew
      | some c' =>
        obtain ⟨hc', _, hmax'⟩ := newest_some hn'
        exact Or.inr ⟨c.version, c'.version, hc.version, hc'.version, hmax' c (hc.perm hp),
          hmax c' (hc'.perm hp.symm)⟩

/-- **The update returned is the best one, whatever the order of the list, unless the current version is a prerelease
    and its own release is the best there is**: nothing grew then, and the type is unknown. -/
theorem findBestUpdate_best_iff (v : Versions) (hv : v.Precedence) (currentTag : String) (tags : List String) :
    (((findBestUpdate v currentTag tags).1 ≠ "" → (findBestUpdate v currentTag tags).1 ≠ currentTag →
        BestUpdate v currentTag tags (findBestUpdate v currentTag tags).1 (findBestUpdate v currentTag tags).2) ∧
      ∀ tags', tags.Perm tags' →
        SameVersion v (findBestUpdate v currentTag tags).1 (findBestUpdate v currentTag tags').1) ↔
      ReleaseOutgrown v currentTag tags := by
  constructor
  · rintro ⟨hbest, -⟩ currentVer hcur hpre c hc hsame
    by_contra hno
    -- the release of the current prerelease is newer, so something is found; it has not grown
    have hcnew : v.greaterThan c.version currentVer = true := hv.before currentVer c.version hsame hpre hc.release
    cases hn : newestFor v currentVer currentTag tags with
    | none =>
      simp [newest_none.mp hn c hc] at hcnew
    | some d =>
      obtain ⟨hd, hdnew, _⟩ := newest_some hn
      have hdsame : v.SameCore currentVer d.version := by
        rcases hv.grown hdnew with h | h
        · exact absurd ⟨d, hd, h⟩ hno
        · exact h.1
      have heq := findBestUpdate_of_some tags hcur
      rw [hn] at heq
      simp only [classifyUpdate_of_sameCore hdsame] at heq
      rw [heq] at hbest
      have hdne : d.original ≠ "" := by
        intro h0
        have hver := hd.version
        rw [h0] at hver
        simp [show (splitVariant "").1 = "" from by decide, hv.empty] at hver
      have hdcur : d.original ≠ currentTag := by
        intro he
        have hver := hd.version
        rw [he, hcur] at hver
        exact hpre (Option.some.inj hver ▸ hd.release)
      obtain ⟨_, _, _, _, _, _, _, hgrew⟩ := hbest hdne hdcur
      exact hgrew
  · intro hout
    refine ⟨fun hne hother => ?_, fun tags' hp => findBestUpdate_perm hp⟩
    obtain ⟨currentVer, c, hcur, hn, heq⟩ := newest_of_returned hne hother
    obtain ⟨hc, hnew, hmax⟩ := newest_some hn
    have hgrown : v.CoreLt currentVer c.version := by
      rcases hv.grown hnew with h | ⟨hsame, hpre⟩
      · exact h
      · -- a greater tag would have been found instead
        obtain ⟨d, hd, hlt⟩ := hout currentVer hcur hpre c hc hsame
        have hdc : v.le d.version c.version = true := hmax d hd
        have hcd : v.CoreLt c.version d.version := by
          unfold Semver.CoreLt Semver.SameCore at *
          omega
        simp [Semver.lessThan_iff.mp (hv.core _ _ hcd)] at hdc
    rw [heq]
    refine ⟨currentVer, c, hcur, rfl, hc, hnew, fun d hd => ?_, classifyUpdate_of_coreLt hgrown⟩
    by_contra hdc
    rw [Bool.not_eq_false] at hdc
    have := Semver.lessThan_iff.mp hdc
    simp [hmax d hd] at this

/-- A release candidate, its release and the next minor one. -/
abbrev candidateVersions : Versions where
  Version := Fin 3
  newVersion s :=
    if s = "1.2.3-rc1" then some 0 else if s = "1.2.3" then some 1 else if s = "1.3.0" then some 2 else none
  le a b := decide (a ≤ b)
  le_trans := by decide
  le_total := by decide
  major _ := 1
  minor v := if v < 2 then 2 else 3
  patch v := if v < 2 then 3 else 0
  prerelease v := if v = 0 then "rc1" else ""
  arrange l := ⟨l, .refl l⟩

theorem candidateVersions_precedence : candidateVersions.Precedence where
  core := by
    unfold Semver.CoreLt
    change ∀ a b : Fin 3, _
    decide
  release := by
    unfold Semver.SameCore
    change ∀ a b : Fin 3, _
    decide
  before := by
    unfold Semver.SameCore
    change ∀ a b : Fin 3, _
    decide
  empty := rfl

/-- The release of the candidate that is running is proposed as an update of unknown type. -/
theorem findBestUpdate_candidate : candidateVersions.Precedence ∧
    findBestUpdate candidateVersions "1.2.3-rc1" ["1.2.3"] = ("1.2.3", .unknown) ∧
      ¬ BestUpdate candidateVersions "1.2.3-rc1" ["1.2.3"] "1.2.3" .unknown := by
  refine ⟨candidateVersions_precedence, by decide, fun h => ?_⟩
  obtain ⟨_, _, _, _, _, _, _, hgrew⟩ := h
  exact hgrew

/-- With the next minor release in the list, that one is the best update. -/
theorem findBestUpdate_outgrown :
    findBestUpdate candidateVersions "1.2.3-rc1" ["1.3.0", "1.2.3"] = ("1.3.0", .minor) ∧
    BestUpdate candidateVersions "1.2.3-rc1" ["1.3.0", "1.2.3"] "1.3.0" .minor := by
  have heq : findBestUpdate candidateVersions "1.2.3-rc1" ["1.3.0", "1.2.3"] = ("1.3.0", .minor) := by decide
  have hout : ReleaseOutgrown candidateVersions "1.2.3-rc1" ["1.3.0", "1.2.3"] := by
    intro currentVer hcur _ _ _ _
    have hread : candidateVersions.newVersion (splitVariant "1.2.3-rc1").1 = some (0 : Fin 3) := by decide
    obtain rfl : (0 : Fin 3) = currentVer := Option.some.inj (hread.symm.trans hcur)
    refine ⟨⟨"1.3.0", (2 : Fin 3)⟩, ⟨by decide, by decide, by decide, by decide, ?_⟩,
      Or.inr ⟨rfl, Or.inl (by decide)⟩⟩
    rw [WrittenLike, if_neg (by decide)]
    decide
  have hbest := ((findBestUpdate_best_iff candidateVersions candidateVersions_precedence "1.2.3-rc1"
    ["1.3.0", "1.2.3"]).mpr hout).1
  rw [heq] at hbest
  exact ⟨heq, hbest (by decide) (by decide)⟩

end Best

/-! ## 6. Tag filters -/

section Filters

variable (p : Packages) (cfg : UpdateConfig)

/-- The tag that the filter and `FindBestUpdate` propose together. -/
def proposed (currentTag : String) (tags : List String) : Option String :=
  match candidateTags p cfg currentTag tags with
  | none => none
  | some tags =>
    let best := findBestUpdate p.versions currentTag tags
    if best.1 = "" then none else some best.1

/-- The tags that the labels ask for: the include pattern stands in for the variant of the current tag, and the exclude
    pattern comes last. -/
structure Accepted (variant : String) (tags : List String) (c : p.versions.TagVersion) : Prop where
  listed : c.original ∈ tags
  included : ∀ re, cfg.tagInclude = some re → re c.original = true
  variant : cfg.tagInclude = none → equalFold (splitVariant c.original).2 variant = true
  excluded : ∀ re, cfg.tagExclude = some re → re c.original = false
  version : p.versions.newVersion (splitVariant c.original).1 = some c.version
  release : p.versions.prerelease c.version = ""
  dotted : contains (trimPrefix (splitVariant c.original).1 "v") "." = true

/-- The newest accepted tag is proposed if it is newer than the current one, and nothing otherwise. -/
def ProposesNewest (currentVer : p.versions.Version) (currentTag : String) (tags : List String) : Prop :=
  match proposed p cfg currentTag tags with
  | some best => ∃ c, c.original = best ∧ Accepted p cfg (splitVariant currentTag).2 tags c ∧
      p.versions.greaterThan c.version currentVer = true ∧
      ∀ d, Accepted p cfg (splitVariant currentTag).2 tags d → p.versions.greaterThan d.version c.version = false
  | none => ∀ d, Accepted p cfg (splitVariant currentTag).2 tags d →
      p.versions.greaterThan d.version currentVer = false

/-- Every newer tag the include pattern accepts is reached by an accepted one of the current variant. -/
def ReachedByVariant (currentVer : p.versions.Version) (currentTag : String) (tags : List String) : Prop :=
  ∀ d, Accepted p cfg (splitVariant currentTag).2 tags d → p.versions.greaterThan d.version currentVer = true →
    ∃ c, Accepted p cfg (splitVariant currentTag).2 tags c ∧
      equalFold (splitVariant c.original).2 (splitVariant currentTag).2 = true ∧
      p.versions.le d.version c.version = true

variable {p cfg}

theorem mem_tagFilter {f : TagFilter} {tags : List String} {t : String} : t ∈ f.filter tags ↔
    t ∈ tags ∧ (∀ re, f.tagInclude = some re → re t = true) ∧
      (f.tagInclude = none → f.variant = "" ∨ equalFold (splitVariant t).2 f.variant = true) ∧
      (∀ re, f.tagExclude = some re → re t = false) := by
  obtain ⟨tagInclude, tagExclude, variant⟩ := f
  unfold TagFilter.filter
  cases tagInclude <;> cases tagExclude <;> by_cases hv : variant = "" <;> simp [hv, and_comm]

/-- `FindBestUpdate` chooses among the accepted tags of the current variant only. -/
theorem eligible_filter {currentVer : p.versions.Version} {versionPart variant : String} {tags : List String}
    {c : p.versions.TagVersion} (h3 : ¬ semverPrecision versionPart < 3) :
    Eligible p.versions currentVer versionPart variant
        (TagFilter.filter ⟨cfg.tagInclude, cfg.tagExclude, variant⟩ tags) c ↔
      Accepted p cfg variant tags c ∧ equalFold (splitVariant c.original).2 variant = true := by
  constructor
  · intro h
    obtain ⟨htags, hinc, _, hexc⟩ := mem_tagFilter.mp h.listed
    exact ⟨⟨htags, hinc, fun _ => h.variant, hexc, h.version, h.release, h.dotted h3⟩, h.variant⟩
  · intro h
    obtain ⟨h, hvar⟩ := h
    refine ⟨mem_tagFilter.mpr ⟨h.listed, h.included, fun _ => Or.inr hvar, h.excluded⟩, hvar, h.version,
      h.release, ?_⟩
    rw [WrittenLike, if_neg h3]
    exact h.dotted

/-- The tags that the filter leaves. -/
abbrev tagsLeft (cfg : UpdateConfig) (currentTag : String) (tags : List String) : List String :=
  TagFilter.filter ⟨cfg.tagInclude, cfg.tagExclude, (splitVariant currentTag).2⟩ tags

theorem proposed_eq {currentVer : p.versions.Version} {currentTag : String} (tags : List String)
    (hcur : p.versions.newVersion (splitVariant currentTag).1 = some currentVer)
    (h3 : ¬ semverPrecision (splitVariant currentTag).1 < 3) : proposed p cfg currentTag tags =
      (newestFor p.versions currentVer currentTag (tagsLeft cfg currentTag tags)).map Semver.TagVersion.original := by
  have hcand : candidateTags p cfg currentTag tags =
      if (tagsLeft cfg currentTag tags).isEmpty then none else some (tagsLeft cfg currentTag tags) := by
    simp only [candidateTags, hcur]
  generalize tagsLeft cfg currentTag tags = left at hcand ⊢
  cases left with
  | nil =>
    have hn : newestFor p.versions currentVer currentTag [] = none :=
      newest_none.mpr fun d hd => absurd hd.listed List.not_mem_nil
    rw [hn, proposed, hcand]
    rfl
  | cons t ts =>
    simp only [proposed, hcand, List.isEmpty_cons, Bool.false_eq_true, if_false,
      findBestUpdate_of_some (t :: ts) hcur]
    cases hn : newestFor p.versions currentVer currentTag (t :: ts) with
    | none =>
      simp only [if_neg h3, if_true]
      rfl
    | some c =>
      have hdotted := (newest_some hn).1.dotted h3
      have hne : c.original ≠ "" := fun he => absurd (he ▸ hdotted) (by decide)
      rw [if_neg hne]
      rfl

/-- **Filter and selection together propose the newest accepted tag, where no include pattern is set or the tags of the
    current variant reach as far as the accepted ones**: the selection still keeps to the current variant. -/
theorem proposed_newest_iff (p : Packages) (cfg : UpdateConfig) (currentTag : String) (tags : List String)
    (currentVer : p.versions.Version) (hcur : p.versions.newVersion (splitVariant currentTag).1 = some currentVer)
    (h3 : semverPrecision (splitVariant currentTag).1 = 3) :
    ProposesNewest p cfg currentVer currentTag tags ↔
      cfg.tagInclude = none ∨ ReachedByVariant p cfg currentVer currentTag tags := by
  have hlt : ¬ semverPrecision (splitVariant currentTag).1 < 3 := by omega
  unfold ProposesNewest
  rw [proposed_eq tags hcur hlt]
  cases hn : newestFor p.versions currentVer currentTag (tagsLeft cfg currentTag tags) with
  | none =>
    simp only [Option.map_none]
    have hnone := newest_none.mp hn
    constructor
    · intro h
      refine Or.inr fun d hd hnew => ?_
      simp [h d hd] at hnew
    · rintro (hinc | hreach) d hd
      · exact hnone d ((eligible_filter hlt).mpr ⟨hd, hd.variant hinc⟩)
      · by_contra hnew
        rw [Bool.not_eq_false] at hnew
        obtain ⟨c, hc, hvar, hle⟩ := hreach d hd hnew
        have hcnew : p.versions.greaterThan c.version currentVer = true := Semver.lessThan_of_le hnew hle
        simp [hnone c ((eligible_filter hlt).mpr ⟨hc, hvar⟩)] at hcnew
  | some c =>
    simp only [Option.map_some]
    obtain ⟨hc, hnew, hmax⟩ := newest_some hn
    obtain ⟨hacc, hvar⟩ := (eligible_filter hlt).mp hc
    constructor
    · rintro ⟨c', heq, hc', hnew', hmax'⟩
      refine Or.inr fun d hd _ => ⟨c, hacc, hvar, ?_⟩
      -- the tag found is the one that is proposed
      have hver : c'.version = c.version := by
        have := hc'.version
        rw [heq, hacc.version] at this
        exact (Option.some.inj this).symm
      rw [← hver]
      refine Semver.le_of_not_lessThan fun hlt' => ?_
      have hgt := hmax' d hd
      simp [Semver.greaterThan, hlt'] at hgt
    · intro h
      refine ⟨c, rfl, hacc, hnew, fun d hd => ?_⟩
      have hle : p.versions.le d.version c.version = true := by
        rcases h with hinc | hreach
        · exact hmax d ((eligible_filter hlt).mpr ⟨hd, hd.variant hinc⟩)
        · by_cases hdnew : p.versions.greaterThan d.version currentVer = true
          · obtain ⟨e, he, hevar, hle⟩ := hreach d hd hdnew
            exact p.versions.le_trans _ _ _ hle (hmax e ((eligible_filter hlt).mpr ⟨he, hevar⟩))
          · exact p.versions.le_trans _ _ _ (Semver.le_of_not_lessThan hdnew) (Semver.le_of_lessThan hnew)
      rw [Semver.greaterThan, Semver.lessThan, hle]
      rfl

/-- An include pattern that accepts every tag. -/
def includeAll : UpdateConfig := ⟨true, "", "", some fun _ => true, none⟩

/-- The pattern accepts the newer alpine tag, and nothing is proposed. -/
theorem proposed_other_variant : proposed samplePackages includeAll "1.0.0" ["1.1.0-alpine"] = none ∧
    ¬ ProposesNewest samplePackages includeAll (0 : Nat) "1.0.0" ["1.1.0-alpine"] := by
  have hnone : proposed samplePackages includeAll "1.0.0" ["1.1.0-alpine"] = none := by decide
  refine ⟨hnone, fun h => ?_⟩
  unfold ProposesNewest at h
  rw [hnone] at h
  have hacc : Accepted samplePackages includeAll (splitVariant "1.0.0").2 ["1.1.0-alpine"]
    ⟨"1.1.0-alpine", (1 : Nat)⟩ :=
    ⟨by decide, fun re hre => Option.some.inj hre ▸ rfl, fun h => (by cases h), fun re hre => (by cases hre), rfl,
      rfl, by decide⟩
  have hnot := h _ hacc
  revert hnot
  decide

/-- The plain tag reaches as far as the alpine one, and is proposed. -/
theorem proposed_same_variant :
    proposed samplePackages includeAll "1.0.0" ["1.1.0-alpine", "1.1.0"] = some "1.1.0" ∧
      ProposesNewest samplePackages includeAll (0 : Nat) "1.0.0" ["1.1.0-alpine", "1.1.0"] := by
  refine ⟨by decide, (proposed_newest_iff samplePackages includeAll "1.0.0" ["1.1.0-alpine", "1.1.0"] (0 : Nat) rfl
    (by decide)).mpr (Or.inr fun d hd _ => ?_)⟩
  refine ⟨⟨"1.1.0", (1 : Nat)⟩, ⟨by decide, fun re hre => Option.some.inj hre ▸ rfl, fun h => (by cases h),
    fun re hre => (by cases hre), rfl, rfl, by decide⟩, by decide, ?_⟩
  have hver := hd.version
  rcases List.mem_pair.mp hd.listed with h | h
  all_goals
    rw [h] at hver
    have hone : d.version = (1 : Nat) := (Option.some.inj hver).symm
    rw [hone]
    rfl

end Filters

end Maintenant.Updates
