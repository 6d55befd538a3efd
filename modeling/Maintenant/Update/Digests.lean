/-
  File:      Maintenant/Update/Digests.lean
  Subject:   DIGEST-ONLY UPDATES OVER SUCCESSIVE SCANS.

  The baseline is the digest of the scan before, under the container's id alone: whatever image it was
  of. A republished tag is reported by the one scan that sees the change.

  * `reportsDigest_iff` -- a scan reports exactly when its digest is not the baseline's;
  * `digest_findings_last` -- the histories in which that is the same as "not the digest of the first scan".
-/
import Maintenant.Update.Scanner
import Maintenant.Lib.Passes

namespace Maintenant.Updates

open GoTime

/-! ## 1. One scan of a container -/

/-- The scan of one container. -/
structure ContainerScan where
  exclusions : List UpdateExclusion
  lookups : Lookups
  container : ContainerInfo

namespace ContainerScan

variable (p : Packages) (i : ContainerScan)

def perform (b : Baselines) : Baselines × Except String (Option UpdateResult) :=
  scanContainer p i.exclusions i.lookups i.container b

/-- The digest the scan compares: that of a floating tag which the registry publishes. -/
def comparedDigest : Option String :=
  match candidate p i.exclusions i.lookups i.container with
  | .ok (some k) => if k.isDigestOnly then remoteDigest i.lookups k else none
  | _ => none

/-- The scan reports a digest-only update. -/
def reportsDigest (b : Baselines) : Bool :=
  match (i.perform p b).2 with
  | .ok (some r) => decide (r.updateType = .digestOnly)
  | _ => false

/-- The digest the scan compares, if it is one of this container. -/
def digestOf (externalID : String) : Option String :=
  if i.container.externalID = externalID then i.comparedDigest p else none

/-- The baseline is read and written. -/
def Stores : Prop := i.lookups.baselineRead = true ∧ i.lookups.baselineStored = true

end ContainerScan

/-- The digest of the baseline. -/
def Baselines.digest (b : Baselines) (externalID : String) : Option String :=
  (b externalID).map DigestBaseline.remoteDigest

section Step

variable {p : Packages} {i : ContainerScan} {b : Baselines} {externalID digest : String}

/-- A scan that compares a digest. -/
theorem perform_compared (h : i.comparedDigest p = some digest) :
    ∃ k, i.perform p b = ((compareDigest i.lookups i.container k digest b).1,
      .ok (compareDigest i.lookups i.container k digest b).2) := by
  unfold ContainerScan.comparedDigest at h
  split at h
  · next k hk =>
    split at h
    · next honly =>
      refine ⟨k, ?_⟩
      unfold ContainerScan.perform scanContainer
      rw [hk]
      dsimp only
      rw [if_pos honly, h]
    · cases h
  · cases h

/-- A scan that compares none leaves the baselines. -/
theorem perform_uncompared (h : i.comparedDigest p = none) : (i.perform p b).1 = b := by
  unfold ContainerScan.comparedDigest at h
  unfold ContainerScan.perform scanContainer
  split
  · rfl
  · rfl
  · next k hk =>
    rw [hk] at h
    dsimp only at h
    split
    · next honly =>
      rw [if_pos honly] at h
      rw [h]
    · rfl

/-- **A scan reports exactly when its digest is not the baseline's.** -/
theorem reportsDigest_iff (hstores : i.Stores) (h : i.comparedDigest p = some digest) :
    i.reportsDigest p b = true ↔ ∃ old, b.digest i.container.externalID = some old ∧ old ≠ digest := by
  obtain ⟨k, hperform⟩ := perform_compared h
  unfold ContainerScan.reportsDigest Baselines.digest
  rw [hperform]
  unfold compareDigest
  rw [if_pos hstores.1]
  cases b i.container.externalID with
  | none => simp
  | some old =>
    by_cases hold : old.remoteDigest = digest
    · simp [hold]
    · simp [hold, digestResult]

/-- **The baseline after a scan** is the digest it compared. -/
theorem perform_digest (hstores : i.container.externalID = externalID → i.Stores) :
    (i.perform p b).1.digest externalID = (i.digestOf p externalID).elim (b.digest externalID) some := by
  unfold ContainerScan.digestOf
  cases hcompared : i.comparedDigest p with
  | none =>
    rw [perform_uncompared hcompared, ite_self]
    rfl
  | some digest =>
    obtain ⟨k, hperform⟩ := perform_compared hcompared
    have hbaselines : (compareDigest i.lookups i.container k digest b).1 =
        if i.lookups.baselineStored then Function.update b i.container.externalID
          (some ⟨i.container.image, k.currentTag, digest, unix i.lookups.now⟩) else b := by
      unfold compareDigest
      generalize (if i.lookups.baselineRead = true then b i.container.externalID else none) = baseline
      cases baseline with
      | none => rfl
      | some =>
        dsimp only
        split <;> rfl
    rw [hperform]
    rw [hbaselines]
    unfold Baselines.digest
    by_cases hid : i.container.externalID = externalID
    · rw [if_pos (hstores hid).2, if_pos hid, hid, Function.update_self]
      rfl
    · rw [if_neg hid]
      split
      · rw [Function.update_of_ne (Ne.symm hid)]
        rfl
      · rfl

end Step

/-! ## 2. Successive scans -/

/-- The digests the scans of a container compare, in order. -/
def digests (p : Packages) (externalID : String) (is : List ContainerScan) : List String :=
  is.filterMap fun i => i.digestOf p externalID

/-- The baselines after scans. -/
def scanned (p : Packages) (b : Baselines) (is : List ContainerScan) : Baselines :=
  is.foldl (fun b i => (i.perform p b).1) b

section Runs

variable {p : Packages} {b : Baselines} {externalID : String} {is : List ContainerScan}

/-- The scans as a pass over the digests alone, each compared with the one before. -/
theorem reports_along (hstores : ∀ i ∈ is, i.container.externalID = externalID → i.Stores)
    (R : Bool → String → Prop) :
    (∀ (n : Nat) (i : ContainerScan) (digest : String), is[n]? = some i →
        i.container.externalID = externalID → i.comparedDigest p = some digest →
          R (i.reportsDigest p (scanned p b (is.take n))) digest) ↔ Passes.Along (fun _ digest => some digest)
        (fun before digest => R (decide (∃ old, before = some old ∧ old ≠ digest)) digest)
        (b.digest externalID) (digests p externalID is) := by
  unfold digests
  rw [← Passes.along_filterMap (f := fun b i => (ContainerScan.perform p i b).1)
    (fun b => b.digest externalID) (fun i => i.digestOf p externalID)
    (fun b i hi => perform_digest (hstores i hi)), Passes.along_iff]
  have hdigest : ∀ i : ContainerScan, ∀ digest, i.digestOf p externalID = some digest ↔
      i.container.externalID = externalID ∧ i.comparedDigest p = some digest := by
    intro i digest
    unfold ContainerScan.digestOf
    by_cases hid : i.container.externalID = externalID <;> simp [hid]
  have hreports : ∀ n, ∀ i ∈ is, ∀ digest, i.container.externalID = externalID →
      i.comparedDigest p = some digest → i.reportsDigest p (scanned p b (is.take n)) =
        decide (∃ old, (scanned p b (is.take n)).digest externalID = some old ∧ old ≠ digest) := by
    intro n i hi digest hid hcompared
    rw [Bool.eq_iff_iff, reportsDigest_iff (hstores i hi hid) hcompared, decide_eq_true_eq, hid]
  constructor
  · intro h n i hi digest hdig
    obtain ⟨hid, hcompared⟩ := (hdigest i digest).mp hdig
    have hR := h n i digest hi hid hcompared
    rw [hreports n i (List.mem_of_getElem? hi) digest hid hcompared] at hR
    exact hR
  · intro h n i digest hi hid hcompared
    rw [hreports n i (List.mem_of_getElem? hi) digest hid hcompared]
    exact h n i hi digest ((hdigest i digest).mpr ⟨hid, hcompared⟩)

/-- **Digest-only findings over successive scans** of a container, among scans of any others, from any
    baselines (those of another image of the container included). Each scan reports exactly when its digest
    is not that of the first one, if and only if there is no baseline before or it has the first digest, and
    of any two digests in a row the second one is new exactly when it is not the first one of all. -/
theorem digest_findings_last (hstores : ∀ i ∈ is, i.container.externalID = externalID → i.Stores) :
    (∀ (n : Nat) (i : ContainerScan) (digest : String), is[n]? = some i →
        i.container.externalID = externalID → i.comparedDigest p = some digest →
        (i.reportsDigest p (scanned p b (is.take n)) = true ↔
          some digest ≠ (digests p externalID is).head?)) ↔
      (∀ old first, b.digest externalID = some old → (digests p externalID is)[0]? = some first → old = first) ∧
        ∀ n before digest, (digests p externalID is)[n]? = some before →
          (digests p externalID is)[n + 1]? = some digest →
            (before ≠ digest ↔ some digest ≠ (digests p externalID is).head?) := by
  rw [reports_along hstores fun reported digest =>
    (reported = true ↔ some digest ≠ (digests p externalID is).head?)]
  generalize digests p externalID is = ds
  rw [Passes.along_iff]
  simp only [decide_eq_true_eq]
  constructor
  · intro h
    constructor
    · intro old first hold hfirst
      have hzero := h 0 first hfirst
      rw [List.head?_eq_getElem?, hfirst, List.take_zero, List.foldl_nil, hold] at hzero
      by_contra hne
      exact (hzero.mp ⟨old, rfl, hne⟩) rfl
    · intro n before digest hbefore hdigest
      have hnext := h (n + 1) digest hdigest
      rw [List.take_add_one, hbefore, List.foldl_append] at hnext
      simpa using hnext
  · rintro ⟨hfirst, hrest⟩ n digest hdigest
    cases n with
    | zero =>
      rw [List.head?_eq_getElem?, hdigest, List.take_zero, List.foldl_nil]
      refine iff_of_false ?_ (fun h => h rfl)
      rintro ⟨old, hold, hne⟩
      exact hne (hfirst old digest hold hdigest)
    | succ n =>
      have hlt : n < ds.length := Nat.lt_of_succ_lt (List.getElem?_eq_some_iff.mp hdigest).1
      have hbefore : ds[n]? = some ds[n] := List.getElem?_eq_getElem hlt
      rw [List.take_add_one, hbefore, List.foldl_append]
      simpa using hrest n ds[n] digest hbefore hdigest

end Runs

/-! ## 3. Three histories -/

/-- The digest of one digit. -/
def sha256 (digit : Char) : String := String.ofList ("sha256:".toList ++ List.replicate 64 digit)

/-- A scan that finds this digest under the image's tag. -/
def digestScan (image tag : String) (digit : Char) : ContainerScan :=
  ⟨[], sampleLookups [tag] (sha256 digit), sampleContainer image⟩

/-- A tag is republished once, and scanned again. -/
def republished : List ContainerScan :=
  [digestScan "redis:stable" "stable" '1', digestScan "redis:stable" "stable" '2',
    digestScan "redis:stable" "stable" '2']

/-- The container is moved to another tag. -/
def retagged : List ContainerScan :=
  [digestScan "redis:stable" "stable" '1', digestScan "redis:alpine" "alpine" '2']

/-- **A finding that lasts one scan, and one that is none**: the third scan sees another digest than the
    first one and reports nothing; the first scan of a new tag reports the digest of the old one as changed. -/
theorem republished_tag_forgotten :
    (digestScan "redis:stable" "stable" '2').comparedDigest samplePackages = some (sha256 '2') ∧
      (digests samplePackages "c1" republished).head? = some (sha256 '1') ∧
      (digestScan "redis:stable" "stable" '2').reportsDigest samplePackages
        (scanned samplePackages (fun _ => none) (republished.take 2)) = false ∧
      (digestScan "redis:alpine" "alpine" '2').reportsDigest samplePackages
        (scanned samplePackages (fun _ => none) (retagged.take 1)) = true := by
  decide

/-- A tag is republished, and republished again. -/
def movedOn : List ContainerScan :=
  [digestScan "redis:stable" "stable" '1', digestScan "redis:stable" "stable" '2',
    digestScan "redis:stable" "stable" '3']

theorem moved_tag_reported :
    (digestScan "redis:stable" "stable" '3').reportsDigest samplePackages
        (scanned samplePackages (fun _ => none) (movedOn.take 2)) = true := by
  have hstores : ∀ i ∈ movedOn, i.container.externalID = "c1" → i.Stores := by
    simp only [movedOn, List.forall_mem_cons]
    exact ⟨fun _ => ⟨rfl, rfl⟩, fun _ => ⟨rfl, rfl⟩, fun _ => ⟨rfl, rfl⟩, List.forall_mem_nil _⟩
  have hdigests : digests samplePackages "c1" movedOn = [sha256 '1', sha256 '2', sha256 '3'] := by decide
  have hlast := (digest_findings_last (p := samplePackages) (b := fun _ => none) hstores).mpr
  rw [hdigests] at hlast
  refine (hlast ⟨(fun old first hold => nomatch hold), ?_⟩ 2 _ (sha256 '3') rfl rfl (by decide)).mpr (by decide)
  intro n before digest hbefore hdigest
  rcases n with _ | _ | n
  · cases hbefore
    cases hdigest
    decide
  · cases hbefore
    cases hdigest
    decide
  · cases hdigest

end Maintenant.Updates
