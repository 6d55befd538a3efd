/-
  File:      Maintenant/Update/Scanner.lean
  Subject:   THE REGISTRY SCAN (internal/update/scanner.go, labels.go, internal/store/updates.go: the
             digest baselines).

  A container is looked up in its registry and either fails, has nothing to report or has an update. A
  floating tag is compared by digest with a baseline, which every such comparison overwrites.

  * `scanContainer` -- one container; `candidate` is its way up to the best tag;
  * `scan` -- the loop over the containers, which ends where the context does.
-/
import Maintenant.Update.Tags
import Maintenant.Container.Model

namespace Maintenant.Updates

open GoText GoTime

/-! ## 1. Data -/

structure ContainerInfo where
  uid : String
  externalID : String
  name : String
  image : String
  labels : List (String × String)
  orchestrationGroup : String
  orchestrationUnit : String
  runtimeType : String
  controllerKind : String
  composeWorkingDir : String
deriving DecidableEq, Repr

/-- `UpdateConfig`, as far as the scan reads it. -/
structure UpdateConfig where
  enabled : Bool
  pin : String
  registry : String
  tagInclude : Option (String → Bool)
  tagExclude : Option (String → Bool)

inductive ExclusionType where
  | image
  | tag
deriving DecidableEq, Repr

structure UpdateExclusion where
  pattern : String
  patternType : ExclusionType
deriving DecidableEq, Repr

structure UpdateResult where
  containerID : String
  containerName : String
  image : String
  currentTag : String
  currentDigest : String
  previousDigest : String
  registry : String
  latestTag : String
  latestDigest : String
  updateType : UpdateType
  hasUpdate : Bool
deriving DecidableEq, Repr

structure ScanError where
  containerID : String
  containerName : String
  image : String
  error : String
deriving DecidableEq, Repr

structure DigestBaseline where
  image : String
  tag : String
  remoteDigest : String
  checkedAt : Int
deriving DecidableEq, Repr

/-- digest_baselines, by container_id. -/
abbrev Baselines := String → Option DigestBaseline

/-- The packages of the scan: versions, `regexp.Compile` and `filepath.Match`. -/
structure Packages where
  versions : Versions
  compile : String → Option (String → Bool)
  fileMatch : String → String → Bool

/-- What the scan of one container is answered. -/
structure Lookups where
  now : Time
  /-- `GetVersionPin` finds a pin. -/
  pinned : Bool
  listTags : String → Except String (List String)
  getDigest : String → Option String
  /-- `GetDigestBaseline` and `UpsertDigestBaseline` succeed. -/
  baselineRead : Bool
  baselineStored : Bool

/-! ## 2. Image references and labels -/

def dockerRegistry : String := "registry-1.docker.io"

/-- The repository, the tag and the registry of an image. -/
def parseImageRef (image : String) : String × String × String :=
  let image :=
    match index image "@sha256:" with
    | some (i + 1) => (cutAt image (i + 1)).1
    | _ => image
  let image := trimPrefix image "docker.io/"
  let (image, tag) :=
    match lastIndex image ':' with
    | some (i + 1) =>
      let possibleTag := (cutAt image (i + 2)).2
      -- a slash behind the colon: it stands before a port
      if contains possibleTag "/" then (image, "latest") else ((cutAt image (i + 1)).1, possibleTag)
    | _ => (image, "latest")
  let host := String.ofList (image.toList.takeWhile fun c => c != '/')
  let registry :=
    if contains image "/" && (contains host "." || contains host ":") then host else dockerRegistry
  (image, tag, registry)

/-- One label of `ParseUpdateLabels`; the suffixes the scan does not read are left out. -/
def UpdateConfig.read (p : Packages) (cfg : UpdateConfig) (label : String × String) : UpdateConfig :=
  if !hasPrefix label.1 "maintenant.update." then cfg
  else
    let value := trimSpace label.2
    match trimPrefix label.1 "maintenant.update." with
    | "enabled" =>
      if toLower value ∈ ["false", "0", "no"] then { cfg with enabled := false }
      else if toLower value ∈ ["true", "1", "yes"] then { cfg with enabled := true }
      else cfg
    | "pin" => { cfg with pin := value }
    | "registry" => { cfg with registry := value }
    | "tag-include" =>
      match (if value = "" then none else p.compile value) with
      | none => cfg
      | some re => { cfg with tagInclude := some re }
    | "tag-exclude" =>
      match (if value = "" then none else p.compile value) with
      | none => cfg
      | some re => { cfg with tagExclude := some re }
    | _ => cfg

def parseUpdateLabels (p : Packages) (labels : List (String × String)) : UpdateConfig :=
  labels.foldl (UpdateConfig.read p) ⟨true, "", "", none, none⟩

def isExcluded (p : Packages) (image tag : String) (exclusions : List UpdateExclusion) : Bool :=
  exclusions.any fun e =>
    match e.patternType with
    | .image => p.fileMatch e.pattern image
    | .tag => p.fileMatch e.pattern tag

/-! ## 3. One container -/

/-- An update as far as the tags tell. -/
structure Candidate where
  fullRef : String
  currentTag : String
  registry : String
  bestTag : String
  updateType : UpdateType
deriving DecidableEq, Repr

/-- The registry has no such image for us: a private or a local one. -/
def isUnreachable (err : String) : Bool :=
  contains err "UNAUTHORIZED" || contains err "NAME_UNKNOWN" || contains err "denied"

/-- The tags an update is looked for in, if any are left; a channel tag is not filtered. -/
def candidateTags (p : Packages) (cfg : UpdateConfig) (currentTag : String) (tags : List String) :
    Option (List String) :=
  let (versionPart, variant) := splitVariant currentTag
  match p.versions.newVersion versionPart with
  | none => some tags
  | some _ =>
    let tags := TagFilter.filter ⟨cfg.tagInclude, cfg.tagExclude, variant⟩ tags
    if tags.isEmpty then none else some tags

/-- `scanContainer` up to the best tag: an error, nothing to report, or a candidate. -/
def candidate (p : Packages) (exclusions : List UpdateExclusion) (x : Lookups) (c : ContainerInfo) :
    Except String (Option Candidate) :=
  let (imageRef, currentTag, registry) := parseImageRef c.image
  let cfg := parseUpdateLabels p c.labels
  if imageRef = "" then .error ("cannot parse image reference: " ++ c.image)
  -- no registry, no slash: likely built here
  else if !contains imageRef "/" && currentTag == "latest" && registry == dockerRegistry then .ok none
  else if !cfg.enabled then .ok none
  else if cfg.pin ≠ "" then .ok none
  else if x.pinned then .ok none
  else if isExcluded p c.image currentTag exclusions then .ok none
  else
    let registry := if cfg.registry ≠ "" then cfg.registry else registry
    let fullRef := if registry ≠ "" ∧ contains imageRef "/" = false then "library/" ++ imageRef else imageRef
    match x.listTags fullRef with
    | .error err => if isUnreachable err then .ok none else .error ("list tags: " ++ err)
    | .ok tags =>
      match candidateTags p cfg currentTag tags with
      | none => .ok none
      | some tags =>
        let best := findBestUpdate p.versions currentTag tags
        if best.1 = "" then .ok none else .ok (some ⟨fullRef, currentTag, registry, best.1, best.2⟩)

/-- The tag is compared with itself, by digest. -/
def Candidate.isDigestOnly (k : Candidate) : Bool := k.bestTag == k.currentTag && decide (k.updateType = .digestOnly)

/-- A newer version tag exists. -/
def semverResult (x : Lookups) (c : ContainerInfo) (k : Candidate) : UpdateResult where
  containerID := c.externalID
  containerName := c.name
  image := c.image
  currentTag := k.currentTag
  currentDigest := ""
  previousDigest := ""
  registry := k.registry
  latestTag := k.bestTag
  latestDigest := (x.getDigest (k.fullRef ++ ":" ++ k.bestTag)).getD ""
  updateType := k.updateType
  hasUpdate := true

/-- The tag was republished with a new build. -/
def digestResult (c : ContainerInfo) (k : Candidate) (baseline remoteDigest : String) : UpdateResult where
  containerID := c.externalID
  containerName := c.name
  image := c.image
  currentTag := k.currentTag
  currentDigest := baseline
  previousDigest := baseline
  registry := k.registry
  latestTag := k.currentTag
  latestDigest := remoteDigest
  updateType := .digestOnly
  hasUpdate := true

/-- The digest of a floating tag, when the registry gives one. -/
def remoteDigest (x : Lookups) (k : Candidate) : Option String :=
  (x.getDigest (k.fullRef ++ ":" ++ k.currentTag)).filter fun d => d != ""

/-- The comparison with the baseline, which is overwritten in any case. -/
def compareDigest (x : Lookups) (c : ContainerInfo) (k : Candidate) (digest : String) (b : Baselines) :
    Baselines × Option UpdateResult :=
  let baseline := if x.baselineRead then b c.externalID else none
  let stored : DigestBaseline := ⟨c.image, k.currentTag, digest, unix x.now⟩
  let b := if x.baselineStored then Function.update b c.externalID (some stored) else b
  match baseline with
  | none => (b, none)
  | some old => if old.remoteDigest = digest then (b, none) else (b, some (digestResult c k old.remoteDigest digest))

def scanContainer (p : Packages) (exclusions : List UpdateExclusion) (x : Lookups) (c : ContainerInfo)
    (b : Baselines) : Baselines × Except String (Option UpdateResult) :=
  match candidate p exclusions x c with
  | .error err => (b, .error err)
  | .ok none => (b, .ok none)
  | .ok (some k) =>
    if k.isDigestOnly then
      match remoteDigest x k with
      | none => (b, .ok none)
      | some digest =>
        let compared := compareDigest x c k digest b
        (compared.1, .ok compared.2)
    else (b, .ok (some (semverResult x c k)))

/-! ## 4. All containers -/

/-- What a scan meets: the exclusions it loads (none if that fails), for each container whether the
    context is still alive when its turn comes, and what its lookups are answered. -/
structure ScanEnv where
  exclusions : List UpdateExclusion
  alive : Nat → Bool
  lookups : Nat → Lookups

/-- What a scan has found. -/
structure Found where
  baselines : Baselines
  results : List UpdateResult
  errors : List ScanError

/-- One container of the loop. -/
def Found.add (p : Packages) (env : ScanEnv) (f : Found) (i : Nat) (c : ContainerInfo) : Found :=
  let scanned := scanContainer p env.exclusions (env.lookups i) c f.baselines
  match scanned.2 with
  | .error err => ⟨scanned.1, f.results, f.errors ++ [⟨c.externalID, c.name, c.image, err⟩]⟩
  | .ok none => ⟨scanned.1, f.results, f.errors⟩
  | .ok (some r) => ⟨scanned.1, f.results ++ [r], f.errors⟩

/-- The loop from the `i`-th container on; it ends where the context does. -/
def scanFrom (p : Packages) (env : ScanEnv) : Nat → List ContainerInfo → Found → Found
  | _, [], f => f
  | i, c :: cs, f => if env.alive i then scanFrom p env (i + 1) cs (f.add p env i c) else f

/-- `Scanner.Scan`. -/
def scan (p : Packages) (env : ScanEnv) (containers : List ContainerInfo) (b : Baselines) : Found :=
  scanFrom p env 0 containers ⟨b, [], []⟩

/-! ## 5. A small setting for concrete scans -/

/-- Three releases, each a minor one; every other tag is a channel. -/
def sampleVersions : Versions := { Semver.ofList ["1.0.0", "1.1.0", "1.2.0"] with arrange := fun l => ⟨l, .refl l⟩ }

def samplePackages : Packages := ⟨sampleVersions, fun _ => none, fun _ _ => false⟩

/-- A registry with these tags, each at this digest. -/
def sampleLookups (tags : List String) (digest : String) : Lookups :=
  ⟨0, false, fun _ => .ok tags, fun _ => some digest, true, true⟩

def sampleContainer (image : String) : ContainerInfo :=
  ⟨"uid-web", "c1", "web", image, [], "", "", "docker", "", ""⟩

end Maintenant.Updates
