/-
  File:      Maintenant/Update/Service.lean
  Subject:   ONE SCAN PASS (internal/update/service.go: `runScan`, internal/store/updates.go: the statements
             on image_updates).

  The containers are scanned, each update is upserted under the name, the image and the latest tag, and
  what the pass has not refreshed is cleaned up: by name for every container that was listed, whether its
  scan succeeded or not, and by container id for those that are gone.

  * `outcomes`, `mem_scan_results` -- the scan as one outcome for each container;
  * `persisted_other`, `persisted_last`, `persisted_mem` -- the findings after the inserts: under each key
    that of the last result that was written there, whichever container's that is;
  * `mem_cleaned`, `mem_resolved` -- what the cleanup leaves, and what it resolves.
-/
import Maintenant.Update.Scanner
import Mathlib.Data.List.Dedup

namespace Maintenant.Updates

open GoText GoTime

/-! ## 1. Data -/

inductive Status where
  | available
  | pinned
deriving DecidableEq, Repr

/-- A row of image_updates; the columns only the enrichment fills are left out. -/
structure ImageUpdate where
  scanID : String
  containerID : String
  containerName : String
  image : String
  currentTag : String
  currentDigest : String
  registry : String
  latestTag : String
  latestDigest : String
  updateType : UpdateType
  riskScore : Nat
  status : Status
  detectedAt : Int
deriving DecidableEq, Repr

/-- What `ON CONFLICT` is about. -/
def ImageUpdate.key (u : ImageUpdate) : String × String × String := (u.containerName, u.image, u.latestTag)

structure StaleImageUpdate where
  containerID : String
  containerName : String
  containerUID : String
deriving DecidableEq, Repr

/-- The data of `UpdateDetected`. -/
structure Detected where
  containerID : String
  containerUID : String
  containerName : String
  image : String
  currentTag : String
  latestTag : String
  updateType : UpdateType
  riskScore : Nat
  updateCommand : Option String
  rollbackCommand : Option String
deriving DecidableEq, Repr

/-- What the service hands to its event callback; the times are left out. -/
inductive Emitted where
  | scanStarted (scanID : String)
  | detected (d : Detected)
  | resolved (containerID containerUID containerName : String)
  | scanCompleted (scanID : String) (found errors : Nat)
deriving DecidableEq, Repr

structure Service where
  updates : Table ImageUpdate.key
  baselines : Baselines

/-- How a statement ends: done, done though the caller is told that its context has ended, or not done. -/
inductive Write where
  | done
  | unnoticed
  | failed
deriving DecidableEq, Repr

def Write.executed : Write → Bool
  | .failed => false
  | .done | .unnoticed => true

/-- What a pass meets. -/
structure Pass where
  now : Time
  /-- The id of the scan record; `none` when it cannot be stored. -/
  scanID : Option String
  /-- `ListContainerInfos`. -/
  containers : Option (List ContainerInfo)
  scan : ScanEnv
  /-- `InsertImageUpdate`, for each result. -/
  inserts : Nat → Write
  staleListed : Bool
  staleDeleted : Write
  orphansListed : Bool
  orphansDeleted : Write
  /-- A container with this external id is stored and not archived. -/
  live : String → Bool
  /-- The id of a stored container with this external id, or the empty text. -/
  uidOf : String → String
  /-- The order of a query that asks for none. -/
  order : ∀ l : List StaleImageUpdate, { l' : List StaleImageUpdate // l'.Perm l }

/-! ## 2. Commands -/

def composeDir (c : ContainerInfo) : String :=
  if c.composeWorkingDir = "" then "<compose-project-dir>" else c.composeWorkingDir

def isKubernetesWorkload (c : ContainerInfo) : Bool := c.runtimeType == "kubernetes" && c.controllerKind != ""

def isCompose (c : ContainerInfo) : Bool :=
  c.runtimeType != "kubernetes" && c.orchestrationGroup != "" && c.orchestrationUnit != ""

def composeCommand (c : ContainerInfo) : String :=
  "cd " ++ composeDir c ++ "\ndocker compose pull " ++ c.orchestrationUnit ++
    "\ndocker compose up -d --force-recreate " ++ c.orchestrationUnit

def generateUpdateCommand (c : ContainerInfo) (latestTag : String) : String :=
  let repo := (parseImageRef c.image).1
  if isKubernetesWorkload c then
    "kubectl set image " ++ toLower c.controllerKind ++ "/" ++ c.orchestrationUnit ++ " " ++ c.name ++ "=" ++ repo ++
      ":" ++ latestTag ++ " -n " ++ c.orchestrationGroup
  else if isCompose c then composeCommand c
  else
    "docker pull " ++ repo ++ ":" ++ latestTag ++ "\ndocker stop " ++ c.name ++ " && docker rm " ++ c.name ++
      "\ndocker run -d --name " ++ c.name ++ " " ++ repo ++ ":" ++ latestTag

def generateRollbackCommand (c : ContainerInfo) (previousDigest : String) : String :=
  let repo := (parseImageRef c.image).1
  if previousDigest = "" then ""
  else if isKubernetesWorkload c then
    "kubectl rollout undo " ++ toLower c.controllerKind ++ "/" ++ c.orchestrationUnit ++ " -n " ++ c.orchestrationGroup
  else if isCompose c then composeCommand c
  else
    "docker stop " ++ c.name ++ " && docker rm " ++ c.name ++ "\ndocker run -d --name " ++ c.name ++ " " ++ repo ++
      "@" ++ previousDigest

def baseRiskScore : UpdateType → Nat
  | .major => 85
  | .minor => 50
  | .patch => 15
  | .digestOnly => 5
  | .unknown => 0

/-! ## 3. The store -/

/-- What `ON CONFLICT(container_name, image, latest_tag) DO UPDATE` sets. -/
def ImageUpdate.refreshed (u row : ImageUpdate) : ImageUpdate :=
  { row with
    scanID := u.scanID
    containerID := u.containerID
    currentTag := u.currentTag
    currentDigest := u.currentDigest
    latestDigest := u.latestDigest
    updateType := u.updateType
    riskScore := u.riskScore
    detectedAt := u.detectedAt }

theorem ImageUpdate.refreshed_key (u row : ImageUpdate) : (u.refreshed row).key = row.key := rfl

def insertImageUpdate (t : Table ImageUpdate.key) (u : ImageUpdate) : Table ImageUpdate.key :=
  t.upsert u u.refreshed u.refreshed_key

/-- A finding of a listed container that this scan has not refreshed. -/
def isStale (scanID : String) (names : List String) (row : ImageUpdate) : Bool :=
  row.scanID != scanID && decide (row.containerName ∈ names)

def listStaleImageUpdates (x : Pass) (scanID : String) (names : List String) (t : Table ImageUpdate.key) :
    List StaleImageUpdate :=
  (x.order ((t.rows.filter (isStale scanID names)).map fun row =>
    ⟨row.containerID, row.containerName, ""⟩).dedup).val

/-- A finding whose container no runtime reports. -/
def isOrphan (x : Pass) (row : ImageUpdate) : Bool := !x.live row.containerID

def listOrphanImageUpdates (x : Pass) (t : Table ImageUpdate.key) : List StaleImageUpdate :=
  (x.order ((t.rows.filter (isOrphan x)).map fun row =>
    ⟨row.containerID, row.containerName, x.uidOf row.containerID⟩).dedup).val

/-! ## 4. The pass -/

section Pass

variable (p : Packages) (x : Pass) (scanID : String) (containers : List ContainerInfo)

/-- `containerByID`. -/
def containerByID : AList fun _ : String => ContainerInfo := GoMap.insertAll ContainerInfo.externalID ∅ containers

def containerUID (externalID : String) : String :=
  ((containerByID containers).lookup externalID).elim "" ContainerInfo.uid

/-- The row of a result. -/
def toImageUpdate (r : UpdateResult) : ImageUpdate where
  scanID := scanID
  containerID := r.containerID
  containerName := r.containerName
  image := r.image
  currentTag := r.currentTag
  currentDigest := r.currentDigest
  registry := r.registry
  latestTag := r.latestTag
  latestDigest := r.latestDigest
  updateType := r.updateType
  riskScore := baseRiskScore r.updateType
  status := .available
  detectedAt := unix x.now

/-- The event of a result. -/
def toDetected (r : UpdateResult) : Detected where
  containerID := r.containerID
  containerUID := containerUID containers r.containerID
  containerName := r.containerName
  image := r.image
  currentTag := r.currentTag
  latestTag := r.latestTag
  updateType := r.updateType
  riskScore := baseRiskScore r.updateType
  updateCommand := ((containerByID containers).lookup r.containerID).map fun c => generateUpdateCommand c r.latestTag
  rollbackCommand :=
    if r.currentDigest = "" then none
    else ((containerByID containers).lookup r.containerID).map fun c => generateRollbackCommand c r.currentDigest

/-- What the loop over the results has written and announced. -/
structure Persisted where
  updates : Table ImageUpdate.key
  detected : List Detected

/-- One result. -/
def Persisted.add (s : Persisted) (r : UpdateResult × Nat) : Persisted :=
  if !r.1.hasUpdate then s
  else
    let updates := insertImageUpdate s.updates (toImageUpdate x scanID r.1)
    match x.inserts r.2 with
    | .done => ⟨updates, s.detected ++ [toDetected containers r.1]⟩
    | .unnoticed => ⟨updates, s.detected⟩
    | .failed => s

def persisted (results : List UpdateResult) (t : Table ImageUpdate.key) : Persisted :=
  results.zipIdx.foldl (Persisted.add x scanID containers) ⟨t, []⟩

/-- What the cleanup leaves, and what it resolves. -/
def cleaned (t : Table ImageUpdate.key) : Table ImageUpdate.key × List StaleImageUpdate :=
  let names := containers.map ContainerInfo.name
  let stale := if x.staleListed then listStaleImageUpdates x scanID names t else []
  let t := if x.staleDeleted.executed then t.delete (isStale scanID names) else t
  -- a scan that saw nothing wipes nothing, and without the list nothing is deleted
  if containers.isEmpty || !x.orphansListed then (t, stale)
  else
    (if x.orphansDeleted.executed then t.delete (isOrphan x) else t, stale ++ listOrphanImageUpdates x t)

/-- `UpdateResolved`. -/
def toResolved (su : StaleImageUpdate) : Emitted :=
  .resolved su.containerID
    (if su.containerUID = "" then containerUID containers su.containerID else su.containerUID) su.containerName

/-- The findings once the results of a pass are written. -/
def inserted (s : Service) : Persisted :=
  persisted x scanID containers (scan p x.scan containers s.baselines).results s.updates

/-- A pass over a list of containers. -/
def scanPass (s : Service) : Service × List Emitted :=
  let found := scan p x.scan containers s.baselines
  let kept := inserted p x scanID containers s
  let finished := cleaned x scanID containers kept.updates
  (⟨finished.1, found.baselines⟩,
    .scanStarted scanID :: (kept.detected.map Emitted.detected ++ finished.2.map (toResolved containers) ++
      [.scanCompleted scanID kept.detected.length found.errors.length]))

end Pass

/-- `runScan`; the enrichment does nothing in the community edition. -/
def runScan (p : Packages) (s : Service) (x : Pass) : Service × List Emitted :=
  match x.scanID with
  | none => (s, [])
  | some scanID =>
    match x.containers with
    | none => (s, [.scanStarted scanID, .scanCompleted scanID 0 1])
    | some containers => scanPass p x scanID containers s

/-! ## 5. The scan, container by container -/

/-- How the scan of a container ends. -/
inductive Outcome where
  | unreached
  | failed (err : String)
  | upToDate
  | update (r : UpdateResult)
deriving DecidableEq, Repr

/-- How `scanContainer` ends. -/
def Outcome.ofScan : Except String (Option UpdateResult) → Outcome
  | .error err => .failed err
  | .ok none => .upToDate
  | .ok (some r) => .update r

def Outcome.result : Outcome → Option UpdateResult
  | .update r => some r
  | .unreached | .failed _ | .upToDate => none

/-- The containers from the `i`-th on, each with how its scan ends. -/
def outcomesFrom (p : Packages) (env : ScanEnv) : Nat → List ContainerInfo → Baselines →
    List (ContainerInfo × Outcome)
  | _, [], _ => []
  | i, c :: cs, b =>
    if env.alive i then
      let scanned := scanContainer p env.exclusions (env.lookups i) c b
      (c, .ofScan scanned.2) :: outcomesFrom p env (i + 1) cs scanned.1
    else (c :: cs).map fun c => (c, .unreached)

def outcomes (p : Packages) (env : ScanEnv) (containers : List ContainerInfo) (b : Baselines) :
    List (ContainerInfo × Outcome) :=
  outcomesFrom p env 0 containers b

variable {containers : List ContainerInfo}

section Outcomes

variable {p : Packages} {env : ScanEnv} {c : ContainerInfo} {r : UpdateResult}

theorem add_found (f : Found) (i : Nat) (c : ContainerInfo) :
    (f.add p env i c).baselines = (scanContainer p env.exclusions (env.lookups i) c f.baselines).1 ∧
      (f.add p env i c).results = f.results ++
        (Outcome.ofScan (scanContainer p env.exclusions (env.lookups i) c f.baselines).2).result.toList := by
  unfold Found.add
  generalize scanContainer p env.exclusions (env.lookups i) c f.baselines = scanned
  obtain ⟨b, ended⟩ := scanned
  cases ended with
  | error => exact ⟨rfl, (List.append_nil _).symm⟩
  | ok result =>
    cases result with
    | none => exact ⟨rfl, (List.append_nil _).symm⟩
    | some => exact ⟨rfl, rfl⟩

theorem scanFrom_results (i : Nat) (cs : List ContainerInfo) (f : Found) : (scanFrom p env i cs f).results =
      f.results ++ (outcomesFrom p env i cs f.baselines).filterMap fun o => o.2.result := by
  induction cs generalizing i f with
  | nil => exact (List.append_nil _).symm
  | cons c _ ih =>
    unfold scanFrom outcomesFrom
    by_cases halive : env.alive i = true
    · obtain ⟨hbaselines, hresults⟩ : (f.add p env i c).baselines = _ ∧ _ := add_found f i c
      rw [if_pos halive, if_pos halive, ih, hbaselines, hresults, List.append_assoc]
      rw [List.filterMap_cons]
      cases (Outcome.ofScan (scanContainer p env.exclusions (env.lookups i) c f.baselines).2).result <;> rfl
    · rw [if_neg halive, if_neg halive, List.filterMap_map]
      exact (List.append_nil _).symm.trans (congrArg _ (List.filterMap_none _).symm)

variable {b : Baselines}

/-- **The results of a scan** are the updates among the outcomes. -/
theorem mem_scan_results :
    r ∈ (scan p env containers b).results ↔ ∃ c, (c, .update r) ∈ outcomes p env containers b := by
  have hresult : ∀ o : Outcome, o.result = some r ↔ o = .update r := by
    intro o
    cases o <;> simp [Outcome.result]
  unfold scan outcomes
  rw [scanFrom_results, List.nil_append, List.mem_filterMap]
  constructor
  · rintro ⟨⟨c, o⟩, hmem, ho⟩
    exact ⟨c, (hresult o).mp ho ▸ hmem⟩
  · rintro ⟨c, hmem⟩
    exact ⟨_, hmem, rfl⟩

theorem outcomesFrom_fst (i : Nat) (cs : List ContainerInfo) (b : Baselines) :
    (outcomesFrom p env i cs b).map Prod.fst = cs := by
  induction cs generalizing i b with
  | nil => rfl
  | cons c _ ih =>
    unfold outcomesFrom
    split
    · exact congrArg (c :: ·) (ih _ _)
    · rw [List.map_map]
      exact List.map_id _

/-- Each container has one outcome. -/
theorem outcomes_fst (containers : List ContainerInfo) (b : Baselines) :
    (outcomes p env containers b).map Prod.fst = containers := outcomesFrom_fst 0 containers b

theorem mem_of_outcome {o : Outcome} (h : (c, o) ∈ outcomes p env containers b) : c ∈ containers := by
  have hfst : (outcomes p env containers b).map Prod.fst = containers := outcomes_fst containers b
  rw [← hfst]
  exact List.mem_map_of_mem h

/-- Containers that differ in `f` have different outcomes' places. -/
theorem outcome_unique {κ : Type} {f : ContainerInfo → κ}
    (hnodup : (containers.map f).Nodup) {c c' : ContainerInfo} {o o' : Outcome}
    (h : (c, o) ∈ outcomes p env containers b) (h' : (c', o') ∈ outcomes p env containers b) (hf : f c = f c') :
    c = c' ∧ o = o' := by
  have hfst : (outcomes p env containers b).map Prod.fst = containers := outcomes_fst containers b
  rw [← hfst, List.map_map] at hnodup
  exact Prod.mk.inj (List.inj_on_of_nodup_map hnodup h h' hf)

/-- The update of a container is about it. -/
structure UpdateResult.Of (r : UpdateResult) (c : ContainerInfo) : Prop where
  containerID : r.containerID = c.externalID
  containerName : r.containerName = c.name
  image : r.image = c.image
  hasUpdate : r.hasUpdate = true

theorem scanContainer_result {exclusions : List UpdateExclusion} {x : Lookups}
    (h : (scanContainer p exclusions x c b).2 = .ok (some r)) : r.Of c := by
  unfold scanContainer at h
  split at h
  · cases h
  · cases h
  · split at h
    · split at h
      · cases h
      · unfold compareDigest at h
        dsimp only at h
        split at h
        · cases h
        · split at h
          · cases h
          · cases h
            exact ⟨rfl, rfl, rfl, rfl⟩
    · cases h
      exact ⟨rfl, rfl, rfl, rfl⟩

theorem outcomesFrom_update (i : Nat) (cs : List ContainerInfo) (b : Baselines)
    (h : (c, .update r) ∈ outcomesFrom p env i cs b) : r.Of c := by
  induction cs generalizing i b with
  | nil => exact nomatch h
  | cons _ _ ih =>
    unfold outcomesFrom at h
    split at h
    · rcases List.mem_cons.mp h with heq | hrest
      · obtain ⟨rfl, hof⟩ := Prod.mk.inj heq
        refine scanContainer_result (?_ : (scanContainer p env.exclusions (env.lookups i) c b).2 = _)
        revert hof
        cases (scanContainer p env.exclusions (env.lookups i) c b).2 with
        | error => exact nofun
        | ok result =>
          cases result with
          | none => exact nofun
          | some =>
            intro hof
            cases hof
            rfl
      · exact ih _ _ hrest
    · obtain ⟨c'', -, heq⟩ := List.mem_map.mp h
      exact nomatch (Prod.mk.inj heq).2

theorem outcome_update
    (h : (c, .update r) ∈ outcomes p env containers b) : r.Of c := outcomesFrom_update 0 containers b h

theorem mem_results_of (h : r ∈ (scan p env containers b).results) :
    ∃ c ∈ containers, (c, .update r) ∈ outcomes p env containers b ∧ r.Of c := by
  obtain ⟨c, hc⟩ := mem_scan_results.mp h
  exact ⟨c, mem_of_outcome hc, hc, outcome_update hc⟩

end Outcomes

/-! ## 6. The findings -/

section Findings

variable {x : Pass} {scanID : String} {containers : List ContainerInfo}

theorem insertImageUpdate_get (t : Table ImageUpdate.key) (u : ImageUpdate) (k : String × String × String) :
    (insertImageUpdate t u).get k = if k = u.key then some ((t.get k).elim u u.refreshed) else t.get k :=
  Table.get_upsert k

/-- The finding is one of this scan, and of this container. -/
def ImageUpdate.Written (scanID externalID : String) (row : ImageUpdate) : Prop :=
  row.scanID = scanID ∧ row.containerID = externalID

/-- The result is written, under the key. -/
def Pass.writes (x : Pass) (k : String × String × String) (q : UpdateResult × Nat) : Bool :=
  q.1.hasUpdate && (x.inserts q.2).executed && decide ((q.1.containerName, q.1.image, q.1.latestTag) = k)

section

variable {k : String × String × String} {q : UpdateResult × Nat}

theorem key_of_writes (scanID : String) (h : x.writes k q = true) : k = (toImageUpdate x scanID q.1).key := by
  simp only [Pass.writes, Bool.and_eq_true, decide_eq_true_eq] at h
  exact h.2.symm

theorem add_written (s : Persisted) (h : x.writes k q = true) :
    ∃ row, (s.add x scanID containers q).updates.get k = some row ∧ row.Written scanID q.1.containerID := by
  simp only [Pass.writes, Bool.and_eq_true, decide_eq_true_eq] at h
  obtain ⟨⟨hupdate, hexecuted⟩, rfl⟩ := h
  have hadd : (s.add x scanID containers q).updates = insertImageUpdate s.updates (toImageUpdate x scanID q.1) := by
    unfold Persisted.add
    rw [hupdate]
    cases hinsert : x.inserts q.2 with
    | done | unnoticed => rfl
    | failed => simp [hinsert, Write.executed] at hexecuted
  rw [hadd, insertImageUpdate_get]
  refine ⟨_, if_pos rfl, ?_⟩
  cases s.updates.get (q.1.containerName, q.1.image, q.1.latestTag) <;> exact ⟨rfl, rfl⟩

theorem add_other (s : Persisted) (h : x.writes k q = false) :
    (s.add x scanID containers q).updates.get k = s.updates.get k := by
  unfold Persisted.add
  cases hupdate : q.1.hasUpdate with
  | false => rfl
  | true =>
    cases hinsert : x.inserts q.2 with
    | done | unnoticed =>
      refine (insertImageUpdate_get ..).trans (if_neg fun hk => ?_)
      simp [Pass.writes, hupdate, hinsert, Write.executed, hk, toImageUpdate, ImageUpdate.key] at h
    | failed => rfl

/-- Results that write nothing under a key leave the finding there. -/
theorem foldl_add_other {l : List (UpdateResult × Nat)} (h : ∀ q ∈ l, x.writes k q = false) (s : Persisted) :
    (l.foldl (Persisted.add x scanID containers) s).updates.get k = s.updates.get k := by
  refine List.foldlRecOn _ _ (motive := fun s' : Persisted => s'.updates.get k = s.updates.get k) rfl ?_
  intro s' hs' q hq
  rw [add_other s' (h q hq), hs']

variable {results : List UpdateResult} {t : Table ImageUpdate.key}

/-- **Findings that no result of the pass is written to** stay through the inserts. -/
theorem persisted_other (h : ∀ q ∈ results.zipIdx, x.writes k q = false) :
    (persisted x scanID containers results t).updates.get k = t.get k :=
  foldl_add_other h _

/-- **A finding is of the last result written to it**: containers that share the name, the image and the
    latest tag share it, and one that was created again takes it over. -/
theorem persisted_last (h : ∃ q ∈ results.zipIdx, x.writes k q = true) :
    ∃ q ∈ results.zipIdx, x.writes k q = true ∧ ∃ row,
      (persisted x scanID containers results t).updates.get k = some row ∧ row.Written scanID q.1.containerID := by
  obtain ⟨q, hq, hwrites⟩ := h
  obtain ⟨last, hlast⟩ : ∃ last, results.zipIdx.reverse.find? (x.writes k) = some last :=
    Option.isSome_iff_exists.mp (List.find?_isSome.mpr ⟨q, List.mem_reverse.mpr hq, hwrites⟩)
  obtain ⟨hlastwrites, later, earlier, hsplit, hlater⟩ := List.find?_eq_some_iff_append.mp hlast
  have hresults : results.zipIdx = earlier.reverse ++ last :: later.reverse := by
    rw [← List.reverse_reverse results.zipIdx, hsplit]
    simp
  let s := earlier.reverse.foldl (Persisted.add x scanID containers) ⟨t, []⟩
  obtain ⟨row, hget, hwritten⟩ : ∃ row, (s.add x scanID containers last).updates.get k = some row ∧ _ :=
    add_written s hlastwrites
  refine ⟨last, by simp [hresults], hlastwrites, row, ?_, hwritten⟩
  unfold persisted
  rw [hresults, List.foldl_append, List.foldl_cons, foldl_add_other, hget]
  intro q hq
  simpa using hlater q (List.mem_reverse.mp hq)

/-- The pass's own findings: each row of the table is an old one, or written for one of the results. -/
theorem persisted_mem {row : ImageUpdate} (h : row ∈ (persisted x scanID containers results t).updates) :
    row ∈ t ∨ ∃ q ∈ results.zipIdx, x.writes row.key q = true ∧ row.Written scanID q.1.containerID := by
  have hrow := Table.get_eq_some.mpr ⟨h, rfl⟩
  by_cases hany : ∃ q ∈ results.zipIdx, x.writes row.key q = true
  · obtain ⟨q, hq, hwrites, row', hget, hwritten⟩ : ∃ q ∈ results.zipIdx, _ ∧ ∃ row',
        (persisted x scanID containers results t).updates.get row.key = some row' ∧ _ := persisted_last hany
    exact Or.inr ⟨q, hq, hwrites, Option.some.inj (hget.symm.trans hrow) ▸ hwritten⟩
  · push Not at hany
    rw [persisted_other fun q hq => Bool.eq_false_iff.mpr (hany q hq)] at hrow
    exact Or.inl (Table.get_eq_some.mp hrow).1

end

variable {results : List UpdateResult} {t : Table ImageUpdate.key}

section

variable (hinserts : ∀ n, x.inserts n = .done)

include hinserts

/-- A pass whose statements succeed writes and announces each result. -/
theorem add_done (s : Persisted) {r : UpdateResult × Nat} (hr : r.1.hasUpdate = true) : s.add x scanID containers r =
      ⟨insertImageUpdate s.updates (toImageUpdate x scanID r.1), s.detected ++ [toDetected containers r.1]⟩ := by
  unfold Persisted.add
  rw [hr, hinserts]
  rfl

theorem persisted_detected (hupdates : ∀ r ∈ results, r.hasUpdate = true) (t : Table ImageUpdate.key) :
    (persisted x scanID containers results t).detected = results.map (toDetected containers) := by
  have hloop : ∀ (l : List (UpdateResult × Nat)), (∀ q ∈ l, q.1.hasUpdate = true) → ∀ s : Persisted,
      (l.foldl (Persisted.add x scanID containers) s).detected =
        s.detected ++ l.map fun q => toDetected containers q.1 := by
    intro l
    induction l with
    | nil => exact fun _ s => (List.append_nil _).symm
    | cons q _ ih =>
      intro hl s
      rw [List.foldl_cons, ih (fun q' hq' => hl q' (List.mem_cons_of_mem q hq')),
        add_done hinserts s (hl q List.mem_cons_self), List.append_assoc]
      rfl
  refine (hloop results.zipIdx (fun q hq => hupdates q.1 (List.fst_mem_of_mem_zipIdx hq)) ⟨t, []⟩).trans ?_
  conv_rhs => rw [← List.zipIdx_map_fst 0 results, List.map_map]
  rfl

end

theorem not_stale_iff {names : List String} {row : ImageUpdate} : isStale scanID names row = false ↔
    (row.containerName ∈ names → row.scanID = scanID) := by
  unfold isStale
  rw [Bool.and_eq_false_imp, bne_iff_ne]
  simp only [decide_eq_false_iff_not]
  constructor
  · intro h hname
    by_contra hne
    exact h hne hname
  · intro h hne hname
    exact hne (h hname)

/-- **What the cleanup leaves.** -/
theorem mem_cleaned {row : ImageUpdate} : row ∈ (cleaned x scanID containers t).1 ↔ row ∈ t ∧
      (x.staleDeleted.executed = true → isStale scanID (containers.map ContainerInfo.name) row = false) ∧
        (containers ≠ [] → x.orphansListed = true → x.orphansDeleted.executed = true →
          x.live row.containerID = true) := by
  unfold cleaned
  dsimp only
  split
  · next hskip =>
    rw [Table.mem_ite_delete, and_congr_right_iff]
    intro _
    refine (and_iff_left fun hne hlisted => ?_).symm
    simp [hlisted, hne] at hskip
  · next hrun =>
    simp only [Bool.or_eq_true, List.isEmpty_iff, Bool.not_eq_true', not_or, Bool.not_eq_false] at hrun
    rw [Table.mem_ite_delete, Table.mem_ite_delete, and_assoc]
    simp [hrun.1, hrun.2, isOrphan]

/-- The rows of a query that lists findings, in any order. -/
theorem mem_listed {p : ImageUpdate → Bool} {f : ImageUpdate → StaleImageUpdate} {su : StaleImageUpdate} :
    su ∈ (x.order ((t.rows.filter p).map f).dedup).val ↔ ∃ row ∈ t, p row = true ∧ su = f row := by
  rw [(x.order _).property.mem_iff, List.mem_dedup, List.mem_map]
  simp only [List.mem_filter, Table.mem_rows, and_assoc, eq_comm]

/-- **What the cleanup resolves**: stale findings, and those without a container that are left. -/
theorem mem_resolved {su : StaleImageUpdate} : su ∈ (cleaned x scanID containers t).2 ↔
      (x.staleListed = true ∧ ∃ row ∈ t, isStale scanID (containers.map ContainerInfo.name) row = true ∧
        su = ⟨row.containerID, row.containerName, ""⟩) ∨
          (containers ≠ [] ∧ x.orphansListed = true ∧ ∃ row ∈ t,
        (x.staleDeleted.executed = true → isStale scanID (containers.map ContainerInfo.name) row = false) ∧
        x.live row.containerID = false ∧ su = ⟨row.containerID, row.containerName, x.uidOf row.containerID⟩) := by
  unfold cleaned
  dsimp only
  split
  · next hskip =>
    rw [List.mem_ite_nil_right, listStaleImageUpdates, mem_listed]
    refine (or_iff_left ?_).symm
    rintro ⟨hne, hlisted, -⟩
    simp [hlisted, hne] at hskip
  · next hrun =>
    simp only [Bool.or_eq_true, List.isEmpty_iff, Bool.not_eq_true', not_or, Bool.not_eq_false] at hrun
    rw [List.mem_append, List.mem_ite_nil_right, listStaleImageUpdates, mem_listed, listOrphanImageUpdates, mem_listed]
    refine or_congr Iff.rfl ?_
    simp only [ne_eq, hrun.1, hrun.2, not_false_eq_true, true_and, Table.mem_ite_delete, isOrphan, Bool.not_eq_true',
      and_assoc]

/-- The pass announces that a container's update is no longer pending. -/
def Resolves (externalID : String) (emitted : List Emitted) : Prop :=
  ∃ uid name, .resolved externalID uid name ∈ emitted

theorem scanPass_resolves {p : Packages} {s : Service} {externalID : String} :
    Resolves externalID (scanPass p x scanID containers s).2 ↔
      ∃ su ∈ (cleaned x scanID containers (inserted p x scanID containers s).updates).2,
        su.containerID = externalID := by
  unfold Resolves scanPass
  simp only [List.mem_cons, List.mem_append, List.mem_map, reduceCtorEq, and_false, exists_false, false_or,
    List.not_mem_nil, or_false]
  constructor
  · rintro ⟨uid, name, su, hsu, heq⟩
    cases heq
    exact ⟨su, hsu, rfl⟩
  · rintro ⟨su, hsu, rfl⟩
    exact ⟨_, _, su, hsu, rfl⟩

end Findings

/-- The pass gets its id and its containers. -/
structure Pass.Lists (x : Pass) (scanID : String) (containers : List ContainerInfo) : Prop where
  scanID : x.scanID = some scanID
  containers : x.containers = some containers

theorem runScan_listed {p : Packages} {s : Service} {x : Pass} {scanID : String}
    (h : x.Lists scanID containers) : runScan p s x = scanPass p x scanID containers s := by
  unfold runScan
  rw [h.scanID, h.containers]

/-! ## 7. A small setting for concrete passes -/

def emptyService : Service := ⟨.empty, fun _ => none⟩

/-- A pass in which every statement succeeds. -/
def samplePass (scanID : String) (containers : List ContainerInfo) (lookups : Lookups) : Pass where
  now := 0
  scanID := some scanID
  containers := some containers
  scan := ⟨[], fun _ => true, fun _ => lookups⟩
  inserts _ := .done
  staleListed := true
  staleDeleted := .done
  orphansListed := true
  orphansDeleted := .done
  live _ := true
  uidOf _ := "uid-web"
  order l := ⟨l, .refl l⟩

end Maintenant.Updates
