/-
  File:      Maintenant/License/Model.lean
  Subject:   THE LICENSE MANAGER (internal/license: manager.go, cache.go, window.go, verifier.go). It asks the license
             server once a day, keeps the last signed answer in a file, and falls back to that file when the server
             cannot be reached.

  The data directory is passed along with the manager; a file is what decoding it yields. Everything a call does happens
  at one instant, which is an argument. JSON, base64, Ed25519 and the formats of dates are the packages' (`Packages`).

  * `resolveEdition` -- the edition a payload grants; `enforceUpdateWindow` -- the edition of a build that is newer than
    the license covers;
  * `check` -- one look at the server; `loadCache` -- what a new manager makes of the file;
  * `Process.step` -- the checks of a process, at times that do not decrease.
-/
import Maintenant.Escalation.Edition

namespace Maintenant.License

open GoTime
open Escalation (Edition)

/-! ## 1. Payloads and editions -/

structure SignedResponse where
  payload : String
  signature : String
deriving DecidableEq, Repr

structure LicensePayload where
  status : String
  edition : String
  plan : String
  features : List String
  expiresAt : Time
  verifiedAt : Time
  message : String
  updatesUntil : String
deriving DecidableEq, Repr

inductive Layout where
  | rfc3339
  | dateOnly

/-- What the packages compute. -/
structure Packages where
  /-- `base64.StdEncoding.DecodeString`. -/
  decodeString : String → Except String (List UInt8)
  /-- `ed25519.Verify`: the key, the message, the signature. -/
  ed25519Verify : List UInt8 → String → List UInt8 → Bool
  /-- `json.Unmarshal`: what is left in the variable, and the error. -/
  unmarshalSigned : String → SignedResponse × Option String
  unmarshalPayload : String → LicensePayload × Option String
  /-- `time.Parse`. -/
  parseTime : Layout → String → Option Time
  /-- `t.Format(time.RFC3339)`. -/
  formatTime : Time → String
  /-- `t.UTC().Format("2 January 2006")`. -/
  formatDate : Time → String

/-- `Edition(s)` -/
def editionOf (s : String) : Edition :=
  if s = "community" then .community
  else if s = "personal" then .personal
  else if s = "pro" then .pro
  else .unknown s

def parseEdition (s : String) : Edition × Bool :=
  if (editionOf s).rank < 0 then (.community, false) else (editionOf s, true)

def resolveEdition (p : LicensePayload) : Edition :=
  if p.status ≠ "active" ∧ p.status ≠ "grace" then .community
  else if p.edition ≠ "" then (parseEdition p.edition).1
  else if p.plan = "personal" then .personal
  else .pro

def LicensePayload.updateWindowEnd (pk : Packages) (p : LicensePayload) : Option Time :=
  if p.updatesUntil = "" then none else pk.parseTime .rfc3339 p.updatesUntil

def verify (pk : Packages) (publicKey : List UInt8) (resp : SignedResponse) : Except String LicensePayload :=
  match pk.decodeString resp.signature with
  | .error text => .error ("invalid signature encoding: " ++ text)
  | .ok sig =>
    if !pk.ed25519Verify publicKey resp.payload sig then .error "invalid license signature"
    else
      match pk.unmarshalPayload resp.payload with
      | (_, some text) => .error ("invalid license payload: " ++ text)
      | (payload, none) => .ok payload

/-! ## 2. The answers of the server -/

structure ServerError where
  httpStatus : Nat
  status : String
  message : String
deriving DecidableEq, Repr

inductive FetchError where
  | server (e : ServerError)
  | other (text : String)
deriving DecidableEq, Repr

/-- What the request comes back with: no answer, or an answer whose body may break off. -/
inductive Reply where
  | failed (text : String)
  | answered (statusCode : Nat) (body : Except String String)

def statusOK : Nat := 200

def statusUnauthorized : Nat := 401

def statusForbidden : Nat := 403

/-- The payload an error answer carries, signed or bare. -/
def errorPayload (pk : Packages) (body : String) : LicensePayload :=
  match pk.unmarshalSigned body with
  | (signed, none) =>
    if signed.payload ≠ "" then (pk.unmarshalPayload signed.payload).1 else (pk.unmarshalPayload body).1
  | (_, some _) => (pk.unmarshalPayload body).1

def fetchLicense (pk : Packages) : Reply → Except FetchError SignedResponse × Nat
  | .failed text => (.error (.other ("license server request failed: " ++ text)), 0)
  | .answered code (.error text) => (.error (.other ("reading license response: " ++ text)), code)
  | .answered code (.ok body) =>
    if code ≠ statusOK then
      let p := errorPayload pk body
      if p.message ≠ "" then (.error (.server ⟨code, p.status, p.message⟩), code)
      else (.error (.other ("license server returned HTTP " ++ toString code)), code)
    else
      match pk.unmarshalSigned body with
      | (_, some text) => (.error (.other ("decoding license response: " ++ text)), code)
      | (signed, none) => (.ok signed, code)

/-! ## 3. The files -/

structure UpdateWindowRecord where
  windowEnd : Time
  openedAt : Time
  version : String
  buildDate : String
deriving DecidableEq, Repr

/-- The file of the cache: what decoding it yields. -/
inductive CacheFile where
  | missing
  | unreadable (text : String)
  | malformed (text : String)
  | signed (resp : SignedResponse)
deriving DecidableEq, Repr

/-- The data directory. The window file is `none` when it is missing, unreadable or malformed. -/
structure Disk where
  cache : CacheFile
  window : Option UpdateWindowRecord
deriving DecidableEq, Repr

def readCache (pk : Packages) (disk : Disk) (publicKey : List UInt8) : Except String (Option LicensePayload) :=
  match disk.cache with
  | .missing => .ok none
  | .unreadable text => .error ("reading license cache: " ++ text)
  | .malformed text => .error ("parsing license cache: " ++ text)
  | .signed resp =>
    match verify pk publicKey resp with
    | .error text => .error ("verifying cached license: " ++ text)
    | .ok payload => .ok (some payload)

def writeCache (disk : Disk) (resp : SignedResponse) : Disk := { disk with cache := .signed resp }

def deleteCache (disk : Disk) : Disk := { disk with cache := .missing }

def readWindowRecord (disk : Disk) : Option UpdateWindowRecord :=
  match disk.window with
  | none => none
  | some record => if record.windowEnd = zeroTime ∨ record.openedAt = zeroTime then none else some record

def writeWindowRecord (disk : Disk) (record : UpdateWindowRecord) : Disk := { disk with window := some record }

def hour : Int := 3600 * second

def day : Int := 24 * hour

def reconcileWindow (stored : Option UpdateWindowRecord) (windowEnd now : Time) (version buildDate : String) :
    UpdateWindowRecord × Bool :=
  match stored with
  | none => (⟨windowEnd, now, version, buildDate⟩, true)
  | some record =>
    if record.windowEnd < windowEnd then (⟨windowEnd, now, version, buildDate⟩, true)
    else if now < record.openedAt then (⟨windowEnd, now, version, buildDate⟩, true)
    else (record, false)

def updateWindowGracePeriod : Int := 30 * day

def updateGraceEnd (record : UpdateWindowRecord) : Time := record.openedAt + updateWindowGracePeriod

def formatDays (n : Int) : String := if n = 1 then "1 day" else toString n ++ " days"

def daysUntil (deadline now : Time) : Int :=
  let remaining := deadline - now
  if remaining ≤ 0 then 1
  else
    let days := (remaining + 24 * hour - 1) / (24 * hour)
    if days < 1 then 1 else days

def updateWindowGraceMessage (pk : Packages) (windowEnd graceEnd now : Time) : String :=
  "This version was released after your update window closed on " ++ pk.formatDate windowEnd ++
    ". Renew your Personal updates to keep it, or go back to the version you were using. " ++
    "This instance falls back to the Community edition in " ++ formatDays (daysUntil graceEnd now) ++ "."

def updateWindowEndedMessage (pk : Packages) (windowEnd : Time) : String :=
  "Your update window closed on " ++ pk.formatDate windowEnd ++
    " and this version is not covered. This instance has fallen back to the " ++
    "Community edition. Renew your Personal updates, or go back to the version you were using."

/-! ## 4. The manager -/

structure State where
  edition : Edition
  plan : String
  features : List String
  status : String
  verifiedAt : Time
  expiresAt : Time
  message : String
  updatesUntil : Time
  updateGraceUntil : Time
deriving DecidableEq, Repr

/-- `State{}` -/
def State.zero : State := ⟨.unknown "", "", [], "", zeroTime, zeroTime, "", zeroTime, zeroTime⟩

/-- What a manager is built with. -/
structure Config where
  version : String
  publicKey : List UInt8
  buildDate : Time
  buildDateKnown : Bool

def parseBuildDate (pk : Packages) (s : String) : Time × Bool :=
  match pk.parseTime .rfc3339 s with
  | some t => (t, true)
  | none =>
    match pk.parseTime .dateOnly s with
    | some t => (t, true)
    | none => (zeroTime, false)

def Config.of (pk : Packages) (version : String) (publicKey : List UInt8) (buildDate : String) : Config :=
  ⟨version, publicKey, (parseBuildDate pk buildDate).1, (parseBuildDate pk buildDate).2⟩

structure Manager where
  state : State
  lastEdition : Edition
  baselineSet : Bool
  /-- The transitions the callbacks were told of. -/
  dispatched : List (Edition × Edition)
deriving DecidableEq, Repr

/-- The edition the license grants. -/
def Manager.edition (m : Manager) : Edition :=
  if m.state.edition ≠ .unknown "" then m.state.edition else .community

def Manager.setStateAndNotify (m : Manager) (newState : State) : Manager :=
  let newState := if newState.edition = .unknown "" then { newState with edition := .community } else newState
  { state := newState
    lastEdition := newState.edition
    baselineSet := true
    dispatched :=
      if m.baselineSet ∧ m.lastEdition ≠ newState.edition then m.dispatched ++ [(m.lastEdition, newState.edition)]
      else m.dispatched }

/-- A manager and its data directory. -/
structure World where
  manager : Manager
  disk : Disk
deriving DecidableEq, Repr

def World.setState (w : World) (s : State) : World := { w with manager := w.manager.setStateAndNotify s }

def World.deleteCache (w : World) : World := { w with disk := License.deleteCache w.disk }

def statusUpdateWindowGrace : String := "update_window_grace"

def statusUpdateWindowEnded : String := "update_window_ended"

section

variable (pk : Packages) (cfg : Config)

def enforceUpdateWindow (disk : Disk) (state : State) (payload : LicensePayload) (now : Time) : State × Disk :=
  match payload.updateWindowEnd pk with
  | none => (state, disk)
  | some windowEnd =>
    let state := { state with updatesUntil := windowEnd }
    if state.edition = .unknown "" ∨ state.edition = .community then (state, disk)
    else if !cfg.buildDateKnown then (state, disk)
    else if ¬ windowEnd < cfg.buildDate then (state, disk)
    else
      let reconciled := reconcileWindow (readWindowRecord disk) windowEnd now cfg.version (pk.formatTime cfg.buildDate)
      let disk := if reconciled.2 then writeWindowRecord disk reconciled.1 else disk
      let graceEnd := updateGraceEnd reconciled.1
      let state := { state with updateGraceUntil := graceEnd }
      if now < graceEnd then
        ({ state with
            status := statusUpdateWindowGrace
            message := updateWindowGraceMessage pk windowEnd graceEnd now }, disk)
      else
        ({ state with
            status := statusUpdateWindowEnded
            edition := .community
            message := updateWindowEndedMessage pk windowEnd }, disk)

def applyPayload (w : World) (payload : LicensePayload) (now : Time) : World :=
  let state : State :=
    { State.zero with
      edition := resolveEdition payload
      plan := payload.plan
      features := payload.features
      status := payload.status
      verifiedAt := payload.verifiedAt
      expiresAt := payload.expiresAt }
  let enforced := enforceUpdateWindow pk cfg w.disk state payload now
  ⟨w.manager.setStateAndNotify enforced.1, enforced.2⟩

def replayUpdateWindow (disk : Disk) (state : State) (now : Time) : State × Disk :=
  match readCache pk disk cfg.publicKey with
  | .ok (some cached) => enforceUpdateWindow pk cfg disk state cached now
  | .ok none | .error _ => (state, disk)

def graceDegradationWarn : Int := 7 * day

def graceDegradationError : Int := 30 * day

def graceDegradationDisabled : Int := 60 * day

/-- The license is past the end it states. -/
def pastExpiry (expiresAt now : Time) : Prop := expiresAt ≠ zeroTime ∧ expiresAt < now
deriving Decidable

def expiredMessage : String := "Your license has expired. This instance has fallen back to the Community edition."

/-- The state of a manager that goes on with its cache, with the update window applied. -/
def degrade (w : World) (message : String) (now : Time) : World :=
  let replayed := replayUpdateWindow pk cfg w.disk { w.manager.state with message := message } now
  ⟨w.manager.setStateAndNotify replayed.1, replayed.2⟩

def handleNetworkError (w : World) (now : Time) : World :=
  let current := w.manager.state
  if current.verifiedAt = zeroTime then
    w.setState { State.zero with
      status := "unreachable"
      message := "Cannot reach license server. Please check your network connection." }
  else if pastExpiry current.expiresAt now then
    w.deleteCache.setState
      { State.zero with status := "expired", expiresAt := current.expiresAt, message := expiredMessage }
  else
    let age := now - current.verifiedAt
    if age > graceDegradationDisabled then
      w.deleteCache.setState { State.zero with
        status := "unreachable"
        verifiedAt := current.verifiedAt
        message :=
          "License server unreachable for over 60 days. This instance has fallen back to the Community edition." }
    else if age > graceDegradationError then
      let daysLeft := (graceDegradationDisabled - age) / day
      degrade pk cfg w
        ("License server unreachable. This instance falls back to the Community edition in " ++
          formatDays daysLeft ++ ".") now
    else if age > graceDegradationWarn then
      degrade pk cfg w "License server unreachable. Your edition remains active from cache." now
    else degrade pk cfg w current.message now

/-- An error the server stated itself, or one with `err.Error()` for its message. -/
def serverError (status : String) : FetchError → ServerError
  | .server e => e
  | .other text => ⟨0, status, text⟩

def check (w : World) (now : Time) (reply : Reply) : World :=
  match fetchLicense pk reply with
  | (.error err, statusCode) =>
    if statusCode = statusUnauthorized then
      w.deleteCache.setState { State.zero with status := "unknown", message := (serverError "" err).message }
    else if statusCode = statusForbidden then
      w.deleteCache.setState { State.zero with
        status := (serverError "expired" err).status
        message := (serverError "expired" err).message }
    else handleNetworkError pk cfg w now
  | (.ok resp, _) =>
    match verify pk cfg.publicKey resp with
    | .error _ => handleNetworkError pk cfg w now
    | .ok payload =>
      if payload.status = "active" then
        let w := applyPayload pk cfg w payload now
        { w with disk := writeCache w.disk resp }
      else if payload.status = "grace" then
        let w := applyPayload pk cfg w payload now
        let w := { w with disk := writeCache w.disk resp }
        w.setState { w.manager.state with
          message := "Your license is in a grace period. Please renew to avoid service interruption." }
      else if payload.status = "expired" then
        w.deleteCache.setState { State.zero with
          status := "expired", expiresAt := payload.expiresAt, message := expiredMessage }
      else if payload.status = "revoked" then
        w.deleteCache.setState { State.zero with status := "revoked", message := "Your license has been revoked." }
      else
        w.setState { State.zero with
          status := payload.status, message := "Unexpected license status: " ++ payload.status }

def loadCache (w : World) (now : Time) : World :=
  match readCache pk w.disk cfg.publicKey with
  | .error _ | .ok none => w
  | .ok (some cached) =>
    if pastExpiry cached.expiresAt now then
      w.deleteCache.setState
        { State.zero with status := "expired", expiresAt := cached.expiresAt, message := expiredMessage }
    else applyPayload pk cfg w cached now

/-- A manager before it looks at its cache. -/
def World.seed (disk : Disk) : World :=
  ⟨⟨{ State.zero with status := "unknown", edition := .community }, .unknown "", false, []⟩, disk⟩

def newManager (disk : Disk) (now : Time) : World := loadCache pk cfg (World.seed disk) now

/-! ## 5. The checks of a process -/

/-- A process, and the time of its last action. -/
structure Process where
  world : World
  now : Time

/-- A check at a time that is not before the last one. -/
def Process.step (p : Process) (a : Time × Reply) : Option Process :=
  if p.now ≤ a.1 then some ⟨check pk cfg p.world a.1 a.2, a.1⟩ else none

def Process.start (disk : Disk) (now : Time) : Process := ⟨newManager pk cfg disk now, now⟩

/-- The edition of a manager that is built at the same instant from the same data directory. -/
def Process.restarted (p : Process) : Edition := (newManager pk cfg p.world.disk p.now).manager.edition

end

end Maintenant.License
