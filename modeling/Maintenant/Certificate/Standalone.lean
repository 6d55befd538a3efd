/-
  File:      Maintenant/Certificate/Standalone.lean
  Subject:   CERTIFICATE MONITORS DEFINED BY HAND (internal/certificate/service.go: `CreateStandalone`;
             internal/store/certificates.go: `CountStandaloneMonitors`, `GetMonitorByHostPort`,
             `CreateMonitor`).

  The creation asks its store one statement at a time. The first check after it is one request: its
  statements write other columns and other tables. The columns endpoint_id, external_id and created_at are
  left out.

  * `createStandalone` -- validate, count, look for the same host, insert, tell, check;
  * `size_create`, `size_other` -- only the insert makes more standalone monitors, and one at most.
-/
import Maintenant.Certificate.Service
import Maintenant.Lib.GoText
import Maintenant.Lib.Quota

namespace Maintenant.Certificates.Standalone

open GoTime

/-! ## 1. Statements -/

structure CreateCertificateInput where
  hostname : String
  port : Int
  serverName : String
  checkIntervalSeconds : Int
  warningThresholds : List Int
deriving DecidableEq, Repr

inductive CreateError where
  | invalidInput (text : String)
  | autoDetectedMonitor
  | duplicateMonitor
  | limitReached
  | store
deriving DecidableEq, Repr

structure World where
  service : Service
  /-- The monitors that were reported as created. -/
  created : List MonitorRef

inductive Request where
  | countStandaloneMonitors
  | getMonitorByHostPort (hostname : String) (port : Int) (serverName : String)
  | createMonitor (m : CertMonitor)
  | tellCreated (m : MonitorRef)
  | checkCertificate (hostname : String) (port : Int) (serverName : String)
  | processCheckResult (m : CertMonitor) (raw : CheckCertificateResult)

@[reducible] def Answer : Request → Type
  | .countStandaloneMonitors => Except Unit Nat
  | .getMonitorByHostPort .. => Except Unit (Option CertMonitor)
  | .createMonitor _ => Except CreateError String
  | .tellCreated _ => Unit
  | .checkCertificate .. => CheckCertificateResult
  | .processCheckResult .. => Unit

/-- What the environment does at one request; `taken` is a violated unique constraint. -/
structure Choice where
  executed : Bool
  reported : Bool
  taken : Bool
  raw : CheckCertificateResult
  env : Meets

def Choice.ok (x : Choice) : Bool := x.executed && x.reported

def CertMonitor.isStandalone (m : CertMonitor) : Bool := decide (m.source = .standalone)

/-- What `ON CONFLICT(id) DO UPDATE` sets. -/
def renewed (m row : CertMonitor) : CertMonitor :=
  { row with
    source := m.source
    checkIntervalSeconds := m.checkIntervalSeconds
    warningThresholds := m.warningThresholds }

section Handler

-- what is computed outside, and `uid.CertMonitor` of the local agent: host, port, server name
variable (texts : Texts) (certMonitorID : String → Int → String → String)

def monitorID (m : CertMonitor) : String := certMonitorID m.hostname m.port m.serverName

def answer (x : Choice) (w : World) : (i : Request) → Answer i
  | .countStandaloneMonitors => if x.ok then .ok (w.service.monitors.count CertMonitor.isStandalone) else .error ()
  | .getMonitorByHostPort hostname port serverName =>
    if x.ok then
      .ok (w.service.monitors.rows.find? fun m =>
        m.hostname == hostname && m.port == port && m.serverName == serverName)
    else .error ()
  | .createMonitor m =>
    if x.taken then .error .duplicateMonitor
    else if x.ok then .ok (monitorID certMonitorID m) else .error .store
  | .tellCreated _ => ()
  | .checkCertificate .. => x.raw
  | .processCheckResult .. => ()

/-- The world after a request that is executed. -/
def World.after (w : World) (x : Choice) : Request → World
  | .countStandaloneMonitors | .getMonitorByHostPort .. | .checkCertificate .. => w
  | .createMonitor m =>
    if x.taken then w
    else
      { w with
        service := { w.service with
          monitors := w.service.monitors.upsert { m with id := monitorID certMonitorID m } (renewed m) fun _ => rfl } }
  | .tellCreated m => { w with created := w.created ++ [m] }
  | .processCheckResult m raw => { w with service := w.service.processCheckResult texts m x.env raw }

/-- What is no statement of its own is called whatever becomes of the statements. -/
def Request.isCall : Request → Bool
  | .tellCreated _ | .processCheckResult .. => true
  | _ => false

def handle (x : Choice) (w : World) (i : Request) : Answer i × World :=
  (answer certMonitorID x w i, if x.executed || i.isCall then w.after texts certMonitorID x i else w)

/-- The standalone monitors. -/
def size (w : World) : Nat := w.service.monitors.count CertMonitor.isStandalone

theorem size_create (x : Choice) (w : World) (m : CertMonitor) :
    size (handle texts certMonitorID x w (.createMonitor m)).2 ≤ size w + 1 := by
  unfold handle World.after
  dsimp only
  split
  · split
    · exact Nat.le_succ _
    · exact Table.count_upsert_le _
  · exact Nat.le_succ _

/-- A check keeps every monitor's source. -/
theorem size_processCheckResult (w : World) (m : CertMonitor) (env : Meets) (raw : CheckCertificateResult) :
    (w.service.processCheckResult texts m env raw).monitors.count CertMonitor.isStandalone ≤ size w := by
  unfold Service.processCheckResult
  split
  · exact Table.count_update_le _ _ _ (CertMonitor.setBy_id _) fun row _ h => h
  · exact Nat.le_refl _

theorem size_other (x : Choice) (w : World) {i : Request} (hi : ∀ m, i ≠ .createMonitor m) :
    size (handle texts certMonitorID x w i).2 ≤ size w := by
  unfold handle
  split
  · cases i with
    | createMonitor m => exact absurd rfl (hi m)
    | processCheckResult m raw => exact size_processCheckResult texts w m x.env raw
    | countStandaloneMonitors | getMonitorByHostPort | tellCreated | checkCertificate => exact Nat.le_refl _
  · exact Nat.le_refl _

end Handler

/-! ## 2. The creation -/

abbrev Job := Prog Request Answer

abbrev ask (i : Request) : Job (Answer i) := Prog.ask i

/-- `DefaultLicenseChecker`; a negative maximum means unlimited. -/
def canCreateCertificate (maxCertificates : Int) (count : Nat) : Bool :=
  decide (maxCertificates < 0) || decide ((count : Int) < maxCertificates)

/-- The checks of the input and its defaults. -/
def validated (input : CreateCertificateInput) : Except String CreateCertificateInput :=
  let port := if input.port ≤ 0 then 443 else input.port
  let interval := if input.checkIntervalSeconds ≤ 0 then 43200 else input.checkIntervalSeconds
  let thresholds := if input.warningThresholds = [] then defaultWarningThresholds else input.warningThresholds
  let serverName := GoText.trimSpace input.serverName
  if input.hostname = "" then .error "hostname is required"
  else if 65535 < port then .error "port must be 1-65535"
  else if interval < 3600 then .error "minimum check interval is 3600 seconds (1 hour)"
  else if 604800 < interval then .error "maximum check interval is 604800 seconds (7 days)"
  else if serverName.toList.any fun c => c == ':' || c == '/' || c == ' ' then
    .error "server_name must be a bare hostname (no port, scheme or path)"
  else .ok ⟨input.hostname, port, serverName, interval, thresholds⟩

def newMonitor (input : CreateCertificateInput) : CertMonitor where
  id := ""
  hostname := input.hostname
  port := input.port
  serverName := input.serverName
  source := .standalone
  status := .unknown
  checkIntervalSeconds := input.checkIntervalSeconds
  warningThresholds := input.warningThresholds
  lastAlertedThreshold := none
  lastCheckAt := none
  nextCheckAt := none
  lastError := ""

/-- The monitor is stored, reported and checked at once. -/
def storeAndCheck (monitor : CertMonitor) : Job (Except CreateError CertMonitor) := do
  match ← ask (.createMonitor monitor) with
  | .error e => return .error e
  | .ok id =>
    let stored := { monitor with id := id }
    ask (.tellCreated stored.ref)
    let raw ← ask (.checkCertificate stored.hostname stored.port stored.serverName)
    ask (.processCheckResult stored raw)
    return .ok stored

def createStandalone (canCreate : Nat → Bool) (input : CreateCertificateInput) :
    Job (Except CreateError CertMonitor) :=
  match validated input with
  | .error text => .done (.error (.invalidInput text))
  | .ok input => do
      match ← ask .countStandaloneMonitors with
      | .error _ => return .error .store
      | .ok count =>
        match ← ask (.getMonitorByHostPort input.hostname input.port input.serverName) with
        | .error _ => return .error .store
        | .ok (some existing) =>
          if existing.source = .auto then return .error .autoDetectedMonitor
          else return .error .duplicateMonitor
        | .ok none =>
          if canCreate count = false then return .error .limitReached
          else storeAndCheck (newMonitor input)

end Maintenant.Certificates.Standalone
