/-
  File:      Maintenant/Certificate/Service.lean
  Subject:   CERTIFICATE CHECKS (internal/certificate/service.go: `processCheckResult`,
             `computeStatus`, `evaluateAlerts`, model.go; internal/store/certificates.go:
             `UpdateMonitor`, `InsertCheckResult`, `InsertChainEntries`).

  Four alert types are raised whenever a check shows them; one, expiring, is raised by threshold and
  remembered in last_alerted_threshold, and only for it a recovery is sent.

  `int(time.Until(t).Hours() / 24)` is computed in floating point, so it is a parameter
  (`daysUntil`). Log lines are left out.

  * `CertMonitor.evaluateAlerts` -- the monitor after a result, and what is emitted;
  * `Service.check` -- a monitor is read, its result is processed.
-/
import Maintenant.Container.Model
import Maintenant.Alert.Model

namespace Maintenant.Certificates

open GoTime

/-! ## 1. Data -/

inductive CertStatus where
  | valid
  | expiring
  | expired
  | error
  | unknown
  deriving DecidableEq, Repr

inductive CertSource where
  | auto
  | standalone
  | label
  deriving DecidableEq, Repr

/-- A row of cert_monitors. -/
structure CertMonitor where
  id : String
  hostname : String
  port : Int
  serverName : String
  source : CertSource
  status : CertStatus
  checkIntervalSeconds : Int
  warningThresholds : List Int
  lastAlertedThreshold : Option Int
  lastCheckAt : Option Time
  nextCheckAt : Option Time
  lastError : String
  deriving DecidableEq, Repr

def defaultWarningThresholds : List Int := [30, 14, 7, 3, 1]

/-- What a certificate says of itself. -/
structure Leaf where
  subjectCN : String
  issuerCN : String
  issuerOrg : String
  sans : List String
  serialNumber : String
  signatureAlgorithm : String
  notBefore : Time
  deriving DecidableEq, Repr

/-- What was stapled to the handshake. -/
structure Stapled where
  ocspStapled : Bool
  ocspStatus : String
  ocspProducedAt : Option Time
  ocspNextUpdate : Option Time
  ocspError : String
  deriving DecidableEq, Repr

def Stapled.none : Stapled := ⟨false, "", .none, .none, ""⟩

structure ChainCert where
  subjectCN : String
  issuerCN : String
  notBefore : Time
  notAfter : Time
  deriving DecidableEq, Repr

/-- The raw result of a scan; `error` is empty when there was a handshake. -/
structure CheckCertificateResult where
  leaf : Leaf
  notAfter : Time
  chainValid : Bool
  chainError : String
  hostnameMatch : Bool
  chain : List ChainCert
  error : String
  stapled : Stapled
  deriving DecidableEq, Repr

/-- What a handshake shows. -/
structure Shown where
  leaf : Leaf
  notAfter : Time
  chainValid : Bool
  chainError : String
  hostnameMatch : Bool
  deriving DecidableEq, Repr

/-- A row of cert_check_results. After a failed handshake the pointers of `shown` are nil. -/
structure CertCheckResult where
  monitorID : String
  checkedAt : Time
  errorMessage : String
  shown : Option Shown
  stapled : Stapled
  deriving DecidableEq, Repr

/-- A row of cert_chain_entries. -/
structure CertChainEntry where
  checkResultID : String
  position : Nat
  cert : ChainCert
  deriving DecidableEq, Repr

inductive AlertType where
  | expiring
  | expired
  | chainInvalid
  | hostnameMismatch
  | ocspRevoked
  deriving DecidableEq, Repr

def AlertType.text : AlertType → String
  | .expiring => "expiring"
  | .expired => "expired"
  | .chainInvalid => "chain_invalid"
  | .hostnameMismatch => "hostname_mismatch"
  | .ocspRevoked => "ocsp_revoked"

/-- The data of an alert besides the monitor's. -/
inductive AlertData where
  | chainInvalid (chainError : String)
  | hostnameMismatch
  | ocspRevoked (producedAt : Option Time)
  | expired (notAfter : Time) (daysRemaining : Int)
  | expiring (severity : String) (thresholdDays daysRemaining : Int) (notAfter : Time) (issuerOrg : String)
      (autoRenewable : Bool)
  deriving DecidableEq, Repr

def AlertData.type : AlertData → AlertType
  | .chainInvalid _ => .chainInvalid
  | .hostnameMismatch => .hostnameMismatch
  | .ocspRevoked _ => .ocspRevoked
  | .expired .. => .expired
  | .expiring .. => .expiring

def AlertData.severity : AlertData → String
  | .expiring severity _ _ _ _ _ => severity
  | _ => "critical"

/-- What a payload names of the monitor; the server name only when it is not empty. -/
structure MonitorRef where
  id : String
  hostname : String
  port : Int
  serverName : String
  deriving DecidableEq, Repr

def CertMonitor.ref (m : CertMonitor) : MonitorRef := ⟨m.id, m.hostname, m.port, m.serverName⟩

/-- What the service hands to its callback. -/
inductive Emitted where
  | alert (m : MonitorRef) (data : AlertData) (checkedAt : Time)
  | recovery (m : MonitorRef) (newNotAfter : Time) (daysRemaining : Int) (checkedAt : Time)
  | checkCompleted (m : MonitorRef) (status : CertStatus) (result : CertCheckResult) (daysRemaining : Int)
  | statusChanged (m : MonitorRef) (previousStatus newStatus : CertStatus) (daysRemaining : Int) (now : Time)
  deriving DecidableEq, Repr

/-! ## 2. Severity -/

def autoRenewableIssuers : List String := ["let's encrypt", "zerossl", "buypass", "google trust services"]

/-- `IsAutoRenewable`; `strings.Contains(strings.ToLower(s), issuer)` is a parameter. -/
def isAutoRenewable (containsLower : String → String → Bool) (issuerOrg : String) : Bool :=
  autoRenewableIssuers.any (containsLower issuerOrg)

def expiringSeverity (daysRemaining : Int) (autoRenewable : Bool) : String :=
  if autoRenewable then
    if daysRemaining ≤ 3 then Alerting.severityCritical
    else if daysRemaining ≤ 7 then Alerting.severityWarning
    else Alerting.severityInfo
  else if daysRemaining ≤ 7 then Alerting.severityCritical
  else if daysRemaining ≤ 14 then Alerting.severityWarning
  else Alerting.severityInfo

/-! ## 3. One result -/

/-- What the environment gives a check: each reading of the clock, the edition, and the statements. -/
structure Meets where
  now : Time
  statusBefore : Time
  statusUntil : Time
  alertUntil : Time
  alertBefore : Time
  completedUntil : Time
  changedUntil : Time
  /-- `extension.Allows(extension.CapOCSPStapling)` -/
  ocspStapling : Bool
  resultID : String
  resultStored : Bool
  resultReported : Bool
  chainStored : Bool
  monitorStored : Bool
  deriving DecidableEq, Repr

/-- What is computed outside. -/
structure Texts where
  /-- `int(time.Until(notAfter).Hours() / 24)` at an instant. -/
  daysUntil : (notAfter now : Time) → Int
  containsLower : String → String → Bool

/-- Thresholds in descending order, and the last one that is crossed. -/
def crossedThreshold (thresholds : List Int) (daysRemaining : Int) : Option Int :=
  (thresholds.insertionSort (· ≥ ·)).foldl
    (fun crossed threshold => if daysRemaining ≤ threshold then some threshold else crossed) none

section Results

variable (x : Texts)

def computeStatus (env : Meets) (raw : CheckCertificateResult) (thresholds : List Int) : CertStatus :=
  if raw.notAfter < env.statusBefore then .expired
  else if (thresholds.insertionSort (· ≥ ·)).any
      fun threshold => decide (x.daysUntil raw.notAfter env.statusUntil ≤ threshold) then .expiring
  else .valid

/-- `DaysRemaining`: -1 when NotAfter is nil. -/
def CertCheckResult.daysRemaining (result : CertCheckResult) (now : Time) : Int :=
  match result.shown with
  | none => -1
  | some shown => x.daysUntil shown.notAfter now

/-- The result of a scan. -/
def CheckCertificateResult.toResult (raw : CheckCertificateResult) (monitorID : String) (env : Meets) :
    CertCheckResult where
  monitorID := monitorID
  checkedAt := env.now
  errorMessage := raw.error
  shown :=
    if raw.error ≠ "" then none
    else some ⟨raw.leaf, raw.notAfter, raw.chainValid, raw.chainError, raw.hostnameMatch⟩
  stapled := if raw.error = "" ∧ env.ocspStapling then raw.stapled else .none

/-- What a result says by itself, whatever was said before. -/
def immediateAlerts (result : CertCheckResult) : List AlertData :=
  (match result.shown with
    | none => []
    | some shown =>
      (if shown.chainValid then [] else [.chainInvalid shown.chainError]) ++
        if shown.hostnameMatch then [] else [.hostnameMismatch]) ++
    if result.stapled.ocspStatus = "revoked" then [.ocspRevoked result.stapled.ocspProducedAt] else []

namespace CertMonitor

variable (m : CertMonitor) (env : Meets)

/-- The data of an expiring certificate. -/
def expiringData (shown : Shown) (threshold daysRemaining : Int) : AlertData :=
  let autoRenewable := isAutoRenewable x.containsLower shown.leaf.issuerOrg
  .expiring (expiringSeverity daysRemaining autoRenewable) threshold daysRemaining shown.notAfter
    shown.leaf.issuerOrg autoRenewable

/-- `evaluateAlerts`, where the certificate has not expired. -/
def evaluateThresholds (result : CertCheckResult) (shown : Shown) (daysRemaining : Int) :
    CertMonitor × List Emitted :=
  match crossedThreshold m.warningThresholds daysRemaining, m.lastAlertedThreshold with
  | none, none => (m, [])
  | none, some _ =>
    ({ m with lastAlertedThreshold := none },
      [.recovery m.ref shown.notAfter daysRemaining result.checkedAt])
  | some crossed, last =>
    if last.all fun threshold => decide (crossed < threshold) then
      ({ m with lastAlertedThreshold := some crossed },
        [.alert m.ref (expiringData x shown crossed daysRemaining) result.checkedAt])
    else (m, [])

def evaluateAlerts (result : CertCheckResult) : CertMonitor × List Emitted :=
  if result.errorMessage ≠ "" then (m, [])
  else
    let immediate := (immediateAlerts result).map fun data => .alert m.ref data result.checkedAt
    match result.shown with
    | none => (m, immediate)
    | some shown =>
      let daysRemaining := result.daysRemaining x env.alertUntil
      if shown.notAfter < env.alertBefore then
        (m, immediate ++ [.alert m.ref (.expired shown.notAfter daysRemaining) result.checkedAt])
      else
        let next := m.evaluateThresholds x result shown daysRemaining
        (next.1, immediate ++ next.2)

/-- The monitor in memory when a result is in. -/
def scanned (raw : CheckCertificateResult) : CertMonitor :=
  { m with
    status := if raw.error ≠ "" then .error else computeStatus x env raw m.warningThresholds
    lastError := raw.error
    lastCheckAt := some env.now
    nextCheckAt :=
      if m.source = .standalone ∨ m.source = .label then some (env.now + seconds m.checkIntervalSeconds)
      else m.nextCheckAt }

/-- What `UpdateMonitor` sets in a row; times are kept in whole seconds. -/
def setBy (row : CertMonitor) : CertMonitor :=
  { row with
    status := m.status
    checkIntervalSeconds := m.checkIntervalSeconds
    warningThresholds := m.warningThresholds
    lastAlertedThreshold := m.lastAlertedThreshold
    lastCheckAt := m.lastCheckAt.map fun t => ofUnix (unix t)
    nextCheckAt := m.nextCheckAt.map fun t => ofUnix (unix t)
    lastError := m.lastError }

theorem setBy_id (row : CertMonitor) : (m.setBy row).id = row.id := rfl

end CertMonitor

/-! ## 4. The service -/

structure Service where
  monitors : Table CertMonitor.id
  results : List (String × CertCheckResult)
  chainEntries : List CertChainEntry
  emitted : List Emitted

namespace Service

variable (s : Service)

/-- `UPDATE cert_monitors SET … WHERE id`. -/
def updateMonitor (m : CertMonitor) : Service :=
  { s with monitors := s.monitors.update (fun row => row.id == m.id) (fun row => m.setBy row) m.setBy_id }

/-- `InsertCheckResult` and, when its id is known, `InsertChainEntries`. -/
def insertResult (env : Meets) (raw : CheckCertificateResult) (result : CertCheckResult) : Service :=
  { s with
    results := if env.resultStored then s.results ++ [(env.resultID, result)] else s.results
    chainEntries :=
      if raw.chain ≠ [] ∧ env.resultStored ∧ env.resultReported ∧ env.chainStored then
        s.chainEntries ++ raw.chain.mapIdx fun i cert => ⟨env.resultID, i, cert⟩
      else s.chainEntries }

/-- `processCheckResult` of a monitor that was read. -/
def processCheckResult (m : CertMonitor) (env : Meets) (raw : CheckCertificateResult) : Service :=
  let result := raw.toResult m.id env
  let m₁ := m.scanned x env raw
  let m₂ := (m₁.evaluateAlerts x env result).1
  let s₁ := s.insertResult env raw result
  let s₂ := if env.monitorStored then s₁.updateMonitor m₂ else s₁
  { s₂ with
    emitted := s₁.emitted ++ (m₁.evaluateAlerts x env result).2 ++
      .checkCompleted m.ref m₂.status result (result.daysRemaining x env.completedUntil) ::
        if m.status ≠ m₂.status then
          [.statusChanged m.ref m.status m₂.status (result.daysRemaining x env.changedUntil) env.now]
        else [] }

/-- A monitor is read, and a result of it is processed. -/
def check (id : String) (env : Meets) (raw : CheckCertificateResult) : Service :=
  match s.monitors.get id with
  | none => s
  | some m => s.processCheckResult x m env raw

end Service

end Results

end Maintenant.Certificates
