import ValOpt.Process.Services
import ValOpt.State.SnapshotEngine

/-!
# Crash recovery at start-up

`state/crash_recovery.rs`: the daemon looks for a snapshot that an earlier session left, verifies
it, writes it back and deletes it.  A recovery that was carried out, and one that finds a snapshot
with a wrong signature, leave a line in the recovery log.
-/

namespace ValOpt

open Effect

variable (P : Platform)

/-- `RecoveryReport`. -/
structure RecoveryReport where
  uncommittedSnapshotFound : Bool
  snapshotId : Option String
  snapshotTimestamp : Option String
  servicesRestored : ℕ
  audioEndpointsRestored : ℕ
  adapterPropertiesRestored : ℕ
  qosPolicyRestored : Bool
  powerSchemeRestored : Bool
  gameModeRestored : Bool
  error : Option String
  durationMs : ℕ
  deriving DecidableEq, Repr

/-- `RecoveryReport::default`. -/
def RecoveryReport.default : RecoveryReport where
  uncommittedSnapshotFound := false
  snapshotId := none
  snapshotTimestamp := none
  servicesRestored := 0
  audioEndpointsRestored := 0
  adapterPropertiesRestored := 0
  qosPolicyRestored := false
  powerSchemeRestored := false
  gameModeRestored := false
  error := none
  durationMs := 0

/-- The report that `rollback_snapshot` fills in. -/
def RecoveryReport.begin (snapshot : SystemStateSnapshot) : RecoveryReport :=
  { RecoveryReport.default with
    uncommittedSnapshotFound := true
    snapshotId := some snapshot.snapshotId
    snapshotTimestamp := some snapshot.timestampUtc }

/-- Step 1 of `rollback_snapshot`: whether the policy is reported as restored. -/
def rollbackQos (backup : Option QosPolicyBackup) : Prog Bool := do
  match backup with
  | some backup => return (← unregisterQosPolicy backup).isOk
  | none => return false

/-- Step 2 of `rollback_snapshot`: the number of properties reported as restored. -/
def rollbackAdapter (backups : List AdapterPropertyBackup) : Prog ℕ := do
  if backups.isEmpty then return 0
  else match ← restoreAdapterProperties backups with
    | .ok () => return backups.length
    | .error _ => return 0

/-- Step 3 of `rollback_snapshot`: the number of endpoints reported as restored. -/
def rollbackAudio (backups : List AudioEndpointBackup) : Prog ℕ := do
  if backups.isEmpty then return 0
  else match ← restoreAudioEnhancements backups with
    | .ok () => return backups.length
    | .error _ => return 0

/-- Step 4 of `rollback_snapshot`: whether the power scheme is reported as restored. -/
def rollbackPower (scheme : Option String) : Prog Bool := do
  match scheme with
  | some schemeStr =>
    match stringToGuid schemeStr with
    | .ok guid => return (← restorePowerScheme guid).isOk
    | .error _ => return false
  | none => return false

/-- Step 5 of `rollback_snapshot`: whether Game Mode is reported as restored. -/
def rollbackGameMode (mode : Option Bool) : Prog Bool := do
  match mode with
  | some prevGm => return (← restoreGameMode prevGm).isOk
  | none => return false

/-- Step 6 of `rollback_snapshot`: the number of services reported as restored. -/
def rollbackServices (backups : List ServiceBackup) : Prog ℕ := do
  if backups.isEmpty then return 0
  else
    restoreTier3Services backups
    return backups.length

/-- `CrashRecoveryService::rollback_snapshot`. -/
def rollbackSnapshot (snapshot : SystemStateSnapshot) : Prog (Except String RecoveryReport) := do
  let qos ← rollbackQos snapshot.previousQosPolicy
  let adapter ← rollbackAdapter snapshot.previousAdapterProperties
  let audio ← rollbackAudio snapshot.previousAudioEndpoints
  let power ← rollbackPower snapshot.previousPowerScheme
  let gameMode ← rollbackGameMode snapshot.previousGameMode
  let services ← rollbackServices snapshot.pausedServices
  return .ok
    { RecoveryReport.begin snapshot with
      servicesRestored := services
      audioEndpointsRestored := audio
      adapterPropertiesRestored := adapter
      qosPolicyRestored := qos
      powerSchemeRestored := power
      gameModeRestored := gameMode }

/-- The `{:?}` text of an optional string. -/
def debugOption (text : Option String) : String :=
  text.elim "None" fun s => s!"Some({P.debugStr s})"

/-- The line of `append_recovery_log`, at a time whose `{:?}` text is `timestamp`. -/
def RecoveryReport.logEntry (timestamp : String) (r : RecoveryReport) : String :=
  s!"[{timestamp}] [CRASH_RECOVERY] Snapshot: {debugOption P r.snapshotId} | " ++
    s!"Restored: (services={r.servicesRestored}, audio={r.audioEndpointsRestored}, " ++
    s!"nic={r.adapterPropertiesRestored}, qos={r.qosPolicyRestored}, " ++
    s!"power={r.powerSchemeRestored}, game_mode={r.gameModeRestored}) | " ++
    s!"Duration: {r.durationMs}ms | Error: {debugOption P r.error}" ++ "\n"

/-- `append_recovery_log`, to the log of the storage directory. -/
def appendRecoveryLog (now : Ambient) (report : RecoveryReport) : Prog (Except String Unit) := do
  let w ← getWorld
  let occupied ← isDirectory w.storageDir w.recoveryLogPath
  unlessDirectory occupied .appendLog
    (appendFile .appendLog w.recoveryLogPath (asBytes (report.logEntry P now.debugTime)))

/-- The error text of `check_and_recover_with_base` for a snapshot that did not load. -/
def recoveryErrorText : SnapshotError → String
  | .integrityViolation _ expectedHash computedHash =>
    s!"Snapshot integrity check failed! Expected {expectedHash}, found {computedHash}"
  | e => s!"Failed to read orphaned snapshot: {e.message}"

/-- What `check_and_recover_with_base` reports of a snapshot that did not load: a wrong signature
goes to the log. -/
def reportUnreadable (now : Ambient) (e : SnapshotError) : Prog String := do
  match e with
  | .integrityViolation .. =>
    let _ ← appendRecoveryLog P now { RecoveryReport.default with
      uncommittedSnapshotFound := true
      error := some (recoveryErrorText e)
      durationMs := now.elapsedMillis }
    return recoveryErrorText e
  | _ => return recoveryErrorText e

/-- `CrashRecoveryService::check_and_recover_with_base`. -/
def checkAndRecoverWithBase (now : Ambient) (snapshotPath : Option Path)
    (allowedBase : Option (List String)) : Prog (Except String RecoveryReport) := do
  let w ← getWorld
  let base := w.baseDir allowedBase
  match ← validateSnapshotPath .recover (snapshotPath.getD w.defaultSnapshotPath) allowedBase with
  | .error e => return .error s!"Security validation failed for rollback path: {e.message}"
  | .ok target =>
    if !(← pathExists base target) then return .ok .default
    else
      match ← loadAndVerifyWithBase P (some target) allowedBase with
      | .error e => return .error (← reportUnreadable P now e)
      | .ok snapshot =>
        match ← rollbackSnapshot snapshot with
        | .error e => return .error e
        | .ok report =>
          let report := { report with durationMs := now.elapsedMillis }
          let _ ← deleteSnapshotWithBase (some target) allowedBase
          let _ ← appendRecoveryLog P now report
          return .ok report

/-- `CrashRecoveryService::check_and_recover`. -/
def checkAndRecover (now : Ambient) (snapshotPath : Option Path) :
    Prog (Except String RecoveryReport) := checkAndRecoverWithBase P now snapshotPath none

end ValOpt
