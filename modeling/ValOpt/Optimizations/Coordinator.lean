import ValOpt.Network.Adapter
import ValOpt.Network.Qos
import ValOpt.Optimizations.Audio
import ValOpt.Optimizations.GameMode
import ValOpt.Optimizations.Power

/-!
# The optimization coordinator

`optimizations/mod.rs`: `applyOptimizations` changes the settings one subsystem after the other and
then stores what it found; `rollback` writes a transaction back and removes the stored record, and
`recoverOrphanedTransaction` does so with the record on disk.
-/

namespace ValOpt

open Effect

variable (P : Platform)

/-- Step 5 of `rollback`, which comes first. -/
def rollbackQosStep (backup : Option QosPolicyBackup) : Prog Unit := do
  match backup with
  | some backup =>
    let _ ← unregisterQosPolicy backup
    return ()
  | none => return ()

/-- Step 4 of `rollback`. -/
def rollbackAdapterStep (backups : List AdapterPropertyBackup) : Prog Unit := do
  if backups.isEmpty then return ()
  else
    let _ ← restoreAdapterProperties backups
    return ()

/-- Step 3 of `rollback`. -/
def rollbackAudioStep (backups : List AudioEndpointBackup) : Prog Unit := do
  if backups.isEmpty then return ()
  else
    let _ ← restoreAudioEnhancements backups
    return ()

/-- Step 2 of `rollback`. -/
def rollbackPowerStep (scheme : Option String) : Prog Unit := do
  match scheme with
  | some schemeStr =>
    match stringToGuid schemeStr with
    | .ok guid =>
      let _ ← restorePowerScheme guid
      return ()
    | .error _ => return ()
  | none => return ()

/-- Step 1 of `rollback`, which comes last. -/
def rollbackGameModeStep (mode : Option Bool) : Prog Unit := do
  match mode with
  | some prevMode =>
    let _ ← restoreGameMode prevMode
    return ()
  | none => return ()

/-- The steps of `rollback` for the subsystems, in its order; every error is logged and passed
over. -/
def rollbackSettings (tx : OptimizationTransaction) : Prog Unit := do
  rollbackQosStep tx.previousQosPolicy
  rollbackAdapterStep tx.previousAdapterProperties
  rollbackAudioStep tx.previousAudioEndpoints
  rollbackPowerStep tx.previousPowerScheme
  rollbackGameModeStep tx.previousGameMode

/-- The clean-up of `rollback`: the stored record goes, whatever became of the restore. -/
def removeRecord : Prog Unit := do
  let snapshotPath := (← getWorld).transactionPath
  if ← fileExists snapshotPath then
    let _ ← removeFile .removeTransaction snapshotPath

/-- `OptimizationCoordinator::rollback`. -/
def rollback (tx : OptimizationTransaction) : Prog (Except String Unit) := do
  rollbackSettings tx
  removeRecord
  return .ok ()

/-- The transaction `apply_optimizations` starts with. -/
def newTransaction (now : Ambient) : OptimizationTransaction where
  transactionId := s!"tx_{now.unixMillis}"
  timestampUtc := now.debugTime
  previousGameMode := none
  previousPowerScheme := none
  previousAudioEndpoints := []
  previousAdapterProperties := []
  previousQosPolicy := none
  isApplied := false

/-- Step 2 of `apply_optimizations`: a failure is only a warning. -/
def applyPowerStep (tx : OptimizationTransaction) : Prog OptimizationTransaction := do
  match ← applyGamingPowerScheme with
  | .ok prevGuid => return { tx with previousPowerScheme := some (guidToString prevGuid) }
  | .error _ => return tx

/-- Step 3 of `apply_optimizations`: a failure is only a warning. -/
def applyAudioStep (tx : OptimizationTransaction) : Prog OptimizationTransaction := do
  match ← disableAudioEnhancements with
  | .ok backups => return { tx with previousAudioEndpoints := backups }
  | .error _ => return tx

/-- The end of `apply_optimizations`: the transaction is marked applied and stored.  A failure to
store it goes unnoticed. -/
def persistTransaction (tx : OptimizationTransaction) : Prog OptimizationTransaction := do
  let tx := { tx with isApplied := true }
  let snapshotPath := (← getWorld).transactionPath
  let _ ← writeFile .writeTransaction snapshotPath (P.transaction.toStringPretty tx)
  return tx

/-- `OptimizationCoordinator::apply_optimizations`.  Only a failing Game Mode step is an error; it
is answered with a rollback of the transaction, which is still empty. -/
def applyOptimizations (now : Ambient) : Prog (Except String OptimizationTransaction) := do
  let tx := newTransaction now
  match ← setGameMode true with
  | .error e =>
    match ← rollback tx with
    | .error e' => return .error e'
    | .ok () => return .error s!"Failed to enforce Game Mode: {e}"
  | .ok prev =>
    let tx := { tx with previousGameMode := some prev }
    let tx ← applyPowerStep tx
    let tx ← applyAudioStep tx
    return .ok (← persistTransaction P tx)

/-- `OptimizationCoordinator::recover_orphaned_transaction`. -/
def recoverOrphanedTransaction : Prog (Except String Bool) := do
  let snapshotPath := (← getWorld).transactionPath
  if ← fileExists snapshotPath then
    match ← readFile .readTransaction snapshotPath with
    | .error e => return .error e
    | .ok content =>
      match P.transaction.fromStr content with
      | .error e => return .error e.text
      | .ok tx =>
        match ← rollback tx with
        | .error e => return .error e
        | .ok () => return .ok true
  else return .ok false

end ValOpt
