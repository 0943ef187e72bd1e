import ValOpt.System.Call

/-!
# Resuming services

`process/services.rs`, the part a rollback uses: services the optimizer stopped are started again.
-/

namespace ValOpt

open Effect

/-- `SERVICE_RUNNING`. -/
def serviceRunning : UInt32 := 4

/-- The service named is running afterwards. -/
def Machine.startService (m : Machine) (name : String) : Option Machine :=
  (m.services name).map fun _ =>
    { m with services := Function.update m.services name (some serviceRunning) }

/-- `start_service`, for the backup number `index`. -/
def startService (index : ℕ) (serviceName : String) : Prog (Except String Unit) := do
  match ← readMachine (.openScm index) fun _ => some () with
  | .error e => return .error s!"Failed to open SCM: {e}"
  | .ok () =>
    match ← readMachine (.openService index) fun m => m.services serviceName with
    | .error e => return .error s!"Failed to open service '{serviceName}' for start: {e}"
    | .ok _ =>
      match ← writeMachine (.startService index) fun m => m.startService serviceName with
      | .error _ => return .error s!"Failed to start service '{serviceName}'"
      | .ok () => return .ok ()

/-- The body of the loop of `restore_tier3_services`: an error is logged and passed over. -/
def restoreService (index : ℕ) (svc : ServiceBackup) : Prog Unit := do
  if svc.wasPausedByOptimizer then
    let _ ← startService index svc.serviceName
    return ()
  else return ()

/-- `restore_tier3_services`. -/
def restoreTier3Services (backups : List ServiceBackup) : Prog Unit :=
  Eff.forEach restoreService 0 backups

end ValOpt
