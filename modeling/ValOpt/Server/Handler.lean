import ValOpt.Ipc.Message
import ValOpt.Server.Launcher
import ValOpt.State.CrashRecovery

/-!
# The request handlers

`ipc_server.rs`: `handleRequestAuthorized` is what the daemon does with one request of a client.
What a request gets from its surroundings besides the machine is gathered in `Answers`: the
diagnostics and the launch of the game only read or start processes, so what they find is given.

The handlers that change something are made of the steps `closeApps`, `swapSignal`, `spawn` and
`stopActive` and of the programs of the optimizer.  `Job` is a handler in the middle of its work; it
takes one of these steps at a time.
-/

namespace ValOpt

open Effect

/-- What one request is answered by the system: `env` for the calls of the optimizer, `vanguard` for
`ensure_compliant`, `inspect` for the system manifest, `latency` and `bufferbloat` for the reports
and `launcher` for the launch.  `Duration::from_secs_f64` does not panic on a `validDuration`. -/
structure Answers (F V : Type) where
  env : Env Call
  now : Ambient
  access : ProcessAccess
  vanguard : Except String Unit
  inspect : Except String V
  validDuration : F → Bool
  latency : F → LatencyReport F
  bufferbloat : Except String (BufferbloatReport F)
  launcher : LauncherAnswers

/-! ### The steps of the handlers -/

namespace Daemon

variable (d : Daemon)

/-- The launch number `i` has its stop signal set. -/
def setStop (i : ℕ) : Daemon :=
  { d with supervisors := d.supervisors.modify i fun s => { s with stop := true } }

/-- The critical section of `RollbackOptimizations` and `ShutdownDaemon`: the active signal is taken
and set. -/
def stopActive : Daemon :=
  match d.activeStop with
  | some i => { d.setStop i with activeStop := none }
  | none => { d with activeStop := none }

/-- The critical section of `LaunchOptimizedGame`: the active signal is taken and set, and the new
one stored. -/
def swapSignal (i : ℕ) : Daemon := { d.stopActive with activeStop := some i }

/-- `start_background_supervision`. -/
def spawn (i : ℕ) : Daemon := d.setPhase i .polling

/-- The applications closed by `LaunchOptimizedGame`; an error counts as no backups. -/
def closeApps (access : ProcessAccess) : Daemon :=
  let (outcome, running) := terminateTier2BackgroundProcesses access d.currentPid d.processes
  let config := { targetBinary := valorantBinaryName, terminateCefUi := true }
  { d with
    processes := running
    supervisors := d.supervisors ++ [⟨config, outcome.toOption.getD [], false, .launching⟩] }

@[simp] theorem world_stopActive : d.stopActive.world = d.world := by
  unfold stopActive
  split <;> rfl

end Daemon

/-! ### Whole requests -/

variable {F V : Type}

/-- The requests that need an elevated client. -/
def IpcRequest.isPrivileged : IpcRequest F → Bool
  | .applyOptimizations | .rollbackOptimizations | .purgeBloatware | .shutdownDaemon
  | .trimWorkingSet => true
  | _ => false

/-- The response to `RollbackOptimizations`. -/
def rollbackResponse : Except String RecoveryReport → Except String Bool → IpcResponse F V
  | .ok cr, .ok co => .rollbackSuccess <|
      if cr.uncommittedSnapshotFound || co then
        s!"System successfully rolled back to baseline configuration. Restored {cr.servicesRestored} services, {cr.audioEndpointsRestored} audio endpoints, {cr.adapterPropertiesRestored} NIC properties."
      else "No active optimization transaction or snapshot found."
  | .error e, _ => .error "ROLLBACK_FAILED" e
  | _, .error e => .error "ROLLBACK_FAILED" e

/-- `handle_request_authorized`. -/
def handleRequestAuthorized (P : Platform) (a : Answers F V) (request : IpcRequest F)
    (isClientElevated : Bool) (d : Daemon) : Run Daemon (IpcResponse F V) :=
  if request.isPrivileged && !isClientElevated then
    .returned (.error "UNAUTHORIZED" "Administrative privileges required to execute this operation") d
  else match request with
    | .ping => .returned .pong d
    | .getStatus =>
      (d.onWorld (readMachine .detectPrimary fun m => m.primaryAdapter) a.env).bind fun adapter d =>
        let running := (findProcessWithPath a.access d.processes valorantBinaryName).isSome
        let name := adapter.toOption.getD "Unknown"
        .returned (.status "0.1.0" running true s!"Competitive Extreme ({name})") d
    | .inspectSystem =>
      match a.inspect with
      | .ok manifest => .returned (.systemManifest manifest) d
      | .error e => .returned (.error "INSPECT_FAILED" e) d
    | .applyOptimizations =>
      (d.onWorld (applyOptimizations P a.now) a.env).bind fun outcome d =>
        match outcome with
        | .ok tx => .returned (.optimizationSuccess tx.transactionId (tx.previousGameMode.getD true)
            "Gaming Optimized" (.ofNat tx.previousAudioEndpoints.length)
            (.ofNat tx.previousAdapterProperties.length) tx.previousQosPolicy.isSome) d
        | .error e => .returned (.error "OPTIMIZE_FAILED" e) d
    | .rollbackOptimizations =>
      (d.stopActive.onWorld (checkAndRecover P a.now none) a.env).bind fun crashReport d =>
        (d.onWorld (recoverOrphanedTransaction P) a.env).bind fun coordReport d =>
          .returned (rollbackResponse crashReport coordReport) d
    | .trimWorkingSet => .returned (.error "FEATURE_REMOVED" "Process working set trimming (EmptyWorkingSet) was permanently removed in Phase P3 safety cleanup (causes soft page faults and frame hitching). Windows manages physical RAM automatically.") d
    | .purgeBloatware =>
      let (outcome, running) := terminateTier2BackgroundProcesses a.access d.currentPid d.processes
      let d := { d with processes := running }
      match outcome with
      | .ok purged => .returned (.bloatwarePurged (.ofNat purged.length)) d
      | .error e => .returned (.error "PURGE_FAILED" e) d
    | .getLatencyReport durationSecs =>
      -- a panic aborts the whole process
      if a.validDuration durationSecs then .returned (.latencyReport (a.latency durationSecs)) d
      else .crashed d
    | .runBufferbloatTest =>
      match a.bufferbloat with
      | .ok report => .returned (.bufferbloatReport report) d
      | .error e => .returned (.error "BUFFERBLOAT_FAILED" e) d
    | .launchOptimizedGame _ =>
      match a.vanguard with
      | .error e => .returned (.error "VANGUARD_VIOLATION" e) d
      | .ok () =>
        let launch := d.supervisors.length
        ((d.closeApps a.access).onWorld (applyOptimizations P a.now) a.env).bind fun _ d =>
          let d := (d.swapSignal launch).spawn launch
          match a.launcher.launchGame a.access d.processes with
          | some (.ok status) => .returned
              (.gameLaunchAcknowledged s!"{status}. Core daemon active and supervising.") d
          | some (.error e) => .returned (.error "LAUNCH_FAILED" e) d
          | none => .crashed d
    | .shutdownDaemon => .returned .pong d.stopActive

/-- `handle_request`: requests made inside the process count as elevated. -/
def handleRequest (P : Platform) (a : Answers F V) (request : IpcRequest F) (d : Daemon) :
    Run Daemon (IpcResponse F V) := handleRequestAuthorized P a request true d

/-! ### Requests under way -/

/-- What is left to do of a request, by its next step. -/
inductive Job where
  | close
  | applyLaunch (launch : ℕ)
  | swap (launch : ℕ)
  | spawn (launch : ℕ)
  | apply
  | stopAndRecover
  | recoverSnapshot
  | recoverTransaction
  | stop
  | purge
  deriving DecidableEq, Repr

/-- The job of a request that passed the privilege check; one that changes nothing has none. -/
def IpcRequest.job (vanguard : Except String Unit) : IpcRequest F → Option Job
  | .applyOptimizations => some .apply
  | .rollbackOptimizations => some .stopAndRecover
  | .purgeBloatware => some .purge
  | .launchOptimizedGame _ => vanguard.toOption.map fun _ => .close
  | .shutdownDaemon => some .stop
  | _ => none

/-- One step of a job, and what is left of it. -/
def Job.step (P : Platform) (env : Env Call) (now : Ambient) (access : ProcessAccess) (d : Daemon) :
    Job → Run Daemon (Option Job)
  | .close => .returned (some (.applyLaunch d.supervisors.length)) (d.closeApps access)
  | .applyLaunch launch => (d.onWorld (applyOptimizations P now) env).bind fun _ d =>
      .returned (some (.swap launch)) d
  | .swap launch => .returned (some (.spawn launch)) (d.swapSignal launch)
  | .spawn launch => .returned none (d.spawn launch)
  | .apply => (d.onWorld (applyOptimizations P now) env).bind fun _ d => .returned none d
  | .stopAndRecover => .returned (some .recoverSnapshot) d.stopActive
  | .recoverSnapshot => (d.onWorld (checkAndRecover P now none) env).bind fun _ d =>
      .returned (some .recoverTransaction) d
  | .recoverTransaction => (d.onWorld (recoverOrphanedTransaction P) env).bind fun _ d =>
      .returned none d
  | .stop => .returned none d.stopActive
  | .purge => .returned none
      { d with processes := (terminateTier2BackgroundProcesses access d.currentPid d.processes).2 }

end ValOpt
