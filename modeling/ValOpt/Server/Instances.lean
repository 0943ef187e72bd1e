import ValOpt.Server.Listener
import ValOpt.State.CrashRecovery

/-!
# Several daemons

`main.rs`: a process of the daemon first runs its recovery, then starts the server, and then waits
until that stops.  The GUI spawns one whenever it does not reach the pipe, so that there may be
several; they share the computer and the name of the pipe.  A process takes its steps between those
of the others: the recovery first looks for a snapshot, and then restores it part by part.
-/

namespace ValOpt

open Effect

variable {F : Type} (P : Platform)

/-- The part of `check_and_recover` that comes before the rollback: the snapshot to be restored,
with its path. -/
def findSnapshot (now : Ambient) : Prog (Option (Path × SystemStateSnapshot)) := do
  let w ← getWorld
  match ← validateSnapshotPath .recover w.defaultSnapshotPath none with
  | .error _ => return none
  | .ok target =>
    if !(← pathExists w.storageDir target) then return none
    else
      match ← loadAndVerifyWithBase P (some target) none with
      | .error e =>
        let _ ← reportUnreadable P now e
        return none
      | .ok snapshot => return some (target, snapshot)

/-- The steps of `rollback_snapshot`, and the deletion and the line of the log that follow. -/
inductive RecoveryStep where
  | qos
  | adapter
  | audio
  | power
  | gameMode
  | services
  | delete
  | log
  deriving DecidableEq, Repr

/-- What a step does, and what it adds to the report. -/
def RecoveryStep.program (now : Ambient) (target : Path) (snapshot : SystemStateSnapshot)
    (report : RecoveryReport) : RecoveryStep → Prog RecoveryReport
  | .qos => do
    return { report with qosPolicyRestored := ← rollbackQos snapshot.previousQosPolicy }
  | .adapter => do
    return { report with
      adapterPropertiesRestored := ← rollbackAdapter snapshot.previousAdapterProperties }
  | .audio => do
    return { report with
      audioEndpointsRestored := ← rollbackAudio snapshot.previousAudioEndpoints }
  | .power => do
    return { report with powerSchemeRestored := ← rollbackPower snapshot.previousPowerScheme }
  | .gameMode => do
    return { report with gameModeRestored := ← rollbackGameMode snapshot.previousGameMode }
  | .services => do
    return { report with servicesRestored := ← rollbackServices snapshot.pausedServices }
  | .delete => do
    let _ ← deleteSnapshotWithBase (some target) none
    return report
  | .log => do
    let report := { report with durationMs := now.elapsedMillis }
    let _ ← appendRecoveryLog P now report
    return report

/-- The step that comes next. -/
def RecoveryStep.next : RecoveryStep → Option RecoveryStep
  | .qos => some .adapter
  | .adapter => some .audio
  | .audio => some .power
  | .power => some .gameMode
  | .gameMode => some .services
  | .services => some .delete
  | .delete => some .log
  | .log => none

/-- Where the main thread of a process stands. -/
inductive MainPhase where
  /-- About to look for a snapshot. -/
  | recovering
  /-- Restoring this snapshot, with this report so far and this step to come. -/
  | restoring (target : Path) (snapshot : SystemStateSnapshot) (report : RecoveryReport)
    (step : RecoveryStep)
  /-- About to start the server. -/
  | starting
  /-- In the loop that waits for the server. -/
  | waiting
  | exited

/-- After a step of the recovery. -/
def MainPhase.after (target : Path) (snapshot : SystemStateSnapshot) (report : RecoveryReport)
    (step : RecoveryStep) : MainPhase :=
  match step.next with
  | some next => .restoring target snapshot report next
  | none => .starting

def MainPhase.isRestoring : MainPhase → Bool
  | .restoring .. => true
  | _ => false

def MainPhase.isExited : MainPhase → Bool
  | .exited => true
  | _ => false

/-- A process of `val-opt-core.exe`. -/
structure DaemonProcess where
  main : MainPhase
  server : IpcServer

namespace DaemonProcess

/-- A process as it is created. -/
def spawned : DaemonProcess := ⟨.recovering, .new⟩

/-- The next step of `main`. -/
def mainProgram (now : Ambient) (d : DaemonProcess) : Prog DaemonProcess :=
  match d.main with
  | .recovering => do
    match ← findSnapshot P now with
    | none => return { d with main := .starting }
    | some (target, snapshot) =>
      return { d with main := .restoring target snapshot (.begin snapshot) .qos }
  | .restoring target snapshot report step => do
    let report ← step.program P now target snapshot report
    return { d with main := .after target snapshot report step }
  | .starting =>
    match d.server.start with
    | (.ok (), server) => return ⟨.waiting, server⟩
    | (.error _, server) => return ⟨.exited, server⟩
  | .waiting => return { d with main := if d.server.isRunning then .waiting else .exited }
  | .exited => return d

/-- The process has a handle to the pipe; all of them are closed when it exits. -/
def ownsPipe (d : DaemonProcess) : Bool := !d.main.isExited && d.server.holdsPipe

/-- The process ends, by itself or not. -/
def exit (d : DaemonProcess) : DaemonProcess := { d with main := .exited }

end DaemonProcess

/-- The computer and all processes of the daemon that were ever spawned. -/
structure Instances where
  world : World
  processes : List DaemonProcess

/-- What can happen next. -/
inductive InstanceEvent (F : Type) where
  /-- The GUI spawns a process. -/
  | spawn
  /-- A handler or a supervisor of one of the daemons, or any other program, does something. -/
  | act (program : Prog Unit) (env : Env Call)
  /-- The main thread of a process takes its next step. -/
  | main (p : ℕ) (now : Ambient) (env : Env Call)
  /-- A listener of a process takes a step. -/
  | listener (p : ℕ) (e : IpcEvent F)
  | kill (p : ℕ)

/-- The event is a step of a listener, not a call of the owner. -/
def IpcEvent.ofListener : IpcEvent F → Bool
  | .start | .stop => false
  | _ => true

/-- The event, where the name of the pipe is free or not. -/
def IpcEvent.atPipe (free : Bool) : IpcEvent F → IpcEvent F
  | .create i succeeds => .create i (succeeds && free)
  | e => e

namespace Instances

variable (s : Instances)

/-- A process that has not exited. -/
def live (p : ℕ) : Option DaemonProcess := s.processes[p]?.filter fun d => !d.main.isExited

/-- The pipe is owned by a process other than this. -/
def pipeTaken (p : ℕ) : Bool := (s.processes.eraseIdx p).any DaemonProcess.ownsPipe

/-- A process other than this is restoring a snapshot. -/
def othersRestore (p : ℕ) : Bool := (s.processes.eraseIdx p).any fun d => d.main.isRestoring

/-- A process is replaced, and the computer changed. -/
def update (p : ℕ) (d : DaemonProcess) (w : World) : Instances := ⟨w, s.processes.set p d⟩

/-- One step. -/
def step : InstanceEvent F → Instances → Option Instances
  | .spawn, s => some { s with processes := s.processes ++ [.spawned] }
  | .act program env, s => some { s with world := (program.run env s.world).state }
  | .main p now env, s => (s.live p).map fun d =>
    match (d.mainProgram P now).run env s.world with
    | .returned d' w => s.update p d' w
    | .crashed w => s.update p d.exit w
  | .listener p e, s => (s.live p).bind fun d =>
    if e.ofListener then
      (IpcServer.step (e.atPipe !s.pipeTaken p) d.server).map fun server =>
        s.update p { d with server := server } s.world
    else none
  | .kill p, s => (s.live p).map fun d => s.update p d.exit s.world

end Instances

end ValOpt
