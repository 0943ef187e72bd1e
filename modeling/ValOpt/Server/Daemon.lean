import ValOpt.Optimizations.Coordinator
import ValOpt.Process.Terminator

/-!
# The daemon and its supervisor threads

`process/supervisor.rs`: the state of the daemon process, and the thread that
`start_background_supervision` spawns for every launch, one atomic step at a time.  The thread waits
for the game, waits for its end, relaunches the applications that were closed and recovers the
transaction; it looks at its stop signal on the way.

An entry of `Daemon.supervisors` holds what one launch creates: the list of backups, the stop signal
and, once it is spawned, the thread.  Its position in the list stands for the `Arc` of the signal.
-/

namespace ValOpt

open Effect Text

/-- `VALORANT_BINARY_NAME`. -/
def valorantBinaryName : String := "VALORANT-Win64-Shipping.exe"

/-- `GameSupervisorConfig`, without the affinity mask and the poll interval. -/
structure GameSupervisorConfig where
  targetBinary : String
  terminateCefUi : Bool
  deriving DecidableEq, Repr

/-- Where a launch and its thread stand. -/
inductive Phase where
  /-- The thread is not spawned yet. -/
  | launching
  /-- At the head of the polling loop. -/
  | polling
  /-- In the body of the polling loop. -/
  | searching
  /-- The game was found. -/
  | detected (pid : UInt32)
  /-- About to open the game process. -/
  | opening (pid : UInt32)
  /-- At the head of the waiting loop. -/
  | waiting (pid : UInt32)
  /-- In the body of the waiting loop. -/
  | blocked (pid : UInt32)
  /-- `wait_for_game_exit` returned, and `clean` tells whether the game ended by itself. -/
  | exited (clean : Bool)
  /-- So many of the backups have been relaunched. -/
  | relaunching (done : ℕ)
  /-- About to recover the transaction. -/
  | restoring
  | finished
  deriving DecidableEq, Repr

/-- One launch: its backups, its stop signal and its thread. -/
structure Supervisor where
  config : GameSupervisorConfig
  backups : List TerminatedAppBackup
  stop : Bool
  phase : Phase
  deriving DecidableEq, Repr

/-- The daemon process on its machine.  `activeStop` is the signal in `ACTIVE_SUPERVISOR_STOP`, and
`relaunched` lists the attempts to relaunch an application, by launch and position in its
backups. -/
structure Daemon where
  world : World
  processes : List Process
  currentPid : UInt32
  activeStop : Option ℕ
  supervisors : List Supervisor
  relaunched : List (ℕ × ℕ)

/-- A daemon that has just started. -/
def Daemon.start (world : World) (processes : List Process) (currentPid : UInt32) : Daemon :=
  ⟨world, processes, currentPid, none, [], []⟩

/-- A program of the optimizer inside the daemon. -/
def Daemon.onWorld (d : Daemon) {α : Type} (m : Prog α) (env : Env Call) : Run Daemon α :=
  match m.run env d.world with
  | .returned a w => .returned a { d with world := w }
  | .crashed w => .crashed { d with world := w }

/-! ### The game process -/

/-- `is_legitimate_game_path`. -/
def isLegitimateGamePath (targetBinary imagePath : String) : Bool :=
  if eqIgnoreAsciiCase targetBinary valorantBinaryName then
    let lower := toLowercase imagePath
    decide ("\\shootergame\\binaries\\win64\\valorant-win64-shipping.exe".toList <:+ lower.toList) ||
      (containsStr lower "valorant" && containsStr lower "shootergame" &&
        decide ("valorant-win64-shipping.exe".toList <:+ lower.toList))
  else true

/-- `find_process_with_path`. -/
def findProcessWithPath (access : ProcessAccess) (running : List Process) (name : String) :
    Option (UInt32 × String) :=
  match access.snapshot with
  | .error _ => none
  | .ok () =>
    (running.find? fun p => toLowercase p.name = toLowercase name ∧ access.opens p.pid ∧
      isLegitimateGamePath name (p.imagePath.getD "")).map fun p => (p.pid, p.imagePath.getD "")

/-- One entry of `purge_riot_client_cef`. -/
def purgeEntry (access : ProcessAccess) (running : List Process) (entry : Process) : List Process :=
  let exe := toLowercase entry.name
  if exe = "riotclientux.exe" ∨ exe = "riotclientuxrender.exe" then
    if access.opens entry.pid then
      match entry.imagePath with
      | some path =>
        let pathLower := toLowercase path
        if containsStr pathLower "riot client" || containsStr pathLower "riotclient" then
          (terminateProcessGracefully access entry.pid exe running).2
        else running
      | none => running
    else running
  else running

/-- `purge_riot_client_cef`. -/
def purgeRiotClientCef (access : ProcessAccess) (running : List Process) : List Process :=
  match access.snapshot with
  | .error _ => running
  | .ok () => running.foldl (purgeEntry access) running

/-- `optimize_game_process`, but for the priority and the affinity of the game: without a handle to
the game nothing is purged. -/
def optimizeGameProcess (access : ProcessAccess) (config : GameSupervisorConfig) (pid : UInt32)
    (running : List Process) : List Process :=
  if access.opens pid && config.terminateCefUi then purgeRiotClientCef access running else running

/-! ### The thread -/

/-- The launch number `i` goes over to another phase. -/
def Daemon.setPhase (d : Daemon) (i : ℕ) (phase : Phase) : Daemon :=
  { d with supervisors := d.supervisors.modify i fun s => { s with phase := phase } }

/-- One atomic step of the thread of launch `i`.  There is none before it is spawned and none after
it has ended, and none after a crash inside the recovery. -/
def Daemon.supervisorStep (P : Platform) (env : Env Call) (access : ProcessAccess) (i : ℕ)
    (d : Daemon) : Option Daemon :=
  match d.supervisors[i]? with
  | none => none
  | some s =>
    match s.phase with
    | .launching => none
    | .polling => some (d.setPhase i (if s.stop then .finished else .searching))
    | .searching =>
      match findProcessWithPath access d.processes s.config.targetBinary with
      | some (pid, _) => some (d.setPhase i (.detected pid))
      | none => some (d.setPhase i .polling)
    | .detected pid =>
      some { d.setPhase i (.opening pid) with
        processes := optimizeGameProcess access s.config pid d.processes }
    | .opening pid =>
      -- an error of `wait_for_game_exit` counts as an exit that was not clean
      if access.opens pid && d.processes.any (·.pid = pid) then
        some (d.setPhase i (.waiting pid))
      else some (d.setPhase i (.exited false))
    | .waiting pid => some (d.setPhase i (if s.stop then .exited false else .blocked pid))
    | .blocked pid =>
      some (d.setPhase i (if d.processes.any (·.pid = pid) then .waiting pid else .exited true))
    | .exited clean =>
      some (d.setPhase i (if !clean || s.stop then .finished else .relaunching 0))
    | .relaunching done =>
      if done < s.backups.length then
        some { d.setPhase i (.relaunching (done + 1)) with
          relaunched := d.relaunched ++ [(i, done)] }
      else some (d.setPhase i .restoring)
    | .restoring =>
      match d.onWorld (recoverOrphanedTransaction P) env with
      | .returned _ d => some (d.setPhase i .finished)
      | .crashed _ => none
    | .finished => none

end ValOpt
