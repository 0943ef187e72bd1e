import ValOpt.Process.Relaunch
import ValOpt.Server.Launcher

/-!
# The processes that the daemon creates

The processes created on the way through `launch_game`, and runs of the two operations that create
any, in an elevated daemon.
-/

namespace ValOpt

/-- `RIOT_CLIENT_URI`. -/
def riotClientUri : String := "riotclient://launch-product?product=valorant&patchline=live"

namespace LauncherAnswers

variable (l : LauncherAnswers)

/-- Step 3 of `launch_game`: `ShellExecuteW` starts the program of the protocol as the caller. -/
def uriSpawned : List SpawnedProcess :=
  if l.uriRegistered then
    if 32 < l.shellExecute then [⟨riotClientUri, none, .caller⟩] else []
  else []

/-- The arguments of the client. -/
def launchArguments : String := "--launch-product=valorant --launch-patchline=live"

/-- The direct spawn of the client, and step 3 if it fails. -/
def directSpawned (riotExe : String) : List SpawnedProcess :=
  match l.spawn riotExe with
  | .ok _ => [⟨riotExe, some launchArguments, .caller⟩]
  | .error _ => l.uriSpawned

/-- Steps 2 and 3 of `launch_game`. -/
def clientSpawned (riotExe : Option String) : List SpawnedProcess :=
  match riotExe with
  | none => l.uriSpawned
  | some riotExe =>
    if l.isElevated then
      match l.spawnAsUser riotExe with
      | some (.ok _) => [⟨riotExe, some launchArguments, .interactiveUser⟩]
      | _ => l.directSpawned riotExe
    else l.directSpawned riotExe

/-- `launch_game`. -/
def launchSpawned (access : ProcessAccess) (running : List Process) : List SpawnedProcess :=
  match findProcessWithPath access running valorantBinaryName with
  | some _ => []
  | none => (l.findRiotClientExecutable.map l.clientSpawned).getD []

end LauncherAnswers

/-- An operation that creates processes.  `isElevated` of a launch is the answer to the query for
the own elevation, which is wrong if the query fails. -/
inductive SpawnOperation where
  | relaunch (backups : List (TerminatedAppBackup × RelaunchAnswers))
  | launch (l : LauncherAnswers) (access : ProcessAccess) (running : List Process)

/-- The processes that the operation creates in an elevated daemon. -/
def SpawnOperation.spawned : SpawnOperation → List SpawnedProcess
  | relaunch backups => (relaunchApplications true backups).2
  | launch l access running => l.launchSpawned access running

end ValOpt
