import ValOpt.Optimizations.Coordinator
import ValOpt.Process.ServicePause
import ValOpt.State.CrashRecovery

/-!
# The command line

`val-opt-cli/src/main.rs`: every run of the program does one command.  What is printed is kept as
the values that it is printed from.  The diagnostics that look at none of the settings of a
`Machine`, and `purge-bloat`, which is about processes, leave a world as it is.
-/

namespace ValOpt

open Effect

/-- The commands, with the path they are given, and what they take from the system. -/
inductive CliCommand where
  | inspect
  | optimize (now : Ambient)
  | restore
  | rollback (now : Ambient) (path : Option Path)
  | vanguardCheck
  | snapshot (now : Ambient) (path : Option Path)
  | memoryStatus
  | purgeBloat
  | pauseServices (answers : String → StopAnswers)
  | resumeServices
  | benchmark
  | pingProbe
  | bufferbloat
  | netInspect
  | qosCheck
  | latencyTest
  | drivers
  | help

/-- What a command prints its report from. -/
inductive CliReport where
  | optimized (transaction : OptimizationTransaction)
  | restored (found : Bool)
  | rolledBack (report : RecoveryReport)
  | saved (path : Path) (snapshot : SystemStateSnapshot)
  | paused (services : List ServiceBackup)
  | resumed (services : ℕ)
  | adapter (name : String) (properties : List (String × String × String))
  | policy (name : Option String)
  | diagnostics

/-- The command that the arguments ask for.  `toPath` is the place that a text names. -/
def CliCommand.ofArgs (toPath : String → Path) (now : Ambient) (answers : String → StopAnswers)
    (args : List String) : CliCommand :=
  match args[1]?.getD "help" with
  | "inspect" => .inspect
  | "optimize" => .optimize now
  | "restore" => .restore
  | "rollback" => .rollback now (args[2]?.map toPath)
  | "vanguard-check" => .vanguardCheck
  | "snapshot" => .snapshot now (args[2]?.map toPath)
  | "trim-memory" | "memory-status" => .memoryStatus
  | "purge-bloat" => .purgeBloat
  | "pause-services" => .pauseServices answers
  | "resume-services" => .resumeServices
  | "benchmark" => .benchmark
  | "ping-probe" => .pingProbe
  | "bufferbloat" => .bufferbloat
  | "net-inspect" => .netInspect
  | "qos-check" => .qosCheck
  | "latency-test" => .latencyTest
  | "drivers" => .drivers
  | _ => .help

/-- `is_path_in_canonical_dir`. -/
def isPathInCanonicalDir (path : Path) : Prog Bool := do
  match ← validateSnapshotPath .guard path none with
  | .error _ => return false
  | .ok _ => return true

/-- The guard of `rollback` and `snapshot`: a path that is given has to be in the storage
directory. -/
def rejectsPath (path : Option Path) : Prog Bool := do
  match path with
  | some p => return !(← isPathInCanonicalDir p)
  | none => return false

/-- `pause_tier3_services`, as a program. -/
def pauseTier3 (answers : String → StopAnswers) : Prog (List ServiceBackup) := fun _ w =>
  let (backups, m) := pauseTier3Services answers w.machine
  ⟨.returned backups { w with machine := m }, []⟩

/-- The backups of `resume-services`, which nobody has made. -/
def resumeBackups : List ServiceBackup :=
  targetTier3Services.map fun name => ⟨name, name, serviceRunning, true⟩

/-- The properties that `net-inspect` lists. -/
def listsProperty (kw : String) : Bool :=
  Text.containsStr kw "EEE" || Text.containsStr kw "Green" || Text.containsStr kw "Interrupt" ||
    Text.containsStr kw "Flow" || Text.containsStr kw "RSS" || Text.containsStr kw "Power"

variable (P : Platform)

/-- The arms of `main`. -/
def CliCommand.run : CliCommand → Prog (Except String CliReport)
  | .optimize now => do
    match ← applyOptimizations P now with
    | .error e => return .error s!"Optimization transaction failed: {e}"
    | .ok transaction => return .ok (.optimized transaction)
  | .restore => do
    match ← recoverOrphanedTransaction P with
    | .error e => return .error s!"Rollback failed: {e}"
    | .ok restored => return .ok (.restored restored)
  | .rollback now path => do
    if ← rejectsPath path then
      return .error "Security violation: arbitrary rollback path rejected"
    else
      match ← checkAndRecover P now path with
      | .error e => return .error s!"Emergency rollback failed: {e}"
      | .ok report => return .ok (.rolledBack report)
  | .snapshot now path => do
    match ← captureSystemBaseline now with
    | .error e => return .error s!"Failed to capture baseline: {e}"
    | .ok baseline =>
      if ← rejectsPath path then
        return .error "Security violation: arbitrary snapshot path rejected"
      else
        match ← saveAtomicWithBase P now baseline path none with
        | .error e => return .error s!"Failed to save snapshot: {e}"
        | .ok (target, signed) => return .ok (.saved target signed)
  | .pauseServices answers => do
    let backups ← pauseTier3 answers
    return .ok (.paused backups)
  | .resumeServices => do
    restoreTier3Services resumeBackups
    return .ok (.resumed resumeBackups.length)
  | .netInspect => do
    match ← readMachine .detectPrimary fun m => m.primaryAdapter with
    | .error e => return .error s!"Failed to detect primary adapter: {e}"
    | .ok adapterName =>
      let props ← queryAdapterProperties adapterName
      let listed := (props.toOption.getD []).filter fun p => listsProperty p.registryKeyword
      return .ok (.adapter adapterName
        (listed.map fun p => (p.displayName, p.registryKeyword, p.firstValue.getD "")))
  | .qosCheck => do
    match ← queryQosPolicy defaultValorantQosPolicyName with
    | .error e => return .error s!"QoS query error: {e}"
    | .ok policy => return .ok (.policy policy)
  | .inspect | .vanguardCheck | .memoryStatus | .purgeBloat | .benchmark | .pingProbe
  | .bufferbloat | .latencyTest | .drivers | .help => return .ok .diagnostics

/-- Runs of the program one after the other, each in its environment: a run may fail or die in any
of its calls. -/
def runCommands (runs : List (Env Call × CliCommand)) (w : World) : World :=
  runs.foldl (fun w (env, command) => ((command.run P).run env w).state) w

end ValOpt
