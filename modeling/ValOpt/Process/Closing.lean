import ValOpt.Process.Terminator

/-!
# Closing applications that close others

The loop of `terminate_tier2_background_processes` goes over a snapshot while processes exit: one
that closes may take its children with it.  `terminateEntriesAmid` is `terminateEntries` on such a
machine, where `exits` says which processes end during the call for an entry.
-/

namespace ValOpt

/-- The processes of a machine: no two have one identifier, and a path that the system gives for one
is that of its executable. -/
structure ProcessTable where
  running : List Process
  executable : UInt32 → String
  pid_nodup : (running.map (·.pid)).Nodup
  imagePath_eq : ∀ p ∈ running, ∀ path, p.imagePath = some path → path = executable p.pid

section Loop

variable (access : ProcessAccess) (exits : UInt32 → List UInt32) (currentPid : UInt32)

/-- The entry is one that the loop goes for. -/
def Targeted (entry : Process) : Prop :=
  entry.pid ≠ currentPid ∧ 4 < entry.pid ∧ classifyProcess entry.name = .tier2SafeTerminate

instance (entry : Process) : Decidable (Targeted currentPid entry) :=
  inferInstanceAs (Decidable (_ ∧ _ ∧ _))

/-- The loop of `terminate_tier2_background_processes`. -/
def terminateEntriesAmid : List Process → List Process → List TerminatedAppBackup × List Process
  | [], running => ([], running)
  | entry :: entries, running =>
    if Targeted currentPid entry then
      let (outcome, running) := terminateProcessGracefully access entry.pid entry.name running
      let (backups, running) := terminateEntriesAmid entries
        (running.filter fun p => p.pid ∉ exits entry.pid)
      match outcome with
      | .ok (some backup) => (backup :: backups, running)
      | .ok none => (backups, running)
      | .error _ => (backups, running)
    else terminateEntriesAmid entries running

/-- The processes that the calls of the loop end: each was running before its call, and is not
afterwards. -/
def terminatedProcesses : List Process → List Process → List Process
  | [], _ => []
  | entry :: entries, running =>
    if Targeted currentPid entry then
      let after := (terminateProcessGracefully access entry.pid entry.name running).2
      (running.filter fun p => p ∉ after) ++
        terminatedProcesses entries (after.filter fun p => p.pid ∉ exits entry.pid)
    else terminatedProcesses entries running

/-- `terminate_tier2_background_processes`. -/
def terminateTier2Amid (running : List Process) :
    Except String (List TerminatedAppBackup) × List Process :=
  match access.snapshot with
  | .error e => (.error s!"Process snapshot failed: {e}", running)
  | .ok () =>
    let (backups, running) := terminateEntriesAmid access exits currentPid running running
    (.ok backups, running)

end Loop

end ValOpt
