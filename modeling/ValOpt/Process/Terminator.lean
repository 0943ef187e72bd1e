import ValOpt.Models.Snapshot
import ValOpt.Text.Str

/-!
# Closing background applications

`process/safety_db.rs` and the closing half of `process/terminator.rs`: the table of process tiers,
and the loop over the running processes that closes those of tier 2.
-/

namespace ValOpt

open Text

/-- `ProcessTier`. -/
inductive ProcessTier where
  | tier0Protected
  | tier1Driver
  | tier2SafeTerminate
  | tier3ServicePause
  | unknown
  deriving DecidableEq, Repr

/-- The names of the processes in each tier. -/
def tier0Processes : List String :=
  ["system", "smss.exe", "csrss.exe", "wininit.exe", "services.exe", "lsass.exe", "winlogon.exe",
    "dwm.exe", "fontdrvhost.exe", "audiodg.exe", "ctfmon.exe", "svchost.exe", "registry",
    "memory compression", "explorer.exe", "vgc.exe", "vgk.sys", "riotclientservices.exe",
    "valorant.exe", "valorant-win64-shipping.exe", "val-opt-core.exe", "val-opt-cli.exe",
    "val-opt-gui.exe"]

@[inherit_doc tier0Processes]
def tier1Processes : List String :=
  ["amdfendrsr.exe", "radeonsoftware.exe", "amdow.exe", "nvcontainer.exe", "nvidia web helper.exe",
    "nvdisplay.container.exe", "lghub.exe", "lghub_agent.exe", "razersynapse.exe", "rzsynapse.exe"]

@[inherit_doc tier0Processes]
def tier2Processes : List String :=
  ["brave.exe", "chrome.exe", "msedge.exe", "firefox.exe", "opera.exe", "vivaldi.exe",
    "discord.exe", "slack.exe", "spotify.exe", "teams.exe", "steam.exe", "steamwebhelper.exe",
    "epicgameslauncher.exe", "battle.net.exe", "galaxyclient.exe", "overwolf.exe", "medal.exe",
    "riotclientux.exe", "riotclientuxrender.exe", "onedrive.exe", "dropbox.exe",
    "googledrivefs.exe", "searchindexer.exe"]

/-- `str::to_lowercase`, as far as it matters for a comparison with ASCII text: besides `A` to `Z`,
only the Kelvin sign becomes an ASCII letter. -/
def toLowercase (s : String) : String :=
  s.map fun c => if c.toNat = 0x212A then 'k' else c.toLower

/-- `ProcessSafetyDb::classify_process`. -/
def classifyProcess (name : String) : ProcessTier :=
  let clean := toLowercase name
  if clean ∈ tier0Processes then .tier0Protected
  else if clean ∈ tier1Processes then .tier1Driver
  else if clean ∈ tier2Processes then .tier2SafeTerminate
  else .unknown

/-- `SafetyViolationError` for processes. -/
inductive SafetyViolationError where
  | protectedProcess (name : String)
  deriving DecidableEq, Repr

/-- `ProcessSafetyDb::assert_safe_to_kill`. -/
def assertSafeToKill (name : String) : Except SafetyViolationError Unit :=
  if classifyProcess name = .tier0Protected then .error (.protectedProcess name) else .ok ()

/-- A running process, with the path `QueryFullProcessImageNameW` gives for it. -/
structure Process where
  pid : UInt32
  name : String
  imagePath : Option String
  deriving DecidableEq, Repr

/-- What the system lets the daemon do with processes: which it opens, and which close when they are
asked and then terminated. -/
structure ProcessAccess where
  snapshot : Except String Unit
  opens : UInt32 → Bool
  closes : UInt32 → Bool

/-- `terminate_process_gracefully`: the backup of the process, and what is left running.  A process
that cannot be opened counts as gone already. -/
def terminateProcessGracefully (access : ProcessAccess) (pid : UInt32) (processName : String)
    (running : List Process) :
    Except SafetyViolationError (Option TerminatedAppBackup) × List Process :=
  match assertSafeToKill processName with
  | .error e => (.error e, running)
  | .ok () =>
    match running.find? (·.pid = pid) with
    | none => (.ok none, running)
    | some p =>
      if access.opens pid then
        (.ok (p.imagePath.map fun path => ⟨processName, path, none⟩),
          if access.closes pid then running.filter (·.pid ≠ pid) else running)
      else (.ok none, running)

/-- The loop of `terminate_tier2_background_processes` over the entries of the process snapshot. -/
def terminateEntries (access : ProcessAccess) (currentPid : UInt32) :
    List Process → List Process → List TerminatedAppBackup × List Process
  | [], running => ([], running)
  | entry :: entries, running =>
    if entry.pid ≠ currentPid ∧ 4 < entry.pid ∧
        classifyProcess entry.name = .tier2SafeTerminate then
      let (outcome, running) := terminateProcessGracefully access entry.pid entry.name running
      let (backups, running) := terminateEntries access currentPid entries running
      match outcome with
      | .ok (some backup) => (backup :: backups, running)
      | .ok none => (backups, running)
      | .error _ => (backups, running)
    else terminateEntries access currentPid entries running

/-- `terminate_tier2_background_processes`: the backups of the closed applications, and what is left
running. -/
def terminateTier2BackgroundProcesses (access : ProcessAccess) (currentPid : UInt32)
    (running : List Process) : Except String (List TerminatedAppBackup) × List Process :=
  match access.snapshot with
  | .error e => (.error s!"Process snapshot failed: {e}", running)
  | .ok () =>
    let (backups, running) := terminateEntries access currentPid running running
    (.ok backups, running)

end ValOpt
