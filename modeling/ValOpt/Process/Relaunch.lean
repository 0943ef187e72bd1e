import ValOpt.Process.RelaunchPath

/-!
# Relaunching the applications that were closed

The relaunch engine of `process/terminator.rs`: which token a process is created with depends on
what the queries for the own elevation and for the token of the interactive user find.  Besides its
result a function returns the processes that it created.
-/

namespace ValOpt

open Text

/-! ### Tokens -/

/-- What `get_interactive_user_token` finds: the console session, whether `WTSQueryUserToken` gives
a token, the running processes with their sessions, and what can be opened and duplicated. -/
structure TokenAnswers where
  consoleSession : UInt32
  queryUserToken : Bool
  snapshot : Option (List (UInt32 × String))
  sessionOf : UInt32 → Option UInt32
  openProcess : UInt32 → Bool
  openToken : UInt32 → Bool
  duplicateToken : UInt32 → Bool

/-- The user token of a session, or that of its shell. -/
inductive UserToken where
  | session (id : UInt32)
  | shell (pid : UInt32)
  deriving DecidableEq, Repr

/-- `find_session_explorer_pid`. -/
def findSessionExplorerPid (t : TokenAnswers) (targetSession : UInt32) : Option UInt32 :=
  t.snapshot.bind fun entries => (entries.find? fun e =>
    toLowercase e.2 = "explorer.exe" ∧ t.sessionOf e.1 = some targetSession).map (·.1)

/-- `get_interactive_user_token`. -/
def getInteractiveUserToken (t : TokenAnswers) : Option UserToken :=
  if t.consoleSession = 0xFFFFFFFF then none
  else if t.queryUserToken then some (.session t.consoleSession)
  else
    match findSessionExplorerPid t t.consoleSession with
    | some pid =>
      if t.openProcess pid && t.openToken pid && t.duplicateToken pid then some (.shell pid)
      else none
    | none => none

/-! ### Processes that are created -/

/-- Whose token a process is created with. -/
inductive ProcessToken where
  | caller
  | interactiveUser
  deriving DecidableEq, Repr

structure SpawnedProcess where
  program : String
  arguments : Option String
  token : ProcessToken
  deriving DecidableEq, Repr

/-- What one relaunch meets.  The spawns are given by the program. -/
structure RelaunchAnswers where
  files : WindowsFiles
  openOwnToken : Bool
  queryElevation : Bool
  tokens : TokenAnswers
  spawnAsUser : UserToken → String → Except String UInt32
  spawn : String → Except String UInt32

/-- `is_current_process_elevated`: a query that fails answers that the process is not. -/
def isCurrentProcessElevated (elevated : Bool) (a : RelaunchAnswers) : Bool :=
  a.openOwnToken && a.queryElevation && elevated

/-- The standard spawn of `relaunch_single_application`. -/
def spawnDirectly (a : RelaunchAnswers) (app : TerminatedAppBackup) (validPath : String) :
    Except RelaunchError UInt32 × List SpawnedProcess :=
  match a.spawn validPath with
  | .ok pid => (.ok pid, [⟨validPath, app.commandLine, .caller⟩])
  | .error e => (.error (.spawnFailed e), [])

/-- `relaunch_single_application`, in a process that is elevated or not. -/
def relaunchSingleApplication (elevated : Bool) (a : RelaunchAnswers) (app : TerminatedAppBackup) :
    Except RelaunchError UInt32 × List SpawnedProcess :=
  match validateRelaunchPath a.files app.executablePath with
  | .error e => (.error e, [])
  | .ok validPath =>
    if isCurrentProcessElevated elevated a then
      match getInteractiveUserToken a.tokens with
      | some userToken =>
        let arguments := (app.commandLine.map fun args =>
          String.ofList (trimMatches isWhitespace args.toList)).filter (· ≠ "")
        match a.spawnAsUser userToken validPath with
        | .ok pid => (.ok pid, [⟨validPath, arguments, .interactiveUser⟩])
        | .error e => (.error (.spawnFailed s!"CreateProcessAsUserW failed: {e}"), [])
      | none => spawnDirectly a app validPath
    else spawnDirectly a app validPath

/-- `relaunch_applications`, with what each relaunch meets. -/
def relaunchApplications (elevated : Bool) :
    List (TerminatedAppBackup × RelaunchAnswers) →
      List (Except RelaunchError UInt32) × List SpawnedProcess
  | [] => ([], [])
  | (app, a) :: backups =>
    let (result, spawned) := relaunchSingleApplication elevated a app
    let (results, rest) := relaunchApplications elevated backups
    (result :: results, spawned ++ rest)

end ValOpt
