import ValOpt.Server.Daemon

/-!
# Launching the game

`process/valorant_launcher.rs`: where the Riot Client is looked for, and how the launch is started.
The command that the registry names for the protocol is searched in lower case and cut in the
original, by positions in bytes.  A function that may panic there returns `none` if it does.

What `detect_installation` finds out about the game itself is not used by the launch.
-/

namespace ValOpt

open Text

/-! ### Positions in bytes -/

/-- `str::find`: the position of the first occurrence, in bytes. -/
def findBytes (pattern : List Char) : List Char → Option ℕ
  | [] => if pattern = [] then some 0 else none
  | c :: cs =>
    if pattern <+: c :: cs then some 0 else (findBytes pattern cs).map (· + c.utf8Size)

/-- `&s[..n]`, which panics beyond the end and inside a character. -/
def sliceTo : List Char → ℕ → Option (List Char)
  | _, 0 => some []
  | [], _ + 1 => none
  | c :: cs, n => if c.utf8Size ≤ n then (sliceTo cs (n - c.utf8Size)).map (c :: ·) else none

/-! ### The Riot Client -/

def riotClientServicesName : String := "RiotClientServices.exe"

/-- The roots that are looked into. -/
inductive RegistryRoot where
  | currentUser
  | localMachine
  | classesRoot
  deriving DecidableEq, Repr

/-- What the launch finds on the machine, and what becomes of its calls.  `installs` are the strings
of `RiotClientInstalls.json`, `registryString` the results of `query_registry_string`, and
`spawnAsUser` is `none` without a token of the interactive user. -/
structure LauncherAnswers where
  toLowercase : List Char → List Char
  installs : String → Option String
  registryString : RegistryRoot → String → String → Option String
  isFile : String → Bool
  uriRegistered : Bool
  isElevated : Bool
  spawnAsUser : String → Option (Except String UInt32)
  spawn : String → Except String UInt32
  shellExecute : ℕ

/-- `Path::join` with a file name. -/
def joinPath (dir file : String) : String :=
  match dir.toList.reverse with
  | [] => file
  | [':', drive] => if drive.isAlpha then dir ++ file else dir ++ "\\" ++ file
  | last :: _ => if last = '\\' ∨ last = '/' then dir ++ file else dir ++ "\\" ++ file

/-- `extract_executable_from_command`. -/
def extractExecutableFromCommand (lower : List Char → List Char) (cmd : String) :
    Option (Option String) :=
  match trimMatches isWhitespace cmd.toList with
  | '"' :: rest =>
    if '"' ∈ rest then some (some (String.ofList (rest.takeWhile (· ≠ '"')))) else some none
  | trimmed =>
    match findBytes ".exe".toList (lower trimmed) with
    | some pos => (sliceTo trimmed (pos + 4)).map fun path => some (String.ofList path)
    | none => some none

namespace LauncherAnswers

variable (l : LauncherAnswers)

/-- The candidates of `RiotClientInstalls.json`. -/
def installed : Option String :=
  ["rc_default", "rc_live"].findSome? fun key => (l.installs key).filter l.isFile

/-- The candidates of the registry. -/
def located : Option String :=
  [(.currentUser, "Software\\Riot Games\\RiotClient"),
    (.localMachine, "SOFTWARE\\Riot Games, Inc\\Riot Client"),
    (.localMachine, "SOFTWARE\\WOW6432Node\\Riot Games, Inc\\Riot Client")].findSome?
      fun (root, subkey) => ((l.registryString root subkey "Location").map fun loc =>
        joinPath loc riotClientServicesName).filter l.isFile

/-- The candidates on the common drives. -/
def scanned : Option String :=
  ["C", "D", "E", "F", "G"].findSome? fun drive =>
    (some s!"{drive}:\\Riot Games\\Riot Client\\{riotClientServicesName}").filter l.isFile

/-- The command of the protocol. -/
def protocolCommand : Option String :=
  l.registryString .classesRoot "riotclient\\shell\\open\\command" ""

/-- `find_riot_client_executable`. -/
def findRiotClientExecutable : Option (Option String) :=
  match l.installed.or l.located with
  | some path => some (some path)
  | none =>
    match l.protocolCommand with
    | none => some l.scanned
    | some cmd => (extractExecutableFromCommand l.toLowercase cmd).map fun path =>
        (path.filter l.isFile).or l.scanned

/-! ### The launch -/

/-- Step 3 of `launch_game`. -/
def launchUri : Except String String :=
  if l.uriRegistered then
    if 32 < l.shellExecute then
      .ok "VALORANT launch dispatched via Riot Client URI protocol. Core daemon supervising startup."
    else .error s!"Failed to initiate launch via Riot Client: ShellExecuteW failed for URI with error code: {l.shellExecute}"
  else .error "VALORANT or Riot Client is not installed: Neither Riot Client executable nor riotclient:// protocol handler was found on this system. Please verify VALORANT installation."

/-- Steps 2 and 3 of `launch_game`.  A spawn that fails falls back to the next way. -/
def launchClient (riotExe : Option String) : Except String String :=
  match riotExe with
  | none => l.launchUri
  | some riotExe =>
    let launched (pid : UInt32) :=
      s!"Riot Client launched (PID {pid}). Core daemon supervising game startup."
    let direct := match l.spawn riotExe with
      | .ok pid => .ok (launched pid)
      | .error _ => l.launchUri
    if l.isElevated then
      match l.spawnAsUser riotExe with
      | some (.ok pid) => .ok (launched pid)
      | _ => direct
    else direct

/-- `launch_game`. -/
def launchGame (access : ProcessAccess) (running : List Process) : Option (Except String String) :=
  match findProcessWithPath access running valorantBinaryName with
  | some (pid, _) => some (.ok s!"VALORANT is already running (PID {pid}). Supervisor attached.")
  | none => l.findRiotClientExecutable.map l.launchClient

/-- A machine without a Riot Client. -/
def absent : LauncherAnswers where
  toLowercase := List.map Char.toLower
  installs := fun _ => none
  registryString := fun _ _ _ => none
  isFile := fun _ => false
  uriRegistered := false
  isElevated := false
  spawnAsUser := fun _ => none
  spawn := fun _ => .error "The system cannot find the file specified."
  shellExecute := 2

end LauncherAnswers

end ValOpt
