import ValOpt.Network.Shell
import ValOpt.Server.Launcher

/-!
# Where the game is installed

The other half of `detect_installation` in `process/valorant_launcher.rs`: the directory of the game
is read from the product settings, then from the keys of the uninstaller, and last tried on the
common drives; a place counts if the binary is a file in it.
-/

namespace ValOpt

open Text

/-- `Path::join` of the directories down to the binary. -/
def shippingPath (dir : String) : String :=
  ["ShooterGame", "Binaries", "Win64", valorantBinaryName].foldl joinPath dir

/-- The directory that a line of the product settings names. -/
def settingsDirectory (line : List Char) : Option String :=
  let trimmed := trimMatches isWhitespace line
  if "product_install_full_path:".toList <+: trimmed then
    -- `splitn(2, ':')`
    match trimmed.dropWhile (· ≠ ':') with
    | _ :: value => some <| String.ofList <|
        trimMatches (· = '\x27') (trimMatches (· = '"') (trimMatches isWhitespace value))
    | [] => none
  else none

/-- `ValorantInstallation`. -/
structure ValorantInstallation where
  riotClientPath : Option String
  valorantShippingPath : Option String
  installDirectory : Option String
  uriRegistered : Bool
  deriving DecidableEq, Repr

namespace LauncherAnswers

variable (l : LauncherAnswers)

/-- The binary and its directory, if it is a file. -/
def shippingIn (dir : String) : Option (String × String) :=
  if l.isFile (shippingPath dir) then some (shippingPath dir, dir) else none

/-- The keys of the uninstaller. -/
def uninstallKeys : List (RegistryRoot × String) :=
  [(.localMachine, "SOFTWARE\\Microsoft\\Windows\\CurrentVersion\\Uninstall\\Riot Game valorant.live"),
    (.currentUser, "Software\\Microsoft\\Windows\\CurrentVersion\\Uninstall\\Riot Game valorant.live"),
    (.localMachine, "SOFTWARE\\WOW6432Node\\Microsoft\\Windows\\CurrentVersion\\Uninstall\\Riot Game valorant.live")]

/-- `find_valorant_paths`, where `settings` is what the product settings contain, if they are a file
that can be read. -/
def findValorantPaths (settings : Option String) : Option (String × String) :=
  let configured := settings.bind fun content =>
    (Shell.textLines content.toList).findSome? fun line =>
      (settingsDirectory line).bind l.shippingIn
  let uninstallable := uninstallKeys.findSome? fun (root, key) =>
    (l.registryString root key "InstallLocation").bind l.shippingIn
  let scanned := ["C", "D", "E", "F", "G"].findSome? fun drive =>
    let candidate :=
      s!"{drive}:\\Riot Games\\VALORANT\\live\\ShooterGame\\Binaries\\Win64\\{valorantBinaryName}"
    if l.isFile candidate then some (candidate, s!"{drive}:\\Riot Games\\VALORANT\\live") else none
  (configured.or uninstallable).or scanned

/-- `detect_installation`; `none` where the search for the Riot Client panics. -/
def detectInstallation (settings : Option String) : Option ValorantInstallation :=
  l.findRiotClientExecutable.map fun riotClientPath => {
    riotClientPath
    valorantShippingPath := (l.findValorantPaths settings).map Prod.fst
    installDirectory := (l.findValorantPaths settings).map Prod.snd
    uriRegistered := l.uriRegistered }

end LauncherAnswers

end ValOpt
