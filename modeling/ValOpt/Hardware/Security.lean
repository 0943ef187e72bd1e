import ValOpt.Safety.VanguardCheck
import ValOpt.System.Machine

/-!
# The security inspection

`hardware/security.rs`: what the system manifest says about VBS, HVCI, Secure Boot, Game Mode and
Vanguard.  The probes are those of this file; they read the same values as the gate and as
`get_game_mode_state`, and decide by them in their own way.

The `GameBar` key of the user, and whether the file `vgk.sys` is there, are given.
-/

namespace ValOpt

open Effect VanguardChecker

/-- `SecurityInfo`. -/
structure SecurityInfo where
  vbsEnabled : Bool
  hvciEnabled : Bool
  secureBootEnabled : Bool
  gameModeEnabled : Bool
  vanguardInstalled : Bool
  vanguardServiceRunning : Bool
  deriving DecidableEq, Repr

namespace SecurityInfo

/-- A value of the registry can be read and is one. -/
def readsOne (p : RegistryProbe) : VanguardProg Bool := do
  match ← p.read with
  | some data => return dwordOf data = 1
  | none => return false

/-- `query_vbs_and_hvci`. -/
def queryVbsAndHvci : VanguardProg (Bool × Bool) := do
  let vbs ← readsOne vbs
  let hvci ← readsOne hvci
  return (vbs, hvci)

/-- `query_secure_boot`. -/
def querySecureBoot : VanguardProg Bool := readsOne secureBoot

/-- `query_game_mode`. -/
def queryGameMode (gameBar : Option GameBar) : VanguardProg Bool := do
  match ← query .openGameBar fun _ => gameBar with
  | none => return true
  | some key =>
    match ← query .queryAllowAutoGameMode fun _ => key.allowAutoGameMode with
    | some val => return val = 1
    -- Game mode is enabled by default in Windows 11
    | none => return true

/-- `query_vanguard_status`.  It asks the service manager as the gate does, but by
`QueryServiceStatusEx`. -/
def queryVanguardStatus (vgkExists : Bool) : VanguardProg (Bool × Bool) := do
  let serviceRunning ← vgcRuns .queryVgcEx
  return (vgkExists || serviceRunning, serviceRunning)

/-- `SecurityInfo::detect`. -/
def detect (gameBar : Option GameBar) (vgkExists : Bool) : VanguardProg SecurityInfo := do
  let (vbsEnabled, hvciEnabled) ← queryVbsAndHvci
  let secureBootEnabled ← querySecureBoot
  let gameModeEnabled ← queryGameMode gameBar
  let (vanguardInstalled, vanguardServiceRunning) ← queryVanguardStatus vgkExists
  return ⟨vbsEnabled, hvciEnabled, secureBootEnabled, gameModeEnabled, vanguardInstalled,
    vanguardServiceRunning⟩

end SecurityInfo

end ValOpt
