import ValOpt.System.Call

/-!
# Power schemes

`optimizations/power.rs`: on a desktop the Ultimate Performance plan is activated, or High
Performance where the former is not installed; a laptop keeps its plan.
-/

namespace ValOpt

open Effect

/-- `is_laptop`, from the battery flag of `GetSystemPowerStatus`. -/
def Machine.isLaptop (m : Machine) : Bool :=
  match m.batteryFlag with
  | some flag => flag != 128 && flag != 255
  | none => false

/-- `is_laptop`. -/
def isLaptop : Prog Bool := do
  match ← readMachine .getSystemPowerStatus fun m => m.batteryFlag with
  | .ok flag => return flag != 128 && flag != 255
  | .error _ => return false

/-- `get_active_power_scheme`. -/
def getActivePowerScheme : Prog (Except String Guid) := do
  match ← readMachine .getActiveScheme fun m => some m.activeScheme with
  | .ok g => return .ok g
  | .error e => return .error s!"Failed to retrieve active power scheme (Win32 error: {e})"

/-- The `{:?}` text of a GUID, in capitals. -/
def guidDebug (g : Guid) : String := String.ofList ((guidToString g).toList.map Char.toUpper)

/-- `set_active_power_scheme`. -/
def setActivePowerScheme (g : Guid) : Prog (Except String Unit) := do
  match ← writeMachine (.setActiveScheme g) fun m => m.setActiveScheme g with
  | .ok () => return .ok ()
  | .error e =>
    return .error s!"Failed to activate power scheme {guidDebug g} (Win32 error: {e})"

/-- `apply_gaming_power_scheme`: the scheme that was active before. -/
def applyGamingPowerScheme : Prog (Except String Guid) := do
  match ← getActivePowerScheme with
  | .error e => return .error e
  | .ok originalGuid =>
    if ← isLaptop then
      return .ok originalGuid
    else
      match ← setActivePowerScheme ultimatePerformanceGuid with
      | .ok () => return .ok originalGuid
      | .error _ =>
        match ← setActivePowerScheme highPerformanceGuid with
        | .ok () => return .ok originalGuid
        | .error e => return .error e

/-- `restore_power_scheme`. -/
def restorePowerScheme (g : Guid) : Prog (Except String Unit) := setActivePowerScheme g

end ValOpt
