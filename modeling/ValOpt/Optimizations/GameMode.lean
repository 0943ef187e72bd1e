import ValOpt.System.Call

/-!
# Windows Game Mode

`optimizations/game_mode.rs`: the state of Game Mode is read from `AllowAutoGameMode` alone, and
written to both values of the `GameBar` key.
-/

namespace ValOpt

open Effect

/-- What a `GameBar` key says: Game Mode is on unless `AllowAutoGameMode` is present and zero. -/
def GameBar.reading (k : GameBar) : Bool :=
  match k.allowAutoGameMode with
  | some data => data != 0
  | none => true

/-- The Game Mode state of a machine; without a key it is on. -/
def Machine.gameMode (m : Machine) : Bool :=
  match m.gameBar with
  | some k => k.reading
  | none => true

/-- `get_game_mode_state`. -/
def getGameModeState : Prog (Except String Bool) := do
  match ← readMachine .openGameBar fun m => m.gameBar with
  | .error _ => return .ok true
  | .ok _ =>
    match ← readMachine .queryAllowAutoGameMode fun m => m.gameBar.bind (·.allowAutoGameMode) with
    | .ok data => return .ok (data != 0)
    | .error _ => return .ok true

/-- `set_game_mode`.  Only if both writes fail does the caller hear of it. -/
def setGameMode (enable : Bool) : Prog (Except String Bool) := do
  let previousState := match ← getGameModeState with
    | .ok s => s
    | .error _ => true
  match ← writeMachine .createGameBar fun m => some m.createGameBar with
  | .error e =>
    return .error s!"Failed to open/create HKCU\\Software\\Microsoft\\GameBar (Win32 error: {e})"
  | .ok () =>
    let val : UInt32 := if enable then 1 else 0
    let setStatus1 ← writeMachine .setAllowAutoGameMode fun m => m.setAllowAutoGameMode val
    let setStatus2 ← writeMachine .setAutoGameModeEnabled fun m => m.setAutoGameModeEnabled val
    match setStatus1, setStatus2 with
    | .error _, .error _ => return .error "Failed to write Game Mode registry values"
    | _, _ => return .ok previousState

/-- `restore_game_mode`. -/
def restoreGameMode (previousState : Bool) : Prog (Except String Unit) := do
  match ← setGameMode previousState with
  | .error e => return .error e
  | .ok _ => return .ok ()

end ValOpt
