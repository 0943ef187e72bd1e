import ValOpt.System.Call

/-!
# Audio enhancements

`optimizations/audio.rs`: every render endpoint has a `SysFx` value under its `FxProperties` key,
which may be absent.  `disableAudioEnhancements` writes 1 to all of them and returns what it found;
`restoreAudioEnhancements` writes a list of backups back, ignoring errors.
-/

namespace ValOpt

open Effect

/-- `AudioEndpointInfo`. -/
structure AudioEndpointInfo where
  id : String
  name : String
  enhancementsDisabled : Bool
  deriving DecidableEq, Repr

/-- The name in `query_endpoint_details`, from the `Properties` key. -/
def queryEndpointName (id : String) : Prog String := do
  match ← readMachine (.openProperties id) fun _ => some () with
  | .error _ => return "Audio Endpoint"
  | .ok () =>
    match ← readMachine (.queryFriendlyName id) fun m => m.friendlyName id with
    | .ok name => return name
    | .error _ => return "Audio Endpoint"

/-- The flag in `query_endpoint_details`: whether the `SysFx` value is 1. -/
def queryEndpointDisabled (id : String) : Prog Bool := do
  match ← readMachine (.openFxProperties id) fun m => m.fxProperties id with
  | .error _ => return false
  | .ok _ =>
    match ← readMachine (.queryFx id) fun m => m.sysFx id with
    | .ok data => return data == 1
    | .error _ => return false

/-- `query_endpoint_details`. -/
def queryEndpointDetails (id : String) : Prog (String × Bool) := do
  let name ← queryEndpointName id
  let disabled ← queryEndpointDisabled id
  return (name, disabled)

/-- The loop of `enumerate_render_endpoints`: `rest` are the sub-keys from `index` on.  The first
failing `RegEnumKeyExW`, at the latest the one past the last sub-key, ends it. -/
def enumerateFrom (index : ℕ) : List String → Prog (List AudioEndpointInfo)
  | [] => do
    let _ ← readMachine (.enumRender index) fun _ => (none : Option String)
    return []
  | id :: rest => do
    match ← readMachine (.enumRender index) fun _ => some id with
    | .error _ => return []
    | .ok id =>
      let (name, disabled) ← queryEndpointDetails id
      let infos ← enumerateFrom (index + 1) rest
      return ⟨id, name, disabled⟩ :: infos

/-- `enumerate_render_endpoints`. -/
def enumerateRenderEndpoints : Prog (Except String (List AudioEndpointInfo)) := do
  match ← readMachine .openRender fun m => some m.endpoints with
  | .error _ => return .ok []
  | .ok endpoints => return .ok (← enumerateFrom 0 endpoints)

/-- The body of the loop of `disable_audio_enhancements`. -/
def disableEndpoint (endpoint : AudioEndpointInfo) : Prog (Option AudioEndpointBackup) := do
  let id := endpoint.id
  match ← writeMachine (.createFxProperties id)
      fun m => some (m.setFxProperties id (m.sysFx id)) with
  | .error _ => return none
  | .ok () =>
    let originalDisabledState := match ← readMachine (.queryOriginalFx id) fun m => m.sysFx id with
      | .ok origVal => some origVal
      | .error _ => none
    match ← writeMachine (.setFx id) fun m => some (m.setFxProperties id (some 1)) with
    | .ok () => return some ⟨id, endpoint.name, originalDisabledState⟩
    | .error _ => return none

/-- The loop of `disable_audio_enhancements`. -/
def disableEndpoints : List AudioEndpointInfo → Prog (List AudioEndpointBackup)
  | [] => return []
  | endpoint :: rest => do
    let backup ← disableEndpoint endpoint
    let backups ← disableEndpoints rest
    return backup.toList ++ backups

/-- `disable_audio_enhancements`. -/
def disableAudioEnhancements : Prog (Except String (List AudioEndpointBackup)) := do
  match ← enumerateRenderEndpoints with
  | .error e => return .error e
  | .ok endpoints => return .ok (← disableEndpoints endpoints)

/-- The body of the loop of `restore_audio_enhancements`.  Deleting a value that is absent is an
error of `RegDeleteValueW`, which the code ignores; the value is absent afterwards either way. -/
def restoreEndpoint (index : ℕ) (backup : AudioEndpointBackup) : Prog Unit := do
  let id := backup.endpointId
  match ← readMachine (.reopenFxProperties index) fun m => m.fxProperties id with
  | .error _ => return ()
  | .ok _ =>
    let _ ← writeMachine (.restoreFx index)
      fun m => some (m.setFxProperties id backup.originalDisabledState)
    return ()

/-- `restore_audio_enhancements`. -/
def restoreAudioEnhancements (backups : List AudioEndpointBackup) : Prog (Except String Unit) := do
  Eff.forEach restoreEndpoint 0 backups
  return .ok ()

end ValOpt
