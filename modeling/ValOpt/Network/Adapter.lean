import ValOpt.System.Call

/-!
# Network adapter properties

`network/adapter.rs`: the power-saving properties of an adapter are set to "0" and can be written
back from a list of backups.  Every call first passes the character allowlists of
`validateAdapterIdentifier` and `validatePropertyValue`.
-/

namespace ValOpt

open Effect Text

/-- `EEE_KEYWORDS`. -/
def eeeKeywords : List String := ["*EEE", "*AdvancedEEE", "*EEELinkAdvertisement"]

/-- `GREEN_ETHERNET_KEYWORDS`. -/
def greenEthernetKeywords : List String :=
  ["*GreenEthernet", "GreenEthernet", "PowerSavingMode", "AutoDisableGigabit", "GigaLite"]

/-- The characters `validate_adapter_identifier` lets pass. -/
def isIdentifierChar (c : Char) : Bool :=
  c.isAlphanum || c == '_' || c == '-' || c == '.' || c == '*' || c == ' ' || c == '(' || c == ')'

/-- The characters `validate_property_value` lets pass. -/
def isValueChar (c : Char) : Bool :=
  c.isAlphanum || c == '_' || c == '-' || c == '.' || c == ' '

/-- `validate_adapter_identifier`: the first bad character is named. -/
def validateAdapterIdentifier (input : String) : Except String Unit :=
  if input = "" ∨ 256 < input.utf8ByteSize then
    .error "Adapter identifier must be between 1 and 256 characters"
  else match input.toList.find? fun c => !isIdentifierChar c with
    | some c => .error s!"Invalid character '{c}' in adapter identifier: {input}"
    | none => .ok ()

/-- `validate_property_value`. -/
def validatePropertyValue (value : String) : Except String Unit :=
  if 256 < value.utf8ByteSize then
    .error "Property value exceeds maximum length of 256 characters"
  else match value.toList.find? fun c => !isValueChar c with
    | some c => .error s!"Invalid character '{c}' in property value: {value}"
    | none => .ok ()

/-- The end of `query_adapter_properties`.  Of a single property the bare object is printed, which
is no list. -/
def parseProperties (properties : List NicAdvancedProperty) :
    Prog (Except String (List NicAdvancedProperty)) := do
  match ← readMachine .parseAdapter fun _ =>
      if properties.length = 1 then none else some properties with
  -- the text of the error has the one of the parser and what was printed
  | .error e => return .error s!"Failed to parse adapter properties JSON {e}"
  | .ok properties => return .ok properties

/-- `query_adapter_properties`. -/
def queryAdapterProperties (adapterName : String) :
    Prog (Except String (List NicAdvancedProperty)) := do
  match validateAdapterIdentifier adapterName with
  | .error e => return .error e
  | .ok () =>
    match ← readMachine .spawnAdapterQuery fun _ => some () with
    | .error e => return .error s!"Failed to execute PowerShell adapter query: {e}"
    | .ok () =>
      match ← readMachine .queryAdapter fun m => (m.adapters adapterName).map (·.rows) with
      | .error e =>
        return .error s!"Get-NetAdapterAdvancedProperty failed for '{adapterName}': {e}"
      | .ok properties => parseProperties properties

/-- The checks of `set_adapter_property`, in its order. -/
def validateAdapterSet (adapterName keyword value : String) : Except String Unit := do
  validateAdapterIdentifier adapterName
  validateAdapterIdentifier keyword
  validatePropertyValue value

/-- `set_adapter_property`, as the call number `index` of its caller. -/
def setAdapterProperty (index : ℕ) (adapterName keyword value : String) :
    Prog (Except String Unit) := do
  match validateAdapterSet adapterName keyword value with
  | .error e => return .error e
  | .ok () =>
    match ← readMachine (.elevationOfSet index) fun _ => some () with
    | .error _ =>
      return .error
        "Administrator elevation required to modify network adapter advanced properties."
    | .ok () =>
      match ← readMachine (.spawnAdapterSet index) fun _ => some () with
      | .error e => return .error s!"Failed to execute Set-NetAdapterAdvancedProperty: {e}"
      | .ok () =>
        match ← writeMachine (.setAdapter index)
            fun m => m.setAdapter adapterName keyword value with
        | .error e => return .error s!"Failed to set '{keyword}' on '{adapterName}': {e}"
        | .ok () => return .ok ()

/-- The loop of `optimize_adapter_latency_properties` over one keyword table, from the call number
`index` on: a property that is listed and not "0" is backed up and set to "0". -/
def optimizeKeywords (adapterName : String) (props : List NicAdvancedProperty) :
    (index : ℕ) → List String → Prog (Except String (List AdapterPropertyBackup))
  | _, [] => return .ok []
  | index, keyword :: keywords => do
    match props.find? fun p => eqIgnoreAsciiCase p.registryKeyword keyword with
    | none => optimizeKeywords adapterName props (index + 1) keywords
    | some prop =>
      let currentVal := prop.firstValue.getD "0"
      if currentVal ≠ "0" then
        match ← setAdapterProperty index adapterName prop.registryKeyword "0" with
        | .error e => return .error e
        | .ok () =>
          match ← optimizeKeywords adapterName props (index + 1) keywords with
          | .error e => return .error e
          | .ok backups =>
            return .ok (⟨adapterName, prop.registryKeyword, prop.displayName, currentVal⟩ ::
              backups)
      else optimizeKeywords adapterName props (index + 1) keywords

/-- `optimize_adapter_latency_properties`. -/
def optimizeAdapterLatencyProperties (adapterName : String) :
    Prog (Except String (List AdapterPropertyBackup)) := do
  match ← queryAdapterProperties adapterName with
  | .error e => return .error e
  | .ok props =>
    match ← optimizeKeywords adapterName props 0 eeeKeywords with
    | .error e => return .error e
    | .ok eee =>
      match ← optimizeKeywords adapterName props eeeKeywords.length greenEthernetKeywords with
      | .error e => return .error e
      | .ok green => return .ok (eee ++ green)

/-- The body of the loop of `restore_adapter_properties`: an error is logged and passed over. -/
def restoreProperty (index : ℕ) (backup : AdapterPropertyBackup) : Prog Unit := do
  let _ ← setAdapterProperty index backup.adapterName backup.keyword backup.originalValue
  return ()

/-- `restore_adapter_properties`. -/
def restoreAdapterProperties (backups : List AdapterPropertyBackup) :
    Prog (Except String Unit) := do
  Eff.forEach restoreProperty 0 backups
  return .ok ()

end ValOpt
