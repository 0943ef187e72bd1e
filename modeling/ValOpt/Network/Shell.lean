import ValOpt.Effect.Dialogue
import ValOpt.Ipc.Framing
import ValOpt.Network.Adapter
import ValOpt.Network.Qos
import ValOpt.Text.Lowercase

/-!
# The commands of the network layer

`network/adapter.rs`, `network/qos.rs` and `network/flow_control.rs` as the commands that they
start.  A script is a constant; what it works on is handed over in variables of the environment.
Nothing is said here of what a command does or prints: these are answers, like that of the check for
elevation.
-/

namespace ValOpt

open Effect Text Text.Json

/-- A process that is started: its program, its arguments, and the variables that are added to the
environment. -/
structure Command where
  program : String
  args : List String
  env : List (String × String)
  deriving DecidableEq, Repr

/-- How a process ended, and what it printed, as `from_utf8_lossy` reads it. -/
structure Output where
  success : Bool
  stdout : List Char
  stderr : List Char
  deriving DecidableEq, Repr

inductive ShellQuestion where
  | spawn (command : Command)
  | elevation
  deriving DecidableEq, Repr

/-- A process that cannot be started is an error with a text. -/
def ShellAnswer : ShellQuestion → Type
  | .spawn _ => Except String Output
  | .elevation => Bool

abbrev Shell (α : Type) : Type := Dialogue ShellAnswer α

namespace Shell

/-- `Command::output`. -/
def spawn (command : Command) : Shell (Except String Output) :=
  Dialogue.question (ShellQuestion.spawn command)

/-- `is_elevation_available`. -/
def isElevationAvailable : Shell Bool := Dialogue.question ShellQuestion.elevation

/-- PowerShell with a script. -/
def powershell (script : String) (env : List (String × String)) : Command :=
  ⟨"powershell", ["-NoProfile", "-NonInteractive", "-Command", script], env⟩

/-- The text that a command printed. -/
def Output.text (output : Output) : List Char := trimMatches isWhitespace output.stdout

/-- The text of an error that a command printed. -/
def Output.error (output : Output) : String :=
  String.ofList (trimMatches isWhitespace output.stderr)

variable {F : Type} (w : Wire F)

/-- `serde_json::from_str`, but for the error. -/
def fromJson {α : Type} (read : Doc (Number w.floats) → Option α) (text : List Char) : Option α :=
  (readDoc (numerals w.floats) Json.isBlank nestingLimit (bytesOf text)).bind read

/-! ### `adapter.rs` -/

/-- The JSON of `NicAdvancedProperty`. -/
def nicAdvancedProperty : Schema (Number w.floats) NicAdvancedProperty :=
  Schema.record
    (.cons "DisplayName" .str <| .cons "RegistryKeyword" .str <|
      .cons "RegistryValue" (.opt (.list .str) fun _ => nofun) <| .nil)
    (fun (name, keyword, value, _) => ⟨name, keyword, value⟩)
    (fun p => (p.displayName, p.registryKeyword, p.registryValue, ()))
    fun _ => rfl

def queryScript : String :=
  "@(Get-NetAdapterAdvancedProperty -Name $env:VAL_OPT_ADAPTER -ErrorAction Stop) | " ++
    "Select-Object DisplayName, RegistryKeyword, RegistryValue | ConvertTo-Json -Compress"

def setScript : String :=
  "Set-NetAdapterAdvancedProperty -Name $env:VAL_OPT_ADAPTER -RegistryKeyword " ++
    "$env:VAL_OPT_KEYWORD -RegistryValue $env:VAL_OPT_VALUE -NoRestart -ErrorAction Stop"

def statusScript : String := "(Get-NetAdapter -Name $env:VAL_OPT_ADAPTER -ErrorAction Stop).Status"

/-- `query_adapter_properties`. -/
def queryAdapterProperties (adapterName : String) :
    Shell (Except String (List NicAdvancedProperty)) := do
  match validateAdapterIdentifier adapterName with
  | .error e => return .error e
  | .ok () =>
    match ← spawn (powershell queryScript [("VAL_OPT_ADAPTER", adapterName)]) with
    | .error e => return .error s!"Failed to execute PowerShell adapter query: {e}"
    | .ok output =>
      if !output.success then
        return .error
          s!"Get-NetAdapterAdvancedProperty failed for '{adapterName}': {Output.error output}"
      else
        let stdout := Output.text output
        if stdout = [] ∨ stdout = "null".toList then return .ok []
        else match fromJson w (Schema.list (nicAdvancedProperty w)).read stdout with
          | none => return .error ("Failed to parse adapter properties JSON " ++
              s!"({w.serdeError stdout}): {String.ofList stdout}")
          | some properties => return .ok properties

/-- `query_property`. -/
def queryProperty (adapterName keyword : String) :
    Shell (Except String (Option NicAdvancedProperty)) := do
  match validateAdapterIdentifier adapterName, validateAdapterIdentifier keyword with
  | .error e, _ => return .error e
  | .ok (), .error e => return .error e
  | .ok (), .ok () =>
    match ← queryAdapterProperties w adapterName with
    | .error e => return .error e
    | .ok props => return .ok (props.find? fun p => eqIgnoreAsciiCase p.registryKeyword keyword)

/-- `set_adapter_property`. -/
def setAdapterProperty (adapterName keyword value : String) : Shell (Except String Unit) := do
  match validateAdapterSet adapterName keyword value with
  | .error e => return .error e
  | .ok () =>
    if !(← isElevationAvailable) then
      return .error
        "Administrator elevation required to modify network adapter advanced properties."
    else
      match ← spawn (powershell setScript [("VAL_OPT_ADAPTER", adapterName),
          ("VAL_OPT_KEYWORD", keyword), ("VAL_OPT_VALUE", value)]) with
      | .error e => return .error s!"Failed to execute Set-NetAdapterAdvancedProperty: {e}"
      | .ok output =>
        if !output.success then
          return .error s!"Failed to set '{keyword}' on '{adapterName}': {Output.error output}"
        else return .ok ()

/-- `query_adapter_link_status`. -/
def queryAdapterLinkStatus (adapterName : String) : Shell (Except String String) := do
  match validateAdapterIdentifier adapterName with
  | .error e => return .error e
  | .ok () =>
    match ← spawn (powershell statusScript [("VAL_OPT_ADAPTER", adapterName)]) with
    | .error e => return .error s!"Failed to query adapter status: {e}"
    | .ok output =>
      if !output.success then
        return .error s!"Failed to query status for '{adapterName}': {Output.error output}"
      else return .ok (String.ofList (Output.text output))

/-- The loop of `optimize_adapter_latency_properties` over one keyword table. -/
def optimizeKeywords (adapterName : String) (props : List NicAdvancedProperty) :
    List String → Shell (Except String (List AdapterPropertyBackup))
  | [] => return .ok []
  | keyword :: keywords => do
    match props.find? fun p => eqIgnoreAsciiCase p.registryKeyword keyword with
    | none => optimizeKeywords adapterName props keywords
    | some prop =>
      let currentVal := prop.firstValue.getD "0"
      if currentVal ≠ "0" then
        match ← setAdapterProperty adapterName prop.registryKeyword "0" with
        | .error e => return .error e
        | .ok () =>
          match ← optimizeKeywords adapterName props keywords with
          | .error e => return .error e
          | .ok backups =>
            return .ok (⟨adapterName, prop.registryKeyword, prop.displayName, currentVal⟩ ::
              backups)
      else optimizeKeywords adapterName props keywords

/-- `optimize_adapter_latency_properties`.  The link status is only logged. -/
def optimizeAdapterLatencyProperties (adapterName : String) :
    Shell (Except String (List AdapterPropertyBackup)) := do
  match ← queryAdapterProperties w adapterName with
  | .error e => return .error e
  | .ok props =>
    let _ ← queryAdapterLinkStatus adapterName
    match ← optimizeKeywords adapterName props eeeKeywords with
    | .error e => return .error e
    | .ok eee =>
      match ← optimizeKeywords adapterName props greenEthernetKeywords with
      | .error e => return .error e
      | .ok green =>
        let _ ← queryAdapterLinkStatus adapterName
        return .ok (eee ++ green)

/-- The loop of `restore_adapter_properties`: an error is logged and passed over. -/
def restoreProperties : List AdapterPropertyBackup → Shell Unit
  | [] => return ()
  | backup :: backups => do
    let _ ← setAdapterProperty backup.adapterName backup.keyword backup.originalValue
    restoreProperties backups

/-- `restore_adapter_properties`. -/
def restoreAdapterProperties (backups : List AdapterPropertyBackup) :
    Shell (Except String Unit) := do
  restoreProperties backups
  return .ok ()

/-! ### `qos.rs` -/

structure QosPolicyInfo where
  name : String
  appPathName : String
  protocol : String
  dscpValue : UInt8
  dstPortStart : UInt16
  dstPortEnd : UInt16
  isActive : Bool
  deriving DecidableEq, Repr

/-- A field that may have several names.  One that is missing is `null`. -/
def rawField (members : List (String × Doc (Number w.floats))) (keys : List String) :
    Option (Doc (Number w.floats)) :=
  match members.filter (·.1 ∈ keys) with
  | [] => some .null
  | [(_, d)] => some d
  | _ => none

/-- The fields of a record, by their names or, from an array, by their order. -/
def rawFields (keys : List (List String)) :
    Doc (Number w.floats) → Option (List (Doc (Number w.floats)))
  | .object members => keys.mapM (rawField w members)
  | .array ds => if ds.length = keys.length then some ds else none
  | _ => none

/-- The value of a field that may be `null`. -/
def rawValue {α : Type} (read : Doc (Number w.floats) → Option α) :
    Doc (Number w.floats) → Option (Option α)
  | .null => some none
  | d => (read d).map some

/-- An unsigned integer up to a bound. -/
def readUnsigned (bound : ℕ) : Doc (Number w.floats) → Option ℕ
  | .number (.int (.posInt n)) => if n.toNat ≤ bound then some n.toNat else none
  | _ => none

/-- The JSON of `NetQosPolicyRaw`, with what stands in for a missing field. -/
def readNetQosPolicy (policyName : String) (doc : Doc (Number w.floats)) : Option QosPolicyInfo :=
  match rawFields w [["Name"], ["AppPathName"], ["IpProtocol", "IPProtocol"],
      ["IpDstPortStart", "IPDstPortStart"], ["IpDstPortEnd", "IPDstPortEnd"],
      ["DscpValue", "DSCPValue"]] doc with
  | some [name, appPathName, protocol, dstPortStart, dstPortEnd, dscpValue] => do
    let name ← rawValue w Schema.str.read name
    let appPathName ← rawValue w Schema.str.read appPathName
    let protocol ← rawValue w Schema.str.read protocol
    let dstPortStart ← rawValue w (readUnsigned w 65535) dstPortStart
    let dstPortEnd ← rawValue w (readUnsigned w 65535) dstPortEnd
    let dscpValue ← rawValue w (readUnsigned w 255) dscpValue
    some {
      name := name.getD policyName
      appPathName := appPathName.getD ""
      protocol := protocol.getD "UDP"
      dscpValue := UInt8.ofNat (dscpValue.getD 0)
      dstPortStart := UInt16.ofNat (dstPortStart.getD 0)
      dstPortEnd := UInt16.ofNat (dstPortEnd.getD 0)
      isActive := true }
  | _ => none

def queryPolicyScript : String :=
  "Get-NetQosPolicy -Name $env:VAL_OPT_POLICY_NAME -ErrorAction SilentlyContinue | " ++
    "Select-Object Name, AppPathName, IPProtocol, IPDstPortStart, IPDstPortEnd, DSCPValue | " ++
    "ConvertTo-Json -Compress"

def setNlaScript : String :=
  "Set-ItemProperty -Path 'HKLM:\\SYSTEM\\CurrentControlSet\\Services\\Tcpip\\QoS' -Name " ++
    "'Do not use NLA' -Value $env:VAL_OPT_NLA_VAL -Force -ErrorAction SilentlyContinue"

def removePolicyScript : String :=
  "Remove-NetQosPolicy -Name $env:VAL_OPT_POLICY_NAME -Confirm:$false -ErrorAction " ++
    "SilentlyContinue"

/-- `query_qos_policy`.  A text that is no policy counts as none. -/
def queryQosPolicy (policyName : String) : Shell (Except String (Option QosPolicyInfo)) := do
  match validatePolicyName policyName with
  | .error e => return .error e
  | .ok () =>
    match ← spawn (powershell queryPolicyScript [("VAL_OPT_POLICY_NAME", policyName)]) with
    | .error e => return .error s!"Failed to query QoS policy: {e}"
    | .ok output =>
      let stdout := Output.text output
      if stdout = [] ∨ stdout = "null".toList then return .ok none
      else return .ok (fromJson w (readNetQosPolicy w policyName) stdout)

/-- `restore_nla_setting`. -/
def restoreNlaSetting (previousSetting : Option String) : Shell (Except String Unit) := do
  match previousSetting with
  | some val =>
    if val.toList.all Char.isAlphanum then
      let _ ← spawn (powershell setNlaScript [("VAL_OPT_NLA_VAL", val)])
      return .ok ()
    else return .error "Invalid NLA setting value"
  | none => return .ok ()

/-- `register_valorant_qos_policy`: no policy is registered any more. -/
def registerValorantQosPolicy : Except String QosPolicyBackup :=
  .ok ⟨defaultValorantQosPolicyName, none, false⟩

/-- `unregister_qos_policy`. -/
def unregisterQosPolicy (backup : QosPolicyBackup) : Shell (Except String Unit) := do
  match validatePolicyName backup.policyName with
  | .error e => return .error e
  | .ok () =>
    if backup.wasPolicyPresentBefore then restoreNlaSetting backup.previousNlaSetting
    else
      let _ ← spawn (powershell removePolicyScript [("VAL_OPT_POLICY_NAME", backup.policyName)])
      restoreNlaSetting backup.previousNlaSetting

/-! ### `flow_control.rs` -/

inductive FlowControlSetting where
  | disabled
  | txEnabled
  | rxEnabled
  | rxTxEnabled
  | unknown
  deriving DecidableEq, Repr

/-- `FlowControlSetting::from`. -/
def FlowControlSetting.ofCode (code : ℤ) : FlowControlSetting :=
  if code = 0 then .disabled
  else if code = 1 then .txEnabled
  else if code = 2 then .rxEnabled
  else if code = 3 then .rxTxEnabled
  else .unknown

/-- The number that is written in decimal digits. -/
def parseDigits (s : List Char) : Option ℕ :=
  if s ≠ [] ∧ s.all Char.isDigit then
    some (s.foldl (fun n c => 10 * n + (c.toNat - '0'.toNat)) 0)
  else none

/-- `str::parse::<u32>`. -/
def parseU32 (s : List Char) : Option UInt32 :=
  let digits := if s.head? = some '+' then s.tail else s
  (parseDigits digits).bind fun n => if n < 2 ^ 32 then some (UInt32.ofNat n) else none

/-- `str::parse::<i32>`. -/
def parseI32 (s : List Char) : Option ℤ :=
  if s.head? = some '-' then
    (parseDigits s.tail).bind fun n => if n ≤ 2 ^ 31 then some (-n) else none
  else
    let digits := if s.head? = some '+' then s.tail else s
    (parseDigits digits).bind fun n => if n < 2 ^ 31 then some n else none

/-- `FLOW_CONTROL_KEYWORD`. -/
def flowControlKeyword : String := "*FlowControl"

/-- `MINIMUM_RECOMMENDED_RSS_QUEUES`. -/
def minimumRecommendedRssQueues : UInt32 := 4

/-- `query_flow_control`. -/
def queryFlowControl (adapterName : String) : Shell (Except String FlowControlSetting) := do
  match ← queryProperty w adapterName flowControlKeyword with
  | .error e => return .error e
  | .ok none => return .ok .unknown
  | .ok (some p) =>
    match p.firstValue with
    | none => return .ok .unknown
    | some val => return .ok (.ofCode ((parseI32 val.toList).getD (-1)))

/-- `disable_flow_control`. -/
def disableFlowControl (adapterName : String) :
    Shell (Except String (Option AdapterPropertyBackup)) := do
  match ← queryProperty w adapterName flowControlKeyword with
  | .error e => return .error e
  | .ok none => return .ok none
  | .ok (some p) =>
    let currentVal := p.firstValue.getD "0"
    if currentVal ≠ "0" then
      match ← setAdapterProperty adapterName p.registryKeyword "0" with
      | .error e => return .error e
      | .ok () =>
        return .ok (some ⟨adapterName, p.registryKeyword, p.displayName, currentVal⟩)
    else return .ok none

/-- `str::lines`. -/
def textLines (s : List Char) : List (List Char) :=
  let parts := s.splitOn '\n'
  let parts := if parts.getLast? = some [] then parts.dropLast else parts
  parts.map fun line => if line.getLast? = some '\r' then line.dropLast else line

/-- The state that `netsh` prints: that of the first line that names it and has one colon. -/
def tcpRssState (t : CaseTable) (stdout : List Char) : Bool :=
  let states := (textLines stdout).filterMap fun line =>
    if "Receive-Side Scaling State".toList <:+: line then
      match line.splitOn ':' with
      | [_, state] => some (t.toLowercase (trimMatches isWhitespace state))
      | _ => none
    else none
  states.head? = some "enabled".toList

/-- `query_global_tcp_rss`. -/
def queryGlobalTcpRss (t : CaseTable) : Shell (Except String Bool) := do
  match ← spawn ⟨"netsh", ["int", "tcp", "show", "global"], []⟩ with
  | .error e => return .error s!"Failed to execute netsh: {e}"
  | .ok output => return .ok (tcpRssState t output.stdout)

structure RssVerificationResult where
  adapterName : String
  rssEnabled : Bool
  globalTcpRssEnabled : Bool
  numQueues : UInt32
  meetsMinimumQueues : Bool
  isOptimal : Bool
  recommendations : List String
  deriving DecidableEq, Repr

/-- The JSON of `NetAdapterRssRaw`, with what stands in for a missing field. -/
def readNetAdapterRss (doc : Doc (Number w.floats)) : Option (Bool × UInt32) :=
  match rawFields w [["Enabled"], ["NumberOfReceiveQueues"]] doc with
  | some [enabled, queues] => do
    let enabled ← rawValue w Schema.bool.read enabled
    let queues ← rawValue w (readUnsigned w 4294967295) queues
    some (enabled.getD false, UInt32.ofNat (queues.getD 0))
  | _ => none

def rssQueryScript : String :=
  "Get-NetAdapterRss -Name $env:VAL_OPT_ADAPTER -ErrorAction Stop | " ++
    "Select-Object Enabled, NumberOfReceiveQueues | ConvertTo-Json -Compress"

def enableRssScript : String :=
  "Enable-NetAdapterRss -Name $env:VAL_OPT_ADAPTER -NoRestart -ErrorAction SilentlyContinue"

/-- The fallback of `verify_rss`: the advanced properties of the adapter. -/
def rssProperties (adapterName : String) : Shell (Bool × UInt32) := do
  let enabled ← queryProperty w adapterName "*RSS"
  let queues ← queryProperty w adapterName "*NumRssQueues"
  return (enabled.toOption.join.elim false fun p => p.firstValue = some "1",
    queues.toOption.join.elim 0 fun p =>
      ((p.firstValue.bind fun v => parseU32 v.toList)).getD 0)

/-- What `verify_rss` learns of the adapter. -/
def adapterRss (adapterName : String) (output : Output) : Shell (Bool × UInt32) :=
  if output.success then
    let stdout := Output.text output
    if stdout = [] ∨ stdout = "null".toList then return (false, 0)
    else return (fromJson w (readNetAdapterRss w) stdout).getD (false, 0)
  else rssProperties w adapterName

/-- The end of `verify_rss`. -/
def rssVerdict (adapterName : String) (adapterRssEnabled globalTcpRss : Bool) (numQueues : UInt32) :
    RssVerificationResult :=
  let meetsMinimum := decide (minimumRecommendedRssQueues ≤ numQueues)
  { adapterName
    rssEnabled := adapterRssEnabled
    globalTcpRssEnabled := globalTcpRss
    numQueues
    meetsMinimumQueues := meetsMinimum
    isOptimal := adapterRssEnabled && globalTcpRss && meetsMinimum
    recommendations :=
      (if !adapterRssEnabled then [s!"Adapter RSS is disabled on '{adapterName}'. Enable it to " ++
        "avoid CPU core 0 DPC bottlenecking."] else []) ++
      (if !globalTcpRss then
        ["Global TCP RSS is disabled. Run 'netsh int tcp set global rss=enabled'."] else []) ++
      (if !meetsMinimum then [s!"Adapter only has {numQueues} RSS queues configured (recommended" ++
        " >= 4). Increase '*NumRssQueues'."] else []) }

/-- `verify_rss`. -/
def verifyRss (t : CaseTable) (adapterName : String) :
    Shell (Except String RssVerificationResult) := do
  match validateAdapterIdentifier adapterName with
  | .error e => return .error e
  | .ok () =>
    match ← spawn (powershell rssQueryScript [("VAL_OPT_ADAPTER", adapterName)]) with
    | .error e => return .error s!"Failed to execute Get-NetAdapterRss: {e}"
    | .ok output =>
      let (adapterRssEnabled, numQueues) ← adapterRss w adapterName output
      let globalTcpRss ← queryGlobalTcpRss t
      return .ok (rssVerdict adapterName adapterRssEnabled (globalTcpRss.toOption.getD false)
        numQueues)

/-- `enable_rss`. -/
def enableRss (adapterName : String) : Shell (Except String Unit) := do
  match validateAdapterIdentifier adapterName with
  | .error e => return .error e
  | .ok () =>
    if !(← isElevationAvailable) then
      return .error "Administrator elevation required to configure RSS settings."
    else
      let _ ← spawn (powershell enableRssScript [("VAL_OPT_ADAPTER", adapterName)])
      match ← spawn ⟨"netsh", ["int", "tcp", "set", "global", "rss=enabled"], []⟩ with
      | .error e => return .error s!"Failed to set global RSS: {e}"
      | .ok _ => return .ok ()

end Shell

end ValOpt
