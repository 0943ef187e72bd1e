import Mathlib.Data.List.Infix
import ValOpt.Effect.Trace
import ValOpt.Models.Snapshot
import ValOpt.Process.Services
import ValOpt.Text.Utf16

/-!
# The Vanguard gate

`safety/vanguard_check.rs`: five probes look at the service manager, the list of drivers and the
registry, and `check` puts them together.  No probe tells why a call failed, so that a failed call
answers nothing (`query`).

The last calls of `VanguardCall`, from `VanguardCall.openHvci` on, are those that no probe makes:
only the inspection of the system does.
-/

namespace ValOpt.VanguardChecker

open Effect Text

/-! ### The system -/

/-- A loaded driver: its address, and its name in UTF-16. -/
structure Driver where
  base : UInt64
  name : List UInt16
  deriving DecidableEq, Repr

/-- What the probes look at.  `registry` gives the values of each key of `HKEY_LOCAL_MACHINE`. -/
structure VanguardSystem where
  vgc : Option UInt32
  drivers : List Driver
  registry : String → Option (String → Option Bytes)

inductive VanguardCall where
  | openScm
  | openVgc
  | queryVgc
  | enumDrivers
  | driverName (index : ℕ)
  | openControl
  | queryStartOptions
  | openSecureBoot
  | querySecureBoot
  | openDeviceGuard
  | queryVbs
  | openHvci
  | queryHvci
  | openGameBar
  | queryAllowAutoGameMode
  | queryVgcEx
  deriving DecidableEq, Repr

abbrev VanguardProg := Eff VanguardCall VanguardSystem

/-- A call that looks at the system. -/
def query {α : Type} (c : VanguardCall) (f : VanguardSystem → Option α) :
    VanguardProg (Option α) := do
  match ← perform c (.read f) with
  | .ok a => return some a
  | .error _ => return none

/-- A value of the registry, and the calls that read it into a buffer of this size. -/
structure RegistryProbe where
  openCall : VanguardCall
  queryCall : VanguardCall
  key : String
  value : String
  capacity : ℕ
  deriving DecidableEq, Repr

namespace RegistryProbe

/-- The data of the value, if there is room for it. -/
def data (p : RegistryProbe) (s : VanguardSystem) : Option Bytes :=
  ((s.registry p.key).bind fun values => values p.value).filter fun b => b.length ≤ p.capacity

/-- `RegOpenKeyExW` and `RegQueryValueExW`. -/
def read (p : RegistryProbe) : VanguardProg (Option Bytes) := do
  match ← query p.openCall fun s => (s.registry p.key).map fun _ => () with
  | none => return none
  | some () => query p.queryCall p.data

end RegistryProbe

/-- A number that was read into four zero bytes. -/
def dwordOf (data : Bytes) : ℕ := data.foldr (fun b n => b.toNat + 256 * n) 0

/-! ### The probes -/

/-- Whether the service manager reports the service as running, when it is asked by this call. -/
def vgcRuns (statusCall : VanguardCall) : VanguardProg Bool := do
  match ← query .openScm fun _ => some () with
  | none => return false
  | some () =>
    match ← query .openVgc fun s => s.vgc.map fun _ => () with
    | none => return false
    | some () =>
      match ← query statusCall fun s => s.vgc with
      | some state => return state = serviceRunning
      | none => return false

/-- `is_vgc_running`, which calls `QueryServiceStatus`. -/
def isVgcRunning : VanguardProg Bool := vgcRuns .queryVgc

/-- The name that the buffer of 256 units gets is that of the Vanguard driver. -/
def isVgkName (name : List UInt16) : Bool :=
  let name := name.take 256
  0 < name.length && eqIgnoreAsciiCase (String.ofList (fromUtf16Lossy name)) "vgk.sys"

/-- The loop of `is_vgk_loaded`. -/
def findVgk (index : ℕ) : List Driver → VanguardProg Bool
  | [] => return false
  | driver :: drivers => do
    if driver.base = 0 then findVgk (index + 1) drivers
    else
      match ← query (.driverName index) fun _ => some driver.name with
      | none => findVgk (index + 1) drivers
      | some name => if isVgkName name then return true else findVgk (index + 1) drivers

/-- `is_vgk_loaded`.  The buffer has room for 1024 drivers. -/
def isVgkLoaded : VanguardProg Bool := do
  match ← query .enumDrivers fun s => some (s.drivers.take 1024) with
  | none => return false
  | some drivers => findVgk 0 drivers

/-- `SystemStartOptions`. -/
def startOptions : RegistryProbe :=
  ⟨.openControl, .queryStartOptions, "SYSTEM\\CurrentControlSet\\Control", "SystemStartOptions", 1024⟩

/-- The options name test signing. -/
def hasTestSigning (data : Bytes) : Bool :=
  let options := trimMatches (· = '\x00') (fromUtf16Lossy (unitsOf data))
  0 < data.length && decide ("TESTSIGNING".toList <:+: toUppercase options)

/-- `is_test_signing_disabled`. -/
def isTestSigningDisabled : VanguardProg (Bool × Option String) := do
  match ← startOptions.read with
  | none => return (true, none)
  | some data =>
    if hasTestSigning data then
      return (false, some "Windows Test Signing (TESTSIGNING) is enabled in BCD")
    else return (true, none)

/-- `UEFISecureBootEnabled`. -/
def secureBoot : RegistryProbe :=
  ⟨.openSecureBoot, .querySecureBoot, "SYSTEM\\CurrentControlSet\\Control\\SecureBoot\\State",
    "UEFISecureBootEnabled", 4⟩

/-- `is_secure_boot_enabled`. -/
def isSecureBootEnabled : VanguardProg Bool := do
  match ← secureBoot.read with
  | some data => return dwordOf data = 1
  | none => return false

/-- `EnableVirtualizationBasedSecurity`. -/
def vbs : RegistryProbe :=
  ⟨.openDeviceGuard, .queryVbs, "SYSTEM\\CurrentControlSet\\Control\\DeviceGuard",
    "EnableVirtualizationBasedSecurity", 4⟩

/-- The setting of HVCI, which `is_vbs_hvci_intact` does not look at. -/
def hvci : RegistryProbe :=
  ⟨.openHvci, .queryHvci,
    "SYSTEM\\CurrentControlSet\\Control\\DeviceGuard\\Scenarios\\HypervisorEnforcedCodeIntegrity",
    "Enabled", 4⟩

/-- `is_vbs_hvci_intact`. -/
def isVbsHvciIntact : VanguardProg (Bool × Option String) := do
  match ← vbs.read with
  | some data =>
    -- If explicitly set to 0, VBS was manually disabled.
    if dwordOf data = 0 then
      return (false,
        some "Virtualization-Based Security (VBS) is explicitly disabled in registry")
    else return (true, none)
  | none => return (true, none)

/-! ### The check -/

/-- `VanguardComplianceReport`. -/
structure VanguardComplianceReport where
  vgcServiceRunning : Bool
  vgkDriverLoaded : Bool
  testSigningDisabled : Bool
  secureBootEnabled : Bool
  vbsHvciIntact : Bool
  isCompliant : Bool
  violations : List String
  deriving DecidableEq, Repr

/-- The violations that the probes found. -/
def violations (vgcRunning vgkLoaded : Bool) (testSigning : Bool × Option String)
    (secureBoot : Bool) (vbs : Bool × Option String) : List String :=
  (if vgcRunning then [] else ["Riot Vanguard service (vgc) is not running"]) ++
  (if vgkLoaded then [] else ["Riot Vanguard kernel driver (vgk.sys) is not loaded"]) ++
  (if testSigning.1 then []
    else [testSigning.2.getD "Windows Test Signing is enabled (prohibited by Vanguard)"]) ++
  (if secureBoot then []
    else ["UEFI Secure Boot is disabled (required by Vanguard on Windows 11)"]) ++
  (if vbs.1 then []
    else [vbs.2.getD "VBS / HVCI (Memory Integrity) is disabled or compromised"])

/-- `VanguardChecker::check`. -/
def check : VanguardProg VanguardComplianceReport := do
  let vgcRunning ← isVgcRunning
  let vgkLoaded ← isVgkLoaded
  let testSigning ← isTestSigningDisabled
  let secureBoot ← isSecureBootEnabled
  let vbs ← isVbsHvciIntact
  let violations := violations vgcRunning vgkLoaded testSigning secureBoot vbs
  return ⟨vgcRunning, vgkLoaded, testSigning.1, secureBoot, vbs.1, violations.isEmpty, violations⟩

/-- `VanguardComplianceError::IntegrityCompromised`. -/
structure VanguardComplianceError where
  count : ℕ
  violations : String
  report : VanguardComplianceReport
  deriving DecidableEq, Repr

/-- The text of the error. -/
def VanguardComplianceError.text (e : VanguardComplianceError) : String :=
  s!"Riot Vanguard anti-cheat prerequisite check failed with {e.count} violation(s):\n{e.violations}"

/-- `ensure_compliant`, where `bypass` is the value of `VAL_OPT_BYPASS_VANGUARD_DEV`. -/
def ensureCompliant (bypass : Option String) (allowDevOverride : Bool) :
    VanguardProg (Except VanguardComplianceError VanguardComplianceReport) := do
  let report ← check
  let bypassEnv := bypass.any fun v => v = "1" || eqIgnoreAsciiCase v "true"
  if !report.isCompliant then
    if allowDevOverride || bypassEnv then return .ok report
    else
      let violations := "\n".intercalate (report.violations.map fun v => s!"  * {v}")
      return .error ⟨report.violations.length, violations, report⟩
  else return .ok report

end ValOpt.VanguardChecker
