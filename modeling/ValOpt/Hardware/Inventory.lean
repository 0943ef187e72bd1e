import Mathlib.Data.List.MinMax
import Mathlib.Data.Prod.Lex
import ValOpt.Text.Utf16

/-!
# The hardware inventory

`hardware/gpu.rs`, `display.rs`, `network.rs` and `memory.rs`: what the system manifest lists, and
which entry of a list is the primary one.  What Windows answers is given for each of them: the
entries in the order of their enumeration, with `none` where a further call about one fails.
-/

namespace ValOpt

open Text

/-- `Iterator::max_by_key`: the last of the elements with the highest key. -/
def maxByKey {α κ : Type*} [LinearOrder κ] (key : α → κ) (l : List α) : Option α :=
  l.reverse.argmax key

/-- A text that Windows leaves in a buffer of fixed size. -/
def bufferText (units : List UInt16) : List Char := trimMatches (· = '\x00') (fromUtf16Lossy units)

/-! ### Graphics -/

structure GpuInfo where
  name : String
  vendor : String
  vendorId : UInt32
  deviceId : UInt32
  dedicatedVramMb : UInt64
  driverVersion : Option String
  isPrimary : Bool
  deriving DecidableEq, Repr

/-- `DXGI_ADAPTER_DESC1`, as far as it is read. -/
structure AdapterDesc where
  description : List UInt16
  vendorId : UInt32
  deviceId : UInt32
  dedicatedVideoMemory : UInt64
  flags : UInt32
  deriving DecidableEq, Repr

/-- A subkey of the display class with its two values. -/
structure DriverKey where
  opens : Bool
  driverDesc : Option (List UInt8)
  driverVersion : Option (List UInt8)
  deriving DecidableEq, Repr

/-- The answers of DXGI and of the display class in the registry, if that can be opened. -/
structure GraphicsQuery where
  factory : Except String Unit
  adapters : List (Option AdapterDesc)
  driverKeys : Option (List DriverKey)

def vendorName (vendorId : UInt32) : String :=
  match vendorId with
  | 0x1002 => "AMD"
  | 0x10DE => "NVIDIA"
  | 0x8086 => "Intel"
  | 0x1414 => "Microsoft"
  | _ => "Unknown"

/-- One turn of the loop of `query_driver_version`. -/
def DriverKey.versionFor (key : DriverKey) (gpuName : String) : Option String :=
  if key.opens then
    match key.driverDesc with
    | none => none
    | some desc =>
      let installedName := String.ofList (bufferText (unitsOf desc))
      if containsStr installedName gpuName || containsStr gpuName installedName then
        key.driverVersion.map fun version =>
          String.ofList (trimMatches isWhitespace (bufferText (unitsOf version)))
      else none
  else none

/-- `query_driver_version`. -/
def GraphicsQuery.queryDriverVersion (q : GraphicsQuery) (gpuName : String) : Option String :=
  q.driverKeys.bind fun keys => keys.findSome? fun key => key.versionFor gpuName

/-- One turn of the loop of `detect_dxgi_adapters`; software adapters are left out. -/
def GraphicsQuery.adapterAt (q : GraphicsQuery) (desc : Option AdapterDesc) (index : ℕ) :
    Option GpuInfo :=
  desc.bind fun desc =>
    if desc.flags &&& 2 ≠ 0 then none
    else
      let name := String.ofList (trimMatches isWhitespace (bufferText desc.description))
      some {
        name
        vendor := vendorName desc.vendorId
        vendorId := desc.vendorId
        deviceId := desc.deviceId
        dedicatedVramMb := desc.dedicatedVideoMemory / (1024 * 1024)
        driverVersion := q.queryDriverVersion name
        isPrimary := index = 0 }

namespace GpuInfo

/-- `detect_dxgi_adapters`. -/
def detectAll (q : GraphicsQuery) : Except String (List GpuInfo) :=
  match q.factory with
  | .error e => .error s!"CreateDXGIFactory1 failed: {e}"
  | .ok () =>
    let adapters := q.adapters.zipIdx.filterMap fun (desc, index) => q.adapterAt desc index
    if adapters.isEmpty then .error "No hardware graphics adapters found" else .ok adapters

/-- `GpuInfo::detect_primary`. -/
def detectPrimary (q : GraphicsQuery) : Except String GpuInfo := do
  let gpus ← detectAll q
  match maxByKey (·.dedicatedVramMb.toNat) gpus with
  | some gpu => .ok gpu
  | none => .error "No active display adapter detected via DXGI"

end GpuInfo

/-! ### Displays -/

structure DisplayInfo where
  deviceName : String
  width : UInt32
  height : UInt32
  refreshRateHz : UInt32
  bitsPerPixel : UInt32
  isPrimary : Bool
  deriving DecidableEq, Repr

/-- The current `DEVMODEW` of a display, as far as it is read. -/
structure DisplayMode where
  pelsWidth : UInt32
  pelsHeight : UInt32
  displayFrequency : UInt32
  bitsPerPel : UInt32
  deriving DecidableEq, Repr

/-- A display device with its current settings. -/
structure DisplayDevice where
  stateFlags : UInt32
  deviceName : List UInt16
  settings : Option DisplayMode
  deriving DecidableEq, Repr

/-- One turn of the loop of `detect_windows_displays`. -/
def DisplayDevice.info (device : DisplayDevice) : Option DisplayInfo :=
  if device.stateFlags &&& 0x00000001 ≠ 0 then
    device.settings.map fun mode => {
      deviceName := String.ofList (trimMatches isWhitespace (bufferText device.deviceName))
      width := mode.pelsWidth
      height := mode.pelsHeight
      refreshRateHz := mode.displayFrequency
      bitsPerPixel := mode.bitsPerPel
      isPrimary := device.stateFlags &&& 0x00000004 ≠ 0 }
  else none

namespace DisplayInfo

/-- `detect_windows_displays`. -/
def detectAll (devices : List DisplayDevice) : Except String (List DisplayInfo) :=
  let displays := devices.filterMap (·.info)
  if displays.isEmpty then .error "No active attached displays detected" else .ok displays

/-- `DisplayInfo::detect_primary`. -/
def detectPrimary (devices : List DisplayDevice) : Except String DisplayInfo := do
  let displays ← detectAll devices
  match displays.find? (·.isPrimary) with
  | some display => .ok display
  | none => .error "No primary display found"

end DisplayInfo

/-! ### Networks -/

structure NetworkAdapterInfo where
  adapterName : String
  description : String
  isEthernet : Bool
  isWifi : Bool
  isActive : Bool
  linkSpeedMbps : UInt64
  ipv4Address : Option String
  deriving DecidableEq, Repr

/-- The socket address of a unicast address, as far as it is read. -/
structure SocketAddress where
  family : UInt16
  address : UInt32
  deriving DecidableEq, Repr

/-- `IP_ADAPTER_ADDRESSES_LH`, as far as it is read; texts and addresses may be null. -/
structure AdapterEntry where
  friendlyName : Option (List UInt16)
  description : Option (List UInt16)
  ifType : UInt32
  operStatus : Int32
  transmitLinkSpeed : UInt64
  unicast : List (Option SocketAddress)

/-- The first answer of `GetAdaptersAddresses`, and that to a larger buffer. -/
structure NetworkQuery where
  fill : Except UInt32 (List AdapterEntry)
  retry : Except UInt32 (List AdapterEntry)

/-- An address in dotted form, its lowest byte first. -/
def dotted (address : UInt32) : String :=
  let byte (place : ℕ) := toString (address.toNat / place % 256)
  s!"{byte 1}.{byte 0x100}.{byte 0x10000}.{byte 0x1000000}"

/-- `PWSTR::to_string` of a text that may be null. -/
def wideText (units : Option (List UInt16)) : String :=
  String.ofList ((units.bind fromUtf16).getD [])

/-- One turn of the loop of `detect_windows_adapters`. -/
def AdapterEntry.info (entry : AdapterEntry) : Option NetworkAdapterInfo :=
  let isEthernet := entry.ifType = 6
  let isWifi := entry.ifType = 71
  if isEthernet ∨ isWifi then
    some {
      adapterName := wideText entry.friendlyName
      description := wideText entry.description
      isEthernet
      isWifi
      isActive := entry.operStatus = 1
      linkSpeedMbps := entry.transmitLinkSpeed / 1000000
      ipv4Address := entry.unicast.findSome? fun address =>
        (address.filter (·.family = 2)).map (dotted ·.address) }
  else none

namespace NetworkAdapterInfo

/-- `detect_windows_adapters`. -/
def detectAll (q : NetworkQuery) : Except String (List NetworkAdapterInfo) :=
  match q.fill with
  | .ok entries => .ok (entries.filterMap (·.info))
  | .error _ =>
    match q.retry with
    | .ok entries => .ok (entries.filterMap (·.info))
    | .error code => .error s!"GetAdaptersAddresses failed with error code {code}"

/-- The key by which `detect_primary` compares: Ethernet before others, then the speed of the
link. -/
def key (a : NetworkAdapterInfo) : ℕ ×ₗ ℕ :=
  toLex (if a.isEthernet then 1 else 0, a.linkSpeedMbps.toNat)

/-- `NetworkAdapterInfo::detect_primary`. -/
def detectPrimary (q : NetworkQuery) : Except String NetworkAdapterInfo := do
  let adapters ← detectAll q
  match maxByKey key (adapters.filter (·.isActive)) with
  | some adapter => .ok adapter
  | none => .error "No active network adapter found"

end NetworkAdapterInfo

/-! ### Memory -/

structure MemoryInfo where
  totalPhysicalMb : UInt64
  availablePhysicalMb : UInt64
  memoryLoadPercent : UInt32
  totalVirtualMb : UInt64
  availableVirtualMb : UInt64
  deriving DecidableEq, Repr

/-- `MEMORYSTATUSEX`, as far as it is read. -/
structure MemoryStatus where
  totalPhys : UInt64
  availPhys : UInt64
  memoryLoad : UInt32
  totalVirtual : UInt64
  availVirtual : UInt64
  deriving DecidableEq, Repr

/-- `MemoryInfo::detect`. -/
def MemoryInfo.detect (status : Except String MemoryStatus) : Except String MemoryInfo :=
  match status with
  | .error e => .error s!"GlobalMemoryStatusEx failed: {e}"
  | .ok status =>
    let mb := 1024 * 1024
    .ok {
      totalPhysicalMb := status.totalPhys / mb
      availablePhysicalMb := status.availPhys / mb
      memoryLoadPercent := status.memoryLoad
      totalVirtualMb := status.totalVirtual / mb
      availableVirtualMb := status.availVirtual / mb }

end ValOpt
