import Mathlib.Data.List.AList
import ValOpt.Ipc.Message
import ValOpt.Text.Str

/-!
# The driver isolator

`latency/driver_isolator.rs`: kernel routines are attributed to the loaded drivers by their
addresses, and what was executed is added up for each driver name.
-/

namespace ValOpt

variable {F : Type}

/-- `OFFENDING_DRIVER_THRESHOLD_US`. -/
def offendingDriverThresholdUs : UInt64 := 500

structure LoadedDriver where
  baseAddress : UInt64
  name : String
  path : String
  isVerifiedBase : Bool
  deriving DecidableEq, Repr

/-- What the averages take from floating-point arithmetic: `0.0`, and the quotient of two `u64`. -/
structure Averages (F : Type) where
  zero : F
  ratio : UInt64 → UInt64 → F

/-- The statistics by driver name. -/
abbrev DriverStats (F : Type) : Type := AList fun _ : String => DriverLatencyStat F

/-! ### The list of drivers -/

/-- `sort_by_key` of the base address, which is stable. -/
def sortByBase (drivers : List LoadedDriver) : List LoadedDriver :=
  drivers.mergeSort fun d e => d.baseAddress ≤ e.baseAddress

/-- What the enumeration tells of a driver: its address, and its name and path if they can be
read. -/
structure DeviceDriver where
  address : UInt64
  baseName : Option String
  fileName : Option String

/-- The format `{:p}` of an address. -/
def pointerText (address : UInt64) : String :=
  "0x" ++ String.ofList (Nat.toDigits 16 address.toNat)

/-- A driver of `EnumDeviceDrivers`. -/
def DeviceDriver.loaded (d : DeviceDriver) : LoadedDriver :=
  let name := d.baseName.getD s!"driver_{pointerText d.address}"
  ⟨d.address, name, d.fileName.getD name, true⟩

/-- A driver without an address. -/
def LoadedDriver.unverified (name path : String) : LoadedDriver := ⟨0, name, path, false⟩

/-- A line of `driverquery`, whose first field is the name. -/
def queriedDriver (line : List Char) : Option LoadedDriver :=
  let rawName := Text.trimMatches (· = '"')
    (Text.trimMatches Text.isWhitespace (line.takeWhile (· ≠ ',')))
  if rawName = [] then none
  else
    let name :=
      if ".sys".toList <:+ rawName ∨ ".exe".toList <:+ rawName then String.ofList rawName
      else String.ofList rawName ++ ".sys"
    some (.unverified name ("C:\\Windows\\System32\\drivers\\" ++ name))

/-- The drivers that are listed if nothing else is known. -/
def fallbackDrivers : List LoadedDriver :=
  [.unverified "ntoskrnl.exe" "C:\\Windows\\System32\\ntoskrnl.exe",
    .unverified "ndis.sys" "C:\\Windows\\System32\\drivers\\ndis.sys",
    .unverified "nvlddmkm.sys" "C:\\Windows\\System32\\drivers\\nvlddmkm.sys",
    .unverified "rt640x64.sys" "C:\\Windows\\System32\\drivers\\rt640x64.sys",
    .unverified "vgk.sys" "C:\\Program Files\\Riot Vanguard\\vgk.sys"]

/-- `refresh_driver_list`, where the calls yield the drivers of the system, of which the first 1024
are read, and the lines of `driverquery`. -/
def refreshDriverList (enumerated : List DeviceDriver) (queried : List (List Char)) :
    List LoadedDriver :=
  let loaded := ((enumerated.take 1024).filter (·.address ≠ 0)).map DeviceDriver.loaded
  let loaded := if loaded = [] then (queried.drop 1).filterMap queriedDriver else loaded
  sortByBase (if loaded = [] then fallbackDrivers else loaded)

/-- `add_driver_for_testing`. -/
def addDriverForTesting (drivers : List LoadedDriver) (baseAddress : UInt64) (name path : String) :
    List LoadedDriver :=
  sortByBase (drivers ++ [⟨baseAddress, name, path, true⟩])

/-! ### Resolving an address -/

/-- The loop of `binary_search_by_key`, over `size` keys from `base` on. -/
def binarySearchBase (keys : List UInt64) (key : UInt64) (base size : ℕ) : ℕ :=
  if 1 < size then
    let half := size / 2
    let mid := base + half
    binarySearchBase keys key (if key < keys.getD mid 0 then base else mid) (size - half)
  else base
termination_by size
decreasing_by omega

/-- `binary_search_by_key`: the index of the key, or the one to insert it at. -/
def binarySearchByKey (keys : List UInt64) (key : UInt64) : Except ℕ ℕ :=
  if keys = [] then .error 0
  else
    let base := binarySearchBase keys key 0 keys.length
    let found := keys.getD base 0
    if found = key then .ok base
    else .error (base + if found < key then 1 else 0)

def LoadedDriver.isAttributable (d : LoadedDriver) : Bool := d.isVerifiedBase && 0 < d.baseAddress

/-- `resolve_address`. -/
def resolveAddress (drivers : List LoadedDriver) (address : UInt64) : Option LoadedDriver :=
  if address = 0 then none
  else
    let verified := drivers.filter LoadedDriver.isAttributable
    match binarySearchByKey (verified.map LoadedDriver.baseAddress) address with
    | .ok idx => verified[idx]?
    | .error 0 => none
    | .error (idx + 1) => verified[idx]?.filter fun candidate =>
        address < candidate.baseAddress + 0x4000000

/-! ### Statistics -/

/-- The name, path and base address that a routine is recorded under. -/
def attribution (drivers : List LoadedDriver) (routineAddress : UInt64) :
    String × String × UInt64 :=
  match resolveAddress drivers routineAddress with
  | some driver => (driver.name, driver.path, driver.baseAddress)
  | none =>
    if drivers.any LoadedDriver.isAttributable then ("UnknownKernelRoutine", "Unknown", 0)
    else ("UnknownKernelRoutine (Administrator elevation required to resolve KASLR addresses)",
      "Unknown", 0)

namespace DriverLatencyStat

/-- The statistics of a driver before its first execution. -/
def new (A : Averages F) (driverName driverPath : String) (baseAddress : UInt64) :
    DriverLatencyStat F :=
  ⟨driverName, driverPath, baseAddress, 0, 0, 0, A.zero, false⟩

/-- One more execution. -/
def add (A : Averages F) (durationUs : UInt64) (stat : DriverLatencyStat F) : DriverLatencyStat F :=
  let executionCount := stat.executionCount + 1
  let totalExecutionUs := stat.totalExecutionUs + durationUs
  let maxExecutionUs :=
    if stat.maxExecutionUs < durationUs then durationUs else stat.maxExecutionUs
  { stat with
    executionCount, totalExecutionUs, maxExecutionUs
    avgExecutionUs := A.ratio totalExecutionUs executionCount
    exceeds500usThreshold :=
      if offendingDriverThresholdUs ≤ maxExecutionUs then true else stat.exceeds500usThreshold }

end DriverLatencyStat

/-- `record_execution`. -/
def recordExecution (A : Averages F) (drivers : List LoadedDriver) (stats : DriverStats F)
    (routineAddress durationUs : UInt64) : String × DriverStats F :=
  let (driverName, driverPath, baseAddr) := attribution drivers routineAddress
  let stat := (stats.lookup driverName).getD (.new A driverName driverPath baseAddr)
  (driverName, stats.insert driverName (stat.add A durationUs))

/-- The statistics, in the order in which the map yields them. -/
def DriverStats.values (stats : DriverStats F) : List (DriverLatencyStat F) :=
  stats.entries.map (·.2)

/-- The order of the ranking: the highest maximum first. -/
def DriverLatencyStat.ranks (s t : DriverLatencyStat F) : Bool :=
  t.maxExecutionUs ≤ s.maxExecutionUs

/-- `get_offending_drivers`; the map yields its values in any order. -/
def getOffendingDrivers (values : List (DriverLatencyStat F)) : List (DriverLatencyStat F) :=
  (values.filter (·.exceeds500usThreshold)).mergeSort DriverLatencyStat.ranks

/-- `get_top_drivers`; the map yields its values in any order. -/
def getTopDrivers (values : List (DriverLatencyStat F)) (limit : ℕ) : List (DriverLatencyStat F) :=
  (values.mergeSort DriverLatencyStat.ranks).take limit

end ValOpt
