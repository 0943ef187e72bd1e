import ValOpt.Hardware.Cpu
import ValOpt.Hardware.Inventory
import ValOpt.Hardware.Security

/-!
# The system manifest

`models/system.rs`: `inspect` puts the parts of the manifest together.  Graphics, displays and
networks are enumerated twice, once for the list and once for the primary entry, and Windows may
answer differently the second time.  The first part that fails ends the inspection.
-/

namespace ValOpt

structure CpuFeatures where
  sse : Bool
  sse2 : Bool
  avx : Bool
  avx2 : Bool
  fma : Bool
  deriving DecidableEq, Repr

structure CpuInfo where
  brand : String
  vendor : String
  physicalCores : UInt32
  logicalCores : UInt32
  hasSmt : Bool
  isHybrid : Bool
  performanceCores : UInt32
  efficientCores : UInt32
  pCoreAffinityMask : Option UInt64
  features : CpuFeatures
  deriving DecidableEq, Repr

/-- What `detect_cpuid_info` reads, and the answers about the topology. -/
structure CpuQuery where
  brand : String
  vendor : String
  features : CpuFeatures
  topology : TopologyQuery

/-- `CpuInfo::detect`. -/
def CpuInfo.detect (q : CpuQuery) : Option (Except String CpuInfo) :=
  (detectProcessorTopology q.topology).map fun result => result.map fun topology => {
    brand := q.brand
    vendor := q.vendor
    physicalCores := topology.physicalCores
    logicalCores := topology.logicalCores
    hasSmt := topology.hasSmt
    isHybrid := topology.isHybrid
    performanceCores := topology.performanceCores
    efficientCores := topology.efficientCores
    pCoreAffinityMask := topology.pCoreAffinityMask
    features := q.features }

structure FullSystemManifest where
  timestampUtc : String
  osName : String
  cpu : CpuInfo
  primaryGpu : GpuInfo
  allGpus : List GpuInfo
  primaryDisplay : DisplayInfo
  allDisplays : List DisplayInfo
  memory : MemoryInfo
  primaryNetwork : NetworkAdapterInfo
  allNetworks : List NetworkAdapterInfo
  security : SecurityInfo
  deriving DecidableEq, Repr

/-- The answers that are asked for twice. -/
structure HardwareQuery where
  graphics : GraphicsQuery
  displays : List DisplayDevice
  networks : NetworkQuery

namespace FullSystemManifest

/-- `inspect` after the processor.  The security inspection does not fail. -/
def inspectFrom (cpu : CpuInfo) (first second : HardwareQuery)
    (memoryStatus : Except String MemoryStatus) (security : SecurityInfo) (now : String) :
    Except String FullSystemManifest := do
  let allGpus ← GpuInfo.detectAll first.graphics
  let primaryGpu ← GpuInfo.detectPrimary second.graphics
  let allDisplays ← DisplayInfo.detectAll first.displays
  let primaryDisplay ← DisplayInfo.detectPrimary second.displays
  let memory ← MemoryInfo.detect memoryStatus
  let allNetworks ← NetworkAdapterInfo.detectAll first.networks
  let primaryNetwork ← NetworkAdapterInfo.detectPrimary second.networks
  return {
    timestampUtc := now
    osName := "Windows 11"
    cpu
    primaryGpu
    allGpus
    primaryDisplay
    allDisplays
    memory
    primaryNetwork
    allNetworks
    security }

/-- `inspect`. -/
def inspect (cpu : CpuQuery) (first second : HardwareQuery)
    (memoryStatus : Except String MemoryStatus) (security : SecurityInfo) (now : String) :
    Option (Except String FullSystemManifest) :=
  (CpuInfo.detect cpu).map fun result => result.bind fun cpu =>
    inspectFrom cpu first second memoryStatus security now

end FullSystemManifest

end ValOpt
