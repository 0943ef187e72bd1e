import ValOpt.Bytes.LittleEndian

/-!
# The topology of the processor

`hardware/cpu.rs`: `parse_processor_cores` reads the cores from the records that
`GetLogicalProcessorInformationEx` leaves in a buffer, and `evaluate_topology` counts them by class.
A read past the end of the buffer has no result.
-/

namespace ValOpt

open Bytes

/-- A core: its class, its logical processors and their masks by processor group. -/
structure CoreDescriptor where
  efficiencyClass : UInt8
  hasSmt : Bool
  logicalCoreCount : UInt32
  groupMasks : List (UInt16 × UInt64)
  deriving DecidableEq, Repr

/-- `RelationProcessorCore`. -/
def relationProcessorCore : ℕ := 0

/-- The number of bits that are set. -/
def setBits (mask : UInt64) : ℕ := (List.range 64).countP fun i => mask.toNat.testBit i

/-- `usize::count_ones`. -/
def countOnes (mask : UInt64) : UInt32 := UInt32.ofNat (setBits mask)

/-- The `GROUP_AFFINITY` entries at the start of `bytes`, of 16 bytes each: the groups and their
masks. -/
def readGroupMasks (bytes : List UInt8) : ℕ → Option (List (UInt16 × UInt64))
  | 0 => some []
  | count + 1 => do
    let mask ← readLe bytes 0 8
    let group ← readLe bytes 8 2
    let rest ← readGroupMasks (bytes.drop 16) count
    some ((UInt16.ofNat group, UInt64.ofNat mask) :: rest)

/-- The core of the record that `info` starts with, a `PROCESSOR_RELATIONSHIP` from its byte 8
on. -/
def readCore (info : List UInt8) : Option CoreDescriptor := do
  let flags : UInt8 ← info[8]?
  let efficiencyClass : UInt8 ← info[9]?
  let groupCount ← readLe info 30 2
  let groupMasks ← readGroupMasks (info.drop 32) groupCount
  some {
    efficiencyClass
    hasSmt := flags &&& 1 ≠ 0
    logicalCoreCount := groupMasks.foldl (fun count groupMask => count + countOnes groupMask.2) 0
    groupMasks }

/-- The core of the record that `info` starts with, if its relationship is that of a core. -/
def readRecord (info : List UInt8) : Option (Option CoreDescriptor) := do
  let relationship ← readLe info 0 4
  if relationship = relationProcessorCore then (readCore info).map some else some none

/-- The loop of `parse_processor_cores`, from an offset on. -/
def parseCoresFrom (buffer : List UInt8) (offset : ℕ) : Option (List CoreDescriptor) :=
  if offset + 8 ≤ buffer.length then do
    let info := buffer.drop offset
    let recordSize ← readLe info 4 4
    if recordSize < 8 ∨ buffer.length < offset + recordSize then some []
    else
      let core ← readRecord info
      let cores ← parseCoresFrom buffer (offset + recordSize)
      some (core.toList ++ cores)
  else some []
  termination_by buffer.length - offset

/-- `parse_processor_cores`. -/
def parseProcessorCores (buffer : List UInt8) : Option (List CoreDescriptor) :=
  parseCoresFrom buffer 0

/-! ### Counting the cores -/

structure EvaluatedTopology where
  physicalCores : UInt32
  logicalCores : UInt32
  performanceCores : UInt32
  efficientCores : UInt32
  hasSmt : Bool
  isHybrid : Bool
  pCoreAffinityMask : Option UInt64
  deriving DecidableEq, Repr

/-- `EvaluatedTopology::default`. -/
def EvaluatedTopology.default : EvaluatedTopology where
  physicalCores := 0
  logicalCores := 0
  performanceCores := 0
  efficientCores := 0
  hasSmt := false
  isHybrid := false
  pCoreAffinityMask := none

/-- The variables of the first loop of `evaluate_topology`. -/
structure CoreScan where
  logicalCores : UInt32
  hasSmt : Bool
  minEff : UInt8
  maxEff : UInt8
  deriving DecidableEq, Repr

/-- The variables before the loop: the least class starts at `u8::MAX`, the greatest at
`u8::MIN`. -/
def CoreScan.start : CoreScan where
  logicalCores := 0
  hasSmt := false
  minEff := 255
  maxEff := 0

/-- One round of the loop.  The sum wraps, as in a release build. -/
def CoreScan.add (s : CoreScan) (c : CoreDescriptor) : CoreScan where
  logicalCores := s.logicalCores + c.logicalCoreCount
  hasSmt := if c.hasSmt then true else s.hasSmt
  minEff := if c.efficiencyClass < s.minEff then c.efficiencyClass else s.minEff
  maxEff := if s.maxEff < c.efficiencyClass then c.efficiencyClass else s.maxEff

/-- The loop over the groups of a core: the masks of the first processor group are added. -/
def addGroupZero (mask : UInt64) (groupMasks : List (UInt16 × UInt64)) : UInt64 :=
  groupMasks.foldl
    (fun mask groupMask => if groupMask.1 = 0 then mask ||| groupMask.2 else mask) mask

/-- `evaluate_topology`. -/
def evaluateTopology (cores : List CoreDescriptor) : EvaluatedTopology :=
  if cores.isEmpty then .default
  else
    let physicalCores := UInt32.ofNat cores.length
    let scan := cores.foldl CoreScan.add .start
    let isHybrid := decide (scan.minEff < scan.maxEff)
    let (performanceCores, efficientCores, pCoreAffinityMask) :=
      if isHybrid then
        let pCores := cores.filter fun c => c.efficiencyClass = scan.maxEff
        let eCores := cores.filter fun c => c.efficiencyClass < scan.maxEff
        let mask := pCores.foldl (fun mask c => addGroupZero mask c.groupMasks) 0
        (UInt32.ofNat pCores.length, UInt32.ofNat eCores.length,
          if mask ≠ 0 then some mask else none)
      else (physicalCores, 0, none)
    { physicalCores
      logicalCores := scan.logicalCores
      performanceCores
      efficientCores
      hasSmt := scan.hasSmt
      isHybrid
      pCoreAffinityMask }

/-- What Windows says of the cores: the size of the buffer that it asks for, and what it leaves in
the buffer, or the text of its error. -/
structure TopologyQuery where
  bufferSize : UInt32
  fill : Except String (Vector UInt8 bufferSize.toNat)

/-- `detect_processor_topology`. -/
def detectProcessorTopology (query : TopologyQuery) : Option (Except String EvaluatedTopology) :=
  if query.bufferSize = 0 then
    some (.error "Failed to query logical processor information size")
  else
    match query.fill with
    | .error e => some (.error s!"GetLogicalProcessorInformationEx failed: {e}")
    | .ok buffer => do
      let cores ← parseProcessorCores buffer.toList
      some (.ok (evaluateTopology cores))

end ValOpt
