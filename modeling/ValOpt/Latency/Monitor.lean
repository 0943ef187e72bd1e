import Mathlib.Data.List.Basic

/-!
# The latency monitor

`latency/monitor.rs`: a ring of the last samples, and the warnings about long ones.
-/

namespace ValOpt

/-- `DEFAULT_MONITOR_RING_CAPACITY`. -/
def defaultMonitorRingCapacity : ℕ := 4096

/-- `WARNING_THRESHOLD_US`. -/
def warningThresholdUs : UInt64 := 500

/-- `CRITICAL_THRESHOLD_US`. -/
def criticalThresholdUs : UInt64 := 1000

/-- One DPC or ISR. -/
structure DpcIsrSample where
  timestampUs : UInt64
  durationUs : UInt64
  routineAddress : UInt64
  isDpc : Bool
  driverName : Option String
  deriving DecidableEq, Repr

inductive LatencySeverity where
  | normal
  | warning
  | critical
  deriving DecidableEq, Repr

/-- `from_duration_us`. -/
def LatencySeverity.ofDurationUs (durationUs : UInt64) : LatencySeverity :=
  if 1000 ≤ durationUs then .critical
  else if 500 ≤ durationUs then .warning
  else .normal

structure LatencyWarningEvent where
  timestampUs : UInt64
  durationUs : UInt64
  driverName : String
  routineAddress : UInt64
  isDpc : Bool
  thresholdUs : UInt64
  severity : LatencySeverity
  message : String
  deriving DecidableEq, Repr

/-! ### The ring -/

/-- The last samples; the next one is written at `head`. -/
structure LatencyRingBuffer where
  samples : List (Option DpcIsrSample)
  capacity : ℕ
  head : ℕ
  count : ℕ
  length_samples : samples.length = capacity
  head_lt : head < capacity
  count_le : count ≤ capacity

namespace LatencyRingBuffer

def new (capacity : ℕ) (h : 0 < capacity) : LatencyRingBuffer :=
  ⟨List.replicate capacity none, capacity, 0, 0, List.length_replicate, h, Nat.zero_le _⟩

def push (r : LatencyRingBuffer) (sample : DpcIsrSample) : LatencyRingBuffer where
  samples := r.samples.set r.head (some sample)
  capacity := r.capacity
  head := (r.head + 1) % r.capacity
  count := if r.count < r.capacity then r.count + 1 else r.count
  length_samples := (List.length_set ..).trans r.length_samples
  head_lt := Nat.mod_lt _ (Nat.zero_lt_of_lt r.head_lt)
  count_le := by
    have hcount := r.count_le
    split <;> omega

/-- The samples from the oldest to the newest. -/
def toVec (r : LatencyRingBuffer) : List DpcIsrSample :=
  let start := if r.count < r.capacity then 0 else r.head
  (List.range r.count).filterMap fun i => r.samples.getD ((start + i) % r.capacity) none

def clear (r : LatencyRingBuffer) : LatencyRingBuffer :=
  .new r.capacity (Nat.zero_lt_of_lt r.head_lt)

end LatencyRingBuffer

/-! ### Warnings -/

structure LatencyMonitor where
  ringBuffer : LatencyRingBuffer
  warningEvents : List LatencyWarningEvent
  maxWarningsHistory : ℕ

namespace LatencyMonitor

def new (capacity : ℕ) (h : 0 < capacity) : LatencyMonitor := ⟨.new capacity h, [], 1000⟩

/-- `LatencyMonitor::default`. -/
def default : LatencyMonitor :=
  ⟨.new defaultMonitorRingCapacity (by decide), [], 1000⟩

/-- The warning that a sample gives rise to. -/
def warningOf (sample : DpcIsrSample) : LatencyWarningEvent :=
  let severity := LatencySeverity.ofDurationUs sample.durationUs
  let driverName := sample.driverName.getD "Unknown"
  let threshold := if severity = .critical then criticalThresholdUs else warningThresholdUs
  let kind := if sample.isDpc then "DPC" else "ISR"
  ⟨sample.timestampUs, sample.durationUs, driverName, sample.routineAddress, sample.isDpc,
    threshold, severity,
    s!"{kind} routine in '{driverName}' executed for {sample.durationUs}µs (exceeds {threshold}µs threshold)"⟩

/-- `ingest_sample`: the oldest warning makes room for a new one. -/
def ingestSample (m : LatencyMonitor) (sample : DpcIsrSample) : LatencyMonitor where
  ringBuffer := m.ringBuffer.push sample
  warningEvents :=
    if warningThresholdUs ≤ sample.durationUs then
      (if m.maxWarningsHistory ≤ m.warningEvents.length then m.warningEvents.tail
        else m.warningEvents) ++ [warningOf sample]
    else m.warningEvents
  maxWarningsHistory := m.maxWarningsHistory

def clear (m : LatencyMonitor) : LatencyMonitor :=
  { m with ringBuffer := m.ringBuffer.clear, warningEvents := [] }

/-- `get_warnings`. -/
def getWarnings (m : LatencyMonitor) : List LatencyWarningEvent := m.warningEvents

/-- `get_recent_samples`. -/
def getRecentSamples (m : LatencyMonitor) (maxCount : ℕ) : List DpcIsrSample :=
  let all := m.ringBuffer.toVec
  if maxCount < all.length then all.drop (all.length - maxCount) else all

/-- The calls that change a monitor. -/
inductive Call where
  | ingestSample (sample : DpcIsrSample)
  | clear
  deriving DecidableEq, Repr

/-- One call. -/
def apply (m : LatencyMonitor) : Call → LatencyMonitor
  | .ingestSample sample => m.ingestSample sample
  | .clear => m.clear

end LatencyMonitor

end ValOpt
