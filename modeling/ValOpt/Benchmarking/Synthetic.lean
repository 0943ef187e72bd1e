import ValOpt.Benchmarking.FrameCapture

/-!
# Synthetic frames

`benchmarking/synthetic.rs`: an application that presents frames at a fixed rate and stutters at a
fixed interval.  In virtual time a frame takes as long as it should; otherwise its time is measured
with the performance counter.  The frames are handed one by one to a callback, which here takes them
into a state of its own.
-/

namespace ValOpt

structure MockDirectXApp (K : Type) where
  targetFps : K
  stutterInterval : ℕ
  stutterDurationMs : K
  virtualTime : Bool
  deriving DecidableEq, Repr

/-- What `QueryPerformanceFrequency` and `QueryPerformanceCounter` say: at the start, and after the
frame of each number. -/
structure QpcClock where
  frequency : Int64
  start : Int64
  reading : ℕ → Int64

namespace MockDirectXApp

variable {K β : Type}

/-- `MockDirectXApp::new`. -/
def new [Zero K] (targetFps : K) : MockDirectXApp K := ⟨targetFps, 0, 0, false⟩

/-- `with_virtual_time`. -/
def withVirtualTime (app : MockDirectXApp K) (virtualTime : Bool) : MockDirectXApp K :=
  { app with virtualTime }

/-- `with_stutters`. -/
def withStutters (app : MockDirectXApp K) (intervalFrames : ℕ) (durationMs : K) :
    MockDirectXApp K :=
  { app with stutterInterval := intervalFrames, stutterDurationMs := durationMs }

/-- The frame of this number is a stutter. -/
def stutters (app : MockDirectXApp K) (frameIdx : ℕ) : Bool :=
  0 < app.stutterInterval && frameIdx % app.stutterInterval = 0

/-- `current_frame_time_ms` of the frame of this number. -/
def currentFrameTimeMs (app : MockDirectXApp K) (targetFrameTimeMs : K) (frameIdx : ℕ) : K :=
  if app.stutters frameIdx then app.stutterDurationMs else targetFrameTimeMs

variable [Field K] [LinearOrder K] [FloorSemiring K]

/-- The loop in virtual time, from a frame on.  The sum of the microseconds wraps around. -/
def runVirtual (app : MockDirectXApp K) (targetFrameTimeMs : K) (onFrame : FrameSample K → β → β) :
    (frameIdx left : ℕ) → UInt64 → β → β
  | _, 0, _, state => state
  | frameIdx, left + 1, cumulativeUs, state =>
    let currentFrameTimeMs := app.currentFrameTimeMs targetFrameTimeMs frameIdx
    let cumulativeUs := cumulativeUs + toU64 (currentFrameTimeMs * (1000 : ℕ))
    let sample : FrameSample K := {
      frameIndex := UInt64.ofNat frameIdx
      timestampUs := cumulativeUs
      msBetweenPresents := currentFrameTimeMs
      msUntilDisplayed := none
      frameTimeMs := currentFrameTimeMs }
    runVirtual app targetFrameTimeMs onFrame (frameIdx + 1) left cumulativeUs (onFrame sample state)

/-- The loop with a clock, from a frame on. -/
def runMeasured (clock : QpcClock) (onFrame : FrameSample K → β → β) :
    (frameIdx left : ℕ) → Int64 → β → β
  | _, 0, _, state => state
  | frameIdx, left + 1, lastQpc, state =>
    let nowQpc := clock.reading frameIdx
    let measuredMs := ticksToMs clock.frequency (nowQpc - lastQpc)
    let sample := frameSample clock.frequency (nowQpc - clock.start) (UInt64.ofNat frameIdx)
      measuredMs
    runMeasured clock onFrame (frameIdx + 1) left nowQpc (onFrame sample state)

/-- `run_frames`; there is no result if the rate is zero. -/
def runFrames (app : MockDirectXApp K) (clock : QpcClock) (totalFrames : ℕ)
    (onFrame : FrameSample K → β → β) (state : β) : Option β := do
  let targetFrameTimeMs ← divide ((1000 : ℕ) : K) app.targetFps
  if app.virtualTime then
    some (app.runVirtual targetFrameTimeMs onFrame 1 totalFrames 0 state)
  else some (runMeasured clock onFrame 1 totalFrames clock.start state)

end MockDirectXApp

/-! ### The collector as its users see it -/

namespace FrameCollector

variable {K : Type}

/-- `count`. -/
def count (c : FrameCollector K) : ℕ := c.totalFramesCaptured.toNat

/-- `snapshot`. -/
def snapshot (c : FrameCollector K) : List (FrameSample K) := c.samples

/-- `elapsed_duration`, in microseconds. -/
def elapsedDuration (c : FrameCollector K) : UInt64 :=
  match c.samples.head?, c.samples.getLast? with
  | some first, some last =>
    if c.samples.length < 2 then 0
    else if first.timestampUs < last.timestampUs then last.timestampUs - first.timestampUs
    else 0
  | _, _ => 0

/-- `calculate_metrics`. -/
def calculateMetrics [Field K] [LinearOrder K] [FloorSemiring K] (num : Numerics K)
    (c : FrameCollector K) (warmupFrames : ℕ) : Option (Except String (ComputedMetrics K)) :=
  computeMetrics num c.snapshot warmupFrames

end FrameCollector

end ValOpt
