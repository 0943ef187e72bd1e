import ValOpt.Network.Probe

/-!
# Testing for bufferbloat

`network/bufferbloat.rs`: `BufferbloatTester::run_test` probes a target twice, the second time under
load, and grades how much longer the round trips have become.
-/

namespace ValOpt

variable {K W : Type}

/-! ### Grades -/

/-- `BufferbloatGrade::from_latency_delta`. -/
def BufferbloatGrade.fromLatencyDelta [Field K] [LinearOrder K] (deltaMs packetLossPct : K) :
    BufferbloatGrade :=
  if 5 < packetLossPct then .f
  else if deltaMs < 5 then .aPlus
  else if deltaMs < 15 then .a
  else if deltaMs < 30 then .b
  else if deltaMs < 60 then .c
  else if deltaMs < 120 then .d
  else .f

/-- What the report says of a grade. -/
def BufferbloatGrade.advice : BufferbloatGrade → String
  | .aPlus => "Flawless queue management: Zero bufferbloat detected (< 5ms delta). Network " ++
    "pacing is optimal for VALORANT."
  | .a => "Excellent network pacing: Induced latency delta is under 15ms. In-game gunplay " ++
    "registration will remain consistent."
  | .b => "Good performance: Moderate queue delay under load (15-30ms spike). Consider enabling " ++
    "router QoS or Smart Queue Management (SQM)."
  | .c => "Noticeable bufferbloat: Latency spiked 30-60ms under traffic. Background " ++
    "downloads/streams will create noticeable peekers advantage penalty."
  | .d => "High bufferbloat: Router queues buffer packets heavily under load (60-120ms spike). " ++
    "Configure CAKE or fq_codel SQM on your gateway."
  | .f => "Critical bufferbloat: Severe latency spikes (>= 120ms) or packet loss (> 5%). " ++
    "VALORANT will experience severe rubberbanding during concurrent network usage."

/-! ### The test -/

structure BufferbloatConfig where
  targetAddr : String
  probeCountUnloaded : UInt32
  probeCountLoaded : UInt32
  probeIntervalMs : UInt64
  timeoutMs : UInt64
  loadConcurrency : ℕ
  loadTargetAddr : Option String
  loadDurationSecs : UInt64
  deriving DecidableEq, Repr

/-- `BufferbloatConfig::default`. -/
def BufferbloatConfig.default : BufferbloatConfig where
  targetAddr := "1.1.1.1:53"
  probeCountUnloaded := 25
  probeCountLoaded := 25
  probeIntervalMs := 20
  timeoutMs := 200
  loadConcurrency := 4
  loadTargetAddr := none
  loadDurationSecs := 2

/-- What the calls of a test do.  Load workers only send; what that does to the probes is part of
the world. -/
structure TestBench (K W : Type) extends Endpoint W where
  /-- The start of a number of workers that send to a target. -/
  startLoad : ℕ → String → W → W
  /-- The end of the workers. -/
  joinLoad : W → W
  /-- `start_time.elapsed()`, from the world at the start and the present one. -/
  elapsedSecs : W → W → K

section Test

variable [Field K] [LinearOrder K]

/-- The advice for a grade and a jitter. -/
def recommendationsOf (num : Numerics K) (grade : BufferbloatGrade) (loadedJitter : K) :
    List String :=
  grade.advice ::
    if 5 < loadedJitter then
      [s!"High loaded packet jitter detected ({num.toFixed2 (.finite loadedJitter)}ms). " ++
        "Prioritize 5GHz/6GHz Wi-Fi channels or switch to a direct Cat6 Ethernet connection."]
    else []

/-- The report that `run_test` makes of the reports of both probes. -/
def bufferbloatReport (num : Numerics K) (config : BufferbloatConfig)
    (unloadedReport loadedReport : PingProbeReport K) (totalDuration : K) : BufferbloatReport K :=
  let unloadedPing := unloadedReport.medianRttMs
  let loadedPing := loadedReport.medianRttMs
  let packetLoss := loadedReport.packetLossPercent
  let deltaMs := max (loadedPing - unloadedPing) 0
  let grade := BufferbloatGrade.fromLatencyDelta deltaMs packetLoss
  { unloadedPingMs := unloadedPing
    unloadedJitterMs := unloadedReport.jitterMs
    loadedPingMs := loadedPing
    loadedJitterMs := loadedReport.jitterMs
    bufferbloatDeltaMs := deltaMs
    grade
    packetLossPct := packetLoss
    targetHost := config.targetAddr
    testDurationSecs := totalDuration
    recommendations := recommendationsOf num grade loadedReport.jitterMs }

/-- The probe without load. -/
def BufferbloatConfig.unloaded (config : BufferbloatConfig) : UdpProbeConfig where
  targetAddr := config.targetAddr
  packetCount := config.probeCountUnloaded
  packetIntervalMs := config.probeIntervalMs
  timeoutMs := config.timeoutMs

/-- The probe under load. -/
def BufferbloatConfig.loaded (config : BufferbloatConfig) : UdpProbeConfig where
  targetAddr := config.targetAddr
  packetCount := config.probeCountLoaded
  packetIntervalMs := config.probeIntervalMs
  timeoutMs := config.timeoutMs

/-- The start of the load: the workers begin, and have 150 ms to fill the buffers. -/
def startLoad (bench : TestBench K W) (config : BufferbloatConfig) (world : W) : W :=
  let loadTarget := config.loadTargetAddr.getD config.targetAddr
  bench.sleep 150 (bench.startLoad config.loadConcurrency loadTarget world)

/-- `BufferbloatTester::run_test`. -/
def runTest [FloorSemiring K] (num : Numerics K) (bench : TestBench K W)
    (config : BufferbloatConfig) (start : W) : Except String (BufferbloatReport K) × W :=
  match probe num bench.toEndpoint config.unloaded start with
  | (.error e, world) => (.error s!"Failed to collect unloaded baseline ping: {e}", world)
  | (.ok unloadedReport, world) =>
    let (loadedReportRes, world) :=
      probe num bench.toEndpoint config.loaded (startLoad bench config world)
    let world := bench.joinLoad world
    match loadedReportRes with
    | .error e => (.error s!"Failed to collect loaded ping: {e}", world)
    | .ok loadedReport =>
      (.ok (bufferbloatReport num config unloadedReport loadedReport
        (bench.elapsedSecs start world)), world)

end Test

end ValOpt
