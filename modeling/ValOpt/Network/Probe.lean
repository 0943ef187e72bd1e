import ValOpt.Benchmarking.Stats
import ValOpt.Bytes.LittleEndian

/-!
# Probing with datagrams

`network/probe.rs`: `UdpPingCollector::probe` sends numbered datagrams and makes a report of their
round-trip times.  What its calls return is up to the world that the program runs in (`Endpoint`).
Numbers are exact, as in the statistics.
-/

namespace ValOpt

open Bytes

/-! ### The world -/

/-- What the calls of a probe return, and the world after them. -/
structure Endpoint (W : Type) where
  queryPerformanceFrequency : W → ℤ × W
  queryPerformanceCounter : W → ℤ × W
  /-- `UdpSocket::bind`. -/
  bind : W → Except String Unit × W
  /-- `set_read_timeout`, with milliseconds. -/
  setReadTimeout : ℕ → W → Except String Unit × W
  /-- `send_to`, with the text of the target's address. -/
  sendTo : List UInt8 → String → W → Except String Unit × W
  /-- `recv_from`: what it has put into the buffer. -/
  recvFrom : W → Except String (List UInt8) × W
  /-- `thread::sleep`, with milliseconds. -/
  sleep : ℕ → W → W

structure UdpProbeConfig where
  targetAddr : String
  packetCount : UInt32
  packetIntervalMs : UInt64
  timeoutMs : UInt64
  deriving DecidableEq, Repr

/-- `UdpProbeConfig::default`. -/
def UdpProbeConfig.default : UdpProbeConfig where
  targetAddr := "127.0.0.1:27015"
  packetCount := 50
  packetIntervalMs := 10
  timeoutMs := 200

structure PingProbeReport (K : Type) where
  targetEndpoint : String
  packetsSent : ℕ
  packetsReceived : ℕ
  packetLossPercent : K
  minRttMs : K
  avgRttMs : K
  maxRttMs : K
  medianRttMs : K
  jitterMs : K
  rttStdDevMs : K

/-- The time that `get_qpc_time_us` makes of a counter: the cast drops the fraction, and stops at
the ends of `u64`. -/
def getQpcTimeUs (freq counter : ℤ) : ℕ :=
  min ((counter * 1000000).tdiv freq).toNat (2 ^ 64 - 1)

/-! ### The loop -/

/-- The variables of the loop, and the world. -/
structure ProbeLoop (K W : Type) where
  world : W
  rttSamplesMs : List K
  packetsSent : ℕ
  packetsReceived : ℕ

section Loop

variable {K W : Type} [Field K]

/-- The variables before the loop. -/
def ProbeLoop.start (world : W) : ProbeLoop K W where
  world
  rttSamplesMs := []
  packetsSent := 0
  packetsReceived := 0

/-- The receive of a round: one datagram is taken from the socket, and counts if it has the number
of this round. -/
def receiveReply (ep : Endpoint W) (qpcFreq : ℤ) (seq sendTimeUs : ℕ) (s : ProbeLoop K W) :
    ProbeLoop K W :=
  match ep.recvFrom s.world with
  | (.ok datagram, world) =>
    if 12 ≤ datagram.length then
      let (counter, world) := ep.queryPerformanceCounter world
      let recvTimeUs := getQpcTimeUs qpcFreq counter
      let recvSeq := leValue (datagram.take 4)
      if recvSeq = seq then
        let rttUs := recvTimeUs - sendTimeUs
        let rttMs : K := rttUs / 1000
        { s with
          world
          rttSamplesMs := s.rttSamplesMs ++ [rttMs]
          packetsReceived := s.packetsReceived + 1 }
      else { s with world }
    else { s with world }
  | (.error _, world) => { s with world }

/-- One round of the loop. -/
def probeRound (ep : Endpoint W) (config : UdpProbeConfig) (qpcFreq : ℤ) (s : ProbeLoop K W)
    (seq : ℕ) : ProbeLoop K W :=
  let packetsSent := s.packetsSent + 1
  let (counter, world) := ep.queryPerformanceCounter s.world
  let sendTimeUs := getQpcTimeUs qpcFreq counter
  let payload := leBytes 4 seq ++ leBytes 8 sendTimeUs
  match ep.sendTo payload config.targetAddr world with
  | (.error _, world) =>
    { s with world := ep.sleep config.packetIntervalMs.toNat world, packetsSent }
  | (.ok _, world) =>
    let s := receiveReply ep qpcFreq seq sendTimeUs { s with world, packetsSent }
    if 0 < config.packetIntervalMs then
      { s with world := ep.sleep config.packetIntervalMs.toNat s.world }
    else s

/-- The first rounds of the loop. -/
def probeRounds (ep : Endpoint W) (config : UdpProbeConfig) (qpcFreq : ℤ) (rounds : ℕ)
    (world : W) : ProbeLoop K W :=
  (List.range' 1 rounds).foldl (probeRound ep config qpcFreq) (.start world)

end Loop

/-! ### The report -/

section Report

variable {K W : Type} [Field K] [LinearOrder K] [FloorSemiring K]

/-- The loop over the jitter: `J = J + (|D| - J) / 16`. -/
def jitterOf (rttSamplesMs : List K) : K :=
  (List.zipWith (fun rtt previous => |rtt - previous|) rttSamplesMs.tail rttSamplesMs).foldl
    (fun jitterMs d => jitterMs + (d - jitterMs) / (16 : ℕ)) 0

/-- The median of the samples. -/
def medianOf (rttSamplesMs : List K) : K :=
  calculatePercentile (rttSamplesMs.mergeSort (· ≤ ·)) 50

/-- The part of the packets that is lost, in percent. -/
def lossPercent (packetsSent packetsReceived : ℕ) : K :=
  if 0 < packetsSent then ((packetsSent - packetsReceived : ℕ) : K) / packetsSent * 100 else 0

/-- The report that `probe` makes of the variables after the loop. -/
def makeReport (num : Numerics K) (config : UdpProbeConfig) (s : ProbeLoop K W) :
    PingProbeReport K :=
  match s.rttSamplesMs with
  | [] =>
    { targetEndpoint := config.targetAddr
      packetsSent := s.packetsSent
      packetsReceived := 0
      packetLossPercent := 100
      minRttMs := 0
      avgRttMs := 0
      maxRttMs := 0
      medianRttMs := 0
      jitterMs := 0
      rttStdDevMs := 0 }
  | first :: rest =>
    let samples := first :: rest
    let avgRttMs := samples.sum / samples.length
    let variance : K :=
      if 1 < samples.length then
        (samples.map fun rtt => (rtt - avgRttMs) ^ 2).sum / (samples.length - 1 : ℕ)
      else 0
    { targetEndpoint := config.targetAddr
      packetsSent := s.packetsSent
      packetsReceived := s.packetsReceived
      packetLossPercent := lossPercent s.packetsSent s.packetsReceived
      -- the folds start at the infinities, so the first sample takes their place
      minRttMs := rest.foldl min first
      avgRttMs
      maxRttMs := rest.foldl max first
      medianRttMs := medianOf samples
      jitterMs := jitterOf samples
      rttStdDevMs := num.sqrt variance }

/-- What `probe` does before the loop: the frequency of the counter, if a socket is ready. -/
def openSocket (ep : Endpoint W) (config : UdpProbeConfig) (world : W) : Except String ℤ × W :=
  let (qpcFreq, world) := ep.queryPerformanceFrequency world
  if qpcFreq = 0 then (.error "High-resolution performance counter unavailable", world)
  else
    match ep.bind world with
    | (.error e, world) => (.error s!"Failed to bind local UDP probe socket: {e}", world)
    | (.ok _, world) =>
      match ep.setReadTimeout config.timeoutMs.toNat world with
      | (.error e, world) => (.error e, world)
      | (.ok _, world) => (.ok qpcFreq, world)

/-- `UdpPingCollector::probe`. -/
def probe (num : Numerics K) (ep : Endpoint W) (config : UdpProbeConfig) (world : W) :
    Except String (PingProbeReport K) × W :=
  match openSocket ep config world with
  | (.error e, world) => (.error e, world)
  | (.ok qpcFreq, world) =>
    let s := probeRounds ep config qpcFreq config.packetCount.toNat world
    (.ok (makeReport num config s), s.world)

end Report

end ValOpt
