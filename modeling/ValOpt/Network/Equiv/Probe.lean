import Mathlib.Data.List.ReduceOption
import ValOpt.Benchmarking.Equiv.Metrics
import ValOpt.Network.Probe
import ValOpt.Statistics.Smoothing

/-!
# The report of a probe

What becomes of a packet is read off the calls of its round alone (`roundTrip`): there is a time if
the packet is sent and the next datagram that is received has its number.  A round sends one packet
more and takes this time for a sample, if there is one (`probeRound_spec`), so the samples are the
times of all rounds (`probeRounds_samples`), and the report that is made of them counts them and has
their least, greatest and mean time (`makeReport_measures`).  The jitter is a smoothed value that
follows the differences of consecutive samples, which the range of the samples bounds.
-/

namespace ValOpt

open Bytes Statistics

variable {K W : Type} [Field K]

/-! ### The rounds -/

section Rounds

variable (ep : Endpoint W) (config : UdpProbeConfig) (qpcFreq : ℤ)

/-- The time that a receive takes a sample of: that of the next datagram, if it has this number. -/
def replyTime (seq sendTimeUs : ℕ) (world : W) : Option K :=
  match ep.recvFrom world with
  | (.error _, _) => none
  | (.ok datagram, world) =>
    if 12 ≤ datagram.length ∧ leValue (datagram.take 4) = seq then
      let recvTimeUs := getQpcTimeUs qpcFreq (ep.queryPerformanceCounter world).1
      some ((recvTimeUs - sendTimeUs : ℕ) / 1000)
    else none

/-- The round trip of the packet with this number, in milliseconds: there is one if the packet is
sent and the next datagram that is received has its number. -/
def roundTrip (seq : ℕ) (world : W) : Option K :=
  let (counter, world) := ep.queryPerformanceCounter world
  let sendTimeUs := getQpcTimeUs qpcFreq counter
  match ep.sendTo (leBytes 4 seq ++ leBytes 8 sendTimeUs) config.targetAddr world with
  | (.error _, _) => none
  | (.ok _, world) => replyTime ep qpcFreq seq sendTimeUs world

/-- A receive takes a sample and counts it if there is a time, and else does neither. -/
theorem receiveReply_spec (seq sendTimeUs : ℕ) (s : ProbeLoop K W) :
    (receiveReply ep qpcFreq seq sendTimeUs s).packetsSent = s.packetsSent ∧
      (receiveReply ep qpcFreq seq sendTimeUs s).rttSamplesMs =
        s.rttSamplesMs ++ (replyTime ep qpcFreq seq sendTimeUs s.world).toList ∧
      (receiveReply ep qpcFreq seq sendTimeUs s).packetsReceived = s.packetsReceived +
        (replyTime (K := K) ep qpcFreq seq sendTimeUs s.world).toList.length := by
  rw [receiveReply, replyTime]
  rcases ep.recvFrom s.world with ⟨e | datagram, world⟩
  · exact ⟨rfl, (List.append_nil _).symm, rfl⟩
  · dsimp only
    split_ifs with hlen hseq hreads hreads hreads
    · exact ⟨rfl, rfl, rfl⟩
    · exact absurd ⟨hlen, hseq⟩ hreads
    · exact absurd hreads.2 hseq
    · exact ⟨rfl, (List.append_nil _).symm, rfl⟩
    · exact absurd hreads.1 hlen
    · exact ⟨rfl, (List.append_nil _).symm, rfl⟩

/-- A round sends one packet, and takes a sample and counts it if there is a round trip. -/
theorem probeRound_spec (s : ProbeLoop K W) (seq : ℕ) :
    (probeRound ep config qpcFreq s seq).packetsSent = s.packetsSent + 1 ∧
      (probeRound ep config qpcFreq s seq).rttSamplesMs =
        s.rttSamplesMs ++ (roundTrip ep config qpcFreq seq s.world).toList ∧
      (probeRound ep config qpcFreq s seq).packetsReceived = s.packetsReceived +
        (roundTrip (K := K) ep config qpcFreq seq s.world).toList.length := by
  rw [probeRound, roundTrip]
  rcases ep.queryPerformanceCounter s.world with ⟨counter, counted⟩
  dsimp only
  rcases ep.sendTo (leBytes 4 seq ++ leBytes 8 (getQpcTimeUs qpcFreq counter))
    config.targetAddr counted with ⟨e | _, world⟩
  · exact ⟨rfl, (List.append_nil _).symm, rfl⟩
  · have hspec := receiveReply_spec ep qpcFreq seq (getQpcTimeUs qpcFreq counter)
      { s with world, packetsSent := s.packetsSent + 1 }
    dsimp only
    split_ifs <;> exact hspec

/-- A round sends one packet, and takes a sample and counts it, or does neither. -/
theorem probeRound_cases (s : ProbeLoop K W) (seq : ℕ) :
    (probeRound ep config qpcFreq s seq).packetsSent = s.packetsSent + 1 ∧
      ((probeRound ep config qpcFreq s seq).rttSamplesMs = s.rttSamplesMs ∧
          (probeRound ep config qpcFreq s seq).packetsReceived = s.packetsReceived ∨
        ∃ rtt, (probeRound ep config qpcFreq s seq).rttSamplesMs = s.rttSamplesMs ++ [rtt] ∧
          (probeRound ep config qpcFreq s seq).packetsReceived = s.packetsReceived + 1) := by
  obtain ⟨hsent, hsamples, hreceived⟩ := probeRound_spec ep config qpcFreq s seq
  refine ⟨hsent, ?_⟩
  rw [hsamples, hreceived]
  rcases roundTrip ep config qpcFreq seq s.world with _ | rtt
  · exact .inl ⟨List.append_nil _, rfl⟩
  · exact .inr ⟨rtt, rfl, rfl⟩

theorem probeRounds_succ (rounds : ℕ) (world : W) :
    probeRounds (K := K) ep config qpcFreq (rounds + 1) world =
      probeRound ep config qpcFreq (probeRounds ep config qpcFreq rounds world) (rounds + 1) := by
  rw [probeRounds, List.range'_1_concat, List.foldl_append, Nat.add_comm 1]
  rfl

/-- The counters agree with the samples and with the number of rounds. -/
structure Tallied (rounds : ℕ) (s : ProbeLoop K W) : Prop where
  sent : s.packetsSent = rounds
  received : s.packetsReceived = s.rttSamplesMs.length
  received_le : s.packetsReceived ≤ rounds

theorem Tallied.round {rounds : ℕ} {s : ProbeLoop K W} (h : Tallied rounds s) (seq : ℕ) :
    Tallied (rounds + 1) (probeRound ep config qpcFreq s seq) := by
  obtain ⟨hsent, hreceived, hle⟩ := h
  obtain ⟨hsent', hcases⟩ := probeRound_cases ep config qpcFreq s seq
  rcases hcases with ⟨hsamples, hcount⟩ | ⟨rtt, hsamples, hcount⟩
  · refine ⟨by omega, ?_, by omega⟩
    rw [hcount, hsamples, hreceived]
  · refine ⟨by omega, ?_, by omega⟩
    rw [hcount, hsamples, hreceived, List.length_append, List.length_singleton]

theorem probeRounds_tallied (rounds : ℕ) (world : W) :
    Tallied rounds (probeRounds (K := K) ep config qpcFreq rounds world) := by
  induction rounds with
  | zero => exact ⟨rfl, rfl, le_refl 0⟩
  | succ rounds ih =>
    rw [probeRounds_succ]
    exact ih.round ep config qpcFreq (rounds + 1)

/-- The round trips of the first rounds, each in the world that the rounds before it leave. -/
def roundTrips (rounds : ℕ) (world : W) : List (Option K) :=
  (List.range rounds).map fun before =>
    roundTrip ep config qpcFreq (before + 1)
      (probeRounds (K := K) ep config qpcFreq before world).world

@[simp] theorem length_roundTrips (rounds : ℕ) (world : W) :
    (roundTrips (K := K) ep config qpcFreq rounds world).length = rounds := by
  rw [roundTrips, List.length_map, List.length_range]

/-- The samples are the times of the rounds that have one. -/
theorem probeRounds_samples (rounds : ℕ) (world : W) :
    (probeRounds ep config qpcFreq rounds world).rttSamplesMs =
      (roundTrips (K := K) ep config qpcFreq rounds world).reduceOption := by
  induction rounds with
  | zero => rfl
  | succ rounds ih =>
    have hround := (probeRound_spec ep config qpcFreq
      (probeRounds (K := K) ep config qpcFreq rounds world) (rounds + 1)).2.1
    rw [probeRounds_succ, hround, ih, roundTrips, roundTrips, List.range_succ, List.map_append,
      List.reduceOption_append]
    rw [List.map_singleton]
    rcases roundTrip ep config qpcFreq (rounds + 1)
      (probeRounds (K := K) ep config qpcFreq rounds world).world with _ | rtt
    · rfl
    · rfl

end Rounds

/-! ### The samples -/

section Samples

variable [LinearOrder K] [FloorSemiring K] [IsStrictOrderedRing K]

omit [FloorSemiring K] [IsStrictOrderedRing K] in
/-- The jitter is smoothed, with the weight 16. -/
theorem jitterOf_eq (samples : List K) : jitterOf samples =
    smooth 16 0 (List.zipWith (fun rtt previous => |rtt - previous|) samples.tail samples) := rfl

omit [FloorSemiring K] in
/-- The jitter is at most the range of the samples. -/
theorem jitterOf_mem {samples : List K} {lo hi : K} (hrange : lo ≤ hi)
    (hlo : ∀ x ∈ samples, lo ≤ x) (hhi : ∀ x ∈ samples, x ≤ hi) :
    0 ≤ jitterOf samples ∧ jitterOf samples ≤ hi - lo := by
  have hdiffs : ∀ d ∈ List.zipWith (fun rtt previous => |rtt - previous|) samples.tail samples,
      0 ≤ d ∧ d ≤ hi - lo := by
    intro d hd
    rw [← List.map_uncurry_zip_eq_zipWith, List.mem_map] at hd
    obtain ⟨⟨rtt, previous⟩, hmem, rfl⟩ := hd
    have hrtt := List.mem_of_mem_tail (List.of_mem_zip hmem).1
    have hprevious := (List.of_mem_zip hmem).2
    refine ⟨abs_nonneg _, ?_⟩
    rw [Function.uncurry_apply_pair, abs_le]
    have := hlo rtt hrtt
    have := hhi rtt hrtt
    have := hlo previous hprevious
    have := hhi previous hprevious
    constructor <;> linarith
  rw [jitterOf_eq]
  constructor
  · exact le_smooth (by norm_num) le_rfl fun d hd => (hdiffs d hd).1
  · exact smooth_le (by norm_num) (sub_nonneg.mpr hrange) fun d hd => (hdiffs d hd).2

omit [IsStrictOrderedRing K] in
@[simp] theorem medianOf_nil : medianOf ([] : List K) = 0 := by
  rw [medianOf, List.mergeSort_nil]
  rfl

omit [IsStrictOrderedRing K] in
@[simp] theorem medianOf_singleton (x : K) : medianOf [x] = x := by
  rw [medianOf, List.mergeSort_singleton]
  rfl

theorem medianOf_mem {samples : List K} (hne : samples ≠ []) {lo hi : K}
    (hlo : ∀ x ∈ samples, lo ≤ x) (hhi : ∀ x ∈ samples, x ≤ hi) :
    lo ≤ medianOf samples ∧ medianOf samples ≤ hi := by
  have hmem : ∀ x, x ∈ samples.mergeSort (· ≤ ·) ↔ x ∈ samples := fun x => List.mem_mergeSort
  constructor
  · exact le_calculatePercentile List.sortedLE_mergeSort (mergeSort_ne_nil hne)
      fun x hx => hlo x ((hmem x).mp hx)
  · exact calculatePercentile_le List.sortedLE_mergeSort (mergeSort_ne_nil hne)
      fun x hx => hhi x ((hmem x).mp hx)

omit [Field K] [FloorSemiring K] [IsStrictOrderedRing K] in
/-- The folds find the bounds of the samples, and these are samples themselves. -/
theorem foldl_min_spec (first : K) (rest : List K) :
    rest.foldl min first ∈ first :: rest ∧ ∀ x ∈ first :: rest, rest.foldl min first ≤ x := by
  have hmin : (first :: rest).min? = some (rest.foldl min first) := List.min?_cons'
  exact List.min?_eq_some_iff.mp hmin

omit [Field K] [FloorSemiring K] [IsStrictOrderedRing K] in
theorem foldl_max_spec (first : K) (rest : List K) :
    rest.foldl max first ∈ first :: rest ∧ ∀ x ∈ first :: rest, x ≤ rest.foldl max first := by
  have hmax : (first :: rest).max? = some (rest.foldl max first) := List.max?_cons'
  exact List.max?_eq_some_iff.mp hmax

omit [FloorSemiring K] in
theorem lossPercent_mem {sent received : ℕ} (h : received ≤ sent) (hpos : 0 < sent) :
    0 ≤ lossPercent (K := K) sent received ∧ lossPercent (K := K) sent received ≤ 100 ∧
      (lossPercent (K := K) sent received = 100 ↔ received = 0) := by
  have hsent : (0 : K) < sent := Nat.cast_pos.mpr hpos
  have hreceived : (0 : K) ≤ received := Nat.cast_nonneg received
  have hle : (received : K) ≤ sent := Nat.cast_le.mpr h
  have heq : lossPercent (K := K) sent received = 100 - received / sent * 100 := by
    rw [lossPercent, if_pos hpos, Nat.cast_sub h, sub_div, div_self hsent.ne', sub_mul, one_mul]
  have hshare : 0 ≤ (received : K) / sent := div_nonneg hreceived hsent.le
  have hshare' : (received : K) / sent ≤ 1 := (div_le_one hsent).mpr hle
  rw [heq]
  refine ⟨by linarith, by linarith, ?_⟩
  rw [sub_eq_self, mul_eq_zero, or_iff_left (by norm_num), div_eq_zero_iff, or_iff_left hsent.ne',
    Nat.cast_eq_zero]

end Samples

/-! ### The report -/

section Report

variable [LinearOrder K]

/-- The figures of a report agree with each other. -/
structure PingProbeReport.Consistent (report : PingProbeReport K) : Prop where
  received_le : report.packetsReceived ≤ report.packetsSent
  loss_nonneg : 0 ≤ report.packetLossPercent
  loss_le : report.packetLossPercent ≤ 100
  loss_eq_iff : report.packetLossPercent = 100 ↔ report.packetsReceived = 0
  median : 0 < report.packetsReceived →
    report.minRttMs ≤ report.medianRttMs ∧ report.medianRttMs ≤ report.maxRttMs
  avg : 0 < report.packetsReceived →
    report.minRttMs ≤ report.avgRttMs ∧ report.avgRttMs ≤ report.maxRttMs
  jitter : 0 < report.packetsReceived →
    0 ≤ report.jitterMs ∧ report.jitterMs ≤ report.maxRttMs - report.minRttMs

/-- The figures of a report are those of these round trips, one for each packet. -/
structure PingProbeReport.Measures (report : PingProbeReport K) (trips : List (Option K)) :
    Prop where
  sent : report.packetsSent = trips.length
  received : report.packetsReceived = trips.countP Option.isSome
  loss : 0 < trips.length →
    report.packetLossPercent = (trips.countP Option.isNone : K) / trips.length * 100
  min : 0 < report.packetsReceived →
    some report.minRttMs ∈ trips ∧ ∀ rtt, some rtt ∈ trips → report.minRttMs ≤ rtt
  max : 0 < report.packetsReceived →
    some report.maxRttMs ∈ trips ∧ ∀ rtt, some rtt ∈ trips → rtt ≤ report.maxRttMs
  avg : 0 < report.packetsReceived →
    report.avgRttMs = trips.reduceOption.sum / report.packetsReceived

variable [FloorSemiring K]

/-- A probe that returns a report has made it of the variables after its rounds. -/
theorem probe_eq_ok {num : Numerics K} {ep : Endpoint W} {config : UdpProbeConfig}
    {world world' : W} {report : PingProbeReport K}
    (h : probe num ep config world = (.ok report, world')) : ∃ qpcFreq start,
      openSocket ep config world = (.ok qpcFreq, start) ∧
        report = makeReport num config
          (probeRounds ep config qpcFreq config.packetCount.toNat start) := by
  rw [probe] at h
  split at h
  next => exact nomatch h
  next qpcFreq start hopen =>
    exact ⟨qpcFreq, start, hopen, (Except.ok.inj (Prod.ext_iff.mp h).1).symm⟩

/-- The count in a report is that of the rounds. -/
theorem makeReport_received (num : Numerics K) (config : UdpProbeConfig) {rounds : ℕ}
    {s : ProbeLoop K W} (h : Tallied rounds s) :
    (makeReport num config s).packetsReceived = s.packetsReceived := by
  rw [makeReport]
  split
  next hsamples =>
    rw [h.received, hsamples]
    rfl
  next => rfl

variable [IsStrictOrderedRing K]

theorem makeReport_consistent (num : Numerics K) (config : UdpProbeConfig) {rounds : ℕ}
    {s : ProbeLoop K W} (h : Tallied rounds s) : (makeReport num config s).Consistent := by
  obtain ⟨hsent, hreceived, hle⟩ := h
  rw [makeReport]
  split
  next =>
    refine ⟨Nat.zero_le _, ?_, le_rfl, iff_of_true rfl rfl, ?_, ?_, ?_⟩
    · norm_num
    all_goals exact fun hpos => absurd hpos (lt_irrefl 0)
  next first rest hsamples =>
    have hpos : 0 < s.packetsReceived := by
      rw [hreceived, hsamples]
      exact Nat.succ_pos _
    obtain ⟨hloss, hloss', hlossEq⟩ :=
      lossPercent_mem (K := K) (hle.trans_eq hsent.symm) (by omega)
    obtain ⟨-, hmin⟩ := foldl_min_spec first rest
    obtain ⟨-, hmax⟩ := foldl_max_spec first rest
    have hrange : rest.foldl min first ≤ rest.foldl max first :=
      (hmin first List.mem_cons_self).trans (hmax first List.mem_cons_self)
    have hne : first :: rest ≠ [] := List.cons_ne_nil _ _
    exact {
      received_le := hle.trans_eq hsent.symm
      loss_nonneg := hloss
      loss_le := hloss'
      loss_eq_iff := hlossEq
      median := fun _ => medianOf_mem hne hmin hmax
      avg := fun _ => mean_mem_Icc hne hmin hmax
      jitter := fun _ => jitterOf_mem hrange hmin hmax }

omit [IsStrictOrderedRing K] in
/-- A report that is made of the times of all rounds has their figures. -/
theorem makeReport_measures (num : Numerics K) (config : UdpProbeConfig)
    (trips : List (Option K)) {s : ProbeLoop K W} (h : Tallied trips.length s)
    (hsamples : s.rttSamplesMs = trips.reduceOption) :
    (makeReport num config s).Measures trips := by
  have hcount : s.packetsReceived = trips.countP Option.isSome := by
    rw [h.received, hsamples, List.reduceOption_length_eq, List.countP_eq_length_filter]
  have hlost : trips.countP Option.isNone = s.packetsSent - s.packetsReceived := by
    have hsplit := List.length_eq_reduceOption_length_add_filter_none (l := trips)
    rw [← List.countP_eq_length_filter] at hsplit
    rw [h.sent, h.received, hsamples]
    omega
  have hmem : ∀ rtt, some rtt ∈ trips ↔ rtt ∈ s.rttSamplesMs := fun rtt => by
    rw [hsamples, List.reduceOption_mem_iff]
  rw [makeReport]
  split
  next hnil =>
    have hnone : s.packetsReceived = 0 := by rw [h.received, hnil, List.length_nil]
    refine ⟨h.sent, hnone.symm.trans hcount, fun hpos => ?_, ?_, ?_, ?_⟩
    · have hne : (trips.length : K) ≠ 0 := Nat.cast_ne_zero.mpr hpos.ne'
      rw [hlost, hnone, Nat.sub_zero, h.sent, div_self hne, one_mul]
    all_goals exact fun hpos => absurd hpos (lt_irrefl 0)
  next first rest hcons =>
    have hpos : 0 < s.packetsSent := by
      have hle := h.received_le
      rw [h.received, hcons, List.length_cons] at hle
      rw [h.sent]
      omega
    rw [hcons] at hmem
    refine ⟨h.sent, hcount, fun _ => ?_, fun _ => ?_, fun _ => ?_, fun _ => ?_⟩
    · rw [hlost, ← h.sent]
      exact if_pos hpos
    · obtain ⟨hmin, hle⟩ := foldl_min_spec first rest
      exact ⟨(hmem _).mpr hmin, fun rtt hrtt => hle rtt ((hmem rtt).mp hrtt)⟩
    · obtain ⟨hmax, hle⟩ := foldl_max_spec first rest
      exact ⟨(hmem _).mpr hmax, fun rtt hrtt => hle rtt ((hmem rtt).mp hrtt)⟩
    · rw [h.received, ← hsamples, hcons]

/-- **The report of a probe is consistent, and measures its packets**: whatever the sends and
receives return, it counts each packet of the configuration as sent and those as received that have
a round trip, it has the least, the greatest and the mean of these times, and its figures agree with
each other. -/
theorem probe_consistent (num : Numerics K) (ep : Endpoint W) (config : UdpProbeConfig)
    (world world' : W) (report : PingProbeReport K)
    (h : probe num ep config world = (.ok report, world')) : report.Consistent ∧
      report.packetsSent = config.packetCount.toNat ∧
      ∃ qpcFreq start, openSocket ep config world = (.ok qpcFreq, start) ∧
        report.Measures (roundTrips ep config qpcFreq config.packetCount.toNat start) := by
  obtain ⟨qpcFreq, start, hopen, rfl⟩ := probe_eq_ok h
  have htallied := probeRounds_tallied (K := K) ep config qpcFreq config.packetCount.toNat start
  have hmeasures := makeReport_measures num config
    (roundTrips ep config qpcFreq config.packetCount.toNat start)
    (by rw [length_roundTrips]; exact htallied) (probeRounds_samples ep config qpcFreq _ start)
  refine ⟨makeReport_consistent num config htallied, ?_, qpcFreq, start, hopen, hmeasures⟩
  rw [hmeasures.sent, length_roundTrips]

end Report

/-! ### Instances -/

/-- A world whose receives are known: the microseconds that each takes, where it returns the last
datagram that was sent. -/
structure Script where
  clock : ℕ
  last : List UInt8
  receives : List (Option ℕ)

def scripted : Endpoint Script where
  queryPerformanceFrequency w := (1000000, w)
  queryPerformanceCounter w := (w.clock, w)
  bind w := (.ok (), w)
  setReadTimeout _ w := (.ok (), w)
  sendTo payload _ w := (.ok (), { w with last := payload })
  recvFrom w :=
    match w.receives with
    | some micros :: receives => (.ok w.last, { w with clock := w.clock + micros, receives })
    | _ => (.error "timed out", { w with receives := w.receives.tail })
  sleep ms w := { w with clock := w.clock + 1000 * ms }

section Scripted

variable {config : UdpProbeConfig} {clock seq : ℕ} {last : List UInt8} {receives : List (Option ℕ)}

/-- The time of a packet is what its receive takes. -/
theorem roundTrip_scripted {receive : Option ℕ} (hseq : seq < 2 ^ 32)
    (hclock : clock + receive.getD 0 < 2 ^ 64) :
    roundTrip scripted config 1000000 seq ⟨clock, last, receive :: receives⟩ =
      receive.map fun micros => (micros : K) / 1000 := by
  have hqpc : ∀ n : ℕ, n < 2 ^ 64 → getQpcTimeUs 1000000 n = n := by
    intro n hn
    rw [getQpcTimeUs, Int.mul_tdiv_cancel _ (by norm_num), Int.toNat_natCast]
    omega
  cases receive with
  | none => rfl
  | some micros =>
    rw [Option.getD_some] at hclock
    have htime : getQpcTimeUs 1000000 ((clock + micros : ℕ) : ℤ) - getQpcTimeUs 1000000 clock =
        micros := by
      rw [hqpc _ hclock, hqpc clock (by omega)]
      omega
    have hreads : 12 ≤ (leBytes 4 seq ++ leBytes 8 (getQpcTimeUs 1000000 clock)).length ∧
        leValue ((leBytes 4 seq ++ leBytes 8 (getQpcTimeUs 1000000 clock)).take 4) = seq := by
      constructor
      · rw [List.length_append, length_leBytes, length_leBytes]
      · rw [List.take_left' (length_leBytes 4 seq), leValue_leBytes]
        exact hseq
    rw [roundTrip]
    dsimp only [scripted, replyTime]
    rw [if_pos hreads, htime]
    rfl

/-- A round takes what its receive takes, and the pause after it. -/
theorem probeRound_scripted_world {qpcFreq : ℤ} {s : ProbeLoop K Script} {receive : Option ℕ}
    (hworld : s.world = ⟨clock, last, receive :: receives⟩) :
    (probeRound scripted config qpcFreq s seq).world =
      ⟨clock + receive.getD 0 + 1000 * config.packetIntervalMs.toNat,
        leBytes 4 seq ++ leBytes 8 (getQpcTimeUs qpcFreq clock), receives⟩ := by
  have hreceive : ∀ payload sent, (receiveReply (K := K) scripted qpcFreq seq
      (getQpcTimeUs qpcFreq clock) { s with
        world := ⟨clock, payload, receive :: receives⟩
        packetsSent := sent }).world = ⟨clock + receive.getD 0, payload, receives⟩ := by
    intro payload sent
    rw [receiveReply]
    cases receive with
    | none => rfl
    | some micros =>
      dsimp only [scripted]
      split_ifs <;> rfl
  rw [probeRound, hworld]
  dsimp only [scripted] at hreceive ⊢
  split_ifs with hpause
  · rw [hreceive]
  · have hzero : config.packetIntervalMs.toNat = 0 :=
      Nat.eq_zero_of_not_pos fun hpos => hpause (UInt64.lt_iff_toNat_lt.mpr hpos)
    rw [hreceive, hzero, Nat.mul_zero, Nat.add_zero]

/-- A first packet that is answered: its time is what the receive takes. -/
theorem scripted_answered {micros : ℕ} (hclock : clock + micros < 2 ^ 64) :
    (probeRounds (K := K) scripted config 1000000 1
      ⟨clock, last, some micros :: receives⟩).rttSamplesMs = [(micros : K) / 1000] := by
  have htrips :
      roundTrips (K := K) scripted config 1000000 1 ⟨clock, last, some micros :: receives⟩ =
      [some ((micros : K) / 1000)] :=
    congrArg (fun trip => [trip]) (roundTrip_scripted (by norm_num) hclock)
  rw [probeRounds_samples, htrips]
  rfl

end Scripted

def threePackets : UdpProbeConfig := { UdpProbeConfig.default with packetCount := 3 }

theorem roundTrips_threePackets : roundTrips (K := ℝ) scripted threePackets 1000000 3
    ⟨0, [], [some 3000, none, some 5000]⟩ = [some 3, none, some 5] := by
  have hfirst : (probeRound (K := ℝ) scripted threePackets 1000000
      (probeRounds scripted threePackets 1000000 0 ⟨0, [], [some 3000, none, some 5000]⟩) 1).world =
        _ := probeRound_scripted_world rfl
  rw [← probeRounds_succ] at hfirst
  have hsecond : (probeRound (K := ℝ) scripted threePackets 1000000 _ 2).world = _ :=
    probeRound_scripted_world hfirst
  rw [← probeRounds_succ] at hsecond
  have htimes : roundTrips (K := ℝ) scripted threePackets 1000000 3
      ⟨0, [], [some 3000, none, some 5000]⟩ =
        [roundTrip scripted threePackets 1000000 1 ⟨0, [], [some 3000, none, some 5000]⟩,
        roundTrip scripted threePackets 1000000 2 _, roundTrip scripted threePackets 1000000 3 _] :=
    congrArg₂ (fun second third => [_, roundTrip _ _ _ 2 second, roundTrip _ _ _ 3 third])
      hfirst hsecond
  have hpause : threePackets.packetIntervalMs.toNat = 10 := rfl
  rw [htimes, roundTrip_scripted (by norm_num) (by norm_num),
    roundTrip_scripted (by norm_num) (by norm_num [hpause]),
    roundTrip_scripted (by norm_num) (by norm_num [hpause])]
  norm_num

/-- Of three packets the first is answered after 3 ms and the last after 5 ms; the second is
lost. -/
theorem probe_consistent_scripted : ∃ report world',
    probe sampleNumerics scripted threePackets ⟨0, [], [some 3000, none, some 5000]⟩ =
        (.ok report, world') ∧
      report.packetsSent = 3 ∧ report.packetsReceived = 2 ∧
      report.packetLossPercent = 1 / 3 * 100 ∧ report.minRttMs = 3 ∧ report.avgRttMs = 4 ∧
      report.maxRttMs = 5 ∧ report.medianRttMs ∈ Set.Icc 3 5 ∧ report.jitterMs ∈ Set.Icc 0 2 := by
  obtain ⟨hconsistent, hsent, qpcFreq, start, hopen, hmeasures⟩ :=
    probe_consistent sampleNumerics scripted threePackets ⟨0, [], [some 3000, none, some 5000]⟩
      _ _ rfl
  obtain ⟨hfreq, hstart⟩ := Prod.ext_iff.mp hopen
  have htrips : roundTrips (K := ℝ) scripted threePackets qpcFreq threePackets.packetCount.toNat
      start = [some 3, none, some 5] := by
    have hworld : start = ⟨0, [], [some 3000, none, some 5000]⟩ := hstart.symm
    rw [← Except.ok.inj hfreq, hworld]
    exact roundTrips_threePackets
  refine ⟨_, _, rfl, hsent, ?_⟩
  generalize makeReport (K := ℝ) sampleNumerics threePackets
    (probeRounds scripted threePackets 1000000 threePackets.packetCount.toNat
      ⟨0, [], [some 3000, none, some 5000]⟩) = report at *
  rw [htrips] at hmeasures
  have hreceived : report.packetsReceived = 2 := hmeasures.received
  have hpos : 0 < report.packetsReceived := by omega
  have hmin : report.minRttMs = 3 := by
    obtain ⟨hmem, hle⟩ := hmeasures.min hpos
    have := hle 3 List.mem_cons_self
    simp only [List.mem_cons, Option.some.injEq, List.not_mem_nil, or_false] at hmem
    rcases hmem with hmem | hmem | hmem
    · exact hmem
    · exact nomatch hmem
    · linarith
  have hmax : report.maxRttMs = 5 := by
    obtain ⟨hmem, hle⟩ := hmeasures.max hpos
    have := hle 5 (by simp)
    simp only [List.mem_cons, Option.some.injEq, List.not_mem_nil, or_false] at hmem
    rcases hmem with hmem | hmem | hmem
    · linarith
    · exact nomatch hmem
    · exact hmem
  have hmedian := hconsistent.median hpos
  have hjitter := hconsistent.jitter hpos
  rw [hmin, hmax] at hmedian hjitter
  refine ⟨hreceived, ?_, hmin, ?_, hmax, hmedian, ?_⟩
  · rw [hmeasures.loss (by decide)]
    norm_num [List.countP_cons]
  · rw [hmeasures.avg hpos, hreceived, List.reduceOption_cons_of_some,
      List.reduceOption_cons_of_none, List.reduceOption_cons_of_some]
    norm_num
  · exact ⟨hjitter.1, by linarith [hjitter.2]⟩

end ValOpt
