import ValOpt.Network.Bufferbloat
import ValOpt.Network.Equiv.Probe

/-!
# What a grade rests on

A phase of `run_test` without replies has the round-trip time `0` in its report.  Under load it also
has a loss of 100 %, and so the grade F.  The loss without load is not looked at: there the median
under load is taken for the delta.  So a grade other than F rests on replies in both phases exactly
if there are replies without load, or the phase under load gives the grade F by itself
(`gradedOnEvidence_iff`).
-/

namespace ValOpt

open Bytes

variable {K W : Type} [Field K] [LinearOrder K]

/-! ### Phases -/

/-- The variables of a probe after its rounds, if its socket is ready. -/
def probeOutcome (ep : Endpoint W) (config : UdpProbeConfig) (world : W) :
    Except String (ProbeLoop K W) :=
  match openSocket ep config world with
  | (.error e, _) => .error e
  | (.ok qpcFreq, world) => .ok (probeRounds ep config qpcFreq config.packetCount.toNat world)

/-- The phase without load. -/
def unloadedPhase (bench : TestBench K W) (config : BufferbloatConfig) (start : W) :
    Except String (ProbeLoop K W) :=
  probeOutcome bench.toEndpoint config.unloaded start

/-- The phase under load, in the world that the phase without load leaves. -/
def loadedPhase (bench : TestBench K W) (config : BufferbloatConfig) (world : W) :
    Except String (ProbeLoop K W) :=
  probeOutcome bench.toEndpoint config.loaded (startLoad bench config world)

variable [FloorSemiring K]

/-- A grade other than F rests on replies in both phases, and the delta on their medians. -/
def GradedOnEvidence (num : Numerics K) (bench : TestBench K W) (config : BufferbloatConfig)
    (start : W) : Prop :=
  ∀ report world', runTest num bench config start = (.ok report, world') → report.grade ≠ .f →
    ∃ unloaded loaded : ProbeLoop K W, unloadedPhase bench config start = .ok unloaded ∧
      loadedPhase bench config unloaded.world = .ok loaded ∧
      0 < unloaded.packetsReceived ∧ 0 < loaded.packetsReceived ∧
      report.bufferbloatDeltaMs =
        max (medianOf loaded.rttSamplesMs - medianOf unloaded.rttSamplesMs) 0

/-- There are replies without load, or the phase under load shows too great a loss or delay. -/
def UnloadedAnswered (bench : TestBench K W) (config : BufferbloatConfig) (start : W) : Prop :=
  ∀ unloaded loaded : ProbeLoop K W, unloadedPhase bench config start = .ok unloaded →
    loadedPhase bench config unloaded.world = .ok loaded →
    0 < unloaded.packetsReceived ∨ loaded.packetsReceived = 0 ∨
      5 < lossPercent (K := K) loaded.packetsSent loaded.packetsReceived ∨
      (120 : ℕ) ≤ medianOf loaded.rttSamplesMs

/-! ### The reports of the phases -/

section Reports

variable {num : Numerics K} {config : UdpProbeConfig} {s : ProbeLoop K W}

variable (num) in
theorem probe_eq_error {ep : Endpoint W} {world : W} {e : String}
    (h : probeOutcome (K := K) ep config world = .error e) :
    ∃ world', probe num ep config world = (.error e, world') := by
  rw [probeOutcome] at h
  rcases hopen : openSocket ep config world with ⟨e' | qpcFreq, world'⟩
  · rw [hopen] at h
    rw [probe, hopen, ← Except.error.inj h]
    exact ⟨world', rfl⟩
  · rw [hopen] at h
    cases h

theorem probe_of_outcome {ep : Endpoint W} {world : W} (h : probeOutcome ep config world = .ok s) :
    probe num ep config world = (.ok (makeReport num config s), s.world) := by
  rw [probeOutcome] at h
  rcases hopen : openSocket ep config world with ⟨e | qpcFreq, start⟩
  · rw [hopen] at h
    cases h
  · rw [hopen] at h
    rw [probe, hopen, ← Except.ok.inj h]

omit [LinearOrder K] [FloorSemiring K] in
theorem tallied_of_outcome {ep : Endpoint W} {world : W}
    (h : probeOutcome ep config world = .ok s) : Tallied config.packetCount.toNat s := by
  rw [probeOutcome] at h
  split at h
  next => exact nomatch h
  next qpcFreq start hopen =>
    rw [← Except.ok.inj h]
    exact probeRounds_tallied ep config qpcFreq _ start

/-- Without replies the loss is 100 %. -/
theorem makeReport_loss : (makeReport num config s).packetLossPercent =
    if s.rttSamplesMs = [] then 100 else lossPercent s.packetsSent s.packetsReceived := by
  rw [makeReport]
  split
  next hnil => rw [if_pos hnil]
  next hcons =>
    rw [if_neg (by rw [hcons]; exact List.cons_ne_nil _ _)]

variable (num config s) in
/-- Without replies the median is `0`, as that of no samples. -/
theorem makeReport_median : (makeReport num config s).medianRttMs = medianOf s.rttSamplesMs := by
  rw [makeReport]
  split
  next hnil =>
    rw [hnil, medianOf_nil]
  next hcons => rw [hcons]

end Reports

/-! ### The grade -/

omit [FloorSemiring K] in
theorem fromLatencyDelta_eq_f_iff [IsStrictOrderedRing K] {deltaMs packetLossPct : K} :
    BufferbloatGrade.fromLatencyDelta deltaMs packetLossPct = .f ↔
      5 < packetLossPct ∨ 120 ≤ deltaMs := by
  rw [BufferbloatGrade.fromLatencyDelta]
  split_ifs with hloss h5 h15 h30 h60 h120
  · exact iff_of_true rfl (.inl hloss)
  · exact iff_of_false (fun h => nomatch h) (not_or.mpr ⟨hloss, by linarith⟩)
  · exact iff_of_false (fun h => nomatch h) (not_or.mpr ⟨hloss, by linarith⟩)
  · exact iff_of_false (fun h => nomatch h) (not_or.mpr ⟨hloss, by linarith⟩)
  · exact iff_of_false (fun h => nomatch h) (not_or.mpr ⟨hloss, by linarith⟩)
  · exact iff_of_false (fun h => nomatch h) (not_or.mpr ⟨hloss, by linarith⟩)
  · exact iff_of_true rfl (.inr (not_lt.mp h120))

section Test

variable {num : Numerics K} {bench : TestBench K W} {config : BufferbloatConfig} {start : W}

/-- A test that reports has done both phases. -/
theorem runTest_eq_ok {report : BufferbloatReport K} {world' : W}
    (h : runTest num bench config start = (.ok report, world')) :
    ∃ unloaded loaded : ProbeLoop K W, unloadedPhase bench config start = .ok unloaded ∧
      loadedPhase bench config unloaded.world = .ok loaded ∧
      ∃ duration, report = bufferbloatReport num config (makeReport num config.unloaded unloaded)
        (makeReport num config.loaded loaded) duration := by
  rw [runTest] at h
  rcases hunloaded : unloadedPhase (K := K) bench config start with e | unloaded
  · obtain ⟨world, hprobe⟩ := probe_eq_error num hunloaded
    rw [hprobe] at h
    exact nomatch h
  · rw [probe_of_outcome hunloaded] at h
    dsimp only at h
    rcases hloaded : loadedPhase (K := K) bench config unloaded.world with e | loaded
    · obtain ⟨world, hprobe⟩ := probe_eq_error num hloaded
      rw [hprobe] at h
      exact nomatch h
    · rw [probe_of_outcome hloaded] at h
      exact ⟨unloaded, loaded, rfl, hloaded, _, (Except.ok.inj (Prod.ext_iff.mp h).1).symm⟩

variable (num) in
/-- Where both phases are done, the test reports. -/
theorem runTest_of_phases {unloaded loaded : ProbeLoop K W}
    (hunloaded : unloadedPhase bench config start = .ok unloaded)
    (hloaded : loadedPhase bench config unloaded.world = .ok loaded) :
    ∃ duration world', runTest num bench config start =
      (.ok (bufferbloatReport num config (makeReport num config.unloaded unloaded)
        (makeReport num config.loaded loaded) duration), world') := by
  rw [runTest, probe_of_outcome hunloaded]
  dsimp only
  rw [probe_of_outcome hloaded]
  exact ⟨_, _, rfl⟩

variable (num config) in
theorem bufferbloatReport_delta (unloaded loaded : ProbeLoop K W) (duration : K) :
    (bufferbloatReport num config (makeReport num config.unloaded unloaded)
      (makeReport num config.loaded loaded) duration).bufferbloatDeltaMs =
        max (medianOf loaded.rttSamplesMs - medianOf unloaded.rttSamplesMs) 0 := by
  rw [← makeReport_median num config.unloaded, ← makeReport_median num config.loaded]
  rfl

variable (num config) in
/-- The grade F, from the samples of the phases. -/
theorem bufferbloatReport_grade_eq_f_iff [IsStrictOrderedRing K] (unloaded loaded : ProbeLoop K W)
    (duration : K) :
    (bufferbloatReport num config (makeReport num config.unloaded unloaded)
      (makeReport num config.loaded loaded) duration).grade = .f ↔
        loaded.rttSamplesMs = [] ∨
        5 < lossPercent (K := K) loaded.packetsSent loaded.packetsReceived ∨
        120 ≤ medianOf loaded.rttSamplesMs - medianOf unloaded.rttSamplesMs := by
  have hgrade : (bufferbloatReport num config (makeReport num config.unloaded unloaded)
      (makeReport num config.loaded loaded) duration).grade = BufferbloatGrade.fromLatencyDelta
        (max (medianOf loaded.rttSamplesMs - medianOf unloaded.rttSamplesMs) 0)
        (makeReport num config.loaded loaded).packetLossPercent := by
    rw [← bufferbloatReport_delta num config unloaded loaded duration]
    rfl
  have hdelta : 120 ≤ max (medianOf loaded.rttSamplesMs - medianOf unloaded.rttSamplesMs) 0 ↔
      120 ≤ medianOf loaded.rttSamplesMs - medianOf unloaded.rttSamplesMs := by
    rw [le_max_iff, or_iff_left (by norm_num)]
  rw [hgrade, fromLatencyDelta_eq_f_iff, hdelta, makeReport_loss]
  split_ifs with hnil
  · exact iff_of_true (.inl (by norm_num)) (.inl hnil)
  · rw [or_iff_right hnil]

/-- **A grade other than F rests on replies in both phases** exactly if there are replies without
load, or the phase under load is enough for an F. -/
theorem gradedOnEvidence_iff [IsStrictOrderedRing K] (num : Numerics K) (bench : TestBench K W)
    (config : BufferbloatConfig) (start : W) :
    GradedOnEvidence num bench config start ↔ UnloadedAnswered (K := K) bench config start := by
  have hreceived : ∀ {config world} {s : ProbeLoop K W},
      probeOutcome bench.toEndpoint config world = .ok s →
        (s.packetsReceived = 0 ↔ s.rttSamplesMs = []) := by
    intro config world s hs
    rw [(tallied_of_outcome hs).received, List.length_eq_zero_iff]
  constructor
  · intro h unloaded loaded hunloaded hloaded
    by_contra hnone
    obtain ⟨hno, hany, hloss, hmedian⟩ : _ ∧ _ ∧ _ ∧ _ := by
      simpa only [not_or] using hnone
    -- there is no reply without load, so the median under load is the delta
    have hnil := (hreceived hunloaded).mp (Nat.eq_zero_of_not_pos hno)
    obtain ⟨duration, world', hrun⟩ := runTest_of_phases num hunloaded hloaded
    have hgrade : ¬ _ := mt (bufferbloatReport_grade_eq_f_iff num config unloaded
      loaded duration).mp ?_
    · obtain ⟨unloaded', -, hunloaded', -, hpos, -⟩ := h _ _ hrun hgrade
      rw [hunloaded] at hunloaded'
      rw [← Except.ok.inj hunloaded'] at hpos
      exact hno hpos
    · rw [hnil, medianOf_nil, sub_zero, ← hreceived hloaded]
      exact hnone ∘ Or.inr
  · intro h report world' hrun hgrade
    obtain ⟨unloaded, loaded, hunloaded, hloaded, duration, rfl⟩ := runTest_eq_ok hrun
    rw [ne_eq, bufferbloatReport_grade_eq_f_iff] at hgrade
    obtain ⟨hany, hloss, hdelta⟩ : _ ∧ _ ∧ _ := by
      simpa only [not_or] using hgrade
    rw [← hreceived hloaded] at hany
    refine ⟨unloaded, loaded, hunloaded, hloaded, ?_, Nat.pos_of_ne_zero hany,
      bufferbloatReport_delta num config unloaded loaded duration⟩
    rcases h unloaded loaded hunloaded hloaded with hpos | hzero | hhigh | hmedian
    · exact hpos
    · exact absurd hzero hany
    · exact absurd hhigh hloss
    · by_contra hno
      have hnil := (hreceived hunloaded).mp (Nat.eq_zero_of_not_pos hno)
      rw [hnil, medianOf_nil, sub_zero] at hdelta
      exact hdelta hmedian

end Test

/-! ### Instances -/

noncomputable def scriptedBench : TestBench ℝ Script where
  toEndpoint := scripted
  startLoad _ _ w := w
  joinLoad w := w
  elapsedSecs start w := ((w.clock - start.clock : ℕ) : ℝ) / (1000000 : ℕ)

/-- A test with one packet in each phase. -/
def onePacket : BufferbloatConfig where
  targetAddr := "1.1.1.1:53"
  probeCountUnloaded := 1
  probeCountLoaded := 1
  probeIntervalMs := 0
  timeoutMs := 200
  loadConcurrency := 4
  loadTargetAddr := none
  loadDurationSecs := 2

/-- The packet without load is lost, and the one under load is answered after 3 ms: nothing is
measured without load, and yet the grade is not F. -/
theorem not_gradedOnEvidence_firstLost : ¬ GradedOnEvidence sampleNumerics scriptedBench onePacket
    ⟨0, [], [none, some 3000]⟩ := by
  intro h
  have hunloaded : unloadedPhase (K := ℝ) scriptedBench onePacket ⟨0, [], [none, some 3000]⟩ =
      .ok ⟨⟨0, leBytes 4 1 ++ leBytes 8 0, [some 3000]⟩, [], 1, 0⟩ := rfl
  have hloaded : loadedPhase (K := ℝ) scriptedBench onePacket
      ⟨0, leBytes 4 1 ++ leBytes 8 0, [some 3000]⟩ =
        .ok (probeRounds scripted onePacket.loaded 1000000 1
          ⟨0 + 1000 * 150, leBytes 4 1 ++ leBytes 8 0, [some 3000]⟩) := rfl
  have hsamples : (probeRounds (K := ℝ) scripted onePacket.loaded 1000000 1
      ⟨0 + 1000 * 150, leBytes 4 1 ++ leBytes 8 0, [some 3000]⟩).rttSamplesMs =
        [((3000 : ℕ) : ℝ) / 1000] := scripted_answered (by norm_num)
  obtain ⟨hsent, hreceived, -⟩ := tallied_of_outcome hloaded
  obtain ⟨duration, world', hrun⟩ :=
    runTest_of_phases sampleNumerics hunloaded hloaded
  obtain ⟨unloaded, -, hphase, -, hpos, -⟩ := h _ _ hrun <| by
    rw [ne_eq, bufferbloatReport_grade_eq_f_iff, hsent, hreceived, hsamples]
    rintro (hnil | hloss | hdelta)
    · exact List.cons_ne_nil _ _ hnil
    · have hcount : onePacket.loaded.packetCount.toNat = 1 := rfl
      rw [hcount, lossPercent] at hloss
      norm_num at hloss
    · rw [medianOf_singleton, medianOf_nil] at hdelta
      norm_num at hdelta
  rw [← Except.ok.inj (hunloaded.symm.trans hphase)] at hpos
  exact lt_irrefl 0 hpos

/-- Both packets are answered. -/
theorem gradedOnEvidence_answered : GradedOnEvidence sampleNumerics scriptedBench onePacket
    ⟨0, [], [some 2000, some 3000]⟩ := by
  apply (gradedOnEvidence_iff sampleNumerics scriptedBench onePacket _).mpr
  intro unloaded loaded hunloaded _
  have hphase : unloadedPhase (K := ℝ) scriptedBench onePacket ⟨0, [], [some 2000, some 3000]⟩ =
      .ok (probeRounds scripted onePacket.unloaded 1000000 1
        ⟨0, [], [some 2000, some 3000]⟩) := rfl
  have hsamples : unloaded.rttSamplesMs = [((2000 : ℕ) : ℝ) / 1000] := by
    rw [← Except.ok.inj (hphase.symm.trans hunloaded)]
    exact scripted_answered (by norm_num)
  left
  rw [(tallied_of_outcome hunloaded).received, hsamples]
  exact Nat.one_pos

end ValOpt
