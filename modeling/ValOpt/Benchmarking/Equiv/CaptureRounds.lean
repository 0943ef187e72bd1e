import Mathlib.Data.Int.ModEq
import ValOpt.Benchmarking.Equiv.Comparison
import ValOpt.Benchmarking.Equiv.FrameCapture

/-!
# Rounds of one engine

`start_real_capture` clears the collector but not the two counters of the engine, which every round
goes on counting (`capture_eq`).  So the numbers of the samples start after those of the rounds
before, and the dropped events are reported with those of all rounds; two engines report the same of
a round exactly if their counters agree as far as the round shows them (`readings_eq_iff`).
-/

namespace ValOpt

variable {K : Type} [Field K] [LinearOrder K] [FloorSemiring K]

/-! ### Time stamps in two parts -/

theorem framesFrom_append (qpcFrequency : Int64) (captured : UInt64) (last : Int64)
    (xs ys : List Int64) :
    (framesFrom qpcFrequency captured last (xs ++ ys) : List (FrameSample K)) =
      framesFrom qpcFrequency captured last xs ++
        framesFrom qpcFrequency (captured + UInt64.ofNat
          (framesFrom qpcFrequency captured last xs : List (FrameSample K)).length)
          (xs.getLastD last) ys := by
  induction xs generalizing captured last with
  | nil =>
    show _ = framesFrom qpcFrequency (captured + 0) last ys
    rw [UInt64.add_zero]
    rfl
  | cons now xs ih =>
    rw [List.cons_append, framesFrom, framesFrom, List.getLastD_cons]
    split
    · rw [ih, List.cons_append, List.length_cons, UInt64.ofNat_add, UInt64.add_assoc,
        UInt64.add_comm 1]
      rfl
    · exact ih captured now

omit [FloorSemiring K] in
theorem droppedFrom_append (qpcFrequency last : Int64) (xs ys : List Int64) :
    droppedFrom K qpcFrequency last (xs ++ ys) =
      droppedFrom K qpcFrequency last xs + droppedFrom K qpcFrequency (xs.getLastD last) ys := by
  induction xs generalizing last with
  | nil => exact (Nat.zero_add _).symm
  | cons now xs ih =>
    rw [List.cons_append, droppedFrom, droppedFrom, List.getLastD_cons, ih, Nat.add_assoc]

/-- How many samples there are does not depend on how they are numbered. -/
theorem length_framesFrom (qpcFrequency : Int64) (captured captured' : UInt64) (last : Int64)
    (xs : List Int64) :
    (framesFrom qpcFrequency captured last xs : List (FrameSample K)).length =
      (framesFrom qpcFrequency captured' last xs : List (FrameSample K)).length := by
  induction xs generalizing captured captured' last with
  | nil => rfl
  | cons now xs ih =>
    rw [framesFrom, framesFrom]
    split
    · rw [List.length_cons, List.length_cons, ih]
    · exact ih captured captured' now

/-! ### One round -/

namespace CaptureRound

/-- The system lets the round start. -/
def Starts (round : CaptureRound) : Prop :=
  round.start.elevated ∧ 0 < round.start.qpcFrequency ∧ round.start.startErr = 0

instance (round : CaptureRound) : Decidable round.Starts := inferInstanceAs (Decidable (_ ∧ _ ∧ _))

/-- The time stamps of the present events, up to the stop and in all. -/
def recordedStamps (round : CaptureRound) : List Int64 :=
  stampsOf round.start.targetPid round.events

def stamps (round : CaptureRound) : List Int64 :=
  stampsOf round.start.targetPid (round.events ++ round.late)

variable (K)

/-- The frames that the round captures, also after the stop. -/
def captured (round : CaptureRound) : ℕ :=
  if round.Starts then
    (framesFrom round.start.qpcFrequency 0 0 round.stamps : List (FrameSample K)).length
  else 0

/-- The events that it drops. -/
def dropped (round : CaptureRound) : ℕ :=
  if round.Starts then droppedFrom K round.start.qpcFrequency 0 round.stamps else 0

/-- A sample is recorded. -/
def Records (round : CaptureRound) : Prop :=
  (framesFrom round.start.qpcFrequency 0 0 round.recordedStamps : List (FrameSample K)) ≠ []

end CaptureRound

namespace EtwFrameCaptureEngine

variable {e : EtwFrameCaptureEngine K} {round : CaptureRound}

omit [Field K] [LinearOrder K] [FloorSemiring K] in
theorem startRealCapture_ok (hidle : e.isActive = false) (hstarts : round.Starts) :
    e.startRealCapture round.start = .ok (
      { e with
        collector := e.collector.clear.start
        isActive := true },
      { collector := e.collector.clear.start
        targetPid := round.start.targetPid
        lastPresentQpc := 0
        qpcFrequency := round.start.qpcFrequency
        eventsCaptured := e.eventsCaptured
        droppedEvents := e.droppedEvents }) := by
  obtain ⟨helevated, hfreq, herr⟩ := hstarts
  have hfreq' : ¬round.start.qpcFrequency ≤ 0 := Int64.not_le.mpr hfreq
  simp [startRealCapture, hidle, helevated, hfreq', herr]

/-- **What a round comes to.** -/
theorem capture_eq (hidle : e.isActive = false) (hstarts : round.Starts) :
    (e.capture round).isActive = false ∧
      (e.capture round).collector.samples =
        framesFrom round.start.qpcFrequency e.eventsCaptured 0 round.recordedStamps ∧
      (e.capture round).eventsCaptured = e.eventsCaptured + UInt64.ofNat (round.captured K) ∧
      (e.capture round).droppedEvents = e.droppedEvents + UInt64.ofNat (round.dropped K) := by
  have hsplit : round.stamps =
      round.recordedStamps ++ stampsOf round.start.targetPid round.late := by
    rw [CaptureRound.stamps, stampsOf, List.filter_append, List.map_append]
    rfl
  have hstop : ∀ (c : FrameCollector K) frames, c.stop.extend frames = c.stop := by
    intro c frames
    rfl
  have hstart : ∀ (c : FrameCollector K) frames,
      (c.clear.start.extend frames).samples = frames := by
    intro c frames
    rfl
  have hcaptured : round.captured K =
      (framesFrom round.start.qpcFrequency e.eventsCaptured 0 round.stamps :
        List (FrameSample K)).length := by
    rw [CaptureRound.captured, if_pos hstarts]
    exact length_framesFrom ..
  rw [hcaptured, CaptureRound.dropped, if_pos hstarts, hsplit, framesFrom_append,
    droppedFrom_append, List.length_append, UInt64.ofNat_add, UInt64.ofNat_add, ← UInt64.add_assoc,
    ← UInt64.add_assoc]
  simp only [capture, startRealCapture_ok hidle hstarts, foldl_callback, EtwCaptureContext.after,
    hstop]
  refine ⟨trivial, ?_, rfl, rfl⟩
  exact hstart ..

theorem capture_of_not_starts (hidle : e.isActive = false) (hnot : ¬round.Starts) :
    e.capture round = e := by
  have herror : ∃ message, e.startRealCapture round.start = .error message := by
    unfold startRealCapture
    rw [if_neg (by rw [hidle]; exact Bool.false_ne_true)]
    split
    · exact ⟨_, rfl⟩
    · next helevated =>
      split
      · exact ⟨_, rfl⟩
      · next hfreq =>
        split
        · exact ⟨_, rfl⟩
        · next herr =>
          rw [Bool.not_eq_true, Bool.not_eq_false'] at helevated
          exact absurd ⟨helevated, Int64.not_le.mp hfreq, not_not.mp herr⟩ hnot
  obtain ⟨message, herror⟩ := herror
  rw [capture, herror]

/-- The engine after some rounds. -/
def run (history : List CaptureRound) : EtwFrameCaptureEngine K := history.foldl capture new

variable (K) in
/-- The frames that some rounds captured, and the events that they dropped. -/
def capturedIn (history : List CaptureRound) : ℕ := (history.map (·.captured K)).sum

variable (K) in
def droppedIn (history : List CaptureRound) : ℕ := (history.map (·.dropped K)).sum

/-- The counters go on through all rounds. -/
theorem run_counters (history : List CaptureRound) :
    (run history : EtwFrameCaptureEngine K).isActive = false ∧
      (run history : EtwFrameCaptureEngine K).eventsCaptured = UInt64.ofNat (capturedIn K history) ∧
      (run history : EtwFrameCaptureEngine K).droppedEvents =
        UInt64.ofNat (droppedIn K history) := by
  induction history using List.reverseRecOn with
  | nil => exact ⟨rfl, rfl, rfl⟩
  | append_singleton history round ih =>
    obtain ⟨hidle, hcaptured, hdropped⟩ := ih
    have hrun : (run (history ++ [round]) : EtwFrameCaptureEngine K) =
        (run history).capture round := by
      rw [run, List.foldl_append]
      rfl
    have hcapturedIn : capturedIn K (history ++ [round]) =
        capturedIn K history + round.captured K := by
      simp [capturedIn]
    have hdroppedIn : droppedIn K (history ++ [round]) = droppedIn K history + round.dropped K := by
      simp [droppedIn]
    rw [hrun, hcapturedIn, hdroppedIn, UInt64.ofNat_add, UInt64.ofNat_add]
    by_cases hstarts : round.Starts
    · obtain ⟨hidle', _, hcaptured', hdropped'⟩ := capture_eq hidle hstarts
      rw [hcaptured', hdropped', hcaptured, hdropped]
      exact ⟨hidle', rfl, rfl⟩
    · rw [capture_of_not_starts hidle hstarts, CaptureRound.captured, CaptureRound.dropped,
        if_neg hstarts, if_neg hstarts, hcaptured, hdropped]
      refine ⟨hidle, ?_, ?_⟩
      · exact (UInt64.add_zero _).symm
      · exact (UInt64.add_zero _).symm

/-! ### What is read of a round -/

/-- The metrics, the provenance and the samples of an engine. -/
def readings (num : Numerics K) (warmupFrames : ℕ) (environment : Option (EnvironmentalTelemetry K))
    (e : EtwFrameCaptureEngine K) :
    Option (Except String (ComputedMetrics K)) × TelemetryProvenance × List (FrameSample K) :=
  (e.calculateMetricsWithEnv num warmupFrames environment, e.provenance, e.collector.samples)

/-- They are read of the samples and of the counter of dropped events. -/
theorem readings_eq_readings_iff (num : Numerics K) (warmupFrames : ℕ)
    (environment : Option (EnvironmentalTelemetry K)) (e e' : EtwFrameCaptureEngine K) :
    readings num warmupFrames environment e = readings num warmupFrames environment e' ↔
      e.droppedEvents = e'.droppedEvents ∧ e.collector.samples = e'.collector.samples := by
  constructor
  · intro heq
    exact ⟨congrArg (·.2.1.droppedEvents) heq, congrArg (·.2.2) heq⟩
  · rintro ⟨hdropped, hsamples⟩
    simp only [readings, calculateMetricsWithEnv, provenance, hdropped, hsamples]

/-- The samples of a round show where their numbering starts, if there are any. -/
theorem framesFrom_eq_framesFrom_iff (round : CaptureRound) (captured captured' : UInt64) :
    (framesFrom round.start.qpcFrequency captured 0 round.recordedStamps :
        List (FrameSample K)) =
        framesFrom round.start.qpcFrequency captured' 0 round.recordedStamps ↔
      (round.Records K → captured = captured') := by
  constructor
  · intro heq hrecords
    have hindex := congrArg (List.map fun s : FrameSample K => s.frameIndex) heq
    rw [frameIndex_framesFrom, frameIndex_framesFrom, length_framesFrom (K := K) _ captured 0,
      length_framesFrom (K := K) _ captured' 0] at hindex
    -- The first sample is numbered after those of the rounds before.
    obtain ⟨n, hn⟩ := Nat.exists_eq_succ_of_ne_zero (mt List.length_eq_zero_iff.mp hrecords)
    rw [hn, List.range_succ_eq_map, List.map_cons, List.map_cons] at hindex
    have hfirst := (List.cons.inj hindex).1
    rw [UInt64.add_left_inj] at hfirst
    exact hfirst
  · intro h
    by_cases hrecords : round.Records K
    · rw [h hrecords]
    · have hempty : ∀ captured : UInt64,
          (framesFrom round.start.qpcFrequency captured 0 round.recordedStamps :
            List (FrameSample K)) = [] := by
        intro captured
        rw [CaptureRound.Records, not_not] at hrecords
        rw [← List.length_eq_zero_iff, length_framesFrom _ captured 0, hrecords]
        rfl
      rw [hempty, hempty]

theorem ofNat_eq_ofNat_iff (m n : ℕ) : UInt64.ofNat m = UInt64.ofNat n ↔ m ≡ n [MOD 2 ^ 64] := by
  rw [← UInt64.toNat_inj, UInt64.toNat_ofNat', UInt64.toNat_ofNat']
  rfl

/-- After different rounds before, two engines report the same of a round exactly if these dropped
equally many events and, unless the round records no sample, captured equally many frames. -/
theorem readings_eq_iff (num : Numerics K) (warmupFrames : ℕ)
    (environment : Option (EnvironmentalTelemetry K)) (history history' : List CaptureRound)
    {round : CaptureRound} (hstarts : round.Starts) :
    readings num warmupFrames environment ((run history).capture round) =
        readings num warmupFrames environment ((run history').capture round) ↔
      droppedIn K history ≡ droppedIn K history' [MOD 2 ^ 64] ∧
        (round.Records K → capturedIn K history ≡ capturedIn K history' [MOD 2 ^ 64]) := by
  obtain ⟨hidle, hcaptured, hdropped⟩ := run_counters (K := K) history
  obtain ⟨hidle', hcaptured', hdropped'⟩ := run_counters (K := K) history'
  obtain ⟨_, hsamples, _, hafter⟩ := capture_eq hidle hstarts
  obtain ⟨_, hsamples', _, hafter'⟩ := capture_eq hidle' hstarts
  rw [readings_eq_readings_iff, hsamples, hsamples', hafter, hafter', hcaptured, hcaptured',
    hdropped, hdropped', UInt64.add_left_inj, framesFrom_eq_framesFrom_iff, ofNat_eq_ofNat_iff,
    ofNat_eq_ofNat_iff]

/-- A round with these presentations. -/
def dxgiRound (stamps : List Int64) : CaptureRound :=
  ⟨⟨"ValOptFrameCaptureSession", some 1234, true, 10000000, 0⟩, stamps.map dxgiPresent, []⟩

theorem starts_dxgiRound (stamps : List Int64) : (dxgiRound stamps).Starts := by
  refine ⟨rfl, ?_, rfl⟩
  show (0 : Int64) < 10000000
  decide

theorem stamps_dxgiRound (stamps : List Int64) : (dxgiRound stamps).stamps = stamps := by
  show stampsOf (some 1234) (stamps.map dxgiPresent ++ []) = stamps
  rw [List.append_nil, stampsOf_dxgiPresent]

theorem dropped_dxgiRound (stamps : List Int64) :
    (dxgiRound stamps).dropped ℝ = droppedFrom ℝ 10000000 0 stamps := by
  rw [CaptureRound.dropped, if_pos (starts_dxgiRound stamps), stamps_dxgiRound]
  rfl

theorem captured_dxgiRound (stamps : List Int64) : (dxgiRound stamps).captured ℝ =
    (framesFrom 10000000 0 0 stamps : List (FrameSample ℝ)).length := by
  rw [CaptureRound.captured, if_pos (starts_dxgiRound stamps), stamps_dxgiRound]
  rfl

/-- A round with a single presentation before leaves nothing. -/
theorem readings_after_single :
    readings sampleNumerics 0 none ((run []).capture (dxgiRound [10000000, 10041666])) =
      readings sampleNumerics 0 none
        ((run [dxgiRound [10000000]]).capture (dxgiRound [10000000, 10041666])) := by
  apply (readings_eq_iff sampleNumerics 0 none [] [dxgiRound [10000000]]
    (starts_dxgiRound [10000000, 10041666])).mpr
  have hdropped : droppedIn ℝ [dxgiRound [10000000]] = 0 := by
    simp [droppedIn, dropped_dxgiRound, droppedFrom]
  have hcaptured : capturedIn ℝ [dxgiRound [10000000]] = 0 := by
    simp [capturedIn, captured_dxgiRound, framesFrom]
  rw [hdropped, hcaptured]
  exact ⟨rfl, fun _ => rfl⟩

/-- A round with a pause of 6 seconds, and a frame after it. -/
def pausedRound : CaptureRound := dxgiRound [10000000, 70000001, 70041667]

/-- The pause in an earlier round is reported again with the frame of the next one. -/
theorem readings_after_pause :
    ¬∀ (history history' : List CaptureRound) (round : CaptureRound), round.Starts →
      readings sampleNumerics 0 none ((run history).capture round) =
        readings sampleNumerics 0 none ((run history').capture round) := by
  intro h
  have hstarts := starts_dxgiRound [10000000, 10041666]
  have heq := h [] [pausedRound] (dxgiRound [10000000, 10041666]) hstarts
  have hprovenance : ((run [] : EtwFrameCaptureEngine ℝ).capture
      (dxgiRound [10000000, 10041666])).droppedEvents =
      ((run [pausedRound] : EtwFrameCaptureEngine ℝ).capture
        (dxgiRound [10000000, 10041666])).droppedEvents := congrArg (·.2.1.droppedEvents) heq
  obtain ⟨hidle, _, hdropped⟩ := run_counters (K := ℝ) []
  obtain ⟨hidle', _, hdropped'⟩ := run_counters (K := ℝ) [pausedRound]
  rw [(capture_eq hidle hstarts).2.2.2, (capture_eq hidle' hstarts).2.2.2, hdropped, hdropped',
    UInt64.add_left_inj] at hprovenance
  have hnone : droppedIn ℝ [] = 0 := rfl
  have hone : droppedIn ℝ [pausedRound] = 1 := by
    have hlong : isSane (ticksToMs 10000000 60000001 : ℝ) = false := by
      rw [isSane, ticksToMs, show (60000001 : Int64).toInt = 60000001 by decide,
        show (10000000 : Int64).toInt = 10000000 by decide]
      norm_num
    have hframe : isSane (ticksToMs 10000000 41666 : ℝ) = true := by
      rw [isSane, ticksToMs, show (41666 : Int64).toInt = 41666 by decide,
        show (10000000 : Int64).toInt = 10000000 by decide]
      norm_num
    simp [pausedRound, droppedIn, dropped_dxgiRound, droppedFrom, hlong, hframe]
  rw [hnone, hone] at hprovenance
  exact absurd hprovenance (by decide)

end EtwFrameCaptureEngine

end ValOpt
