import Mathlib.Algebra.Order.BigOperators.Group.List
import Mathlib.Data.Rat.Floor
import Mathlib.Tactic.Linarith
import Mathlib.Tactic.Ring
import ValOpt.Benchmarking.FrameCapture

/-!
# The frames of a capture

What the callback makes of some events is a function of their time stamps (`foldl_callback`): a
sample of every difference that passes the sanity filter, and one more dropped event for every other
one that is positive.  Two equal time stamps leave no trace, so the samples and the dropped events
are all but the first exactly if no two consecutive time stamps are equal (`framesAccounted_iff`).
-/

namespace ValOpt

variable {K : Type} [Field K] [LinearOrder K] [FloorSemiring K]

/-! ### The frames of some time stamps -/

/-- The time stamps of the present events. -/
def stampsOf (targetPid : Option UInt32) (recs : List PresentEventRecord) : List Int64 :=
  (recs.filter (·.isPresent targetPid)).map (·.timeStamp)

theorem stampsOf_cons (targetPid : Option UInt32) (rec : PresentEventRecord)
    (recs : List PresentEventRecord) : stampsOf targetPid (rec :: recs) =
      if rec.isPresent targetPid then rec.timeStamp :: stampsOf targetPid recs
      else stampsOf targetPid recs := by
  unfold stampsOf
  rw [List.filter_cons]
  split <;> rfl

/-- The samples of the frames after `last`, when so many were captured before. -/
def framesFrom (qpcFrequency : Int64) : UInt64 → Int64 → List Int64 → List (FrameSample K)
  | _, _, [] => []
  | captured, last, now :: rest =>
    if 0 < last ∧ last < now ∧ isSane (ticksToMs qpcFrequency (now - last) : K) then
      frameSample qpcFrequency now (captured + 1) (ticksToMs qpcFrequency (now - last)) ::
        framesFrom qpcFrequency (captured + 1) now rest
    else framesFrom qpcFrequency captured now rest

variable (K) in
/-- The number of events after `last` that the sanity filter drops. -/
def droppedFrom (qpcFrequency : Int64) : Int64 → List Int64 → ℕ
  | _, [] => 0
  | last, now :: rest =>
    (if 0 < last ∧ last < now ∧ ¬isSane (ticksToMs qpcFrequency (now - last) : K) then 1 else 0) +
      droppedFrom qpcFrequency now rest

/-- The collector records some samples. -/
def FrameCollector.extend (c : FrameCollector K) (frames : List (FrameSample K)) :
    FrameCollector K :=
  if c.isRecording then { c with
    samples := c.samples ++ frames
    totalFramesCaptured := c.totalFramesCaptured + UInt64.ofNat frames.length }
  else c

omit [Field K] [LinearOrder K] [FloorSemiring K] in
theorem FrameCollector.extend_nil (c : FrameCollector K) : c.extend [] = c := by
  unfold FrameCollector.extend
  split <;> simp

omit [Field K] [LinearOrder K] [FloorSemiring K] in
theorem FrameCollector.extend_cons (c : FrameCollector K) (frame : FrameSample K)
    (frames : List (FrameSample K)) :
    (c.recordSample frame).extend frames = c.extend (frame :: frames) := by
  unfold FrameCollector.recordSample FrameCollector.extend
  cases hrecording : c.isRecording with
  | false => simp [hrecording]
  | true =>
    simp [UInt64.ofNat_add, UInt64.add_assoc, UInt64.add_comm]

/-- What a context comes to after some time stamps. -/
def EtwCaptureContext.after (ctx : EtwCaptureContext K) (stamps : List Int64) :
    EtwCaptureContext K :=
  let frames := framesFrom ctx.qpcFrequency ctx.eventsCaptured ctx.lastPresentQpc stamps
  { ctx with
    collector := ctx.collector.extend frames
    lastPresentQpc := stamps.getLastD ctx.lastPresentQpc
    eventsCaptured := ctx.eventsCaptured + UInt64.ofNat frames.length
    droppedEvents := ctx.droppedEvents +
      UInt64.ofNat (droppedFrom K ctx.qpcFrequency ctx.lastPresentQpc stamps) }

theorem EtwCaptureContext.after_nil (ctx : EtwCaptureContext K) : ctx.after [] = ctx := by
  simp [EtwCaptureContext.after, framesFrom, droppedFrom, FrameCollector.extend_nil]

/-- One present event. -/
theorem after_callback {ctx : EtwCaptureContext K} {rec : PresentEventRecord}
    (h : rec.isPresent ctx.targetPid) (stamps : List Int64) :
    (eventRecordCallback ctx rec).after stamps = ctx.after (rec.timeStamp :: stamps) := by
  have hlast : (rec.timeStamp :: stamps).getLastD ctx.lastPresentQpc =
      stamps.getLastD rec.timeStamp := List.getLastD_cons
  by_cases hlater : 0 < ctx.lastPresentQpc ∧ ctx.lastPresentQpc < rec.timeStamp
  · by_cases hsane : isSane (ticksToMs ctx.qpcFrequency (rec.timeStamp - ctx.lastPresentQpc) : K)
    · -- a sample
      simp only [eventRecordCallback, if_pos h, EtwCaptureContext.after, framesFrom, droppedFrom,
        hlater,
        hsane, hlast, FrameCollector.extend_cons, and_self,
        if_true, not_true, and_false, if_false, Nat.zero_add, List.length_cons, UInt64.ofNat_add,
        UInt64.add_assoc, UInt64.ofNat_one]
      rw [UInt64.add_comm 1]
    · -- one more event dropped
      simp only [eventRecordCallback, if_pos h, EtwCaptureContext.after, framesFrom, droppedFrom,
        hlater,
        hsane, hlast, Bool.false_eq_true, and_self, if_true, and_false,
        if_false, not_false_iff, UInt64.ofNat_add, UInt64.add_assoc, UInt64.ofNat_one]
  · have hlater' : ∀ p : Prop,
        ¬(0 < ctx.lastPresentQpc ∧ ctx.lastPresentQpc < rec.timeStamp ∧ p) := by
      rintro p ⟨hpos, hlt, _⟩
      exact hlater ⟨hpos, hlt⟩
    simp only [eventRecordCallback, if_pos h, if_neg hlater, EtwCaptureContext.after, framesFrom,
      droppedFrom, if_neg (hlater' _), hlast, Nat.zero_add]

theorem targetPid_callback (ctx : EtwCaptureContext K) (rec : PresentEventRecord) :
    (eventRecordCallback ctx rec).targetPid = ctx.targetPid := by
  unfold eventRecordCallback
  dsimp only
  split_ifs <;> rfl

/-- **What the callback makes of some events.** -/
theorem foldl_callback (ctx : EtwCaptureContext K) (recs : List PresentEventRecord) :
    recs.foldl eventRecordCallback ctx = ctx.after (stampsOf ctx.targetPid recs) := by
  induction recs generalizing ctx with
  | nil => exact (EtwCaptureContext.after_nil ctx).symm
  | cons rec recs ih =>
    rw [List.foldl_cons, ih, targetPid_callback]
    by_cases h : rec.isPresent ctx.targetPid
    · rw [after_callback h, stampsOf_cons, if_pos h]
    · rw [stampsOf_cons, if_neg h, eventRecordCallback, if_neg h]

/-! ### Growing time stamps -/

/-- The exact milliseconds from one time stamp to another. -/
def msBetween (qpcFrequency last now : Int64) : K :=
  ((now.toInt - last.toInt : ℤ) : K) * 1000 / (qpcFrequency.toInt : K)

/-- The differences of consecutive time stamps. -/
def intervals (qpcFrequency : Int64) (stamps : List Int64) : List K :=
  List.zipWith (msBetween qpcFrequency) stamps stamps.tail

/-- The time stamps are positive and do not decrease. -/
def Grows (stamps : List Int64) : Prop := stamps.Pairwise (· ≤ ·) ∧ ∀ t ∈ stamps, 0 < t

section Grows

variable {a b : Int64} {rest : List Int64}

theorem Grows.tail (h : Grows (a :: rest)) : Grows rest :=
  ⟨h.1.of_cons, fun t ht => h.2 t (List.mem_cons_of_mem _ ht)⟩

theorem Grows.le (h : Grows (a :: b :: rest)) : a ≤ b :=
  (List.pairwise_cons.mp h.1).1 b List.mem_cons_self

theorem Grows.pos (h : Grows (a :: rest)) : 0 < a := h.2 a List.mem_cons_self

omit [LinearOrder K] [FloorSemiring K] in
theorem ticksToMs_sub (h : Grows (a :: b :: rest)) (qpcFrequency : Int64) :
    ticksToMs qpcFrequency (b - a) = (msBetween qpcFrequency a b : K) := by
  have hpos : 0 ≤ a := Int64.le_of_lt h.pos
  rw [ticksToMs, Int64.toInt_sub_of_le b a hpos h.le]
  rfl

omit [FloorSemiring K] in
theorem isSane_msBetween_self [IsStrictOrderedRing K] (qpcFrequency : Int64) :
    isSane (msBetween qpcFrequency a a : K) = false := by
  have hzero : (msBetween qpcFrequency a a : K) = 0 := by
    rw [msBetween, Int.sub_self, Int.cast_zero, zero_mul, zero_div]
  rw [hzero, isSane, Bool.and_eq_false_iff]
  left
  rw [decide_eq_false_iff_not, not_lt]
  norm_num

/-- The frame after a time stamp. -/
theorem framesFrom_cons [IsStrictOrderedRing K] (h : Grows (a :: b :: rest))
    (qpcFrequency : Int64) (captured : UInt64) :
    (framesFrom qpcFrequency captured a (b :: rest) : List (FrameSample K)) =
      if isSane (msBetween qpcFrequency a b : K) then
        frameSample qpcFrequency b (captured + 1) (msBetween qpcFrequency a b) ::
          framesFrom qpcFrequency (captured + 1) b rest
      else framesFrom qpcFrequency captured b rest := by
  rw [framesFrom, ticksToMs_sub h]
  by_cases hsane : isSane (msBetween qpcFrequency a b : K)
  · have hlt : a < b := by
      apply Int64.lt_of_le_of_ne h.le
      rintro rfl
      rw [isSane_msBetween_self] at hsane
      exact Bool.false_ne_true hsane
    rw [if_pos ⟨h.pos, hlt, hsane⟩, if_pos hsane]
  · rw [if_neg (fun hall => hsane hall.2.2), if_neg hsane]

/-- The samples are the differences that pass the filter. -/
theorem map_framesFrom [IsStrictOrderedRing K] (h : Grows (a :: rest)) (qpcFrequency : Int64)
    (captured : UInt64) :
    (framesFrom qpcFrequency captured a rest).map (·.frameTimeMs) =
      (intervals qpcFrequency (a :: rest)).filter (isSane : K → Bool) := by
  induction rest generalizing a captured with
  | nil => rfl
  | cons b rest ih =>
    show _ = ((msBetween qpcFrequency a b : K) :: intervals qpcFrequency (b :: rest)).filter isSane
    rw [framesFrom_cons h, List.filter_cons]
    split
    · rw [List.map_cons, ih h.tail]
      rfl
    · exact ih h.tail captured

/-- The samples and the dropped events are all but the first, unless a time stamp comes twice in a
row. -/
theorem length_framesFrom_add [IsStrictOrderedRing K] (h : Grows (a :: rest))
    (qpcFrequency : Int64) (captured : UInt64) :
    (framesFrom qpcFrequency captured a rest : List (FrameSample K)).length +
        droppedFrom K qpcFrequency a rest ≤ rest.length ∧
      ((framesFrom qpcFrequency captured a rest : List (FrameSample K)).length +
        droppedFrom K qpcFrequency a rest = rest.length ↔ (a :: rest).IsChain (· ≠ ·)) := by
  induction rest generalizing a captured with
  | nil => simp [framesFrom, droppedFrom]
  | cons b rest ih =>
    rw [framesFrom_cons h, droppedFrom, ticksToMs_sub h, List.isChain_cons_cons, List.length_cons]
    by_cases hsane : isSane (msBetween qpcFrequency a b : K)
    · have hne : a ≠ b := by
        rintro rfl
        rw [isSane_msBetween_self] at hsane
        exact Bool.false_ne_true hsane
      obtain ⟨hle, hiff⟩ := ih h.tail (captured + 1)
      rw [if_pos hsane, if_neg (fun hall => hall.2.2 hsane), List.length_cons, ← hiff]
      constructor
      · omega
      · rw [and_iff_right hne]
        omega
    · obtain ⟨hle, hiff⟩ := ih h.tail captured
      rw [if_neg hsane, ← hiff]
      by_cases heq : a = b
      · -- neither a sample nor dropped
        have hnot : ¬a < b := by
          rw [heq]
          exact Int64.lt_irrefl
        rw [if_neg (fun hall => hnot hall.2.1)]
        refine ⟨by omega, ?_⟩
        constructor
        · intro hcount
          omega
        · rintro ⟨hne, _⟩
          exact absurd heq hne
      · have hlt : a < b := Int64.lt_of_le_of_ne h.le heq
        rw [if_pos ⟨h.pos, hlt, hsane⟩]
        constructor
        · omega
        · rw [and_iff_right heq]
          omega

omit [LinearOrder K] [FloorSemiring K] in
/-- The differences add up to the time from the first to the last. -/
theorem sum_intervals (a : Int64) (rest : List Int64) (qpcFrequency : Int64) :
    (intervals qpcFrequency (a :: rest) : List K).sum =
      msBetween qpcFrequency a (rest.getLastD a) := by
  induction rest generalizing a with
  | nil =>
    show (0 : K) = msBetween qpcFrequency a a
    rw [msBetween, Int.sub_self, Int.cast_zero, zero_mul, zero_div]
  | cons b rest ih =>
    show (msBetween qpcFrequency a b : K) + (intervals qpcFrequency (b :: rest)).sum = _
    rw [ih, List.getLastD_cons, msBetween, msBetween, msBetween]
    push_cast
    ring

omit [FloorSemiring K] in
theorem msBetween_nonneg [IsStrictOrderedRing K] {qpcFrequency : Int64} (hfreq : 0 < qpcFrequency)
    (hle : a ≤ b) : 0 ≤ (msBetween qpcFrequency a b : K) := by
  have hfreq' : (0 : ℤ) < qpcFrequency.toInt := Int64.lt_iff_toInt_lt.mp hfreq
  have hle' := Int64.le_iff_toInt_le.mp hle
  apply div_nonneg
  · apply mul_nonneg _ (by norm_num)
    rw [Int.cast_nonneg_iff]
    omega
  · rw [Int.cast_nonneg_iff]
    omega

omit [FloorSemiring K] in
theorem intervals_nonneg [IsStrictOrderedRing K] {qpcFrequency : Int64} (hfreq : 0 < qpcFrequency)
    (h : Grows (a :: rest)) : ∀ t ∈ (intervals qpcFrequency (a :: rest) : List K), 0 ≤ t := by
  induction rest generalizing a with
  | nil =>
    intro t ht
    cases ht
  | cons b rest ih =>
    intro t ht
    have ht' : t ∈ (msBetween qpcFrequency a b : K) :: intervals qpcFrequency (b :: rest) := ht
    rcases List.mem_cons.mp ht' with rfl | ht'
    · exact msBetween_nonneg hfreq h.le
    · exact ih h.tail t ht'

end Grows

/-- They are numbered. -/
theorem frameIndex_framesFrom (qpcFrequency : Int64) (captured : UInt64) (last : Int64)
    (stamps : List Int64) :
    (framesFrom qpcFrequency captured last stamps : List (FrameSample K)).map (·.frameIndex) =
      (List.range (framesFrom qpcFrequency captured last stamps : List (FrameSample K)).length).map
        fun i => captured + UInt64.ofNat (i + 1) := by
  induction stamps generalizing captured last with
  | nil => rfl
  | cons now rest ih =>
    rw [framesFrom]
    split
    · rw [List.map_cons, ih, List.length_cons, List.range_succ_eq_map, List.map_cons, List.map_map]
      congr 1
      apply List.map_congr_left
      intro i _
      simp only [Function.comp, Nat.succ_eq_add_one, UInt64.ofNat_add, UInt64.add_assoc]
      rw [UInt64.add_comm 1, UInt64.add_assoc]
      rfl
    · exact ih captured now

/-! ### A capture context -/

/-- A context of a new engine: the collector is recording, and nothing was captured. -/
def EtwCaptureContext.fresh (targetPid : Option UInt32) (qpcFrequency : Int64) :
    EtwCaptureContext K where
  collector := FrameCollector.new.start
  targetPid
  lastPresentQpc := 0
  qpcFrequency
  eventsCaptured := 0
  droppedEvents := 0

/-- The samples and the counters of a context account for the time stamps of its frames. -/
structure FramesAccounted (qpcFrequency : Int64) (stamps : List Int64) (ctx : EtwCaptureContext K) :
    Prop where
  counted : stamps ≠ [] →
    ctx.collector.samples.length + ctx.droppedEvents.toNat = stamps.length - 1
  recorded : ctx.collector.samples.map (·.frameTimeMs) =
    (intervals qpcFrequency stamps).filter fun t => 1 / 20 < t ∧ t < 5000
  numbered : ctx.collector.samples.map (·.frameIndex.toNat) =
    (List.range ctx.collector.samples.length).map (· + 1)
  total : ∀ first ∈ stamps.head?, ∀ last ∈ stamps.getLast?,
    (ctx.collector.samples.map (·.frameTimeMs)).sum ≤ msBetween qpcFrequency first last

section Accounted

variable [IsStrictOrderedRing K]

/-- Time stamps that strictly grow are fewer than `2 ^ 63`. -/
theorem length_lt_of_isChain {a : Int64} {rest : List Int64} (h : Grows (a :: rest))
    (hne : (a :: rest).IsChain (· ≠ ·)) : rest.length < 2 ^ 63 := by
  have hlast : a.toInt + rest.length ≤ (rest.getLastD a).toInt := by
    induction rest generalizing a with
    | nil => simp
    | cons b rest ih =>
      obtain ⟨hab, hrest⟩ := List.isChain_cons_cons.mp hne
      have hlt := Int64.lt_iff_toInt_lt.mp (Int64.lt_of_le_of_ne h.le hab)
      have hle := ih h.tail hrest
      rw [List.getLastD_cons, List.length_cons]
      push_cast
      omega
  have hpos := Int64.lt_iff_toInt_lt.mp h.pos
  rw [Int64.toInt_zero] at hpos
  have hlt := (rest.getLastD a).toInt_lt
  omega

theorem grows_stampsOf {recs : List PresentEventRecord} (hpos : ∀ r ∈ recs, 0 < r.timeStamp)
    (hmono : recs.Pairwise (·.timeStamp ≤ ·.timeStamp)) (targetPid : Option UInt32) :
    Grows (stampsOf targetPid recs) := by
  constructor
  · exact List.pairwise_map.mpr (hmono.filter _)
  · intro t ht
    obtain ⟨r, hr, rfl⟩ := List.mem_map.mp ht
    exact hpos r (List.mem_of_mem_filter hr)

omit [IsStrictOrderedRing K] in
/-- A fresh context after some time stamps. -/
theorem after_fresh (targetPid : Option UInt32) (qpcFrequency : Int64) (a : Int64)
    (rest : List Int64) :
    ((EtwCaptureContext.fresh targetPid qpcFrequency : EtwCaptureContext K).after
        (a :: rest)).collector.samples = framesFrom qpcFrequency 0 a rest ∧
      ((EtwCaptureContext.fresh targetPid qpcFrequency : EtwCaptureContext K).after
        (a :: rest)).droppedEvents = UInt64.ofNat (droppedFrom K qpcFrequency a rest) := by
  have hfirst : ∀ p : Prop, ¬((0 : Int64) < 0 ∧ 0 < a ∧ p) := by
    rintro p ⟨hlt, _⟩
    exact Int64.lt_irrefl hlt
  have hframes : (framesFrom qpcFrequency 0 0 (a :: rest) : List (FrameSample K)) =
      framesFrom qpcFrequency 0 a rest := by
    rw [framesFrom, if_neg (hfirst _)]
  have hdropped : droppedFrom K qpcFrequency 0 (a :: rest) = droppedFrom K qpcFrequency a rest := by
    rw [droppedFrom, if_neg (hfirst _), Nat.zero_add]
  constructor
  · show ([] ++ framesFrom qpcFrequency 0 0 (a :: rest) : List (FrameSample K)) = _
    rw [List.nil_append, hframes]
  · show 0 + UInt64.ofNat (droppedFrom K qpcFrequency 0 (a :: rest)) = _
    rw [UInt64.zero_add, hdropped]

/-- The events are accounted for unless two consecutive present events have the same time. -/
theorem framesAccounted_iff {qpcFrequency : Int64} (hfreq : 0 < qpcFrequency)
    (targetPid : Option UInt32) {recs : List PresentEventRecord}
    (hpos : ∀ r ∈ recs, 0 < r.timeStamp) (hmono : recs.Pairwise (·.timeStamp ≤ ·.timeStamp)) :
    FramesAccounted qpcFrequency (stampsOf targetPid recs)
        (recs.foldl eventRecordCallback (.fresh targetPid qpcFrequency : EtwCaptureContext K)) ↔
      (stampsOf targetPid recs).IsChain (· ≠ ·) := by
  have hgrows := grows_stampsOf hpos hmono targetPid
  rw [foldl_callback]
  show FramesAccounted qpcFrequency (stampsOf targetPid recs)
    ((EtwCaptureContext.fresh targetPid qpcFrequency : EtwCaptureContext K).after
      (stampsOf targetPid recs)) ↔ _
  generalize stampsOf targetPid recs = stamps at hgrows
  -- Without a stamp nothing is recorded; after the first one every further stamp is a sample or a
  -- drop.
  rcases stamps with _ | ⟨a, rest⟩
  · rw [EtwCaptureContext.after_nil]
    apply iff_of_true _ List.IsChain.nil
    exact ⟨fun h => absurd rfl h, rfl, rfl, fun first hfirst => absurd hfirst (by simp)⟩
  · obtain ⟨hsamples, hdropped⟩ := after_fresh (K := K) targetPid qpcFrequency a rest
    obtain ⟨hle, hiff⟩ := length_framesFrom_add (K := K) hgrows qpcFrequency 0
    rw [← hiff]
    constructor
    · intro h
      have hcounted := h.counted (List.cons_ne_nil _ _)
      rw [hsamples, hdropped, UInt64.toNat_ofNat', List.length_cons, Nat.add_sub_cancel] at hcounted
      -- The counter of dropped frames can only fall short of their number, by wrapping.
      have hmod := Nat.mod_le (droppedFrom K qpcFrequency a rest) (2 ^ 64)
      omega
    · intro hcount
      have hlt := length_lt_of_isChain hgrows (hiff.mp hcount)
      constructor
      case counted =>
        intro _
        rw [hsamples, hdropped, UInt64.toNat_ofNat', List.length_cons, Nat.add_sub_cancel,
          Nat.mod_eq_of_lt (by omega)]
        exact hcount
      case recorded =>
        rw [hsamples, map_framesFrom hgrows]
        apply List.filter_congr
        intro t _
        rw [isSane, Bool.decide_and]
      case numbered =>
        have hindex := congrArg (List.map UInt64.toNat)
          (frameIndex_framesFrom (K := K) qpcFrequency 0 a rest)
        rw [List.map_map, List.map_map] at hindex
        rw [hsamples]
        apply hindex.trans
        apply List.map_congr_left
        intro i hi
        rw [List.mem_range] at hi
        show (0 + UInt64.ofNat (i + 1)).toNat = i + 1
        rw [UInt64.zero_add, UInt64.toNat_ofNat', Nat.mod_eq_of_lt (by omega)]
      case total =>
        intro first hfirst last hlast
        rw [List.head?_cons, Option.mem_some_iff] at hfirst
        rw [List.getLast?_cons, Option.mem_some_iff] at hlast
        rw [hsamples, map_framesFrom hgrows, ← hfirst, ← hlast, ← List.getLastD_eq_getLast?,
          ← sum_intervals]
        exact List.filter_sublist.sum_le_sum (intervals_nonneg hfreq hgrows)

end Accounted

/-- The start of a DXGI presentation. -/
def dxgiPresent (timeStamp : Int64) : PresentEventRecord :=
  ⟨dxgiProviderGuid, dxgiPresentStartEventId, 1234, timeStamp⟩

theorem stampsOf_dxgiPresent (stamps : List Int64) :
    stampsOf (some 1234) (stamps.map dxgiPresent) = stamps := by
  induction stamps with
  | nil => rfl
  | cons t stamps ih =>
    have hpresent : (dxgiPresent t).isPresent (some 1234) := by
      simp [PresentEventRecord.isPresent, dxgiPresent]
    rw [List.map_cons, stampsOf_cons, if_pos hpresent, ih]
    rfl

/-- A frame of 4.2 milliseconds, and a pause of 6 seconds. -/
theorem framesAccounted_pause :
    FramesAccounted 10000000 (stampsOf (some 1234)
        ([10000000, 10041666, 70041666].map dxgiPresent))
      (([10000000, 10041666, 70041666].map dxgiPresent).foldl eventRecordCallback
        (.fresh (some 1234) 10000000 : EtwCaptureContext ℚ)) := by
  have hpos : ∀ r ∈ [10000000, 10041666, 70041666].map dxgiPresent, 0 < r.timeStamp := by
    simp [dxgiPresent]
  have hmono : ([10000000, 10041666, 70041666].map dxgiPresent).Pairwise
      (·.timeStamp ≤ ·.timeStamp) := by
    simp [dxgiPresent]
  refine (framesAccounted_iff (by decide) (some 1234) hpos hmono).mpr ?_
  rw [stampsOf_dxgiPresent]
  decide

/-- Of two presentations at the same time neither counter tells. -/
theorem not_framesAccounted_twice :
    ¬∀ (qpcFrequency : Int64) (targetPid : Option UInt32) (recs : List PresentEventRecord),
      0 < qpcFrequency → (∀ r ∈ recs, 0 < r.timeStamp) →
        recs.Pairwise (·.timeStamp ≤ ·.timeStamp) →
          FramesAccounted qpcFrequency (stampsOf targetPid recs)
            (recs.foldl eventRecordCallback
              (.fresh targetPid qpcFrequency : EtwCaptureContext ℚ)) := by
  intro h
  have hcounted := (h 10000000 (some 1234) ([10000000, 10000000].map dxgiPresent) (by decide)
    (by simp [dxgiPresent]) (by simp [dxgiPresent])).counted
  obtain ⟨hsamples, hdropped⟩ := after_fresh (K := ℚ) (some 1234) 10000000 10000000 [10000000]
  have hafter := foldl_callback (.fresh (some 1234) 10000000 : EtwCaptureContext ℚ)
    ([10000000, 10000000].map dxgiPresent)
  rw [show (EtwCaptureContext.fresh (some 1234) 10000000 : EtwCaptureContext ℚ).targetPid =
      some 1234
    from rfl, stampsOf_dxgiPresent] at hafter
  rw [hafter, stampsOf_dxgiPresent, hsamples, hdropped] at hcounted
  simp [framesFrom, droppedFrom] at hcounted

end ValOpt
