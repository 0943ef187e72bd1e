import ValOpt.Latency.Session

/-!
# The times of a kernel event

`kernel_event_record_callback` turns ticks into microseconds with `(ticks * 1000000) / frequency`,
over `u64`.  The products are formed before the division, so a time stamp from `2 ^ 64 / 1000000`
ticks on (21 days at 10 MHz) has no exact sample (`recordsExactly_iff`).
-/

namespace ValOpt

/-! ### Microseconds -/

/-- The microseconds that so many ticks take. -/
def exactMicros (qpcFrequency : UInt64) (ticks : ℕ) : ℕ := ticks * 1000000 / qpcFrequency.toNat

/-- What the callback computes instead. -/
def wrappedMicros (qpcFrequency : UInt64) (ticks : ℕ) : ℕ :=
  ticks * 1000000 % 2 ^ 64 / qpcFrequency.toNat

theorem toNat_mul_div (qpcFrequency ticks : UInt64) :
    (ticks * 1000000 / qpcFrequency).toNat = wrappedMicros qpcFrequency ticks.toNat := by
  rw [UInt64.toNat_div, UInt64.toNat_mul]
  rfl

theorem wrappedMicros_eq {ticks : ℕ} (h : ticks * 1000000 < 2 ^ 64) (qpcFrequency : UInt64) :
    wrappedMicros qpcFrequency ticks = exactMicros qpcFrequency ticks := by
  rw [wrappedMicros, Nat.mod_eq_of_lt h]
  rfl

/-- What the product loses is at least `2 ^ 64`, which is more than the frequency. -/
theorem wrappedMicros_lt {qpcFrequency : UInt64} (hpos : 0 < qpcFrequency) {ticks : ℕ}
    (h : 2 ^ 64 ≤ ticks * 1000000) :
    wrappedMicros qpcFrequency ticks < exactMicros qpcFrequency ticks := by
  have hpos' : 0 < qpcFrequency.toNat := UInt64.lt_iff_toNat_lt.mp hpos
  have hlt := qpcFrequency.toNat_lt
  calc ticks * 1000000 % 2 ^ 64 / qpcFrequency.toNat
      < ticks * 1000000 % 2 ^ 64 / qpcFrequency.toNat + 1 := Nat.lt_succ_self _
    _ = (ticks * 1000000 % 2 ^ 64 + qpcFrequency.toNat) / qpcFrequency.toNat :=
      (Nat.add_div_right _ hpos').symm
    _ ≤ ticks * 1000000 / qpcFrequency.toNat := by
      apply Nat.div_le_div_right
      omega

/-! ### The sample of a record -/

/-- A record of a DPC or an ISR that names its routine. -/
structure KernelEventRecord.Measures (rec : KernelEventRecord) (initialTime routine : UInt64) :
    Prop where
  provider : rec.providerId = perfInfoGuid ∨ rec.providerId = systemTraceControlGuid
  opcode : rec.opcode = 66 ∨ rec.opcode = 67 ∨ rec.opcode = 68 ∨ rec.opcode = 69
  userData : rec.userData = some (initialTime, routine)
  routine_ne : routine ≠ 0

/-- The ticks from the initial time to the event, none if the initial time is later. -/
def KernelEventRecord.ticks (rec : KernelEventRecord) (initialTime : UInt64) : ℕ :=
  rec.timeStamp.toNat - initialTime.toNat

/-- The record is sampled exactly if it took less than 10 s, with its duration and time. -/
def RecordsExactly (qpcFrequency : UInt64) (rec : KernelEventRecord) (initialTime : UInt64) :
    Prop :=
  ((kernelEventRecordCallback qpcFrequency rec).isSome ↔
      exactMicros qpcFrequency (rec.ticks initialTime) < 10000000) ∧
    ∀ x, kernelEventRecordCallback qpcFrequency rec = some x →
      x.durationUs.toNat = exactMicros qpcFrequency (rec.ticks initialTime) ∧
        x.timestampUs.toNat = exactMicros qpcFrequency rec.timeStamp.toNat

/-- Neither product overflows. -/
def ProductsFit (rec : KernelEventRecord) (initialTime : UInt64) : Prop :=
  rec.ticks initialTime * 1000000 < 2 ^ 64 ∧ rec.timeStamp.toNat * 1000000 < 2 ^ 64

/-- The sample that the callback takes of a record. -/
theorem kernelEventRecordCallback_eq {rec : KernelEventRecord} {initialTime routine : UInt64}
    (h : rec.Measures initialTime routine) (qpcFrequency : UInt64) :
    ∃ x : KernelSample,
      x.durationUs.toNat = wrappedMicros qpcFrequency (rec.ticks initialTime) ∧
      x.timestampUs.toNat = wrappedMicros qpcFrequency rec.timeStamp.toNat ∧
      kernelEventRecordCallback qpcFrequency rec =
        if wrappedMicros qpcFrequency (rec.ticks initialTime) < 10000000 then some x else none := by
  have hticks : (if initialTime < rec.timeStamp then rec.timeStamp - initialTime else 0).toNat =
      rec.ticks initialTime := by
    rw [KernelEventRecord.ticks]
    split
    · next hlt =>
      exact UInt64.toNat_sub_of_le _ _ (UInt64.le_of_lt hlt)
    · next hge =>
      have := UInt64.le_iff_toNat_le.mp (UInt64.not_lt.mp hge)
      rw [show (0 : UInt64).toNat = 0 from rfl]
      omega
  generalize hdurationTicks :
    (if initialTime < rec.timeStamp then rec.timeStamp - initialTime else 0) = durationTicks
    at hticks
  refine ⟨⟨rec.timeStamp * 1000000 / qpcFrequency, durationTicks * 1000000 / qpcFrequency, routine,
    rec.opcode = 66 || rec.opcode = 68 || rec.opcode = 69⟩, ?_, ?_, ?_⟩
  · show (durationTicks * 1000000 / qpcFrequency).toNat = _
    rw [toNat_mul_div, hticks]
  · show (rec.timeStamp * 1000000 / qpcFrequency).toNat = _
    rw [toNat_mul_div]
  · have hprovider :
        ¬(rec.providerId ≠ perfInfoGuid ∧ rec.providerId ≠ systemTraceControlGuid) := by
      rcases h.provider with heq | heq <;> simp [heq]
    have hopcode : (!(rec.opcode = 66 || rec.opcode = 68 || rec.opcode = 69) &&
        !decide (rec.opcode = 67)) = false := by
      rcases h.opcode with heq | heq | heq | heq <;> rw [heq] <;> decide
    have hlt : durationTicks * 1000000 / qpcFrequency < 10000000 ↔
        wrappedMicros qpcFrequency (rec.ticks initialTime) < 10000000 := by
      rw [UInt64.lt_iff_toNat_lt, toNat_mul_div, hticks]
      rfl
    simp only [kernelEventRecordCallback, if_neg hprovider, hopcode, h.userData,
      if_neg h.routine_ne,
      hdurationTicks, hlt, Bool.false_eq_true, if_false]

/-- The times are exact as long as the time stamp is less than `2 ^ 64 / 1000000` ticks.  From there
on a product overflows, and the sample is wrong unless the duration is taken for more than 10 s and
is. -/
theorem recordsExactly_iff {qpcFrequency : UInt64} (hpos : 0 < qpcFrequency)
    {rec : KernelEventRecord} {initialTime routine : UInt64}
    (h : rec.Measures initialTime routine) :
    (RecordsExactly qpcFrequency rec initialTime ∧ ProductsFit rec initialTime ↔
      rec.timeStamp.toNat * 1000000 < 2 ^ 64) ∧
    (RecordsExactly qpcFrequency rec initialTime ↔
      rec.timeStamp.toNat * 1000000 < 2 ^ 64 ∨
        10000000 ≤ exactMicros qpcFrequency (rec.ticks initialTime) ∧
          10000000 ≤ wrappedMicros qpcFrequency (rec.ticks initialTime)) := by
  obtain ⟨x, hduration, htimestamp, heq⟩ := kernelEventRecordCallback_eq h qpcFrequency
  have hle : rec.ticks initialTime * 1000000 ≤ rec.timeStamp.toNat * 1000000 :=
    Nat.mul_le_mul_right _ (Nat.sub_le _ _)
  have hexact : RecordsExactly qpcFrequency rec initialTime ↔
      rec.timeStamp.toNat * 1000000 < 2 ^ 64 ∨
        10000000 ≤ exactMicros qpcFrequency (rec.ticks initialTime) ∧
          10000000 ≤ wrappedMicros qpcFrequency (rec.ticks initialTime) := by
    unfold RecordsExactly
    rw [heq]
    constructor
    · rintro ⟨hsome, hvalues⟩
      by_contra hnot
      obtain ⟨hover, hlong⟩ := not_or.mp hnot
      by_cases hlt : wrappedMicros qpcFrequency (rec.ticks initialTime) < 10000000
      · -- The sample is taken, but its time is too early.
        rw [if_pos hlt] at hvalues
        obtain ⟨_, htime⟩ := hvalues x rfl
        have := wrappedMicros_lt hpos (Nat.le_of_not_lt hover)
        omega
      · rw [if_neg hlt] at hsome
        have hge : 10000000 ≤ exactMicros qpcFrequency (rec.ticks initialTime) := by
          by_contra hshort
          have := hsome.mpr (Nat.lt_of_not_le hshort)
          simp at this
        exact hlong ⟨hge, Nat.le_of_not_lt hlt⟩
    · rintro (hfits | ⟨hge, hge'⟩)
      · rw [wrappedMicros_eq (Nat.lt_of_le_of_lt hle hfits)] at hduration ⊢
        rw [wrappedMicros_eq hfits] at htimestamp
        split
        · next hlt =>
          refine ⟨by simp [hlt], ?_⟩
          rintro y ⟨⟩
          exact ⟨hduration, htimestamp⟩
        · next hge =>
          refine ⟨by simp [hge], ?_⟩
          rintro y ⟨⟩
      · rw [if_neg (Nat.not_lt.mpr hge')]
        refine ⟨by simp [Nat.not_lt.mpr hge], ?_⟩
        rintro y ⟨⟩
  refine ⟨?_, hexact⟩
  constructor
  · rintro ⟨_, _, hfits⟩
    exact hfits
  · intro hfits
    exact ⟨hexact.mpr (Or.inl hfits), Nat.lt_of_le_of_lt hle hfits, hfits⟩

/-- A DPC that ends a second after the counter was zero and took 100 microseconds. -/
theorem recordsExactly_second :
    RecordsExactly 10000000 ⟨perfInfoGuid, 66, some (9999000, 0xFFFFF80000001000), 10000000⟩
      9999000 :=
  ((recordsExactly_iff (by decide) ⟨.inl rfl, .inl rfl, rfl, by decide⟩).1.mpr (by decide)).1

/-- After 23 days at 10 MHz the same DPC is recorded at a time within the first two days. -/
theorem not_recordsExactly_month :
    ¬∀ (qpcFrequency : UInt64) (rec : KernelEventRecord) (initialTime routine : UInt64),
      0 < qpcFrequency → rec.Measures initialTime routine →
        RecordsExactly qpcFrequency rec initialTime ∧ ProductsFit rec initialTime := by
  intro h
  obtain ⟨⟨_, hvalues⟩, _⟩ := h 10000000
    ⟨perfInfoGuid, 66, some (19999999999000, 0xFFFFF80000001000), 20000000000000⟩
    19999999999000 0xFFFFF80000001000 (by decide) ⟨.inl rfl, .inl rfl, rfl, by decide⟩
  have htime := (hvalues ⟨155325592629, 100, 0xFFFFF80000001000, true⟩ (by decide +kernel)).2
  revert htime
  decide

end ValOpt
