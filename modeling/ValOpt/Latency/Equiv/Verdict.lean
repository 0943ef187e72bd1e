import ValOpt.Effect.System
import ValOpt.Latency.Equiv.Accounting

/-!
# What a latency report is based on

The history of a run says, from its events alone, which samples came since the counters were cleared
and where each of them came from.  The counters are the tally of these samples, and the status is
decided by the last operation that cleared them and the starts that failed since
(`LatencyHistory.Explains`).  The status says nothing about the samples, so

* a session without any sample is suitable (`verdict_counts_iff`);
* a start that fails turns synthetic samples into kernel samples (`label_holds_iff`).
-/

namespace ValOpt

open Effect Text KernelLatencySessionManager

variable {F : Type} {A : Averages F}

/-! ### The history of a run -/

/-- Where a sample came from. -/
inductive SampleOrigin where
  | kernel
  /-- A call of `ingest_sample`. -/
  | direct
  | synthetic
  deriving DecidableEq, Repr

/-- What the events of a run say about the counters. -/
structure LatencyHistory where
  /-- The frequency that the last session was started with. -/
  frequency : UInt64
  /-- What cleared the counters last. -/
  opening : Option SampleOrigin
  /-- Whether a start failed since. -/
  failed : Bool
  /-- The samples since. -/
  log : List (SampleOrigin × KernelSample)

namespace LatencyHistory

/-- Before the first event. -/
def blank : LatencyHistory := ⟨0, none, false, []⟩

def note (h : LatencyHistory) : LatencyEvent → LatencyHistory
  | .startFails _ => { h with failed := true }
  | .starts qpcFrequency => ⟨qpcFrequency, some .kernel, false, []⟩
  | .kernelEvent rec => { h with
      log := h.log ++ (kernelEventRecordCallback h.frequency rec).toList.map fun x => (.kernel, x) }
  | .ingest sample => { h with log := h.log ++ [(.direct, sample)] }
  | .synthetic rounds injectSpike => ⟨h.frequency, some .synthetic, false,
      (syntheticSamples ([] : List (DriverLatencyStat Unit)) rounds injectSpike).map
        fun x => (.synthetic, x)⟩
  | .opens _ | .exits | .stops | .joins => h

/-- The history of a run. -/
def of (events : List LatencyEvent) : LatencyHistory := events.foldl note blank

def samples (h : LatencyHistory) : List KernelSample := h.log.map (·.2)

/-- What a history says about the manager at the end of the run. -/
structure Explains (A : Averages F) (h : LatencyHistory) (m : KernelLatencySessionManager F) :
    Prop where
  tallies : m.counters.Tallies A h.samples
  frequency : ∀ worker qpcFrequency, m.worker = some (worker, qpcFrequency) →
    qpcFrequency = h.frequency
  measured : m.measurementStatus.isMeasured = true ↔ h.opening.isSome ∧ h.failed = false
  synthetic : m.measurementStatus = .syntheticTestFixture ↔
    h.opening = some .synthetic ∧ h.failed = false
  origin : ∀ e ∈ h.log, e.1 = .synthetic → h.opening = some .synthetic

end LatencyHistory

/-! ### One event -/

theorem LatencyCounters.Tallies.clear (c : LatencyCounters F) : c.clear.Tallies A [] :=
  tallies_cleared c.drivers c.monitor

/-- A failed start has no measurements. -/
theorem StartFailure.isMeasured_outcome (failure : StartFailure) :
    failure.outcome.1.isMeasured = false := by
  cases failure with
  | elevation => rfl
  | startTrace errCode =>
    show (if errCode = 183 then _ else _ : LatencyMeasurementStatus × String).1.isMeasured = false
    split
    · rfl
    · split <;> rfl

/-- Cleared counters name no driver. -/
theorem syntheticSamples_clear (c : LatencyCounters F) (rounds : ℕ) (injectSpike : Bool) :
    syntheticSamples (getTopDrivers c.clear.stats.values 10) rounds injectSpike =
      syntheticSamples ([] : List (DriverLatencyStat Unit)) rounds injectSpike := by
  have hvalues : c.clear.stats.values = [] := rfl
  rw [hvalues, getTopDrivers, List.mergeSort_nil, List.take_nil]
  rfl

namespace LatencyHistory

theorem samples_log (h : LatencyHistory) (origin : SampleOrigin) (xs : List KernelSample) :
    samples { h with log := h.log ++ xs.map fun x => (origin, x) } = h.samples ++ xs := by
  show (h.log ++ xs.map fun x => (origin, x)).map (·.2) = _
  rw [List.map_append, List.map_map]
  congr 1
  exact List.map_id xs

variable {h : LatencyHistory} {m m' : KernelLatencySessionManager F}

/-- Samples that come while the counters stay open. -/
theorem Explains.samples (hm : h.Explains A m) (origin : SampleOrigin) (hne : origin ≠ .synthetic)
    (xs : List KernelSample) :
    Explains A { h with log := h.log ++ xs.map fun x => (origin, x) }
      { m with counters := xs.foldl (LatencyCounters.ingestSample A) m.counters } where
  tallies := by
    rw [samples_log]
    exact hm.tallies.foldl xs
  frequency := hm.frequency
  measured := hm.measured
  synthetic := hm.synthetic
  origin := by
    intro e he horigin
    rcases List.mem_append.mp he with hold | hnew
    · exact hm.origin e hold horigin
    · obtain ⟨x, -, rfl⟩ := List.mem_map.mp hnew
      exact absurd horigin hne

/-- The worker and the flags of a manager are no part of what a history explains, apart from the
frequency. -/
theorem Explains.frame (hm : h.Explains A m) (hcounters : m'.counters = m.counters)
    (hstatus : m'.measurementStatus = m.measurementStatus)
    (hworker : ∀ worker qpcFrequency, m'.worker = some (worker, qpcFrequency) →
      ∃ worker, m.worker = some (worker, qpcFrequency)) : h.Explains A m' where
  tallies := hcounters ▸ hm.tallies
  frequency worker qpcFrequency hw := by
    obtain ⟨before, hbefore⟩ := hworker worker qpcFrequency hw
    exact hm.frequency before qpcFrequency hbefore
  measured := hstatus ▸ hm.measured
  synthetic := hstatus ▸ hm.synthetic
  origin := hm.origin

theorem Explains.startFails (hm : h.Explains A m) (failure : StartFailure)
    (hstep : m.step A (.startFails failure) = some m') :
    (h.note (.startFails failure)).Explains A m' := by
  rw [KernelLatencySessionManager.step] at hstep
  split at hstep
  · cases hstep
  · obtain rfl := Option.some.inj hstep
    have hfailed : (h.note (.startFails failure)).failed = true := rfl
    have hstatus := failure.isMeasured_outcome
    exact {
      tallies := hm.tallies
      frequency := hm.frequency
      measured := by
        show failure.outcome.1.isMeasured = true ↔ _
        rw [hstatus, hfailed]
        simp
      synthetic := by
        show failure.outcome.1 = _ ↔ _
        rw [hfailed]
        simp only [Bool.true_eq_false, and_false, iff_false]
        intro heq
        rw [heq] at hstatus
        cases hstatus
      origin := hm.origin }

/-- An event that clears the counters says everything about the status. -/
theorem Explains.starts (qpcFrequency : UInt64)
    (hstep : m.step A (.starts qpcFrequency) = some m') :
    (h.note (.starts qpcFrequency)).Explains A m' := by
  rw [KernelLatencySessionManager.step] at hstep
  split at hstep
  · cases hstep
  · obtain rfl := Option.some.inj hstep
    exact {
      tallies := .clear m.counters
      frequency := by
        intro worker frequency hw
        cases hw
        rfl
      measured := iff_of_true rfl ⟨rfl, rfl⟩
      synthetic := iff_of_false nofun nofun
      origin := nofun }

theorem Explains.synthetic_event (hm : h.Explains A m) (rounds : ℕ) (injectSpike : Bool)
    (hstep : m.step A (.synthetic rounds injectSpike) = some m') :
    (h.note (.synthetic rounds injectSpike)).Explains A m' := by
  rw [KernelLatencySessionManager.step] at hstep
  split at hstep
  · cases hstep
  · obtain rfl := Option.some.inj hstep
    have htallies := (LatencyCounters.Tallies.clear (A := A) m.counters).foldl
      (syntheticSamples ([] : List (DriverLatencyStat Unit)) rounds injectSpike)
    have hsamples : (h.note (.synthetic rounds injectSpike)).samples =
        syntheticSamples ([] : List (DriverLatencyStat Unit)) rounds injectSpike := by
      show (List.map _ _).map _ = _
      rw [List.map_map]
      exact List.map_id _
    exact {
      tallies := by
        rw [hsamples]
        rw [List.nil_append] at htallies
        rw [syntheticSamples_clear]
        exact htallies
      frequency := hm.frequency
      measured := iff_of_true rfl ⟨rfl, rfl⟩
      synthetic := iff_of_true rfl ⟨rfl, rfl⟩
      origin := fun _ _ _ => rfl }

/-- **One event.** -/
theorem Explains.step (hm : h.Explains A m) {e : LatencyEvent} (hstep : m.step A e = some m') :
    (h.note e).Explains A m' := by
  cases e with
  | startFails failure => exact hm.startFails failure hstep
  | starts qpcFrequency => exact Explains.starts qpcFrequency hstep
  | synthetic rounds injectSpike => exact hm.synthetic_event rounds injectSpike hstep
  | ingest sample =>
    rw [KernelLatencySessionManager.step] at hstep
    split at hstep
    · cases hstep
    · obtain rfl := Option.some.inj hstep
      exact hm.samples .direct nofun [sample]
  | kernelEvent rec =>
    rw [KernelLatencySessionManager.step] at hstep
    split at hstep
    · next qpcFrequency hworker =>
      obtain rfl := hm.frequency _ _ hworker
      have hsamples := hm.samples .kernel nofun
        (kernelEventRecordCallback h.frequency rec).toList
      show ({ h with log := _ } : LatencyHistory).Explains A m'
      generalize kernelEventRecordCallback h.frequency rec = sample at hstep hsamples ⊢
      cases sample with
      | some x =>
        obtain rfl := Option.some.inj hstep
        exact hsamples
      | none =>
        obtain rfl := Option.some.inj hstep
        exact hsamples
    · cases hstep
  | opens ok =>
    rw [KernelLatencySessionManager.step] at hstep
    split at hstep
    · next qpcFrequency hworker =>
      -- the worker keeps its frequency
      split at hstep <;> obtain rfl := Option.some.inj hstep <;>
        exact hm.frame rfl rfl fun _ _ hw => by cases hw; exact ⟨_, hworker⟩
    · cases hstep
  | exits =>
    rw [KernelLatencySessionManager.step] at hstep
    split at hstep
    · next qpcFrequency hworker =>
      obtain rfl := Option.some.inj hstep
      exact hm.frame rfl rfl fun _ _ hw => by cases hw; exact ⟨_, hworker⟩
    · cases hstep
  | stops =>
    rw [KernelLatencySessionManager.step] at hstep
    split at hstep
    · cases hstep
    · obtain rfl := Option.some.inj hstep
      exact hm.frame rfl rfl fun worker _ hw => ⟨worker, hw⟩
  | joins =>
    rw [KernelLatencySessionManager.step] at hstep
    split at hstep
    · split at hstep
      · obtain rfl := Option.some.inj hstep
        exact hm.frame rfl rfl nofun
      · cases hstep
    · cases hstep

theorem explains_new (A : Averages F) (drivers : List LoadedDriver) :
    blank.Explains A (.new drivers) where
  tallies := ⟨rfl, rfl, rfl, rfl, rfl⟩
  frequency := nofun
  measured := iff_of_false nofun nofun
  synthetic := iff_of_false nofun nofun
  origin := nofun

theorem Explains.run (hm : h.Explains A m) (events : List LatencyEvent)
    (hrun : exec (KernelLatencySessionManager.step A) events m = some m') :
    (events.foldl note h).Explains A m' := by
  induction events generalizing h m with
  | nil =>
    obtain rfl := Option.some.inj hrun
    exact hm
  | cons e events ih =>
    obtain ⟨m₁, hstep, hrest⟩ := Option.bind_eq_some_iff.mp hrun
    exact ih (hm.step hstep) hrest

/-- **A history explains its run.** -/
theorem explains_run {drivers : List LoadedDriver} {events : List LatencyEvent}
    (hrun : exec (KernelLatencySessionManager.step A) events (.new drivers) = some m) :
    (of events).Explains A m :=
  (explains_new A drivers).run events hrun

end LatencyHistory

/-! ### The verdict -/

/-- A report that calls the system suitable counts an event. -/
def LatencyReport.CountsEvents (report : LatencyReport F) : Prop :=
  report.systemSuitableForCompetitive = true →
    report.totalDpcsCaptured ≠ 0 ∨ report.totalIsrsCaptured ≠ 0

/-- A session was opened, no start failed since, and no DPC or ISR came: the numbers of both are
`0`, or so large that they wrap to `0`, without a long DPC. -/
def LatencyHistory.Eventless (h : LatencyHistory) : Prop :=
  (h.opening.isSome ∧ h.failed = false) ∧ (∀ x ∈ h.samples, x.isDpc = true → x.durationUs < 1000) ∧
    2 ^ 64 ∣ h.samples.countP (·.isDpc) ∧ 2 ^ 64 ∣ h.samples.countP (!·.isDpc)

theorem longestUs_lt_iff {n : ℕ} (hn : 0 < n) (xs : List KernelSample) :
    longestUs xs < n ↔ ∀ x ∈ xs, x.durationUs.toNat < n := by
  induction xs with
  | nil => exact iff_of_true hn nofun
  | cons x xs ih =>
    show max x.durationUs.toNat (longestUs xs) < n ↔ _
    rw [max_lt_iff, ih, List.forall_mem_cons]

theorem ofNat_eq_zero_iff (n : ℕ) : UInt64.ofNat n = 0 ↔ 2 ^ 64 ∣ n := by
  rw [← UInt64.toNat_inj, UInt64.toNat_ofNat', UInt64.toNat_zero, Nat.dvd_iff_mod_eq_zero]

variable {drivers : List LoadedDriver} {events : List LatencyEvent}
  {m : KernelLatencySessionManager F}

theorem LatencyHistory.Explains.maxDpc_lt {h : LatencyHistory} (hm : h.Explains A m) :
    m.counters.maxDpcUs < 1000 ↔ ∀ x ∈ h.samples, x.isDpc = true → x.durationUs < 1000 := by
  rw [UInt64.lt_iff_toNat_lt, hm.tallies.maxDpc]
  show longestUs _ < 1000 ↔ _
  rw [longestUs_lt_iff (by decide)]
  simp only [List.mem_filter, and_imp, UInt64.lt_iff_toNat_lt]
  rfl

/-- **When a verdict is based on events.** -/
theorem verdict_counts_iff (table : CaseTable) (A : Averages F) {drivers : List LoadedDriver}
    {events : List LatencyEvent} {m : KernelLatencySessionManager F}
    (hrun : exec (KernelLatencySessionManager.step A) events (.new drivers) = some m)
    (values : List (DriverLatencyStat F)) (durationSecs : F) :
    (generateReport table values m durationSecs).CountsEvents ↔
      ¬ (LatencyHistory.of events).Eventless := by
  have hm := LatencyHistory.explains_run hrun
  have hsuitable :
      (generateReport table values m durationSecs).systemSuitableForCompetitive = true ↔
      m.measurementStatus.isMeasured = true ∧ m.counters.maxDpcUs < 1000 := by
    show (m.measurementStatus.isMeasured && decide (m.counters.maxDpcUs < 1000)) = true ↔ _
    rw [Bool.and_eq_true, decide_eq_true_eq]
  show (_ → m.counters.totalDpcs ≠ 0 ∨ m.counters.totalIsrs ≠ 0) ↔ _
  rw [hsuitable, hm.measured, hm.maxDpc_lt, hm.tallies.dpcs, hm.tallies.isrs, ne_eq, ne_eq,
    ofNat_eq_zero_iff, ofNat_eq_zero_iff, LatencyHistory.Eventless]
  tauto

/-- A session that is not opened by the worker. -/
theorem verdict_counts_unopened : ∃ m : KernelLatencySessionManager ℚ,
    exec (KernelLatencySessionManager.step rationalAverages) [.starts 10000000, .opens false]
      (.new []) = some m ∧
    ((generateReport letterCase [] m 5).CountsEvents ↔
      ¬ (LatencyHistory.of [.starts 10000000, .opens false]).Eventless) :=
  ⟨_, rfl, verdict_counts_iff letterCase rationalAverages rfl [] 5⟩

/-- It is reported as suitable all the same. -/
theorem verdict_without_events : ¬ ∀ (table : CaseTable) (drivers : List LoadedDriver)
    (events : List LatencyEvent) (m : KernelLatencySessionManager ℚ),
    exec (KernelLatencySessionManager.step rationalAverages) events (.new drivers) = some m →
    (generateReport table m.counters.stats.values m 5).CountsEvents := by
  intro h
  have hcounts := h letterCase [] [.starts 10000000, .opens false] _ rfl rfl
  rcases hcounts with hdpcs | hisrs
  · exact hdpcs rfl
  · exact hisrs rfl

/-! ### The label -/

/-- No sample that came from `run_synthetic_session` is counted as a kernel sample. -/
def KernelLatencySessionManager.LabelHolds (m : KernelLatencySessionManager F)
    (log : List (SampleOrigin × KernelSample)) : Prop :=
  m.provenance.source = .realKernelDpcIsr → ∀ e ∈ log, e.1 ≠ .synthetic

/-- Samples of a synthetic session are still counted, and a start failed since it ran. -/
def LatencyHistory.Relabelled (h : LatencyHistory) : Prop :=
  h.failed = true ∧ ∃ e ∈ h.log, e.1 = .synthetic

theorem LatencyMeasurementStatus.source_eq_iff (status : LatencyMeasurementStatus) :
    status.source = .realKernelDpcIsr ↔ status ≠ .syntheticTestFixture := by
  cases status <;> simp [source]

/-- **When the label of the samples holds.**  The samples of the history are those that the counters
and the statistics are a tally of. -/
theorem label_holds_iff (A : Averages F) {drivers : List LoadedDriver}
    {events : List LatencyEvent} {m : KernelLatencySessionManager F}
    (hrun : exec (KernelLatencySessionManager.step A) events (.new drivers) = some m) :
    m.counters.Tallies A ((LatencyHistory.of events).log.map (·.2)) ∧
    (m.LabelHolds (LatencyHistory.of events).log ↔ ¬ (LatencyHistory.of events).Relabelled) := by
  have hm := LatencyHistory.explains_run hrun
  constructor
  · exact hm.tallies
  · show (m.measurementStatus.source = _ → _) ↔ _
    rw [LatencyMeasurementStatus.source_eq_iff, ne_eq, hm.synthetic]
    constructor
    · rintro hlabel ⟨hfailed, e, he, horigin⟩
      apply hlabel _ e he horigin
      rw [hfailed]
      simp
    · intro hnot hstatus e he horigin
      -- a synthetic sample says what cleared the counters
      have hopening := hm.origin e he horigin
      apply hnot
      constructor
      · by_contra hfailed
        exact hstatus ⟨hopening, by simpa using hfailed⟩
      · exact ⟨e, he, horigin⟩

/-- A synthetic session, and a start that is refused. -/
theorem label_holds_refused : ∃ m : KernelLatencySessionManager ℚ,
    exec (KernelLatencySessionManager.step rationalAverages)
      [.synthetic 1 false, .startFails .elevation] (.new []) = some m ∧
    m.counters.Tallies rationalAverages
      ((LatencyHistory.of [.synthetic 1 false, .startFails .elevation]).log.map (·.2)) ∧
    (m.LabelHolds (LatencyHistory.of [.synthetic 1 false, .startFails .elevation]).log ↔
      ¬ (LatencyHistory.of [.synthetic 1 false, .startFails .elevation]).Relabelled) :=
  ⟨_, rfl, label_holds_iff rationalAverages rfl⟩

/-- Its samples are reported as kernel samples. -/
theorem synthetic_relabelled : ¬ ∀ (drivers : List LoadedDriver) (events : List LatencyEvent)
    (m : KernelLatencySessionManager ℚ),
    exec (KernelLatencySessionManager.step rationalAverages) events (.new drivers) = some m →
    m.LabelHolds (LatencyHistory.of events).log := by
  intro h
  have hlabel := h [] [.synthetic 1 false, .startFails .elevation] _ rfl rfl
  exact hlabel _ List.mem_cons_self rfl

end ValOpt
