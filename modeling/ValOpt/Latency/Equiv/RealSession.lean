import ValOpt.Latency.Equiv.Attribution
import ValOpt.Latency.Equiv.Verdict
import ValOpt.Latency.RealSession

/-!
# What a real session reports, and what it leaves

A session on a manager of its own has no samples but those of the kernel events of its trace, and
all of them (`KernelTrace.Tracing`), so the report of `GetLatencyReport` is about its own trace, and
calls the system suitable just if no long DPC came in a trace that was started.  The trace itself is
stopped with the session, unless the worker has left before (`realSession_reported`).
-/

namespace ValOpt

open Effect Tally Text KernelLatencySessionManager

variable {F : Type} {A : Averages F}

/-! ### One event -/

namespace TraceEvent

/-- The samples that an event brings. -/
def samples (qpcFrequency : UInt64) : TraceEvent → List KernelSample
  | kernelEvent rec => (kernelEventRecordCallback qpcFrequency rec).toList
  | opens _ | exits | foreignStop => []

/-- The worker leaves. -/
@[simp] def leaves : TraceEvent → Bool
  | opens ok => !ok
  | exits => true
  | kernelEvent _ | foreignStop => false

/-- The trace is stopped from outside. -/
@[simp] def stops : TraceEvent → Bool
  | foreignStop => true
  | opens _ | kernelEvent _ | exits => false

end TraceEvent

namespace KernelTrace

variable {drivers : List LoadedDriver} {qpcFrequency : UInt64} {xs : List KernelSample}
  {t t' : KernelTrace F}

variable (A) in
/-- What holds of a trace from its start on, once the samples `xs` have come. -/
structure Tracing (drivers : List LoadedDriver) (qpcFrequency : UInt64) (xs : List KernelSample)
    (t : KernelTrace F) : Prop where
  tallies : t.manager.counters.Tallies A xs
  drivers : t.manager.counters.drivers = drivers
  status : t.manager.measurementStatus = .realEtwCollected
  worker : ∃ phase, t.manager.worker = some (phase, qpcFrequency)

/-- The flags after some events, in which the worker has left or the trace was stopped. -/
structure Flags (t t' : KernelTrace F) (left stopped : Bool) : Prop where
  isRunning : t'.manager.isRunning = (t.manager.isRunning && !left)
  stopping : t'.manager.stopping = t.manager.stopping
  running : t'.running = (t.running && !stopped)

/-- **One event.** -/
theorem Tracing.step (h : t.Tracing A drivers qpcFrequency xs) {e : TraceEvent}
    (hstep : t.step A e = some t') :
    t'.Tracing A drivers qpcFrequency (xs ++ e.samples qpcFrequency) ∧
      Flags t t' e.leaves e.stops := by
  obtain ⟨phase, hworker⟩ := h.worker
  cases e with
  | opens ok =>
    obtain ⟨m, hm, rfl⟩ := Option.map_eq_some_iff.mp hstep
    simp only [KernelLatencySessionManager.step, hworker] at hm
    rw [TraceEvent.samples, List.append_nil]
    cases phase with
    | opening =>
      cases ok with
      | true =>
        obtain rfl := Option.some.inj hm
        exact ⟨⟨h.tallies, h.drivers, h.status, _, rfl⟩, by simp, rfl, by simp⟩
      | false =>
        obtain rfl := Option.some.inj hm
        exact ⟨⟨h.tallies, h.drivers, h.status, _, rfl⟩, by simp, rfl, by simp⟩
    | _ => cases hm
  | kernelEvent rec =>
    obtain ⟨m, hm, rfl⟩ := Option.map_eq_some_iff.mp hstep
    simp only [KernelLatencySessionManager.step, hworker] at hm
    cases phase with
    | processing =>
      dsimp only at hm
      rw [TraceEvent.samples]
      split at hm
      · next x hx =>
        obtain rfl := Option.some.inj hm
        rw [hx]
        exact ⟨⟨h.tallies.step x, h.drivers, h.status, _, rfl⟩, by simp, rfl, by simp⟩
      · next hx =>
        obtain rfl := Option.some.inj hm
        rw [hx, Option.toList_none, List.append_nil]
        exact ⟨⟨h.tallies, h.drivers, h.status, _, hworker⟩, by simp, rfl, by simp⟩
    | _ => cases hm
  | exits =>
    obtain ⟨m, hm, rfl⟩ := Option.map_eq_some_iff.mp hstep
    simp only [KernelLatencySessionManager.step, hworker] at hm
    rw [TraceEvent.samples, List.append_nil]
    cases phase with
    | processing =>
      obtain rfl := Option.some.inj hm
      exact ⟨⟨h.tallies, h.drivers, h.status, _, rfl⟩, by simp, rfl, by simp⟩
    | _ => cases hm
  | foreignStop =>
    obtain rfl := Option.some.inj hstep
    rw [TraceEvent.samples, List.append_nil]
    exact ⟨⟨h.tallies, h.drivers, h.status, _, hworker⟩, by simp, rfl, by simp⟩

/-- **What happens between two calls of the owner.** -/
theorem Tracing.exec (h : t.Tracing A drivers qpcFrequency xs) {es : List TraceEvent}
    (hexec : Effect.exec (KernelTrace.step A) es t = some t') :
    t'.Tracing A drivers qpcFrequency (xs ++ es.flatMap (·.samples qpcFrequency)) ∧
      Flags t t' (es.any (·.leaves)) (es.any (·.stops)) := by
  induction es generalizing xs t with
  | nil =>
    obtain rfl := Option.some.inj hexec
    rw [List.flatMap_nil, List.append_nil]
    exact ⟨h, by simp, rfl, by simp⟩
  | cons e es ih =>
    obtain ⟨t₁, hstep, hrest⟩ := Option.bind_eq_some_iff.mp hexec
    obtain ⟨h₁, hflags₁⟩ := h.step hstep
    obtain ⟨h₂, hflags₂⟩ := ih h₁ hrest
    refine ⟨?_, ?_, hflags₂.stopping.trans hflags₁.stopping, ?_⟩
    · rwa [List.flatMap_cons, ← List.append_assoc]
    · rw [hflags₂.isRunning, hflags₁.isRunning, List.any_cons, Bool.not_or, Bool.and_assoc]
    · rw [hflags₂.running, hflags₁.running, List.any_cons, Bool.not_or, Bool.and_assoc]

end KernelTrace

/-! ### The calls of the owner -/

section Calls

variable {drivers : List LoadedDriver} {m m' : KernelLatencySessionManager F}

/-- The start of a trace by a manager of its own. -/
theorem starts_new {qpcFrequency : UInt64}
    (hstep : (new drivers : KernelLatencySessionManager F).step A (.starts qpcFrequency) = some m) :
    (⟨m, true⟩ : KernelTrace F).Tracing A drivers qpcFrequency [] ∧ m.isRunning = true ∧
      m.stopping = false := by
  simp only [KernelLatencySessionManager.step] at hstep
  split at hstep
  · cases hstep
  · obtain rfl := Option.some.inj hstep
    exact ⟨⟨LatencyCounters.Tallies.clear _, rfl, rfl, _, rfl⟩, rfl, rfl⟩

/-- A start that is refused leaves nothing to report. -/
theorem startFails_new {failure : StartFailure}
    (hstep : (new drivers : KernelLatencySessionManager F).step A (.startFails failure) = some m) :
    m.counters.Tallies A [] ∧ m.counters.drivers = drivers ∧
      m.measurementStatus = failure.outcome.1 := by
  obtain rfl := Option.some.inj hstep
  exact ⟨(LatencyHistory.explains_new A drivers).tallies, rfl, rfl⟩

theorem step_stops (hstopping : m.stopping = false) :
    m.step A .stops = some { m with isRunning := false, stopping := m.isRunning } := by
  simp [KernelLatencySessionManager.step, hstopping]

theorem of_joins (hstep : m.step A .joins = some m') :
    m'.counters = m.counters ∧ m'.measurementStatus = m.measurementStatus := by
  simp only [KernelLatencySessionManager.step] at hstep
  split at hstep
  · split at hstep
    · obtain rfl := Option.some.inj hstep
      exact ⟨rfl, rfl⟩
    · cases hstep
  · cases hstep

end Calls

/-! ### The session -/

namespace RealSession

variable (session : RealSession)

/-- The worker leaves before `stop_session` looks. -/
def leftEarly : Bool := session.during.any (·.leaves)

/-- The samples that the trace brings while somebody listens. -/
def samples : List KernelSample :=
  session.started.toOption.elim [] fun qpcFrequency =>
    (session.during ++ if session.leftEarly then [] else session.late).flatMap
      (·.samples qpcFrequency)

/-- Nothing stops the trace: no other program does, and the session only if the worker is still
there. -/
def leavesTrace : Bool :=
  session.started.isOk && !session.during.any (·.stops) &&
    (session.leftEarly || !session.controlled && !session.late.any (·.stops))

/-- The status that the start leaves. -/
def status : LatencyMeasurementStatus :=
  match session.started with
  | .error failure => failure.outcome.1
  | .ok _ => .realEtwCollected

variable (A : Averages F) in
/-- What a session leaves. -/
structure Leaves (drivers : List LoadedDriver) (t : KernelTrace F) : Prop where
  tallies : t.manager.counters.Tallies A session.samples
  drivers : t.manager.counters.drivers = drivers
  status : t.manager.measurementStatus = session.status
  running : t.running = session.leavesTrace

variable {session} {drivers : List LoadedDriver} {t : KernelTrace F}

/-- The session that is refused. -/
theorem leaves_of_error {failure : StartFailure} (hstarted : session.started = .error failure)
    (hrun : runRealSession A session (.new drivers) = some t) : session.Leaves A drivers t := by
  rw [runRealSession, hstarted] at hrun
  obtain ⟨m, hm, rfl⟩ := Option.map_eq_some_iff.mp hrun
  obtain ⟨htallies, hdrivers, hstatus⟩ := startFails_new hm
  refine ⟨?_, hdrivers, ?_, ?_⟩
  · rw [samples, hstarted]
    exact htallies
  · rw [status, hstarted]
    exact hstatus
  · rw [leavesTrace, hstarted]
    rfl

/-- The session that starts. -/
theorem leaves_of_ok {qpcFrequency : UInt64} (hstarted : session.started = .ok qpcFrequency)
    (hrun : runRealSession A session (.new drivers) = some t) : session.Leaves A drivers t := by
  rw [runRealSession, hstarted] at hrun
  obtain ⟨m₀, hstart, hrun⟩ := Option.bind_eq_some_iff.mp hrun
  obtain ⟨t₁, hduring, hrun⟩ := Option.bind_eq_some_iff.mp hrun
  obtain ⟨m₂, hstop, hrun⟩ := Option.bind_eq_some_iff.mp hrun
  obtain ⟨htracing₀, hrunning₀, hstopping₀⟩ := starts_new hstart
  obtain ⟨htracing₁, hflags₁⟩ := htracing₀.exec hduring
  rw [List.nil_append] at htracing₁
  have hisRunning : t₁.manager.isRunning = !session.leftEarly := by
    rw [hflags₁.isRunning, hrunning₀, Bool.true_and, leftEarly]
  have hrunning₁ : t₁.running = !session.during.any (·.stops) := by
    rw [hflags₁.running, Bool.true_and]
  rw [step_stops (hflags₁.stopping.trans hstopping₀), hisRunning] at hstop
  obtain rfl := Option.some.inj hstop
  by_cases hleft : session.leftEarly = true
  · -- `stop_session` finds no session running
    rw [hleft] at hrun
    obtain rfl := Option.some.inj hrun
    refine ⟨?_, htracing₁.drivers, ?_, ?_⟩
    · rw [samples, hstarted, hleft, if_pos rfl, List.append_nil]
      exact htracing₁.tallies
    · rw [status, hstarted]
      exact htracing₁.status
    · rw [leavesTrace, hstarted, hleft]
      show t₁.running = _
      rw [hrunning₁]
      simp [Except.isOk, Except.toBool]
  · rw [Bool.not_eq_true] at hleft
    rw [hleft] at hrun
    obtain ⟨t₂, hlate, hrun⟩ := Option.bind_eq_some_iff.mp hrun
    obtain ⟨m₃, hjoin, hrun⟩ := Option.bind_eq_some_iff.mp hrun
    obtain rfl := Option.some.inj hrun
    obtain ⟨hcounters, hstatus⟩ := of_joins hjoin
    have htracing : (⟨{ t₁.manager with isRunning := false, stopping := true },
        t₁.running && !session.controlled⟩ : KernelTrace F).Tracing A drivers qpcFrequency
          (session.during.flatMap (·.samples qpcFrequency)) :=
      ⟨htracing₁.tallies, htracing₁.drivers, htracing₁.status, htracing₁.worker⟩
    obtain ⟨htracing₂, hflags₂⟩ := htracing.exec hlate
    refine ⟨?_, ?_, ?_, ?_⟩
    · show m₃.counters.Tallies A _
      rw [samples, hstarted, hleft, if_neg Bool.false_ne_true, hcounters]
      show t₂.manager.counters.Tallies A (List.flatMap _ (_ ++ _))
      rw [List.flatMap_append]
      exact htracing₂.tallies
    · show m₃.counters.drivers = drivers
      rw [hcounters]
      exact htracing₂.drivers
    · show m₃.measurementStatus = _
      rw [hstatus, htracing₂.status, status, hstarted]
    · show t₂.running = _
      rw [hflags₂.running, hrunning₁, leavesTrace, hstarted, hleft]
      simp [Except.isOk, Except.toBool, Bool.and_assoc]

/-- **A session leaves its own samples.** -/
theorem leaves_of_run (hrun : runRealSession A session (.new drivers) = some t) :
    session.Leaves A drivers t := by
  cases hstarted : session.started with
  | error failure => exact leaves_of_error hstarted hrun
  | ok qpcFrequency => exact leaves_of_ok hstarted hrun

/-! ### The report -/

variable (session) in
/-- What the report says about the session. -/
structure Reported (drivers : List LoadedDriver) (report : LatencyReport F) : Prop where
  source : report.provenance.source = .realKernelDpcIsr
  measured : report.provenance.isDirectlyMeasured = true ↔ session.started.isOk = true
  status : report.status = session.status
  dpcs : report.totalDpcsCaptured = UInt64.ofNat (dpcsOf session.samples).length
  isrs : report.totalIsrsCaptured = UInt64.ofNat (isrsOf session.samples).length
  longestDpc : report.highestDpcUs.toNat = longestUs (dpcsOf session.samples)
  longestIsr : report.highestIsrUs.toNat = longestUs (isrsOf session.samples)
  suitable : report.systemSuitableForCompetitive = true ↔
    session.started.isOk = true ∧ ∀ x ∈ dpcsOf session.samples, x.durationUs < 1000
  offending : ∀ name, name ∈ report.offendingDrivers.map (·.driverName) ↔
    ∃ x ∈ session.samples, driverOf drivers x = name ∧ 500 ≤ x.durationUs

theorem status_cases : (session.started.isOk = true ∧ session.status = .realEtwCollected) ∨
    (session.started.isOk = false ∧ session.status.isMeasured = false) := by
  cases hstarted : session.started with
  | error failure =>
    right
    rw [status, hstarted]
    exact ⟨rfl, failure.isMeasured_outcome⟩
  | ok qpcFrequency =>
    left
    rw [status, hstarted]
    exact ⟨rfl, rfl⟩

/-- A driver is offending just if one of its samples is long. -/
theorem mem_offending_iff {c : LatencyCounters F} {xs : List KernelSample} (h : c.Tallies A xs)
    {values : List (DriverLatencyStat F)} (hvalues : values.Perm c.stats.values) (name : String) :
    name ∈ (getOffendingDrivers values).map (·.driverName) ↔
      ∃ x ∈ xs, driverOf c.drivers x = name ∧ 500 ≤ x.durationUs := by
  have hexceeds : ∀ stat ∈ c.stats.values, stat.exceeds500usThreshold = true ↔
      500 ≤ longestUs (samplesOf c.drivers xs stat.driverName) := by
    intro stat hstat
    obtain ⟨name, hlookup⟩ := mem_accounts_iff.mp hstat
    have hacc := h.ofDriver hlookup
    rw [h.driverName hlookup, hacc.exceeds, UInt64.le_iff_toNat_le, hacc.longest]
    rfl
  constructor
  · intro hname
    obtain ⟨stat, hstat, rfl⟩ := List.mem_map.mp hname
    obtain ⟨hmem, hlong⟩ := List.mem_filter.mp ((rankings values).offending.mem_iff.mp hstat)
    have hpeak := (hexceeds stat (hvalues.mem_iff.mp hmem)).mp hlong
    have hne : samplesOf c.drivers xs stat.driverName ≠ [] := by
      intro hnil
      rw [hnil] at hpeak
      exact absurd hpeak (by decide)
    obtain ⟨x, hx, hlongest⟩ := exists_longestUs hne
    obtain ⟨hxs, hdriver⟩ := List.mem_filter.mp hx
    refine ⟨x, hxs, of_decide_eq_true hdriver, ?_⟩
    rw [UInt64.le_iff_toNat_le, hlongest]
    exact hpeak
  · rintro ⟨x, hx, rfl, hlong⟩
    obtain ⟨stat, hstat, hname⟩ := h.exists_mem_values ⟨x, hx, rfl⟩
    have hmem : x ∈ samplesOf c.drivers xs stat.driverName := by
      rw [hname]
      exact List.mem_filter.mpr ⟨hx, decide_eq_true rfl⟩
    have hpeak := (UInt64.le_iff_toNat_le.mp hlong).trans (le_longestUs hmem)
    refine List.mem_map.mpr ⟨stat, (rankings values).offending.mem_iff.mpr ?_, hname⟩
    exact List.mem_filter.mpr ⟨hvalues.mem_iff.mpr hstat, (hexceeds stat hstat).mpr hpeak⟩

theorem Leaves.reported (h : session.Leaves A drivers t) (table : CaseTable)
    {values : List (DriverLatencyStat F)}
    (hvalues : values.Perm t.manager.counters.stats.values) (durationSecs : F) :
    session.Reported drivers (generateReport table values t.manager durationSecs) where
  source := by
    show t.manager.measurementStatus.source = _
    rw [h.status, LatencyMeasurementStatus.source_eq_iff]
    rintro hsynthetic
    rcases session.status_cases with ⟨-, hreal⟩ | ⟨-, hmeasured⟩
    · rw [hsynthetic] at hreal
      cases hreal
    · rw [hsynthetic] at hmeasured
      cases hmeasured
  measured := by
    show decide (t.manager.measurementStatus = .realEtwCollected) = true ↔ _
    rw [decide_eq_true_eq, h.status]
    rcases session.status_cases with ⟨hok, hreal⟩ | ⟨hok, hmeasured⟩
    · exact iff_of_true hreal hok
    · refine iff_of_false (fun hreal => ?_) (by simp [hok])
      rw [hreal] at hmeasured
      cases hmeasured
  status := h.status
  dpcs := by
    show t.manager.counters.totalDpcs = _
    rw [h.tallies.dpcs, dpcsOf, List.countP_eq_length_filter]
  isrs := by
    show t.manager.counters.totalIsrs = _
    rw [h.tallies.isrs, isrsOf, List.countP_eq_length_filter]
  longestDpc := h.tallies.maxDpc
  longestIsr := h.tallies.maxIsr
  suitable := by
    show (t.manager.measurementStatus.isMeasured && decide (t.manager.counters.maxDpcUs < 1000)) =
      true ↔ _
    have hmeasured : session.status.isMeasured = session.started.isOk := by
      rcases session.status_cases with ⟨hok, hreal⟩ | ⟨hok, hmeasured⟩
      · rw [hok, hreal]
        rfl
      · rw [hok, hmeasured]
    have hlongest : t.manager.counters.maxDpcUs < 1000 ↔
        ∀ x ∈ dpcsOf session.samples, x.durationUs < 1000 := by
      rw [UInt64.lt_iff_toNat_lt, h.tallies.maxDpc]
      show longestUs (dpcsOf session.samples) < 1000 ↔ _
      rw [longestUs_lt_iff (by decide)]
      simp only [UInt64.lt_iff_toNat_lt]
      rfl
    rw [Bool.and_eq_true, decide_eq_true_eq, h.status, hmeasured, hlongest]
  offending := by
    have hoffending := mem_offending_iff h.tallies hvalues
    rw [h.drivers] at hoffending
    exact hoffending

end RealSession

/-- **A report is about its own trace.**  It is labelled as measured just if the trace was started,
counts the DPCs and ISRs of all events of the trace and nothing else, calls the system suitable just
if no DPC of a started trace was long, and accuses just the drivers with a long sample.  The trace
is left running just if nothing stopped it from outside, and the session did not either. -/
theorem realSession_reported {session : RealSession} {drivers : List LoadedDriver}
    {t : KernelTrace F} (hrun : runRealSession A session (.new drivers) = some t)
    (table : CaseTable) {values : List (DriverLatencyStat F)}
    (hvalues : values.Perm t.manager.counters.stats.values) (durationSecs : F) :
    session.Reported drivers (generateReport table values t.manager durationSecs) ∧
      t.running = session.leavesTrace :=
  ⟨(RealSession.leaves_of_run hrun).reported table hvalues durationSecs,
    (RealSession.leaves_of_run hrun).running⟩

/-- One DPC of `nvlddmkm.sys` comes in the session, of 1500 microseconds, and one after the worker
was asked to stop, of 200. -/
def longDpcSession : RealSession where
  started := .ok 10000000
  during := [.opens true, .kernelEvent ⟨perfInfoGuid, 66, some (50000, 0xFFFFF80020001000), 65000⟩]
  controlled := true
  late := [.kernelEvent ⟨perfInfoGuid, 66, some (70000, 0xFFFFF80020001000), 72000⟩, .exits]

/-- The worker cannot open the trace. -/
def unopenedSession : RealSession where
  started := .ok 10000000
  during := [.opens false]
  controlled := true
  late := []

/-- The driver is accused, and its late DPC counts.  Where the trace was not opened, it is left
running, and the system called suitable without a sample. -/
theorem realSession_reported_longDpc :
    (∃ t : KernelTrace ℚ,
      runRealSession rationalAverages longDpcSession (.new twoDrivers) = some t ∧
      t.running = false ∧
      ∀ values, values.Perm t.manager.counters.stats.values →
        (generateReport letterCase values t.manager 1).totalDpcsCaptured = 2 ∧
        (generateReport letterCase values t.manager 1).highestDpcUs.toNat = 1500 ∧
        (generateReport letterCase values t.manager 1).systemSuitableForCompetitive = false ∧
        "nvlddmkm.sys" ∈ (generateReport letterCase values t.manager 1).offendingDrivers.map
          (·.driverName)) ∧
    ∃ t : KernelTrace ℚ,
      runRealSession rationalAverages unopenedSession (.new []) = some t ∧ t.running = true ∧
      (generateReport letterCase [] t.manager 1).systemSuitableForCompetitive = true := by
  constructor
  · obtain ⟨t, hrun⟩ : ∃ t : KernelTrace ℚ,
        runRealSession rationalAverages longDpcSession (.new twoDrivers) = some t := ⟨_, rfl⟩
    have hsamples : longDpcSession.samples = [⟨6500, 1500, 0xFFFFF80020001000, true⟩,
        ⟨7200, 200, 0xFFFFF80020001000, true⟩] := by decide
    refine ⟨t, hrun, (realSession_reported hrun letterCase (List.Perm.refl _) 1).2, ?_⟩
    intro values hvalues
    have hreported := (realSession_reported hrun letterCase hvalues 1).1
    refine ⟨?_, ?_, ?_, ?_⟩
    · rw [hreported.dpcs, hsamples]
      rfl
    · rw [hreported.longestDpc, hsamples]
      rfl
    · rw [Bool.eq_false_iff, ne_eq, hreported.suitable, hsamples]
      intro hsuitable
      exact absurd (hsuitable.2 _ List.mem_cons_self) (by decide)
    · rw [hreported.offending, hsamples]
      refine ⟨_, List.mem_cons_self, ?_, by decide⟩
      simp [driverOf, attribution, resolveAddress, twoDrivers, LoadedDriver.isAttributable,
        binarySearchByKey, binarySearchBase, Option.filter_some]
  · obtain ⟨t, hrun, hvalues⟩ : ∃ t : KernelTrace ℚ,
        runRealSession rationalAverages unopenedSession (.new []) = some t ∧
          t.manager.counters.stats.values = [] := ⟨_, rfl, rfl⟩
    obtain ⟨hreported, hrunning⟩ :=
      realSession_reported hrun letterCase (List.Perm.of_eq hvalues.symm) 1
    refine ⟨t, hrun, hrunning, hreported.suitable.mpr ⟨rfl, fun x hx => ?_⟩⟩
    cases hx

end ValOpt
