import ValOpt.Benchmarking.AbRunner
import ValOpt.Benchmarking.Equiv.Comparison
import ValOpt.Effect.Script

/-!
# The order of a live run

However a live run ends, its calls are the first ones of `schedule`: the trials alternate, each one
after the switch to its own state and the time to settle, and the state of the system is that of the
switches carried out (`runLive_schedule`).  The state before the run is never restored.
`runLive_returns_iff` says exactly when there is a report.
-/

namespace ValOpt

open Effect

/-! ### The schedule -/

/-- The calls of one trial. -/
def trialScript (trial : ℕ) (isOptimized : Bool) : List BenchCall :=
  [.applyState trial isOptimized, .settle trial isOptimized, .telemetry trial isOptimized,
    .capture trial isOptimized]

/-- The calls of some pairs of trials, from a number on. -/
def pairsScript : (trial left : ℕ) → List BenchCall
  | _, 0 => []
  | trial, left + 1 =>
    trialScript trial false ++ (trialScript trial true ++ pairsScript (trial + 1) left)

/-- The calls of a live run that nothing stops. -/
def schedule (trials : ℕ) : List BenchCall := .elevation :: pairsScript 1 trials

/-- The states that a run of so many pairs switches to. -/
def alternation : ℕ → List Bool
  | 0 => []
  | left + 1 => false :: true :: alternation left

namespace LiveBench

variable {σ : Type} (bench : LiveBench σ)

/-- The system after some switches, if each of them succeeds. -/
def switched : List Bool → σ → Option σ
  | [], s => some s
  | b :: bs, s => ((bench.applyState b).full s).bind fun r => switched bs r.2

/-- The system after the first ones of some switches, the last of which may have been cut short. -/
inductive Partway : List Bool → σ → σ → Prop
  | stop (bs : List Bool) (s : σ) : Partway bs s s
  | torn (b : Bool) (bs : List Bool) (s : σ) (k : ℕ) :
      Partway (b :: bs) s ((bench.applyState b).torn k s)
  | switch (b : Bool) (bs : List Bool) (s s' t : σ)
      (h : (bench.applyState b).full s = some ((), s')) (ht : Partway bs s' t) :
      Partway (b :: bs) s t

variable {bench} {s s' : σ}

theorem switched_cons {b : Bool} {bs : List Bool}
    (h : (bench.applyState b).full s = some ((), s')) :
    bench.switched (b :: bs) s = bench.switched bs s' := by
  rw [switched, h]
  rfl

theorem exists_of_switched_cons {b : Bool} {bs : List Bool}
    (h : bench.switched (b :: bs) s = some s') :
    ∃ t, (bench.applyState b).full s = some ((), t) ∧ bench.switched bs t = some s' := by
  rw [switched, Option.bind_eq_some_iff] at h
  obtain ⟨r, hfull, hrest⟩ := h
  exact ⟨r.2, hfull, hrest⟩

end LiveBench

variable {K : Type} [Field K] [LinearOrder K] [IsStrictOrderedRing K] [FloorSemiring K]
  {σ : Type} {bench : LiveBench σ} {num : Numerics K} {rng : Generator}
  {config : ABBenchmarkConfig K} {env : Env BenchCall} {s s' : σ} {trial left : ℕ} {b : Bool}

/-! ### The calls -/

omit [LinearOrder K] [Field K] [IsStrictOrderedRing K] [FloorSemiring K] in
/-- A call of which only the coming back counts. -/
theorem run_read_unit (env : Env BenchCall) (c : BenchCall) (s : σ) :
    (∃ k, env.outcome c = .crash k ∧
      (perform c (.read fun _ => some ())).run env s = .crashed s) ∨
    ((∀ k, env.outcome c ≠ .crash k) ∧
      ∃ r, (perform c (.read fun _ => some ())).run env s = .returned r s ∧
        (r.isOk = true → env.outcome c = .ok)) := by
  cases h : env.outcome c with
  | ok => exact .inr ⟨nofun, _, run_perform_ok h rfl, fun _ => rfl⟩
  | fail k => exact .inr ⟨nofun, _, run_perform_fail h, nofun⟩
  | crash k => exact .inl ⟨k, rfl, run_perform_crash h⟩

/-- The calls of a trial. -/
theorem plays_runTrial (trial : ℕ) (b : Bool) (s : σ) :
    Eff.Plays env (runTrial bench num config trial b) s (trialScript trial b)
      fun r => r.isOk = true := by
  have hstep (c : BenchCall) {γ : Type} {f : Except String Unit → Eff BenchCall σ γ}
      {script : List BenchCall} {Q : γ → Prop} {t : σ}
      (hf : ∀ r t, Eff.Plays env (f r) t script Q) :
      Eff.Plays env (perform c (.read fun _ => some ()) >>= f) t (c :: script) Q :=
    (Eff.plays_perform c _ _).then fun r t _ => hf r t
  change Eff.Plays env _ s ([_] ++ [_, _, _]) _
  refine (Eff.plays_perform (BenchCall.applyState trial b) _ _).andThen (fun e => ⟨e, rfl⟩) ?_
  intro _ t _
  refine hstep _ fun _ t => hstep _ fun _ t => hstep _ fun _ t => ?_
  exact Eff.plays_pure _ _

/-- The calls of the loop. -/
theorem plays_runTrials (left trial : ℕ) (base opt : List (ComputedMetrics K)) (s : σ) :
    Eff.Plays env (runTrials bench num config trial left base opt) s (pairsScript trial left)
      fun r => r.isOk = true := by
  induction left generalizing trial base opt s with
  | zero => exact Eff.plays_pure _ _
  | succ left ih =>
    rw [runTrials, pairsScript]
    refine (plays_runTrial trial false s).andThen (fun e => ⟨e, rfl⟩) ?_
    intro metricsA t _
    refine (plays_runTrial trial true t).andThen (fun e => ⟨e, rfl⟩) ?_
    intro metricsB t _
    exact ih (trial + 1) (base ++ [metricsA]) (opt ++ [metricsB]) t

/-! ### One trial -/

/-- No call of the list kills the program. -/
def Survives (env : Env BenchCall) (cs : List BenchCall) : Prop :=
  ∀ c ∈ cs, ∀ k, env.outcome c ≠ .crash k

/-- The callback is carried out and takes the system from `s` to `s'`. -/
def Switches (bench : LiveBench σ) (env : Env BenchCall) (trial : ℕ) (b : Bool) (s s' : σ) : Prop :=
  env.outcome (.applyState trial b) = .ok ∧ (bench.applyState b).full s = some ((), s')

variable (num config) in
/-- A trial whose state was switched to. -/
theorem runTrial_switched (h : Switches bench env trial b s s') :
    (Survives env (trialScript trial b) ∧ (runTrial bench num config trial b).run env s =
      .returned (bench.trialMetrics num config trial b) s') ∨
    (¬ Survives env (trialScript trial b) ∧
      (runTrial bench num config trial b).run env s = .crashed s') := by
  obtain ⟨hok, hfull⟩ := h
  have hdies {c : BenchCall} (hc : c ∈ trialScript trial b) {k : ℕ}
      (hk : env.outcome c = .crash k) :
      ¬ Survives env (trialScript trial b) := fun hsurvives => hsurvives c hc k hk
  rw [runTrial]
  simp only [Eff.run_bind, run_perform_ok hok hfull, Run.bind_returned]
  rcases run_read_unit env (.settle trial b) s' with ⟨k, hk, hrun⟩ | ⟨hsettle, r, hrun, -⟩
  · exact .inr ⟨hdies (by simp [trialScript]) hk, by rw [hrun]; rfl⟩
  rcases run_read_unit env (.telemetry trial b) s' with ⟨k, hk, hrun'⟩ | ⟨htele, r', hrun', -⟩
  · exact .inr ⟨hdies (by simp [trialScript]) hk, by rw [hrun, Run.bind_returned, hrun']; rfl⟩
  rcases run_read_unit env (.capture trial b) s' with ⟨k, hk, hrun''⟩ | ⟨hcap, r'', hrun'', -⟩
  · refine .inr ⟨hdies (by simp [trialScript]) hk, ?_⟩
    rw [hrun, Run.bind_returned, hrun', Run.bind_returned, hrun'']
    rfl
  · left
    constructor
    · intro c hc k
      simp only [trialScript, List.mem_cons, List.not_mem_nil, or_false] at hc
      rcases hc with rfl | rfl | rfl | rfl
      · rw [hok]
        nofun
      · exact hsettle k
      · exact htele k
      · exact hcap k
    · rw [hrun, Run.bind_returned, hrun', Run.bind_returned, hrun'']
      rfl

variable (num config) in
/-- A trial whose state was not switched to. -/
theorem runTrial_not_switched (h : ∀ s', ¬ Switches bench env trial b s s') :
    ∃ t, (t = s ∨ ∃ k, t = (bench.applyState b).torn k s) ∧
      ((runTrial bench num config trial b).run env s = .crashed t ∨
        ∃ e, (runTrial bench num config trial b).run env s = .returned (.error e) t) := by
  rw [runTrial]
  simp only [Eff.run_bind]
  cases hout : env.outcome (.applyState trial b) with
  | ok =>
    cases hfull : (bench.applyState b).full s with
    | none => exact ⟨s, .inl rfl, .inr ⟨_, by rw [run_perform_refused hout hfull]; rfl⟩⟩
    | some r => exact absurd ⟨hout, hfull⟩ (h r.2)
  | fail k => exact ⟨_, .inr ⟨k, rfl⟩, .inr ⟨_, by rw [run_perform_fail hout]; rfl⟩⟩
  | crash k => exact ⟨_, .inr ⟨k, rfl⟩, .inl (by rw [run_perform_crash hout]; rfl)⟩

/-- The call comes back, and with success where the run looks at it. -/
def BenchCall.Completes (env : Env BenchCall) : BenchCall → Prop
  | .elevation => env.outcome .elevation = .ok
  | .applyState trial b => env.outcome (.applyState trial b) = .ok
  | .settle trial b => ∀ k, env.outcome (.settle trial b) ≠ .crash k
  | .telemetry trial b => ∀ k, env.outcome (.telemetry trial b) ≠ .crash k
  | .capture trial b => ∀ k, env.outcome (.capture trial b) ≠ .crash k

theorem completes_trialScript : (∀ c ∈ trialScript trial b, c.Completes env) ↔
    env.outcome (.applyState trial b) = .ok ∧ Survives env (trialScript trial b) := by
  simp only [trialScript, Survives, List.forall_mem_cons, BenchCall.Completes, List.not_mem_nil,
    IsEmpty.forall_iff, implies_true, and_true]
  constructor
  · rintro ⟨hok, hrest⟩
    exact ⟨hok, fun k hk => (by rw [hok] at hk; cases hk), hrest⟩
  · rintro ⟨hok, -, hrest⟩
    exact ⟨hok, hrest⟩

/-- What a trial that returns its metrics went through. -/
theorem runTrial_ok_iff {m : ComputedMetrics K} :
    (runTrial bench num config trial b).run env s = .returned (.ok m) s' ↔
      (bench.applyState b).full s = some ((), s') ∧ (∀ c ∈ trialScript trial b, c.Completes env) ∧
        bench.trialMetrics num config trial b = .ok m := by
  rw [completes_trialScript]
  by_cases hswitch : ∃ t, Switches bench env trial b s t
  · obtain ⟨t, ht⟩ := hswitch
    have hfull : (bench.applyState b).full s = some ((), s') ↔ t = s' := by
      rw [ht.2]
      simp
    rw [hfull]
    rcases runTrial_switched num config ht with ⟨hsurv, hrun⟩ | ⟨hdies, hrun⟩
    · rw [hrun, Run.returned.injEq]
      constructor
      · rintro ⟨hm, rfl⟩
        exact ⟨rfl, ⟨ht.1, hsurv⟩, hm⟩
      · rintro ⟨rfl, -, hm⟩
        exact ⟨hm, rfl⟩
    · rw [hrun]
      constructor
      · intro h
        cases h
      · rintro ⟨-, ⟨-, hsurv⟩, -⟩
        exact absurd hsurv hdies
  · rw [not_exists] at hswitch
    constructor
    · intro hrun
      obtain ⟨t, -, hcrash | ⟨e, herror⟩⟩ :=
        runTrial_not_switched num config hswitch
      · rw [hcrash] at hrun
        cases hrun
      · rw [herror] at hrun
        cases hrun
    · rintro ⟨hfull, ⟨hok, -⟩, -⟩
      exact absurd ⟨hok, hfull⟩ (hswitch s')

variable (num config) in
/-- However a trial ends, the switch is all that it did to the system. -/
theorem partway_runTrial (bs : List Bool) (s : σ) :
    bench.Partway (b :: bs) s ((runTrial bench num config trial b).run env s).state := by
  by_cases hswitch : ∃ t, Switches bench env trial b s t
  · obtain ⟨t, ht⟩ := hswitch
    have hstate : ((runTrial bench num config trial b).run env s).state = t := by
      rcases runTrial_switched num config ht with ⟨-, hrun⟩ | ⟨-, hrun⟩ <;>
        rw [hrun] <;> rfl
    rw [hstate]
    exact .switch b bs s t t ht.2 (.stop bs t)
  · rw [not_exists] at hswitch
    obtain ⟨t, htorn, hrun⟩ := runTrial_not_switched num config hswitch
    have hstate : ((runTrial bench num config trial b).run env s).state = t := by
      rcases hrun with hrun | ⟨e, hrun⟩ <;> rw [hrun] <;> rfl
    rw [hstate]
    rcases htorn with rfl | ⟨k, rfl⟩
    · exact .stop _ _
    · exact .torn _ _ _ _

variable (num config) in
/-- A trial, and what follows if it returns its metrics. -/
theorem partway_andThen {γ : Type} {bs : List Bool}
    {f : Except String (ComputedMetrics K) → Eff BenchCall σ (Except String γ)}
    (herror : ∀ e, f (.error e) = pure (.error e))
    (hf : ∀ m s', bench.Partway bs s' ((f (.ok m)).run env s').state) (s : σ) :
    bench.Partway (b :: bs) s ((runTrial bench num config trial b >>= f).run env s).state := by
  have htrial : bench.Partway (b :: bs) s ((runTrial bench num config trial b).run env s).state :=
    partway_runTrial num config bs s
  rw [Eff.run_bind]
  cases hrun : (runTrial bench num config trial b).run env s with
  | crashed t =>
    rw [hrun] at htrial
    exact htrial
  | returned r t =>
    rw [hrun] at htrial
    rw [Run.bind_returned]
    rcases r with e | m
    · rw [herror]
      exact htrial
    · exact .switch b bs s t _ (runTrial_ok_iff.mp hrun).1 (hf m t)

/-! ### The loop -/

/-- The trials of a list of numbers returned these metrics. -/
def Measured (bench : LiveBench σ) (num : Numerics K) (config : ABBenchmarkConfig K) (b : Bool)
    (trials : List ℕ) (runs : List (ComputedMetrics K)) : Prop :=
  List.Forall₂ (fun trial m => bench.trialMetrics num config trial b = .ok m) trials runs

/-- **What a loop that returns went through.** -/
theorem runTrials_ok_iff {base opt base' opt' : List (ComputedMetrics K)} :
    (runTrials bench num config trial left base opt).run env s = .returned (.ok (base', opt')) s' ↔
      bench.switched (alternation left) s = some s' ∧
      (∀ c ∈ pairsScript trial left, c.Completes env) ∧
      ∃ A B, base' = base ++ A ∧ opt' = opt ++ B ∧
        Measured bench num config false (List.range' trial left) A ∧
        Measured bench num config true (List.range' trial left) B := by
  induction left generalizing trial base opt s with
  | zero =>
    rw [runTrials, Eff.run_pure, Run.returned.injEq]
    constructor
    · rintro ⟨h, rfl⟩
      obtain ⟨rfl, rfl⟩ := Prod.mk.inj (Except.ok.inj h)
      exact ⟨rfl, by simp [pairsScript], [], [], by simp, by simp, .nil, .nil⟩
    · rintro ⟨hs, -, A, B, rfl, rfl, hA, hB⟩
      cases hA
      cases hB
      cases hs
      simp
  | succ left ih =>
    rw [runTrials, pairsScript, alternation, List.range'_succ]
    constructor
    · intro hrun
      rw [Eff.run_bind] at hrun
      obtain ⟨r, t, hrun₁, hrest⟩ := Run.exists_of_bind_eq_returned hrun
      rcases r with e | metricsA
      · cases hrest
      dsimp only at hrest
      rw [Eff.run_bind] at hrest
      obtain ⟨r, t', hrun₂, hrest⟩ := Run.exists_of_bind_eq_returned hrest
      rcases r with e | metricsB
      · cases hrest
      obtain ⟨hfull₁, hcalls₁, hA⟩ := runTrial_ok_iff.mp hrun₁
      obtain ⟨hfull₂, hcalls₂, hB⟩ := runTrial_ok_iff.mp hrun₂
      obtain ⟨hs, hcalls, A, B, rfl, rfl, hAs, hBs⟩ := ih.mp hrest
      refine ⟨?_, ?_, metricsA :: A, metricsB :: B, by simp, by simp, .cons hA hAs, .cons hB hBs⟩
      · rw [LiveBench.switched_cons hfull₁, LiveBench.switched_cons hfull₂, hs]
      · rw [List.forall_mem_append, List.forall_mem_append]
        exact ⟨hcalls₁, hcalls₂, hcalls⟩
    · rintro ⟨hs, hcalls, A, B, rfl, rfl, hAs, hBs⟩
      rw [List.forall_mem_append, List.forall_mem_append] at hcalls
      obtain ⟨hcalls₁, hcalls₂, hcalls⟩ := hcalls
      obtain _ | ⟨hA, hAs⟩ := hAs
      obtain _ | ⟨hB, hBs⟩ := hBs
      obtain ⟨t, hfull₁, hs⟩ := LiveBench.exists_of_switched_cons hs
      obtain ⟨t', hfull₂, hs⟩ := LiveBench.exists_of_switched_cons hs
      rw [Eff.run_bind, runTrial_ok_iff.mpr ⟨hfull₁, hcalls₁, hA⟩, Run.bind_returned]
      dsimp only
      rw [Eff.run_bind, runTrial_ok_iff.mpr ⟨hfull₂, hcalls₂, hB⟩, Run.bind_returned]
      dsimp only
      rw [ih]
      exact ⟨hs, hcalls, _, _, by simp, by simp, hAs, hBs⟩

/-- However the loop ends, the switches are all that it did to the system. -/
theorem partway_runTrials (left trial : ℕ) (base opt : List (ComputedMetrics K)) (s : σ) :
    bench.Partway (alternation left) s
      ((runTrials bench num config trial left base opt).run env s).state := by
  induction left generalizing trial base opt s with
  | zero => exact .stop _ _
  | succ left ih =>
    rw [runTrials, alternation]
    refine partway_andThen num config ?_ ?_ s
    · exact fun _ => rfl
    · intro metricsA t
      refine partway_andThen num config ?_ ?_ t
      · exact fun _ => rfl
      · intro metricsB t'
        exact ih (trial + 1) (base ++ [metricsA]) (opt ++ [metricsB]) t'

/-! ### The run -/

/-- What a live run that returns a report went through. -/
theorem runLive_ok_iff {report : ABComparisonReport K} :
    (runLiveEtwBenchmark bench num rng config).run env s = .returned (.ok report) s' ↔
      env.outcome .elevation = .ok ∧ bench.switched (alternation config.trials) s = some s' ∧
      (∀ c ∈ pairsScript 1 config.trials, c.Completes env) ∧
      ∃ base opt, Measured bench num config false (List.range' 1 config.trials) base ∧
        Measured bench num config true (List.range' 1 config.trials) opt ∧
        compareTrials num rng base opt = .ok report := by
  rw [runLiveEtwBenchmark]
  constructor
  · intro hrun
    rw [Eff.run_bind] at hrun
    rcases run_read_unit env .elevation s with ⟨k, -, hcrash⟩ | ⟨-, r, helevation, hok⟩
    · rw [hcrash] at hrun
      cases hrun
    rw [helevation, Run.bind_returned] at hrun
    rcases r with e | _
    · cases hrun
    dsimp only at hrun
    rw [Eff.run_bind] at hrun
    obtain ⟨r, t, htrials, hrest⟩ := Run.exists_of_bind_eq_returned hrun
    rcases r with e | ⟨base, opt⟩
    · cases hrest
    obtain ⟨hreport, rfl⟩ := Run.returned.inj hrest
    obtain ⟨hs, hcalls, A, B, rfl, rfl, hA, hB⟩ := runTrials_ok_iff.mp htrials
    exact ⟨hok rfl, hs, hcalls, _, _, hA, hB, hreport⟩
  · rintro ⟨hok, hs, hcalls, base, opt, hbase, hopt, hreport⟩
    rw [Eff.run_bind, run_perform_ok hok rfl, Run.bind_returned]
    dsimp only
    rw [Eff.run_bind, runTrials_ok_iff.mpr ⟨hs, hcalls, base, opt, rfl, rfl, hbase, hopt⟩,
      Run.bind_returned]
    dsimp only
    rw [List.nil_append, List.nil_append, hreport]
    rfl

/-! ### When there is a report -/

/-- The frames that a trial records. -/
def LiveBench.frames (bench : LiveBench σ) (targetPid : Option UInt32) (trial : ℕ) (b : Bool) :
    List (FrameSample K) :=
  framesFrom (bench.round targetPid trial b).start.qpcFrequency 0 0
    (bench.round targetPid trial b).recordedStamps

variable (K) in
/-- The session of a trial is started and records more frames than the warmup takes. -/
def TrialSucceeds (bench : LiveBench σ) (targetPid : Option UInt32) (warmupFrames trial : ℕ)
    (b : Bool) : Prop :=
  (bench.round targetPid trial b).Starts ∧
    warmupFrames < (bench.frames targetPid trial b : List (FrameSample K)).length

variable (num) in
/-- The metrics of a trial that was started are those of the frames that it recorded. -/
theorem trialMetrics_of_starts (hstarts : (bench.round config.targetPid trial b).Starts) :
    some (bench.trialMetrics num config trial b) =
      computeMetricsWithProvenance num (bench.frames config.targetPid trial b) config.warmupFrames
        (EtwFrameCaptureEngine.new.capture (bench.round config.targetPid trial b) :
          EtwFrameCaptureEngine K).provenance
        (some (sampleEnvironmentalTelemetry (bench.host trial b))) := by
  have hsamples : (EtwFrameCaptureEngine.new.capture (bench.round config.targetPid trial b) :
      EtwFrameCaptureEngine K).collector.samples = bench.frames config.targetPid trial b :=
    (EtwFrameCaptureEngine.capture_eq rfl hstarts).2.1
  rw [LiveBench.trialMetrics, Option.some_get, EtwFrameCaptureEngine.captureDurationBlocking,
    EtwFrameCaptureEngine.startRealCapture_ok rfl hstarts]
  dsimp only
  rw [EtwFrameCaptureEngine.calculateMetricsWithEnv, hsamples]

omit [IsStrictOrderedRing K] in
/-- The frame times that a trial records are within the sanity filter. -/
theorem isSane_frames (bench : LiveBench σ) (targetPid : Option UInt32)
    (trial : ℕ) (b : Bool) :
    ∀ f ∈ (bench.frames targetPid trial b : List (FrameSample K)), isSane f.frameTimeMs :=
  isSane_framesFrom _ _ _ _

theorem trialMetrics_isOk_iff : (∃ m, bench.trialMetrics num config trial b = .ok m) ↔
    TrialSucceeds K bench config.targetPid config.warmupFrames trial b := by
  by_cases hstarts : (bench.round config.targetPid trial b).Starts
  · have hmetrics := trialMetrics_of_starts num hstarts
    have hpos : ∀ f ∈ (bench.frames config.targetPid trial b : List (FrameSample K)),
        0 < f.frameTimeMs := fun f hf => isSane_pos (isSane_frames bench _ trial b f hf)
    by_cases hwarmup :
        config.warmupFrames < (bench.frames config.targetPid trial b : List (FrameSample K)).length
    · obtain ⟨m, hm, -⟩ := metrics_ordered num hpos hwarmup _ _
      rw [hm] at hmetrics
      exact iff_of_true ⟨m, Option.some.inj hmetrics⟩ ⟨hstarts, hwarmup⟩
    · rw [computeMetricsWithProvenance, if_pos (Nat.not_lt.mp hwarmup)] at hmetrics
      apply iff_of_false
      · rintro ⟨m, hm⟩
        rw [hm] at hmetrics
        cases hmetrics
      · exact fun h => hwarmup h.2
  · apply iff_of_false
    · rintro ⟨m, hm⟩
      have hsome := congrArg some hm
      rw [LiveBench.trialMetrics, Option.some_get,
        EtwFrameCaptureEngine.captureDurationBlocking] at hsome
      split at hsome
      · cases hsome
      · next hstart => exact hstarts (EtwFrameCaptureEngine.starts_of_ok hstart)
    · exact fun h => hstarts h.1

/-- Metrics of all trials exist just if there are some of each. -/
theorem exists_forall₂_iff {α β : Type} {r : α → β → Prop} {xs : List α} :
    (∃ ys, List.Forall₂ r xs ys) ↔ ∀ x ∈ xs, ∃ y, r x y := by
  induction xs with
  | nil => exact iff_of_true ⟨[], .nil⟩ (by simp)
  | cons x xs ih =>
    rw [List.forall_mem_cons, ← ih]
    constructor
    · rintro ⟨_, _ | ⟨hy, hys⟩⟩
      exact ⟨⟨_, hy⟩, _, hys⟩
    · rintro ⟨⟨y, hy⟩, ys, hys⟩
      exact ⟨y :: ys, .cons hy hys⟩

/-- The numbers of the trials. -/
theorem Measured.length {b : Bool} {runs : List (ComputedMetrics K)}
    (h : Measured bench num config b (List.range' 1 config.trials) runs) :
    runs.length = config.trials := by
  rw [← List.Forall₂.length_eq h, List.length_range']

theorem exists_measured_iff (bench : LiveBench σ) (num : Numerics K) (config : ABBenchmarkConfig K)
    (b : Bool) : (∃ runs, Measured bench num config b (List.range' 1 config.trials) runs) ↔
      ∀ trial, 1 ≤ trial → trial ≤ config.trials →
        TrialSucceeds K bench config.targetPid config.warmupFrames trial b := by
  rw [show (∃ runs, Measured bench num config b (List.range' 1 config.trials) runs) ↔ _ from
    exists_forall₂_iff]
  simp only [List.mem_range'_1, trialMetrics_isOk_iff]
  constructor
  · exact fun h trial hle hge => h trial ⟨hle, by omega⟩
  · exact fun h trial ht => h trial ht.1 (by omega)

/-- Nothing goes wrong, and there are two pairs of trials or more. -/
theorem exists_report (num : Numerics K) (rng : Generator) (htwo : 2 ≤ config.trials)
    (hcalls : ∀ c ∈ schedule config.trials, c.Completes env)
    (hs : bench.switched (alternation config.trials) s = some s')
    (htrials : ∀ trial, 1 ≤ trial → trial ≤ config.trials → ∀ b,
      TrialSucceeds K bench config.targetPid config.warmupFrames trial b) :
    ∃ report, (runLiveEtwBenchmark bench num rng config).run env s = .returned (.ok report) s' := by
  obtain ⟨base, hbase⟩ := (exists_measured_iff bench num config false).mpr
    fun trial hle hge => htrials trial hle hge false
  obtain ⟨opt, hopt⟩ := (exists_measured_iff bench num config true).mpr
    fun trial hle hge => htrials trial hle hge true
  obtain ⟨report, hreport⟩ : ∃ report, compareTrials num rng base opt = .ok report := by
    apply compareAbTrials_ok <;> rw [List.length_map]
    · rw [hbase.length]
      exact htwo
    · rw [hopt.length]
      exact htwo
  obtain ⟨helevation, hcalls⟩ := List.forall_mem_cons.mp hcalls
  exact ⟨report, runLive_ok_iff.mpr ⟨helevation, hs, hcalls, base, opt, hbase, hopt, hreport⟩⟩

/-! ### Whole runs -/

/-- A callback that always succeeds, and two presentations in every trial. -/
def sampleBench : LiveBench Bool where
  applyState := fun b => .atomic fun _ => some b
  host := fun _ _ => ⟨some 40, some 1, none, none, 200⟩
  captured := fun _ _ => ⟨true, 10000000, 0, [10000000, 10041666].map dxgiPresent, []⟩

/-- Two pairs of trials without a warmup. -/
noncomputable def sampleConfig : ABBenchmarkConfig ℝ :=
  { ABBenchmarkConfig.default with trials := 2, warmupFrames := 0, targetPid := some 1234 }

theorem completes_faultless (c : BenchCall) : c.Completes (.faultless fun _ => "") := by
  cases c <;> first | rfl | exact fun k hk => by cases hk

theorem sampleBench_succeeds (trial : ℕ) (b : Bool) :
    TrialSucceeds ℝ sampleBench (some 1234) 0 trial b := by
  refine ⟨⟨rfl, ?_, rfl⟩, ?_⟩
  · show (0 : Int64) < 10000000
    decide
  · have hsane : isSane (ticksToMs 10000000 41666 : ℝ) = true := by
      rw [isSane, ticksToMs, show (41666 : Int64).toInt = 41666 by decide,
        show (10000000 : Int64).toInt = 10000000 by decide]
      norm_num
    show 0 < (framesFrom 10000000 0 0 (stampsOf (some 1234)
      ([10000000, 10041666].map dxgiPresent)) : List (FrameSample ℝ)).length
    rw [stampsOf_dxgiPresent]
    simp [framesFrom, hsane]

/-- Where nothing goes wrong there is a report. -/
theorem sampleBench_reports : ∃ report,
    (runLiveEtwBenchmark sampleBench sampleNumerics xorshift64 sampleConfig).run
      (.faultless fun _ => "") false = .returned (.ok report) true := by
  apply exists_report
  · exact le_refl 2
  · exact fun c _ => completes_faultless c
  · rfl
  · intro trial _ _ b
    exact sampleBench_succeeds trial b

/-- **The order of a live run.**  Its calls are the first ones of the schedule and its state comes
of the first ones of the switches, however it ends; a report compares the metrics of all trials,
those of the baseline captured after the switch to the baseline and those of the profile after the
switch to the profile, and the profile is left applied. -/
theorem runLive_schedule (bench : LiveBench σ) (num : Numerics K) (rng : Generator)
    (config : ABBenchmarkConfig K) (env : Env BenchCall) (s : σ) :
    (runLiveEtwBenchmark bench num rng config).calls env s <+: schedule config.trials ∧
    bench.Partway (alternation config.trials) s
      ((runLiveEtwBenchmark bench num rng config).run env s).state ∧
    ∀ report s', (runLiveEtwBenchmark bench num rng config).run env s = .returned (.ok report) s' →
      (runLiveEtwBenchmark bench num rng config).calls env s = schedule config.trials ∧
      bench.switched (alternation config.trials) s = some s' ∧
      ∃ base opt, Measured bench num config false (List.range' 1 config.trials) base ∧
        Measured bench num config true (List.range' 1 config.trials) opt ∧
        compareTrials num rng base opt = .ok report := by
  have hplays : Eff.Plays env (runLiveEtwBenchmark bench num rng config) s (schedule config.trials)
      fun r => r.isOk = true := by
    change Eff.Plays env _ s ([_] ++ pairsScript 1 config.trials) _
    refine (Eff.plays_perform BenchCall.elevation _ _).andThen (fun e => ⟨_, rfl⟩) fun _ t _ => ?_
    rw [← List.append_nil (pairsScript 1 config.trials)]
    refine (plays_runTrials config.trials 1 [] [] t).andThen (fun e => ⟨e, rfl⟩) fun runs t' _ => ?_
    exact Eff.plays_pure _ _
  refine ⟨hplays.isPrefix, ?_, ?_⟩
  · rw [runLiveEtwBenchmark, Eff.run_bind]
    rcases run_read_unit env .elevation s with ⟨k, -, hrun⟩ | ⟨-, r, hrun, -⟩
    · rw [hrun]
      exact .stop _ _
    · rw [hrun, Run.bind_returned]
      rcases r with e | _
      · exact .stop _ _
      · dsimp only
        rw [Eff.state_bind_of_pure]
        · exact partway_runTrials config.trials 1 [] [] s
        · rintro (e | runs) <;> exact ⟨_, rfl⟩
  · intro report s' hrun
    refine ⟨hplays.complete _ _ hrun rfl, ?_⟩
    obtain ⟨-, hs, -, base, opt, hbase, hopt, hreport⟩ := runLive_ok_iff.mp hrun
    exact ⟨hs, base, opt, hbase, hopt, hreport⟩

/-- A run that dies in its first capture, and one that returns a report. -/
theorem sampleBench_schedule :
    ((runLiveEtwBenchmark sampleBench sampleNumerics xorshift64 sampleConfig).calls
        (.crashAt (.capture 1 false) 0 fun _ => "") false <+: schedule 2 ∧
      sampleBench.Partway (alternation 2) false
        ((runLiveEtwBenchmark sampleBench sampleNumerics xorshift64 sampleConfig).run
          (.crashAt (.capture 1 false) 0 fun _ => "") false).state) ∧
    ∃ report,
      (runLiveEtwBenchmark sampleBench sampleNumerics xorshift64 sampleConfig).run
        (.faultless fun _ => "") false = .returned (.ok report) true ∧
      (runLiveEtwBenchmark sampleBench sampleNumerics xorshift64 sampleConfig).calls
        (.faultless fun _ => "") false = schedule 2 ∧
      ∃ base opt, Measured sampleBench sampleNumerics sampleConfig false [1, 2] base ∧
        Measured sampleBench sampleNumerics sampleConfig true [1, 2] opt ∧
        compareTrials sampleNumerics xorshift64 base opt = .ok report := by
  have hschedule := runLive_schedule sampleBench sampleNumerics xorshift64 sampleConfig
  constructor
  · obtain ⟨hcalls, hstate, -⟩ := hschedule (.crashAt (.capture 1 false) 0 fun _ => "") false
    exact ⟨hcalls, hstate⟩
  · obtain ⟨report, hrun⟩ := sampleBench_reports
    obtain ⟨hcalls, -, hmeasured⟩ := (hschedule (.faultless fun _ => "") false).2.2 report true hrun
    exact ⟨report, hrun, hcalls, hmeasured⟩

/-- **When a live run returns a report.**  The process is elevated and nothing kills it, every
switch and every session succeed, every trial records more frames than the warmup takes, and there
are two pairs of trials or more. -/
theorem runLive_returns_iff (bench : LiveBench σ) (num : Numerics K) (rng : Generator)
    (config : ABBenchmarkConfig K) (env : Env BenchCall) (s : σ) :
    (∃ report s', (runLiveEtwBenchmark bench num rng config).run env s =
        .returned (.ok report) s') ↔
      2 ≤ config.trials ∧ (∀ c ∈ schedule config.trials, c.Completes env) ∧
      (bench.switched (alternation config.trials) s).isSome ∧
      ∀ trial, 1 ≤ trial → trial ≤ config.trials → ∀ b,
        TrialSucceeds K bench config.targetPid config.warmupFrames trial b := by
  constructor
  · rintro ⟨report, s', hrun⟩
    obtain ⟨helevation, hs, hcalls, base, opt, hbase, hopt, hreport⟩ := runLive_ok_iff.mp hrun
    have htwo := (compareAbTrials_spec hreport).two_le_base
    rw [List.length_map, hbase.length] at htwo
    refine ⟨htwo, List.forall_mem_cons.mpr ⟨helevation, hcalls⟩, by rw [hs]; rfl, ?_⟩
    intro trial hle hge b
    cases b with
    | false => exact (exists_measured_iff bench num config _).mp ⟨base, hbase⟩ trial hle hge
    | true => exact (exists_measured_iff bench num config _).mp ⟨opt, hopt⟩ trial hle hge
  · rintro ⟨htwo, hcalls, hs, htrials⟩
    obtain ⟨s', hs⟩ := Option.isSome_iff_exists.mp hs
    obtain ⟨report, hrun⟩ := exists_report num rng htwo hcalls hs htrials
    exact ⟨report, s', hrun⟩

theorem sampleBench_returns : ∃ report s',
    (runLiveEtwBenchmark sampleBench sampleNumerics xorshift64 sampleConfig).run
      (.faultless fun _ => "") false = .returned (.ok report) s' := by
  apply (runLive_returns_iff sampleBench sampleNumerics xorshift64 sampleConfig _ false).mpr
  refine ⟨le_refl 2, fun c _ => completes_faultless c, rfl, ?_⟩
  intro trial _ _ b
  exact sampleBench_succeeds trial b

end ValOpt
