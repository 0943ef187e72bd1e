import ValOpt.Hardware.Security
import ValOpt.Optimizations.Equiv.GameMode
import ValOpt.Safety.Equiv.VanguardCheck

/-!
# The inspection and the gate

The inspection and the gate make their own calls, and those of one may fail where those of the other
succeed.  What the inspection shows as given it has read so, with Game Mode as the exception
(`exists_detect`).  The two agree on the service and on Secure Boot unless just one of them can read
what is required, VBS that is shown as enabled is intact for the gate, and of a compliant machine
the inspection shows what its own calls let it read (`inspection_agrees`).
-/

namespace ValOpt.SecurityInfo

open Effect VanguardChecker

/-- The value is found, and it is one. -/
def FoundOne (p : RegistryProbe) (fails : VanguardCall → Bool) (s : VanguardSystem) : Prop :=
  ∃ data, p.found fails s = some data ∧ dwordOf data = 1

theorem yields_readsOne (fails : VanguardCall → Bool) (s : VanguardSystem) (p : RegistryProbe)
    (hne : p.openCall ≠ p.queryCall) :
    ∃ one t, (readsOne p).Yields (failing fails) s one t ∧
      (one = true ↔ FoundOne p fails s) := by
  obtain ⟨t, hyields, -, -⟩ := p.yields_bind fails s hne (c := readsOne p)
    (v := fun o => o.any fun data => decide (dwordOf data = 1)) rfl
    (by
      intro o
      cases o <;> rfl)
  refine ⟨_, t, hyields, ?_⟩
  unfold FoundOne
  cases p.found fails s <;> simp

/-- The calls for the state of the service succeed. -/
def AsksVgc (fails : VanguardCall → Bool) (statusCall : VanguardCall) : Prop :=
  fails .openScm = false ∧ fails .openVgc = false ∧ fails statusCall = false

/-- The calls for a value of the registry succeed. -/
def Asks (fails : VanguardCall → Bool) (p : RegistryProbe) : Prop :=
  fails p.openCall = false ∧ fails p.queryCall = false

theorem foundOne_iff {p : RegistryProbe} {fails : VanguardCall → Bool} {s : VanguardSystem} :
    FoundOne p fails s ↔ Asks fails p ∧ ∃ data, p.data s = some data ∧ dwordOf data = 1 := by
  unfold FoundOne Asks
  simp only [RegistryProbe.found_eq_some]
  constructor
  · rintro ⟨data, ⟨hopen, hquery, hdata⟩, hone⟩
    exact ⟨⟨hopen, hquery⟩, data, hdata, hone⟩
  · rintro ⟨⟨hopen, hquery⟩, data, hdata, hone⟩
    exact ⟨data, ⟨hopen, hquery, hdata⟩, hone⟩

/-- What is found to be one is found to be nothing else. -/
theorem FoundOne.dwordOf_eq {p : RegistryProbe} {fails fails' : VanguardCall → Bool}
    {s : VanguardSystem} (h : FoundOne p fails s) {data : Bytes}
    (hdata : p.found fails' s = some data) : dwordOf data = 1 := by
  obtain ⟨data', hdata', hone⟩ := h
  obtain ⟨-, -, hdata⟩ := RegistryProbe.found_eq_some.mp hdata
  obtain ⟨-, -, hdata'⟩ := RegistryProbe.found_eq_some.mp hdata'
  rw [hdata', Option.some.injEq] at hdata
  rw [← hdata, hone]

/-- The value of Game Mode that can be read. -/
def gameModeFound (fails : VanguardCall → Bool) (gameBar : Option GameBar) : Option UInt32 :=
  (answer fails .openGameBar gameBar).bind fun key =>
    answer fails .queryAllowAutoGameMode key.allowAutoGameMode

theorem yields_queryGameMode (fails : VanguardCall → Bool) (s : VanguardSystem)
    (gameBar : Option GameBar) : ∃ t, (queryGameMode gameBar).Yields (failing fails) s
      ((gameModeFound fails gameBar).elim true fun val => decide (val = 1)) t := by
  have hopen := yields_query fails s .openGameBar fun _ => gameBar
  rw [queryGameMode, gameModeFound]
  cases hkey : answer fails .openGameBar gameBar with
  | none =>
    rw [hkey] at hopen
    exact ⟨_, hopen.bind (.pure true)⟩
  | some key =>
    rw [hkey] at hopen
    have hquery := yields_query fails s .queryAllowAutoGameMode fun _ => key.allowAutoGameMode
    rw [Option.bind_some]
    cases hval : answer fails .queryAllowAutoGameMode key.allowAutoGameMode with
    | none =>
      rw [hval] at hquery
      exact ⟨_, hopen.bind (hquery.bind (.pure true))⟩
    | some val =>
      rw [hval] at hquery
      exact ⟨_, hopen.bind (hquery.bind (.pure (decide (val = 1))))⟩

/-- What the inspection shows. -/
theorem exists_detect (fails : VanguardCall → Bool) (s : VanguardSystem)
    (gameBar : Option GameBar) (vgkExists : Bool) :
    ∃ info, (detect gameBar vgkExists).run (failing fails) s = .returned info s ∧
      (info.vbsEnabled = true ↔ FoundOne vbs fails s) ∧
      (info.hvciEnabled = true ↔ FoundOne hvci fails s) ∧
      (info.secureBootEnabled = true ↔ FoundOne secureBoot fails s) ∧
      info.gameModeEnabled =
        (gameModeFound fails gameBar).elim true (fun val => decide (val = 1)) ∧
      (info.vanguardInstalled = true ↔
        vgkExists = true ∨ info.vanguardServiceRunning = true) ∧
      (info.vanguardServiceRunning = true ↔
        AsksVgc fails .queryVgcEx ∧ s.vgc = some serviceRunning) := by
  obtain ⟨vbsOne, t₁, hvbs, hvbsOne⟩ := yields_readsOne fails s vbs (by decide)
  obtain ⟨hvciOne, t₂, hhvci, hhvciOne⟩ := yields_readsOne fails s hvci (by decide)
  obtain ⟨bootOne, t₃, hboot, hbootOne⟩ := yields_readsOne fails s secureBoot (by decide)
  obtain ⟨t₄, hmode⟩ := yields_queryGameMode fails s gameBar
  obtain ⟨running, t₅, hvgc, -, hrunning, -⟩ := yields_vgcRuns fails s .queryVgcEx
  have hpair : queryVbsAndHvci.Yields (failing fails) s (vbsOne, hvciOne) _ :=
    hvbs.bind (hhvci.bind (.pure _))
  have hstatus : (queryVanguardStatus vgkExists).Yields (failing fails) s
      (vgkExists || running, running) _ := hvgc.bind (.pure _)
  have hyields : (detect gameBar vgkExists).Yields (failing fails) s
      ⟨vbsOne, hvciOne, bootOne, _, vgkExists || running, running⟩ _ :=
    hpair.bind (hboot.bind (hmode.bind (hstatus.bind (.pure _))))
  refine ⟨_, hyields.run, hvbsOne, hhvciOne, hbootOne, rfl, Bool.or_eq_true _ _ ▸ Iff.rfl, ?_⟩
  rw [hrunning, AsksVgc, and_assoc, and_assoc]

/-- What the gate reports. -/
theorem exists_report (fails : VanguardCall → Bool) (s : VanguardSystem) :
    ∃ report, Reports fails s report ∧
      (report.vgcServiceRunning = true ↔
        AsksVgc fails .queryVgc ∧ s.vgc = some serviceRunning) ∧
      (report.secureBootEnabled = true ↔ FoundOne secureBoot fails s) ∧
      (report.vbsHvciIntact = true ↔
        ∀ data, vbs.found fails s = some data → dwordOf data ≠ 0) ∧
      (report.isCompliant = true →
        report.vgcServiceRunning = true ∧ report.secureBootEnabled = true) := by
  obtain ⟨running, t₁, hvgc, -, hrunning, -⟩ := yields_isVgcRunning fails s
  obtain ⟨loaded, t₂, hvgk, -, -, -⟩ := yields_isVgkLoaded fails s
  obtain ⟨off, t₃, hoptions, -, -, -⟩ := yields_isTestSigningDisabled fails s
  obtain ⟨enabled, t₄, hboot, -, -, henabled⟩ := yields_isSecureBootEnabled fails s
  obtain ⟨intact, t₅, hvbs, -, -, hintact⟩ := yields_isVbsHvciIntact fails s
  have hcheck : check.Yields (failing fails) s _ _ :=
    hvgc.bind (hvgk.bind (hoptions.bind (hboot.bind (hvbs.bind (.pure _)))))
  refine ⟨_, hcheck.run, ?_, ?_, ?_, fun hcompliant => ?_⟩
  · rw [AsksVgc, and_assoc, and_assoc]
    exact hrunning
  · exact henabled
  · exact hintact
  obtain ⟨hrunning, -, -, henabled, -⟩ := isEmpty_violations.mp hcompliant
  exact ⟨hrunning, henabled⟩

/-- The environment in which these calls of the optimizer are denied, and no other. -/
def denying (denied : Call → Bool) (text : Call → String) : Env Call :=
  ⟨fun c => if denied c then .fail 0 else .ok, text⟩

/-- What the optimizer reads of Game Mode. -/
theorem run_getGameModeState_denying (denied : Call → Bool) (text : Call → String) (w : World) :
    getGameModeState.run (denying denied text) w = .returned (.ok <|
      if denied .openGameBar = false ∧ denied .queryAllowAutoGameMode = false then
        w.machine.gameMode else true) w := by
  have houtcome : ∀ c, (denying denied text).outcome c = if denied c then .fail 0 else .ok :=
    fun _ => rfl
  have hfails : ∀ {α : Type} {c : Call} {f : Machine → Option α}, denied c = true →
      (readMachine c f).run (denying denied text) w = .returned (.error (text c)) w := by
    intro α c f hc
    exact run_perform_fail (by rw [houtcome, hc]; rfl)
  have hok : ∀ {c : Call}, denied c = false → (denying denied text).outcome c = .ok := by
    intro c hc
    rw [houtcome, hc]
    rfl
  unfold getGameModeState Machine.gameMode
  rw [Eff.run_bind]
  cases hopen : denied .openGameBar with
  | true =>
    rw [hfails hopen]
    rfl
  | false =>
    cases hk : w.machine.gameBar with
    | none =>
      rw [run_readMachine_none (hok hopen) hk]
      split <;> rfl
    | some k =>
      rw [run_readMachine (hok hopen) hk, Run.bind_returned, Eff.run_bind]
      cases hquery : denied .queryAllowAutoGameMode with
      | true =>
        rw [hfails hquery]
        rfl
      | false =>
        unfold GameBar.reading
        cases hval : k.allowAutoGameMode with
        | none =>
          rw [run_readMachine_none (hok hquery) (by rw [hk]; exact hval), Run.bind_returned,
            if_pos ⟨rfl, rfl⟩]
          dsimp only
          rw [hval]
          rfl
        | some val =>
          rw [run_readMachine (hok hquery) (by rw [hk]; exact hval), Run.bind_returned,
            if_pos ⟨rfl, rfl⟩]
          dsimp only
          rw [hval]
          rfl

/-- The inspection and the optimizer read Game Mode alike just if its value, if there is one, tells
no difference between what each of them makes of it, or of a value that it cannot read. -/
theorem gameMode_eq_iff (m : Machine) {sees optimizerSees : Prop} [Decidable sees]
    [Decidable optimizerSees] :
    (if sees then m.allowAutoGameMode.elim true (fun val => decide (val = 1)) else true) =
        (if optimizerSees then m.gameMode else true) ↔
      ∀ val, m.allowAutoGameMode = some val →
        (sees → val = 1 ∨ val = 0 ∧ optimizerSees) ∧ (¬sees → optimizerSees → val ≠ 0) := by
  rw [m.gameMode_eq]
  cases m.allowAutoGameMode with
  | none => simp
  | some val =>
    by_cases hsees : sees <;> by_cases hoptimizer : optimizerSees
    all_goals
      by_cases hzero : val = 0
      · simp [hsees, hoptimizer, hzero]
      · by_cases hone : val = 1 <;> simp [hsees, hoptimizer, hzero, hone]

theorem gameModeFound_elim (fails : VanguardCall → Bool) (m : Machine) :
    (gameModeFound fails m.gameBar).elim true (fun val => decide (val = 1)) =
      if fails .openGameBar = false ∧ fails .queryAllowAutoGameMode = false then
        m.allowAutoGameMode.elim true fun val => decide (val = 1) else true := by
  unfold gameModeFound answer Machine.allowAutoGameMode
  cases hopen : fails .openGameBar <;> cases hquery : fails .queryAllowAutoGameMode <;>
    cases m.gameBar <;> rfl

/-- Two that read the same value, each if its own calls succeed, differ just where it is as required
and one of them cannot read it. -/
theorem reads_eq_iff {asks asks' required : Prop} {b b' : Bool}
    (hb : b = true ↔ asks ∧ required) (hb' : b' = true ↔ asks' ∧ required) :
    b = b' ↔ (required → (asks ↔ asks')) := by
  rw [Bool.eq_iff_iff, hb, hb']
  by_cases hrequired : required <;> simp [hrequired]

/-- **The inspection, the gate and the optimizer.**  The calls of each may fail on their own.  The
inspection and the gate show the same of the service, unless it is running and just one of them can
ask for it, and of Secure Boot, unless it is on and just one of them can read it.  VBS shown as
enabled is intact for the gate; they agree on it just if the inspection reads one or the gate reads
zero.  Of a compliant machine the inspection shows what its own calls let it read.  Game Mode is
shown as the optimizer reads it just if its value makes no difference between them. -/
theorem inspection_agrees (fails gateFails : VanguardCall → Bool) (denied : Call → Bool)
    (text : Call → String) (s : VanguardSystem) (w : World) (vgkExists : Bool) :
    ∃ info report gameMode,
      (detect w.machine.gameBar vgkExists).run (failing fails) s = .returned info s ∧
      Reports gateFails s report ∧
      getGameModeState.run (denying denied text) w = .returned (.ok gameMode) w ∧
      (info.vanguardServiceRunning = report.vgcServiceRunning ↔
        (s.vgc = some serviceRunning →
          (AsksVgc fails .queryVgcEx ↔ AsksVgc gateFails .queryVgc))) ∧
      (info.secureBootEnabled = report.secureBootEnabled ↔
        ((∃ data, secureBoot.data s = some data ∧ dwordOf data = 1) →
          (Asks fails secureBoot ↔ Asks gateFails secureBoot))) ∧
      (info.vbsEnabled = true → report.vbsHvciIntact = true) ∧
      (info.vbsEnabled = report.vbsHvciIntact ↔ FoundOne vbs fails s ∨
        ∃ data, vbs.found gateFails s = some data ∧ dwordOf data = 0) ∧
      (report.isCompliant = true →
        (info.secureBootEnabled = true ↔ Asks fails secureBoot) ∧
        (info.vanguardServiceRunning = true ↔ AsksVgc fails .queryVgcEx) ∧
        (info.vanguardInstalled = true ↔ vgkExists = true ∨ AsksVgc fails .queryVgcEx)) ∧
      (info.gameModeEnabled = gameMode ↔ ∀ val, w.machine.allowAutoGameMode = some val →
        (fails .openGameBar = false ∧ fails .queryAllowAutoGameMode = false →
          val = 1 ∨ val = 0 ∧ denied .openGameBar = false ∧
            denied .queryAllowAutoGameMode = false) ∧
        (¬(fails .openGameBar = false ∧ fails .queryAllowAutoGameMode = false) →
          denied .openGameBar = false ∧ denied .queryAllowAutoGameMode = false → val ≠ 0)) := by
  obtain ⟨info, hinfo, hvbs, -, hboot, hgameMode, hinstalled, hrunning⟩ :=
    exists_detect fails s w.machine.gameBar vgkExists
  obtain ⟨report, hreport, hvgc, hsecure, hintact, hcompliant⟩ := exists_report gateFails s
  rw [foundOne_iff] at hboot hsecure
  refine ⟨info, report, _, hinfo, hreport, run_getGameModeState_denying denied text w,
    reads_eq_iff hrunning hvgc, reads_eq_iff hboot hsecure, ?_, ?_, ?_, ?_⟩
  · rw [hvbs, hintact]
    intro hone data hdata
    rw [hone.dwordOf_eq hdata]
    decide
  · constructor
    · intro hsame
      cases henabled : info.vbsEnabled with
      | true => exact Or.inl (hvbs.mp henabled)
      | false =>
        right
        by_contra hnone
        rw [henabled, eq_comm, Bool.eq_false_iff, ne_eq, hintact] at hsame
        exact hsame fun data hdata hzero => hnone ⟨data, hdata, hzero⟩
    · rintro (hone | ⟨data, hdata, hzero⟩)
      · rw [hvbs.mpr hone, eq_comm, hintact]
        intro data hdata
        rw [hone.dwordOf_eq hdata]
        decide
      · have hviolated : report.vbsHvciIntact = false :=
          Bool.eq_false_iff.mpr fun hreported => hintact.mp hreported data hdata hzero
        rw [hviolated, Bool.eq_false_iff, ne_eq, hvbs]
        intro hone
        rw [hone.dwordOf_eq hdata] at hzero
        exact absurd hzero (by decide)
  · intro h
    obtain ⟨hvgcRunning, hsecureEnabled⟩ := hcompliant h
    have hvgcState := (hvgc.mp hvgcRunning).2
    have hservice : info.vanguardServiceRunning = true ↔ AsksVgc fails .queryVgcEx :=
      hrunning.trans (and_iff_left hvgcState)
    exact ⟨hboot.trans (and_iff_left (hsecure.mp hsecureEnabled).2), hservice,
      hinstalled.trans (or_congr_right hservice)⟩
  · rw [hgameMode, gameModeFound_elim]
    exact gameMode_eq_iff w.machine

end ValOpt.SecurityInfo
