import ValOpt.Safety.VanguardCheck

/-!
# What a compliant report rests on

`answer` is what a call is answered when the calls in `fails` do not succeed, and each probe comes
with the value that it gets from these answers and the calls that it issues
(`yields_isVgcRunning` and so on).  A prerequisite counts as read if a call that succeeded returned
a value that satisfies it (`ReadAsSatisfied`).

The probes of test signing and of VBS report what they could not read as satisfied, and HVCI is not
read at all.  So the gate fails closed just where a probe finds a violation
(`failsClosed_iff_not_passes`).
-/

namespace ValOpt.VanguardChecker

open Effect Text

variable {fails : VanguardCall → Bool} {s : VanguardSystem}

/-! ### The statement -/

/-- The environment in which these calls fail, and no other. -/
def failing (fails : VanguardCall → Bool) : Env VanguardCall :=
  ⟨fun c => if fails c then .fail 0 else .ok, fun _ => ""⟩

/-- What Vanguard requires. -/
inductive Prerequisite where
  | vgcRunning
  | vgkLoaded
  | testSigningOff
  | secureBootOn
  | vbsEnabled
  | hvciEnabled
  deriving DecidableEq, Repr

/-- Among these calls, one read the value and found it as required. -/
def RegistryProbe.ReadAs (p : RegistryProbe) (required : Bytes → Prop) (s : VanguardSystem)
    (calls : List (VanguardCall × Bool)) : Prop :=
  (p.queryCall, true) ∈ calls ∧ ∃ data, p.data s = some data ∧ required data

/-- Among these calls, one read from the system that it meets the prerequisite. -/
def ReadAsSatisfied (s : VanguardSystem) (calls : List (VanguardCall × Bool)) :
    Prerequisite → Prop
  | .vgcRunning => (.queryVgc, true) ∈ calls ∧ s.vgc = some serviceRunning
  | .vgkLoaded => ∃ i driver, (.driverName i, true) ∈ calls ∧ s.drivers[i]? = some driver ∧
      isVgkName driver.name = true
  | .testSigningOff => startOptions.ReadAs (fun data => hasTestSigning data = false) s calls
  | .secureBootOn => secureBoot.ReadAs (fun data => dwordOf data = 1) s calls
  | .vbsEnabled => vbs.ReadAs (fun data => dwordOf data ≠ 0) s calls
  | .hvciEnabled => hvci.ReadAs (fun data => dwordOf data ≠ 0) s calls

/-- The check returns a report. -/
def Reports (fails : VanguardCall → Bool) (s : VanguardSystem) (report : VanguardComplianceReport) :
    Prop := check.run (failing fails) s = .returned report s

/-- `ensure_compliant(false)` lets the launch pass, with no bypass variable set. -/
def Admits (fails : VanguardCall → Bool) (s : VanguardSystem) : Prop :=
  ∃ report, (ensureCompliant none false).run (failing fails) s = .returned (.ok report) s

/-- A compliant report rests on each of these prerequisites having been read as satisfied. -/
def FailsClosed (prerequisites : Prerequisite → Prop) (fails : VanguardCall → Bool)
    (s : VanguardSystem) : Prop :=
  ∀ report, Reports fails s report → report.isCompliant = true → ∀ p, prerequisites p →
    ReadAsSatisfied s (check.trace (failing fails) s) p

/-! ### What the calls answer -/

/-- The answer to a call. -/
def answer {α : Type} (fails : VanguardCall → Bool) (c : VanguardCall) (a : Option α) : Option α :=
  if fails c then none else a

theorem answer_eq_some {α : Type} {c : VanguardCall} {a : Option α} {x : α} :
    answer fails c a = some x ↔ fails c = false ∧ a = some x := by
  rw [answer, Option.ite_none_left_eq_some, Bool.not_eq_true]

/-- The answer to the two calls of a registry probe. -/
def RegistryProbe.found (p : RegistryProbe) (fails : VanguardCall → Bool) (s : VanguardSystem) :
    Option Bytes :=
  (answer fails p.openCall (s.registry p.key)).bind fun _ => answer fails p.queryCall (p.data s)

/-- The service manager answers that `vgc` is running. -/
def VgcFound (fails : VanguardCall → Bool) (s : VanguardSystem) : Prop :=
  fails .openScm = false ∧ fails .openVgc = false ∧ fails .queryVgc = false ∧
    s.vgc = some serviceRunning

/-- One of the first drivers has the name of the Vanguard driver, and its name can be read. -/
def VgkFound (fails : VanguardCall → Bool) (s : VanguardSystem) : Prop :=
  fails .enumDrivers = false ∧ ∃ i driver, i < 1024 ∧ s.drivers[i]? = some driver ∧
    driver.base ≠ 0 ∧ fails (.driverName i) = false ∧ isVgkName driver.name = true

/-- No probe finds a violation: `vgc`, the driver and Secure Boot are found as required, and neither
test signing nor VBS is found to be set otherwise. -/
structure Passes (fails : VanguardCall → Bool) (s : VanguardSystem) : Prop where
  vgc : VgcFound fails s
  vgk : VgkFound fails s
  testSigning : ∀ data, startOptions.found fails s = some data → hasTestSigning data = false
  secureBoot : ∃ data, secureBoot.found fails s = some data ∧ dwordOf data = 1
  vbs : ∀ data, vbs.found fails s = some data → dwordOf data ≠ 0

@[simp] theorem outcome_failing (c : VanguardCall) :
    (failing fails).outcome c = if fails c then .fail 0 else .ok := rfl

/-- What a registry probe finds: the data of the value, if both calls succeed. -/
theorem RegistryProbe.found_eq_some {p : RegistryProbe} {data : Bytes} :
    p.found fails s = some data ↔
      fails p.openCall = false ∧ fails p.queryCall = false ∧ p.data s = some data := by
  rw [found, Option.bind_eq_some_iff]
  simp only [answer_eq_some]
  constructor
  · rintro ⟨_, ⟨hopen, -⟩, hquery, hdata⟩
    exact ⟨hopen, hquery, hdata⟩
  · rintro ⟨hopen, hquery, hdata⟩
    -- Data is there only if the key is.
    obtain ⟨hvalue, -⟩ := Option.filter_eq_some_iff.mp hdata
    obtain ⟨values, hkey, -⟩ := Option.bind_eq_some_iff.mp hvalue
    exact ⟨values, ⟨hopen, hkey⟩, hquery, hdata⟩

/-! ### The probes -/

section Probes

variable (fails s)

/-- One call. -/
theorem yields_query {α : Type} (c : VanguardCall) (f : VanguardSystem → Option α) :
    (query c f).Yields (failing fails) s (answer fails c (f s))
      [(c, (answer fails c (f s)).isSome)] := by
  rw [query]
  cases h : answer fails c (f s) with
  | some a =>
    obtain ⟨hc, hf⟩ := answer_eq_some.mp h
    have hread : (perform c (.read f)).Yields (failing fails) s (.ok a) [(c, true)] := by
      apply Eff.Yields.read_some _ hf
      rw [outcome_failing, hc]
      rfl
    exact hread.bind (.pure _)
  | none =>
    have hread : (perform c (.read f)).Yields (failing fails) s (.error "") [(c, false)] := by
      apply Eff.Yields.read_none
      · intro k
        rw [outcome_failing]
        split <;> exact fun h => nomatch h
      · intro hok
        have hc : fails c = false := by
          cases hc : fails c with
          | false => rfl
          | true =>
            rw [outcome_failing, hc] at hok
            exact nomatch hok
        rw [answer, hc] at h
        exact h
    exact hread.bind (.pure _)

/-- A registry probe. -/
theorem RegistryProbe.yields_read (p : RegistryProbe) (hne : p.openCall ≠ p.queryCall) :
    ∃ t, p.read.Yields (failing fails) s (p.found fails s) t ∧
      (∀ r ∈ t, r.1 = p.openCall ∨ r.1 = p.queryCall) ∧
      ((p.queryCall, true) ∈ t ↔ (p.found fails s).isSome = true) := by
  have hopen := yields_query fails s p.openCall fun s =>
    (s.registry p.key).map fun _ => ()
  have hanswer : answer fails p.openCall ((s.registry p.key).map fun _ => ()) =
      (answer fails p.openCall (s.registry p.key)).map fun _ => () := by
    rw [answer, answer]
    split <;> rfl
  rw [hanswer] at hopen
  rw [read, found]
  cases hkey : answer fails p.openCall (s.registry p.key) with
  | none =>
    rw [hkey] at hopen
    refine ⟨_, hopen.bind (.pure _), ?_, ?_⟩
    · simp
    · simp [hne.symm]
  | some values =>
    rw [hkey] at hopen
    refine ⟨_, hopen.bind (yields_query fails s p.queryCall p.data), ?_, ?_⟩
    · simp
    · rw [Option.bind_some, List.mem_append, List.mem_singleton, List.mem_singleton,
        Prod.mk.injEq, Prod.mk.injEq]
      simp only [hne.symm, false_and, false_or, true_and]
      exact eq_comm

/-- What the service manager says of the service. -/
theorem yields_vgcRuns (statusCall : VanguardCall) : ∃ running t,
    (vgcRuns statusCall).Yields (failing fails) s running t ∧
    (∀ r ∈ t, r.1 ∈ [VanguardCall.openScm, .openVgc, statusCall]) ∧
    (running = true ↔ fails .openScm = false ∧ fails .openVgc = false ∧
      fails statusCall = false ∧ s.vgc = some serviceRunning) ∧
    (running = true → (statusCall, true) ∈ t) := by
  have hscm := yields_query fails s .openScm fun _ => some ()
  have hopen := yields_query fails s .openVgc fun s => s.vgc.map fun _ => ()
  have hquery := yields_query fails s statusCall fun s => s.vgc
  rw [vgcRuns]
  -- Each of the three calls in turn ends the check with `false` if it fails.
  cases h₁ : answer fails .openScm (some ()) with
  | none =>
    rw [h₁] at hscm
    refine ⟨_, _, hscm.bind (.pure false), by simp, ?_, by simp⟩
    simp only [Bool.false_eq_true, false_iff]
    rintro ⟨hfails, -⟩
    rw [answer, hfails] at h₁
    exact nomatch h₁
  | some u =>
    rw [h₁] at hscm
    cases h₂ : answer fails .openVgc (s.vgc.map fun _ => ()) with
    | none =>
      rw [h₂] at hopen
      refine ⟨_, _, hscm.bind (hopen.bind (.pure false)), by simp, ?_, by simp⟩
      simp only [Bool.false_eq_true, false_iff]
      rintro ⟨-, hfails, -, hvgc⟩
      rw [answer, hfails, hvgc] at h₂
      exact nomatch h₂
    | some v =>
      rw [h₂] at hopen
      cases h₃ : answer fails statusCall s.vgc with
      | none =>
        rw [h₃] at hquery
        refine ⟨_, _, hscm.bind (hopen.bind (hquery.bind (.pure false))), by simp, ?_, by simp⟩
        simp only [Bool.false_eq_true, false_iff]
        rintro ⟨-, -, hfails, hvgc⟩
        rw [answer, hfails, hvgc] at h₃
        exact nomatch h₃
      | some state =>
        rw [h₃] at hquery
        refine ⟨_, _, hscm.bind (hopen.bind (hquery.bind (.pure (state = serviceRunning : Bool)))),
          by simp, ?_, by simp⟩
        have hscm' : fails .openScm = false := (answer_eq_some.mp h₁).1
        have hopen' : fails .openVgc = false := (answer_eq_some.mp h₂).1
        obtain ⟨hquery', hvgc⟩ := answer_eq_some.mp h₃
        simp [hscm', hopen', hquery', hvgc]

/-- The probe of the service. -/
theorem yields_isVgcRunning : ∃ running t, isVgcRunning.Yields (failing fails) s running t ∧
    (∀ r ∈ t, r.1 ∈ [VanguardCall.openScm, .openVgc, .queryVgc]) ∧
    (running = true ↔ VgcFound fails s) ∧ (running = true → (.queryVgc, true) ∈ t) :=
  yields_vgcRuns fails s .queryVgc

/-- The loop over the drivers. -/
theorem yields_findVgk (index : ℕ) (drivers : List Driver) :
    ∃ loaded t, (findVgk index drivers).Yields (failing fails) s loaded t ∧
      (∀ r ∈ t, ∃ i, r.1 = .driverName i) ∧
      (loaded = true → ∃ i driver, drivers[i]? = some driver ∧ driver.base ≠ 0 ∧
        fails (.driverName (index + i)) = false ∧ isVgkName driver.name = true ∧
        (.driverName (index + i), true) ∈ t) ∧
      (loaded = false → ∀ i driver, drivers[i]? = some driver → driver.base ≠ 0 →
        fails (.driverName (index + i)) = false → isVgkName driver.name = false) := by
  induction drivers generalizing index with
  | nil => exact ⟨false, [], .pure false, by simp, by simp, by simp⟩
  | cons driver drivers ih =>
    obtain ⟨loaded, t, hrest, hcalls, hfound, hnone⟩ := ih (index + 1)
    have hindex : ∀ i, index + 1 + i = index + (i + 1) := by omega
    -- What is found among the other drivers, and what is not.
    have hfound' : loaded = true → ∃ i d, (driver :: drivers)[i]? = some d ∧ d.base ≠ 0 ∧
        fails (.driverName (index + i)) = false ∧ isVgkName d.name = true ∧
        (.driverName (index + i), true) ∈ t := by
      intro hloaded
      obtain ⟨i, d, hd, hrest⟩ := hfound hloaded
      rw [hindex] at hrest
      exact ⟨i + 1, d, hd, hrest⟩
    have hnone' : (driver.base ≠ 0 → fails (.driverName index) = false →
        isVgkName driver.name = false) → loaded = false → ∀ i d, (driver :: drivers)[i]? = some d →
        d.base ≠ 0 → fails (.driverName (index + i)) = false → isVgkName d.name = false := by
      intro hfirst hloaded i d hd hbase hname
      cases i with
      | zero =>
        rw [List.getElem?_cons_zero, Option.some.injEq] at hd
        rw [← hd] at hbase ⊢
        exact hfirst hbase hname
      | succ i =>
        rw [← hindex] at hname
        exact hnone hloaded i d hd hbase hname
    rw [findVgk]
    by_cases hbase : driver.base = 0
    · rw [if_pos hbase]
      exact ⟨loaded, t, hrest, hcalls, hfound', hnone' fun h => absurd hbase h⟩
    · rw [if_neg hbase]
      have hquery := yields_query fails s (.driverName index)
        fun _ => some driver.name
      cases hname : answer fails (.driverName index) (some driver.name) with
      | none =>
        rw [hname] at hquery
        refine ⟨loaded, _, hquery.bind hrest, ?_, ?_, hnone' ?_⟩
        · simpa using hcalls
        · intro hloaded
          obtain ⟨i, d, hd, hbase, hfails, hvgk, hmem⟩ := hfound' hloaded
          exact ⟨i, d, hd, hbase, hfails, hvgk, List.mem_append_right _ hmem⟩
        · intro _ hfails
          rw [answer, hfails] at hname
          exact nomatch hname
      | some name =>
        rw [hname] at hquery
        obtain ⟨hfails, hsome⟩ := answer_eq_some.mp hname
        rw [← Option.some.inj hsome] at hquery
        by_cases hvgk : isVgkName driver.name = true
        · refine ⟨true, _, hquery.bind (b := true) (u := []) ?_, ?_, ?_, by simp⟩
          · dsimp only
            rw [if_pos hvgk]
            exact .pure true
          · simp
          · exact fun _ => ⟨0, driver, rfl, hbase, hfails, hvgk, by simp⟩
        · refine ⟨loaded, _, hquery.bind (b := loaded) (u := t) ?_, ?_, ?_, hnone' ?_⟩
          · dsimp only
            rw [if_neg hvgk]
            exact hrest
          · simpa using hcalls
          · intro hloaded
            obtain ⟨i, d, hd, hbase, hfails, hvgk, hmem⟩ := hfound' hloaded
            exact ⟨i, d, hd, hbase, hfails, hvgk, List.mem_append_right _ hmem⟩
          · exact fun _ _ => Bool.eq_false_iff.mpr hvgk

/-- The probe of the driver. -/
theorem yields_isVgkLoaded : ∃ loaded t, isVgkLoaded.Yields (failing fails) s loaded t ∧
    (∀ r ∈ t, r.1 = .enumDrivers ∨ ∃ i, r.1 = .driverName i) ∧
    (loaded = true ↔ VgkFound fails s) ∧
    (loaded = true → ReadAsSatisfied s t .vgkLoaded) := by
  have henum := yields_query fails s .enumDrivers
    fun s => some (s.drivers.take 1024)
  -- The buffer holds 1024 drivers; what is listed after them is never seen.
  have htake : ∀ i driver, (s.drivers.take 1024)[i]? = some driver ↔
      i < 1024 ∧ s.drivers[i]? = some driver := by
    intro i driver
    rw [List.getElem?_take, Option.ite_none_right_eq_some]
  rw [isVgkLoaded]
  cases h : answer fails .enumDrivers (some (s.drivers.take 1024)) with
  | none =>
    rw [h] at henum
    refine ⟨false, _, henum.bind (.pure false), by simp, ?_, by simp⟩
    simp only [Bool.false_eq_true, false_iff]
    rintro ⟨hfails, -⟩
    rw [answer, hfails] at h
    exact nomatch h
  | some drivers =>
    rw [h] at henum
    obtain ⟨hfails, hsome⟩ := answer_eq_some.mp h
    rw [← Option.some.inj hsome] at henum
    obtain ⟨loaded, t, hloop, hcalls, hfound, hnone⟩ :=
      yields_findVgk fails s 0 (s.drivers.take 1024)
    simp only [Nat.zero_add, htake] at hfound hnone
    refine ⟨loaded, _, henum.bind hloop, ?_, ⟨?_, ?_⟩, ?_⟩
    · intro r hr
      rcases List.mem_append.mp hr with hr | hr
      · rw [List.mem_singleton.mp hr]
        exact Or.inl rfl
      · exact Or.inr (hcalls r hr)
    · intro hloaded
      obtain ⟨i, d, ⟨hi, hd⟩, hbase, hname, hvgk, -⟩ := hfound hloaded
      exact ⟨hfails, i, d, hi, hd, hbase, hname, hvgk⟩
    · rintro ⟨-, i, d, hi, hd, hbase, hname, hvgk⟩
      by_contra hloaded
      rw [hnone (Bool.eq_false_iff.mpr hloaded) i d ⟨hi, hd⟩ hbase hname] at hvgk
      exact Bool.noConfusion hvgk
    · intro hloaded
      obtain ⟨i, d, ⟨-, hd⟩, -, -, hvgk, hmem⟩ := hfound hloaded
      exact ⟨i, d, List.mem_append_right _ hmem, hd, hvgk⟩

/-- A probe that decides by the data of a registry value. -/
theorem RegistryProbe.yields_bind {α : Type} (p : RegistryProbe) (hne : p.openCall ≠ p.queryCall)
    {c : VanguardProg α} {m : Option Bytes → VanguardProg α} {v : Option Bytes → α}
    (hc : c = p.read >>= m) (hm : ∀ o, m o = pure (v o)) :
    ∃ t, c.Yields (failing fails) s (v (p.found fails s)) t ∧
      (∀ r ∈ t, r.1 = p.openCall ∨ r.1 = p.queryCall) ∧
      ((p.queryCall, true) ∈ t ↔ (p.found fails s).isSome = true) := by
  obtain ⟨t, hread, hcalls, hmem⟩ := p.yields_read fails s hne
  have hrest : (m (p.found fails s)).Yields (failing fails) s (v (p.found fails s)) [] := by
    rw [hm]
    exact .pure _
  rw [hc]
  refine ⟨t ++ [], hread.bind hrest, ?_, ?_⟩
  · rwa [List.append_nil]
  · rwa [List.append_nil]

/-- The probe of test signing.  What cannot be read does not count as test signing. -/
theorem yields_isTestSigningDisabled : ∃ off t,
    isTestSigningDisabled.Yields (failing fails) s off t ∧
    (∀ r ∈ t, r.1 = .openControl ∨ r.1 = .queryStartOptions) ∧
    ((.queryStartOptions, true) ∈ t ↔ (startOptions.found fails s).isSome = true) ∧
    (off.1 = true ↔ ∀ data, startOptions.found fails s = some data →
      hasTestSigning data = false) := by
  obtain ⟨t, hyields, hcalls, hmem⟩ := startOptions.yields_bind fails s
    (by decide) (c := isTestSigningDisabled)
    (v := fun o => o.elim (true, none) fun data => if hasTestSigning data then
      (false, some "Windows Test Signing (TESTSIGNING) is enabled in BCD") else (true, none)) rfl
    (by
      intro o
      cases o with
      | none => rfl
      | some data => exact (apply_ite pure _ _ _).symm)
  refine ⟨_, t, hyields, hcalls, hmem, ?_⟩
  cases startOptions.found fails s with
  | none => simp
  | some data => cases h : hasTestSigning data <;> simp [h]

/-- The probe of Secure Boot. -/
theorem yields_isSecureBootEnabled : ∃ enabled t,
    isSecureBootEnabled.Yields (failing fails) s enabled t ∧
    (∀ r ∈ t, r.1 = .openSecureBoot ∨ r.1 = .querySecureBoot) ∧
    ((.querySecureBoot, true) ∈ t ↔ (secureBoot.found fails s).isSome = true) ∧
    (enabled = true ↔ ∃ data, secureBoot.found fails s = some data ∧ dwordOf data = 1) := by
  obtain ⟨t, hyields, hcalls, hmem⟩ := secureBoot.yields_bind fails s
    (by decide) (c := isSecureBootEnabled)
    (v := fun o => o.any fun data => decide (dwordOf data = 1)) rfl
    (by
      intro o
      cases o <;> rfl)
  refine ⟨_, t, hyields, hcalls, hmem, ?_⟩
  cases secureBoot.found fails s <;> simp

/-- The probe of VBS.  What cannot be read does not count as disabled. -/
theorem yields_isVbsHvciIntact : ∃ intact t,
    isVbsHvciIntact.Yields (failing fails) s intact t ∧
    (∀ r ∈ t, r.1 = .openDeviceGuard ∨ r.1 = .queryVbs) ∧
    ((.queryVbs, true) ∈ t ↔ (vbs.found fails s).isSome = true) ∧
    (intact.1 = true ↔ ∀ data, vbs.found fails s = some data → dwordOf data ≠ 0) := by
  obtain ⟨t, hyields, hcalls, hmem⟩ := vbs.yields_bind fails s
    (by decide) (c := isVbsHvciIntact)
    (v := fun o => o.elim (true, none) fun data => if dwordOf data = 0 then
      (false, some "Virtualization-Based Security (VBS) is explicitly disabled in registry")
      else (true, none)) rfl
    (by
      intro o
      cases o with
      | none => rfl
      | some data => exact (apply_ite pure _ _ _).symm)
  refine ⟨_, t, hyields, hcalls, hmem, ?_⟩
  cases vbs.found fails s with
  | none => simp
  | some data => by_cases h : dwordOf data = 0 <;> simp [h]

/-! ### The check -/

theorem isEmpty_violations {vgcRunning vgkLoaded secureBoot : Bool}
    {testSigning vbs : Bool × Option String} :
    (violations vgcRunning vgkLoaded testSigning secureBoot vbs).isEmpty = true ↔
      vgcRunning = true ∧ vgkLoaded = true ∧ testSigning.1 = true ∧ secureBoot = true ∧
        vbs.1 = true := by
  rw [violations, List.isEmpty_iff]
  simp only [List.append_eq_nil_iff, ite_eq_left_iff, List.cons_ne_nil, imp_false, not_not,
    and_assoc]

/-- The check returns a report, compliant just if no probe finds a violation.  What it read it read
by the calls of the probes. -/
theorem yields_check : ∃ report t, check.Yields (failing fails) s report t ∧
    (report.isCompliant = true ↔ Passes fails s) ∧
    (Passes fails s → ReadAsSatisfied s t .vgcRunning ∧ ReadAsSatisfied s t .vgkLoaded ∧
      ReadAsSatisfied s t .secureBootOn) ∧
    ((VanguardCall.queryStartOptions, true) ∈ t ↔ (startOptions.found fails s).isSome = true) ∧
    ((VanguardCall.queryVbs, true) ∈ t ↔ (vbs.found fails s).isSome = true) ∧
    (VanguardCall.queryHvci, true) ∉ t := by
  obtain ⟨running, t₁, hvgc, hcalls₁, hrunning, hread₁⟩ :=
    yields_isVgcRunning fails s
  obtain ⟨loaded, t₂, hvgk, hcalls₂, hloaded, hread₂⟩ :=
    yields_isVgkLoaded fails s
  obtain ⟨off, t₃, hoptions, hcalls₃, hmem₃, hoff⟩ :=
    yields_isTestSigningDisabled fails s
  obtain ⟨enabled, t₄, hboot, hcalls₄, hmem₄, henabled⟩ :=
    yields_isSecureBootEnabled fails s
  obtain ⟨intact, t₅, hvbs, hcalls₅, hmem₅, hintact⟩ :=
    yields_isVbsHvciIntact fails s
  -- Each probe has calls of its own.
  have hnot₁ : ∀ c, c ∉ [VanguardCall.openScm, .openVgc, .queryVgc] → (c, true) ∉ t₁ :=
    fun c hc hmem => hc (hcalls₁ _ hmem)
  have hnot₂ : ∀ c, ¬ (c = .enumDrivers ∨ ∃ i, c = .driverName i) → (c, true) ∉ t₂ :=
    fun c hc hmem => hc (hcalls₂ _ hmem)
  have hnot₃ : ∀ c, ¬ (c = .openControl ∨ c = .queryStartOptions) → (c, true) ∉ t₃ :=
    fun c hc hmem => hc (hcalls₃ _ hmem)
  have hnot₄ : ∀ c, ¬ (c = .openSecureBoot ∨ c = .querySecureBoot) → (c, true) ∉ t₄ :=
    fun c hc hmem => hc (hcalls₄ _ hmem)
  have hnot₅ : ∀ c, ¬ (c = .openDeviceGuard ∨ c = .queryVbs) → (c, true) ∉ t₅ :=
    fun c hc hmem => hc (hcalls₅ _ hmem)
  refine ⟨_, _, hvgc.bind (hvgk.bind (hoptions.bind (hboot.bind (hvbs.bind (.pure _))))), ?_, ?_,
    ?_, ?_, ?_⟩
  · dsimp only
    rw [isEmpty_violations, hrunning, hloaded, hoff, henabled, hintact]
    exact ⟨fun ⟨h₁, h₂, h₃, h₄, h₅⟩ => ⟨h₁, h₂, h₃, h₄, h₅⟩,
      fun h => ⟨h.vgc, h.vgk, h.testSigning, h.secureBoot, h.vbs⟩⟩
  · intro h
    have hvgc' := hread₁ (hrunning.mpr h.vgc)
    obtain ⟨i, driver, hmem, hdriver, hname⟩ := hread₂ (hloaded.mpr h.vgk)
    obtain ⟨data, hdata, hone⟩ := h.secureBoot
    refine ⟨⟨List.mem_append_left _ hvgc', h.vgc.2.2.2⟩, ⟨i, driver, ?_, hdriver, hname⟩, ?_, data,
      (RegistryProbe.found_eq_some.mp hdata).2.2, hone⟩
    · exact List.mem_append_right _ (List.mem_append_left _ hmem)
    · have hmem : (VanguardCall.querySecureBoot, true) ∈ t₄ := hmem₄.mpr (by rw [hdata]; rfl)
      simp only [List.mem_append]
      exact Or.inr (Or.inr (Or.inr (Or.inl hmem)))
  · rw [← hmem₃]
    simp [hnot₁ .queryStartOptions (by decide), hnot₂ .queryStartOptions (by simp),
      hnot₄ .queryStartOptions (by decide), hnot₅ .queryStartOptions (by decide)]
  · rw [← hmem₅]
    simp [hnot₁ .queryVbs (by decide), hnot₂ .queryVbs (by simp), hnot₃ .queryVbs (by decide),
      hnot₄ .queryVbs (by decide)]
  · simp [hnot₁ .queryHvci (by decide), hnot₂ .queryHvci (by simp), hnot₃ .queryHvci (by decide),
      hnot₄ .queryHvci (by decide), hnot₅ .queryHvci (by decide)]

end Probes

/-- `ensure_compliant` lets the launch pass just if the report is compliant. -/
theorem admits_iff {report : VanguardComplianceReport} (h : Reports fails s report) :
    Admits fails s ↔ report.isCompliant = true := by
  rw [Admits, ensureCompliant, Eff.run_bind, h, Run.bind_returned]
  cases hcompliant : report.isCompliant <;> simp

/-- The gate fails closed just where it does not pass; for HVCI is not read.  As to the other
prerequisites, it does so too where the start options and the setting of VBS are read. -/
theorem failsClosed_iff_not_passes (fails : VanguardCall → Bool) (s : VanguardSystem) :
    (FailsClosed (fun _ => True) fails s ↔ ¬ Passes fails s) ∧
    (FailsClosed (· ≠ .hvciEnabled) fails s ↔ ¬ Passes fails s ∨
      ((startOptions.found fails s).isSome = true ∧ (vbs.found fails s).isSome = true)) ∧
    (Admits fails s ↔ ∃ report, Reports fails s report ∧ report.isCompliant = true) := by
  obtain ⟨report, t, hcheck, hcompliant, hread, hoptions, hvbs, hhvci⟩ :=
    yields_check fails s
  have hunique : ∀ report', Reports fails s report' → report' = report := by
    intro report' h
    rw [Reports, hcheck.run] at h
    exact (Run.returned.inj h).1.symm
  -- The reports are this one.
  have hclosed : ∀ q, FailsClosed q fails s ↔
      (Passes fails s → ∀ p, q p → ReadAsSatisfied s t p) := by
    intro q
    rw [← hcompliant, ← hcheck.trace]
    constructor
    · exact fun h => h report hcheck.run
    · intro h report' hreport
      rw [hunique report' hreport]
      exact h
  refine ⟨?_, ?_, ?_⟩
  · rw [hclosed]
    constructor
    · exact fun h hpass => hhvci (h hpass .hvciEnabled trivial).1
    · exact fun h hpass => absurd hpass h
  · rw [hclosed]
    constructor
    · intro h
      by_cases hpass : Passes fails s
      · exact Or.inr ⟨hoptions.mp (h hpass .testSigningOff (by decide)).1,
          hvbs.mp (h hpass .vbsEnabled (by decide)).1⟩
      · exact Or.inl hpass
    · intro h hpass p hp
      obtain ⟨hoptions', hvbs'⟩ := h.resolve_left fun hnot => hnot hpass
      obtain ⟨hvgc, hvgk, hboot⟩ := hread hpass
      obtain ⟨options, hfound⟩ := Option.isSome_iff_exists.mp hoptions'
      obtain ⟨setting, hset⟩ := Option.isSome_iff_exists.mp hvbs'
      cases p with
      | vgcRunning => exact hvgc
      | vgkLoaded => exact hvgk
      | testSigningOff =>
        exact ⟨hoptions.mpr hoptions', options, (RegistryProbe.found_eq_some.mp hfound).2.2,
          hpass.testSigning options hfound⟩
      | secureBootOn => exact hboot
      | vbsEnabled =>
        exact ⟨hvbs.mpr hvbs', setting, (RegistryProbe.found_eq_some.mp hset).2.2,
          hpass.vbs setting hset⟩
      | hvciEnabled => exact absurd rfl hp
  · rw [admits_iff hcheck.run]
    constructor
    · exact fun h => ⟨report, hcheck.run, h⟩
    · rintro ⟨report', hreport, h⟩
      rwa [← hunique report' hreport]

/-- A machine in test-signing mode whose start options are too long for the buffer, and on which
VBS was never set up. -/
def longOptions : VanguardSystem where
  vgc := some serviceRunning
  drivers := [⟨0x1000, [0x76, 0x67, 0x6B, 0x2E, 0x73, 0x79, 0x73]⟩]
  registry := fun key =>
    if key = startOptions.key then
      some fun _ => some ("TESTSIGNING".toList.flatMap (fun c => [c.toNat.toUInt8, 0]) ++
        List.replicate 1024 0)
    else if key = secureBoot.key then some fun _ => some [1, 0, 0, 0]
    else none

/-- No call fails there, and the report is compliant without a look at the options, VBS or HVCI. -/
theorem longOptions_not_failsClosed : ¬ FailsClosed (fun _ => True) (fun _ => false) longOptions ∧
    Admits (fun _ => false) longOptions ∧
    ¬ ReadAsSatisfied longOptions (check.trace (failing fun _ => false) longOptions)
      .testSigningOff := by
  have hoptions : startOptions.found (fun _ => false) longOptions = none := by
    apply Option.eq_none_iff_forall_ne_some.mpr
    intro data h
    obtain ⟨hvalue, hlength⟩ :=
      Option.filter_eq_some_iff.mp (RegistryProbe.found_eq_some.mp h).2.2
    rw [← Option.some.inj hvalue, decide_eq_true_eq, List.length_append,
      List.length_replicate] at hlength
    have hcapacity : startOptions.capacity = 1024 := rfl
    have hword : ("TESTSIGNING".toList.flatMap fun c => [c.toNat.toUInt8, 0]).length = 22 := by
      decide
    omega
  have hpass : Passes (fun _ => false) longOptions := by
    constructor
    · exact ⟨rfl, rfl, rfl, rfl⟩
    · exact ⟨rfl, 0, _, by decide, rfl, by decide, rfl, by decide⟩
    · rw [hoptions]
      exact fun _ h => nomatch h
    · exact ⟨[1, 0, 0, 0], by decide, by decide⟩
    · exact fun _ h => nomatch h
  obtain ⟨report, t, hcheck, hcompliant, -, hread, -, -⟩ :=
    yields_check (fun _ => false) longOptions
  have hunread : ¬ ReadAsSatisfied longOptions (check.trace (failing fun _ => false) longOptions)
      .testSigningOff := by
    rw [hcheck.trace]
    intro h
    have hsome := hread.mp h.1
    rw [hoptions] at hsome
    exact Bool.noConfusion hsome
  refine ⟨?_, (admits_iff hcheck.run).mpr (hcompliant.mpr hpass), hunread⟩
  exact fun h => hunread (h report hcheck.run (hcompliant.mpr hpass) .testSigningOff trivial)

end ValOpt.VanguardChecker
