import ValOpt.State.Equiv.Rollback

/-!
# Captured baselines

`captureSystemBaseline` returns `Machine.baseline` (`run_captureSystemBaseline`).  It is not quite a
baseline of what the optimizers change:

* the `SysFx` value of an endpoint is recorded as a boolean, so that only the values 0 and 1 come
  back (`capture_disable_rollback_sysFx_iff`);
* an adapter property is recorded by a filter on its keyword that is not the one of the optimizer,
  and it comes back as a single value that the validators let pass
  (`capture_optimize_rollback_rows_iff`).
-/

namespace ValOpt

open Effect Text

namespace Machine

variable (m : Machine)

/-- What `capture_system_baseline` records of the primary adapter. -/
def capturedProperties : List AdapterPropertyBackup :=
  match m.primaryAdapter with
  | none => []
  | some adapter => ((m.listedProperties adapter).getD []).filterMap (captureProperty adapter)

/-- The snapshot that `captureSystemBaseline` returns. -/
def baseline (now : Ambient) : SystemStateSnapshot :=
  { SystemStateSnapshot.new s!"snap_{now.unixMillis}" now.debugTime with
    previousGameMode := some m.gameMode
    previousPowerScheme := some (guidToString m.activeScheme)
    previousAudioEndpoints := m.endpoints.map fun id => captureEndpoint (m.endpointInfo id)
    previousAdapterProperties := m.capturedProperties
    previousQosPolicy :=
      if defaultValorantQosPolicyName ∈ m.qosPolicies then
        some ⟨defaultValorantQosPolicyName, none, true⟩
      else none }

end Machine

section Faultless

variable {text : Call → String} {w : World}

theorem run_captureAdapter :
    captureAdapter.run (.faultless text) w = .returned w.machine.capturedProperties w := by
  unfold captureAdapter Machine.capturedProperties
  cases hp : w.machine.primaryAdapter with
  | none => simp [hp]
  | some adapter =>
    obtain ⟨r, hquery, hlisted⟩ := run_queryAdapterProperties text w adapter
    simp only [Eff.run_bind, run_readMachine_faultless, hp, Run.bind_returned, hquery, ← hlisted]
    cases r with
    | error e => rfl
    | ok props => rfl

/-- `captureSystemBaseline` records the settings and changes nothing. -/
theorem run_captureSystemBaseline (text : Call → String) (w : World) (now : Ambient) :
    (captureSystemBaseline now).run (.faultless text) w =
      .returned (.ok (w.machine.baseline now)) w := by
  have hname : validatePolicyName defaultValorantQosPolicyName = .ok () := by rfl
  unfold captureSystemBaseline queryQosPolicy Machine.baseline
  by_cases hq : defaultValorantQosPolicyName ∈ w.machine.qosPolicies <;>
    simp [hname, hq, run_captureAdapter, Except.toOption, Option.join_some, List.map_map,
      Function.comp_def]

end Faultless

/-! ### Capturing only reads -/

section Frame

variable {env : Env Call} {I : World → Prop}

theorem preserves_enumerateFrom (index : ℕ) (ids : List String) :
    Eff.Preserves env I (enumerateFrom index ids) := by
  induction ids generalizing index with
  | nil => exact Eff.Preserves.bind preserves_readMachine fun _ => Eff.preserves_pure _
  | cons id ids ih =>
    refine Eff.Preserves.bind preserves_readMachine ?_
    rintro (e | id')
    · exact Eff.preserves_pure _
    have hname : Eff.Preserves env I (queryEndpointName id') := by
      refine Eff.Preserves.bind preserves_readMachine ?_
      rintro (e | ⟨⟩)
      · exact Eff.preserves_pure _
      refine Eff.Preserves.bind preserves_readMachine ?_
      rintro (e | n) <;> exact Eff.preserves_pure _
    have hdisabled : Eff.Preserves env I (queryEndpointDisabled id') := by
      refine Eff.Preserves.bind preserves_readMachine ?_
      rintro (e | v)
      · exact Eff.preserves_pure _
      refine Eff.Preserves.bind preserves_readMachine ?_
      rintro (e | v) <;> exact Eff.preserves_pure _
    refine Eff.Preserves.bind ?_ fun d => ?_
    · exact Eff.Preserves.bind hname fun n => Eff.Preserves.bind hdisabled fun d =>
        Eff.preserves_pure _
    · exact Eff.Preserves.bind (ih _) fun infos => Eff.preserves_pure _

theorem preserves_captureAdapter : Eff.Preserves env I captureAdapter := by
  refine Eff.Preserves.bind preserves_readMachine ?_
  rintro (e | adapter)
  · exact Eff.preserves_pure _
  refine Eff.Preserves.bind (preserves_queryAdapterProperties adapter) ?_
  rintro (e | props) <;> exact Eff.preserves_pure _

theorem preserves_getGameModeState : Eff.Preserves env I getGameModeState := by
  refine Eff.Preserves.bind preserves_readMachine ?_
  rintro (e | k)
  · exact Eff.preserves_pure _
  refine Eff.Preserves.bind preserves_readMachine ?_
  rintro (e | v) <;> exact Eff.preserves_pure _

/-- Capturing a baseline changes nothing, whatever becomes of its calls. -/
theorem preserves_captureSystemBaseline (now : Ambient) :
    Eff.Preserves env I (captureSystemBaseline now) := by
  have hpower : Eff.Preserves env I getActivePowerScheme := by
    refine Eff.Preserves.bind preserves_readMachine ?_
    rintro (e | g) <;> exact Eff.preserves_pure _
  have haudio : Eff.Preserves env I enumerateRenderEndpoints := by
    refine Eff.Preserves.bind preserves_readMachine ?_
    rintro (e | ids)
    · exact Eff.preserves_pure _
    · exact Eff.Preserves.bind (preserves_enumerateFrom 0 ids) fun _ => Eff.preserves_pure _
  have hqos : Eff.Preserves env I (queryQosPolicy defaultValorantQosPolicyName) := by
    unfold queryQosPolicy
    cases validatePolicyName defaultValorantQosPolicyName with
    | error e => exact Eff.preserves_pure _
    | ok =>
      refine Eff.Preserves.bind preserves_readMachine ?_
      rintro (e | p) <;> exact Eff.preserves_pure _
  unfold captureSystemBaseline
  exact Eff.Preserves.bind preserves_getGameModeState fun _ => Eff.Preserves.bind hpower fun _ =>
    Eff.Preserves.bind haudio fun _ => Eff.Preserves.bind preserves_captureAdapter fun _ =>
      Eff.Preserves.bind hqos fun _ => Eff.preserves_pure _

end Frame

/-! ### Audio -/

/-- The world after `n` undisturbed calls of `disableAudioEnhancements`. -/
def disabledTimes (text : Call → String) (w : World) : ℕ → World
  | 0 => w
  | n + 1 => (disableAudioEnhancements.run (.faultless text) (disabledTimes text w n)).state

theorem machine_disabledTimes (text : Call → String) (w : World) (n : ℕ) :
    (disabledTimes text w n).machine =
      if n = 0 then w.machine else w.machine.disableFx w.machine.endpoints := by
  induction n with
  | zero => rfl
  | succ n ih =>
    rw [disabledTimes, run_disableAudioEnhancements, Run.state_returned]
    simp only [ih, Nat.add_one_ne_zero, if_false]
    by_cases hn : n = 0
    · simp only [if_pos hn]
    · -- a second call finds every endpoint at 1
      simp only [if_neg hn]
      unfold Machine.disableFx
      congr 1
      funext id
      by_cases hid : id ∈ w.machine.endpoints <;> simp [hid]

/-- The boolean of an endpoint, as a baseline gives it back. -/
theorem recordedFx_baseline (m : Machine) (now : Ambient) {id : String} (h : id ∈ m.endpoints) :
    recordedFx id (m.baseline now).previousAudioEndpoints =
      some (some (if m.sysFx id = some 1 then 1 else 0)) := by
  have hmap := recordedFx_map (fun id => captureEndpoint (m.endpointInfo id)) (fun _ => rfl) id
    m.endpoints
  rw [if_pos h] at hmap
  refine hmap.trans ?_
  simp [captureEndpoint, Machine.endpointInfo]

/-- **A captured baseline, for audio.**  A baseline is captured, `disableAudioEnhancements` called
`n` times, and the baseline rolled back, all undisturbed.  Every `SysFx` value is the old one iff it
was 0 or 1, or nothing was disabled and its key did not exist. -/
theorem capture_disable_rollback_sysFx_iff (text : Call → String) (w : World) (now : Ambient)
    (n : ℕ) : ∃ s report w',
      (captureSystemBaseline now).run (.faultless text) w = .returned (.ok s) w ∧
      (rollbackSnapshot s).run (.faultless text) (disabledTimes text w n) =
        .returned (.ok report) w' ∧
      ((∀ id ∈ w.machine.endpoints, w'.machine.sysFx id = w.machine.sysFx id) ↔
        ∀ id ∈ w.machine.endpoints, w.machine.sysFx id = some 0 ∨ w.machine.sysFx id = some 1 ∨
          (n = 0 ∧ w.machine.fxProperties id = none)) := by
  obtain ⟨report, w', hrun, hsame, -⟩ :=
    run_rollbackSnapshot text (disabledTimes text w n) (w.machine.baseline now)
  refine ⟨_, report, w', run_captureSystemBaseline text w now, hrun, ?_⟩
  apply forall₂_congr
  intro id hid
  -- the boolean is written where the key exists, which it does after a disabling
  have hvalue : w'.machine.sysFx id =
      if n = 0 ∧ w.machine.fxProperties id = none then none
      else some (if w.machine.sysFx id = some 1 then 1 else 0) := by
    rw [hsame.sysFx, Machine.sysFx_withBaseline, Machine.sysFx_restoreFx,
      recordedFx_baseline _ now hid, machine_disabledTimes]
    by_cases hn : n = 0
    · cases hkey : w.machine.fxProperties id with
      | none => simp [hn, hkey]
      | some v => simp [hn, hkey]
    · simp [hn, Machine.disableFx, hid]
  rw [hvalue]
  by_cases hnone : n = 0 ∧ w.machine.fxProperties id = none
  · rw [if_pos hnone]
    have hsys : w.machine.sysFx id = none := by
      unfold Machine.sysFx
      rw [hnone.2]
      rfl
    simp [hsys, hnone]
  · rw [if_neg hnone]
    simp only [hnone, or_false]
    constructor
    · intro h
      by_cases hone : w.machine.sysFx id = some 1
      · exact .inr hone
      · rw [if_neg hone] at h
        exact .inl h.symm
    · rintro (h | h) <;> rw [h] <;> rfl

/-- The speaker of the desktop has no `SysFx` value; the baseline records 0 for it, and a rollback
after a disabling writes that. -/
theorem capture_rollback_writes_absent_sysFx : ∃ report w',
    (captureSystemBaseline default).run (.faultless errorText) .desktop =
        .returned (.ok (Machine.desktop.baseline default)) .desktop ∧
      (rollbackSnapshot (Machine.desktop.baseline default)).run (.faultless errorText)
        (disabledTimes errorText .desktop 1) = .returned (.ok report) w' ∧
      Machine.desktop.sysFx speakerId = none ∧ w'.machine.sysFx speakerId = some 0 := by
  obtain ⟨report, w', hrun, hsame, -⟩ := run_rollbackSnapshot errorText
    (disabledTimes errorText .desktop 1) (Machine.desktop.baseline default)
  refine ⟨report, w', run_captureSystemBaseline errorText .desktop default, hrun, rfl, ?_⟩
  rw [hsame.sysFx, Machine.sysFx_withBaseline, Machine.sysFx_restoreFx,
    recordedFx_baseline _ _ List.mem_cons_self, machine_disabledTimes]
  rfl

/-! ### Adapter properties -/

/-- The value that a rollback of a captured baseline writes to the row, if it writes any. -/
def NicAdvancedProperty.baselineValue (adapter : String) (p : NicAdvancedProperty) :
    Option String :=
  (captureProperty adapter p).bind fun b =>
    if (validateAdapterSet adapter b.keyword b.originalValue).isOk then some b.originalValue
    else none

/-- The row comes back from capture, optimization and rollback: a row that is written back has a
single value, and a row that is not is left alone by the optimizer. -/
def NicAdvancedProperty.Survives (adapter : String) (p : NicAdvancedProperty) : Prop :=
  match p.baselineValue adapter with
  | some v => p.registryValue = some [v]
  | none => isTargeted (eeeKeywords ++ greenEthernetKeywords) p.registryKeyword →
      p.firstValue.getD "0" = "0"

instance (adapter : String) (p : NicAdvancedProperty) : Decidable (p.Survives adapter) := by
  unfold NicAdvancedProperty.Survives
  split <;> infer_instance

/-- The row with the value written to it, if there is one. -/
def NicAdvancedProperty.withValue (p : NicAdvancedProperty) : Option String → NicAdvancedProperty
  | some v => { p with registryValue := some [v] }
  | none => p

theorem captureProperty_eq_some {adapter : String} {p : NicAdvancedProperty}
    {b : AdapterPropertyBackup} (h : captureProperty adapter p = some b) :
    b.adapterName = adapter ∧ b.keyword = p.registryKeyword := by
  unfold captureProperty at h
  split at h
  · obtain ⟨v, -, rfl⟩ := Option.map_eq_some_iff.mp h
    exact ⟨rfl, rfl⟩
  · cases h

/-- A row takes the value captured of the row with its keyword, and no other. -/
theorem NicAdvancedProperty.restored_captured {adapter : String} {r p : NicAdvancedProperty}
    (hp : p.registryKeyword = r.registryKeyword) (rows : List NicAdvancedProperty)
    (hunique : ∀ q ∈ rows, eqIgnoreAsciiCase r.registryKeyword q.registryKeyword → q = r) :
    p.restored adapter (rows.filterMap (captureProperty adapter)) =
      if r ∈ rows then p.withValue (r.baselineValue adapter) else p := by
  induction rows generalizing p with
  | nil => rfl
  | cons q rows ih =>
    have hrest : ∀ q' ∈ rows, eqIgnoreAsciiCase r.registryKeyword q'.registryKeyword → q' = r :=
      fun q' hq' => hunique q' (List.mem_cons_of_mem _ hq')
    by_cases hqr : q = r
    · subst hqr
      rw [if_pos List.mem_cons_self]
      cases hcap : captureProperty adapter q with
      | none =>
        rw [List.filterMap_cons_none hcap, ih hp hrest]
        have hvalue : q.baselineValue adapter = none := by
          unfold baselineValue
          rw [hcap]
          rfl
        rw [hvalue]
        split <;> rfl
      | some b =>
        obtain ⟨hb, hkw⟩ := captureProperty_eq_some hcap
        rw [List.filterMap_cons_some hcap, restored, List.foldl_cons]
        change (ite _ _ _ : NicAdvancedProperty).restored adapter _ = _
        by_cases hvalid : (validateAdapterSet adapter b.keyword b.originalValue).isOk
        · have hvalue : q.baselineValue adapter = some b.originalValue := by
            unfold baselineValue
            rw [hcap, Option.bind_some, if_pos hvalid]
          have hassign : p.assign b.keyword b.originalValue =
              { p with registryValue := some [b.originalValue] } := by
            unfold assign
            rw [hp, hkw, if_pos (eqIgnoreAsciiCase_self _)]
          rw [if_pos ⟨hb, by rw [hb]; exact hvalid⟩, hassign,
            ih (p := { p with registryValue := some [b.originalValue] }) hp hrest, hvalue]
          split <;> rfl
        · have hvalue : q.baselineValue adapter = none := by
            unfold baselineValue
            rw [hcap, Option.bind_some, if_neg hvalid]
          rw [if_neg (by rw [hb]; exact fun h => hvalid h.2), ih hp hrest, hvalue]
          split <;> rfl
    · have hmem : r ∈ q :: rows ↔ r ∈ rows := by simp [Ne.symm hqr]
      simp only [hmem]
      cases hcap : captureProperty adapter q with
      | none => rw [List.filterMap_cons_none hcap, ih hp hrest]
      | some b =>
        -- the backup of another row names another keyword
        obtain ⟨hb, hkw⟩ := captureProperty_eq_some hcap
        have hassign : p.assign b.keyword b.originalValue = p := by
          unfold assign
          rw [hp, hkw, if_neg fun h => hqr (hunique q List.mem_cons_self h)]
        rw [List.filterMap_cons_some hcap, restored, List.foldl_cons, hassign, ite_self]
        exact ih hp hrest

/-- A row comes back iff it survives. -/
theorem NicAdvancedProperty.withValue_zeroed_eq_iff (adapter : String) (p : NicAdvancedProperty) :
    (p.zeroed (eeeKeywords ++ greenEthernetKeywords)).withValue (p.baselineValue adapter) = p ↔
      p.Survives adapter := by
  unfold Survives
  cases hvalue : p.baselineValue adapter with
  | some v =>
    have hwritten : (p.zeroed (eeeKeywords ++ greenEthernetKeywords)).withValue (some v) =
        { p with registryValue := some [v] } := by
      change { p.zeroed (eeeKeywords ++ greenEthernetKeywords) with registryValue := some [v] } = _
      unfold zeroed
      split <;> rfl
    rw [hwritten]
    constructor
    · intro h
      rw [← congrArg NicAdvancedProperty.registryValue h]
    · intro h
      rw [← h]
  | none =>
    unfold zeroed
    by_cases h : isTargeted (eeeKeywords ++ greenEthernetKeywords) p.registryKeyword ∧
        p.firstValue.getD "0" ≠ "0"
    · rw [if_pos h]
      constructor
      · intro heq
        have hzero : p.registryValue = some ["0"] :=
          (congrArg NicAdvancedProperty.registryValue heq).symm
        refine absurd ?_ h.2
        unfold firstValue
        rw [hzero]
        rfl
      · intro himp
        exact absurd (himp h.1) h.2
    · rw [if_neg h]
      refine ⟨fun _ htarget => ?_, fun _ => rfl⟩
      by_contra hne
      exact h ⟨htarget, hne⟩

/-- **A captured baseline, for the adapter.**  A baseline is captured, the primary adapter optimized
with success, and the baseline rolled back.  Every property of the adapter is the old one iff every
row survives. -/
theorem capture_optimize_rollback_rows_iff {text : Call → String} {w w₁ : World} (now : Ambient)
    {adapter : String} {backups : List AdapterPropertyBackup}
    (hprimary : w.machine.primaryAdapter = some adapter)
    (hopt : (optimizeAdapterLatencyProperties adapter).run (.faultless text) w =
      .returned (.ok backups) w₁) :
    ∃ A s report w₂, w.machine.adapters adapter = some A ∧
      (captureSystemBaseline now).run (.faultless text) w = .returned (.ok s) w ∧
      (rollbackSnapshot s).run (.faultless text) w₁ = .returned (.ok report) w₂ ∧
      ((w₂.machine.adapters adapter).map (·.rows) = some A.rows ↔
        ∀ r ∈ A.rows, r.Survives adapter) := by
  obtain ⟨hid, A, hA, hmany, hrows⟩ := optimizeAdapterLatencyProperties_ok hopt
  obtain ⟨report, w₂, hrun, -, hads, -⟩ :=
    run_rollbackSnapshot text w₁ (w.machine.baseline now)
  refine ⟨A, _, report, w₂, hA, run_captureSystemBaseline text w now, hrun, ?_⟩
  have hcaptured : (w.machine.baseline now).previousAdapterProperties =
      A.rows.filterMap (captureProperty adapter) := by
    have hlisted : w.machine.listedProperties adapter = some A.rows :=
      Machine.listedProperties_eq_some_iff.mpr ⟨hid, A, hA, hmany, rfl⟩
    change w.machine.capturedProperties = _
    rw [Machine.capturedProperties, hprimary]
    show ((w.machine.listedProperties adapter).getD []).filterMap _ = _
    rw [hlisted, Option.getD_some]
  have hfinal : (w₂.machine.adapters adapter).map (·.rows) = some (A.rows.map fun r =>
      (r.zeroed (eeeKeywords ++ greenEthernetKeywords)).withValue (r.baselineValue adapter)) := by
    obtain ⟨B, hB, hBrows⟩ := Option.map_eq_some_iff.mp hrows
    rw [hads, adapters_restoreAdapters, hB, Option.map_some, hBrows, List.map_map, hcaptured]
    congr 1
    apply List.map_congr_left
    intro r hr
    rw [Function.comp_apply, NicAdvancedProperty.restored_captured
      (NicAdvancedProperty.registryKeyword_zeroed _ r) A.rows
      (fun q hq h => (A.eq_of_keyword hr hq h).symm), if_pos hr]
  rw [hfinal, Option.some.injEq]
  constructor
  · intro h r hr
    rw [← NicAdvancedProperty.withValue_zeroed_eq_iff]
    have hid : A.rows.map _ = A.rows.map id := h.trans (List.map_id _).symm
    exact List.map_inj_left.mp hid r hr
  · intro h
    conv_rhs => rw [← List.map_id A.rows]
    apply List.map_congr_left
    intro r hr
    exact (r.withValue_zeroed_eq_iff adapter).mpr (h r hr)

/-- The desktop with an adapter whose second property is none of those that the optimizer sets. -/
def World.desktopEee : World :=
  { World.desktop with machine := { Machine.desktop with
      adapters := fun _ => some ⟨[⟨"Energy Efficient Ethernet", "*EEE", some ["1"]⟩,
        ⟨"Speed & Duplex", "*SpeedDuplex", some ["0"]⟩], by decide⟩ } }

/-- Both properties are there again. -/
theorem capture_optimize_rollback_rows_desktop : ∃ s report w₁ w₂,
    (captureSystemBaseline default).run (.faultless errorText) .desktopEee =
        .returned (.ok s) .desktopEee ∧
      (rollbackSnapshot s).run (.faultless errorText) w₁ = .returned (.ok report) w₂ ∧
      (w₁.machine.adapters "Ethernet").map (·.rows) =
        some [⟨"Energy Efficient Ethernet", "*EEE", some ["0"]⟩,
          ⟨"Speed & Duplex", "*SpeedDuplex", some ["0"]⟩] ∧
      (w₂.machine.adapters "Ethernet").map (·.rows) =
        some [⟨"Energy Efficient Ethernet", "*EEE", some ["1"]⟩,
          ⟨"Speed & Duplex", "*SpeedDuplex", some ["0"]⟩] := by
  have hopt : ∃ backups w₁, (optimizeAdapterLatencyProperties "Ethernet").run (.faultless errorText)
      .desktopEee = .returned (.ok backups) w₁ ∧ (w₁.machine.adapters "Ethernet").map (·.rows) =
        some [⟨"Energy Efficient Ethernet", "*EEE", some ["0"]⟩,
          ⟨"Speed & Duplex", "*SpeedDuplex", some ["0"]⟩] := ⟨_, _, rfl, rfl⟩
  obtain ⟨backups, w₁, hopt, hzero⟩ := hopt
  obtain ⟨A, s, report, w₂, hA, hcapture, hrollback, hiff⟩ :=
    capture_optimize_rollback_rows_iff default rfl hopt
  cases hA
  exact ⟨s, report, w₁, w₂, hcapture, hrollback, hzero, hiff.mpr (by decide +kernel)⟩

/-- Of the rows of the desktop's adapter, only the first has a keyword that a baseline captures. -/
theorem capturedProperties_desktop : (Machine.desktop.baseline default).previousAdapterProperties =
    [⟨"Ethernet", "*EEE", "Energy Efficient Ethernet", "1"⟩] := by
  decide +kernel

/-- The optimizer also changes the second, which stays changed. -/
theorem capture_optimize_rollback_misses_row : ∃ backups report w₁ w₂,
    (captureSystemBaseline default).run (.faultless errorText) .desktop =
        .returned (.ok (Machine.desktop.baseline default)) .desktop ∧
      (optimizeAdapterLatencyProperties "Ethernet").run (.faultless errorText) .desktop =
        .returned (.ok backups) w₁ ∧
      (rollbackSnapshot (Machine.desktop.baseline default)).run (.faultless errorText) w₁ =
        .returned (.ok report) w₂ ∧
      (Machine.desktop.adapters "Ethernet").map (·.rows) =
        some [⟨"Energy Efficient Ethernet", "*EEE", some ["1"]⟩,
          ⟨"Power Saving Mode", "PowerSavingMode", some ["1"]⟩] ∧
      (w₂.machine.adapters "Ethernet").map (·.rows) =
        some [⟨"Energy Efficient Ethernet", "*EEE", some ["1"]⟩,
          ⟨"Power Saving Mode", "PowerSavingMode", some ["0"]⟩] := by
  have hopt : ∃ backups w₁, (optimizeAdapterLatencyProperties "Ethernet").run (.faultless errorText)
      .desktop = .returned (.ok backups) w₁ ∧
        w₁.machine = (Machine.desktop.assignAdapter "Ethernet" "*EEE" "0").assignAdapter "Ethernet"
          "PowerSavingMode" "0" := ⟨_, _, rfl, rfl⟩
  obtain ⟨backups, w₁, hopt, hmachine⟩ := hopt
  obtain ⟨report, w₂, hrollback, -, hads, -⟩ :=
    run_rollbackSnapshot errorText w₁ (Machine.desktop.baseline default)
  refine ⟨backups, report, w₁, w₂, run_captureSystemBaseline errorText .desktop default, hopt,
    hrollback, rfl, ?_⟩
  rw [hads, capturedProperties_desktop, hmachine]
  rfl

end ValOpt
