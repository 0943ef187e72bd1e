import ValOpt.Network.Equiv.Adapter
import ValOpt.Optimizations.Equiv.Coordinator
import ValOpt.State.CrashRecovery

/-!
# What a snapshot's rollback does to the settings

Undisturbed, `rollbackSnapshot` returns a report, and the settings afterwards are those of
`Machine.withBaseline`: the recorded audio values, power scheme and Game Mode state laid over the
old ones (`run_rollbackSnapshot`).  The steps for the network and for the services write elsewhere;
`Machine.SameSettings` is what they keep.
-/

namespace ValOpt

open Effect

namespace Machine

variable {m m' m'' : Machine}

/-- The machines differ in their network settings and services at most. -/
structure SameSettings (m m' : Machine) : Prop where
  gameBar : m'.gameBar = m.gameBar
  activeScheme : m'.activeScheme = m.activeScheme
  installedSchemes : m'.installedSchemes = m.installedSchemes
  endpoints : m'.endpoints = m.endpoints
  fxProperties : m'.fxProperties = m.fxProperties

theorem SameSettings.refl (m : Machine) : m.SameSettings m := ⟨rfl, rfl, rfl, rfl, rfl⟩

theorem SameSettings.trans (h : m.SameSettings m') (h' : m'.SameSettings m'') :
    m.SameSettings m'' where
  gameBar := h'.gameBar.trans h.gameBar
  activeScheme := h'.activeScheme.trans h.activeScheme
  installedSchemes := h'.installedSchemes.trans h.installedSchemes
  endpoints := h'.endpoints.trans h.endpoints
  fxProperties := h'.fxProperties.trans h.fxProperties

theorem SameSettings.gameMode (h : m.SameSettings m') : m'.gameMode = m.gameMode := by
  unfold Machine.gameMode
  rw [h.gameBar]

theorem SameSettings.sysFx (h : m.SameSettings m') (id : String) : m'.sysFx id = m.sysFx id := by
  unfold Machine.sysFx
  rw [h.fxProperties]

theorem SameSettings.settings (h : m.SameSettings m') : m'.settings = m.settings := by
  rw [settings_eq_iff h.endpoints]
  exact ⟨h.gameMode, h.activeScheme, fun id _ => h.sysFx id⟩

/-! The writes of the settings respect the relation. -/

theorem SameSettings.restoreFx (h : m.SameSettings m') (bs : List AudioEndpointBackup) :
    (m.restoreFx bs).SameSettings (m'.restoreFx bs) where
  gameBar := h.gameBar
  activeScheme := h.activeScheme
  installedSchemes := h.installedSchemes
  endpoints := h.endpoints
  fxProperties := by
    funext id
    change (m'.fxProperties id).map _ = (m.fxProperties id).map _
    rw [h.fxProperties]

theorem SameSettings.activate (h : m.SameSettings m') (g : Guid) :
    (m.activate g).SameSettings (m'.activate g) where
  gameBar := h.gameBar
  activeScheme := by
    rw [activeScheme_activate, activeScheme_activate, h.installedSchemes, h.activeScheme]
  installedSchemes := h.installedSchemes
  endpoints := h.endpoints
  fxProperties := h.fxProperties

theorem SameSettings.withPowerRecord (h : m.SameSettings m') (scheme : Option String) :
    (m.withPowerRecord scheme).SameSettings (m'.withPowerRecord scheme) := by
  unfold Machine.withPowerRecord
  cases scheme.bind fun s => (stringToGuid s).toOption with
  | none => exact h
  | some g => exact h.activate g

theorem SameSettings.withGameModeRecord (h : m.SameSettings m') (mode : Option Bool) :
    (m.withGameModeRecord mode).SameSettings (m'.withGameModeRecord mode) := by
  cases mode with
  | none => exact h
  | some b => exact ⟨rfl, h.activeScheme, h.installedSchemes, h.endpoints, h.fxProperties⟩

/-- The settings of a snapshot laid over those of a machine. -/
def withBaseline (m : Machine) (s : SystemStateSnapshot) : Machine :=
  ((m.restoreFx s.previousAudioEndpoints).withPowerRecord
    s.previousPowerScheme).withGameModeRecord s.previousGameMode

@[simp] theorem endpoints_withBaseline (m : Machine) (s : SystemStateSnapshot) :
    (m.withBaseline s).endpoints = m.endpoints := by
  unfold withBaseline Machine.withGameModeRecord Machine.withPowerRecord
  split <;> split <;> rfl

theorem sysFx_withBaseline (m : Machine) (s : SystemStateSnapshot) (id : String) :
    (m.withBaseline s).sysFx id = (m.restoreFx s.previousAudioEndpoints).sysFx id := by
  unfold withBaseline Machine.withGameModeRecord Machine.withPowerRecord
  split <;> split <;> rfl

theorem gameMode_withBaseline (m : Machine) (s : SystemStateSnapshot) :
    (m.withBaseline s).gameMode = s.previousGameMode.getD m.gameMode := by
  unfold withBaseline
  cases s.previousGameMode with
  | none =>
    change ((m.restoreFx s.previousAudioEndpoints).withPowerRecord _).gameMode = m.gameMode
    unfold Machine.withPowerRecord
    split <;> rfl
  | some b => exact gameMode_withGameMode _ b

theorem adapters_withPowerRecord (m : Machine) (scheme : Option String) :
    (m.withPowerRecord scheme).adapters = m.adapters := by
  unfold Machine.withPowerRecord
  split <;> rfl

theorem adapters_withGameModeRecord (m : Machine) (mode : Option Bool) :
    (m.withGameModeRecord mode).adapters = m.adapters := by
  cases mode <;> rfl

end Machine

/-! ### The steps for the network and the services -/

section Frame

variable {env : Env Call} {I : World → Prop}

theorem preserves_restoreNlaSetting (setting : Option String)
    (h : ∀ v, setting = some v →
      ∀ w, I w → I { w with machine := { w.machine with nlaSetting := some v } }) :
    Eff.Preserves env I (restoreNlaSetting setting) := by
  unfold restoreNlaSetting
  cases setting with
  | none => exact Eff.preserves_pure _
  | some val =>
    by_cases hval : val.toList.all Char.isAlphanum
    · simp only [hval, if_true]
      refine Eff.Preserves.bind (preserves_writeMachine ?_) fun _ => Eff.preserves_pure _
      rintro w m hw ⟨⟩
      exact h val rfl w hw
    · simp only [hval]
      exact Eff.preserves_pure _

/-- Removing the policy writes the policies and the NLA setting. -/
theorem preserves_unregisterQosPolicy (backup : QosPolicyBackup)
    (hq : backup.wasPolicyPresentBefore = false → ∀ w, I w → I { w with machine := { w.machine with
      qosPolicies := w.machine.qosPolicies.filter (· ≠ backup.policyName) } })
    (hn : ∀ v, backup.previousNlaSetting = some v →
      ∀ w, I w → I { w with machine := { w.machine with nlaSetting := some v } }) :
    Eff.Preserves env I (unregisterQosPolicy backup) := by
  unfold unregisterQosPolicy
  cases validatePolicyName backup.policyName with
  | error e => exact Eff.preserves_pure _
  | ok =>
    by_cases hp : backup.wasPolicyPresentBefore
    · simp only [hp, if_true]
      exact preserves_restoreNlaSetting _ hn
    · simp only [hp, Bool.false_eq_true, if_false]
      refine Eff.Preserves.bind (preserves_writeMachine ?_) fun _ =>
        preserves_restoreNlaSetting _ hn
      rintro w m hw ⟨⟩
      exact hq (Bool.eq_false_iff.mpr hp) w hw

theorem preserves_queryAdapterProperties (adapter : String) :
    Eff.Preserves env I (queryAdapterProperties adapter) := by
  unfold queryAdapterProperties parseProperties
  cases validateAdapterIdentifier adapter with
  | error e => exact Eff.preserves_pure _
  | ok =>
    refine Eff.Preserves.bind preserves_readMachine ?_
    rintro (e | ⟨⟩)
    · exact Eff.preserves_pure _
    refine Eff.Preserves.bind preserves_readMachine ?_
    rintro (e | props)
    · exact Eff.preserves_pure _
    refine Eff.Preserves.bind preserves_readMachine ?_
    rintro (e | props') <;> exact Eff.preserves_pure _

theorem preserves_setAdapterProperty (index : ℕ) (adapter kw v : String)
    (h : ∀ w m, I w → w.machine.setAdapter adapter kw v = some m → I { w with machine := m }) :
    Eff.Preserves env I (setAdapterProperty index adapter kw v) := by
  unfold setAdapterProperty
  cases validateAdapterSet adapter kw v with
  | error e => exact Eff.preserves_pure _
  | ok =>
    refine Eff.Preserves.bind preserves_readMachine ?_
    rintro (e | ⟨⟩)
    · exact Eff.preserves_pure _
    refine Eff.Preserves.bind preserves_readMachine ?_
    rintro (e | ⟨⟩)
    · exact Eff.preserves_pure _
    refine Eff.Preserves.bind (preserves_writeMachine h) ?_
    rintro (e | ⟨⟩) <;> exact Eff.preserves_pure _

theorem preserves_startService (index : ℕ) (name : String)
    (h : ∀ w m, I w → w.machine.startService name = some m → I { w with machine := m }) :
    Eff.Preserves env I (startService index name) := by
  unfold startService
  refine Eff.Preserves.bind preserves_readMachine ?_
  rintro (e | ⟨⟩)
  · exact Eff.preserves_pure _
  refine Eff.Preserves.bind preserves_readMachine ?_
  rintro (e | v)
  · exact Eff.preserves_pure _
  refine Eff.Preserves.bind (preserves_writeMachine h) ?_
  rintro (e | ⟨⟩) <;> exact Eff.preserves_pure _

theorem preserves_restoreTier3Services (backups : List ServiceBackup)
    (h : ∀ b ∈ backups, b.wasPausedByOptimizer → ∀ w m, I w →
      w.machine.startService b.serviceName = some m → I { w with machine := m }) :
    Eff.Preserves env I (restoreTier3Services backups) := by
  refine Eff.Preserves.forEach 0 backups fun i svc hsvc => ?_
  unfold restoreService
  split
  · next hp =>
    exact (preserves_startService _ _ fun w m hw hm => h svc hsvc hp w m hw hm).bind fun _ =>
      Eff.preserves_pure _
  · exact Eff.preserves_pure _

end Frame

/-! ### Undisturbed runs -/

section Faultless

variable {text : Call → String} {w : World}

theorem Machine.sameSettings_assignAdapter (m : Machine) (adapter kw v : String) :
    m.SameSettings (m.assignAdapter adapter kw v) := by
  unfold assignAdapter
  split <;> exact ⟨rfl, rfl, rfl, rfl, rfl⟩

theorem Machine.sameSettings_restoreAdapters (m : Machine) (bs : List AdapterPropertyBackup) :
    m.SameSettings (m.restoreAdapters bs) := by
  unfold restoreAdapters
  induction bs generalizing m with
  | nil => exact .refl m
  | cons b bs ih => exact (m.sameSettings_assignAdapter _ _ _).trans (ih _)

/-- The policy step leaves the settings, the adapters and the files. -/
theorem run_rollbackQos (text : Call → String) (w : World) (backup : Option QosPolicyBackup) :
    ∃ r w', (rollbackQos backup).run (.faultless text) w = .returned r w' ∧
      w.machine.SameSettings w'.machine ∧ w'.machine.adapters = w.machine.adapters ∧
      w'.files = w.files ∧ w'.drive = w.drive := by
  have hpreserves : Eff.Preserves (.faultless text) (fun w' : World =>
      w.machine.SameSettings w'.machine ∧ w'.machine.adapters = w.machine.adapters ∧
        w'.files = w.files ∧ w'.drive = w.drive) (rollbackQos backup) := by
    unfold rollbackQos
    cases backup with
    | none => exact Eff.preserves_pure _
    | some b =>
      refine Eff.Preserves.bind (preserves_unregisterQosPolicy b ?_ ?_) fun _ =>
        Eff.preserves_pure _
      · rintro - w' ⟨hs, ha, hf, hp⟩
        exact ⟨hs.trans ⟨rfl, rfl, rfl, rfl, rfl⟩, ha, hf, hp⟩
      · rintro v - w' ⟨hs, ha, hf, hp⟩
        exact ⟨hs.trans ⟨rfl, rfl, rfl, rfl, rfl⟩, ha, hf, hp⟩
  exact hpreserves.returned (Env.crashFree_faultless text) ⟨.refl _, rfl, rfl, rfl⟩

/-- The services step leaves the settings, the adapters and the files. -/
theorem run_rollbackServices (text : Call → String) (w : World) (backups : List ServiceBackup) :
    ∃ r w', (rollbackServices backups).run (.faultless text) w = .returned r w' ∧
      w.machine.SameSettings w'.machine ∧ w'.machine.adapters = w.machine.adapters ∧
      w'.files = w.files ∧ w'.drive = w.drive := by
  have hpreserves : Eff.Preserves (.faultless text) (fun w' : World =>
      w.machine.SameSettings w'.machine ∧ w'.machine.adapters = w.machine.adapters ∧
        w'.files = w.files ∧ w'.drive = w.drive) (rollbackServices backups) := by
    unfold rollbackServices
    cases hb : backups.isEmpty with
    | true => exact Eff.preserves_pure _
    | false =>
      refine Eff.Preserves.bind (preserves_restoreTier3Services backups ?_) fun _ =>
        Eff.preserves_pure _
      rintro b - - w' m ⟨hs, ha, hf, hp⟩ hm
      unfold Machine.startService at hm
      obtain ⟨_, _, rfl⟩ := Option.map_eq_some_iff.mp hm
      exact ⟨hs.trans ⟨rfl, rfl, rfl, rfl, rfl⟩, ha, hf, hp⟩
  exact hpreserves.returned (Env.crashFree_faultless text) ⟨.refl _, rfl, rfl, rfl⟩

theorem run_rollbackAdapter (backups : List AdapterPropertyBackup) :
    (rollbackAdapter backups).run (.faultless text) w =
      .returned backups.length { w with machine := w.machine.restoreAdapters backups } := by
  unfold rollbackAdapter
  cases backups with
  | nil => rfl
  | cons b bs => simp

theorem run_rollbackAudio (backups : List AudioEndpointBackup) :
    (rollbackAudio backups).run (.faultless text) w =
      .returned backups.length { w with machine := w.machine.restoreFx backups } := by
  unfold rollbackAudio
  cases backups with
  | nil => simp
  | cons b bs => simp

theorem run_rollbackPower (text : Call → String) (w : World) (scheme : Option String) :
    ∃ r, (rollbackPower scheme).run (.faultless text) w =
      .returned r { w with machine := w.machine.withPowerRecord scheme } := by
  unfold rollbackPower Machine.withPowerRecord
  cases scheme with
  | none => exact ⟨false, rfl⟩
  | some s =>
    cases hg : stringToGuid s with
    | error e => exact ⟨false, by simp [hg, Except.toOption]⟩
    | ok g =>
      obtain ⟨r, hr⟩ := run_restorePowerScheme text w g
      exact ⟨r.isOk, by simp [hg, hr, Except.toOption]⟩

theorem run_rollbackGameMode (text : Call → String) (w : World) (mode : Option Bool) :
    ∃ r, (rollbackGameMode mode).run (.faultless text) w =
      .returned r { w with machine := w.machine.withGameModeRecord mode } := by
  cases mode with
  | none => exact ⟨false, rfl⟩
  | some b => exact ⟨true, by simp [rollbackGameMode, Machine.withGameModeRecord, Except.isOk,
      Except.toBool]⟩

/-- `rollbackSnapshot` lays the recorded settings over the old ones, and writes the recorded
adapter properties back. -/
theorem run_rollbackSnapshot (text : Call → String) (w : World) (s : SystemStateSnapshot) :
    ∃ report w', (rollbackSnapshot s).run (.faultless text) w = .returned (.ok report) w' ∧
      (w.machine.withBaseline s).SameSettings w'.machine ∧
      w'.machine.adapters =
        (w.machine.restoreAdapters s.previousAdapterProperties).adapters ∧
      w'.files = w.files ∧ w'.drive = w.drive := by
  obtain ⟨q, w₁, hq, hsame₁, hads₁, hfiles₁, hdata₁⟩ :=
    run_rollbackQos text w s.previousQosPolicy
  let m₂ := w₁.machine.restoreAdapters s.previousAdapterProperties
  let m₃ := m₂.restoreFx s.previousAudioEndpoints
  obtain ⟨p, hp⟩ := run_rollbackPower text { w₁ with machine := m₃ } s.previousPowerScheme
  let m₄ := m₃.withPowerRecord s.previousPowerScheme
  obtain ⟨g, hg⟩ := run_rollbackGameMode text { w₁ with machine := m₄ } s.previousGameMode
  let m₅ := m₄.withGameModeRecord s.previousGameMode
  obtain ⟨n, w₆, hn, hsame₆, hads₆, hfiles₆, hdata₆⟩ :=
    run_rollbackServices text { w₁ with machine := m₅ } s.pausedServices
  have hrun : ∃ report,
      (rollbackSnapshot s).run (.faultless text) w = .returned (.ok report) w₆ := by
    unfold rollbackSnapshot
    simp only [Eff.run_bind, hq, Run.bind_returned, run_rollbackAdapter, run_rollbackAudio]
    rw [hp, Run.bind_returned, hg, Run.bind_returned, hn, Run.bind_returned]
    exact ⟨_, rfl⟩
  obtain ⟨report, hrun⟩ := hrun
  refine ⟨report, w₆, hrun, ?_, ?_, hfiles₆.trans hfiles₁, hdata₆.trans hdata₁⟩
  · have hsame₂ : w.machine.SameSettings m₂ :=
      hsame₁.trans (w₁.machine.sameSettings_restoreAdapters _)
    have hsame₅ : (w.machine.withBaseline s).SameSettings m₅ :=
      ((hsame₂.restoreFx _).withPowerRecord _).withGameModeRecord _
    exact hsame₅.trans hsame₆
  · rw [hads₆]
    change (m₄.withGameModeRecord s.previousGameMode).adapters = _
    rw [Machine.adapters_withGameModeRecord, Machine.adapters_withPowerRecord]
    exact adapters_restoreAdapters_congr hads₁ _

end Faultless

end ValOpt
