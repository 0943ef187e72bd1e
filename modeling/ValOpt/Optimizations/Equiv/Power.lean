import ValOpt.Optimizations.Power

/-!
# What the power scheme functions do

`applyGamingPowerScheme` leaves `Machine.gamingScheme` active, and succeeds iff there was a scheme
to choose or the machine is a laptop (`run_applyGamingPowerScheme`).  Its only write is the last
thing it does, so a run that is cut short has changed nothing (`follows_applyGamingPowerScheme`).
-/

namespace ValOpt

open Effect

namespace Machine

variable (m : Machine)

/-- `g` is the active scheme afterwards, if it is installed. -/
def activate (g : Guid) : Machine where
  __ := m
  activeScheme := if g ∈ m.installedSchemes then g else m.activeScheme
  active_installed := by
    by_cases h : g ∈ m.installedSchemes
    · rw [if_pos h]
      exact h
    · rw [if_neg h]
      exact m.active_installed

theorem activeScheme_activate (g : Guid) :
    (m.activate g).activeScheme = if g ∈ m.installedSchemes then g else m.activeScheme := rfl

@[simp] theorem installedSchemes_activate (g : Guid) :
    (m.activate g).installedSchemes = m.installedSchemes := rfl

@[simp] theorem gameBar_activate (g : Guid) : (m.activate g).gameBar = m.gameBar := rfl

@[simp] theorem endpoints_activate (g : Guid) : (m.activate g).endpoints = m.endpoints := rfl

@[simp] theorem fxProperties_activate (g : Guid) :
    (m.activate g).fxProperties = m.fxProperties := rfl

theorem setActiveScheme_of_mem {g : Guid} (h : g ∈ m.installedSchemes) :
    m.setActiveScheme g = some (m.activate g) := by
  unfold setActiveScheme activate
  simp [h]

theorem setActiveScheme_of_not_mem {g : Guid} (h : g ∉ m.installedSchemes) :
    m.setActiveScheme g = none := dif_neg h

theorem activate_of_not_mem {g : Guid} (h : g ∉ m.installedSchemes) : m.activate g = m := by
  unfold activate
  simp [h]

/-- Activating the active scheme changes nothing. -/
@[simp] theorem activate_activeScheme : m.activate m.activeScheme = m := by
  unfold activate
  simp

/-! ### The gaming scheme -/

/-- `applyGamingPowerScheme` succeeds: nothing is to be done, or there is a scheme to choose. -/
def HasGamingScheme : Prop :=
  m.isLaptop ∨ ultimatePerformanceGuid ∈ m.installedSchemes ∨
    highPerformanceGuid ∈ m.installedSchemes

instance : Decidable m.HasGamingScheme := inferInstanceAs (Decidable (_ ∨ _))

/-- The scheme that is active after `applyGamingPowerScheme`. -/
def gamingScheme : Guid :=
  if m.isLaptop then m.activeScheme
  else if ultimatePerformanceGuid ∈ m.installedSchemes then ultimatePerformanceGuid
  else if highPerformanceGuid ∈ m.installedSchemes then highPerformanceGuid
  else m.activeScheme

theorem gamingScheme_mem : m.gamingScheme ∈ m.installedSchemes := by
  unfold gamingScheme
  split_ifs with hl hu hh
  · exact m.active_installed
  · exact hu
  · exact hh
  · exact m.active_installed

/-- Without a gaming scheme the active scheme stays. -/
theorem gamingScheme_of_not_has (h : ¬ m.HasGamingScheme) : m.gamingScheme = m.activeScheme := by
  simp only [HasGamingScheme, not_or] at h
  obtain ⟨hl, hu, hh⟩ := h
  unfold gamingScheme
  rw [if_neg hl, if_neg hu, if_neg hh]

@[simp] theorem activeScheme_activate_gamingScheme :
    (m.activate m.gamingScheme).activeScheme = m.gamingScheme := by
  rw [activeScheme_activate, if_pos m.gamingScheme_mem]

end Machine

/-! ### Undisturbed runs -/

section Faultless

variable {text : Call → String} {w : World}

@[simp] theorem run_isLaptop :
    isLaptop.run (.faultless text) w = .returned w.machine.isLaptop w := by
  unfold isLaptop Machine.isLaptop
  cases h : w.machine.batteryFlag <;> simp [h]

@[simp] theorem run_getActivePowerScheme :
    getActivePowerScheme.run (.faultless text) w = .returned (.ok w.machine.activeScheme) w := by
  simp [getActivePowerScheme]

theorem run_setActivePowerScheme_of_mem {g : Guid} (h : g ∈ w.machine.installedSchemes) :
    (setActivePowerScheme g).run (.faultless text) w =
      .returned (.ok ()) { w with machine := w.machine.activate g } := by
  unfold setActivePowerScheme
  simp [w.machine.setActiveScheme_of_mem h]

theorem run_setActivePowerScheme_of_not_mem (text : Call → String) {g : Guid}
    (h : g ∉ w.machine.installedSchemes) :
    ∃ e, (setActivePowerScheme g).run (.faultless text) w = .returned (.error e) w := by
  unfold setActivePowerScheme
  simp only [Eff.run_bind, run_writeMachine_faultless, w.machine.setActiveScheme_of_not_mem h]
  exact ⟨_, rfl⟩

/-- `applyGamingPowerScheme` activates the gaming scheme and returns the one it found. -/
theorem run_applyGamingPowerScheme (h : w.machine.HasGamingScheme) :
    applyGamingPowerScheme.run (.faultless text) w = .returned (.ok w.machine.activeScheme)
      { w with machine := w.machine.activate w.machine.gamingScheme } := by
  unfold applyGamingPowerScheme Machine.gamingScheme
  simp only [Eff.run_bind, run_getActivePowerScheme, run_isLaptop, Run.bind_returned]
  by_cases hl : w.machine.isLaptop
  · simp [hl]
  by_cases hu : ultimatePerformanceGuid ∈ w.machine.installedSchemes
  · simp [hl, hu, run_setActivePowerScheme_of_mem hu]
  -- the High Performance plan is tried once the first attempt has failed
  have hh : highPerformanceGuid ∈ w.machine.installedSchemes := by
    simpa only [Machine.HasGamingScheme, hl, hu, false_or, Bool.false_eq_true] using h
  obtain ⟨e, he⟩ := run_setActivePowerScheme_of_not_mem text hu
  simp [hl, hu, hh, he, run_setActivePowerScheme_of_mem hh]

theorem run_applyGamingPowerScheme_of_not_has (text : Call → String)
    (h : ¬ w.machine.HasGamingScheme) :
    ∃ e, applyGamingPowerScheme.run (.faultless text) w = .returned (.error e) w := by
  simp only [Machine.HasGamingScheme, not_or] at h
  obtain ⟨hl, hu, hh⟩ := h
  obtain ⟨e, he⟩ := run_setActivePowerScheme_of_not_mem text hu
  obtain ⟨e', he'⟩ := run_setActivePowerScheme_of_not_mem text hh
  refine ⟨e', ?_⟩
  unfold applyGamingPowerScheme
  simp [hl, he, he']

/-- `restorePowerScheme` as the rollbacks use it, which ignore its result. -/
theorem run_restorePowerScheme (text : Call → String) (w : World) (g : Guid) :
    ∃ r : Except String Unit,
    (restorePowerScheme g).run (.faultless text) w =
      .returned r { w with machine := w.machine.activate g } := by
  unfold restorePowerScheme
  by_cases h : g ∈ w.machine.installedSchemes
  · exact ⟨_, run_setActivePowerScheme_of_mem h⟩
  · obtain ⟨e, he⟩ := run_setActivePowerScheme_of_not_mem text h
    rw [he, w.machine.activate_of_not_mem h]
    exact ⟨_, rfl⟩

end Faultless

/-! ### Runs that are cut short -/

section Disturbed

variable {env : Env Call} {w : World} {C : World → Prop}

theorem follows_setActivePowerScheme (hfree : env.ErrorFree) (g : Guid)
    (hC : env.DiesIn (.setActiveScheme g) → C w) :
    Eff.Follows env (setActivePowerScheme g) w C := by
  unfold setActivePowerScheme
  refine Eff.Follows.bind (follows_writeMachine hfree hC) ?_
  intro r w' _
  cases r <;> exact Eff.follows_pure _

/-- An `applyGamingPowerScheme` that is cut short has changed nothing. -/
theorem follows_applyGamingPowerScheme (hfree : env.ErrorFree)
    (hread : ∀ c ∈ [Call.getActiveScheme, .getSystemPowerStatus], env.DiesIn c → C w)
    (hset : ∀ g, env.DiesIn (.setActiveScheme g) → C w) :
    Eff.Follows env applyGamingPowerScheme w C := by
  unfold applyGamingPowerScheme
  have hget : Eff.Follows env getActivePowerScheme w C := by
    unfold getActivePowerScheme
    refine Eff.Follows.bind (follows_readMachine hfree (hread _ (by simp))) ?_
    intro r _ _
    cases r <;> exact Eff.follows_pure _
  refine Eff.Follows.bind hget ?_
  intro r w₁ h
  rw [run_getActivePowerScheme] at h
  cases h
  have hlaptop : Eff.Follows env isLaptop w C := by
    unfold isLaptop
    refine Eff.Follows.bind (follows_readMachine hfree (hread _ (by simp))) ?_
    intro r _ _
    cases r <;> exact Eff.follows_pure _
  refine Eff.Follows.bind hlaptop ?_
  intro l w₂ h
  rw [run_isLaptop] at h
  cases h
  by_cases hl : w.machine.isLaptop
  · rw [if_pos hl]
    exact Eff.follows_pure _
  rw [if_neg hl]
  refine Eff.Follows.bind (follows_setActivePowerScheme hfree _ (hset _)) ?_
  rintro (e | ⟨⟩) w₃ h
  · -- the first plan was refused, so the machine is still the same
    have hw : w₃ = w := by
      by_cases hu : ultimatePerformanceGuid ∈ w.machine.installedSchemes
      · rw [run_setActivePowerScheme_of_mem hu] at h
        cases h
      · obtain ⟨e', he⟩ := run_setActivePowerScheme_of_not_mem env.errorText hu
        rw [he] at h
        cases h
        rfl
    rw [hw]
    refine Eff.Follows.bind (follows_setActivePowerScheme hfree _ (hset _)) ?_
    intro r _ _
    cases r <;> exact Eff.follows_pure _
  · exact Eff.follows_pure _

end Disturbed

end ValOpt
