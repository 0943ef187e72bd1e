import ValOpt.Optimizations.Equiv.Coordinator

/-!
# Undoing one apply

* A rollback after an apply gives back every setting that is read as a whole, but it writes one
  boolean to both Game Mode values: they are the old ones iff both were 0 or both were 1
  (`apply_rollback_registryValues_iff`).
* An apply that reports an error leaves the settings alone; its clean-up removes the record of an
  earlier apply (`failed_apply_unchanged_iff`).
-/

namespace ValOpt

open Effect

/-! ### Apply, then rollback -/

namespace Machine

variable (m : Machine)

theorem allowAutoGameMode_rolledBack (now : Ambient) (m' : Machine) :
    (m'.rolledBack (m.transaction now)).allowAutoGameMode =
      some (if m.gameMode then 1 else 0) := rfl

theorem autoGameModeEnabled_rolledBack (now : Ambient) (m' : Machine) :
    (m'.rolledBack (m.transaction now)).autoGameModeEnabled =
      some (if m.gameMode then 1 else 0) := rfl

/-- Both values hold the DWORD of the state that is read iff they are both 0 or both 1. -/
theorem gameModeValues_iff :
    (some (if m.gameMode then 1 else 0) = m.allowAutoGameMode ∧
        some (if m.gameMode then 1 else 0) = m.autoGameModeEnabled) ↔
      (m.allowAutoGameMode = some 0 ∧ m.autoGameModeEnabled = some 0) ∨
        (m.allowAutoGameMode = some 1 ∧ m.autoGameModeEnabled = some 1) := by
  have hgame := m.gameMode_eq
  constructor
  · rintro ⟨hallow, hauto⟩
    rw [← hallow, ← hauto]
    cases m.gameMode
    · exact .inl ⟨rfl, rfl⟩
    · exact .inr ⟨rfl, rfl⟩
  · rintro (⟨hallow, hauto⟩ | ⟨hallow, hauto⟩) <;> rw [hallow] at hgame <;>
      rw [hgame, hallow, hauto] <;> exact ⟨rfl, rfl⟩

end Machine

variable {P : Platform} {w : World}

/-- **Apply, then rollback.**  Undisturbed, the power scheme and every `SysFx` value are the old
ones; the two Game Mode values are iff both were 0 or both were 1. -/
theorem apply_rollback_registryValues_iff (P : Platform) (text : Call → String) (w : World)
    (now : Ambient) : ∃ tx w₁ w₂,
      (applyOptimizations P now).run (.faultless text) w = .returned (.ok tx) w₁ ∧
      (rollback tx).run (.faultless text) w₁ = .returned (.ok ()) w₂ ∧
      (w₂.machine.registryValues = w.machine.registryValues ↔
        (w.machine.allowAutoGameMode = some 0 ∧ w.machine.autoGameModeEnabled = some 0) ∨
          (w.machine.allowAutoGameMode = some 1 ∧ w.machine.autoGameModeEnabled = some 1)) := by
  refine ⟨_, _, _, run_applyOptimizations now, run_rollback rfl rfl, ?_⟩
  have hsettings := w.machine.settings_rolledBack_optimized now
  simp only [Machine.settings, Settings.mk.injEq] at hsettings
  obtain ⟨-, hscheme, hfx⟩ := hsettings
  rw [← w.machine.gameModeValues_iff]
  change (w.machine.optimized.rolledBack (w.machine.transaction now)).registryValues = _ ↔ _
  simp only [Machine.registryValues, RegistryValues.mk.injEq, hscheme, hfx, and_true,
    Machine.allowAutoGameMode_rolledBack, Machine.autoGameModeEnabled_rolledBack]

/-- On the desktop one Game Mode value was absent; after the rollback it is there. -/
theorem apply_rollback_writes_absent_value :
    Machine.desktop.autoGameModeEnabled = none ∧
      (rollback (Machine.desktop.transaction default)).run (.faultless errorText)
          (World.desktop.applied .portable default) =
        .returned (.ok ()) ((World.desktop.applied .portable default).rolledBack
          (Machine.desktop.transaction default)) ∧
      ((World.desktop.applied .portable default).rolledBack
        (Machine.desktop.transaction default)).machine.autoGameModeEnabled = some 0 :=
  ⟨rfl, run_rollback rfl rfl, rfl⟩

/-! ### An apply that fails -/

section Failed

variable {env : Env Call} {now : Ambient} {w' : World} {e : String}

/-- The clean-up of a failed apply: its transaction is still empty. -/
theorem run_rollback_newTransaction :
    (rollback (newTransaction now)).run env w =
      (removeRecord.run env w).bind fun _ w' => .returned (.ok ()) w' := by
  simp [rollback, rollbackSettings, newTransaction, rollbackQosStep, rollbackAdapterStep,
    rollbackAudioStep, rollbackPowerStep, rollbackGameModeStep]

/-- The record is gone after the clean-up, unless its removal fails. -/
theorem removeRecord_returned (h : removeRecord.run env w = .returned () w') :
    w'.machine = w.machine ∧ (w'.files w.transactionPath = w.files w.transactionPath ↔
      w.files w.transactionPath = none ∨ env.outcome .removeTransaction ≠ .ok) := by
  unfold removeRecord at h
  simp only [Eff.run_bind, run_getWorld, Run.bind_returned, run_fileExists] at h
  cases hfile : w.files w.transactionPath with
  | none =>
    simp only [hfile, Option.isSome_none, Bool.false_eq_true, if_false, Eff.run_pure,
      Run.returned.injEq, true_and] at h
    rw [← h, hfile]
    exact ⟨rfl, by simp⟩
  | some b =>
    simp only [hfile, Option.isSome_some, if_true, Eff.run_bind] at h
    cases ho : env.outcome .removeTransaction with
    | ok =>
      rw [run_removeFile ho (by simp [hfile])] at h
      cases h
      exact ⟨rfl, by simp⟩
    | fail k =>
      rw [removeFile, run_perform_fail ho] at h
      cases h
      exact ⟨rfl, by simp [hfile]⟩
    | crash k =>
      rw [removeFile, run_perform_crash ho] at h
      cases h

/-- Only the Game Mode step of an apply reports an error. -/
theorem applyOptimizations_error
    (h : (applyOptimizations P now).run env w = .returned (.error e) w') :
    ∃ e₁ w₁, (setGameMode true).run env w = .returned (.error e₁) w₁ ∧
      removeRecord.run env w₁ = .returned () w' := by
  unfold applyOptimizations at h
  rw [Eff.run_bind] at h
  cases hgame : (setGameMode true).run env w with
  | crashed w₁ =>
    rw [hgame] at h
    cases h
  | returned r w₁ =>
    rw [hgame, Run.bind_returned] at h
    cases r with
    | error e₁ =>
      refine ⟨e₁, w₁, rfl, ?_⟩
      simp only [Eff.run_bind, run_rollback_newTransaction] at h
      cases hremove : removeRecord.run env w₁ with
      | crashed w₂ =>
        rw [hremove] at h
        cases h
      | returned u w₂ =>
        rw [hremove] at h
        cases h
        rfl
    | ok prev =>
      -- the later steps have no error of their own
      simp only [Eff.run_bind, Eff.run_pure] at h
      generalize (applyPowerStep _).run env w₁ = power at h
      cases power with
      | crashed w₂ => cases h
      | returned tx w₂ =>
        rw [Run.bind_returned] at h
        generalize (applyAudioStep tx).run env w₂ = audio at h
        cases audio with
        | crashed w₃ => cases h
        | returned tx w₃ =>
          rw [Run.bind_returned] at h
          generalize (persistTransaction P tx).run env w₃ = persist at h
          cases persist with
          | crashed w₄ => cases h
          | returned tx w₄ => cases h

/-- **A failed apply.**  Where an apply reports an error, the settings and the stored record are
the old ones iff there was no record, or its removal failed too. -/
theorem failed_apply_unchanged_iff
    (h : (applyOptimizations P now).run env w = .returned (.error e) w') :
    (w'.machine.registryValues = w.machine.registryValues ∧
        w'.files w.transactionPath = w.files w.transactionPath) ↔
      w.files w.transactionPath = none ∨ env.outcome .removeTransaction ≠ .ok := by
  obtain ⟨e₁, w₁, hgame, hremove⟩ := applyOptimizations_error h
  obtain ⟨hmachine, hfile⟩ := removeRecord_returned hremove
  have hw₁ : w₁.machine.registryValues = w.machine.registryValues ∧ w₁.files = w.files ∧
      w₁.transactionPath = w.transactionPath := by
    rcases setGameMode_error hgame with rfl | rfl
    · exact ⟨rfl, rfl, rfl⟩
    · refine ⟨?_, rfl, rfl⟩
      unfold Machine.registryValues
      rw [Machine.allowAutoGameMode_createGameBar, Machine.autoGameModeEnabled_createGameBar]
      rfl
  obtain ⟨hvalues, hfiles, hpath⟩ := hw₁
  rw [hmachine, hvalues, ← hfiles, ← hpath, hfile]
  simp

/-- An environment in which the `GameBar` key cannot be opened for writing. -/
def deniesGameBar : Env Call := ⟨fun c => if c = .createGameBar then .fail 0 else .ok, errorText⟩

/-- Without an earlier record, an apply that fails leaves no trace on the desktop. -/
theorem failed_apply_unchanged_desktop : ∃ e w',
    (applyOptimizations .portable default).run deniesGameBar .desktop = .returned (.error e) w' ∧
      w'.machine.registryValues = Machine.desktop.registryValues ∧
      w'.files World.desktop.transactionPath = none := by
  have h : ∃ e, (applyOptimizations .portable default).run deniesGameBar .desktop =
      .returned (.error e) .desktop := ⟨_, rfl⟩
  obtain ⟨e, h⟩ := h
  exact ⟨e, _, h, (failed_apply_unchanged_iff h).mpr (.inl rfl)⟩

/-- After one apply, a second one that fails takes the record of the first away. -/
theorem failed_apply_removes_record : ∃ e w',
    (applyOptimizations .portable default).run deniesGameBar
        (World.desktop.applied .portable default) = .returned (.error e) w' ∧
      ((World.desktop.applied .portable default).files World.desktop.transactionPath).isSome ∧
      w'.files World.desktop.transactionPath = none :=
  ⟨_, (World.desktop.applied .portable default).removeFile World.desktop.transactionPath, rfl, rfl,
    rfl⟩

end Failed

end ValOpt
