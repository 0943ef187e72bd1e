import ValOpt.Optimizations.Coordinator
import ValOpt.Optimizations.Equiv.Guid
import ValOpt.Optimizations.Equiv.Settings
import ValOpt.System.Desktop

/-!
# What the coordinator does

Undisturbed, `applyOptimizations` takes a machine `m` to `m.optimized` and stores `m.transaction`
(`run_applyOptimizations`); `rollback` takes it to `m.rolledBack tx` and removes the stored record
(`run_rollback`).  The record of a machine gives its settings back on the optimized machine
(`settings_rolledBack_optimized`), and optimizing twice is optimizing once (`optimized_optimized`).
-/

namespace ValOpt

open Effect

namespace Machine

variable (m : Machine)

/-- The machine after `applyOptimizations`. -/
def optimized : Machine := ((m.withGameMode true).activate m.gamingScheme).disableFx m.endpoints

/-- The transaction that `applyOptimizations` stores. -/
def transaction (now : Ambient) : OptimizationTransaction :=
  { newTransaction now with
    previousGameMode := some m.gameMode
    previousPowerScheme := if m.HasGamingScheme then some (guidToString m.activeScheme) else none
    previousAudioEndpoints := m.endpoints.map m.audioBackup
    isApplied := true }

/-- A recorded power scheme is activated, if its text is a GUID. -/
def withPowerRecord (scheme : Option String) : Machine :=
  match scheme.bind fun s => (stringToGuid s).toOption with
  | some g => m.activate g
  | none => m

/-- A recorded Game Mode state is written back. -/
def withGameModeRecord (mode : Option Bool) : Machine :=
  match mode with
  | some b => m.withGameMode b
  | none => m

/-- The machine after the rollback of a transaction without network settings. -/
def rolledBack (tx : OptimizationTransaction) : Machine :=
  ((m.restoreFx tx.previousAudioEndpoints).withPowerRecord
    tx.previousPowerScheme).withGameModeRecord tx.previousGameMode

/-! ### The optimized machine -/

@[simp] theorem gameMode_optimized : m.optimized.gameMode = true := rfl

@[simp] theorem endpoints_optimized : m.optimized.endpoints = m.endpoints := rfl

@[simp] theorem installedSchemes_optimized :
    m.optimized.installedSchemes = m.installedSchemes := rfl

@[simp] theorem activeScheme_optimized : m.optimized.activeScheme = m.gamingScheme :=
  m.activeScheme_activate_gamingScheme

theorem sysFx_optimized {id : String} (h : id ∈ m.endpoints) :
    m.optimized.sysFx id = some 1 := by
  unfold optimized
  rw [sysFx_disableFx, if_pos h]

theorem fxProperties_optimized {id : String} (h : id ∈ m.endpoints) :
    m.optimized.fxProperties id = some (some 1) := by
  unfold optimized disableFx
  simp only [if_pos h]

/-- The gaming scheme of a machine on which it is active. -/
theorem gamingScheme_of_active {m' : Machine} (hbattery : m'.batteryFlag = m.batteryFlag)
    (hschemes : m'.installedSchemes = m.installedSchemes)
    (hactive : m'.activeScheme = m.gamingScheme) : m'.gamingScheme = m.gamingScheme := by
  have hlaptop : m'.isLaptop = m.isLaptop := by
    unfold isLaptop
    rw [hbattery]
  unfold gamingScheme at hactive ⊢
  rw [hlaptop, hschemes, hactive]
  split_ifs <;> rfl

theorem gamingScheme_optimized : m.optimized.gamingScheme = m.gamingScheme :=
  m.gamingScheme_of_active rfl rfl m.activeScheme_optimized

/-- Optimizing an optimized machine changes nothing. -/
theorem optimized_optimized : m.optimized.optimized = m.optimized := by
  have hscheme : m.optimized.activate m.optimized.gamingScheme = m.optimized := by
    rw [gamingScheme_optimized, ← activeScheme_optimized, activate_activeScheme]
  have hgame : (m.optimized.withGameMode true).activate m.optimized.gamingScheme =
      m.optimized.activate m.optimized.gamingScheme := rfl
  have hfx : m.optimized.disableFx m.endpoints = m.optimized := by
    have h : (fun id => if id ∈ m.endpoints then some (some 1) else m.optimized.fxProperties id) =
        m.optimized.fxProperties := by
      funext id
      by_cases hid : id ∈ m.endpoints
      · rw [if_pos hid, fxProperties_optimized m hid]
      · rw [if_neg hid]
    unfold disableFx
    rw [h]
  rw [optimized, hgame, hscheme, endpoints_optimized, hfx]

/-- The settings an apply starts from are those it leads to. -/
def IsOptimized : Prop := m.optimized.settings = m.settings

instance : Decidable m.IsOptimized := inferInstanceAs (Decidable (_ = _))

theorem isOptimized_iff : m.IsOptimized ↔ m.gameMode = true ∧ m.gamingScheme = m.activeScheme ∧
    ∀ id ∈ m.endpoints, m.sysFx id = some 1 := by
  unfold IsOptimized
  rw [settings_eq_iff (endpoints_optimized m), gameMode_optimized, activeScheme_optimized]
  constructor
  · rintro ⟨hg, hs, hfx⟩
    exact ⟨hg.symm, hs, fun id hid => by rw [← hfx id hid, sysFx_optimized m hid]⟩
  · rintro ⟨hg, hs, hfx⟩
    exact ⟨hg.symm, hs, fun id hid => by rw [hfx id hid, sysFx_optimized m hid]⟩

theorem not_isOptimized_desktop : ¬ desktop.IsOptimized := by
  rw [isOptimized_iff]
  rintro ⟨-, -, hfx⟩
  cases hfx speakerId List.mem_cons_self

/-! ### The rolled-back machine -/

section RolledBack

variable (now : Ambient)

theorem recordedFx_transaction {id : String} (h : id ∈ m.endpoints) :
    recordedFx id (m.transaction now).previousAudioEndpoints = some (m.sysFx id) := by
  have hmap := recordedFx_map m.audioBackup (fun _ => rfl) id m.endpoints
  rw [if_pos h] at hmap
  exact hmap

@[simp] theorem endpoints_rolledBack (tx : OptimizationTransaction) :
    (m.rolledBack tx).endpoints = m.endpoints := by
  unfold rolledBack withGameModeRecord withPowerRecord
  split <;> split <;> rfl

theorem sysFx_rolledBack (tx : OptimizationTransaction) (id : String) :
    (m.rolledBack tx).sysFx id = (m.restoreFx tx.previousAudioEndpoints).sysFx id := by
  unfold rolledBack withGameModeRecord withPowerRecord
  split <;> split <;> rfl

theorem withPowerRecord_transaction (m' : Machine) :
    m'.withPowerRecord (m.transaction now).previousPowerScheme =
      if m.HasGamingScheme then m'.activate m.activeScheme else m' := by
  unfold withPowerRecord transaction
  by_cases h : m.HasGamingScheme
  · simp only [if_pos h, Option.bind_some, stringToGuid_guidToString]
    rfl
  · simp only [if_neg h, Option.bind_none]

/-- The record of a machine gives its settings back to every machine with the same endpoints and
schemes whose endpoints have their keys. -/
theorem settings_rolledBack_transaction {m' : Machine} (hends : m'.endpoints = m.endpoints)
    (hschemes : m'.installedSchemes = m.installedSchemes)
    (hscheme : ¬ m.HasGamingScheme → m'.activeScheme = m.activeScheme)
    (hkeys : ∀ id ∈ m.endpoints, (m'.fxProperties id).isSome) :
    (m'.rolledBack (m.transaction now)).settings = m.settings := by
  rw [settings_eq_iff (by rw [endpoints_rolledBack, hends])]
  refine ⟨?_, ?_, ?_⟩
  · exact gameMode_withGameMode _ _
  · unfold rolledBack
    rw [withPowerRecord_transaction]
    by_cases h : m.HasGamingScheme
    · rw [if_pos h]
      have hmem : m.activeScheme ∈ m'.installedSchemes := hschemes ▸ m.active_installed
      exact if_pos hmem
    · rw [if_neg h]
      exact hscheme h
  · intro id hid
    rw [sysFx_rolledBack, sysFx_restoreFx, if_pos (hkeys id hid), recordedFx_transaction m now hid]
    rfl

/-- The record of a machine gives its settings back to the optimized machine. -/
theorem settings_rolledBack_optimized :
    (m.optimized.rolledBack (m.transaction now)).settings = m.settings := by
  refine settings_rolledBack_transaction m now rfl rfl ?_ ?_
  · intro h
    rw [activeScheme_optimized, gamingScheme_of_not_has m h]
  · intro id hid
    rw [fxProperties_optimized m hid]
    rfl

end RolledBack

end Machine

/-! ### Undisturbed runs -/

section Faultless

variable {P : Platform} {text : Call → String} {w : World}

theorem run_applyPowerStep (tx : OptimizationTransaction) (h : tx.previousPowerScheme = none) :
    (applyPowerStep tx).run (.faultless text) w =
      .returned { tx with previousPowerScheme :=
          if w.machine.HasGamingScheme then some (guidToString w.machine.activeScheme) else none }
        { w with machine := w.machine.activate w.machine.gamingScheme } := by
  unfold applyPowerStep
  by_cases hs : w.machine.HasGamingScheme
  · simp only [Eff.run_bind, run_applyGamingPowerScheme hs, Run.bind_returned, Eff.run_pure,
      if_pos hs]
  · obtain ⟨e, he⟩ := run_applyGamingPowerScheme_of_not_has text hs
    simp only [Eff.run_bind, he, Run.bind_returned, Eff.run_pure, if_neg hs,
      w.machine.gamingScheme_of_not_has hs, Machine.activate_activeScheme, ← h]

@[simp] theorem run_applyAudioStep (tx : OptimizationTransaction) :
    (applyAudioStep tx).run (.faultless text) w =
      .returned { tx with
          previousAudioEndpoints := w.machine.endpoints.map w.machine.audioBackup }
        { w with machine := w.machine.disableFx w.machine.endpoints } := by
  simp [applyAudioStep]

@[simp] theorem run_persistTransaction (tx : OptimizationTransaction) :
    (persistTransaction P tx).run (.faultless text) w =
      .returned { tx with isApplied := true }
        (w.writeFile w.transactionPath
          (P.transaction.toStringPretty { tx with isApplied := true })) := by
  simp [persistTransaction]

/-- The world after an undisturbed `applyOptimizations`. -/
def World.applied (P : Platform) (w : World) (now : Ambient) : World :=
  { w with machine := w.machine.optimized }.writeFile w.transactionPath
    (P.transaction.toStringPretty (w.machine.transaction now))

/-- `applyOptimizations` optimizes the machine and stores its transaction. -/
theorem run_applyOptimizations (now : Ambient) :
    (applyOptimizations P now).run (.faultless text) w =
      .returned (.ok (w.machine.transaction now)) (w.applied P now) := by
  unfold applyOptimizations
  simp only [Eff.run_bind, run_setGameMode, Run.bind_returned, run_applyAudioStep,
    run_applyPowerStep (w := { w with machine := w.machine.withGameMode true })
      { newTransaction now with previousGameMode := some w.machine.gameMode } rfl,
    run_persistTransaction, Eff.run_pure]
  rfl

@[simp] theorem run_rollbackAudioStep (backups : List AudioEndpointBackup) :
    (rollbackAudioStep backups).run (.faultless text) w =
      .returned () { w with machine := w.machine.restoreFx backups } := by
  unfold rollbackAudioStep
  cases backups <;> simp

@[simp] theorem run_rollbackPowerStep (scheme : Option String) :
    (rollbackPowerStep scheme).run (.faultless text) w =
      .returned () { w with machine := w.machine.withPowerRecord scheme } := by
  unfold rollbackPowerStep Machine.withPowerRecord
  cases scheme with
  | none => rfl
  | some s =>
    cases hg : stringToGuid s with
    | error e => simp [hg, Except.toOption]
    | ok g =>
      obtain ⟨r, hr⟩ := run_restorePowerScheme text w g
      simp [hg, hr, Except.toOption]

@[simp] theorem run_rollbackGameModeStep (mode : Option Bool) :
    (rollbackGameModeStep mode).run (.faultless text) w =
      .returned () { w with machine := w.machine.withGameModeRecord mode } := by
  unfold rollbackGameModeStep Machine.withGameModeRecord
  cases mode <;> simp

theorem run_rollbackSettings {tx : OptimizationTransaction} (hq : tx.previousQosPolicy = none)
    (ha : tx.previousAdapterProperties = []) :
    (rollbackSettings tx).run (.faultless text) w =
      .returned () { w with machine := w.machine.rolledBack tx } := by
  unfold rollbackSettings
  rw [hq, ha]
  simp [rollbackQosStep, rollbackAdapterStep, Machine.rolledBack]

@[simp] theorem run_removeRecord :
    removeRecord.run (.faultless text) w = .returned () (w.removeFile w.transactionPath) := by
  unfold removeRecord
  cases h : w.files w.transactionPath with
  | none => simp [h, w.removeFile_of_none h]
  | some b => simp [h]

/-- The world after an undisturbed `rollback`. -/
def World.rolledBack (w : World) (tx : OptimizationTransaction) : World :=
  { w with machine := w.machine.rolledBack tx }.removeFile w.transactionPath

/-- `rollback` writes the transaction back and removes the stored record. -/
theorem run_rollback {tx : OptimizationTransaction} (hq : tx.previousQosPolicy = none)
    (ha : tx.previousAdapterProperties = []) :
    (rollback tx).run (.faultless text) w = .returned (.ok ()) (w.rolledBack tx) := by
  unfold rollback
  simp only [Eff.run_bind, run_rollbackSettings hq ha, Run.bind_returned, run_removeRecord,
    Eff.run_pure]
  rfl

/-- Without a record `recoverOrphanedTransaction` does nothing. -/
theorem run_recoverOrphanedTransaction_of_none {env : Env Call}
    (h : w.files w.transactionPath = none) :
    (recoverOrphanedTransaction P).run env w = .returned (.ok false) w := by
  simp [recoverOrphanedTransaction, h]

/-- A record that does not read as a transaction is an error, and stays. -/
theorem run_recoverOrphanedTransaction_of_error {b : Bytes} {e : ReadError}
    (h : w.files w.transactionPath = some b) (hread : P.transaction.fromStr b = .error e) :
    (recoverOrphanedTransaction P).run (.faultless text) w = .returned (.error e.text) w := by
  simp [recoverOrphanedTransaction, h, hread]

/-- A stored transaction is rolled back. -/
theorem run_recoverOrphanedTransaction {b : Bytes} {tx : OptimizationTransaction}
    (h : w.files w.transactionPath = some b) (hread : P.transaction.fromStr b = .ok tx)
    (hq : tx.previousQosPolicy = none) (ha : tx.previousAdapterProperties = []) :
    (recoverOrphanedTransaction P).run (.faultless text) w =
      .returned (.ok true) (w.rolledBack tx) := by
  simp [recoverOrphanedTransaction, h, hread, run_rollback hq ha]

end Faultless

end ValOpt
