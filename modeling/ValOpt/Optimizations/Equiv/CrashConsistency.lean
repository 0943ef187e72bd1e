import ValOpt.Optimizations.Equiv.Coordinator

/-!
# Crashes during an apply

`applyOptimizations` stores its record after it has changed the settings.  When it dies inside a
call, the settings written before that call have their new values (`follows_applyOptimizations`),
and there is no record to undo them unless the last write was complete.  So a later recovery gives
the old settings back iff the record was complete, or what had been written was there before
(`crash_recover_settings_iff`).
-/

namespace ValOpt

open Effect

/-! ### What was written before a call -/

/-- The Game Mode state is written before this call of an apply. -/
def Call.afterGameMode : Call → Bool
  | .openGameBar | .queryAllowAutoGameMode | .createGameBar | .setAllowAutoGameMode => false
  | _ => true

/-- The power scheme is changed before this call of an apply. -/
def Call.afterPowerScheme : Call → Bool
  | .openGameBar | .queryAllowAutoGameMode | .createGameBar | .setAllowAutoGameMode
  | .setAutoGameModeEnabled | .getActiveScheme | .getSystemPowerStatus | .setActiveScheme _ => false
  | _ => true

namespace Machine

variable (m : Machine)

/-- The endpoints whose value is written before this call of an apply. -/
def writtenBefore : Call → List String
  | .createFxProperties id | .queryOriginalFx id | .setFx id => m.endpoints.takeWhile (· ≠ id)
  | .writeTransaction => m.endpoints
  | _ => []

/-- What an apply writes before the call `c` has been there all along. -/
structure AlreadySet (c : Call) : Prop where
  gameMode : c.afterGameMode → m.gameMode = true
  powerScheme : c.afterPowerScheme → m.gamingScheme = m.activeScheme
  sysFx : ∀ id ∈ m.writtenBefore c, m.sysFx id = some 1

/-- The settings `m'` that an apply from `m` has reached at the call `c`. -/
structure CutShort (c : Call) (m' : Machine) : Prop where
  endpoints : m'.endpoints = m.endpoints
  installedSchemes : m'.installedSchemes = m.installedSchemes
  batteryFlag : m'.batteryFlag = m.batteryFlag
  gameMode : m'.gameMode = if c.afterGameMode then true else m.gameMode
  powerScheme : m'.activeScheme = if c.afterPowerScheme then m.gamingScheme else m.activeScheme
  sysFx : ∀ id ∈ m.endpoints, m'.sysFx id = if id ∈ m.writtenBefore c then some 1 else m.sysFx id

variable {m} {m' : Machine} {c : Call}

theorem mem_endpoints_of_writtenBefore {id : String} (h : id ∈ m.writtenBefore c) :
    id ∈ m.endpoints := by
  unfold writtenBefore at h
  split at h
  · exact (List.takeWhile_sublist _).subset h
  · exact (List.takeWhile_sublist _).subset h
  · exact (List.takeWhile_sublist _).subset h
  · exact h
  · cases h

/-- The settings at the call are the old ones iff what was written was there before. -/
theorem CutShort.settings_iff (h : m.CutShort c m') :
    m'.settings = m.settings ↔ m.AlreadySet c := by
  rw [settings_eq_iff h.endpoints, h.gameMode, h.powerScheme]
  constructor
  · rintro ⟨hgame, hpower, hfx⟩
    refine ⟨?_, ?_, ?_⟩
    · intro hc
      rw [if_pos hc] at hgame
      exact hgame.symm
    · intro hc
      rw [if_pos hc] at hpower
      exact hpower
    · intro id hid
      have hmem := mem_endpoints_of_writtenBefore hid
      rw [← hfx id hmem, h.sysFx id hmem, if_pos hid]
  · rintro ⟨hgame, hpower, hfx⟩
    refine ⟨?_, ?_, ?_⟩
    · by_cases hc : c.afterGameMode
      · rw [if_pos hc, hgame hc]
      · rw [if_neg hc]
    · by_cases hc : c.afterPowerScheme
      · rw [if_pos hc, hpower hc]
      · rw [if_neg hc]
    · intro id hid
      rw [h.sysFx id hid]
      by_cases hw : id ∈ m.writtenBefore c
      · rw [if_pos hw, hfx id hw]
      · rw [if_neg hw]

/-! The states at the calls of an apply. -/

theorem cutShort_before {c : Call}
    (hc : c ∈ [Call.openGameBar, .queryAllowAutoGameMode, .createGameBar]) : m.CutShort c m := by
  simp only [List.mem_cons, List.not_mem_nil, or_false] at hc
  rcases hc with rfl | rfl | rfl <;> exact ⟨rfl, rfl, rfl, rfl, rfl, fun _ _ => rfl⟩

theorem cutShort_createGameBar : m.CutShort .setAllowAutoGameMode m.createGameBar :=
  ⟨rfl, rfl, rfl, m.gameMode_createGameBar, rfl, fun _ _ => rfl⟩

theorem cutShort_halfGameMode : m.CutShort .setAutoGameModeEnabled (m.halfGameMode true) :=
  ⟨rfl, rfl, rfl, rfl, rfl, fun _ _ => rfl⟩

theorem cutShort_power {c : Call} (hc : c = .getActiveScheme ∨ c = .getSystemPowerStatus ∨
    ∃ g, c = .setActiveScheme g) : m.CutShort c (m.withGameMode true) := by
  rcases hc with rfl | rfl | ⟨g, rfl⟩ <;> exact ⟨rfl, rfl, rfl, rfl, rfl, fun _ _ => rfl⟩

theorem cutShort_enumerate {c : Call} (hc : c = .openRender ∨ (∃ i, c = .enumRender i) ∨
    ∃ id, c ∈ detailCalls id) :
    m.CutShort c ((m.withGameMode true).activate m.gamingScheme) := by
  have hscheme : ((m.withGameMode true).activate m.gamingScheme).activeScheme = m.gamingScheme :=
    if_pos m.gamingScheme_mem
  simp only [detailCalls, List.mem_cons, List.not_mem_nil, or_false] at hc
  rcases hc with rfl | ⟨i, rfl⟩ | ⟨id, rfl | rfl | rfl | rfl⟩ <;>
    exact ⟨rfl, rfl, rfl, rfl, hscheme, fun _ _ => rfl⟩

theorem cutShort_change {c : Call} {done todo : List String} {id : String}
    (hids : m.endpoints = done ++ id :: todo) (hc : c ∈ changeCalls id)
    (hends : m'.endpoints = m.endpoints) (hschemes : m'.installedSchemes = m.installedSchemes)
    (hbattery : m'.batteryFlag = m.batteryFlag) (hgame : m'.gameMode = true)
    (hpower : m'.activeScheme = m.gamingScheme)
    (hfx : ∀ id', m'.sysFx id' = if id' ∈ done then some 1 else m.sysFx id') :
    m.CutShort c m' := by
  have hdone : m.endpoints.takeWhile (· ≠ id) = done := by
    have hnodup := m.endpoints_nodup
    rw [hids, List.nodup_append] at hnodup
    rw [hids, List.takeWhile_append_of_pos]
    · simp
    · intro id' hid'
      simpa using hnodup.2.2 id' hid' id List.mem_cons_self
  simp only [changeCalls, List.mem_cons, List.not_mem_nil, or_false] at hc
  rcases hc with rfl | rfl | rfl
  all_goals
    refine ⟨hends, hschemes, hbattery, hgame, hpower, ?_⟩
    intro id' _
    rw [hfx id', writtenBefore, hdone]

theorem cutShort_optimized : m.CutShort .writeTransaction m.optimized := by
  refine ⟨rfl, rfl, rfl, rfl, m.activeScheme_optimized, ?_⟩
  intro id hid
  rw [m.sysFx_optimized hid, writtenBefore, if_pos hid]

end Machine

/-! ### Applies that are cut short -/

section Disturbed

variable {P : Platform} {env : Env Call} {w : World} {C : World → Prop}

theorem follows_applyPowerStep (hfree : env.ErrorFree) (tx : OptimizationTransaction)
    (hread : ∀ c ∈ [Call.getActiveScheme, .getSystemPowerStatus], env.DiesIn c → C w)
    (hset : ∀ g, env.DiesIn (.setActiveScheme g) → C w) :
    Eff.Follows env (applyPowerStep tx) w C := by
  unfold applyPowerStep
  refine Eff.Follows.bind (follows_applyGamingPowerScheme hfree hread hset) ?_
  intro r _ _
  cases r <;> exact Eff.follows_pure _

theorem follows_applyAudioStep (tx : OptimizationTransaction)
    (h : Eff.Follows env disableAudioEnhancements w C) :
    Eff.Follows env (applyAudioStep tx) w C := by
  unfold applyAudioStep
  refine Eff.Follows.bind h ?_
  intro r _ _
  cases r <;> exact Eff.follows_pure _

/-- A write of the record that is cut short leaves the file alone, or a first part of it. -/
theorem follows_persistTransaction (hfree : env.ErrorFree) (tx : OptimizationTransaction)
    (hwrite : env.outcome .writeTransaction = .crash 0 → C w)
    (htorn : ∀ n, env.outcome .writeTransaction = .crash (n + 1) →
      C (w.writeFile w.transactionPath
        ((P.transaction.toStringPretty { tx with isApplied := true }).take n))) :
    Eff.Follows env (persistTransaction P tx) w C := by
  unfold persistTransaction
  refine Eff.Follows.bind follows_getWorld ?_
  intro w₁ w₂ h
  cases h
  refine Eff.Follows.bind (Eff.follows_perform hfree ?_) ?_
  · intro k hk
    cases k with
    | zero => exact hwrite hk
    | succ n => exact htorn n hk
  intro _ _ _
  exact Eff.follows_pure _

/-- An apply that is cut short leaves the settings it had reached; only inside its last call does
it touch a file. -/
theorem follows_applyOptimizations (hfree : env.ErrorFree) (now : Ambient)
    (hset : ∀ c m, env.DiesIn c → c ≠ .writeTransaction → w.machine.CutShort c m →
      C { w with machine := m })
    (hwrite : env.outcome .writeTransaction = .crash 0 →
      C { w with machine := w.machine.optimized })
    (htorn : ∀ n, env.outcome .writeTransaction = .crash (n + 1) →
      C ({ w with machine := w.machine.optimized }.writeFile w.transactionPath
        ((P.transaction.toStringPretty (w.machine.transaction now)).take n))) :
    Eff.Follows env (applyOptimizations P now) w C := by
  unfold applyOptimizations
  -- step 1: Game Mode
  refine Eff.Follows.bind (follows_setGameMode hfree true ?_ ?_ ?_) ?_
  · intro c hc hdies
    exact hset c w.machine hdies (by rintro rfl; simp at hc) (Machine.cutShort_before hc)
  · intro hdies
    exact hset _ _ hdies (by rintro ⟨⟩) Machine.cutShort_createGameBar
  · intro hdies
    exact hset _ _ hdies (by rintro ⟨⟩) Machine.cutShort_halfGameMode
  intro r w₁ h
  rw [run_setGameMode] at h
  cases h
  -- step 2: the power scheme
  refine Eff.Follows.bind (follows_applyPowerStep hfree _ ?_ ?_) ?_
  · intro c hc hdies
    simp only [List.mem_cons, List.not_mem_nil, or_false] at hc
    refine hset c _ hdies (by rcases hc with rfl | rfl <;> simp) (Machine.cutShort_power ?_)
    rcases hc with rfl | rfl
    · exact .inl rfl
    · exact .inr (.inl rfl)
  · intro g hdies
    exact hset _ _ hdies (by rintro ⟨⟩) (Machine.cutShort_power (.inr (.inr ⟨g, rfl⟩)))
  intro tx w₂ h
  rw [run_applyPowerStep _ rfl] at h
  cases h
  -- step 3: the audio endpoints
  refine Eff.Follows.bind (follows_applyAudioStep _
    (follows_disableAudioEnhancements hfree ?_ ?_ ?_ ?_)) ?_
  · intro hdies
    exact hset _ _ hdies (by rintro ⟨⟩) (Machine.cutShort_enumerate (.inl rfl))
  · intro i hdies
    exact hset _ _ hdies (by rintro ⟨⟩) (Machine.cutShort_enumerate (.inr (.inl ⟨i, rfl⟩)))
  · intro id _ c hc hdies
    refine hset c _ hdies ?_ (Machine.cutShort_enumerate (.inr (.inr ⟨id, hc⟩)))
    rintro rfl
    simp [detailCalls] at hc
  · intro done id todo hids c hc hdies m hm
    have hscheme : ((w.machine.withGameMode true).activate w.machine.gamingScheme).activeScheme =
        w.machine.gamingScheme := if_pos w.machine.gamingScheme_mem
    refine hset c m hdies (by rintro rfl; simp [changeCalls] at hc) ?_
    rcases hm with rfl | rfl
    · exact Machine.cutShort_change hids hc rfl rfl rfl rfl hscheme
        fun id' => Machine.sysFx_disableFx ..
    · refine Machine.cutShort_change hids hc rfl rfl rfl rfl hscheme fun id' => ?_
      -- opening the key of the endpoint keeps its value
      rw [Machine.sysFx_setFxProperties]
      by_cases hid : id' = id
      · rw [if_pos hid, hid]
        exact Machine.sysFx_disableFx ..
      · rw [if_neg hid]
        exact Machine.sysFx_disableFx ..
  intro tx w₃ h
  rw [run_applyAudioStep] at h
  cases h
  -- the record
  refine Eff.Follows.bind (follows_persistTransaction hfree _ hwrite htorn) ?_
  intro _ _ _
  exact Eff.follows_pure _

end Disturbed

/-! ### Recovery after a crash -/

section Recovery

variable {P : Platform} {w w₁ : World} {now : Ambient} {c : Call} {k : ℕ} {text : Call → String}

/-- The process dies inside the write of the record, after all of its bytes. -/
def RecordComplete (P : Platform) (w : World) (now : Ambient) (c : Call) (k : ℕ) : Prop :=
  c = .writeTransaction ∧ (P.transaction.toStringPretty (w.machine.transaction now)).length < k

/-- **Crash consistency of an apply.**  An apply without an earlier record dies inside the call `c`,
after `k` units of it.  Recovery then leaves the old settings iff the record was complete, or every
setting written before `c` already had its new value. -/
theorem crash_recover_settings_iff (hP : P.transaction.Lawful)
    (hnone : w.files w.transactionPath = none)
    (hcrash : (applyOptimizations P now).run (.crashAt c k text) w = .crashed w₁) :
    ((recoverOrphanedTransaction P).run (.faultless text) w₁).state.machine.settings =
        w.machine.settings ↔
      RecordComplete P w now c k ∨ w.machine.AlreadySet c := by
  have hdies : ∀ {c'}, (Env.crashAt c k text).DiesIn c' → c' = c := by
    rintro c' ⟨k', hk'⟩
    by_contra hne
    rw [Env.outcome_crashAt_of_ne hne] at hk'
    cases hk'
  have hoptimized : w.machine.optimized.settings = w.machine.settings ↔
      w.machine.AlreadySet .writeTransaction := Machine.cutShort_optimized.settings_iff
  -- where no file was touched there is nothing to recover from
  have hnothing : ∀ m, ((recoverOrphanedTransaction P).run (.faultless text)
      { w with machine := m }).state.machine.settings = m.settings := by
    intro m
    rw [run_recoverOrphanedTransaction_of_none (w := { w with machine := m }) hnone]
    rfl
  refine Eff.Follows.of_crashed (C := fun w₁ =>
    ((recoverOrphanedTransaction P).run (.faultless text) w₁).state.machine.settings =
        w.machine.settings ↔
      RecordComplete P w now c k ∨ w.machine.AlreadySet c)
    (follows_applyOptimizations Env.errorFree_crashAt now ?_ ?_ ?_) hcrash
  · intro c' m hc hne hm
    obtain rfl := hdies hc
    rw [hnothing, hm.settings_iff]
    have hincomplete : ¬ RecordComplete P w now c' k := fun h => hne h.1
    simp only [hincomplete, false_or]
  · intro hk
    obtain rfl := hdies ⟨0, hk⟩
    rw [Env.outcome_crashAt_self] at hk
    cases hk
    rw [hnothing, hoptimized]
    simp [RecordComplete]
  · intro n hk
    obtain rfl := hdies ⟨n + 1, hk⟩
    rw [Env.outcome_crashAt_self] at hk
    cases hk
    have hfile := World.files_writeFile_self { w with machine := w.machine.optimized }
      w.transactionPath ((P.transaction.toStringPretty (w.machine.transaction now)).take n)
    by_cases hn : n < (P.transaction.toStringPretty (w.machine.transaction now)).length
    · -- a part of the record does not read as one
      have hincomplete : ¬ RecordComplete P w now .writeTransaction (n + 1) := by
        rintro ⟨-, h⟩
        omega
      cases hread : P.transaction.fromStr
          ((P.transaction.toStringPretty (w.machine.transaction now)).take n) with
      | ok tx => exact absurd hread (hP.fromStr_take _ _ hn _)
      | error e =>
        rw [run_recoverOrphanedTransaction_of_error hfile hread, Run.state_returned]
        simp only [hincomplete, false_or]
        exact hoptimized
    · have hcomplete : RecordComplete P w now .writeTransaction (n + 1) := ⟨rfl, by omega⟩
      rw [List.take_of_length_le (by omega)] at hfile ⊢
      rw [run_recoverOrphanedTransaction hfile (hP.fromStr_toStringPretty _) rfl rfl]
      simp only [hcomplete, true_or, iff_true]
      exact w.machine.settings_rolledBack_optimized now

/-- On the desktop the apply dies right after it wrote its record, with the settings changed.  The
next start restores them. -/
theorem crash_recover_settings_desktop : ∃ w : World,
    (applyOptimizations .portable default).run (.crashAt .writeTransaction 415 errorText)
      .desktop = .crashed w ∧
    w.machine.settings ≠ Machine.desktop.settings ∧
    ((recoverOrphanedTransaction .portable).run (.faultless errorText) w).state.machine.settings =
      Machine.desktop.settings := by
  obtain ⟨w, hcrash, hchanged⟩ : ∃ w : World,
      (applyOptimizations .portable default).run (.crashAt .writeTransaction 415 errorText)
        .desktop = .crashed w ∧ w.machine.settings ≠ Machine.desktop.settings := by
    refine ⟨_, rfl, fun h => ?_⟩
    have hgame := congrArg Settings.gameMode h
    cases hgame
  have hlength : (Platform.portable.transaction.toStringPretty
      (Machine.desktop.transaction default)).length < 415 := by decide +kernel
  refine ⟨w, hcrash, hchanged, ?_⟩
  exact (crash_recover_settings_iff lawful_transactionCodec rfl hcrash).mpr (.inl ⟨rfl, hlength⟩)

/-- The desktop with an apply that dies between its two Game Mode values: there is no record of the
old state, and Game Mode stays on. -/
theorem crash_keeps_gameMode : ∃ w₁,
    (applyOptimizations .portable default).run (.crashAt .setAutoGameModeEnabled 0 errorText)
        .desktop = .crashed w₁ ∧
      ((recoverOrphanedTransaction .portable).run
        (.faultless errorText) w₁).state.machine.settings ≠
        Machine.desktop.settings := by
  refine ⟨{ World.desktop with machine := Machine.desktop.halfGameMode true }, rfl, ?_⟩
  rw [run_recoverOrphanedTransaction_of_none rfl]
  intro h
  have hgame := congrArg Settings.gameMode h
  cases hgame

end Recovery

end ValOpt
