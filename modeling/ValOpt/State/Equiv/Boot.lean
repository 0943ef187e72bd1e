import ValOpt.Optimizations.Equiv.CrashConsistency
import ValOpt.State.Equiv.Baseline
import ValOpt.State.Equiv.RecoveryLog
import ValOpt.System.Desktop

/-!
# Recovery at start-up

`applyOptimizations` leaves its record in `active_transaction.json`, but the start-up recovery only
looks at `snapshot.json` (`run_checkAndRecover`).  Whatever a session does after an apply, the
settings stay optimized (`Optimized.later`); so the recovery gives the old ones back iff a snapshot
that happens to be there lists them, or the apply has changed nothing
(`boot_recovery_settings_iff`).
-/

namespace ValOpt

open Effect

/-! ### The start-up recovery -/

/-- The snapshot that the start-up recovery finds. -/
def World.bootSnapshot (P : Platform) (w : World) : Option SystemStateSnapshot :=
  if w.Accepts none w.defaultSnapshotPath then w.snapshotAt P w.defaultSnapshotPath else none

/-- Undisturbed, the start-up recovery does nothing if it finds no snapshot, but for the log.
Otherwise it rolls the one it finds back, and deletes it. -/
theorem run_checkAndRecover_cases (P : Platform) (text : Call → String) (w : World)
    (now : Ambient) :
    (w.bootSnapshot P = none ∧ ∃ r w',
        (checkAndRecover P now none).run (.faultless text) w = .returned r w' ∧ w.Logged w') ∨
      ∃ s, w.bootSnapshot P = some s ∧ w.Accepts none w.defaultSnapshotPath ∧
        ∀ report w', (rollbackSnapshot s).run (.faultless text) w = .returned (.ok report) w' →
          ∃ d w₂ w₃, (deleteSnapshotWithBase (some w.defaultSnapshotPath) none).run
                (.faultless text) w' = .returned d w₂ ∧ w₂.Logged w₃ ∧
            (checkAndRecover P now none).run (.faultless text) w =
              .returned (.ok { report with durationMs := now.elapsedMillis }) w₃ := by
  have hfree : (Env.faultless text).CrashFree := Env.crashFree_faultless text
  unfold checkAndRecover checkAndRecoverWithBase World.bootSnapshot
  simp only [Eff.run_bind, run_getWorld, Run.bind_returned, Option.getD_none]
  by_cases hacc : w.Accepts none w.defaultSnapshotPath
  · rw [if_pos hacc, run_validateSnapshotPath hacc, Run.bind_returned]
    simp only [Eff.run_bind, run_pathExists, Run.bind_returned]
    by_cases hfound : w.pathExists (w.baseDir none) w.defaultSnapshotPath = true
    · simp only [hfound, Bool.not_true, Bool.false_eq_true, if_false, Eff.run_bind]
      obtain ⟨r, hr, hvalue⟩ :=
        run_loadAndVerifyWithBase P text w (some w.defaultSnapshotPath) none
      rw [hr, Run.bind_returned]
      change r.toOption = ite (w.Accepts none w.defaultSnapshotPath)
        (w.snapshotAt P w.defaultSnapshotPath) none at hvalue
      rw [if_pos hacc] at hvalue
      rw [← hvalue]
      cases r with
      | error e =>
        obtain ⟨text', w', hrun, hlog⟩ := run_reportUnreadable (P := P) hfree now e w
        refine .inl ⟨rfl, .error text', w', ?_, hlog⟩
        rw [Eff.run_bind, hrun]
        rfl
      | ok s =>
        refine .inr ⟨s, rfl, hacc, ?_⟩
        intro report w' hrun
        have hdelete : Eff.Preserves (.faultless text) (fun _ : World => True)
            (deleteSnapshotWithBase (some w.defaultSnapshotPath) none) :=
          preserves_deleteSnapshotWithBase _ _ (fun _ _ _ h => h) (fun _ _ h => h)
        obtain ⟨d, w₂, hd, -⟩ := hdelete.returned hfree (s := w') trivial
        obtain ⟨l, w₃, hl, hlog⟩ := run_appendRecoveryLog (P := P) hfree now
          { report with durationMs := now.elapsedMillis } w₂
        refine ⟨d, w₂, w₃, hd, hlog, ?_⟩
        simp only [Eff.run_bind, hrun, Run.bind_returned, hd, hl]
        rfl
    · have hfile : w.files w.defaultSnapshotPath = none := by
        rw [← Option.not_isSome_iff_eq_none]
        exact fun hsome => hfound (w.pathExists_of_isSome hsome _)
      simp only [hfound, Bool.not_false, if_true]
      rw [World.snapshotAt_of_none hfile]
      exact .inl ⟨rfl, _, w, rfl, .refl w⟩
  · rw [if_neg hacc]
    obtain ⟨e, he⟩ := run_validateSnapshotPath_of_not .recover (.faultless text) hacc
    rw [he, Run.bind_returned]
    exact .inl ⟨rfl, _, w, rfl, .refl w⟩

/-- Undisturbed, the start-up recovery lays the snapshot it finds over the settings. -/
theorem run_checkAndRecover (P : Platform) (text : Call → String) (w : World) (now : Ambient) :
    ((match w.bootSnapshot P with
      | some s => w.machine.withBaseline s
      | none => w.machine) : Machine).SameSettings
      ((checkAndRecover P now none).run (.faultless text) w).state.machine := by
  rcases run_checkAndRecover_cases P text w now with
    ⟨hnone, r, w', hr, hlog⟩ | ⟨s, hsome, -, hfound⟩
  · rw [hnone, hr, Run.state_returned, hlog.machine]
    exact .refl _
  · obtain ⟨report, w', hrun, hsame, -⟩ := run_rollbackSnapshot text w s
    obtain ⟨d, w₂, w₃, hd, hlog, hr⟩ := hfound report w' hrun
    -- deleting the snapshot leaves the machine alone
    have hdelete : Eff.Preserves (.faultless text) (fun w'' => w''.machine = w'.machine)
        (deleteSnapshotWithBase (some w.defaultSnapshotPath) none) :=
      preserves_deleteSnapshotWithBase _ _ (fun _ _ _ h => h) (fun _ _ h => h)
    have hmachine : w₂.machine = w'.machine := (hdelete.holds (s := w') rfl).of_returned hd
    rw [hsome, hr, Run.state_returned, hlog.machine, hmachine]
    exact hsame

/-! ### Sessions after an apply -/

/-- What may go on after an apply: another apply, which `ApplyOptimizations` and
`LaunchOptimizedGame` both ask for, or a snapshot taken by hand. -/
inductive SessionEvent where
  | apply (now : Ambient)
  | takeSnapshot (now : Ambient) (target : Option Path)

/-- The program behind an event. -/
def SessionEvent.program (P : Platform) : SessionEvent → Prog Unit
  | .apply now => do
    let _ ← applyOptimizations P now
    return ()
  | .takeSnapshot now target => do
    match ← captureSystemBaseline now with
    | .error _ => return ()
    | .ok snapshot =>
      let _ ← saveAtomicWithBase P now snapshot target none
      return ()

/-- The worlds a session can be left in: each event runs in full, or dies inside a call. -/
inductive Later (P : Platform) (w : World) : World → Prop where
  | here : Later P w w
  | event {w' : World} (h : Later P w w') (env : Env Call) (hfree : env.ErrorFree)
      (e : SessionEvent) : Later P w ((e.program P).run env w').state

/-- The settings are those that an apply of `m` leaves. -/
structure Machine.Optimized (m m' : Machine) : Prop where
  endpoints : m'.endpoints = m.endpoints
  installedSchemes : m'.installedSchemes = m.installedSchemes
  batteryFlag : m'.batteryFlag = m.batteryFlag
  gameMode : m'.gameMode = true
  activeScheme : m'.activeScheme = m.gamingScheme
  sysFx : ∀ id ∈ m.endpoints, m'.sysFx id = some 1

namespace Machine.Optimized

variable {m m' : Machine}

theorem optimized (m : Machine) : m.Optimized m.optimized where
  endpoints := rfl
  installedSchemes := rfl
  batteryFlag := rfl
  gameMode := rfl
  activeScheme := m.activeScheme_optimized
  sysFx := fun _ => m.sysFx_optimized

theorem gamingScheme (h : m.Optimized m') : m'.gamingScheme = m.gamingScheme :=
  m.gamingScheme_of_active h.batteryFlag h.installedSchemes h.activeScheme

/-- Another apply leaves the settings as they are, wherever it is cut short. -/
theorem cutShort (h : m.Optimized m') {c : Call} {m'' : Machine} (hc : m'.CutShort c m'') :
    m.Optimized m'' where
  endpoints := hc.endpoints.trans h.endpoints
  installedSchemes := hc.installedSchemes.trans h.installedSchemes
  batteryFlag := hc.batteryFlag.trans h.batteryFlag
  gameMode := by rw [hc.gameMode, h.gameMode, ite_self]
  activeScheme := by rw [hc.powerScheme, h.gamingScheme, h.activeScheme, ite_self]
  sysFx := by
    intro id hid
    rw [hc.sysFx id (h.endpoints ▸ hid), h.sysFx id hid, ite_self]

theorem again (h : m.Optimized m') : m.Optimized m'.optimized :=
  h.cutShort Machine.cutShort_optimized

end Machine.Optimized

/-- The settings stay optimized through every later event. -/
theorem Optimized.later {P : Platform} {m : Machine} {w w' : World}
    (hw : m.Optimized w.machine) (h : Later P w w') : m.Optimized w'.machine := by
  induction h with
  | here => exact hw
  | event h env hfree e ih =>
    rename_i w₁
    cases e with
    | apply now =>
      have hfollows : Eff.Follows env (applyOptimizations P now) w₁
          fun w' => m.Optimized w'.machine := by
        refine follows_applyOptimizations hfree now ?_ ?_ ?_
        · exact fun c m' _ _ hc => ih.cutShort hc
        · exact fun _ => ih.again
        · exact fun n _ => ih.again
      unfold SessionEvent.program
      rw [Eff.run_bind]
      cases hr : (applyOptimizations P now).run env w₁ with
      | crashed w₂ => exact hfollows.of_crashed hr
      | returned r w₂ =>
        have heq := hfollows.run_eq hr
        rw [run_applyOptimizations] at heq
        cases heq
        exact ih.again
    | takeSnapshot now target =>
      -- neither part of it writes a setting
      have hpreserves : Eff.Preserves env (fun w' : World => m.Optimized w'.machine)
          ((SessionEvent.takeSnapshot now target).program P) := by
        unfold SessionEvent.program
        refine Eff.Preserves.bind (preserves_captureSystemBaseline now) ?_
        rintro (e | s)
        · exact Eff.preserves_pure _
        · exact Eff.Preserves.bind (preserves_saveAtomicWithBase _ _ _ _ (fun _ _ _ h => h)
            (fun _ _ h => h)) fun _ => Eff.preserves_pure _
      exact hpreserves.state ih

/-! ### What the start-up recovery gives back -/

/-- The snapshot, if there is one, gives the settings of `m` back to the optimized machine: what it
lists is that of `m`, and what it does not list has not been changed. -/
structure Machine.BootRestores (m : Machine) (s : Option SystemStateSnapshot) : Prop where
  gameMode : (s.bind (·.previousGameMode)).getD true = m.gameMode
  powerScheme : (((s.bind (·.previousPowerScheme)).bind fun t => (stringToGuid t).toOption).filter
    fun g => g ∈ m.installedSchemes).getD m.gamingScheme = m.activeScheme
  sysFx : ∀ id ∈ m.endpoints, (recordedFx id ((s.map (·.previousAudioEndpoints)).getD [])).getD
    (some 1) = m.sysFx id

theorem Machine.activeScheme_withPowerRecord (m : Machine) (scheme : Option String) :
    (m.withPowerRecord scheme).activeScheme =
      ((scheme.bind fun t => (stringToGuid t).toOption).filter
        fun g => g ∈ m.installedSchemes).getD m.activeScheme := by
  unfold withPowerRecord
  cases scheme.bind fun t => (stringToGuid t).toOption with
  | none => rfl
  | some g =>
    dsimp only
    rw [activeScheme_activate]
    by_cases hg : g ∈ m.installedSchemes <;> simp [Option.filter, hg]

/-- Laying the snapshot over the optimized machine. -/
theorem Machine.Optimized.settings_iff {m m' : Machine} (h : m.Optimized m')
    (s : Option SystemStateSnapshot) :
    ((match s with
      | some s => m'.withBaseline s
      | none => m') : Machine).settings = m.settings ↔ m.BootRestores s := by
  cases s with
  | none =>
    rw [settings_eq_iff h.endpoints, h.gameMode, h.activeScheme]
    constructor
    · rintro ⟨hgame, hpower, hfx⟩
      exact ⟨hgame, hpower, fun id hid => by rw [← hfx id hid, h.sysFx id hid]; rfl⟩
    · rintro ⟨hgame, hpower, hfx⟩
      exact ⟨hgame, hpower, fun id hid => by rw [h.sysFx id hid]; exact hfx id hid⟩
  | some s =>
    -- Each setting after the boot is the recorded one, or what the optimization left.
    have hends : (m'.withBaseline s).endpoints = m.endpoints := by
      rw [endpoints_withBaseline, h.endpoints]
    have hgame : (m'.withBaseline s).gameMode = s.previousGameMode.getD true := by
      rw [gameMode_withBaseline, h.gameMode]
    have hpower : (m'.withBaseline s).activeScheme =
        ((s.previousPowerScheme.bind fun t => (stringToGuid t).toOption).filter
          fun g => g ∈ m.installedSchemes).getD m.gamingScheme := by
      have hlast : ∀ m'' : Machine, (m''.withGameModeRecord s.previousGameMode).activeScheme =
          m''.activeScheme := by
        intro m''
        cases s.previousGameMode <;> rfl
      rw [withBaseline, hlast, activeScheme_withPowerRecord]
      change (Option.filter (fun g => g ∈ m'.installedSchemes) _).getD m'.activeScheme = _
      rw [h.installedSchemes, h.activeScheme]
    have hfx : ∀ id ∈ m.endpoints, (m'.withBaseline s).sysFx id =
        (recordedFx id s.previousAudioEndpoints).getD (some 1) := by
      intro id hid
      have hsys := h.sysFx id hid
      have hkey : (m'.fxProperties id).isSome := by
        unfold Machine.sysFx at hsys
        cases hk : m'.fxProperties id with
        | none =>
          rw [hk] at hsys
          cases hsys
        | some v => rfl
      rw [sysFx_withBaseline, sysFx_restoreFx, if_pos hkey, hsys]
    rw [settings_eq_iff hends, hgame, hpower]
    constructor
    · rintro ⟨hg, hp, hf⟩
      exact ⟨hg, hp, fun id hid => by rw [← hf id hid, hfx id hid]; rfl⟩
    · rintro ⟨hg, hp, hf⟩
      exact ⟨hg, hp, fun id hid => by rw [hfx id hid]; exact hf id hid⟩

/-- **Recovery at start-up.**  An apply succeeds, the session goes on and dies at some point.  The
start-up recovery then leaves the settings from before the apply iff the snapshot it finds gives
them back; without one, iff the apply changed nothing. -/
theorem boot_recovery_settings_iff {P : Platform} {text : Call → String} {w w₁ w₂ : World}
    {now later : Ambient} {tx : OptimizationTransaction}
    (happly : (applyOptimizations P now).run (.faultless text) w = .returned (.ok tx) w₁)
    (hlater : Later P w₁ w₂) :
    ((checkAndRecover P later none).run (.faultless text) w₂).state.machine.settings =
        w.machine.settings ↔ w.machine.BootRestores (w₂.bootSnapshot P) := by
  rw [run_applyOptimizations] at happly
  cases happly
  have hoptimized : w.machine.Optimized w₂.machine :=
    Optimized.later (w := w.applied P now) (.optimized w.machine) hlater
  rw [(run_checkAndRecover P text w₂ later).settings]
  exact hoptimized.settings_iff _

/-- A desktop whose speaker has a `SysFx` value. -/
def World.desktopFx : World :=
  { World.desktop with machine := { Machine.desktop with fxProperties := fun _ => some (some 0) } }

/-- Where a baseline was stored before the apply, the start-up recovery gives it back: Game Mode and
the power scheme, which the apply has changed, and the `SysFx` value. -/
theorem boot_recovery_settings_captured : ∃ w₁ : World,
    (applyOptimizations .portable default).run (.faultless errorText)
        (World.desktopFx.stored .portable default (World.desktopFx.machine.baseline default)
          World.desktop.defaultSnapshotPath) =
      .returned (.ok (World.desktopFx.machine.transaction default)) w₁ ∧
    w₁.machine.settings ≠ World.desktopFx.machine.settings ∧
    ((checkAndRecover .portable default none).run (.faultless errorText)
      w₁).state.machine.settings = World.desktopFx.machine.settings := by
  have hP := Platform.lawful_portable
  let w := World.desktopFx.stored .portable default (World.desktopFx.machine.baseline default)
    World.desktop.defaultSnapshotPath
  have hsnap : w.snapshotAt .portable World.desktop.defaultSnapshotPath = some _ :=
    World.snapshotAt_stored hP (by decide)
  -- the transaction is in a file of its own
  have hafter : (w.applied .portable default).snapshotAt .portable
      World.desktop.defaultSnapshotPath = some _ :=
    (World.snapshotAt_congr (World.files_writeFile_of_ne _ _ (by decide))
      (World.files_writeFile_of_ne _ _ (by decide))).trans hsnap
  have hboot : (w.applied .portable default).bootSnapshot .portable = some _ :=
    (if_pos (by decide)).trans hafter
  refine ⟨w.applied .portable default, run_applyOptimizations default, ?_, ?_⟩
  · intro h
    exact absurd (congrArg Settings.gameMode h) (by decide)
  · refine (boot_recovery_settings_iff (w := w) (run_applyOptimizations default) .here).mpr ?_
    rw [hboot]
    refine ⟨rfl, ?_, ?_⟩
    · change (((some (guidToString balancedGuid)).bind fun t =>
        (stringToGuid t).toOption).filter _).getD _ = balancedGuid
      rw [Option.bind_some, stringToGuid_guidToString]
      decide
    · intro id hid
      cases List.mem_singleton.mp hid
      decide

/-- On the desktop, nothing is given back after an apply: there is no `snapshot.json`. -/
theorem boot_recovery_misses_transaction :
    (applyOptimizations .portable default).run (.faultless errorText) .desktop =
        .returned (.ok (Machine.desktop.transaction default))
          (World.desktop.applied .portable default) ∧
      ((checkAndRecover .portable default none).run (.faultless errorText)
        (World.desktop.applied .portable default)).state.machine.settings ≠
          Machine.desktop.settings := by
  refine ⟨run_applyOptimizations default, ?_⟩
  have hnone : (World.desktop.applied .portable default).bootSnapshot .portable = none := by
    rw [World.bootSnapshot, World.snapshotAt_of_none, ite_self]
    rfl
  have hrun := run_checkAndRecover .portable errorText (World.desktop.applied .portable default)
    default
  rw [hnone] at hrun
  rw [hrun.settings]
  exact Machine.not_isOptimized_desktop

end ValOpt
