import ValOpt.Cli.Equiv.Writes
import ValOpt.Server.Equiv.ForeignRecord
import ValOpt.State.Equiv.KeyFile

/-!
# Snapshots taken by hand

`snapshot` stores the baseline of a machine, and `rollback` writes it back and deletes it.  Whatever
commands run in between, and however they end, the settings after the rollback are those of the
baseline, as long as none of them works on the stored snapshot (`snapshot_rollback`).
-/

namespace ValOpt

open Effect

variable {P : Platform} {text : Call → String} {w : World}

/-! ### Keys of the registry -/

/-- No key of an endpoint is ever removed. -/
def World.KeepsKeys (w w' : World) : Prop :=
  w.SameHost w' ∧ ∀ id, (w.machine.fxProperties id).isSome → (w'.machine.fxProperties id).isSome

theorem admits_keepsKeys (w : World) : Admits w.KeepsKeys w.storageDir Set.univ where
  write a _ w₁ w₂ h hwrite := by
    refine ⟨h.1.trans hwrite.sameHost, fun id hid => ?_⟩
    have hkey := h.2 id hid
    by_cases ha : a = .audio
    · subst ha
      cases hwrite with
      | fxProperties id' v =>
        show (Function.update w₁.machine.fxProperties id' (some v) id).isSome
        by_cases heq : id = id'
        · rw [heq, Function.update_self]
          rfl
        · rwa [Function.update_of_ne heq]
    · have hsame : w₂.machine.fxProperties = w₁.machine.fxProperties :=
        hwrite.same (Ne.symm ha)
      rwa [hsame]
  storageDir _ h := h.1.storageDir

theorem keepsKeys_runCommands (P : Platform) (runs : List (Env Call × CliCommand)) (w : World) :
    w.KeepsKeys (runCommands P runs w) := by
  refine holds_runCommands ⟨?_, (admits_keepsKeys w).storageDir⟩ ⟨.refl w, fun _ h => h⟩
  exact fun a _ => (admits_keepsKeys w).write a (Set.mem_univ a)

/-! ### The two commands -/

/-- The guard lets every path pass that the validation accepts, and no other. -/
theorem run_rejectsPath (path : Option Path) :
    (rejectsPath path).run (.faultless text) w =
      .returned (path.elim false fun p => decide ¬ w.Accepts none p) w := by
  rcases path with _ | p
  · rfl
  unfold rejectsPath isPathInCanonicalDir
  by_cases hacc : w.Accepts none p
  · simp [run_validateSnapshotPath hacc, hacc]
  · obtain ⟨e, he⟩ := run_validateSnapshotPath_of_not .guard (.faultless text) hacc
    simp [he, hacc]

theorem saveAtomicWithBase_targetOf (now : Ambient) (snapshot : SystemStateSnapshot)
    (path : Option Path) {env : Env Call} :
    (saveAtomicWithBase P now snapshot path none).run env w =
      (saveAtomicWithBase P now snapshot (some (w.targetOf path)) none).run env w := by
  unfold saveAtomicWithBase
  rw [Eff.run_bind, Eff.run_bind, run_getWorld, Run.bind_returned, Run.bind_returned]
  rfl

/-- What `snapshot` leaves when it succeeds: the baseline, signed with the key of the directory. -/
theorem run_snapshot (hP : P.Lawful) {now : Ambient} {path : Option Path} {r : CliReport}
    {w₁ : World} (hname : (w.targetOf path).file ≠ snapshotKeyFilename)
    (hrun : ((CliCommand.snapshot now path).run P).run (.faultless text) w = .returned (.ok r) w₁) :
    w₁.machine = w.machine ∧ w₁.drive = w.drive ∧ w.Accepts none (w.targetOf path) ∧
      ∃ s, w₁.snapshotAt P (w.targetOf path) = some s ∧
        s.record = (w.machine.baseline now).record := by
  unfold CliCommand.run at hrun
  rw [Eff.run_bind, run_captureSystemBaseline, Run.bind_returned] at hrun
  dsimp only at hrun
  rw [Eff.run_bind, run_rejectsPath, Run.bind_returned] at hrun
  split at hrun
  · cases hrun
  rw [Eff.run_bind, saveAtomicWithBase_targetOf] at hrun
  rcases run_saveAtomicWithBase hP text w now (w.machine.baseline now) (w.targetOf path) none with
    ⟨e, _, _, -, -, he⟩ | ⟨key, w', hacc, hkey, hwith, hsave⟩
  · rw [he] at hrun
    cases hrun
  rw [hsave, Run.bind_returned] at hrun
  cases hrun
  refine ⟨hwith.machine, hwith.drive, hacc, (w.machine.baseline now).signWithKey P key, ?_, rfl⟩
  apply World.snapshotAt_of_signed hP (World.files_writeFile_self ..)
  -- neither the temporary file nor the target is the key file
  have hkeyPath : (w.targetOf path).keyPath ≠ w.targetOf path :=
    fun h => hname (congrArg Path.file h).symm
  unfold World.storeKey at hkey ⊢
  rw [World.files_writeFile_of_ne _ _ hkeyPath,
    World.files_removeFile_of_ne _ (tempPath_ne_keyPath now _ _).symm,
    World.files_writeFile_of_ne _ _ (tempPath_ne_keyPath now _ _).symm, hkey]

/-- What `rollback` does when it finds a snapshot. -/
theorem run_rollback_found (text : Call → String) (now : Ambient) {path : Option Path}
    {s : SystemStateSnapshot} (hacc : w.Accepts none (w.targetOf path))
    (hs : w.snapshotAt P (w.targetOf path) = some s) :
    ∃ report w', ((CliCommand.rollback now path).run P).run (.faultless text) w =
        .returned (.ok (.rolledBack report)) w' ∧
      w'.machine = w.machine.withRecord s.record ∧
      ∀ q, q ≠ w.recoveryLogPath → w'.files q =
        if q = w.targetOf path ∨ q = (w.targetOf path).keyPath then none else w.files q := by
  obtain ⟨b, key, hfile, -, -⟩ := World.exists_of_snapshotAt hs
  have hthere : (w.files (w.targetOf path)).isSome := by rw [hfile]; rfl
  obtain ⟨report, hrollback⟩ := run_rollbackSnapshot_record text w s
  let w₁ : World := { w with machine := w.machine.withRecord s.record }
  have hacc₁ : w₁.Accepts none (w.targetOf path) := hacc
  obtain ⟨found, w₂, hdelete, hdrive, hfiles⟩ := run_deleteSnapshotWithBase
    (deletes_faultless text) hacc₁ (w₁.isDirectory_of_isSome hthere _)
  have hpreserves : Eff.Preserves (.faultless text) (fun w' => w'.machine = w₁.machine)
      (deleteSnapshotWithBase (some (w.targetOf path)) none) :=
    preserves_deleteSnapshotWithBase _ _ (fun _ _ _ h => h) fun _ _ h => h
  have hmachine : w₂.machine = w₁.machine := (hpreserves.holds rfl).of_returned hdelete
  -- the line of the log comes last
  obtain ⟨l, w₃, hl, hlog⟩ := run_appendRecoveryLog (P := P) (Env.crashFree_faultless text) now
    { report with durationMs := now.elapsedMillis } w₂
  have hlogPath : w₂.recoveryLogPath = w.recoveryLogPath := by
    rw [World.recoveryLogPath, World.storageDir, hdrive]
    rfl
  have hload : (loadAndVerifyWithBase P (some (w.targetOf path)) none).run (.faultless text) w =
      .returned (.ok s) w := run_loadAndVerifyWithBase_of_ok (fun _ _ => rfl) hacc hs
  have hrecover : (checkAndRecover P now path).run (.faultless text) w =
      .returned (.ok { report with durationMs := now.elapsedMillis }) w₃ := by
    have hfound : w.pathExists (w.baseDir none) (w.targetOf path) = true :=
      w.pathExists_of_isSome hthere _
    unfold checkAndRecover checkAndRecoverWithBase
    rw [Eff.run_bind, run_getWorld, Run.bind_returned]
    change ((validateSnapshotPath .recover (w.targetOf path) none >>= _).run _ _ : Run World _) = _
    rw [Eff.run_bind, run_validateSnapshotPath hacc, Run.bind_returned]
    dsimp only
    rw [Eff.run_bind, run_pathExists, Run.bind_returned, hfound]
    simp only [Bool.not_true, Bool.false_eq_true, if_false]
    rw [Eff.run_bind, hload, Run.bind_returned]
    dsimp only
    rw [Eff.run_bind, hrollback, Run.bind_returned]
    dsimp only
    rw [Eff.run_bind, hdelete, Run.bind_returned, Eff.run_bind, hl]
    rfl
  refine ⟨{ report with durationMs := now.elapsedMillis }, w₃, ?_, hlog.machine.trans hmachine,
    fun q hq => ?_⟩
  · unfold CliCommand.run
    rw [Eff.run_bind, run_rejectsPath, Run.bind_returned]
    have hguard : (path.elim false fun p => decide ¬ w.Accepts none p) = false := by
      rcases path with _ | p
      · rfl
      · exact decide_eq_false fun h => h hacc
    rw [hguard]
    simp only [Bool.false_eq_true, if_false]
    rw [Eff.run_bind, hrecover]
    rfl
  · rw [hlog.files q (hlogPath.symm ▸ hq), hfiles]

/-! ### The settings -/

/-- A record has the settings of its snapshot. -/
theorem sameSettings_withRecord (m : Machine) (s : SystemStateSnapshot) :
    (m.withBaseline s).SameSettings (m.withRecord s.record) := by
  let w : World := ⟨m, fun _ => none, ⟨none, []⟩⟩
  obtain ⟨report, w', hrun, hsame, -⟩ := run_rollbackSnapshot (fun _ => "") w s
  obtain ⟨report', hrun'⟩ := run_rollbackSnapshot_record (fun _ => "") w s
  rw [hrun'] at hrun
  injection hrun with _ hworld
  rw [← hworld] at hsame
  exact hsame

theorem activeScheme_withGameModeRecord (m : Machine) (mode : Option Bool) :
    (m.withGameModeRecord mode).activeScheme = m.activeScheme := by
  cases mode <;> rfl

/-- The settings of a baseline laid over a machine. -/
theorem settings_withRecord_baseline {m m' : Machine} (now : Ambient)
    (hschemes : m'.installedSchemes = m.installedSchemes) :
    (m'.withRecord (m.baseline now).record).gameMode = m.gameMode ∧
    (m'.withRecord (m.baseline now).record).activeScheme = m.activeScheme ∧
    ∀ id ∈ m.endpoints, (m'.withRecord (m.baseline now).record).sysFx id =
      if (m'.fxProperties id).isSome then some (if m.sysFx id = some 1 then 1 else 0)
      else none := by
  have hsame : (m'.withBaseline (m.baseline now)).SameSettings
      (m'.withRecord (m.baseline now).record) := sameSettings_withRecord m' _
  refine ⟨?_, ?_, fun id hid => ?_⟩
  · rw [hsame.gameMode, Machine.gameMode_withBaseline]
    rfl
  · have hpower : (m.baseline now).previousPowerScheme = some (guidToString m.activeScheme) := rfl
    have hfx : (m'.restoreFx (m.baseline now).previousAudioEndpoints).installedSchemes =
        m.installedSchemes := hschemes
    rw [hsame.activeScheme, Machine.withBaseline, activeScheme_withGameModeRecord,
      Machine.activeScheme_withPowerRecord, hfx, hpower, Option.bind_some,
      stringToGuid_guidToString]
    simp [Except.toOption, Option.filter, m.active_installed]
  · rw [hsame.sysFx, Machine.sysFx_withBaseline, Machine.sysFx_restoreFx,
      recordedFx_baseline m now hid]
    rfl

/-- **A snapshot taken by hand.**  Whatever commands run after it and however they end, an
undisturbed rollback finds it as long as none of them works on its files, and gives the settings
back, but for `SysFx` values that are no booleans.  Services stay as the commands have left them,
and the snapshot is gone; if it was under the name of the log, its line is there instead. -/
theorem snapshot_rollback (hP : P.Lawful) {now : Ambient} {path : Option Path} {r : CliReport}
    {w₁ : World} (hname : (w.targetOf path).file ≠ snapshotKeyFilename)
    (hrun : ((CliCommand.snapshot now path).run P).run (.faultless text) w = .returned (.ok r) w₁)
    {runs : List (Env Call × CliCommand)}
    (hruns : ∀ q ∈ runs, .file (w.targetOf path) ∉ q.2.writes w.storageDir ∧
      .file (w.targetOf path).keyPath ∉ q.2.writes w.storageDir) (later : Ambient) :
    ∃ report w₃, ((CliCommand.rollback later path).run P).run (.faultless text)
        (runCommands P runs w₁) = .returned (.ok (.rolledBack report)) w₃ ∧
      (w₃.machine.settings = w.machine.settings ↔ ∀ id ∈ w.machine.endpoints,
        w.machine.sysFx id = some 0 ∨ w.machine.sysFx id = some 1 ∨
          (runCommands P runs w₁).machine.fxProperties id = none) ∧
      w₃.machine.gameMode = w.machine.gameMode ∧ w₃.machine.activeScheme = w.machine.activeScheme ∧
      w₃.machine.services = (runCommands P runs w₁).machine.services ∧
      (w.targetOf path ≠ w.recoveryLogPath → w₃.files (w.targetOf path) = none) := by
  obtain ⟨hmachine, hdrive, hacc, s, hs, hrecord⟩ := run_snapshot hP hname hrun
  have hdir : w₁.storageDir = w.storageDir := by rw [World.storageDir, hdrive, World.storageDir]
  have hframe := (runCommands_frame P runs w₁).1
  rw [hdir] at hframe
  obtain ⟨hhost, hareas⟩ := hframe
  have hfile : ∀ p, (∀ q ∈ runs, .file p ∉ q.2.writes w.storageDir) →
      (runCommands P runs w₁).files p = w₁.files p := by
    refine fun p hp => hareas (.file p) ?_
    rintro ⟨q, hq, hpq⟩
    exact hp q hq hpq
  have hdir₂ : (runCommands P runs w₁).storageDir = w.storageDir := hhost.storageDir.trans hdir
  have htarget : (runCommands P runs w₁).targetOf path = w.targetOf path := by
    rw [World.targetOf, World.defaultSnapshotPath, hdir₂, World.targetOf, World.defaultSnapshotPath]
  have hsnapshot : (runCommands P runs w₁).snapshotAt P
      ((runCommands P runs w₁).targetOf path) = some s := by
    rw [htarget, ← hs, World.snapshotAt, World.storeKey, hfile _ fun q hq => (hruns q hq).1,
      hfile _ fun q hq => (hruns q hq).2, World.snapshotAt, World.storeKey]
  have haccepts : (runCommands P runs w₁).Accepts none
      ((runCommands P runs w₁).targetOf path) := by
    obtain ⟨b, -, hb, -⟩ := World.exists_of_snapshotAt hsnapshot
    rw [htarget] at hb ⊢
    exact hacc.congr (hhost.drive.trans hdrive) (by rw [hb]; rfl)
  have hlogPath : (runCommands P runs w₁).recoveryLogPath = w.recoveryLogPath := by
    rw [World.recoveryLogPath, hdir₂, World.recoveryLogPath]
  obtain ⟨report, w₃, hrollback, hmachine₃, hfiles₃⟩ :=
    run_rollback_found text later haccepts hsnapshot
  rw [htarget, hlogPath] at hfiles₃
  rw [hrecord, ← hmachine] at hmachine₃
  obtain ⟨hgameMode, hscheme, hfx⟩ := settings_withRecord_baseline now hhost.installedSchemes
  rw [← hmachine₃] at hgameMode hscheme hfx
  have hservices : w₃.machine.services = (runCommands P runs w₁).machine.services := by
    rw [hmachine₃, Machine.withRecord_eq]
    rfl
  have hendpoints : w₃.machine.endpoints = w₁.machine.endpoints := by
    rw [hmachine₃, Machine.withRecord_eq]
    exact hhost.endpoints
  have hkeys := (keepsKeys_runCommands P runs w₁).2
  rw [← hmachine]
  refine ⟨report, w₃, hrollback, ?_, hgameMode, hscheme, hservices, ?_⟩
  · rw [Machine.settings_eq_iff hendpoints]
    constructor
    · rintro ⟨-, -, hsame⟩ id hid
      have hvalue := hfx id hid
      rw [hsame id hid] at hvalue
      split at hvalue
      · split at hvalue
        · next hone => exact Or.inr (Or.inl hone)
        · exact Or.inl hvalue
      · next hnone => exact Or.inr (Or.inr (Option.not_isSome_iff_eq_none.mp hnone))
    · intro hvalues
      refine ⟨hgameMode, hscheme, fun id hid => ?_⟩
      rw [hfx id hid]
      have hkey : w₁.machine.sysFx id ≠ none →
          ((runCommands P runs w₁).machine.fxProperties id).isSome := by
        intro hne
        apply hkeys
        rw [Option.isSome_iff_ne_none]
        intro hnone
        rw [Machine.sysFx, hnone] at hne
        exact hne rfl
      rcases hvalues id hid with hzero | hone | hnone
      · rw [if_pos (hkey (by rw [hzero]; simp)), hzero]
        rfl
      · rw [if_pos (hkey (by rw [hone]; simp)), hone, if_pos rfl]
      · have hold : w₁.machine.fxProperties id = none := by
          by_contra hne
          have hsome := hkeys id (Option.isSome_iff_ne_none.mpr hne)
          rw [hnone] at hsome
          cases hsome
        rw [hnone, if_neg (by simp), Machine.sysFx, hold]
        rfl
  · intro hne
    rw [hfiles₃ _ hne, if_pos (Or.inl rfl)]

/-- A snapshot of the desktop comes back after an optimization, which dies while it stores its
transaction. -/
theorem snapshot_rollback_desktop : ∃ r w₁ report w₃,
    ((CliCommand.snapshot default none).run .portable).run (.faultless errorText) .desktop =
        .returned (.ok r) w₁ ∧
      ((CliCommand.rollback default none).run .portable).run (.faultless errorText)
        (runCommands .portable [(.crashAt .writeTransaction 1 errorText, .optimize default)] w₁) =
          .returned (.ok (.rolledBack report)) w₃ ∧
      w₃.machine.gameMode = Machine.desktop.gameMode ∧
      w₃.machine.activeScheme = Machine.desktop.activeScheme := by
  have hacc : World.desktop.Accepts none World.desktop.defaultSnapshotPath := by decide
  have hsave : ∃ s w, (saveAtomicWithBase .portable default (Machine.desktop.baseline default)
      (some World.desktop.defaultSnapshotPath) none).run (.faultless errorText) .desktop =
        .returned (.ok (World.desktop.defaultSnapshotPath, s)) w :=
    run_saveAtomicWithBase_of_keyUsable errorText (.inl rfl) hacc ⟨rfl, rfl, rfl, .inr rfl⟩
  obtain ⟨s, w₁, hsave⟩ := hsave
  have hrun : ((CliCommand.snapshot default none).run .portable).run (.faultless errorText)
      .desktop = .returned (.ok (.saved World.desktop.defaultSnapshotPath s)) w₁ := by
    unfold CliCommand.run
    rw [Eff.run_bind, run_captureSystemBaseline, Run.bind_returned]
    dsimp only
    rw [Eff.run_bind, run_rejectsPath, Run.bind_returned]
    simp only [Option.elim_none, Bool.false_eq_true, if_false]
    rw [Eff.run_bind, saveAtomicWithBase_targetOf]
    change ((saveAtomicWithBase .portable default (Machine.desktop.baseline default)
      (some World.desktop.defaultSnapshotPath) none).run _ _).bind _ = _
    rw [hsave]
    rfl
  let died : Env Call × CliCommand :=
    (.crashAt .writeTransaction 1 errorText, .optimize default)
  have hruns : ∀ q ∈ [died], .file (World.desktop.targetOf none) ∉
      q.2.writes World.desktop.storageDir ∧
        .file (World.desktop.targetOf none).keyPath ∉ q.2.writes World.desktop.storageDir := by
    intro q hq
    rw [List.mem_singleton.mp hq]
    simp [died, CliCommand.writes, World.targetOf, World.defaultSnapshotPath, Path.keyPath,
      Path.withFileName, snapshotKeyFilename]
  obtain ⟨report, w₃, hrollback, -, hgameMode, hscheme, -⟩ :=
    snapshot_rollback Platform.lawful_portable (by decide) hrun hruns default
  exact ⟨_, w₁, report, w₃, hrun, hrollback, hgameMode, hscheme⟩

end ValOpt
