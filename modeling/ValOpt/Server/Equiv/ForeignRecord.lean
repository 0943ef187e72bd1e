import ValOpt.Server.Interleaving
import ValOpt.State.Equiv.FailSecure
import ValOpt.State.Equiv.StoreHistory
import ValOpt.State.Equiv.WriteBack

/-!
# Whose records a rollback restores

`RollbackOptimizations` writes two records back.  The snapshot is signed, so only one of this
machine's own gets through; the transaction is not, so any file that reads as one is restored.
`rollback_restores_own_iff` says when this does no harm: whoever wrote the transaction, its values
are in force already.
-/

namespace ValOpt

open Effect

variable {P : Platform} {text : Call → String} {w : World} {now : Ambient}

/-! ### The two halves of the handler -/

/-- The machine with the values of the snapshot that the start-up recovery finds. -/
def World.snapshotMachine (P : Platform) (w : World) : Machine :=
  match w.bootSnapshot P with
  | some s => w.machine.withRecord s.record
  | none => w.machine

/-- The transaction is neither the snapshot nor its key. -/
theorem World.transactionPath_ne (w : World) : w.transactionPath ≠ w.defaultSnapshotPath ∧
    w.transactionPath ≠ w.defaultSnapshotPath.keyPath := by
  simp [World.transactionPath, World.defaultSnapshotPath, Path.keyPath, Path.withFileName,
    snapshotKeyFilename]

/-- So the deletion of the snapshot leaves it. -/
theorem holds_deleteSnapshotWithBase_transaction {env : Env Call} {w₁ : World} (w : World)
    {I : Machine → Drive → Prop} (hI : I w₁.machine w₁.drive)
    (hfile : w₁.files w.transactionPath = w.files w.transactionPath) :
    ((deleteSnapshotWithBase (some w.defaultSnapshotPath) none).run env w₁).Holds
      (fun _ w' => I w'.machine w'.drive ∧ w'.files w.transactionPath = w.files w.transactionPath)
      (fun w' => I w'.machine w'.drive ∧
        w'.files w.transactionPath = w.files w.transactionPath) := by
  obtain ⟨htarget, hkey⟩ := w.transactionPath_ne
  refine holds_deleteSnapshotWithBase (I := fun w' : World => I w'.machine w'.drive ∧
    w'.files w.transactionPath = w.files w.transactionPath) ?_ ?_ ⟨hI, hfile⟩
  · exact fun w' b h => ⟨h.1, (World.files_writeFile_of_ne _ _ hkey).trans h.2⟩
  · rintro w' p (rfl | rfl) h
    · exact ⟨h.1, (World.files_removeFile_of_ne _ htarget).trans h.2⟩
    · exact ⟨h.1, (World.files_removeFile_of_ne _ hkey).trans h.2⟩

/-- Undisturbed, the snapshot recovery writes back what it finds, and leaves the transaction. -/
theorem run_checkAndRecover_record (P : Platform) (text : Call → String) (w : World)
    (now : Ambient) : ∃ r w',
    (checkAndRecover P now none).run (.faultless text) w = .returned r w' ∧
      w'.machine = w.snapshotMachine P ∧ w'.transactionPath = w.transactionPath ∧
      w'.files w.transactionPath = w.files w.transactionPath := by
  rw [World.snapshotMachine]
  rcases run_checkAndRecover_cases P text w now with
    ⟨hnone, r, w', hr, hlog⟩ | ⟨s, hsome, hacc, hfound⟩
  · rw [hnone]
    exact ⟨r, w', hr, hlog.machine, hlog.transactionPath, hlog.files_transactionPath⟩
  · obtain ⟨report, hrun⟩ := run_rollbackSnapshot_record text w s
    -- the deletion takes the snapshot and its key, and leaves everything else
    let w₁ : World := { w with machine := w.machine.withRecord s.record }
    obtain ⟨found, w₂, w₃, hdelete, hlog, hr⟩ := hfound report w₁ hrun
    have hkept : ((deleteSnapshotWithBase (some w.defaultSnapshotPath) none).run
        (.faultless text) w₁).Holds _ _ :=
      holds_deleteSnapshotWithBase_transaction w
        (I := fun m d => m = w₁.machine ∧ d = w.drive) ⟨rfl, rfl⟩ rfl
    obtain ⟨⟨hmachine, hdrive⟩, hfile⟩ := hkept.of_returned hdelete
    have hpath : w₂.transactionPath = w.transactionPath := by
      rw [World.transactionPath, World.storageDir, hdrive]
      rfl
    rw [hsome]
    refine ⟨_, w₃, hr, hlog.machine.trans hmachine, hlog.transactionPath.trans hpath, ?_⟩
    rw [← hpath, hlog.files_transactionPath, hpath, hfile]

/-- Undisturbed, the transaction recovery writes the stored transaction back, if it reads as one. -/
theorem machine_recoverOrphanedTransaction (P : Platform) (text : Call → String) (w : World) :
    ((recoverOrphanedTransaction P).run (.faultless text) w).state.machine =
      match (w.files w.transactionPath).bind fun b => (P.transaction.fromStr b).toOption with
      | some tx => w.machine.withRecord tx.record
      | none => w.machine := by
  cases hfile : w.files w.transactionPath with
  | none =>
    rw [run_recoverOrphanedTransaction_of_none hfile]
    rfl
  | some b =>
    rw [Option.bind_some]
    cases hread : P.transaction.fromStr b with
    | error e =>
      rw [run_recoverOrphanedTransaction_of_error hfile hread]
      rfl
    | ok tx =>
      rw [run_recoverOrphanedTransaction_record hfile hread]
      rfl

/-- The machine after the snapshot recovery. -/
theorem machine_checkAndRecover (P : Platform) (text : Call → String) (w : World)
    (now : Ambient) :
    ((checkAndRecover P now none).run (.faultless text) w).state.machine =
      w.snapshotMachine P := by
  obtain ⟨r, w', hrun, hmachine, -⟩ := run_checkAndRecover_record P text w now
  rw [hrun, Run.state_returned, hmachine]

/-- The machine after the whole request: the transaction was written over the snapshot. -/
theorem machine_rollbackOptimizations {F V : Type} {a : Answers F V} (ha : a.env = .faultless text)
    {d : Daemon} : (handleRequest P a .rollbackOptimizations d).state.world.machine =
      match (d.world.files d.world.transactionPath).bind fun b =>
        (P.transaction.fromStr b).toOption with
      | some tx => (d.world.snapshotMachine P).withRecord tx.record
      | none => d.world.snapshotMachine P := by
  obtain ⟨report, w₁, hrun, hmachine, hpath, hfile⟩ :=
    run_checkAndRecover_record P text d.world a.now
  have hfinal : (handleRequest P a .rollbackOptimizations d).state.world.machine =
      ((recoverOrphanedTransaction P).run (.faultless text) w₁).state.machine := by
    unfold handleRequest handleRequestAuthorized
    simp only [Bool.not_true, Bool.and_false, Bool.false_eq_true, if_false]
    rw [Daemon.onWorld, Daemon.world_stopActive, ha, hrun, Run.bind_returned, Daemon.onWorld]
    cases (recoverOrphanedTransaction P).run (.faultless text) w₁ <;> rfl
  rw [hfinal, machine_recoverOrphanedTransaction, hpath, hfile, hmachine]

/-! ### Disturbed requests -/

/-- What a snapshot recovery leaves, however it ends: settings of the snapshot it finds, and the
transaction. -/
structure World.Recovered (P : Platform) (w w' : World) : Prop where
  machine : w'.machine = w.machine ∨
    ∃ s, w.bootSnapshot P = some s ∧ s.record.Explains w.machine w'.machine
  drive : w'.drive = w.drive
  transaction : w'.files w.transactionPath = w.files w.transactionPath

/-- The log has no part in it. -/
theorem World.Recovered.logged {w' w'' : World} (h : w.Recovered P w') (hlog : w'.Logged w'') :
    w.Recovered P w'' where
  machine := hlog.machine.symm ▸ h.machine
  drive := hlog.drive.trans h.drive
  transaction := by
    have hpath : w'.transactionPath = w.transactionPath := by
      rw [World.transactionPath, World.storageDir, h.drive]
      rfl
    rw [← hpath, hlog.files_transactionPath, hpath, h.transaction]

theorem holds_checkAndRecover_recovered (P : Platform) (env : Env Call) (w : World)
    (now : Ambient) :
    ((checkAndRecover P now none).run env w).Holds (fun _ => w.Recovered P) (w.Recovered P) := by
  have hsame : w.Recovered P w := ⟨.inl rfl, rfl, rfl⟩
  unfold checkAndRecover checkAndRecoverWithBase
  rw [Eff.run_bind, run_getWorld, Run.bind_returned]
  dsimp only
  rw [Eff.run_bind]
  have hpath : ((validateSnapshotPath .recover w.defaultSnapshotPath none).run env w).Holds _ _ :=
    holds_validateSnapshotPath .recover w.defaultSnapshotPath
  refine Run.Holds.bind (hpath.mono (fun _ _ h => h) fun w' h => h ▸ hsame) ?_
  rintro (e | target) w₁ ⟨rfl, htarget⟩
  · exact hsame
  obtain ⟨rfl, hacc⟩ := htarget target rfl
  dsimp only
  rw [Eff.run_bind, run_pathExists, Run.bind_returned]
  split
  · exact hsame
  rw [Eff.run_bind]
  have hload : ((loadAndVerifyWithBase P (some w₁.defaultSnapshotPath) none).run env w₁).Holds
      _ _ := holds_loadAndVerifyWithBase _
  refine Run.Holds.bind (hload.mono (fun _ _ h => h) fun w' h => h ▸ hsame) ?_
  rintro (e | s) w₂ ⟨rfl, hsnap⟩
  · dsimp only
    rw [Eff.run_bind]
    refine Run.Holds.bind ((holds_reportUnreadable now e).mono (fun _ _ h => hsame.logged h)
      fun _ h => hsame.logged h.2) fun _ _ h => h
  have hboot : w₂.bootSnapshot P = some s := (if_pos hacc).trans (hsnap s rfl)
  -- the values of the snapshot, and then its removal
  let I : World → Prop := fun w' => (s.record.Explains w₂.machine w'.machine ∧
    w'.drive = w₂.drive) ∧ w'.files w₂.transactionPath = w₂.files w₂.transactionPath
  have hI : ∀ w', I w' → w₂.Recovered P w' := fun w' h => ⟨.inr ⟨s, hboot, h.1.1⟩, h.1.2, h.2⟩
  have hstart : I w₂ := ⟨⟨s.record.explains_refl _, rfl⟩, rfl⟩
  have hrollback : Eff.Preserves env I (rollbackSnapshot s) :=
    ((preserves_rollbackSnapshot (s.record.keeps_explains w₂.machine)).and
      (preserves_rollbackSnapshot (s.record.keeps_of_machine fun _ _ h => h))).and
      (preserves_rollbackSnapshot (s.record.keeps_of_machine fun _ _ h => h))
  dsimp only
  rw [Eff.run_bind]
  refine Run.Holds.bind ((hrollback.holds hstart).mono (fun _ _ h => h) hI) ?_
  intro report w₃ hw₃
  cases report with
  | error e => exact hI w₃ hw₃
  | ok report =>
    dsimp only
    rw [Eff.run_bind]
    have hdelete : ((deleteSnapshotWithBase (some w₂.defaultSnapshotPath) none).run env w₃).Holds
        (fun _ => I) I :=
      holds_deleteSnapshotWithBase_transaction w₂
        (I := fun m d => s.record.Explains w₂.machine m ∧ d = w₂.drive) hw₃.1 hw₃.2
    refine Run.Holds.bind (hdelete.mono (fun _ _ h => h) hI) fun _ w₄ hw₄ => ?_
    rw [Eff.run_bind]
    exact Run.Holds.bind ((holds_appendRecoveryLog now _).mono (fun _ _ h => (hI w₄ hw₄).logged h)
      fun _ h => (hI w₄ hw₄).logged h.2) fun _ _ h => h

/-- A transaction recovery changes the settings to values of the transaction it reads, if any. -/
theorem holds_recoverOrphanedTransaction_explained (P : Platform) (env : Env Call) (w : World) :
    ((recoverOrphanedTransaction P).run env w).Holds
      (fun _ w' => w'.machine = w.machine ∨ ∃ b tx, w.files w.transactionPath = some b ∧
        P.transaction.fromStr b = .ok tx ∧ tx.record.Explains w.machine w'.machine)
      (fun w' => w'.machine = w.machine ∨ ∃ b tx, w.files w.transactionPath = some b ∧
        P.transaction.fromStr b = .ok tx ∧ tx.record.Explains w.machine w'.machine) := by
  unfold recoverOrphanedTransaction
  rw [Eff.run_bind, run_getWorld, Run.bind_returned, Eff.run_bind, run_fileExists,
    Run.bind_returned]
  split
  · rw [Eff.run_bind]
    refine Run.Holds.bind (holds_readFile (Q := fun r w' => w' = w ∧
      ∀ b, r = .ok b → w.files w.transactionPath = some b)
      (fun r h => ⟨rfl, fun b hb => (h b hb).2⟩) fun _ _ => .inl rfl) ?_
    rintro (e | b) w₁ ⟨rfl, hb⟩
    · exact .inl rfl
    have hb := hb b rfl
    dsimp only
    cases htx : P.transaction.fromStr b with
    | error e => exact .inl rfl
    | ok tx =>
      have hrollback : Eff.Preserves env
          (fun w' : World => tx.record.Explains w₁.machine w'.machine) (rollback tx) :=
        preserves_rollback (tx.record.keeps_explains w₁.machine) fun _ _ h => h
      have hexplained : ∀ w' : World, tx.record.Explains w₁.machine w'.machine →
          w'.machine = w₁.machine ∨ ∃ b tx, w₁.files w₁.transactionPath = some b ∧
            P.transaction.fromStr b = .ok tx ∧ tx.record.Explains w₁.machine w'.machine :=
        fun w' h => .inr ⟨b, tx, hb, htx, h⟩
      dsimp only
      rw [Eff.run_bind]
      refine Run.Holds.bind ((hrollback.holds (tx.record.explains_refl _)).mono (fun _ _ h => h)
        hexplained) ?_
      intro r w' h
      cases r <;> exact hexplained w' h
  · exact .inl rfl

/-! ### Own and foreign records -/

/-- The two recoveries took the machine from that of `w` to `m₁` and on to `m₂`, and a setting
changed only to a value of a record of this program: of a snapshot that was signed with the stored
key, or of a transaction that is the program's own. -/
structure RestoresOwn (P : Platform) (signed : Bytes → SystemStateSnapshot → Prop)
    (own : Bytes → Prop) (w : World) (m₁ m₂ : Machine) : Prop where
  snapshot : m₁ = w.machine ∨ ∃ b key s s₀, w.files w.defaultSnapshotPath = some b ∧
    P.snapshot.fromStr b = .ok s ∧ w.storeKey P w.defaultSnapshotPath = some key ∧ signed key s₀ ∧
    s.unsigned = s₀.unsigned ∧ s.record.Explains w.machine m₁
  transaction : m₂ = m₁ ∨ ∃ b tx, w.files w.transactionPath = some b ∧
    P.transaction.fromStr b = .ok tx ∧ own b ∧ tx.record.Explains m₁ m₂

/-- A snapshot that the recovery finds is one that was signed. -/
theorem exists_signed_of_bootSnapshot (henc : P.snapshot.toVec = snapshotCodec.toVec)
    {signed : Bytes → SystemStateSnapshot → Prop}
    (hmac : ∀ b s key, w.files w.defaultSnapshotPath = some b → P.snapshot.fromStr b = .ok s →
      w.storeKey P w.defaultSnapshotPath = some key → MacSecure P (signed key) key s)
    {s : SystemStateSnapshot} (hboot : w.bootSnapshot P = some s) :
    ∃ b key s₀, w.files w.defaultSnapshotPath = some b ∧ P.snapshot.fromStr b = .ok s ∧
      w.storeKey P w.defaultSnapshotPath = some key ∧ signed key s₀ ∧ s.unsigned = s₀.unsigned := by
  have hsnap : w.snapshotAt P w.defaultSnapshotPath = some s := by
    unfold World.bootSnapshot at hboot
    split at hboot
    · exact hboot
    · cases hboot
  obtain ⟨b, key, hb, hkey, hread⟩ := World.exists_of_snapshotAt hsnap
  have hverify := World.verifyHmac_of_snapshotAt hsnap hkey
  obtain ⟨s₀, hsigned, heq⟩ := (hmac b s key hb hread hkey).signed_of_verifyHmac henc hverify
  exact ⟨b, key, s₀, hb, hread, hkey, hsigned, heq⟩

/-- **No restore from foreign data.**  An undisturbed `RollbackOptimizations` restores nothing but
the program's own records exactly when the file of the transaction does not read as one, is the
program's own, or has all its values in force after the snapshot recovery.  Where it does not read
as a transaction or is the program's own, no disturbance changes that. -/
theorem rollback_restores_own_iff (F V : Type) (henc : P.snapshot.toVec = snapshotCodec.toVec)
    (signed : Bytes → SystemStateSnapshot → Prop) (own : Bytes → Prop) (d : Daemon)
    (hmac : ∀ b s key, d.world.files d.world.defaultSnapshotPath = some b →
      P.snapshot.fromStr b = .ok s → d.world.storeKey P d.world.defaultSnapshotPath = some key →
      MacSecure P (signed key) key s) :
    (∀ (a : Answers F V) (text : Call → String), a.env = .faultless text →
      (RestoresOwn P signed own d.world
          ((checkAndRecover P a.now none).run a.env d.world).state.machine
          (handleRequest P a .rollbackOptimizations d).state.world.machine ↔
        ∀ b tx, d.world.files d.world.transactionPath = some b →
          P.transaction.fromStr b = .ok tx →
            own b ∨ tx.record.InForce (d.world.snapshotMachine P))) ∧
      ∀ a : Answers F V, (∀ b tx, d.world.files d.world.transactionPath = some b →
          P.transaction.fromStr b = .ok tx → own b) →
        RestoresOwn P signed own d.world
          ((checkAndRecover P a.now none).run a.env d.world).state.machine
          (handleRequest P a .rollbackOptimizations d).state.world.machine := by
  have hsnapshot : ∀ m₁ : Machine, (m₁ = d.world.machine ∨ ∃ s, d.world.bootSnapshot P = some s ∧
      s.record.Explains d.world.machine m₁) → m₁ = d.world.machine ∨ ∃ b key s s₀,
        d.world.files d.world.defaultSnapshotPath = some b ∧ P.snapshot.fromStr b = .ok s ∧
        d.world.storeKey P d.world.defaultSnapshotPath = some key ∧ signed key s₀ ∧
        s.unsigned = s₀.unsigned ∧ s.record.Explains d.world.machine m₁ := by
    intro m₁ h
    obtain hsame | ⟨s, hboot, hexplains⟩ := h
    · exact .inl hsame
    · obtain ⟨b, key, s₀, hb, hread, hkey, hsigned, heq⟩ :=
        exists_signed_of_bootSnapshot henc hmac hboot
      exact .inr ⟨b, key, s, s₀, hb, hread, hkey, hsigned, heq, hexplains⟩
  constructor
  · intro a text ha
    -- undisturbed, the rollback writes the one record and then the other
    rw [machine_rollbackOptimizations ha, ha, machine_checkAndRecover]
    constructor
    · intro h b tx hb htx
      by_cases hown : own b
      · exact .inl hown
      right
      obtain hsame | ⟨b', tx', hb', -, hown', -⟩ := h.transaction
      · rw [hb, Option.bind_some, htx] at hsame
        exact withRecord_eq_self_iff.mp hsame
      · rw [hb, Option.some.injEq] at hb'
        subst hb'
        exact absurd hown' hown
    · intro h
      constructor
      case snapshot =>
        apply hsnapshot
        unfold World.snapshotMachine
        cases hboot : d.world.bootSnapshot P with
        | none => exact .inl rfl
        | some s => exact .inr ⟨s, rfl, explains_withRecord _ _⟩
      case transaction =>
        cases hb : d.world.files d.world.transactionPath with
        | none => exact .inl rfl
        | some b =>
          rw [Option.bind_some]
          cases htx : P.transaction.fromStr b with
          | error e => exact .inl rfl
          | ok tx =>
            obtain hown | hforce := h b tx hb htx
            · exact .inr ⟨b, tx, rfl, htx, hown, explains_withRecord _ _⟩
            · exact .inl (withRecord_eq_self_iff.mpr hforce)
  · intro a hown
    -- disturbed, it writes parts of them
    have hrecovered := holds_checkAndRecover_recovered P a.env d.world a.now
    unfold handleRequest handleRequestAuthorized
    simp only [Bool.not_true, Bool.and_false, Bool.false_eq_true, if_false]
    rw [Daemon.onWorld, Daemon.world_stopActive]
    cases hrun : (checkAndRecover P a.now none).run a.env d.world with
    | crashed w₁ =>
      exact ⟨hsnapshot _ (hrecovered.of_crashed hrun).machine, .inl rfl⟩
    | returned crashReport w₁ =>
      have hw₁ := hrecovered.of_returned hrun
      refine ⟨hsnapshot _ hw₁.machine, ?_⟩
      have hpath : w₁.transactionPath = d.world.transactionPath := by
        unfold World.transactionPath World.storageDir
        rw [hw₁.drive]
      have hexplained := holds_recoverOrphanedTransaction_explained P a.env w₁
      rw [Run.holds_iff_state, hpath, hw₁.transaction] at hexplained
      rw [Run.bind_returned, Daemon.onWorld]
      cases htx : (recoverOrphanedTransaction P).run a.env w₁ with
      | crashed w₂ =>
        rw [htx] at hexplained
        refine hexplained.imp_right ?_
        rintro ⟨b, tx, hb, hread, hexplains⟩
        exact ⟨b, tx, hb, hread, hown b tx hb hread, hexplains⟩
      | returned r w₂ =>
        rw [htx] at hexplained
        refine hexplained.imp_right ?_
        rintro ⟨b, tx, hb, hread, hexplains⟩
        exact ⟨b, tx, hb, hread, hown b tx hb hread, hexplains⟩

/-- On the desktop, a rollback restores nothing but the snapshot that was signed. -/
theorem rollback_restores_own_desktop :
    RestoresOwn .portable (fun _ s₀ => s₀ = desktopBaseline) (fun _ => False) .desktopStored
      ((checkAndRecover .portable Answers.working.now none).run
        Answers.working.env .desktopStored).state.machine
      (handleRequest .portable Answers.working .rollbackOptimizations
        (.start .desktopStored [] 4)).state.world.machine := by
  have hown := rollback_restores_own_iff (P := .portable) Unit Unit rfl
    (fun _ s₀ => s₀ = desktopBaseline) (fun _ => False) (.start .desktopStored [] 4)
    macSecure_desktopStored
  apply (hown.1 .working errorText rfl).mpr
  intro b tx hb
  have hnone : World.desktopStored.files World.desktop.transactionPath = none := by
    have hstored : World.desktopStored = World.desktop.stored .portable default desktopBaseline
        World.desktop.defaultSnapshotPath := rfl
    rw [hstored]
    unfold World.stored
    rw [World.files_writeFile_of_ne _ _ (by decide), World.files_writeFile_of_ne _ _ (by decide)]
    rfl
  have hnone' : (Daemon.start .desktopStored [] 4).world.files
      (Daemon.start .desktopStored [] 4).world.transactionPath = none := hnone
  rw [hnone'] at hb
  cases hb

/-- A transaction with Game Mode on, which the optimizer never made. -/
def foreignTransaction : OptimizationTransaction :=
  { newTransaction default with previousGameMode := some true }

/-- The desktop with the foreign transaction in the place of a stored one. -/
def World.planted : World :=
  World.desktop.writeFile World.desktop.transactionPath
    (transactionCodec.toStringPretty foreignTransaction)

/-- **Counterexample.**  Nothing was signed and nothing stored, and the rollback turns Game Mode
on. -/
theorem rollback_restores_foreign :
    ¬ RestoresOwn .portable (fun _ _ => False) (fun _ => False) .planted
      ((checkAndRecover .portable Answers.working.now none).run
        Answers.working.env .planted).state.machine
      (handleRequest .portable Answers.working .rollbackOptimizations
        (.start .planted [] 4)).state.world.machine := by
  intro h
  have hpath : World.planted.transactionPath = World.desktop.transactionPath := rfl
  have hfile : World.planted.files World.planted.transactionPath =
      some (transactionCodec.toStringPretty foreignTransaction) := by
    rw [hpath]
    exact World.files_writeFile_self ..
  have hread : transactionCodec.fromStr
      (transactionCodec.toStringPretty foreignTransaction) = .ok foreignTransaction :=
    lawful_transactionCodec.fromStr_toStringPretty foreignTransaction
  have hnone : World.planted.bootSnapshot .portable = none := by
    have hsnap : World.planted.files World.planted.defaultSnapshotPath = none :=
      (World.files_writeFile_of_ne _ _ (by decide)).trans rfl
    unfold World.bootSnapshot
    rw [World.snapshotAt_of_none hsnap, ite_self]
  have hmachine : World.planted.snapshotMachine .portable = .desktop := by
    unfold World.snapshotMachine
    rw [hnone]
    rfl
  obtain hsame | ⟨_, _, _, _, hown, _⟩ := h.transaction
  · have hfinal := machine_rollbackOptimizations (P := .portable) (a := Answers.working) rfl
      (d := .start .planted [] 4)
    have hworld : (Daemon.start .planted [] 4).world = .planted := rfl
    have henv : Answers.working.env = .faultless errorText := rfl
    have hcodec : Platform.portable.transaction = transactionCodec := rfl
    rw [hworld, hfile, Option.bind_some, hcodec, hread, hmachine] at hfinal
    rw [hfinal, henv, machine_checkAndRecover, hmachine] at hsame
    have hgameBar : (Machine.desktop.withRecord foreignTransaction.record).gameBar =
        Machine.desktop.gameBar := congrArg Machine.gameBar hsame
    rw [Machine.withRecord_eq] at hgameBar
    exact absurd hgameBar (by decide)
  · exact hown

end ValOpt
