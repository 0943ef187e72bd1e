import ValOpt.State.Equiv.Store

/-!
# Replacing a snapshot

`saveAtomicWithBase` writes to a temporary file and moves it over the target.  Where that move
fails, it removes the target and renames the temporary file; between the two there is no snapshot.
`LosesTarget` is the pattern of failing calls in which the target is lost, and
`save_keeps_snapshot_iff` says that in every other one the target holds the old snapshot or the new
one.
-/

namespace ValOpt

open Effect

variable {P : Platform} {env : Env Call} {w : World} {now : Ambient} {target : Path}
  {key : Bytes} {N : SystemStateSnapshot} {base : Option (List String)} {dir : List String}

/-! ### Up to the write of the temporary file -/

/-- The calls before the temporary file is written succeed; the key is there already. -/
def SaveReachesWrite (env : Env Call) : Prop :=
  ∀ c ∈ [Call.validatePath .save, .createDirAll, .readKey, .unprotectKey], env.outcome c = .ok

/-- A key that is there is read. -/
theorem run_getOrGenerateKey (hkey : w.storeKey P target = some key)
    (hread : env.outcome .readKey = .ok) (hunprotect : env.outcome .unprotectKey = .ok) :
    (getOrGenerateKey P now dir target).run env w = .returned (.ok key) w := by
  obtain ⟨ciphertext, hfile, hplain⟩ := Option.bind_eq_some_iff.mp hkey
  obtain ⟨plaintext, hplain, hk⟩ := Option.bind_eq_some_iff.mp hplain
  have hfile' : w.files (target.withFileName snapshotKeyFilename) = some ciphertext := hfile
  have hexists : w.pathExists dir (target.withFileName snapshotKeyFilename) = true :=
    w.pathExists_of_isSome (by rw [hfile']; rfl) dir
  have hplain' := run_readMachine (w := w) (f := fun _ => P.unprotect ciphertext) hunprotect hplain
  unfold getOrGenerateKey
  simp only [Eff.run_bind, run_pathExists, Run.bind_returned, hexists, if_true,
    run_readFile hread hfile', hplain', hk, Eff.run_pure]

/-- A key that is there is not written, whatever fails. -/
theorem holds_getOrGenerateKey (hkey : (w.files target.keyPath).isSome) :
    ((getOrGenerateKey P now dir target).run env w).Holds
      (fun r w' => w' = w ∧
        ((∃ k, r = .ok k) → env.outcome .readKey = .ok ∧ env.outcome .unprotectKey = .ok))
      (fun w' => w' = w) := by
  have hkey' : w.pathExists dir (target.withFileName snapshotKeyFilename) = true :=
    w.pathExists_of_isSome hkey dir
  unfold getOrGenerateKey
  simp only [Eff.run_bind, run_pathExists, Run.bind_returned, hkey', if_true]
  refine Run.Holds.bind holds_readFile_ok ?_
  rintro (e | ciphertext) w₁ ⟨rfl, hread⟩
  · exact ⟨rfl, by rintro ⟨k, ⟨⟩⟩⟩
  dsimp only
  rw [Eff.run_bind]
  refine Run.Holds.bind holds_readMachine_ok ?_
  rintro (e | plaintext) w₂ ⟨rfl, hunprotect⟩
  · exact ⟨rfl, by rintro ⟨k, ⟨⟩⟩⟩
  dsimp only
  cases keyOfPlaintext plaintext with
  | none => exact ⟨rfl, by rintro ⟨k, ⟨⟩⟩⟩
  | some k => exact ⟨rfl, fun _ => ⟨hread _ rfl, hunprotect _ rfl⟩⟩

/-- Where a file is to be replaced, its directory is there. -/
theorem run_createParent (ho : env.outcome .createDirAll = .ok)
    (htarget : (w.files target).isSome) :
    (createParent target).run env w = .returned (.ok ()) w := by
  have hthere : (w.files target).isNone = false := Option.isNone_eq_false_iff.mpr htarget
  exact run_perform_ok ho (by simp only [Op.read, hthere, Bool.false_and]; rfl)

/-- Where the calls succeed, a save over a file comes down to writing the snapshot under the key. -/
theorem run_saveAtomicWithBase_of_reaches {targetPath : Option Path}
    (hacc : w.Accepts base (w.targetOf targetPath))
    (htarget : (w.files (w.targetOf targetPath)).isSome)
    (hkey : w.storeKey P (w.targetOf targetPath) = some key) (hreach : SaveReachesWrite env) :
    (saveAtomicWithBase P now N targetPath base).run env w =
      (writeSnapshot P now N (w.baseDir base) (w.targetOf targetPath) key).run env w := by
  have hvalidate : env.outcome (.validatePath .save) = .ok := hreach _ (by simp)
  have hdir : env.outcome .createDirAll = .ok := hreach _ (by simp)
  have hpath := run_validateSnapshotPath_of_ok hacc hvalidate
  have hmkdir := run_createParent hdir htarget
  unfold saveAtomicWithBase
  simp only [Eff.run_bind, run_getWorld, Run.bind_returned]
  change ((validateSnapshotPath .save (w.targetOf targetPath) base).run env w).bind _ = _
  rw [hpath, Run.bind_returned]
  simp only [Eff.run_bind, hmkdir, Run.bind_returned,
    run_getOrGenerateKey hkey (hreach .readKey (by simp)) (hreach .unprotectKey (by simp))]

/-- A temporary file is not written where a directory has its name. -/
theorem holds_writeSnapshot_of_occupied
    (hoccupied : w.isDirectory dir (tempPath now target) = true) :
    ((writeSnapshot P now N dir target key).run env w).Holds
      (fun r w' => w' = w ∧ ∃ e, r = .error e) (fun w' => w' = w) := by
  unfold writeSnapshot
  simp only [Eff.run_bind, run_isDirectory, Run.bind_returned, hoccupied, unlessDirectory_true]
  refine Run.Holds.bind (holds_read (Q := fun r w' => w' = w ∧ ∃ e, r = .error e) ?_
    fun _ _ => rfl) ?_
  · rintro (e | ⟨⟩) hr
    · exact ⟨rfl, e, rfl⟩
    · cases (hr () rfl).2
  · rintro _ w₁ ⟨rfl, e, rfl⟩
    exact ⟨rfl, _, rfl⟩

/-- Where the temporary file is not written, a save is an error, or dies, and changes nothing. -/
theorem holds_saveAtomicWithBase_of_not_reaches {targetPath : Option Path}
    (hkey : (w.files (w.targetOf targetPath).keyPath).isSome)
    (hreach : SaveReachesWrite env →
      w.isDirectory (w.baseDir base) (tempPath now (w.targetOf targetPath)) = true) :
    ((saveAtomicWithBase P now N targetPath base).run env w).Holds
      (fun r w' => w' = w ∧ ∃ e, r = .error e) (fun w' => w' = w) := by
  unfold saveAtomicWithBase
  rw [Eff.run_bind, run_getWorld, Run.bind_returned, Eff.run_bind]
  refine Run.Holds.bind (holds_validateSnapshotPath_ok .save _) ?_
  rintro (e | target) w₁ ⟨rfl, hvalidate⟩
  · exact ⟨rfl, _, rfl⟩
  obtain ⟨rfl, -, hvalid⟩ := hvalidate _ rfl
  dsimp only
  rw [Eff.run_bind]
  have hparent : ((createParent (w₁.targetOf targetPath)).run env w₁).Holds
      (fun r w' => w' = w₁ ∧ ∀ a, r = .ok a → env.outcome .createDirAll = .ok)
      (fun w' => w' = w₁) := holds_read (fun _ h => ⟨rfl, fun a ha => (h a ha).1⟩) fun _ _ => rfl
  refine Run.Holds.bind hparent ?_
  rintro (e | ⟨⟩) w₂ ⟨rfl, hdir⟩
  · exact ⟨rfl, _, rfl⟩
  dsimp only
  rw [Eff.run_bind]
  refine Run.Holds.bind (holds_getOrGenerateKey hkey) ?_
  rintro (e | key) w₃ ⟨rfl, hk⟩
  · exact ⟨rfl, _, rfl⟩
  · -- all four calls have succeeded, so the name of the temporary file is taken
    obtain ⟨hread, hunprotect⟩ := hk ⟨_, rfl⟩
    refine holds_writeSnapshot_of_occupied (hreach ?_)
    intro c hc
    simp only [List.mem_cons, List.not_mem_nil, or_false] at hc
    rcases hc with rfl | rfl | rfl | rfl
    · exact hvalid
    · exact hdir _ rfl
    · exact hread
    · exact hunprotect

/-! ### Replacing the target -/

/-- The move fails, the target is removed, and the temporary file is not renamed. -/
def LosesOther (env : Env Call) : Prop :=
  (∃ k, env.outcome .moveFileEx = .fail k) ∧ env.outcome .removeTarget = .ok ∧
    env.outcome .renameTemp ≠ .ok

/-- The same for a target with the name of the temporary file: it is removed in the place of the
target, or as the temporary file at the end. -/
def LosesOwn (env : Env Call) : Prop :=
  (∃ k, env.outcome .moveFileEx = .fail k) ∧
    (env.outcome .removeTarget = .ok ∨ (∃ k, env.outcome .removeTarget = .fail k) ∧
      (∃ k, env.outcome .renameTemp = .fail k) ∧ env.outcome .removeTemp = .ok)

/-- How a replacement ends: files that are not involved stay, and the target is lost, or holds the
new bytes, or, if the replacement was not successful, what it held before. -/
structure ReplaceEnds (w : World) (temp target : Path) (bytes : Bytes) (lost ok : Prop)
    (w' : World) : Prop where
  drive : w'.drive = w.drive
  others : ∀ q, q ≠ temp → q ≠ target → w'.files q = w.files q
  target_of_lost : lost → w'.files target = none
  target_of_kept : ¬ lost → w'.files target = some bytes ∨ (w'.files target = w.files target ∧ ¬ ok)

theorem ReplaceEnds.lostFile {w w' : World} {temp target : Path} {bytes : Bytes} {lost ok : Prop}
    (hlost : lost) (hdata : w'.drive = w.drive)
    (hothers : ∀ q, q ≠ temp → q ≠ target → w'.files q = w.files q)
    (h : w'.files target = none) : ReplaceEnds w temp target bytes lost ok w' :=
  ⟨hdata, hothers, fun _ => h, fun hn => absurd hlost hn⟩

theorem ReplaceEnds.newFile {w w' : World} {temp target : Path} {bytes : Bytes} {lost ok : Prop}
    (hkept : ¬ lost) (hdata : w'.drive = w.drive)
    (hothers : ∀ q, q ≠ temp → q ≠ target → w'.files q = w.files q)
    (h : w'.files target = some bytes) : ReplaceEnds w temp target bytes lost ok w' :=
  ⟨hdata, hothers, fun hl => absurd hl hkept, fun _ => .inl h⟩

theorem ReplaceEnds.oldFile {w w' : World} {temp target : Path} {bytes : Bytes} {lost ok : Prop}
    (hkept : ¬ lost) (hok : ¬ ok) (hdata : w'.drive = w.drive)
    (hothers : ∀ q, q ≠ temp → q ≠ target → w'.files q = w.files q)
    (h : w'.files target = w.files target) : ReplaceEnds w temp target bytes lost ok w' :=
  ⟨hdata, hothers, fun hl => absurd hl hkept, fun _ => .inr ⟨h, hok⟩⟩

/-- The file at `temp` moved over the target. -/
theorem World.files_moved {temp target : Path} {bytes : Bytes} (w : World) :
    (∀ q, q ≠ temp → q ≠ target →
        ((w.removeFile temp).writeFile target bytes).files q = w.files q) ∧
      ((w.removeFile temp).writeFile target bytes).files target = some bytes := by
  refine ⟨fun q ht hq => ?_, World.files_writeFile_self ..⟩
  rw [World.files_writeFile_of_ne _ _ hq, World.files_removeFile_of_ne _ ht]

/-- A call that kills the program neither succeeds nor fails. -/
theorem not_ok_of_diesIn {c : Call} (h : env.DiesIn c) :
    env.outcome c ≠ .ok ∧ ∀ k, env.outcome c ≠ .fail k := by
  obtain ⟨k, hk⟩ := h
  simp [hk]

theorem holds_replaceTarget_of_ne {temp : Path} {bytes : Bytes} (hne : temp ≠ target)
    (htemp : w.files temp = some bytes) (htarget : (w.files target).isSome) :
    ((replaceTarget dir temp target).run env w).Holds
      (fun r w' => ReplaceEnds w temp target bytes (LosesOther env) (r = .ok ()) w')
      (fun w' => ReplaceEnds w temp target bytes (LosesOther env) False w') := by
  unfold replaceTarget
  rw [Eff.run_bind, run_isDirectory, Run.bind_returned, w.isDirectory_of_isSome htarget]
  simp only [unlessDirectory_false]
  rw [Eff.run_bind]
  refine Run.Holds.bind ((holds_moveFile_of_some htemp).mono (fun _ _ h => h) ?_) ?_
  · rintro w₁ ⟨hdies, rfl⟩
    refine .oldFile ?_ id rfl (fun _ _ _ => rfl) rfl
    rintro ⟨⟨k, hk⟩, -⟩
    exact (not_ok_of_diesIn hdies).2 k hk
  rintro r w₁ (⟨rfl, ho, rfl⟩ | ⟨⟨e, rfl⟩, hmove, rfl⟩)
  · -- the fast path
    refine .newFile ?_ rfl w.files_moved.1 w.files_moved.2
    rintro ⟨⟨k, hk⟩, -⟩
    rw [ho] at hk
    cases hk
  dsimp only
  rw [Eff.run_bind]
  refine Run.Holds.bind ((holds_removeFile_of_isSome htarget).mono (fun _ _ h => h) ?_) ?_
  · rintro w₂ ⟨hdies, rfl⟩
    refine .oldFile ?_ id rfl (fun _ _ _ => rfl) rfl
    rintro ⟨-, ho, -⟩
    exact (not_ok_of_diesIn hdies).1 ho
  intro _ w₂ hw₂
  -- in both cases the temporary file is still there
  have htemp₂ : w₂.files temp = some bytes := by
    rcases hw₂ with ⟨-, rfl⟩ | ⟨-, rfl⟩
    · rw [World.files_removeFile_of_ne _ hne, htemp]
    · exact htemp
  have hothers₂ : ∀ q, q ≠ temp → q ≠ target → w₂.files q = w₁.files q := by
    rcases hw₂ with ⟨-, rfl⟩ | ⟨-, rfl⟩
    · exact fun q _ hq => World.files_removeFile_of_ne _ hq
    · exact fun _ _ _ => rfl
  have hdata₂ : w₂.drive = w₁.drive := by
    rcases hw₂ with ⟨-, rfl⟩ | ⟨-, rfl⟩ <;> rfl
  -- without the rename the target is gone where it was removed, and the old one elsewhere
  have hend : env.outcome .renameTemp ≠ .ok → ∀ (ok : Prop) (w₃ : World), ¬ ok →
      w₃.drive = w₂.drive → (∀ q, q ≠ temp → w₃.files q = w₂.files q) →
      ReplaceEnds w₁ temp target bytes (LosesOther env) ok w₃ := by
    intro hrename ok w₃ hok hdata₃ hfiles₃
    have hothers₃ : ∀ q, q ≠ temp → q ≠ target → w₃.files q = w₁.files q :=
      fun q ht hq => (hfiles₃ q ht).trans (hothers₂ q ht hq)
    have htarget₃ := hfiles₃ target hne.symm
    rcases hw₂ with ⟨ho, rfl⟩ | ⟨⟨k, hk⟩, rfl⟩
    · refine .lostFile ⟨hmove, ho, hrename⟩ (hdata₃.trans hdata₂) hothers₃ ?_
      rw [htarget₃, World.files_removeFile_self]
    · refine .oldFile ?_ hok (hdata₃.trans hdata₂) hothers₃ htarget₃
      rintro ⟨-, ho, -⟩
      rw [hk] at ho
      cases ho
  rw [Eff.run_bind]
  refine Run.Holds.bind ((holds_moveFile_of_some htemp₂).mono (fun _ _ h => h) ?_) ?_
  · rintro w₃ ⟨hdies, rfl⟩
    exact hend (not_ok_of_diesIn hdies).1 _ _ id rfl fun _ _ => rfl
  rintro r w₃ (⟨rfl, ho, rfl⟩ | ⟨⟨e', rfl⟩, ⟨k, hk⟩, rfl⟩)
  · refine .newFile ?_ hdata₂ ?_ w₂.files_moved.2
    · rintro ⟨-, -, hrename⟩
      exact hrename ho
    · exact fun q ht hq => (w₂.files_moved.1 q ht hq).trans (hothers₂ q ht hq)
  have hrename : env.outcome .renameTemp ≠ .ok := by simp [hk]
  dsimp only
  rw [Eff.run_bind]
  refine Run.Holds.bind ((holds_removeFile_of_isSome (by simp [htemp₂])).mono
    (fun _ _ h => h) ?_) ?_
  · rintro w₄ ⟨-, rfl⟩
    exact hend hrename _ _ id rfl fun _ _ => rfl
  rintro _ w₄ (⟨-, rfl⟩ | ⟨-, rfl⟩)
  · exact hend hrename _ _ (by rintro ⟨⟩) rfl fun q hq => World.files_removeFile_of_ne _ hq
  · exact hend hrename _ _ (by rintro ⟨⟩) rfl fun _ _ => rfl

theorem holds_replaceTarget_self {bytes : Bytes} (htarget : w.files target = some bytes) :
    ((replaceTarget dir target target).run env w).Holds
      (fun r w' => ReplaceEnds w target target bytes (LosesOwn env) (r = .ok ()) w')
      (fun w' => ReplaceEnds w target target bytes (LosesOwn env) False w') := by
  have hothers : ∀ w' : World, (∀ q, q ≠ target → w'.files q = w.files q) →
      ∀ q, q ≠ target → q ≠ target → w'.files q = w.files q := fun _ h q hq _ => h q hq
  unfold replaceTarget
  rw [Eff.run_bind, run_isDirectory, Run.bind_returned,
    w.isDirectory_of_isSome (by rw [htarget]; rfl)]
  simp only [unlessDirectory_false]
  rw [Eff.run_bind]
  refine Run.Holds.bind ((holds_moveFile_of_some htarget).mono (fun _ _ h => h) ?_) ?_
  · rintro w₁ ⟨hdies, rfl⟩
    refine .newFile ?_ rfl (fun _ _ _ => rfl) htarget
    rintro ⟨⟨k, hk⟩, -⟩
    exact (not_ok_of_diesIn hdies).2 k hk
  rintro r w₁ (⟨rfl, ho, rfl⟩ | ⟨⟨e, rfl⟩, hmove, rfl⟩)
  · refine .newFile ?_ rfl w.files_moved.1 w.files_moved.2
    rintro ⟨⟨k, hk⟩, -⟩
    rw [ho] at hk
    cases hk
  dsimp only
  rw [Eff.run_bind]
  refine Run.Holds.bind ((holds_removeFile_of_isSome (by simp [htarget])).mono
    (fun _ _ h => h) ?_) ?_
  · rintro w₂ ⟨hdies, rfl⟩
    refine .newFile ?_ rfl (fun _ _ _ => rfl) htarget
    rintro ⟨-, ho | ⟨⟨k, hk⟩, -⟩⟩
    · exact (not_ok_of_diesIn hdies).1 ho
    · exact (not_ok_of_diesIn hdies).2 k hk
  rintro _ w₂ (⟨hremove, rfl⟩ | ⟨⟨k, hk⟩, rfl⟩)
  · -- the target went in the place of the old one, and there is nothing to rename
    have hgone : ∀ (ok : Prop) (w₃ : World), w₃ = w₁.removeFile target →
        ReplaceEnds w₁ target target bytes (LosesOwn env) ok w₃ := by
      rintro ok w₃ rfl
      exact .lostFile ⟨hmove, .inl hremove⟩ rfl
        (hothers _ fun q hq => World.files_removeFile_of_ne _ hq) (World.files_removeFile_self ..)
    have hnone : (w₁.removeFile target).files target = none := World.files_removeFile_self ..
    rw [Eff.run_bind]
    refine Run.Holds.bind (holds_moveFile
      (Q := fun r w' => (∃ e, r = .error e) ∧ w' = w₁.removeFile target) ?_ ?_ ?_) ?_
    · intro b _ hb
      rw [hnone] at hb
      cases hb
    · exact fun _ => ⟨⟨_, rfl⟩, rfl⟩
    · exact fun _ _ => hgone _ _ rfl
    rintro _ w₃ ⟨⟨e', rfl⟩, rfl⟩
    dsimp only
    rw [Eff.run_bind]
    refine Run.Holds.bind (holds_removeFile
      (Q := fun _ w' => w' = w₁.removeFile target) ?_ (fun _ => rfl) ?_) ?_
    · intro _ hsome
      rw [hnone] at hsome
      cases hsome
    · exact fun _ _ => hgone _ _ rfl
    · rintro _ w₄ rfl
      exact hgone _ _ rfl
  · -- the file is lost only if it is removed as the temporary one
    have hkept : ¬ ((∃ k, env.outcome .renameTemp = .fail k) ∧ env.outcome .removeTemp = .ok) →
        ¬ LosesOwn env := by
      rintro h ⟨-, ho | ⟨-, hremove⟩⟩
      · rw [hk] at ho
        cases ho
      · exact h hremove
    rw [Eff.run_bind]
    refine Run.Holds.bind ((holds_moveFile_of_some htarget).mono (fun _ _ h => h) ?_) ?_
    · rintro w₃ ⟨hdies, rfl⟩
      refine .newFile (hkept ?_) rfl (fun _ _ _ => rfl) htarget
      rintro ⟨⟨k', hk'⟩, -⟩
      exact (not_ok_of_diesIn hdies).2 k' hk'
    rintro r w₃ (⟨rfl, ho, rfl⟩ | ⟨⟨e', rfl⟩, hrename, rfl⟩)
    · refine .newFile (hkept ?_) rfl w₂.files_moved.1 w₂.files_moved.2
      rintro ⟨⟨k', hk'⟩, -⟩
      rw [ho] at hk'
      cases hk'
    dsimp only
    rw [Eff.run_bind]
    refine Run.Holds.bind ((holds_removeFile_of_isSome (by simp [htarget])).mono
      (fun _ _ h => h) ?_) ?_
    · rintro w₄ ⟨hdies, rfl⟩
      exact .newFile (hkept fun h => (not_ok_of_diesIn hdies).1 h.2) rfl (fun _ _ _ => rfl) htarget
    rintro _ w₄ (⟨hremove, rfl⟩ | ⟨⟨k', hk'⟩, rfl⟩)
    · exact .lostFile ⟨hmove, .inr ⟨⟨k, hk⟩, hrename, hremove⟩⟩ rfl
        (hothers _ fun q hq => World.files_removeFile_of_ne _ hq) (World.files_removeFile_self ..)
    · refine .newFile (hkept ?_) rfl (fun _ _ _ => rfl) htarget
      rintro ⟨-, ho⟩
      rw [hk'] at ho
      cases ho

/-! ### Writing a snapshot -/

/-- The pattern of calls in which a save of `bytes` loses its target.  A target with the very name
of the temporary file is also lost where the write of that file is cut short. -/
def LosesTarget (env : Env Call) (now : Ambient) (target : Path) (bytes : Bytes) : Prop :=
  if tempPath now target = target then
    (∃ n < bytes.length,
      env.outcome .writeTemp = .fail (n + 1) ∨ env.outcome .writeTemp = .crash (n + 1)) ∨
    (env.outcome .writeTemp = .ok ∧ LosesOwn env)
  else env.outcome .writeTemp = .ok ∧ LosesOther env

/-- How a save ends, once its key is there. -/
structure SaveEnds (w : World) (target : Path) (bytes : Bytes) (lost ok : Prop) (w' : World) :
    Prop where
  drive : w'.drive = w.drive
  keyFile : w'.files target.keyPath = w.files target.keyPath
  target_of_lost : lost → ∀ b, w'.files target = some b → ∃ n < bytes.length, b = bytes.take n
  target_of_kept : ¬ lost → w'.files target = some bytes ∨ (w'.files target = w.files target ∧ ¬ ok)

theorem SaveEnds.mono {w w' : World} {bytes : Bytes} {lost ok ok' : Prop}
    (h : SaveEnds w target bytes lost ok w') (hok : ok' → ok) :
    SaveEnds w target bytes lost ok' w' := by
  refine ⟨h.drive, h.keyFile, h.target_of_lost, ?_⟩
  intro hkept
  exact (h.target_of_kept hkept).imp_right fun hold => ⟨hold.1, mt hok hold.2⟩

/-- A replacement, after the temporary file was written. -/
theorem ReplaceEnds.saveEnds {w w₁ w' : World} {temp : Path} {bytes : Bytes}
    {lost lost' ok : Prop} (h : ReplaceEnds w₁ temp target bytes lost ok w')
    (htemp : tempPath now target = temp) (hlost : lost ↔ lost') (hkey : target ≠ target.keyPath)
    (hw₁ : w₁ = w.writeFile (tempPath now target) bytes) :
    SaveEnds w target bytes lost' ok w' := by
  subst htemp
  have htempkey := tempPath_ne_keyPath now target target
  refine ⟨by rw [h.drive, hw₁]; rfl, ?_, ?_, ?_⟩
  · rw [h.others _ htempkey.symm hkey.symm, hw₁, World.files_writeFile_of_ne _ _ htempkey.symm]
  · intro hl b hb
    rw [h.target_of_lost (hlost.mpr hl)] at hb
    cases hb
  · intro hl
    rcases h.target_of_kept (mt hlost.mp hl) with hnew | ⟨hold, hok⟩
    · exact .inl hnew
    · by_cases htemp : tempPath now target = target
      · left
        rw [hold, hw₁, htemp, World.files_writeFile_self]
      · right
        refine ⟨?_, hok⟩
        rw [hold, hw₁, World.files_writeFile_of_ne _ _ (Ne.symm htemp)]

/-- A write of the temporary file that does not succeed. -/
theorem saveEnds_tornWrite {bytes : Bytes} {ok : Prop} (k : ℕ) (hok : ¬ ok)
    (hk : env.outcome .writeTemp = .fail k ∨ env.outcome .writeTemp = .crash k) :
    SaveEnds w target bytes (LosesTarget env now target bytes) ok
      (w.tornWrite (tempPath now target) bytes k) := by
  have htempkey := tempPath_ne_keyPath now target target
  have hnotok : env.outcome .writeTemp ≠ .ok := by
    rcases hk with hk | hk <;> simp [hk]
  unfold LosesTarget
  by_cases htemp : tempPath now target = target
  · simp only [if_pos htemp, hnotok, false_and, or_false]
    cases k with
    | zero =>
      refine ⟨rfl, rfl, ?_, fun _ => .inr ⟨rfl, hok⟩⟩
      rintro ⟨n, -, hn⟩
      rcases hk with hk | hk <;> rw [hk] at hn <;> simp at hn
    | succ n =>
      have htarget : (w.tornWrite (tempPath now target) bytes (n + 1)).files target =
          some (bytes.take n) := by
        rw [World.tornWrite, htemp, World.files_writeFile_self]
      refine ⟨rfl, World.files_writeFile_of_ne _ _ htempkey.symm, ?_, ?_⟩
      · rintro ⟨n', hn', hk'⟩ b hb
        have hnn : n = n' := by
          rcases hk with hk | hk <;> rw [hk] at hk' <;> simpa using hk'
        rw [htarget, hnn] at hb
        cases hb
        exact ⟨n', hn', rfl⟩
      · intro hkept
        -- all bytes are there, so the file is complete
        have hn : bytes.length ≤ n := by
          by_contra hlt
          exact hkept ⟨n, by omega, hk⟩
        left
        rw [htarget, List.take_of_length_le hn]
  · simp only [if_neg htemp, hnotok, false_and]
    refine ⟨?_, ?_, fun h => h.elim, fun _ => .inr ⟨?_, hok⟩⟩
    · cases k <;> rfl
    · cases k with
      | zero => rfl
      | succ n => exact World.files_writeFile_of_ne _ _ htempkey.symm
    · cases k with
      | zero => rfl
      | succ n => exact World.files_writeFile_of_ne _ _ (Ne.symm htemp)

/-- The replacement that follows a complete temporary file. -/
theorem holds_replaceTarget_written {bytes : Bytes} (hkey : target ≠ target.keyPath)
    (htarget : (w.files target).isSome) (ho : env.outcome .writeTemp = .ok) :
    ((replaceTarget dir (tempPath now target) target).run env
        (w.writeFile (tempPath now target) bytes)).Holds
      (fun r w' => SaveEnds w target bytes (LosesTarget env now target bytes) (r = .ok ()) w')
      (fun w' => SaveEnds w target bytes (LosesTarget env now target bytes) False w') := by
  have hlost : (if tempPath now target = target then LosesOwn env else LosesOther env) ↔
      LosesTarget env now target bytes := by
    unfold LosesTarget
    by_cases htemp : tempPath now target = target
    · simp [if_pos htemp, ho]
    · simp [if_neg htemp, ho]
  by_cases htemp : tempPath now target = target
  · rw [if_pos htemp] at hlost
    have hfile : (w.writeFile (tempPath now target) bytes).files target = some bytes := by
      rw [htemp, World.files_writeFile_self]
    rw [htemp] at hfile ⊢
    exact (holds_replaceTarget_self hfile).mono
      (fun _ _ h => h.saveEnds htemp hlost hkey (by rw [htemp]))
      (fun _ h => h.saveEnds htemp hlost hkey (by rw [htemp]))
  · rw [if_neg htemp] at hlost
    have hsome : ((w.writeFile (tempPath now target) bytes).files target).isSome := by
      rw [World.files_writeFile_of_ne _ _ (Ne.symm htemp)]
      exact htarget
    exact (holds_replaceTarget_of_ne htemp (World.files_writeFile_self ..) hsome).mono
      (fun _ _ h => h.saveEnds rfl hlost hkey rfl) (fun _ h => h.saveEnds rfl hlost hkey rfl)

/-- Writing a snapshot ends with the target lost, new or old, as the calls decide. -/
theorem holds_writeSnapshot (hkey : target ≠ target.keyPath) (htarget : (w.files target).isSome)
    (hfree : w.isDirectory dir (tempPath now target) = false) :
    ((writeSnapshot P now N dir target key).run env w).Holds
      (fun r w' => (∀ a, r = .ok a → a = (target, N.signWithKey P key)) ∧
        SaveEnds w target (P.snapshot.toStringPretty (N.signWithKey P key))
          (LosesTarget env now target (P.snapshot.toStringPretty (N.signWithKey P key)))
          (∃ a, r = .ok a) w')
      (fun w' => SaveEnds w target (P.snapshot.toStringPretty (N.signWithKey P key))
        (LosesTarget env now target (P.snapshot.toStringPretty (N.signWithKey P key)))
        False w') := by
  unfold writeSnapshot
  dsimp only
  generalize hbytes : P.snapshot.toStringPretty (N.signWithKey P key) = bytes
  rw [Eff.run_bind, run_isDirectory, Run.bind_returned, hfree, unlessDirectory_false, Eff.run_bind]
  refine Run.Holds.bind (holds_writeFile (Q := fun r w' =>
    (r = .ok () ∧ env.outcome .writeTemp = .ok ∧ w' = w.writeFile (tempPath now target) bytes) ∨
      ((∃ e, r = .error e) ∧ SaveEnds w target bytes (LosesTarget env now target bytes) False w'))
    ?_ ?_ ?_) ?_
  · exact fun ho => .inl ⟨rfl, ho, rfl⟩
  · exact fun k hk => .inr ⟨⟨_, rfl⟩, saveEnds_tornWrite k id (.inl hk)⟩
  · exact fun k hk => saveEnds_tornWrite k id (.inr hk)
  rintro r w₁ (⟨rfl, ho, hw₁⟩ | ⟨⟨e, rfl⟩, h⟩)
  · rw [Eff.run_bind, hw₁]
    refine Run.Holds.bind (holds_replaceTarget_written hkey htarget ho) ?_
    rintro (e | ⟨⟩) w₂ h
    · exact ⟨by rintro a ⟨⟩, h.mono (by rintro ⟨a, ⟨⟩⟩)⟩
    · refine ⟨?_, h.mono fun _ => rfl⟩
      rintro a ⟨⟩
      rfl
  · exact ⟨by rintro a ⟨⟩, h.mono (by rintro ⟨a, ⟨⟩⟩)⟩

/-- **Replacing a snapshot.**  The target holds a snapshot `p` that loads, and `N` is saved over it,
whatever becomes of the calls of the save.  Afterwards `p` or `N` loads, and `N` where the save was
successful, iff the calls do not follow the pattern that loses the target. -/
theorem save_keeps_snapshot_iff (hP : P.Lawful) {text : Call → String} {targetPath : Option Path}
    {p : SystemStateSnapshot}
    (hload : (loadAndVerifyWithBase P targetPath base).run (.faultless text) w =
      .returned (.ok p) w)
    (hkey : w.storeKey P (w.targetOf targetPath) = some key) (env : Env Call) (now : Ambient)
    (N : SystemStateSnapshot) :
    (∃ s, (loadAndVerifyWithBase P targetPath base).run (.faultless text)
          ((saveAtomicWithBase P now N targetPath base).run env w).state =
        .returned (.ok s) ((saveAtomicWithBase P now N targetPath base).run env w).state ∧
      (s = p ∨ s = N.signWithKey P key) ∧
      ((∃ a, ((saveAtomicWithBase P now N targetPath base).run env w).value = some (.ok a)) →
        s = N.signWithKey P key)) ↔
      ¬ (SaveReachesWrite env ∧
        w.isDirectory (w.baseDir base) (tempPath now (w.targetOf targetPath)) = false ∧
        LosesTarget env now (w.targetOf targetPath)
          (P.snapshot.toStringPretty (N.signWithKey P key))) := by
  obtain ⟨hacc, hsnap⟩ := load_ok_iff.mp hload
  obtain ⟨b, _, hfile, -, -⟩ := World.exists_of_snapshotAt hsnap
  have hsome : (w.files (w.targetOf targetPath)).isSome := by simp [hfile]
  by_cases hreach : SaveReachesWrite env ∧
      w.isDirectory (w.baseDir base) (tempPath now (w.targetOf targetPath)) = false
  · rw [← and_assoc]
    simp only [hreach, and_self, true_and]
    rw [run_saveAtomicWithBase_of_reaches hacc hsome hkey hreach.1]
    have hne := World.ne_keyPath_of_snapshotAt hP hsnap
    have hend : ((writeSnapshot P now N (w.baseDir base) (w.targetOf targetPath) key).run env
        w).Holds _ _ := holds_writeSnapshot hne hsome hreach.2
    generalize hbytes : P.snapshot.toStringPretty (N.signWithKey P key) = bytes at hend ⊢
    generalize (writeSnapshot P now N (w.baseDir base) (w.targetOf targetPath) key).run env w = run
      at hend ⊢
    have hsave : SaveEnds w (w.targetOf targetPath) bytes
        (LosesTarget env now (w.targetOf targetPath) bytes)
        (∃ a, run.value = some (.ok a)) run.state := by
      cases run with
      | returned r w' =>
        refine ⟨hend.2.drive, hend.2.keyFile, hend.2.target_of_lost, fun hl => ?_⟩
        refine (hend.2.target_of_kept hl).imp id fun hold => ⟨hold.1, ?_⟩
        rintro ⟨a, ha⟩
        exact hold.2 ⟨a, Option.some.inj ha⟩
      | crashed w' =>
        refine ⟨hend.drive, hend.keyFile, hend.target_of_lost, fun hl => ?_⟩
        refine (hend.target_of_kept hl).imp id fun hold => ⟨hold.1, ?_⟩
        rintro ⟨a, ⟨⟩⟩
    have htarget : run.state.targetOf targetPath = w.targetOf targetPath := by
      unfold World.targetOf World.defaultSnapshotPath World.storageDir
      rw [hsave.drive]
    have hacc' : (run.state.files (w.targetOf targetPath)).isSome →
        run.state.Accepts base (run.state.targetOf targetPath) := by
      intro hfound
      rw [htarget]
      exact hacc.congr hsave.drive hfound
    have hkey' : run.state.storeKey P (w.targetOf targetPath) = some key :=
      (World.storeKey_congr hsave.keyFile).trans hkey
    constructor
    · rintro ⟨s, hs, -⟩ hlost
      obtain ⟨-, hs⟩ := load_ok_iff.mp hs
      rw [htarget] at hs
      obtain ⟨b', _, hb', -, hread⟩ := World.exists_of_snapshotAt hs
      -- what is left of a lost target does not read as a snapshot
      obtain ⟨n, hn, rfl⟩ := hsave.target_of_lost hlost b' hb'
      rw [← hbytes] at hn hread
      exact hP.snapshot.fromStr_take _ n hn s hread
    · intro hkept
      rcases hsave.target_of_kept hkept with hnew | ⟨hold, hnotok⟩
      · have hacc' := hacc' (by rw [hnew]; rfl)
        refine ⟨N.signWithKey P key, load_ok_iff.mpr ⟨hacc', ?_⟩, .inr rfl, fun _ => rfl⟩
        rw [htarget]
        exact World.snapshotAt_of_signed hP (hbytes ▸ hnew) hkey'
      · have hacc' := hacc' (hold ▸ hsome)
        refine ⟨p, load_ok_iff.mpr ⟨hacc', ?_⟩, .inl rfl, fun h => absurd h hnotok⟩
        rw [htarget, World.snapshotAt_congr hold hsave.keyFile]
        exact hsnap
  · rw [← and_assoc]
    simp only [hreach, false_and, not_false_eq_true, iff_true]
    have hoccupied : SaveReachesWrite env →
        w.isDirectory (w.baseDir base) (tempPath now (w.targetOf targetPath)) = true := by
      intro h
      rw [← Bool.not_eq_false]
      exact fun hfree => hreach ⟨h, hfree⟩
    obtain ⟨_, _, -, hkeyfile, -⟩ := World.exists_of_snapshotAt hsnap
    have hsome : (w.files (w.targetOf targetPath).keyPath).isSome := by
      unfold World.storeKey at hkeyfile
      obtain ⟨c, hc, -⟩ := Option.bind_eq_some_iff.mp hkeyfile
      simp [hc]
    have hend : ((saveAtomicWithBase P now N targetPath base).run env w).Holds _ _ :=
      holds_saveAtomicWithBase_of_not_reaches hsome hoccupied
    generalize (saveAtomicWithBase P now N targetPath base).run env w = run at hend ⊢
    cases run with
    | returned r w' =>
      obtain ⟨rfl, e, rfl⟩ := hend
      exact ⟨p, hload, .inl rfl, by rintro ⟨a, ⟨⟩⟩⟩
    | crashed w' =>
      obtain rfl := hend
      exact ⟨p, hload, .inl rfl, by rintro ⟨a, ⟨⟩⟩⟩

/-- Undisturbed, the new snapshot takes the place of the desktop's old one. -/
theorem save_keeps_snapshot_desktop : ∃ a w',
    (saveAtomicWithBase .portable default (.new "snap_1" "") none none).run (.faultless errorText)
        .desktopStored = .returned (.ok a) w' ∧
      (loadAndVerifyWithBase .portable none none).run (.faultless errorText) w' =
        .returned (.ok ((SystemStateSnapshot.new "snap_1" "").signWithKey .portable
          (default : Ambient).random32)) w' := by
  have hkey : World.desktopStored.storeKey .portable World.desktop.defaultSnapshotPath = some _ :=
    World.storeKey_stored Platform.lawful_portable (by decide)
  have hsave : ∃ a w', (saveAtomicWithBase .portable default (.new "snap_1" "") none none).run
      (.faultless errorText) .desktopStored = .returned (.ok a) w' := ⟨_, _, rfl⟩
  obtain ⟨a, w', hsave⟩ := hsave
  -- no call fails, so the target cannot be lost
  have hkept : ∀ b, ¬ (SaveReachesWrite (.faultless errorText) ∧
      World.desktopStored.isDirectory (World.desktopStored.baseDir none)
        (tempPath default (World.desktopStored.targetOf none)) = false ∧
      LosesTarget (.faultless errorText) default (World.desktopStored.targetOf none) b) := by
    rintro b ⟨-, -, hlost⟩
    rw [LosesTarget, if_neg (by decide)] at hlost
    obtain ⟨-, ⟨k, hk⟩, -⟩ := hlost
    cases hk
  obtain ⟨s, hload, -, hnew⟩ := (save_keeps_snapshot_iff Platform.lawful_portable
    load_desktopStored hkey (.faultless errorText) default (.new "snap_1" "")).mpr (hkept _)
  rw [hsave] at hload hnew
  rw [hnew ⟨a, rfl⟩] at hload
  exact ⟨a, w', hsave, hload⟩

/-- An environment in which the temporary file can neither be moved nor renamed. -/
def deniesMove : Env Call :=
  ⟨fun c => if c = .moveFileEx ∨ c = .renameTemp then .fail 0 else .ok, errorText⟩

/-- A save to the desktop that fails removes its snapshot. -/
theorem failed_save_loses_snapshot : ∃ e w',
    (saveAtomicWithBase .portable default (.new "snap_1" "") none none).run deniesMove
        .desktopStored = .returned (.error e) w' ∧
      w'.files World.desktop.defaultSnapshotPath = none :=
  ⟨_, _, rfl, rfl⟩

end ValOpt
