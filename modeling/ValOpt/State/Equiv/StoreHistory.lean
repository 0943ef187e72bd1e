import ValOpt.State.Equiv.Store

/-!
# Histories of the snapshot store

The snapshots of one directory share a key file.  A save makes it where it is missing, and a
deletion of any snapshot destroys it, so that the other snapshots of the directory stay on disk but
do not load any more.  `StoreState` follows a list of saves and deletions, with the snapshots that
ought to be there; `saved_snapshots_remain` says that they are, and that those load whose directory
saw no deletion since.
-/

namespace ValOpt

open Effect

/-! ### Undisturbed saves and deletions -/

section Faultless

variable {P : Platform} {text : Call → String} {w w' : World} {now : Ambient} {target : Path}
  {N : SystemStateSnapshot} {base : Option (List String)}

/-- The files `w₁` differ from `w` at most by a new key file for `target`. -/
def WithKey (w : World) (target : Path) (w₁ : World) : Prop :=
  w₁ = w ∨ (w.files target.keyPath = none ∧ ∃ c, w₁ = w.writeFile target.keyPath c)

namespace WithKey

variable {w₁ : World} (h : WithKey w target w₁)

include h

theorem drive : w₁.drive = w.drive := by
  rcases h with rfl | ⟨-, c, rfl⟩ <;> rfl

theorem machine : w₁.machine = w.machine := by
  rcases h with rfl | ⟨-, c, rfl⟩ <;> rfl

theorem files {q : Path} (hq : q ≠ target.keyPath) : w₁.files q = w.files q := by
  rcases h with rfl | ⟨-, c, rfl⟩
  · rfl
  · exact World.files_writeFile_of_ne _ _ hq

/-- A key file that is there is not written. -/
theorem files_of_isSome {q : Path} (hq : (w.files q).isSome) : w₁.files q = w.files q := by
  rcases h with rfl | ⟨hnone, c, rfl⟩
  · rfl
  · refine World.files_writeFile_of_ne _ _ ?_
    rintro rfl
    rw [hnone] at hq
    cases hq

end WithKey

/-- `getOrGenerateKey` returns the key that is there afterwards, or reports an error and writes
nothing. -/
theorem run_getOrGenerateKey_faultless (hP : P.Lawful) (text : Call → String) (w : World)
    (now : Ambient) (dir : List String) (target : Path) :
    (∃ e, (getOrGenerateKey P now dir target).run (.faultless text) w = .returned (.error e) w) ∨
    ∃ key w₁, (getOrGenerateKey P now dir target).run (.faultless text) w =
        .returned (.ok key) w₁ ∧
      w₁.storeKey P target = some key ∧ WithKey w target w₁ := by
  have hkeyPath : target.withFileName snapshotKeyFilename = target.keyPath := rfl
  unfold getOrGenerateKey
  simp only [Eff.run_bind, run_pathExists, Run.bind_returned, hkeyPath]
  cases hkey : w.files target.keyPath with
  | none =>
    by_cases hexists : w.pathExists dir target.keyPath = true
    · -- a directory of the name of the key file does not read
      simp only [hexists, if_true, Eff.run_bind, run_readFile_faultless, hkey, Run.bind_returned]
      exact .inl ⟨_, rfl⟩
    right
    have hkey' : (w.writeFile target.keyPath (P.protect now.nonce (keyPlaintext now))).storeKey P
        target = some now.random32 := by
      unfold World.storeKey
      rw [World.files_writeFile_self, Option.bind_some, hP.unprotect_protect, Option.bind_some,
        keyOfPlaintext_keyPlaintext]
    refine ⟨now.random32, _, ?_, hkey', .inr ⟨hkey, _, rfl⟩⟩
    simp only [hexists, Bool.false_eq_true, if_false, Eff.run_bind, run_readMachine_faultless,
      Run.bind_returned, run_writeFile_faultless]
    rfl
  | some ciphertext =>
    have hexists : w.pathExists dir target.keyPath = true :=
      w.pathExists_of_isSome (by rw [hkey]; rfl) dir
    simp only [hexists, if_true, Eff.run_bind, run_readFile_faultless, hkey,
      Run.bind_returned, run_readMachine_faultless]
    cases hplain : P.unprotect ciphertext with
    | none => exact .inl ⟨_, rfl⟩
    | some plaintext =>
      simp only [Run.bind_returned]
      cases hk : keyOfPlaintext plaintext with
      | none => exact .inl ⟨_, rfl⟩
      | some key =>
        refine .inr ⟨key, w, rfl, ?_, .inl rfl⟩
        unfold World.storeKey
        rw [hkey, Option.bind_some, hplain, Option.bind_some, hk]

/-- The temporary file takes the place of a target that is no directory. -/
theorem run_replaceTarget_faultless {dir : List String} {temp : Path} {b : Bytes}
    (htemp : w.files temp = some b) (hdir : w.isDirectory dir target = false) :
    (replaceTarget dir temp target).run (.faultless text) w =
      .returned (.ok ()) ((w.removeFile temp).writeFile target b) := by
  unfold replaceTarget
  rw [Eff.run_bind, run_isDirectory, Run.bind_returned, hdir]
  simp only [unlessDirectory_false, Eff.run_bind, run_moveFile_faultless, htemp, Run.bind_returned,
    Eff.run_pure]

theorem run_refused {α : Type} (c : Call) :
    (perform c (.read fun _ : World => none) : Prog (Except String α)).run (.faultless text) w =
      .returned (.error (text c)) w := run_perform_refused rfl rfl

/-- Where the target is a directory, only the temporary file is removed. -/
theorem run_replaceTarget_of_directory (text : Call → String) {dir : List String} {temp : Path}
    {b : Bytes}
    (htemp : w.files temp = some b) (hdir : w.isDirectory dir target = true) : ∃ e,
    (replaceTarget dir temp target).run (.faultless text) w =
      .returned (.error e) (w.removeFile temp) := by
  unfold replaceTarget
  rw [Eff.run_bind, run_isDirectory, Run.bind_returned, hdir]
  simp only [unlessDirectory_true, Eff.run_bind, run_refused, run_removeFile_faultless,
    World.files_of_isDirectory hdir, htemp, Run.bind_returned, Eff.run_pure]
  exact ⟨_, rfl⟩

/-- Where neither the temporary file nor the target is a directory, the signed snapshot is at its
target afterwards. -/
theorem run_writeSnapshot_faultless {dir : List String} (key : Bytes)
    (htemp : w.isDirectory dir (tempPath now target) = false)
    (hdir : w.isDirectory dir target = false) :
    (writeSnapshot P now N dir target key).run (.faultless text) w =
      .returned (.ok (target, N.signWithKey P key))
        (((w.writeFile (tempPath now target)
            (P.snapshot.toStringPretty (N.signWithKey P key))).removeFile
          (tempPath now target)).writeFile target
            (P.snapshot.toStringPretty (N.signWithKey P key))) := by
  have hdir' : (w.writeFile (tempPath now target)
      (P.snapshot.toStringPretty (N.signWithKey P key))).isDirectory dir target = false := by
    by_cases heq : target = tempPath now target
    · rw [← heq]
      exact World.isDirectory_of_isSome _ (by simp) dir
    · rw [w.isDirectory_writeFile_of_ne _ dir heq, hdir]
  unfold writeSnapshot
  rw [Eff.run_bind, run_isDirectory, Run.bind_returned, htemp, unlessDirectory_false, Eff.run_bind,
    run_writeFile_faultless, Run.bind_returned]
  simp only [Eff.run_bind, run_replaceTarget_faultless (World.files_writeFile_self ..) hdir',
    Run.bind_returned, Eff.run_pure]

/-- Otherwise an error is reported, and at most the temporary file is gone. -/
theorem run_writeSnapshot_of_directory {dir : List String} (key : Bytes)
    (h : ¬ (w.isDirectory dir (tempPath now target) = false ∧ w.isDirectory dir target = false)) :
    ∃ e w', (w' = w ∨ w' = w.removeFile (tempPath now target)) ∧
      (writeSnapshot P now N dir target key).run (.faultless text) w =
        .returned (.error e) w' := by
  unfold writeSnapshot
  rw [Eff.run_bind, run_isDirectory, Run.bind_returned]
  cases htemp : w.isDirectory dir (tempPath now target) with
  | true =>
    rw [unlessDirectory_true, Eff.run_bind, run_refused, Run.bind_returned]
    exact ⟨_, w, .inl rfl, rfl⟩
  | false =>
    have hdir : w.isDirectory dir target = true := by
      rw [← Bool.not_eq_false]
      exact fun hfree => h ⟨htemp, hfree⟩
    have hne : target ≠ tempPath now target := by
      intro heq
      rw [heq, htemp] at hdir
      cases hdir
    have hdir' : (w.writeFile (tempPath now target)
        (P.snapshot.toStringPretty (N.signWithKey P key))).isDirectory dir target = true := by
      rw [w.isDirectory_writeFile_of_ne _ dir hne, hdir]
    obtain ⟨e, he⟩ := run_replaceTarget_of_directory text (World.files_writeFile_self ..) hdir'
    rw [unlessDirectory_false, Eff.run_bind, run_writeFile_faultless, Run.bind_returned]
    simp only [Eff.run_bind, he, Run.bind_returned, Eff.run_pure, World.removeFile_writeFile]
    exact ⟨e, _, .inr rfl, rfl⟩

/-- A save leaves the signed snapshot at its target, or reports an error. -/
theorem run_saveAtomicWithBase (hP : P.Lawful) (text : Call → String) (w : World) (now : Ambient)
    (N : SystemStateSnapshot) (target : Path) (base : Option (List String)) :
    (∃ e w₁ w', WithKey w target w₁ ∧ (w' = w₁ ∨ w' = w₁.removeFile (tempPath now target)) ∧
      (saveAtomicWithBase P now N (some target) base).run (.faultless text) w =
        .returned (.error e) w') ∨
    ∃ key w₁, w.Accepts base target ∧ w₁.storeKey P target = some key ∧ WithKey w target w₁ ∧
      (saveAtomicWithBase P now N (some target) base).run (.faultless text) w =
        .returned (.ok (target, N.signWithKey P key))
          (((w₁.writeFile (tempPath now target)
              (P.snapshot.toStringPretty (N.signWithKey P key))).removeFile
            (tempPath now target)).writeFile target
              (P.snapshot.toStringPretty (N.signWithKey P key))) := by
  have hkeep : WithKey w target w := .inl rfl
  unfold saveAtomicWithBase
  simp only [Eff.run_bind, run_getWorld, Run.bind_returned, Option.getD_some]
  by_cases hacc : w.Accepts base target
  · rw [run_validateSnapshotPath hacc, Run.bind_returned]
    simp only [Eff.run_bind]
    obtain ⟨parent, hparent⟩ : ∃ r, (createParent target).run (.faultless text) w =
        .returned r w := by
      unfold createParent
      cases hfile : (w.files target).isNone && (w.files target.parent).isSome with
      | true => exact ⟨_, run_perform_refused rfl (by simp only [Op.full_read, hfile]; rfl)⟩
      | false => exact ⟨_, run_perform_ok rfl (by simp only [Op.full_read, hfile]; rfl)⟩
    rw [hparent, Run.bind_returned]
    cases parent with
    | error e => exact .inl ⟨_, w, w, hkeep, .inl rfl, rfl⟩
    | ok =>
      simp only [Eff.run_bind]
      rcases run_getOrGenerateKey_faultless hP text w now (w.baseDir base) target with
        ⟨e, he⟩ | ⟨key, w₁, hk, hstore, hwith⟩
      · rw [he]
        exact .inl ⟨_, w, w, hkeep, .inl rfl, rfl⟩
      rw [hk, Run.bind_returned]
      by_cases hfree : w₁.isDirectory (w.baseDir base) (tempPath now target) = false ∧
          w₁.isDirectory (w.baseDir base) target = false
      · refine .inr ⟨key, w₁, hacc, hstore, hwith, ?_⟩
        exact run_writeSnapshot_faultless key hfree.1 hfree.2
      · obtain ⟨e, w', hw', hrun⟩ := run_writeSnapshot_of_directory key hfree
        exact .inl ⟨e, w₁, w', hwith, hw', hrun⟩
  · obtain ⟨e, he⟩ := run_validateSnapshotPath_of_not .save (.faultless text) hacc
    rw [he]
    exact .inl ⟨_, w, w, hkeep, .inl rfl, rfl⟩

end Faultless

/-! ### Histories -/

inductive StoreOp where
  | save (now : Ambient) (snapshot : SystemStateSnapshot) (target : Path)
  | delete (target : Path)

/-- The world, the snapshots that were saved with success and since then neither overwritten nor
deleted by name, and whether their directories saw no deletion since. -/
structure StoreState where
  world : World
  saved : Path → Option SystemStateSnapshot
  undisturbed : Path → Bool

namespace StoreState

variable (P : Platform) (text : Call → String) (base : Option (List String))

/-- One undisturbed call. -/
def step (s : StoreState) : StoreOp → StoreState
  | .save now snapshot target =>
    match (saveAtomicWithBase P now snapshot (some target) base).run (.faultless text) s.world with
    | .returned (.ok (path, signed)) w =>
      ⟨w, Function.update s.saved path (some signed), Function.update s.undisturbed path true⟩
    | r => ⟨r.state, s.saved, s.undisturbed⟩
  | .delete target =>
    match (deleteSnapshotWithBase (some target) base).run (.faultless text) s.world with
    | .returned (.ok _) w =>
      ⟨w, Function.update s.saved target none, fun q => s.undisturbed q && q.dir != target.dir⟩
    | r => ⟨r.state, s.saved, s.undisturbed⟩

/-- The state after a list of calls. -/
def run (s : StoreState) (ops : List StoreOp) : StoreState := ops.foldl (step P text base) s

/-- The start of a history: no snapshot is expected. -/
def start (w : World) : StoreState := ⟨w, fun _ => none, fun _ => false⟩

/-- No snapshot is saved under the name of the key file, or of a temporary file of a save. -/
def PlainNames (ops : List StoreOp) : Prop :=
  ∀ now snapshot target, StoreOp.save now snapshot target ∈ ops →
    target.file ≠ snapshotKeyFilename ∧ ∀ now' snapshot' target',
      StoreOp.save now' snapshot' target' ∈ ops → tempPath now' target' ≠ target

/-- What holds of an expected snapshot: it is the target of one of the saves, it is on disk, and it
is signed with the key of its directory, unless that saw a deletion. -/
structure Expected (ops : List StoreOp) (s : StoreState) (q : Path)
    (snapshot : SystemStateSnapshot) : Prop where
  mem : ∃ now N, StoreOp.save now N q ∈ ops
  accepts : s.world.Accepts base q
  file : s.world.files q = some (P.snapshot.toStringPretty snapshot)
  signed : s.undisturbed q → ∃ key, ∃ N : SystemStateSnapshot,
    s.world.storeKey P q = some key ∧ snapshot = N.signWithKey P key

variable {P text base} {ops : List StoreOp} {s : StoreState}

/-- A path that is not named like a key file is none. -/
theorem ne_keyPath_of_file {q t : Path} (h : q.file ≠ snapshotKeyFilename) : q ≠ t.keyPath := by
  rintro rfl
  exact h rfl

/-- A change of other files keeps an expected snapshot. -/
theorem Expected.congr {s' : StoreState} {q : Path} {snapshot : SystemStateSnapshot}
    (h : Expected P base ops s q snapshot) (hdata : s'.world.drive = s.world.drive)
    (hfile : s'.world.files q = s.world.files q)
    (hkey : s'.undisturbed q → s.undisturbed q ∧
      ((s.world.files q.keyPath).isSome → s'.world.files q.keyPath = s.world.files q.keyPath)) :
    Expected P base ops s' q snapshot where
  mem := h.mem
  accepts := h.accepts.congr hdata (by rw [hfile, h.file]; rfl)
  file := hfile.trans h.file
  signed := by
    intro hq
    obtain ⟨hq, hkeep⟩ := hkey hq
    obtain ⟨key, N, hstore, hsigned⟩ := h.signed hq
    have hsome : (s.world.files q.keyPath).isSome := by
      obtain ⟨c, hc, -⟩ := Option.bind_eq_some_iff.mp hstore
      simp [hc]
    exact ⟨key, N, (World.storeKey_congr (hkeep hsome)).trans hstore, hsigned⟩

/-- All that is expected in a state. -/
def Sound (P : Platform) (base : Option (List String)) (ops : List StoreOp) (s : StoreState) :
    Prop :=
  ∀ q snapshot, s.saved q = some snapshot → Expected P base ops s q snapshot

/-- A save keeps what is expected, and adds its own snapshot. -/
theorem Sound.save (hP : P.Lawful) (hnames : PlainNames ops) {now : Ambient}
    {N : SystemStateSnapshot} {target : Path} (hop : StoreOp.save now N target ∈ ops)
    (h : s.Sound P base ops) : (s.step P text base (.save now N target)).Sound P base ops := by
  obtain ⟨hname, -⟩ := hnames now N target hop
  have htargetkey : ∀ t : Path, t.keyPath ≠ target := fun t => (ne_keyPath_of_file hname).symm
  have htempkey : ∀ t : Path, t.keyPath ≠ tempPath now target :=
    fun t => (tempPath_ne_keyPath now target t).symm
  -- no expected snapshot is the key or the temporary file of this save
  have hexpected : ∀ q snapshot, s.saved q = some snapshot →
      q.file ≠ snapshotKeyFilename ∧ q ≠ tempPath now target := by
    intro q snapshot hq
    obtain ⟨now', N', hmem⟩ := (h q snapshot hq).mem
    exact ⟨(hnames now' N' q hmem).1, ((hnames now' N' q hmem).2 now N target hop).symm⟩
  unfold step
  rcases run_saveAtomicWithBase hP text s.world now N target base with
    ⟨e, w₁, w', hwith, hw', he⟩ | ⟨key, w₁, hacc, hstore, hwith, hrun⟩
  · simp only [he]
    intro q snapshot hq
    obtain ⟨hqkey, hqtemp⟩ := hexpected q snapshot hq
    have hfiles : ∀ p, p ≠ tempPath now target → w'.files p = w₁.files p := by
      intro p hp
      rcases hw' with rfl | rfl
      · rfl
      · exact World.files_removeFile_of_ne _ hp
    have hdata : w'.drive = s.world.drive := by
      rcases hw' with rfl | rfl <;> exact hwith.drive
    refine (h q snapshot hq).congr hdata ?_ fun hundisturbed => ⟨hundisturbed, fun hsome => ?_⟩
    · exact (hfiles q hqtemp).trans (hwith.files (ne_keyPath_of_file hqkey))
    · exact (hfiles _ (htempkey q)).trans (hwith.files_of_isSome hsome)
  simp only [hrun]
  have hdata : w₁.drive = s.world.drive := hwith.drive
  -- every file but the two written ones is as it was once the key was there
  have hfiles : ∀ bytes q, q ≠ target → q ≠ tempPath now target →
      (((w₁.writeFile (tempPath now target) bytes).removeFile
        (tempPath now target)).writeFile target bytes).files q = w₁.files q := by
    intro bytes q hq ht
    rw [World.files_writeFile_of_ne _ _ hq, World.files_removeFile_of_ne _ ht,
      World.files_writeFile_of_ne _ _ ht]
  intro q snapshot hq
  dsimp only at hq
  by_cases hqt : q = target
  · subst hqt
    rw [Function.update_self] at hq
    cases hq
    refine ⟨⟨now, N, hop⟩, ?_, World.files_writeFile_self .., fun _ => ⟨key, N, ?_, rfl⟩⟩
    · exact hacc.congr hdata (by simp)
    · exact (World.storeKey_congr (hfiles _ _ (htargetkey q) (htempkey q))).trans hstore
  · rw [Function.update_of_ne hqt] at hq
    obtain ⟨hqkey, htemp⟩ := hexpected q snapshot hq
    refine (h q snapshot hq).congr hdata ?_ ?_
    · exact (hfiles _ q hqt htemp).trans (hwith.files (ne_keyPath_of_file hqkey))
    · intro hundisturbed
      dsimp only at hundisturbed
      rw [Function.update_of_ne hqt] at hundisturbed
      exact ⟨hundisturbed, fun hsome =>
        (hfiles _ _ (htargetkey q) (htempkey q)).trans (hwith.files_of_isSome hsome)⟩

/-- A deletion keeps the other snapshots; those of its directory do not have to load any more. -/
theorem Sound.delete (hnames : PlainNames ops) (target : Path) (h : s.Sound P base ops) :
    (s.step P text base (.delete target)).Sound P base ops := by
  unfold step
  by_cases hacc : s.world.Accepts base target ∧
      s.world.isDirectory (s.world.baseDir base) target = false
  · obtain ⟨found, w', hrun, hdata, hfiles⟩ :=
      run_deleteSnapshotWithBase (deletes_faultless text) hacc.1 hacc.2
    simp only [hrun]
    intro q snapshot hq
    dsimp only at hq
    by_cases hqt : q = target
    · subst hqt
      rw [Function.update_self] at hq
      cases hq
    rw [Function.update_of_ne hqt] at hq
    have hexp := h q snapshot hq
    obtain ⟨now', N', hmem⟩ := hexp.mem
    refine hexp.congr hdata ?_ ?_
    · refine (hfiles q).trans (if_neg ?_)
      rintro (heq | heq)
      · exact hqt heq
      · exact ne_keyPath_of_file (hnames now' N' q hmem).1 heq
    · intro hundisturbed
      simp only [Bool.and_eq_true, bne_iff_ne, ne_eq] at hundisturbed
      obtain ⟨hundisturbed, hdir⟩ := hundisturbed
      refine ⟨hundisturbed, fun _ => (hfiles q.keyPath).trans (if_neg ?_)⟩
      -- the key file of another directory is neither the target nor its key file
      rintro (heq | heq)
      · have hsame : q.keyPath.dir = target.dir := congrArg Path.dir heq
        exact hdir hsame
      · have hsame : q.keyPath.dir = target.keyPath.dir := congrArg Path.dir heq
        exact hdir hsame
  · have hrun : ∃ e, (deleteSnapshotWithBase (some target) base).run (.faultless text) s.world =
        .returned (.error e) s.world := by
      by_cases hdir : s.world.isDirectory (s.world.baseDir base) target = true
      · exact run_deleteSnapshotWithBase_of_directory (deletes_faultless text) hdir
      · have hnot : ¬ s.world.Accepts base target :=
          fun haccepts => hacc ⟨haccepts, Bool.not_eq_true _ ▸ hdir⟩
        obtain ⟨e, he⟩ := run_validateSnapshotPath_of_not .delete (.faultless text) hnot
        unfold deleteSnapshotWithBase
        simp only [Eff.run_bind, run_getWorld, Run.bind_returned, Option.getD_some, he]
        exact ⟨_, rfl⟩
    obtain ⟨e, hrun⟩ := hrun
    simp only [hrun]
    exact h

theorem Sound.run (hP : P.Lawful) (text : Call → String) (hnames : PlainNames ops)
    (calls : List StoreOp)
    (hcalls : ∀ op ∈ calls, op ∈ ops) (h : s.Sound P base ops) :
    (s.run P text base calls).Sound P base ops := by
  induction calls generalizing s with
  | nil => exact h
  | cons op calls ih =>
    have hrest : ∀ op' ∈ calls, op' ∈ ops :=
      fun op' hop' => hcalls op' (List.mem_cons_of_mem _ hop')
    refine ih hrest ?_
    cases op with
    | save now N target => exact h.save hP hnames (hcalls _ List.mem_cons_self)
    | delete target => exact h.delete hnames target

/-- **Histories of the snapshot store.**  After any list of saves and deletions under plain names,
each snapshot that was saved and since then neither overwritten nor deleted by name is on disk, and
it loads if its directory saw no deletion since. -/
theorem saved_snapshots_remain (hP : P.Lawful) (text : Call → String) (base : Option (List String))
    (w : World) {ops : List StoreOp} (hnames : PlainNames ops) {q : Path}
    {snapshot : SystemStateSnapshot}
    (hsaved : ((start w).run P text base ops).saved q = some snapshot) :
    ((start w).run P text base ops).world.files q = some (P.snapshot.toStringPretty snapshot) ∧
      (((start w).run P text base ops).undisturbed q →
        (loadAndVerifyWithBase P (some q) base).run (.faultless text)
            ((start w).run P text base ops).world =
          .returned (.ok snapshot) ((start w).run P text base ops).world) := by
  have hstart : (start w).Sound P base ops := by
    rintro q snapshot ⟨⟩
  have hexp := hstart.run hP text hnames ops (fun _ h => h) q snapshot hsaved
  refine ⟨hexp.file, fun hundisturbed => load_ok_iff.mpr ⟨hexp.accepts, ?_⟩⟩
  obtain ⟨key, N, hstore, rfl⟩ := hexp.signed hundisturbed
  exact World.snapshotAt_of_signed hP hexp.file hstore

/-- The desktop with a directory for further snapshots. -/
def desktopBackup : World :=
  { World.desktop with drive := ⟨World.desktop.drive.programData,
      [World.desktop.storageDir ++ ["backup"]]⟩ }

/-- The snapshot in the further directory. -/
def backupPath : Path := ⟨World.desktop.storageDir ++ ["backup"], "snapshot.json"⟩

/-- Two snapshots in two directories, of which the first is deleted. -/
def desktopSaves : List StoreOp :=
  [.save default (.new "snap_0" "") World.desktop.defaultSnapshotPath,
    .save default (.new "snap_1" "") backupPath,
    .delete World.desktop.defaultSnapshotPath]

theorem plainNames_desktopSaves : PlainNames desktopSaves := by
  have hsaves : ∀ now snapshot target, StoreOp.save now snapshot target ∈ desktopSaves →
      now = default ∧ (target = World.desktop.defaultSnapshotPath ∨ target = backupPath) := by
    intro now snapshot target h
    simp only [desktopSaves, List.mem_cons, StoreOp.save.injEq, reduceCtorEq, List.not_mem_nil,
      or_false] at h
    rcases h with ⟨hnow, -, htarget⟩ | ⟨hnow, -, htarget⟩
    · exact ⟨hnow, .inl htarget⟩
    · exact ⟨hnow, .inr htarget⟩
  intro now snapshot target h
  obtain ⟨-, htarget⟩ := hsaves now snapshot target h
  have hplain : ∀ t t' : Path, (t = World.desktop.defaultSnapshotPath ∨ t = backupPath) →
      (t' = World.desktop.defaultSnapshotPath ∨ t' = backupPath) →
      t.file ≠ snapshotKeyFilename ∧ tempPath default t' ≠ t := by
    rintro t t' (rfl | rfl) (rfl | rfl) <;> decide
  refine ⟨(hplain target target htarget htarget).1, fun now' snapshot' target' h' => ?_⟩
  obtain ⟨rfl, htarget'⟩ := hsaves now' snapshot' target' h'
  exact (hplain target target' htarget htarget').2

/-- The other one is still there, and loads. -/
theorem saved_snapshots_remain_desktop : ∃ s,
    ((start desktopBackup).run .portable errorText none desktopSaves).saved backupPath = some s ∧
      (loadAndVerifyWithBase .portable (some backupPath) none).run (.faultless errorText)
          ((start desktopBackup).run .portable errorText none desktopSaves).world =
        .returned (.ok s)
          ((start desktopBackup).run .portable errorText none desktopSaves).world := by
  have hsaved : ∃ s, ((start desktopBackup).run .portable errorText none desktopSaves).saved
      backupPath = some s := ⟨_, rfl⟩
  obtain ⟨s, hsaved⟩ := hsaved
  obtain ⟨-, hload⟩ := saved_snapshots_remain Platform.lawful_portable errorText none desktopBackup
    plainNames_desktopSaves hsaved
  exact ⟨s, hsaved, hload rfl⟩

/-- Two snapshots in one directory, of which the first is deleted. -/
def desktopDelete : List StoreOp :=
  [.save default (.new "a" "") (World.desktop.defaultSnapshotPath.withFileName "a.json"),
    .save default (.new "b" "") (World.desktop.defaultSnapshotPath.withFileName "b.json"),
    .delete (World.desktop.defaultSnapshotPath.withFileName "a.json")]

/-- The deletion takes the key along, and the other snapshot does not load any more. -/
theorem deletion_disables_other_snapshot : ∃ s e,
    ((start .desktop).run .portable errorText none desktopDelete).saved
        (World.desktop.defaultSnapshotPath.withFileName "b.json") = some s ∧
      (loadAndVerifyWithBase .portable
          (some (World.desktop.defaultSnapshotPath.withFileName "b.json")) none).run
          (.faultless errorText)
          ((start .desktop).run .portable errorText none desktopDelete).world =
        .returned (.error e) ((start .desktop).run .portable errorText none desktopDelete).world :=
  ⟨_, _, rfl, rfl⟩

end StoreState

end ValOpt
