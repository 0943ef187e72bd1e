import ValOpt.Models.Equiv.Snapshot
import ValOpt.State.SnapshotEngine
import ValOpt.System.Desktop

/-!
# What the snapshot store does to the files

`World.storeKey` is the key that a key file holds and `World.snapshotAt` the snapshot that a target
holds, if both verify; undisturbed, `loadAndVerifyWithBase` returns just this
(`run_loadAndVerifyWithBase`).  `saveAtomicWithBase` leaves the signed snapshot at its target
(`run_saveAtomicWithBase`), and `deleteSnapshotWithBase` removes the target together with the key
file of its directory (`run_deleteSnapshotWithBase`).
-/

namespace ValOpt

open Effect

/-- The key file that belongs to a target. -/
def Path.keyPath (target : Path) : Path := target.withFileName snapshotKeyFilename

/-! ### Names -/

/-- A temporary file is not a key file. -/
theorem tempPath_ne_keyPath (now : Ambient) (target q : Path) :
    tempPath now target ≠ q.keyPath := by
  intro h
  have hfile := congrArg (fun p : Path => p.file.toList[8]?) h
  simp [tempPath, Path.keyPath, snapshotKeyFilename, ToString.toString] at hfile

/-! ### What the files hold -/

/-- The plaintext of a new key file holds its key. -/
theorem keyOfPlaintext_keyPlaintext (now : Ambient) :
    keyOfPlaintext (keyPlaintext now) = some now.random32 := by
  have hheader : (keyPlaintext now).take 16 = magicKeyHeader := by
    unfold keyPlaintext
    rw [List.append_assoc]
    change (magicKeyHeader ++ (now.random32 ++ toLeBytes128 now.unixMillis)).take
      magicKeyHeader.length = magicKeyHeader
    exact List.take_left
  have hkey : ((keyPlaintext now).drop 16).take 32 = now.random32 := by
    unfold keyPlaintext
    rw [List.append_assoc]
    change ((magicKeyHeader ++ (now.random32 ++ toLeBytes128 now.unixMillis)).drop
      magicKeyHeader.length).take 32 = now.random32
    rw [List.drop_left, List.take_left' now.length_random32]
  have hlen : ¬ (keyPlaintext now).length < 48 := by
    unfold keyPlaintext
    rw [List.length_append, List.length_append, now.length_random32]
    simp [magicKeyHeader]
  unfold keyOfPlaintext
  rw [hkey, if_neg]
  rintro (h | h)
  · exact hlen h
  · exact h hheader

namespace World

variable (P : Platform) (w : World)

/-- The key in the key file that belongs to a target. -/
def storeKey (target : Path) : Option Bytes :=
  (w.files target.keyPath).bind fun ciphertext => (P.unprotect ciphertext).bind keyOfPlaintext

/-- The snapshot that a target holds, if it verifies. -/
def snapshotAt (target : Path) : Option SystemStateSnapshot :=
  (w.files target).bind fun content =>
    (w.storeKey P target).bind fun key =>
      (P.snapshot.fromStr content).toOption.bind fun s => (verifySnapshot P target key s).toOption

variable {P w} {w' : World} {target : Path}

/-- Both depend on the target and on its key file only. -/
theorem storeKey_congr (h : w'.files target.keyPath = w.files target.keyPath) :
    w'.storeKey P target = w.storeKey P target := by
  unfold storeKey
  rw [h]

theorem snapshotAt_congr (h : w'.files target = w.files target)
    (hkey : w'.files target.keyPath = w.files target.keyPath) :
    w'.snapshotAt P target = w.snapshotAt P target := by
  unfold snapshotAt
  rw [h, storeKey_congr hkey]

theorem snapshotAt_of_none (h : w.files target = none) : w.snapshotAt P target = none := by
  unfold snapshotAt
  rw [h]
  rfl

/-- What a target that verifies holds. -/
theorem verifySnapshot_of_snapshotAt {s : SystemStateSnapshot}
    (h : w.snapshotAt P target = some s) :
    ∃ b key, w.files target = some b ∧ w.storeKey P target = some key ∧
      P.snapshot.fromStr b = .ok s ∧ verifySnapshot P target key s = .ok s := by
  unfold snapshotAt at h
  obtain ⟨b, hb, h⟩ := Option.bind_eq_some_iff.mp h
  obtain ⟨key, hkey, h⟩ := Option.bind_eq_some_iff.mp h
  obtain ⟨s', hs', h⟩ := Option.bind_eq_some_iff.mp h
  have hread : P.snapshot.fromStr b = .ok s' := by
    cases hread : P.snapshot.fromStr b with
    | error e =>
      rw [hread] at hs'
      cases hs'
    | ok s'' =>
      rw [hread] at hs'
      cases hs'
      rfl
  -- the checks return the snapshot as it was read
  have hsame : s' = s ∧ verifySnapshot P target key s' = .ok s' := by
    unfold verifySnapshot at h ⊢
    split at h
    · cases h
    · next hsigned =>
      dsimp only at h ⊢
      split at h
      · next hhash =>
        cases h
        rw [if_neg hsigned, if_pos hhash]
        exact ⟨rfl, rfl⟩
      · cases h
  obtain ⟨rfl, hverify⟩ := hsame
  exact ⟨b, key, hb, hkey, hread, hverify⟩

/-- A target that verifies is a file, and so is its key. -/
theorem exists_of_snapshotAt {s : SystemStateSnapshot} (h : w.snapshotAt P target = some s) :
    ∃ b key, w.files target = some b ∧ w.storeKey P target = some key ∧
      P.snapshot.fromStr b = .ok s := by
  obtain ⟨b, key, hb, hkey, hread, -⟩ := verifySnapshot_of_snapshotAt h
  exact ⟨b, key, hb, hkey, hread⟩

/-- A key file is not a snapshot, so a target that verifies is not its own key file. -/
theorem ne_keyPath_of_snapshotAt (hP : P.Lawful) {s : SystemStateSnapshot}
    (h : w.snapshotAt P target = some s) : target ≠ target.keyPath := by
  obtain ⟨b, key, hb, hkey, hread⟩ := exists_of_snapshotAt h
  intro heq
  unfold storeKey at hkey
  rw [← heq, hb, Option.bind_some, hP.unprotect_json b s hread] at hkey
  cases hkey

/-- A signed snapshot passes both checks. -/
theorem verifySnapshot_signWithKey (hP : P.Lawful) (target : Path) (key : Bytes)
    (s : SystemStateSnapshot) :
    verifySnapshot P target key (s.signWithKey P key) = .ok (s.signWithKey P key) := by
  unfold verifySnapshot
  rw [if_neg, SystemStateSnapshot.computePayloadHash_signWithKey]
  · simp
  · rintro (h | h)
    · exact s.hmacSignature_signWithKey_ne key hP h
    · rw [s.verifyHmac_signWithKey key hP] at h
      cases h

/-- A target that holds a snapshot signed with its key. -/
theorem snapshotAt_of_signed (hP : P.Lawful) {key : Bytes} {s : SystemStateSnapshot}
    (hfile : w.files target = some (P.snapshot.toStringPretty (s.signWithKey P key)))
    (hkey : w.storeKey P target = some key) :
    w.snapshotAt P target = some (s.signWithKey P key) := by
  unfold snapshotAt
  rw [hfile, hkey, Option.bind_some, Option.bind_some, hP.snapshot.fromStr_toStringPretty]
  change (verifySnapshot P target key (s.signWithKey P key)).toOption = _
  rw [verifySnapshot_signWithKey hP]
  rfl

/-- The world with a new key and a snapshot signed with it. -/
def stored (P : Platform) (w : World) (now : Ambient) (s : SystemStateSnapshot) (target : Path) :
    World :=
  (w.writeFile target.keyPath (P.protect now.nonce (keyPlaintext now))).writeFile target
    (P.snapshot.toStringPretty (s.signWithKey P now.random32))

theorem storeKey_stored (hP : P.Lawful) {now : Ambient} {s : SystemStateSnapshot}
    (hne : target ≠ target.keyPath) :
    (w.stored P now s target).storeKey P target = some now.random32 := by
  unfold storeKey stored
  rw [files_writeFile_of_ne _ _ hne.symm, files_writeFile_self, Option.bind_some,
    hP.unprotect_protect, Option.bind_some, keyOfPlaintext_keyPlaintext]

theorem snapshotAt_stored (hP : P.Lawful) {now : Ambient} {s : SystemStateSnapshot}
    (hne : target ≠ target.keyPath) :
    (w.stored P now s target).snapshotAt P target = some (s.signWithKey P now.random32) :=
  snapshotAt_of_signed hP (files_writeFile_self ..) (storeKey_stored hP hne)

/-- The path a call works on. -/
def targetOf (w : World) (targetPath : Option Path) : Path :=
  targetPath.getD w.defaultSnapshotPath

/-- `validateSnapshotPath` lets the path pass, as far as its text goes and what is there: the path
itself, or at least its directory. -/
def Accepts (w : World) (allowedBase : Option (List String)) (target : Path) : Prop :=
  target.Within (w.baseDir allowedBase) ∧
    (w.pathExists (w.baseDir allowedBase) target ∨
      w.pathExists (w.baseDir allowedBase) target.parent)

instance (w : World) (allowedBase : Option (List String)) (target : Path) :
    Decidable (w.Accepts allowedBase target) := inferInstanceAs (Decidable (_ ∧ _))

/-- Where the directories are the same, and a file that was there still is, so is what is
accepted. -/
theorem Accepts.congr {base : Option (List String)} (h : w.Accepts base target)
    (hdrive : w'.drive = w.drive) (hfile : (w'.files target).isSome) : w'.Accepts base target := by
  have hbase : w'.baseDir base = w.baseDir base := by
    rw [baseDir, baseDir, storageDir, storageDir, hdrive]
  refine ⟨?_, .inl (w'.pathExists_of_isSome hfile _)⟩
  rw [hbase]
  exact h.1

end World

/-! ### What the store leaves alone -/

section Frame

variable {P : Platform} {env : Env Call} {I : World → Prop}

theorem preserves_validateSnapshotPath (op : StoreOperation) (path : Path)
    (base : Option (List String)) : Eff.Preserves env I (validateSnapshotPath op path base) := by
  have hinspect : Eff.Preserves env I (inspectPath op path) := by
    refine Eff.Preserves.bind preserves_readMachine ?_
    rintro (e | ⟨⟩) <;> exact Eff.preserves_pure _
  unfold validateSnapshotPath
  refine Eff.Preserves.bind preserves_getWorld fun w => ?_
  dsimp only
  split
  · exact Eff.preserves_pure _
  refine Eff.Preserves.bind preserves_pathExists fun found => ?_
  split
  · split
    · exact hinspect
    · exact Eff.preserves_pure _
  refine Eff.Preserves.bind preserves_pathExists fun foundParent => ?_
  split
  · split
    · exact hinspect
    · exact Eff.preserves_pure _
  · exact Eff.preserves_pure _

/-- The key file is all that is written for a key. -/
theorem preserves_getOrGenerateKey (now : Ambient) (base : List String) (target : Path)
    (hwrite : ∀ w b, I w → I (w.writeFile target.keyPath b)) :
    Eff.Preserves env I (getOrGenerateKey P now base target) := by
  unfold getOrGenerateKey
  refine Eff.Preserves.bind preserves_pathExists fun b => ?_
  split
  · refine Eff.Preserves.bind preserves_readFile ?_
    rintro (e | c)
    · exact Eff.preserves_pure _
    refine Eff.Preserves.bind preserves_readMachine ?_
    rintro (e | p)
    · exact Eff.preserves_pure _
    dsimp only
    cases keyOfPlaintext p <;> exact Eff.preserves_pure _
  · refine Eff.Preserves.bind preserves_readMachine ?_
    rintro (e | k)
    · exact Eff.preserves_pure _
    refine Eff.Preserves.bind preserves_readMachine ?_
    rintro (e | c)
    · exact Eff.preserves_pure _
    refine Eff.Preserves.bind (preserves_writeFile hwrite) ?_
    rintro (e | ⟨⟩) <;> exact Eff.preserves_pure _

theorem preserves_replaceTarget (base : List String) (temp target : Path)
    (hwrite : ∀ w b, I w → I (w.writeFile target b))
    (hremove : ∀ w p, p = temp ∨ p = target → I w → I (w.removeFile p)) :
    Eff.Preserves env I (replaceTarget base temp target) := by
  have hmove : ∀ c occupied,
      Eff.Preserves env I (unlessDirectory occupied c (moveFile c temp target)) :=
    fun c _ => preserves_unlessDirectory
      (preserves_moveFile fun w b hw => hwrite _ _ (hremove _ _ (.inl rfl) hw))
  unfold replaceTarget
  refine Eff.Preserves.bind preserves_isDirectory fun occupied => ?_
  refine Eff.Preserves.bind (hmove _ _) ?_
  rintro (e | ⟨⟩)
  · refine Eff.Preserves.bind (preserves_removeFile fun w => hremove w _ (.inr rfl)) fun _ => ?_
    refine Eff.Preserves.bind (hmove _ _) ?_
    rintro (e | ⟨⟩)
    · exact Eff.Preserves.bind (preserves_removeFile fun w => hremove w _ (.inl rfl)) fun _ =>
        Eff.preserves_pure _
    · exact Eff.preserves_pure _
  · exact Eff.preserves_pure _

/-- Writing a snapshot touches the temporary file and the target. -/
theorem preserves_writeSnapshot (now : Ambient) (s : SystemStateSnapshot) (base : List String)
    (target : Path) (key : Bytes)
    (hwrite : ∀ w p b, p = tempPath now target ∨ p = target → I w → I (w.writeFile p b))
    (hremove : ∀ w p, p = tempPath now target ∨ p = target → I w → I (w.removeFile p)) :
    Eff.Preserves env I (writeSnapshot P now s base target key) := by
  unfold writeSnapshot
  refine Eff.Preserves.bind preserves_isDirectory fun occupied => ?_
  refine Eff.Preserves.bind (preserves_unlessDirectory
    (preserves_writeFile fun w b => hwrite w _ b (.inl rfl))) ?_
  rintro (e | ⟨⟩)
  · exact Eff.preserves_pure _
  refine Eff.Preserves.bind
    (preserves_replaceTarget _ _ _ (fun w b => hwrite w _ b (.inr rfl)) hremove) ?_
  rintro (e | ⟨⟩) <;> exact Eff.preserves_pure _

/-- A save writes and removes files, and nothing else. -/
theorem preserves_saveAtomicWithBase (now : Ambient) (s : SystemStateSnapshot)
    (targetPath : Option Path) (base : Option (List String))
    (hwrite : ∀ w p b, I w → I (w.writeFile p b)) (hremove : ∀ w p, I w → I (w.removeFile p)) :
    Eff.Preserves env I (saveAtomicWithBase P now s targetPath base) := by
  unfold saveAtomicWithBase
  refine Eff.Preserves.bind preserves_getWorld fun w => ?_
  refine Eff.Preserves.bind (preserves_validateSnapshotPath _ _ _) ?_
  rintro (e | target)
  · exact Eff.preserves_pure _
  refine Eff.Preserves.bind Eff.preserves_read ?_
  rintro (e | ⟨⟩)
  · exact Eff.preserves_pure _
  refine Eff.Preserves.bind (preserves_getOrGenerateKey _ _ _ fun w => hwrite w _) ?_
  rintro (e | key)
  · exact Eff.preserves_pure _
  · exact preserves_writeSnapshot _ _ _ _ _ (fun w p b _ => hwrite w p b) fun w p _ => hremove w p

theorem preserves_eraseKey (base : List String) (keyPath : Path)
    (hwrite : ∀ w b, I w → I (w.writeFile keyPath b))
    (hremove : ∀ w, I w → I (w.removeFile keyPath)) :
    Eff.Preserves env I (eraseKey base keyPath) := by
  unfold eraseKey
  refine Eff.Preserves.bind preserves_isDirectory fun occupied => ?_
  refine Eff.Preserves.bind (preserves_unlessDirectory (preserves_writeFile hwrite)) fun _ => ?_
  exact Eff.Preserves.bind (preserves_removeFile hremove) fun _ => Eff.preserves_pure _

/-- The deletion of an accepted target touches the target and its key. -/
theorem preserves_deleteFound (found : Bool) (base : List String) (target : Path)
    (hwrite : ∀ w b, I w → I (w.writeFile target.keyPath b))
    (hremove : ∀ w p, p = target ∨ p = target.keyPath → I w → I (w.removeFile p)) :
    Eff.Preserves env I (deleteFound found base target) := by
  have hfound : Eff.Preserves env I (removeFound found target) := by
    unfold removeFound
    split
    · exact preserves_removeFile fun w => hremove w _ (.inl rfl)
    · exact Eff.preserves_pure _
  unfold deleteFound
  refine Eff.Preserves.bind hfound ?_
  rintro (e | ⟨⟩)
  · exact Eff.preserves_pure _
  refine Eff.Preserves.bind preserves_pathExists fun haskey => ?_
  cases haskey with
  | false => exact Eff.preserves_pure _
  | true =>
    exact Eff.Preserves.bind (preserves_eraseKey base target.keyPath hwrite
      fun w => hremove w _ (.inr rfl)) fun _ => Eff.preserves_pure _

/-- A deletion writes and removes files, and nothing else. -/
theorem preserves_deleteSnapshotWithBase (targetPath : Option Path) (base : Option (List String))
    (hwrite : ∀ w p b, I w → I (w.writeFile p b)) (hremove : ∀ w p, I w → I (w.removeFile p)) :
    Eff.Preserves env I (deleteSnapshotWithBase targetPath base) := by
  unfold deleteSnapshotWithBase
  refine Eff.Preserves.bind preserves_getWorld fun w => ?_
  refine Eff.Preserves.bind (preserves_validateSnapshotPath _ _ _) ?_
  rintro (e | target)
  · exact Eff.preserves_pure _
  exact Eff.Preserves.bind preserves_pathExists fun found =>
    preserves_deleteFound found _ target (fun w b => hwrite w _ b) fun w p _ => hremove w p

end Frame

/-- The calls with which a snapshot is loaded. -/
def Call.loadReads : List Call := [.validatePath .load, .readKey, .unprotectKey, .readSnapshot]

/-- The calls with which a snapshot is deleted. -/
def Call.deletes : List Call := [.validatePath .delete, .deleteSnapshot, .zeroKey, .removeKey]

theorem deletes_faultless (text : Call → String) :
    ∀ c ∈ Call.deletes, (Env.faultless text).outcome c = .ok := fun _ _ => rfl

/-! ### Undisturbed runs -/

section Faultless

variable {P : Platform} {text : Call → String} {w : World} {base : Option (List String)}
  {op : StoreOperation} {path target : Path}

/-- A path that is accepted is left to the system to inspect. -/
theorem run_validateSnapshotPath_of_accepts (op : StoreOperation) (env : Env Call)
    (h : w.Accepts base path) :
    (validateSnapshotPath op path base).run env w = (inspectPath op path).run env w := by
  obtain ⟨⟨hdots, hwithin⟩, hthere⟩ := h
  unfold validateSnapshotPath
  simp only [Eff.run_bind, run_getWorld, Run.bind_returned, if_neg hdots, run_pathExists]
  by_cases hfound : w.pathExists (w.baseDir base) path = true
  · rw [if_pos hfound, if_pos hwithin]
  · have hne : path.components ≠ w.baseDir base :=
      fun heq => hfound (w.pathExists_of_components_eq heq)
    rw [if_neg hfound]
    simp only [Eff.run_bind, run_pathExists, Run.bind_returned]
    rw [if_pos (hthere.resolve_left hfound), if_pos (Path.prefix_dir hwithin hne)]

theorem run_validateSnapshotPath_of_ok {env : Env Call} (h : w.Accepts base path)
    (ho : env.outcome (.validatePath op) = .ok) :
    (validateSnapshotPath op path base).run env w = .returned (.ok path) w := by
  have hread := run_readMachine (w := w) (f := fun _ => some ()) ho rfl
  rw [run_validateSnapshotPath_of_accepts op env h, inspectPath, Eff.run_bind, hread]
  rfl

theorem run_validateSnapshotPath (h : w.Accepts base path) :
    (validateSnapshotPath op path base).run (.faultless text) w = .returned (.ok path) w :=
  run_validateSnapshotPath_of_ok h rfl

/-- A path that is not accepted is refused without asking the system. -/
theorem run_validateSnapshotPath_of_not (op : StoreOperation) (env : Env Call)
    (h : ¬ w.Accepts base path) :
    ∃ e, (validateSnapshotPath op path base).run env w = .returned (.error e) w := by
  unfold validateSnapshotPath
  simp only [Eff.run_bind, run_getWorld, Run.bind_returned]
  by_cases hdots : ".." ∈ path.components
  · rw [if_pos hdots]
    exact ⟨_, rfl⟩
  simp only [if_neg hdots, Eff.run_bind, run_pathExists, Run.bind_returned]
  by_cases hfound : w.pathExists (w.baseDir base) path = true
  · have hout : ¬ w.baseDir base <+: path.components :=
      fun hwithin => h ⟨⟨hdots, hwithin⟩, .inl hfound⟩
    rw [if_pos hfound, if_neg hout]
    exact ⟨_, rfl⟩
  rw [if_neg hfound]
  simp only [Eff.run_bind, run_pathExists, Run.bind_returned]
  by_cases hparent : w.pathExists (w.baseDir base) path.parent = true
  · have hout : ¬ w.baseDir base <+: path.dir :=
      fun hdir => h ⟨⟨hdots, Path.prefix_components hdir⟩, .inr hparent⟩
    rw [if_pos hparent, if_neg hout]
    exact ⟨_, rfl⟩
  · rw [if_neg hparent]
    exact ⟨_, rfl⟩

/-- A path that passes the validation is the one that was asked for, and accepted, also by the
system. -/
theorem holds_validateSnapshotPath_ok {env : Env Call} (op : StoreOperation) (path : Path) :
    ((validateSnapshotPath op path base).run env w).Holds
      (fun r w' => w' = w ∧ ∀ t, r = .ok t →
        t = path ∧ w.Accepts base path ∧ env.outcome (.validatePath op) = .ok)
      (fun w' => w' = w) := by
  by_cases hacc : w.Accepts base path
  · rw [run_validateSnapshotPath_of_accepts op env hacc, inspectPath, Eff.run_bind]
    refine Run.Holds.bind holds_readMachine_ok ?_
    rintro (e | ⟨⟩) w' ⟨rfl, hok⟩
    · exact ⟨rfl, by rintro t ⟨⟩⟩
    · refine ⟨rfl, ?_⟩
      rintro t ⟨⟩
      exact ⟨rfl, hacc, hok () rfl⟩
  · obtain ⟨e, he⟩ := run_validateSnapshotPath_of_not op env hacc
    rw [he]
    exact ⟨rfl, by rintro t ⟨⟩⟩

theorem holds_validateSnapshotPath {env : Env Call} (op : StoreOperation) (path : Path) :
    ((validateSnapshotPath op path base).run env w).Holds
      (fun r w' => w' = w ∧ ∀ t, r = .ok t → t = path ∧ w.Accepts base path)
      (fun w' => w' = w) := by
  refine (holds_validateSnapshotPath_ok op path).mono ?_ fun _ h => h
  intro r w' h
  refine ⟨h.1, fun t ht => ?_⟩
  obtain ⟨htarget, hacc, -⟩ := h.2 t ht
  exact ⟨htarget, hacc⟩

/-- A deletion writes and removes no file but the target and its key. -/
theorem holds_deleteSnapshotWithBase {env : Env Call} {I : World → Prop}
    (hwrite : ∀ w b, I w → I (w.writeFile target.keyPath b))
    (hremove : ∀ w p, p = target ∨ p = target.keyPath → I w → I (w.removeFile p)) (hw : I w) :
    ((deleteSnapshotWithBase (some target) base).run env w).Holds (fun _ => I) I := by
  unfold deleteSnapshotWithBase
  rw [Eff.run_bind, run_getWorld, Run.bind_returned, Eff.run_bind]
  have hpath : ((validateSnapshotPath .delete target base).run env w).Holds _ _ :=
    holds_validateSnapshotPath .delete target
  refine Run.Holds.bind (hpath.mono (fun r w' h => (⟨h.1 ▸ hw, fun t ht => (h.2 t ht).1⟩ :
    I w' ∧ ∀ t, r = .ok t → t = target)) fun w' h => h ▸ hw) ?_
  rintro (e | t) w₁ ⟨hw₁, ht⟩
  · exact hw₁
  obtain rfl := ht t rfl
  have hdelete : Eff.Preserves env I (do
      deleteFound (← pathExists (w.baseDir base) t) (w.baseDir base) t) :=
    Eff.Preserves.bind preserves_pathExists fun found =>
      preserves_deleteFound found _ t hwrite hremove
  exact hdelete.holds hw₁

/-- The removal of a target that is no directory. -/
theorem run_removeFound {env : Env Call} {dir : List String}
    (ho : env.outcome .deleteSnapshot = .ok) (hdir : w.isDirectory dir target = false) :
    (removeFound (w.pathExists dir target) target).run env w =
      .returned (.ok ()) (w.removeFile target) := by
  unfold removeFound World.pathExists
  rw [hdir, Bool.or_false]
  cases hfile : w.files target with
  | none =>
    rw [w.removeFile_of_none hfile]
    rfl
  | some b => exact run_removeFile ho (by rw [hfile]; rfl)

/-- The erasure of a key that exists; a directory of that name stays. -/
theorem run_eraseKey {env : Env Call} (w : World) (dir : List String) (keyPath : Path)
    (hzero : env.outcome .zeroKey = .ok) (hremove : env.outcome .removeKey = .ok) : ∃ w',
    (eraseKey dir keyPath).run env w = .returned () w' ∧ w'.drive = w.drive ∧
      w'.files keyPath = none ∧ ∀ q, q ≠ keyPath → w'.files q = w.files q := by
  unfold eraseKey
  simp only [Eff.run_bind, run_isDirectory, Run.bind_returned]
  cases hkey : w.files keyPath with
  | none =>
    have hgone : (removeFile .removeKey keyPath).run env w =
        .returned (.error (env.errorText .removeKey)) w :=
      run_perform_refused hremove (by simp [hkey])
    cases hoccupied : w.isDirectory dir keyPath with
    | true =>
      have hrefused : (perform .zeroKey (.read fun _ : World => (none : Option Unit))).run env w =
          .returned (.error (env.errorText .zeroKey)) w := run_perform_refused hzero rfl
      rw [unlessDirectory_true, hrefused, Run.bind_returned, hgone]
      exact ⟨w, rfl, rfl, hkey, fun _ _ => rfl⟩
    | false =>
      rw [unlessDirectory_false, run_writeFile hzero, Run.bind_returned,
        run_removeFile hremove (by simp)]
      refine ⟨_, rfl, rfl, World.files_removeFile_self .., fun q hq => ?_⟩
      rw [World.files_removeFile_of_ne _ hq, World.files_writeFile_of_ne _ _ hq]
  | some c =>
    have hoccupied := w.isDirectory_of_isSome (by rw [hkey]; rfl) dir
    rw [hoccupied, unlessDirectory_false, run_writeFile hzero, Run.bind_returned,
      run_removeFile hremove (by simp)]
    refine ⟨_, rfl, rfl, World.files_removeFile_self .., fun q hq => ?_⟩
    rw [World.files_removeFile_of_ne _ hq, World.files_writeFile_of_ne _ _ hq]

/-- Behind its validation, a deletion that meets no failure removes the target and the key file of
its directory. -/
theorem run_deleteFound {env : Env Call} {dir : List String}
    (hdeletes : ∀ c ∈ Call.deletes, env.outcome c = .ok)
    (hdir : w.isDirectory dir target = false) :
    ∃ found w', (deleteFound (w.pathExists dir target) dir target).run env w =
        .returned (.ok found) w' ∧ w'.drive = w.drive ∧
      ∀ q, w'.files q = if q = target ∨ q = target.keyPath then none else w.files q := by
  have hfiles : ∀ w' : World, w'.files target.keyPath = none →
      (∀ q, q ≠ target.keyPath → w'.files q = (w.removeFile target).files q) →
      ∀ q, w'.files q = if q = target ∨ q = target.keyPath then none else w.files q := by
    intro w' hnone hrest q
    by_cases hqk : q = target.keyPath
    · rw [if_pos (.inr hqk), hqk, hnone]
    · rw [hrest q hqk]
      by_cases hq : q = target
      · rw [if_pos (.inl hq), hq, World.files_removeFile_self]
      · rw [World.files_removeFile_of_ne _ hq, if_neg (by tauto)]
  have hkeyPath : target.withFileName snapshotKeyFilename = target.keyPath := rfl
  unfold deleteFound
  rw [Eff.run_bind, run_removeFound (hdeletes .deleteSnapshot (by decide)) hdir]
  simp only [Run.bind_returned, Eff.run_bind, run_pathExists, hkeyPath]
  by_cases hexists : (w.removeFile target).pathExists dir target.keyPath = true
  · obtain ⟨w', hrun, hdrive, hnone, hrest⟩ := run_eraseKey (w.removeFile target) dir
      target.keyPath (hdeletes .zeroKey (by decide)) (hdeletes .removeKey (by decide))
    refine ⟨true, w', ?_, hdrive, hfiles w' hnone hrest⟩
    rw [if_pos hexists, Eff.run_bind, hrun]
    rfl
  · have hnone : (w.removeFile target).files target.keyPath = none := by
      rw [← Option.not_isSome_iff_eq_none]
      exact fun hsome => hexists (World.pathExists_of_isSome _ hsome dir)
    rw [if_neg hexists]
    exact ⟨_, w.removeFile target, rfl, rfl, hfiles _ hnone fun _ _ => rfl⟩

/-- A deletion of an accepted target that is no directory. -/
theorem run_deleteSnapshotWithBase {env : Env Call}
    (hdeletes : ∀ c ∈ Call.deletes, env.outcome c = .ok) (hacc : w.Accepts base target)
    (hdir : w.isDirectory (w.baseDir base) target = false) :
    ∃ found w', (deleteSnapshotWithBase (some target) base).run env w =
        .returned (.ok found) w' ∧ w'.drive = w.drive ∧
      ∀ q, w'.files q = if q = target ∨ q = target.keyPath then none else w.files q := by
  unfold deleteSnapshotWithBase
  simp only [Eff.run_bind, run_getWorld, Run.bind_returned, Option.getD_some,
    run_validateSnapshotPath_of_ok hacc (hdeletes (.validatePath .delete) (by decide)),
    run_pathExists]
  exact run_deleteFound hdeletes hdir

/-- A directory is not deleted, and its key is left alone. -/
theorem run_deleteSnapshotWithBase_of_directory {env : Env Call}
    (hdeletes : ∀ c ∈ Call.deletes, env.outcome c = .ok)
    (hdir : w.isDirectory (w.baseDir base) target = true) :
    ∃ e, (deleteSnapshotWithBase (some target) base).run env w = .returned (.error e) w := by
  have hnone : w.files target = none := by
    rw [World.isDirectory, Bool.and_eq_true, Option.isNone_iff_eq_none] at hdir
    exact hdir.1
  have hexists : w.pathExists (w.baseDir base) target = true := by
    rw [World.pathExists, hdir, Bool.or_true]
  have hrefused : (removeFile .deleteSnapshot target).run env w =
      .returned (.error (env.errorText .deleteSnapshot)) w :=
    run_perform_refused (hdeletes .deleteSnapshot (by decide)) (by simp [hnone])
  unfold deleteSnapshotWithBase
  simp only [Eff.run_bind, run_getWorld, Run.bind_returned, Option.getD_some]
  by_cases hacc : w.Accepts base target
  · rw [run_validateSnapshotPath_of_ok hacc (hdeletes (.validatePath .delete) (by decide)),
      Run.bind_returned]
    simp only [Eff.run_bind, run_pathExists, Run.bind_returned, hexists, deleteFound, removeFound,
      if_true, hrefused]
    exact ⟨_, rfl⟩
  · obtain ⟨e, he⟩ := run_validateSnapshotPath_of_not .delete env hacc
    rw [he]
    exact ⟨_, rfl⟩

/-- `loadAndVerifyWithBase` returns what the target holds, if its path is accepted. -/
theorem run_loadAndVerifyWithBase (P : Platform) (text : Call → String) (w : World)
    (targetPath : Option Path) (base : Option (List String)) : ∃ r,
      (loadAndVerifyWithBase P targetPath base).run (.faultless text) w = .returned r w ∧
      r.toOption = if w.Accepts base (w.targetOf targetPath) then
        w.snapshotAt P (w.targetOf targetPath) else none := by
  unfold loadAndVerifyWithBase
  simp only [Eff.run_bind, run_getWorld, Run.bind_returned]
  change ∃ r, ((validateSnapshotPath .load (w.targetOf targetPath) base).run _ w).bind _ = _ ∧ _
  generalize w.targetOf targetPath = target
  by_cases hacc : w.Accepts base target
  · rw [if_pos hacc, run_validateSnapshotPath hacc, Run.bind_returned]
    simp only [Eff.run_bind, run_fileExists, Run.bind_returned]
    unfold World.snapshotAt World.storeKey
    cases hfile : w.files target with
    | none => exact ⟨_, rfl, rfl⟩
    | some content =>
      simp only [Option.isSome_some, Bool.not_true, Bool.false_eq_true, if_false, Eff.run_bind,
        run_pathExists, Run.bind_returned, Option.bind_some]
      change ∃ r,
        (if !w.pathExists (w.baseDir base) target.keyPath then _ else _ : Prog _).run _ _ =
        _ ∧ _
      cases hkey : w.files target.keyPath with
      | none =>
        -- a directory of that name exists, but does not read
        have hkey' : w.files (target.withFileName snapshotKeyFilename) = none := hkey
        cases w.pathExists (w.baseDir base) target.keyPath with
        | false => exact ⟨_, rfl, rfl⟩
        | true =>
          simp only [Bool.not_true, Bool.false_eq_true, if_false, Eff.run_bind,
            run_readFile_faultless, hkey', Run.bind_returned]
          exact ⟨_, rfl, rfl⟩
      | some ciphertext =>
        have hkey' : w.files (target.withFileName snapshotKeyFilename) = some ciphertext := hkey
        have hexists : w.pathExists (w.baseDir base) target.keyPath = true :=
          w.pathExists_of_isSome (by rw [hkey]; rfl) _
        simp only [hexists, Bool.not_true, Bool.false_eq_true, if_false, Eff.run_bind,
          run_readFile_faultless, hkey', Run.bind_returned, run_readMachine_faultless,
          Option.bind_some]
        cases hplain : P.unprotect ciphertext with
        | none => exact ⟨_, rfl, rfl⟩
        | some plaintext =>
          simp only [Run.bind_returned, Option.bind_some]
          cases hk : keyOfPlaintext plaintext with
          | none => exact ⟨_, rfl, rfl⟩
          | some key =>
            simp only [Eff.run_bind, run_readFile_faultless, hfile, Run.bind_returned,
              Option.bind_some]
            cases P.snapshot.fromStr content with
            | error e => exact ⟨_, rfl, rfl⟩
            | ok s => exact ⟨_, rfl, rfl⟩
  · rw [if_neg hacc]
    obtain ⟨e, he⟩ := run_validateSnapshotPath_of_not .load (.faultless text) hacc
    rw [he, Run.bind_returned]
    exact ⟨_, rfl, rfl⟩

/-- Where its calls succeed, `loadAndVerifyWithBase` comes down to its checks of the signatures. -/
theorem run_loadAndVerifyWithBase_of_read {env : Env Call} {s : SystemStateSnapshot}
    {content key : Bytes} (hreads : ∀ c ∈ Call.loadReads, env.outcome c = .ok)
    (hacc : w.Accepts base target) (hfile : w.files target = some content)
    (hkey : w.storeKey P target = some key) (hread : P.snapshot.fromStr content = .ok s) :
    (loadAndVerifyWithBase P (some target) base).run env w =
      .returned (verifySnapshot P target key s) w := by
  have hvalidate := hreads (.validatePath .load) (by decide)
  have hreadKey := hreads .readKey (by decide)
  have hunprotect := hreads .unprotectKey (by decide)
  have hreadSnapshot := hreads .readSnapshot (by decide)
  unfold World.storeKey at hkey
  obtain ⟨ciphertext, hcipher, hkey⟩ := Option.bind_eq_some_iff.mp hkey
  obtain ⟨plaintext, hplain, hkey⟩ := Option.bind_eq_some_iff.mp hkey
  have hcipher' : w.files (target.withFileName snapshotKeyFilename) = some ciphertext := hcipher
  have hexists : w.pathExists (w.baseDir base) (target.withFileName snapshotKeyFilename) = true :=
    w.pathExists_of_isSome (by rw [hcipher']; rfl) _
  have hplaintext :=
    run_readMachine (w := w) (f := fun _ => P.unprotect ciphertext) hunprotect hplain
  unfold loadAndVerifyWithBase
  simp only [Eff.run_bind, run_getWorld, Run.bind_returned, Option.getD_some,
    run_validateSnapshotPath_of_ok hacc hvalidate, run_fileExists, run_pathExists, hfile, hexists,
    Option.isSome_some, Bool.not_true, Bool.false_eq_true, if_false,
    run_readFile hreadKey hcipher', hplaintext, hkey,
    run_readFile hreadSnapshot hfile, hread, Eff.run_pure]

/-- Where its calls succeed, it returns what the target holds. -/
theorem run_loadAndVerifyWithBase_of_ok {env : Env Call} {s : SystemStateSnapshot}
    (hreads : ∀ c ∈ Call.loadReads, env.outcome c = .ok) (hacc : w.Accepts base target)
    (hs : w.snapshotAt P target = some s) :
    (loadAndVerifyWithBase P (some target) base).run env w = .returned (.ok s) w := by
  obtain ⟨content, key, hfile, hkey, hread, hverify⟩ := World.verifySnapshot_of_snapshotAt hs
  rw [run_loadAndVerifyWithBase_of_read hreads hacc hfile hkey hread, hverify]

/-- What it takes for a load to succeed. -/
theorem load_ok_iff {targetPath : Option Path} {s : SystemStateSnapshot} :
    (loadAndVerifyWithBase P targetPath base).run (.faultless text) w = .returned (.ok s) w ↔
      w.Accepts base (w.targetOf targetPath) ∧ w.snapshotAt P (w.targetOf targetPath) = some s := by
  obtain ⟨r, hr, hvalue⟩ := run_loadAndVerifyWithBase P text w targetPath base
  rw [hr]
  constructor
  · intro h
    cases h
    by_cases hacc : w.Accepts base (w.targetOf targetPath)
    · rw [if_pos hacc] at hvalue
      exact ⟨hacc, hvalue.symm⟩
    · rw [if_neg hacc] at hvalue
      cases hvalue
  · rintro ⟨hacc, hs⟩
    rw [if_pos hacc, hs] at hvalue
    cases r with
    | error e => cases hvalue
    | ok s' =>
      cases hvalue
      rfl

/-- The desktop with a stored snapshot, which lists that Game Mode was off. -/
def World.desktopStored : World :=
  World.desktop.stored .portable default
    { SystemStateSnapshot.new "snap_0" "" with previousGameMode := some false }
    World.desktop.defaultSnapshotPath

/-- The snapshot of the desktop loads. -/
theorem load_desktopStored :
    (loadAndVerifyWithBase .portable none none).run (.faultless errorText) .desktopStored =
      .returned (.ok ({ SystemStateSnapshot.new "snap_0" "" with
        previousGameMode := some false }.signWithKey .portable (List.replicate 32 0)))
        .desktopStored := by
  have hsnap :
      World.desktopStored.snapshotAt .portable World.desktop.defaultSnapshotPath = some _ :=
    World.snapshotAt_stored Platform.lawful_portable (by decide)
  exact load_ok_iff.mpr ⟨by decide, hsnap⟩

end Faultless

end ValOpt
