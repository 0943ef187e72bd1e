import ValOpt.State.Equiv.AtomicReplace
import ValOpt.State.Equiv.StoreHistory

/-!
# The key file of the snapshot store

A save that succeeds leaves a key file with the key it has signed with, whatever became of its
calls, so that its snapshot loads (`load_of_save`).  But the key file is written in place, and
overwritten before it is unlinked: where a write or an erasure of it is cut short, the file is there
and holds no key, and no later save succeeds.  `save_after_calls` says that this is the only way:
as long as no call is cut short there, saves succeed and load.
-/

namespace ValOpt

open Effect

variable {P : Platform} {env : Env Call} {text : Call → String} {w : World} {now : Ambient}
  {dir : List String} {target : Path} {N : SystemStateSnapshot} {base : Option (List String)}

/-! ### What a successful save leaves -/

/-- The key that a save gets is in the key file: it was read from there, or made up and written. -/
theorem holds_getOrGenerateKey_ok (hP : P.Lawful) :
    ((getOrGenerateKey P now dir target).run env w).Holds
      (fun r w' => w'.drive = w.drive ∧
        ∀ key, r = .ok key → w'.storeKey P target = some key) (fun _ => True) := by
  unfold getOrGenerateKey
  simp only [Eff.run_bind, run_pathExists, Run.bind_returned]
  split
  · rw [Eff.run_bind]
    refine Run.Holds.bind (holds_readFile (Q := fun r w' => w' = w ∧
      ∀ b, r = .ok b → w.files target.keyPath = some b) ?_ fun _ _ => trivial) ?_
    · exact fun r hr => ⟨rfl, fun b hb => (hr b hb).2⟩
    rintro (e | b) w₁ ⟨rfl, hfile⟩
    · exact ⟨rfl, by rintro key ⟨⟩⟩
    dsimp only
    rw [Eff.run_bind]
    refine Run.Holds.bind (holds_readMachine (Q := fun r w' => w' = w₁ ∧
      ∀ pt, r = .ok pt → P.unprotect b = some pt) ?_ fun _ _ => trivial) ?_
    · exact fun r hr => ⟨rfl, fun pt hpt => (hr pt hpt).2⟩
    rintro (e | plaintext) w₂ ⟨rfl, hplain⟩
    · exact ⟨rfl, by rintro key ⟨⟩⟩
    dsimp only
    cases hkey : keyOfPlaintext plaintext with
    | none => exact ⟨rfl, by rintro key ⟨⟩⟩
    | some key =>
      refine ⟨rfl, ?_⟩
      rintro key' ⟨⟩
      unfold World.storeKey
      rw [hfile b rfl, Option.bind_some, hplain _ rfl, Option.bind_some, hkey]
  · rw [Eff.run_bind]
    refine Run.Holds.bind (holds_readMachine (Q := fun r w' => w' = w ∧
      ∀ raw, r = .ok raw → raw = now.random32) ?_ fun _ _ => trivial) ?_
    · exact fun r hr => ⟨rfl, fun raw hraw => (Option.some.inj (hr raw hraw).2).symm⟩
    rintro (e | raw) w₁ ⟨rfl, hraw⟩
    · exact ⟨rfl, by rintro key ⟨⟩⟩
    obtain rfl := hraw raw rfl
    dsimp only
    rw [Eff.run_bind]
    refine Run.Holds.bind (holds_readMachine (Q := fun r w' => w' = w₁ ∧
      ∀ c, r = .ok c → c = P.protect now.nonce (keyPlaintext now)) ?_ fun _ _ => trivial) ?_
    · exact fun r hr => ⟨rfl, fun c hc => (Option.some.inj (hr c hc).2).symm⟩
    rintro (e | ciphertext) w₂ ⟨rfl, hcipher⟩
    · exact ⟨rfl, by rintro key ⟨⟩⟩
    obtain rfl := hcipher ciphertext rfl
    dsimp only
    rw [Eff.run_bind]
    refine Run.Holds.bind (holds_writeFile (Q := fun r w' => w'.drive = w₂.drive ∧
      (r = .ok () → w' = w₂.writeFile target.keyPath (P.protect now.nonce (keyPlaintext now))))
      ?_ ?_ fun _ _ => trivial) ?_
    · exact fun _ => ⟨rfl, fun _ => rfl⟩
    · intro k _
      refine ⟨?_, by rintro ⟨⟩⟩
      cases k <;> rfl
    rintro (e | ⟨⟩) w₃ ⟨hdrive, hwritten⟩
    · exact ⟨hdrive, by rintro key ⟨⟩⟩
    · refine ⟨hdrive, ?_⟩
      rintro key ⟨⟩
      rw [hwritten rfl]
      unfold World.storeKey
      rw [World.files_writeFile_self, Option.bind_some, hP.unprotect_protect, Option.bind_some,
        keyOfPlaintext_keyPlaintext]

/-- A replacement that succeeds leaves the bytes of the temporary file at the target. -/
theorem holds_replaceTarget_ok {temp : Path} {bytes : Bytes} (htemp : w.files temp = some bytes) :
    ((replaceTarget dir temp target).run env w).Holds
      (fun r w' => r = .ok () → w'.drive = w.drive ∧ w'.files target = some bytes ∧
        ∀ q, q ≠ temp → q ≠ target → w'.files q = w.files q) (fun _ => True) := by
  unfold replaceTarget
  rw [Eff.run_bind, run_isDirectory, Run.bind_returned]
  cases w.isDirectory dir target with
  | true =>
    -- the directory is not replaced
    have hrefused : ∀ c w₁, ((unlessDirectory true c (moveFile c temp target)).run env w₁).Holds
        (fun r _ => ∃ e, r = .error e) (fun _ => True) := fun _ _ =>
      holds_perform (by rintro - _ _ ⟨⟩) (fun _ _ => ⟨_, rfl⟩) (fun _ _ => ⟨_, rfl⟩)
        fun _ _ => trivial
    have hremove : ∀ c q w₁, ((removeFile c q).run env w₁).Holds (fun _ _ => True)
        (fun _ => True) := fun _ _ _ =>
      holds_removeFile (fun _ _ => trivial) (fun _ => trivial) fun _ _ => trivial
    rw [Eff.run_bind]
    refine Run.Holds.bind (hrefused _ _) ?_
    rintro _ w₁ ⟨e, rfl⟩
    dsimp only
    rw [Eff.run_bind]
    refine Run.Holds.bind (hremove _ _ _) fun _ w₂ _ => ?_
    rw [Eff.run_bind]
    refine Run.Holds.bind (hrefused _ _) ?_
    rintro _ w₃ ⟨e', rfl⟩
    dsimp only
    rw [Eff.run_bind]
    refine Run.Holds.bind (hremove _ _ _) ?_
    rintro _ _ - ⟨⟩
  | false =>
  rw [unlessDirectory_false, Eff.run_bind]
  refine Run.Holds.bind ((holds_moveFile_of_some htemp).mono (fun _ _ h => h)
    fun _ _ => trivial) ?_
  rintro r w₁ (⟨rfl, -, rfl⟩ | ⟨⟨e, rfl⟩, -, rfl⟩)
  · intro _
    exact ⟨rfl, w.files_moved.2, w.files_moved.1⟩
  dsimp only
  rw [Eff.run_bind]
  -- the target is removed, or nothing happens
  refine Run.Holds.bind (holds_removeFile (Q := fun _ w' => w' = w₁ ∨ w' = w₁.removeFile target)
    (fun _ _ => .inr rfl) (fun _ => .inl rfl) fun _ _ => trivial) ?_
  intro _ w₂ hw₂
  rw [unlessDirectory_false, Eff.run_bind]
  refine Run.Holds.bind (holds_moveFile (Q := fun r w' => r = .ok () →
    w₂.files temp = some bytes ∧ w' = (w₂.removeFile temp).writeFile target bytes) ?_ ?_
      fun _ _ => trivial) ?_
  · intro b _ hb _
    have hbytes : b = bytes := by
      rcases hw₂ with rfl | rfl
      · rw [htemp] at hb
        exact (Option.some.inj hb).symm
      · by_cases hne : temp = target
        · rw [hne, World.files_removeFile_self] at hb
          cases hb
        · rw [World.files_removeFile_of_ne _ hne, htemp] at hb
          exact (Option.some.inj hb).symm
    rw [hbytes] at hb ⊢
    exact ⟨hb, rfl⟩
  · rintro - ⟨⟩
  rintro (e' | ⟨⟩) w₃ hmoved
  · dsimp only
    rw [Eff.run_bind]
    refine Run.Holds.bind (holds_removeFile (Q := fun _ _ => True) (fun _ _ => trivial)
      (fun _ => trivial) fun _ _ => trivial) ?_
    rintro _ _ - ⟨⟩
  · obtain ⟨-, rfl⟩ := hmoved rfl
    intro _
    have hdrive : w₂.drive = w₁.drive := by
      rcases hw₂ with rfl | rfl <;> rfl
    refine ⟨hdrive, w₂.files_moved.2, fun q ht hq => ?_⟩
    rw [w₂.files_moved.1 q ht hq]
    rcases hw₂ with rfl | rfl
    · rfl
    · exact World.files_removeFile_of_ne _ hq

/-- Nothing is created for a directory that is there. -/
theorem holds_createParent : ((createParent target).run env w).Holds (fun _ w' => w' = w)
    (fun w' => w' = w) := holds_read (fun _ _ => rfl) fun _ _ => rfl

/-- What a save that succeeds leaves: the snapshot it has signed, and the key. -/
theorem holds_saveAtomicWithBase_ok (hP : P.Lawful) {targetPath : Option Path}
    (hname : (w.targetOf targetPath).file ≠ snapshotKeyFilename) :
    ((saveAtomicWithBase P now N targetPath base).run env w).Holds
      (fun r w' => ∀ a, r = .ok a → a.1 = w.targetOf targetPath ∧ w'.Accepts base a.1 ∧
        w'.snapshotAt P a.1 = some a.2) (fun _ => True) := by
  unfold saveAtomicWithBase
  rw [Eff.run_bind, run_getWorld, Run.bind_returned]
  dsimp only
  rw [Eff.run_bind]
  refine Run.Holds.bind ((holds_validateSnapshotPath .save (w.targetOf targetPath)).mono
    (fun _ _ h => h) fun _ _ => trivial) ?_
  rintro (e | target) w₁ ⟨rfl, hvalid⟩
  · rintro a ⟨⟩
  obtain ⟨rfl, hacc⟩ := hvalid _ rfl
  generalize w₁.targetOf targetPath = target at hname hacc
  dsimp only
  rw [Eff.run_bind]
  refine Run.Holds.bind (holds_createParent.mono (fun _ _ h => h) fun _ _ => trivial) ?_
  rintro (e | ⟨⟩) w₂ rfl
  · rintro a ⟨⟩
  dsimp only
  rw [Eff.run_bind]
  refine Run.Holds.bind (holds_getOrGenerateKey_ok hP) ?_
  rintro (e | key) w₃ ⟨hdrive₃, hkey⟩
  · rintro a ⟨⟩
  have hkey₃ := hkey key rfl
  unfold writeSnapshot
  dsimp only
  rw [Eff.run_bind, run_isDirectory, Run.bind_returned, Eff.run_bind]
  refine Run.Holds.bind (holds_unlessDirectory (Q := fun r w' => r = .ok () → w' = w₃.writeFile
    (tempPath now target) (P.snapshot.toStringPretty (N.signWithKey P key)))
    (holds_writeFile (fun _ _ => rfl) (fun _ _ => by rintro ⟨⟩) fun _ _ => trivial)
    (by rintro ⟨⟩) fun _ _ => trivial) ?_
  rintro (e | ⟨⟩) w₄ hwritten
  · rintro a ⟨⟩
  obtain rfl := hwritten rfl
  dsimp only
  rw [Eff.run_bind]
  refine Run.Holds.bind (holds_replaceTarget_ok (World.files_writeFile_self ..)) ?_
  rintro (e | ⟨⟩) w₅ hmoved
  · rintro a ⟨⟩
  obtain ⟨hdrive₅, hfile, hothers⟩ := hmoved rfl
  rintro a ⟨⟩
  have htargetkey : target.keyPath ≠ target := fun h => hname (congrArg Path.file h).symm
  have htempkey := (tempPath_ne_keyPath now target target).symm
  have hkey₅ : w₅.storeKey P target = some key := by
    refine (World.storeKey_congr ?_).trans hkey₃
    rw [hothers _ htempkey htargetkey, World.files_writeFile_of_ne _ _ htempkey]
  have hdrive : w₅.drive = w₂.drive := by
    rw [hdrive₅, World.drive_writeFile, hdrive₃]
  exact ⟨rfl, hacc.congr hdrive (by rw [hfile]; rfl), World.snapshotAt_of_signed hP hfile hkey₅⟩

theorem load_of_run_save (hP : P.Lawful) {targetPath : Option Path}
    (hname : (w.targetOf targetPath).file ≠ snapshotKeyFilename) {path : Path}
    {s : SystemStateSnapshot} {w' : World}
    (hsave : (saveAtomicWithBase P now N targetPath base).run env w =
      .returned (.ok (path, s)) w') :
    (loadAndVerifyWithBase P (some path) base).run (.faultless text) w' = .returned (.ok s) w' := by
  obtain ⟨-, hacc, hsnap⟩ := (holds_saveAtomicWithBase_ok hP hname).of_returned hsave _ rfl
  exact load_ok_iff.mpr ⟨hacc, hsnap⟩

/-- **Save and load.**  Whatever becomes of the calls of a save to a path that is not named like the
key file: if it succeeds, the path it returns is the one that was asked for, it loads, and what is
loaded is the snapshot as the caller finds it after the save. -/
theorem load_of_save (hP : P.Lawful) (text : Call → String) {targetPath : Option Path}
    (hname : (w.targetOf targetPath).file ≠ snapshotKeyFilename) {path : Path}
    {s : SystemStateSnapshot} {w' : World}
    (hsave : (saveAtomicWithBase P now N targetPath base).run env w =
      .returned (.ok (path, s)) w') :
    (loadAndVerifyWithBase P (some path) base).run (.faultless text) w' = .returned (.ok s) w' ∧
      path = w.targetOf targetPath := by
  obtain ⟨hpath, -⟩ := (holds_saveAtomicWithBase_ok hP hname).of_returned hsave _ rfl
  exact ⟨load_of_run_save hP hname hsave, hpath⟩

/-- A save on the desktop, and its load. -/
theorem load_of_save_desktop : ∃ s w',
    (saveAtomicWithBase .portable default (.new "snap_0" "") none none).run (.faultless errorText)
        .desktop = .returned (.ok (World.desktop.defaultSnapshotPath, s)) w' ∧
      (loadAndVerifyWithBase .portable (some World.desktop.defaultSnapshotPath) none).run
        (.faultless errorText) w' = .returned (.ok s) w' := by
  have hsave : ∃ s w', (saveAtomicWithBase .portable default (.new "snap_0" "") none none).run
      (.faultless errorText) .desktop =
        .returned (.ok (World.desktop.defaultSnapshotPath, s)) w' := ⟨_, _, rfl⟩
  obtain ⟨s, w', hsave⟩ := hsave
  exact ⟨s, w', hsave, (load_of_save Platform.lawful_portable errorText (by decide) hsave).1⟩

/-! ### Calls that are cut short -/

/-- The program behind a call on the store. -/
def StoreOp.program (P : Platform) (base : Option (List String)) : StoreOp → Prog Unit
  | .save now snapshot target => do
    let _ ← saveAtomicWithBase P now snapshot (some target) base
    return ()
  | .delete target => do
    let _ ← deleteSnapshotWithBase (some target) base
    return ()

/-- The world after a list of calls, each in an environment of its own, which may kill it. -/
def World.afterCalls (P : Platform) (base : Option (List String)) (w : World)
    (calls : List (Env Call × StoreOp)) : World :=
  calls.foldl (fun w call => ((call.2.program P base).run call.1 w).state) w

/-- The call does not leave a part of a key file: no snapshot takes the name of one, a write of it
is complete unless it has not begun, and so is an erasure. -/
def KeySafe (P : Platform) (env : Env Call) : StoreOp → Prop
  | .save now _ target => target.file ≠ snapshotKeyFilename ∧
      ∀ n, env.outcome .writeKey = .fail (n + 1) ∨ env.outcome .writeKey = .crash (n + 1) →
        (P.protect now.nonce (keyPlaintext now)).length ≤ n
  | .delete _ => (∀ n, env.outcome .zeroKey ≠ .crash (n + 1)) ∧
      (env.outcome .zeroKey = .fail 0 ∨ env.outcome .zeroKey = .crash 0 ∨
        env.outcome .removeKey = .ok)

/-- The key file that belongs to a target is missing, or holds a key. -/
def World.KeyUsable (P : Platform) (w : World) (target : Path) : Prop :=
  w.files target.keyPath = none ∨ (w.storeKey P target).isSome

theorem World.KeyUsable.congr {w' : World} (h : w.KeyUsable P target)
    (hkey : w'.files target.keyPath = w.files target.keyPath) : w'.KeyUsable P target := by
  unfold KeyUsable
  rw [hkey, storeKey_congr hkey]
  exact h

theorem World.KeyUsable.removeFile (h : w.KeyUsable P target) (p : Path) :
    (w.removeFile p).KeyUsable P target := by
  by_cases hp : target.keyPath = p
  · left
    rw [← hp, World.files_removeFile_self]
  · exact h.congr (World.files_removeFile_of_ne _ hp)

theorem World.KeyUsable.writeFile (h : w.KeyUsable P target) {p : Path}
    (hp : p ≠ target.keyPath) (b : Bytes) : (w.writeFile p b).KeyUsable P target :=
  h.congr (World.files_writeFile_of_ne _ _ hp.symm)

/-- A new key file holds its key. -/
theorem World.keyUsable_writeKey (hP : P.Lawful) (w : World) (now : Ambient) (q : Path) :
    (w.writeFile q.keyPath (P.protect now.nonce (keyPlaintext now))).KeyUsable P q := by
  right
  unfold World.storeKey
  rw [World.files_writeFile_self, Option.bind_some, hP.unprotect_protect, Option.bind_some,
    keyOfPlaintext_keyPlaintext]
  rfl

/-- A key file that is written in full, or not at all, can be used. -/
theorem holds_getOrGenerateKey_keyUsable (hP : P.Lawful) {q : Path} (hw : w.KeyUsable P q)
    (hwrite : ∀ n, env.outcome .writeKey = .fail (n + 1) ∨ env.outcome .writeKey = .crash (n + 1) →
      (P.protect now.nonce (keyPlaintext now)).length ≤ n) :
    ((getOrGenerateKey P now dir target).run env w).Holds (fun _ w' => w'.KeyUsable P q)
      fun w' => w'.KeyUsable P q := by
  have hnew : (w.writeFile target.keyPath
      (P.protect now.nonce (keyPlaintext now))).KeyUsable P q := by
    by_cases hkey : target.keyPath = q.keyPath
    · rw [hkey]
      exact w.keyUsable_writeKey hP now q
    · exact hw.writeFile hkey _
  have htorn : ∀ k, (env.outcome .writeKey = .fail k ∨ env.outcome .writeKey = .crash k) →
      (w.tornWrite target.keyPath (P.protect now.nonce (keyPlaintext now)) k).KeyUsable P q := by
    intro k hk
    cases k with
    | zero => exact hw
    | succ n =>
      rw [World.tornWrite, List.take_of_length_le (hwrite n hk)]
      exact hnew
  unfold getOrGenerateKey
  simp only [Eff.run_bind, run_pathExists, Run.bind_returned]
  split
  · -- a key file that is there is only read
    refine Eff.Preserves.holds ?_ hw
    refine Eff.Preserves.bind preserves_readFile ?_
    rintro (e | c)
    · exact Eff.preserves_pure _
    refine Eff.Preserves.bind preserves_readMachine ?_
    rintro (e | plaintext)
    · exact Eff.preserves_pure _
    dsimp only
    cases keyOfPlaintext plaintext <;> exact Eff.preserves_pure _
  · rw [Eff.run_bind]
    refine Run.Holds.bind (holds_readMachine (Q := fun _ w' => w' = w) (fun _ _ => rfl)
      fun _ _ => hw) ?_
    rintro (e | raw) w₁ rfl
    · exact hw
    dsimp only
    rw [Eff.run_bind]
    refine Run.Holds.bind (holds_readMachine (Q := fun r w' => w' = w₁ ∧
      ∀ c, r = .ok c → c = P.protect now.nonce (keyPlaintext now)) ?_ fun _ _ => hw) ?_
    · exact fun r hr => ⟨rfl, fun c hc => (Option.some.inj (hr c hc).2).symm⟩
    rintro (e | ciphertext) w₂ ⟨rfl, hcipher⟩
    · exact hw
    obtain rfl := hcipher ciphertext rfl
    dsimp only
    rw [Eff.run_bind]
    refine Run.Holds.bind (holds_writeFile (Q := fun _ w' => w'.KeyUsable P q) (fun _ => hnew)
      (fun k hk => htorn k (.inl hk)) fun k hk => htorn k (.inr hk)) ?_
    rintro (e | ⟨⟩) w₃ hw₃ <;> exact hw₃

/-- A save keeps the key files usable. -/
theorem World.KeyUsable.save (hP : P.Lawful) {q : Path} (hw : w.KeyUsable P q)
    (hsafe : KeySafe P env (.save now N target)) :
    (((StoreOp.save now N target).program P base).run env w).state.KeyUsable P q := by
  obtain ⟨hname, hwrite⟩ := hsafe
  rw [← Run.holds_iff_state (I := fun w' : World => w'.KeyUsable P q)]
  unfold StoreOp.program saveAtomicWithBase
  rw [Eff.run_bind]
  refine Run.Holds.bind ?_ fun _ _ h => h
  rw [Eff.run_bind, run_getWorld, Run.bind_returned]
  dsimp only
  rw [Eff.run_bind]
  refine Run.Holds.bind ((holds_validateSnapshotPath .save target).mono (fun _ _ h => h) ?_) ?_
  · rintro w₁ rfl
    exact hw
  rintro (e | t) w₁ ⟨rfl, hvalid⟩
  · exact hw
  obtain ⟨rfl, -⟩ := hvalid _ rfl
  dsimp only
  rw [Eff.run_bind]
  refine Run.Holds.bind (holds_createParent.mono (fun _ _ h => h) fun _ h => h ▸ hw) ?_
  rintro (e | ⟨⟩) w₂ rfl
  · exact hw
  dsimp only
  rw [Eff.run_bind]
  refine Run.Holds.bind (holds_getOrGenerateKey_keyUsable hP hw hwrite) ?_
  rintro (e | key) w₃ hw₃
  · exact hw₃
  -- neither the temporary file nor the target is a key file
  refine (preserves_writeSnapshot (I := fun w' : World => w'.KeyUsable P q) now N _ _ key ?_
    fun _ p _ h => h.removeFile p).holds hw₃
  rintro w' p b (rfl | rfl) h
  · exact h.writeFile (tempPath_ne_keyPath now _ q) b
  · exact h.writeFile (fun heq => hname (congrArg Path.file heq)) b

/-- So does the erasure of one: once a key is overwritten, it is removed. -/
theorem holds_eraseKey_keyUsable {q : Path} (hw : w.KeyUsable P q)
    (hsafe : KeySafe P env (.delete target)) :
    ((eraseKey dir target.keyPath).run env w).Holds (fun _ w' => w'.KeyUsable P q)
      fun w' => w'.KeyUsable P q := by
  obtain ⟨hzero, herase⟩ := hsafe
  have hremove : Eff.Preserves env (fun w' : World => w'.KeyUsable P q)
      (ValOpt.removeFile .removeKey target.keyPath) :=
    preserves_removeFile fun _ h => h.removeFile _
  unfold eraseKey
  rw [Eff.run_bind, run_isDirectory, Run.bind_returned, Eff.run_bind]
  refine Run.Holds.bind (holds_unlessDirectory (Q := fun _ w' => w'.KeyUsable P q ∨
    env.outcome .removeKey = .ok ∧ ∃ b, w' = w.writeFile target.keyPath b)
    (holds_writeFile ?_ ?_ ?_) (.inl hw) fun _ _ => hw) ?_
  · intro ho
    refine .inr ⟨?_, _, rfl⟩
    simpa [ho] using herase
  · intro k hk
    cases k with
    | zero => exact .inl hw
    | succ n =>
      refine .inr ⟨?_, _, rfl⟩
      simpa [hk] using herase
  · intro k hk
    cases k with
    | zero => exact hw
    | succ n => exact absurd hk (hzero n)
  rintro _ w₁ (hw₁ | ⟨ho, b, rfl⟩)
  · rw [Eff.run_bind]
    exact Run.Holds.bind (hremove.holds hw₁) fun _ _ h => h
  · have hthere : ((w.writeFile target.keyPath b).files target.keyPath).isSome := by
      rw [World.files_writeFile_self]
      rfl
    rw [Eff.run_bind, run_removeFile ho hthere, Run.bind_returned, World.removeFile_writeFile]
    exact hw.removeFile _

/-- A deletion keeps the key files usable. -/
theorem World.KeyUsable.delete {q : Path} (hw : w.KeyUsable P q)
    (hsafe : KeySafe P env (.delete target)) :
    (((StoreOp.delete target).program P base).run env w).state.KeyUsable P q := by
  rw [← Run.holds_iff_state (I := fun w' : World => w'.KeyUsable P q)]
  unfold StoreOp.program deleteSnapshotWithBase
  rw [Eff.run_bind]
  refine Run.Holds.bind ?_ fun _ _ h => h
  rw [Eff.run_bind, run_getWorld, Run.bind_returned]
  dsimp only
  rw [Eff.run_bind]
  refine Run.Holds.bind ((holds_validateSnapshotPath .delete target).mono (fun _ _ h => h) ?_) ?_
  · rintro w₁ rfl
    exact hw
  rintro (e | t) w₁ ⟨rfl, hvalid⟩
  · exact hw
  obtain ⟨rfl, -⟩ := hvalid _ rfl
  dsimp only
  rw [Eff.run_bind, run_pathExists, Run.bind_returned]
  have hfound : ∀ found, Eff.Preserves env (fun w' : World => w'.KeyUsable P q)
      (removeFound found t) := by
    intro found
    unfold removeFound
    split
    · exact preserves_removeFile fun w' h => h.removeFile _
    · exact Eff.preserves_pure _
  unfold deleteFound
  rw [Eff.run_bind]
  refine Run.Holds.bind ((hfound _).holds hw) ?_
  rintro (e | ⟨⟩) w₂ hw₂
  · exact hw₂
  dsimp only
  rw [Eff.run_bind, run_pathExists, Run.bind_returned]
  split
  · rw [Eff.run_bind]
    exact Run.Holds.bind (holds_eraseKey_keyUsable hw₂ hsafe) fun _ _ h => h
  · exact hw₂

/-- The key files stay usable through a run whose calls are not cut short in them. -/
theorem World.KeyUsable.afterCalls (hP : P.Lawful) {q : Path} (hw : w.KeyUsable P q)
    {calls : List (Env Call × StoreOp)} (hsafe : ∀ call ∈ calls, KeySafe P call.1 call.2) :
    (w.afterCalls P base calls).KeyUsable P q := by
  induction calls generalizing w with
  | nil => exact hw
  | cons call calls ih =>
    have hrest : ∀ call' ∈ calls, KeySafe P call'.1 call'.2 :=
      fun call' h => hsafe call' (List.mem_cons_of_mem _ h)
    have hcall := hsafe call List.mem_cons_self
    refine ih ?_ hrest
    obtain ⟨env, op⟩ := call
    cases op with
    | save now N target => exact hw.save hP hcall
    | delete target => exact hw.delete hcall

/-- No call on the store changes the environment variables. -/
theorem World.drive_afterCalls (w : World) (calls : List (Env Call × StoreOp)) :
    (w.afterCalls P base calls).drive = w.drive := by
  induction calls generalizing w with
  | nil => rfl
  | cons call calls ih =>
    refine (ih _).trans ?_
    have hprogram : Eff.Preserves call.1 (fun w' : World => w'.drive = w.drive)
        (call.2.program P base) := by
      cases call.2 with
      | save now N target =>
        exact Eff.Preserves.bind (preserves_saveAtomicWithBase _ _ _ _ (fun _ _ _ h => h)
          fun _ _ h => h) fun _ => Eff.preserves_pure _
      | delete target =>
        exact Eff.Preserves.bind (preserves_deleteSnapshotWithBase _ _ (fun _ _ _ h => h)
          fun _ _ h => h) fun _ => Eff.preserves_pure _
    exact hprogram.state rfl

/-! ### Directories -/

section Directories

variable {p : Path}

theorem World.isDirectory_removeFile (h : w.isDirectory dir p = true) (q : Path) :
    (w.removeFile q).isDirectory dir p = true := by
  by_cases hq : p = q
  · subst hq
    rw [w.removeFile_of_none (World.files_of_isDirectory h), h]
  · rw [World.isDirectory, World.files_removeFile_of_ne _ hq]
    exact h

/-- Where a call looks for a directory first, it finds the one that is there. -/
theorem preserves_isDirectory_bind {α : Type} {k : Bool → Prog α}
    (h : Eff.Preserves env (·.isDirectory dir p = true) (k true)) :
    Eff.Preserves env (·.isDirectory dir p = true) (isDirectory dir p >>= k) := by
  intro w hw
  rw [Eff.run_bind, run_isDirectory, Run.bind_returned, hw]
  exact h w hw

theorem preserves_pathExists_bind {α : Type} {k : Bool → Prog α}
    (h : Eff.Preserves env (·.isDirectory dir p = true) (k true)) :
    Eff.Preserves env (·.isDirectory dir p = true) (pathExists dir p >>= k) := by
  intro w hw
  rw [Eff.run_bind, run_pathExists, Run.bind_returned, World.pathExists, hw, Bool.or_true]
  exact h w hw

/-- A directory is not made a key file. -/
theorem preserves_getOrGenerateKey_isDirectory :
    Eff.Preserves env (·.isDirectory dir p = true) (getOrGenerateKey P now dir target) := by
  by_cases hkey : p = target.keyPath
  · subst hkey
    refine preserves_pathExists_bind (preserves_readFile.bind ?_)
    rintro (e | c)
    · exact Eff.preserves_pure _
    refine preserves_readMachine.bind ?_
    rintro (e | plaintext)
    · exact Eff.preserves_pure _
    dsimp only
    cases keyOfPlaintext plaintext <;> exact Eff.preserves_pure _
  · refine preserves_getOrGenerateKey now dir target fun w b hw => ?_
    rw [w.isDirectory_writeFile_of_ne b dir hkey, hw]

/-- Nor is it replaced by a snapshot. -/
theorem preserves_replaceTarget_isDirectory (temp : Path) :
    Eff.Preserves env (·.isDirectory dir p = true) (replaceTarget dir temp target) := by
  by_cases htarget : p = target
  · subst htarget
    have hremove : ∀ c q, Eff.Preserves env (fun w : World => w.isDirectory dir p = true)
        (removeFile c q) := fun _ q => preserves_removeFile fun _ hw =>
      World.isDirectory_removeFile hw q
    refine preserves_isDirectory_bind ?_
    refine Eff.Preserves.bind Eff.preserves_read ?_
    rintro (e | ⟨⟩)
    · refine (hremove _ _).bind fun _ => Eff.Preserves.bind Eff.preserves_read ?_
      rintro (e | ⟨⟩)
      · exact (hremove _ _).bind fun _ => Eff.preserves_pure _
      · exact Eff.preserves_pure _
    · exact Eff.preserves_pure _
  · refine preserves_replaceTarget dir temp target (fun w b hw => ?_)
      fun w q _ hw => World.isDirectory_removeFile hw q
    rw [w.isDirectory_writeFile_of_ne b dir htarget, hw]

theorem preserves_writeSnapshot_isDirectory (key : Bytes) :
    Eff.Preserves env (·.isDirectory dir p = true) (writeSnapshot P now N dir target key) := by
  have hreplace : Eff.Preserves env (·.isDirectory dir p = true)
      (replaceTarget dir (tempPath now target) target) := preserves_replaceTarget_isDirectory _
  unfold writeSnapshot
  by_cases htemp : p = tempPath now target
  · rw [← htemp] at hreplace ⊢
    refine preserves_isDirectory_bind (Eff.Preserves.bind ?_ ?_)
    · exact Eff.preserves_read
    rintro (e | ⟨⟩)
    · exact Eff.preserves_pure _
    refine hreplace.bind ?_
    rintro (e | ⟨⟩) <;> exact Eff.preserves_pure _
  · refine preserves_isDirectory.bind fun occupied => Eff.Preserves.bind ?_ ?_
    · refine preserves_unlessDirectory (preserves_writeFile fun w b hw => ?_)
      rw [w.isDirectory_writeFile_of_ne b dir htemp, hw]
    rintro (e | ⟨⟩)
    · exact Eff.preserves_pure _
    refine hreplace.bind ?_
    rintro (e | ⟨⟩) <;> exact Eff.preserves_pure _

theorem preserves_eraseKey_isDirectory {keyPath : Path} :
    Eff.Preserves env (·.isDirectory dir p = true) (eraseKey dir keyPath) := by
  by_cases hkey : p = keyPath
  · subst hkey
    refine preserves_isDirectory_bind (Eff.Preserves.bind ?_ fun _ => ?_)
    · exact Eff.preserves_read
    exact (preserves_removeFile fun _ hw => World.isDirectory_removeFile hw p).bind fun _ =>
      Eff.preserves_pure _
  · refine preserves_eraseKey dir keyPath (fun w b hw => ?_)
      fun _ hw => World.isDirectory_removeFile hw _
    rw [w.isDirectory_writeFile_of_ne b dir hkey, hw]

/-- No call on the store puts a file in the place of a directory. -/
theorem World.isDirectory_program (hdir : w.isDirectory (w.baseDir base) p = true) (op : StoreOp) :
    ((op.program P base).run env w).state.isDirectory (w.baseDir base) p = true := by
  rw [← Run.holds_iff_state (I := fun w' : World => w'.isDirectory (w.baseDir base) p = true)]
  cases op with
  | save now N target =>
    unfold StoreOp.program saveAtomicWithBase
    rw [Eff.run_bind]
    refine Run.Holds.bind ?_ fun _ _ h => h
    rw [Eff.run_bind, run_getWorld, Run.bind_returned]
    refine Eff.Preserves.holds (I := fun w' : World => w'.isDirectory (w.baseDir base) p = true)
      ?_ hdir
    refine (preserves_validateSnapshotPath _ _ _).bind ?_
    rintro (e | t)
    · exact Eff.preserves_pure _
    refine Eff.Preserves.bind (m := createParent t) Eff.preserves_read ?_
    rintro (e | ⟨⟩)
    · exact Eff.preserves_pure _
    refine preserves_getOrGenerateKey_isDirectory.bind ?_
    rintro (e | key)
    · exact Eff.preserves_pure _
    exact preserves_writeSnapshot_isDirectory key
  | delete target =>
    unfold StoreOp.program deleteSnapshotWithBase
    rw [Eff.run_bind]
    refine Run.Holds.bind ?_ fun _ _ h => h
    rw [Eff.run_bind, run_getWorld, Run.bind_returned]
    refine Eff.Preserves.holds (I := fun w' : World => w'.isDirectory (w.baseDir base) p = true)
      ?_ hdir
    refine (preserves_validateSnapshotPath _ _ _).bind ?_
    rintro (e | t)
    · exact Eff.preserves_pure _
    refine preserves_pathExists.bind fun found => ?_
    unfold deleteFound
    refine Eff.Preserves.bind ?_ ?_
    · unfold removeFound
      split
      · exact preserves_removeFile fun _ hw => World.isDirectory_removeFile hw t
      · exact Eff.preserves_pure _
    rintro (e | ⟨⟩)
    · exact Eff.preserves_pure _
    refine preserves_pathExists.bind fun haskey => ?_
    split
    · exact preserves_eraseKey_isDirectory.bind fun _ => Eff.preserves_pure _
    · exact Eff.preserves_pure _

theorem World.isDirectory_afterCalls (hdir : w.isDirectory (w.baseDir base) p = true)
    (calls : List (Env Call × StoreOp)) :
    (w.afterCalls P base calls).isDirectory (w.baseDir base) p = true := by
  induction calls generalizing w with
  | nil => exact hdir
  | cons call calls ih =>
    have hbase : (w.afterCalls P base [call]).baseDir base = w.baseDir base := by
      rw [World.baseDir, World.storageDir, World.drive_afterCalls]
      rfl
    have hcall : ((call.2.program P base).run call.1 w).state.isDirectory (w.baseDir base) p =
        true := World.isDirectory_program hdir call.2
    rw [← hbase] at hcall ⊢
    exact ih hcall

end Directories

/-! ### Saves that succeed -/

/-- A save finds room for its files: a directory has the name of none of them, and where the target
is no file yet, its directory is none either. -/
structure World.HasRoom (w : World) (dir : List String) (now : Ambient) (target : Path) : Prop where
  keyFree : w.isDirectory dir target.keyPath = false
  tempFree : w.isDirectory dir (tempPath now target) = false
  targetFree : w.isDirectory dir target = false
  parentFree : (w.files target).isSome ∨ w.files target.parent = none

/-- With a usable key file, an undisturbed save to an accepted path that finds room succeeds. -/
theorem run_saveAtomicWithBase_of_keyUsable (text : Call → String)
    (hw : w.KeyUsable P target) (hacc : w.Accepts base target)
    (hroom : w.HasRoom (w.baseDir base) now target) : ∃ s w',
    (saveAtomicWithBase P now N (some target) base).run (.faultless text) w =
      .returned (.ok (target, s)) w' := by
  have hparent : (createParent target).run (.faultless text) w = .returned (.ok ()) w := by
    have hfree : ((w.files target).isNone && (w.files target.parent).isSome) = false := by
      rcases hroom.parentFree with hfile | hnone
      · rw [Option.isNone_eq_false_iff.mpr hfile, Bool.false_and]
      · rw [hnone, Option.isSome_none, Bool.and_false]
    exact run_perform_ok rfl (by simp only [Op.full_read, hfree]; rfl)
  obtain ⟨key, w₁, hkey, hwith⟩ : ∃ key w₁,
      (getOrGenerateKey P now (w.baseDir base) target).run (.faultless text) w =
        .returned (.ok key) w₁ ∧ WithKey w target w₁ := by
    rcases hw with hnone | hsome
    · have hnone' : w.files (target.withFileName snapshotKeyFilename) = none := hnone
      have hfree : w.pathExists (w.baseDir base) (target.withFileName snapshotKeyFilename) =
          false := by
        rw [World.pathExists, hnone']
        exact hroom.keyFree
      unfold getOrGenerateKey
      simp only [Eff.run_bind, run_pathExists, Run.bind_returned, hfree, Bool.false_eq_true,
        if_false, run_readMachine_faultless, run_writeFile_faultless, Eff.run_pure]
      exact ⟨_, _, rfl, .inr ⟨hnone, _, rfl⟩⟩
    · obtain ⟨key, hkey⟩ := Option.isSome_iff_exists.mp hsome
      exact ⟨key, w, run_getOrGenerateKey hkey rfl rfl, .inl rfl⟩
  -- the key file takes the name of neither
  have hdirs : ∀ q, w.isDirectory (w.baseDir base) q = false →
      w₁.isDirectory (w.baseDir base) q = false := by
    intro q hq
    rcases hwith with rfl | ⟨-, c, rfl⟩
    · exact hq
    by_cases hqk : q = target.keyPath
    · rw [hqk]
      exact World.isDirectory_of_isSome _ (by simp) _
    · rw [w.isDirectory_writeFile_of_ne c _ hqk, hq]
  unfold saveAtomicWithBase
  simp only [Eff.run_bind, run_getWorld, Run.bind_returned, Option.getD_some,
    run_validateSnapshotPath hacc, hparent, hkey]
  exact ⟨_, _, run_writeSnapshot_faultless key (hdirs _ hroom.tempFree)
    (hdirs _ hroom.targetFree)⟩

/-- An empty directory: there are no files in it and below it, and no directories. -/
structure World.EmptyDir (w : World) (dir : List String) : Prop where
  files : ∀ p : Path, dir <+: p.components → w.files p = none
  directories : ∀ d ∈ w.drive.directories, dir <+: d → d = dir

namespace World.EmptyDir

variable (h : w.EmptyDir dir)

include h

/-- Nothing exists below it. -/
theorem components_of_pathExists {p : Path} (hbelow : dir <+: p.components)
    (hexists : w.pathExists dir p = true) : p.components = dir := by
  rw [World.pathExists, h.files p hbelow, Option.isSome_none, Bool.false_or, World.isDirectory,
    Bool.and_eq_true, Bool.or_eq_true, decide_eq_true_iff, decide_eq_true_iff] at hexists
  rcases hexists.2 with habove | hmem
  · exact habove.eq_of_length_le hbelow.length_le
  · exact h.directories _ hmem hbelow

/-- What it holds later, with the same directories, are files. -/
theorem isDirectory {w' : World} (hdrive : w'.drive = w.drive) {p : Path} (hp : p.dir = dir) :
    w'.isDirectory dir p = false := by
  have hlength : p.components.length = dir.length + 1 := by
    rw [Path.components, List.length_append, hp, List.length_singleton]
  have hbelow : dir <+: p.components := Path.prefix_components (hp ▸ List.prefix_rfl)
  have habove : ¬ p.components <+: dir := by
    intro hle
    have hle' := hle.length_le
    omega
  have hmem : p.components ∉ w'.drive.directories := by
    intro hmem
    rw [h.directories _ (hdrive ▸ hmem) hbelow] at hlength
    omega
  simp [World.isDirectory, habove, hmem]

/-- The paths that are accepted are those of its files, and its own. -/
theorem dir_of_accepts (hacc : w.Accepts base target) (hbase : w.baseDir base = dir)
    (hne : target.components ≠ dir) : target.parent.components = dir ∧ target.dir = dir := by
  obtain ⟨⟨-, hwithin⟩, hexists⟩ := hacc
  rw [hbase] at hwithin hexists
  have hdir : dir <+: target.dir := Path.prefix_dir hwithin hne
  rcases hexists with hself | hparent
  · exact absurd (h.components_of_pathExists hwithin hself) hne
  by_cases hnil : target.dir = []
  · -- a path without a directory
    rw [hnil, List.prefix_nil] at hdir
    have heq := h.components_of_pathExists (hdir ▸ List.nil_prefix) hparent
    rw [hdir] at heq
    exact absurd heq (List.append_ne_nil_of_right_ne_nil _ (List.cons_ne_nil _ _))
  · have hcomponents := Path.components_parent hnil
    have heq := h.components_of_pathExists (hcomponents ▸ hdir) hparent
    exact ⟨heq, hcomponents ▸ heq⟩

end World.EmptyDir

/-- **The key file never bricks the store, unless it is cut short.**  From an empty storage
directory, after any list of saves and deletions, of which each may fail or die anywhere but in a
key file it has begun to write or to erase, an undisturbed save of a file of the directory succeeds
and its snapshot loads. -/
theorem save_after_calls (hP : P.Lawful) (text : Call → String)
    (hempty : w.EmptyDir (w.baseDir base))
    {calls : List (Env Call × StoreOp)} (hsafe : ∀ call ∈ calls, KeySafe P call.1 call.2)
    (now : Ambient) (N : SystemStateSnapshot) (hacc : w.Accepts base target)
    (hdir : target.components ≠ w.baseDir base)
    (hname : target.file ≠ snapshotKeyFilename) : ∃ s w',
    (saveAtomicWithBase P now N (some target) base).run (.faultless text)
        (w.afterCalls P base calls) = .returned (.ok (target, s)) w' ∧
      (loadAndVerifyWithBase P (some target) base).run (.faultless text) w' =
        .returned (.ok s) w' := by
  obtain ⟨hparent, htarget⟩ := hempty.dir_of_accepts hacc rfl hdir
  have hdrive : (w.afterCalls P base calls).drive = w.drive := w.drive_afterCalls calls
  have hbase : (w.afterCalls P base calls).baseDir base = w.baseDir base := by
    rw [World.baseDir, World.storageDir, hdrive]
    rfl
  have hfree : ∀ p : Path, p.dir = w.baseDir base →
      (w.afterCalls P base calls).isDirectory (w.baseDir base) p = false :=
    fun p => hempty.isDirectory hdrive
  have hstart : w.KeyUsable P target :=
    .inl (hempty.files _ (Path.prefix_components (htarget ▸ List.prefix_rfl)))
  -- the directory stays one
  have hstays : (w.afterCalls P base calls).isDirectory (w.baseDir base) target.parent = true := by
    apply World.isDirectory_afterCalls
    have hnone : w.files target.parent = none := hempty.files _ (by rw [hparent])
    simp [World.isDirectory, hparent, hnone]
  have hroom : (w.afterCalls P base calls).HasRoom (w.baseDir base) now target :=
    ⟨hfree _ htarget, hfree _ htarget, hfree _ htarget, .inr (World.files_of_isDirectory hstays)⟩
  have hacc' : (w.afterCalls P base calls).Accepts base target := by
    rw [World.Accepts, hbase]
    exact ⟨hacc.1, .inr (World.pathExists_of_components_eq _ hparent)⟩
  obtain ⟨s, w', hsave⟩ := run_saveAtomicWithBase_of_keyUsable text (hstart.afterCalls hP hsafe)
    hacc' (hbase.symm ▸ hroom)
  have hname' : ((w.afterCalls P base calls).targetOf (some target)).file ≠ snapshotKeyFilename :=
    hname
  exact ⟨s, w', hsave, load_of_run_save hP hname' hsave⟩

/-- Calls on the desktop that end badly: a save dies in its temporary file, one that may not replace
its target gives up, and a deletion dies before it has overwritten the key. -/
def disturbedCalls : List (Env Call × StoreOp) :=
  [(.crashAt .writeTemp 5 errorText,
      .save default (.new "snap_0" "") World.desktop.defaultSnapshotPath),
    (deniesMove, .save default (.new "snap_1" "") World.desktop.defaultSnapshotPath),
    (.crashAt .zeroKey 0 errorText, .delete World.desktop.defaultSnapshotPath)]

/-- The desktop has a key file and no snapshot after them, and the next save succeeds and loads. -/
theorem save_after_calls_desktop :
    ((World.desktop.afterCalls .portable none disturbedCalls).files
        World.desktop.defaultSnapshotPath.keyPath).isSome ∧
      (World.desktop.afterCalls .portable none disturbedCalls).files
        World.desktop.defaultSnapshotPath = none ∧ ∃ s w',
      (saveAtomicWithBase .portable default (.new "snap_2" "")
            (some World.desktop.defaultSnapshotPath) none).run (.faultless errorText)
          (World.desktop.afterCalls .portable none disturbedCalls) =
          .returned (.ok (World.desktop.defaultSnapshotPath, s)) w' ∧
        (loadAndVerifyWithBase .portable (some World.desktop.defaultSnapshotPath) none).run
          (.faultless errorText) w' = .returned (.ok s) w' := by
  have hempty : World.desktop.EmptyDir (World.desktop.baseDir none) :=
    ⟨fun _ _ => rfl, by simp [World.desktop]⟩
  refine ⟨rfl, rfl, save_after_calls Platform.lawful_portable errorText hempty ?_ default
    (.new "snap_2" "") (by decide) (by decide) (by decide)⟩
  intro call hcall
  simp only [disturbedCalls, List.mem_cons, List.not_mem_nil, or_false] at hcall
  rcases hcall with rfl | rfl | rfl
  · exact ⟨by decide, nofun⟩
  · exact ⟨by decide, nofun⟩
  · exact ⟨nofun, .inr (.inl rfl)⟩

/-- On the desktop the first save dies after it has created the key file; the next one fails. -/
theorem torn_key_bricks_store : ∃ e,
    (saveAtomicWithBase .portable default (.new "snap_0" "") (some World.desktop.defaultSnapshotPath)
        none).run (.faultless errorText)
      (World.desktop.afterCalls .portable none
        [(.crashAt .writeKey 1 errorText,
          .save default (.new "snap_0" "") World.desktop.defaultSnapshotPath)]) =
      .returned (.error e) (World.desktop.afterCalls .portable none
        [(.crashAt .writeKey 1 errorText,
          .save default (.new "snap_0" "") World.desktop.defaultSnapshotPath)]) :=
  ⟨_, rfl⟩

end ValOpt
