import ValOpt.Models.Json
import ValOpt.State.Equiv.Boot
import ValOpt.State.Equiv.Restore

/-!
# Recovery fails secure

`checkAndRecoverWithBase` makes no restoring call before the stored snapshot has passed its checks,
and one that passes them is a snapshot that was signed with the stored key
(`checkAndRecover_failSecure`).  Where it returns an error, it has changed nothing but the recovery
log, in which a snapshot with a wrong signature leaves a line.  The signatures are taken to be
secure in the sense of `MacSecure`; that the signed text determines the fields comes from the JSON
format, which can be read back (`injective_toVec`).
-/

namespace ValOpt

open Effect Text

variable {P : Platform} {env : Env Call} {w : World} {target : Path}
  {base : Option (List String)}

/-! ### What a signature covers -/

/-- The fields that a signature covers. -/
def SystemStateSnapshot.unsigned (s : SystemStateSnapshot) : SystemStateSnapshot :=
  { s with sha256Hash := "", hmacSignature := "" }

/-- The compact text of a snapshot determines it. -/
theorem injective_toVec : Function.Injective snapshotCodec.toVec :=
  (Json.systemStateSnapshot .compact).print_injective trivial

/-- Snapshots with the same payload agree in all fields that a signature covers. -/
theorem unsigned_eq_of_canonicalPayloadBytes (henc : P.snapshot.toVec = snapshotCodec.toVec)
    {s s₀ : SystemStateSnapshot} (h : s.canonicalPayloadBytes P = s₀.canonicalPayloadBytes P) :
    s.unsigned = s₀.unsigned := by
  have htext : P.snapshot.toVec s.unsigned = P.snapshot.toVec s₀.unsigned := h
  rw [henc] at htext
  exact injective_toVec htext

/-- HMAC under a key withstands the snapshot that was found: its tag fits no payload unless it was
issued for a signed snapshot, and its payload has the tag of a signed one only if it is the same. -/
structure MacSecure (P : Platform) (signed : SystemStateSnapshot → Prop) (key : Bytes)
    (found : SystemStateSnapshot) : Prop where
  unforgeable : ∀ payload, found.hmacSignature = hexText (computeHmacSha256 P.sha256 key payload) →
    ∃ s₀, signed s₀ ∧ found.hmacSignature = (s₀.signWithKey P key).hmacSignature
  injective : ∀ s₀, signed s₀ →
    computeHmacSha256 P.sha256 key (found.canonicalPayloadBytes P) =
      computeHmacSha256 P.sha256 key (s₀.canonicalPayloadBytes P) →
    found.canonicalPayloadBytes P = s₀.canonicalPayloadBytes P

/-- A snapshot whose signature verifies was signed. -/
theorem MacSecure.signed_of_verifyHmac {signed : SystemStateSnapshot → Prop} {key : Bytes}
    {s : SystemStateSnapshot} (hmac : MacSecure P signed key s)
    (henc : P.snapshot.toVec = snapshotCodec.toVec) (h : s.verifyHmac P key = true) :
    ∃ s₀, signed s₀ ∧ s.unsigned = s₀.unsigned := by
  have htag : s.hmacSignature = s.computePayloadHmac P key := by
    unfold SystemStateSnapshot.verifyHmac at h
    split at h
    · exact absurd h (by decide)
    · exact asBytes_injective ((constantTimeEq_iff _ _).mp h)
  obtain ⟨s₀, hs₀, hissued⟩ := hmac.unforgeable _ htag
  have hsame : hexText (computeHmacSha256 P.sha256 key (s.canonicalPayloadBytes P)) =
      hexText (computeHmacSha256 P.sha256 key (s₀.canonicalPayloadBytes P)) :=
    htag.symm.trans hissued
  have hpayload := hmac.injective s₀ hs₀ (hexText_injective hsame)
  exact ⟨s₀, hs₀, unsigned_eq_of_canonicalPayloadBytes henc hpayload⟩

/-! ### Loading -/

/-- A snapshot that a target holds passes the check of its signature. -/
theorem World.verifyHmac_of_snapshotAt {s : SystemStateSnapshot} {key : Bytes}
    (h : w.snapshotAt P target = some s) (hkey : w.storeKey P target = some key) :
    s.verifyHmac P key = true := by
  obtain ⟨b, key', -, hkey', -, hverify⟩ := verifySnapshot_of_snapshotAt h
  rw [hkey', Option.some.injEq] at hkey
  subst hkey
  by_contra hno
  rw [Bool.not_eq_true] at hno
  unfold verifySnapshot at hverify
  rw [if_pos (.inr hno)] at hverify
  cases hverify

/-- Whatever becomes of its calls, a load returns nothing but what the target holds, and that only
if they all succeed; and it changes nothing. -/
theorem holds_loadAndVerifyWithBase_reads (targetPath : Option Path) :
    ((loadAndVerifyWithBase P targetPath base).run env w).Holds
      (fun r w' => w' = w ∧ ∀ s, r = .ok s → w.snapshotAt P (w.targetOf targetPath) = some s ∧
        ∀ c ∈ Call.loadReads, env.outcome c = .ok)
      (fun w' => w' = w) := by
  unfold loadAndVerifyWithBase
  simp only [Eff.run_bind, run_getWorld, Run.bind_returned]
  refine Run.Holds.bind (holds_validateSnapshotPath_ok .load _) ?_
  rintro (e | target) w₁ ⟨rfl, htarget⟩
  · exact ⟨rfl, nofun⟩
  obtain ⟨htarget : target = w₁.targetOf targetPath, -, hvalidate⟩ := htarget target rfl
  rw [← htarget]
  simp only [Eff.run_bind, run_fileExists, Run.bind_returned]
  split
  · exact ⟨rfl, nofun⟩
  simp only [Eff.run_bind, run_pathExists, Run.bind_returned]
  split
  · exact ⟨rfl, nofun⟩
  -- the three files and blobs that the key and the snapshot come from
  have hread : ∀ c p, ((readFile c p).run env w₁).Holds
      (fun r w' => w' = w₁ ∧ ∀ b, r = .ok b → env.outcome c = .ok ∧ w₁.files p = some b)
      (fun w' => w' = w₁) :=
    fun c p => holds_readFile (fun r h => ⟨rfl, h⟩) fun _ _ => rfl
  rw [Eff.run_bind]
  refine Run.Holds.bind (hread .readKey _) ?_
  rintro (e | ciphertext) w₂ ⟨rfl, hcipher⟩
  · exact ⟨rfl, nofun⟩
  obtain ⟨hreadKey, hcipher⟩ := hcipher ciphertext rfl
  rw [Eff.run_bind]
  have hunprotect : ((readMachine .unprotectKey fun _ => P.unprotect ciphertext).run env w₂).Holds
      (fun r w' => w' = w₂ ∧ ∀ b, r = .ok b →
        env.outcome .unprotectKey = .ok ∧ P.unprotect ciphertext = some b)
      (fun w' => w' = w₂) :=
    holds_readMachine (fun r h => ⟨rfl, h⟩) fun _ _ => rfl
  refine Run.Holds.bind hunprotect ?_
  rintro (e | plaintext) w₃ ⟨rfl, hplain⟩
  · exact ⟨rfl, nofun⟩
  obtain ⟨hunprotectKey, hplain⟩ := hplain plaintext rfl
  cases hkey : keyOfPlaintext plaintext with
  | none =>
    simp only [hkey]
    exact ⟨rfl, nofun⟩
  | some key =>
    have hstore : w₃.storeKey P target = some key := by
      unfold World.storeKey Path.keyPath
      rw [hcipher, Option.bind_some, hplain, Option.bind_some, hkey]
    simp only [hkey, Eff.run_bind]
    refine Run.Holds.bind (hread .readSnapshot target) ?_
    rintro (e | content) w₄ ⟨rfl, hcontent⟩
    · exact ⟨rfl, nofun⟩
    obtain ⟨hreadSnapshot, hcontent⟩ := hcontent content rfl
    cases hparse : P.snapshot.fromStr content with
    | error e =>
      simp only [hparse]
      exact ⟨rfl, nofun⟩
    | ok s =>
      simp only [hparse]
      refine ⟨rfl, ?_⟩
      intro s' hs'
      constructor
      · unfold World.snapshotAt
        rw [hcontent, Option.bind_some, hstore, Option.bind_some, hparse]
        show (verifySnapshot P target key s).toOption = some s'
        rw [hs']
        rfl
      · simp only [Call.loadReads, List.forall_mem_cons]
        exact ⟨hvalidate, hreadKey, hunprotectKey, hreadSnapshot, nofun⟩

theorem holds_loadAndVerifyWithBase (targetPath : Option Path) :
    ((loadAndVerifyWithBase P targetPath base).run env w).Holds
      (fun r w' => w' = w ∧ ∀ s, r = .ok s → w.snapshotAt P (w.targetOf targetPath) = some s)
      (fun w' => w' = w) := by
  refine (holds_loadAndVerifyWithBase_reads targetPath).mono ?_ fun _ h => h
  intro r w' h
  exact ⟨h.1, fun s hs => (h.2 s hs).1⟩

/-! ### The calls before the first restore -/

theorem issues_fileExists {W : Call → Prop} {p : Path} : Eff.Issues env W (fileExists p) :=
  fun _ _ h => nomatch h

theorem issues_pathExists {W : Call → Prop} {dir : List String} {p : Path} :
    Eff.Issues env W (pathExists dir p) := fun _ _ h => nomatch h

theorem issues_isDirectory {W : Call → Prop} {dir : List String} {p : Path} :
    Eff.Issues env W (isDirectory dir p) := fun _ _ h => nomatch h

theorem issues_unlessDirectory {α : Type} {W : Call → Prop} {c : Call} (hc : W c) {isDir : Bool}
    {m : Prog (Except String α)} (hm : Eff.Issues env W m) :
    Eff.Issues env W (unlessDirectory isDir c m) := by
  cases isDir with
  | false => exact hm
  | true =>
    rw [unlessDirectory_true]
    exact Eff.issues_perform hc

theorem issues_getWorld {W : Call → Prop} : Eff.Issues env W getWorld := fun _ _ h => nomatch h

theorem issues_validateSnapshotPath (op : StoreOperation) (path : Path) :
    Eff.Issues env (¬ ·.Restores) (validateSnapshotPath op path base) := by
  have hinspect : Eff.Issues env (¬ ·.Restores) (inspectPath op path) := by
    refine Eff.Issues.bind (Eff.issues_perform nofun) ?_
    rintro (e | ⟨⟩) <;> exact Eff.issues_pure _
  unfold validateSnapshotPath
  refine Eff.Issues.bind issues_getWorld fun w => ?_
  dsimp only
  split
  · exact Eff.issues_pure _
  refine Eff.Issues.bind issues_pathExists fun found => ?_
  split
  · split
    · exact hinspect
    · exact Eff.issues_pure _
  refine Eff.Issues.bind issues_pathExists fun foundParent => ?_
  split
  · split
    · exact hinspect
    · exact Eff.issues_pure _
  · exact Eff.issues_pure _

theorem issues_loadAndVerifyWithBase (targetPath : Option Path) :
    Eff.Issues env (¬ ·.Restores) (loadAndVerifyWithBase P targetPath base) := by
  unfold loadAndVerifyWithBase
  refine Eff.Issues.bind issues_getWorld fun w => ?_
  refine Eff.Issues.bind (issues_validateSnapshotPath _ _) ?_
  rintro (e | target)
  · exact Eff.issues_pure _
  refine Eff.Issues.bind issues_fileExists fun found => ?_
  split
  · exact Eff.issues_pure _
  refine Eff.Issues.bind issues_pathExists fun hasKey => ?_
  split
  · exact Eff.issues_pure _
  refine Eff.Issues.bind (Eff.issues_perform nofun) ?_
  rintro (e | ciphertext)
  · exact Eff.issues_pure _
  refine Eff.Issues.bind (Eff.issues_perform nofun) ?_
  rintro (e | plaintext)
  · exact Eff.issues_pure _
  dsimp only
  split
  · exact Eff.issues_pure _
  refine Eff.Issues.bind (Eff.issues_perform nofun) ?_
  rintro (e | content)
  · exact Eff.issues_pure _
  dsimp only
  split <;> exact Eff.issues_pure _

theorem issues_reportUnreadable (now : Ambient) (e : SnapshotError) :
    Eff.Issues env (¬ ·.Restores) (reportUnreadable P now e) := by
  have hlog : ∀ report, Eff.Issues env (¬ ·.Restores) (appendRecoveryLog P now report) :=
    fun report => Eff.Issues.bind issues_getWorld fun _ => Eff.Issues.bind issues_isDirectory
      fun _ => issues_unlessDirectory nofun (Eff.issues_perform nofun)
  cases e with
  | integrityViolation => exact Eff.Issues.bind (hlog _) fun _ => Eff.issues_pure _
  | _ => exact Eff.issues_pure _

/-! ### Recovery -/

/-- A recovery makes no restoring call and changes nothing but the log, unless the stored snapshot
passed its checks. -/
theorem quiet_or_snapshotAt (now : Ambient) (snapshotPath : Option Path) :
    Eff.Quiet env (¬ ·.Restores) w.Logged (checkAndRecoverWithBase P now snapshotPath base) w ∨
      ∃ s, w.snapshotAt P (w.targetOf snapshotPath) = some s := by
  have hsame : w.Logged w := .refl w
  unfold checkAndRecoverWithBase
  have hworld : (getWorld.run env w).Holds (fun w₁ w' => w' = w ∧ w = w₁) (· = w) := ⟨rfl, rfl⟩
  apply issues_getWorld.quiet_or hsame hworld
  rintro w₁ rfl -
  apply (issues_validateSnapshotPath _ _).quiet_or hsame (holds_validateSnapshotPath .recover _)
  rintro (e | target) htarget -
  · exact .inl (Eff.quiet_pure _ hsame)
  obtain ⟨rfl, -⟩ := htarget target rfl
  have hfound : ((pathExists (w.baseDir base) (w.targetOf snapshotPath)).run env w).Holds
      (fun _ w' => w' = w ∧ True) (· = w) := ⟨rfl, trivial⟩
  apply issues_pathExists.quiet_or hsame hfound
  intro found _ _
  cases found with
  | false => exact .inl (Eff.quiet_pure _ hsame)
  | true =>
    apply (issues_loadAndVerifyWithBase _).quiet_or hsame (holds_loadAndVerifyWithBase _)
    rintro (e | s) hsnap -
    · left
      refine ⟨(issues_reportUnreadable now e).bind (fun _ => Eff.issues_pure _) w, ?_⟩
      have hlog : (((reportUnreadable P now e) >>= fun text =>
          pure (.error text) : Prog (Except String RecoveryReport)).run env w).Holds
          (fun _ => w.Logged) w.Logged := by
        rw [Eff.run_bind]
        exact Run.Holds.bind ((holds_reportUnreadable now e).mono (fun _ _ h => h) fun _ h => h.2)
          fun _ _ h => h
      exact hlog.state
    · exact .inr ⟨s, hsnap s rfl⟩

/-- A rollback reports no error, whatever becomes of its calls. -/
theorem holds_rollbackSnapshot (s : SystemStateSnapshot) :
    ((rollbackSnapshot s).run env w).Holds (fun r _ => ∃ report, r = .ok report)
      (fun _ => True) := by
  have htrue : ∀ {α : Type} {r : Run World α}, r.Holds (fun _ _ => True) fun _ => True := by
    intro α r
    cases r <;> trivial
  unfold rollbackSnapshot
  simp only [Eff.run_bind]
  iterate 6 refine Run.Holds.bind htrue fun _ _ _ => ?_
  exact ⟨_, rfl⟩

/-- A recovery that reports an error has changed nothing but the log. -/
theorem holds_checkAndRecover_error (now : Ambient) (snapshotPath : Option Path) :
    ((checkAndRecoverWithBase P now snapshotPath base).run env w).Holds
      (fun r w' => ∀ e, r = .error e → w.Logged w') (fun _ => True) := by
  unfold checkAndRecoverWithBase
  simp only [Eff.run_bind, run_getWorld, Run.bind_returned]
  apply ((holds_validateSnapshotPath .recover _).mono (fun _ _ h => h) fun _ _ => trivial).bind
  rintro (e | target) w₁ ⟨rfl, -⟩
  · exact fun _ _ => .refl w₁
  simp only [Eff.run_bind, run_pathExists, Run.bind_returned]
  split
  · exact fun _ _ => .refl w₁
  rw [Eff.run_bind]
  apply ((holds_loadAndVerifyWithBase (some target)).mono (fun _ _ h => h) fun _ _ => trivial).bind
  rintro (e | s) w₂ ⟨rfl, -⟩
  · rw [Eff.run_bind]
    exact ((holds_reportUnreadable now e).mono (fun _ _ h => h) fun _ _ => trivial).bind
      fun _ _ hlog _ _ => hlog
  rw [Eff.run_bind]
  apply (holds_rollbackSnapshot s).bind
  rintro _ w₃ ⟨report, rfl⟩
  have htrue : ∀ {α : Type} {r : Run World α}, r.Holds (fun _ _ => True) fun _ => True := by
    intro α r
    cases r <;> trivial
  simp only [Eff.run_bind]
  exact htrue.bind fun _ _ _ => htrue.bind fun _ _ _ => nofun

/-- **Recovery fails secure.**  Whatever the files hold, and whatever becomes of the calls: where a
recovery makes a restoring call or changes anything but the log, the snapshot file holds a snapshot
whose fields, the signatures apart, are those of one that was signed with the stored key; and a
recovery that returns an error leaves the settings, the key and the snapshot as they were, and all
other files but the log.  A snapshot under the name of the log is no exception to what is changed:
the line goes behind it. -/
theorem checkAndRecover_failSecure (henc : P.snapshot.toVec = snapshotCodec.toVec)
    (signed : Bytes → SystemStateSnapshot → Prop) (now : Ambient) (snapshotPath : Option Path)
    (hmac : ∀ b s key, w.files (w.targetOf snapshotPath) = some b → P.snapshot.fromStr b = .ok s →
      w.storeKey P (w.targetOf snapshotPath) = some key → MacSecure P (signed key) key s) :
    ((∃ r ∈ (checkAndRecoverWithBase P now snapshotPath base).trace env w, r.1.Restores) ∨
        ¬ w.Logged ((checkAndRecoverWithBase P now snapshotPath base).run env w).state →
      ∃ b s key s₀, w.files (w.targetOf snapshotPath) = some b ∧ P.snapshot.fromStr b = .ok s ∧
        w.storeKey P (w.targetOf snapshotPath) = some key ∧ signed key s₀ ∧
        s.unsigned = s₀.unsigned) ∧
    ∀ e w', (checkAndRecoverWithBase P now snapshotPath base).run env w =
        .returned (.error e) w' →
      w'.machine = w.machine ∧
      w'.files (w.targetOf snapshotPath).keyPath = w.files (w.targetOf snapshotPath).keyPath ∧
      (w.targetOf snapshotPath ≠ w.recoveryLogPath →
        w'.files (w.targetOf snapshotPath) = w.files (w.targetOf snapshotPath)) ∧
      w.Logged w' := by
  constructor
  · intro hactive
    have hcases :
        Eff.Quiet env _ w.Logged (checkAndRecoverWithBase P now snapshotPath base) w ∨ _ :=
      quiet_or_snapshotAt now snapshotPath
    obtain ⟨htrace, hstate⟩ | ⟨s, hs⟩ := hcases
    · obtain ⟨r, hr, hrestores⟩ | hchange := hactive
      · exact absurd hrestores (htrace r hr)
      · exact absurd hstate hchange
    · obtain ⟨b, key, hfile, hkey, hread⟩ := World.exists_of_snapshotAt hs
      have hverify := World.verifyHmac_of_snapshotAt hs hkey
      obtain ⟨s₀, hsigned, heq⟩ := (hmac b s key hfile hread hkey).signed_of_verifyHmac henc hverify
      exact ⟨b, s, key, s₀, hfile, hread, hkey, hsigned, heq⟩
  · intro e w' hrun
    have hlog : w.Logged w' := (holds_checkAndRecover_error now snapshotPath).of_returned hrun e rfl
    exact ⟨hlog.machine, hlog.files_keyPath _, hlog.files _, hlog⟩

/-- What a recovery finds after a save is the snapshot that was signed. -/
theorem macSecure_stored (hP : P.Lawful) {now : Ambient} {s₀ : SystemStateSnapshot}
    (hne : target ≠ target.keyPath) {b : Bytes} {s : SystemStateSnapshot} {key : Bytes}
    (hfile : (w.stored P now s₀ target).files target = some b)
    (hread : P.snapshot.fromStr b = .ok s)
    (hkey : (w.stored P now s₀ target).storeKey P target = some key) :
    MacSecure P (· = s₀) key s := by
  rw [World.storeKey_stored hP hne, Option.some.injEq] at hkey
  have hfile' : some (P.snapshot.toStringPretty (s₀.signWithKey P now.random32)) = some b :=
    (World.files_writeFile_self ..).symm.trans hfile
  rw [Option.some.injEq] at hfile'
  rw [← hfile', hP.snapshot.fromStr_toStringPretty, Except.ok.injEq] at hread
  subst hkey hread
  constructor
  · exact fun _ _ => ⟨s₀, rfl, rfl⟩
  · rintro _ rfl -
    rfl

/-- The snapshot of the desktop, before it was signed. -/
def desktopBaseline : SystemStateSnapshot :=
  { SystemStateSnapshot.new "snap_0" "" with previousGameMode := some false }

/-- The snapshot of the desktop withstands, as the only one that was signed. -/
theorem macSecure_desktopStored (b : Bytes) (s : SystemStateSnapshot) (key : Bytes)
    (hfile : World.desktopStored.files World.desktop.defaultSnapshotPath = some b)
    (hread : Platform.portable.snapshot.fromStr b = .ok s)
    (hkey : World.desktopStored.storeKey .portable World.desktop.defaultSnapshotPath = some key) :
    MacSecure .portable (· = desktopBaseline) key s := by
  have hstored : World.desktopStored = World.desktop.stored .portable default desktopBaseline
      World.desktop.defaultSnapshotPath := rfl
  rw [hstored] at hfile hkey
  exact macSecure_stored Platform.lawful_portable (by decide) hfile hread hkey

/-- The start-up recovery of the desktop finds its snapshot. -/
theorem bootSnapshot_desktopStored : World.desktopStored.bootSnapshot .portable =
    some (desktopBaseline.signWithKey .portable (default : Ambient).random32) := by
  have hsnap : World.desktopStored.snapshotAt .portable World.desktop.defaultSnapshotPath =
      some _ := World.snapshotAt_stored Platform.lawful_portable (by decide)
  exact (if_pos (by decide)).trans hsnap

/-- The recovery of the desktop writes Game Mode back, from the snapshot that was signed. -/
theorem checkAndRecover_failSecure_desktop :
    ¬ World.desktopStored.Logged ((checkAndRecoverWithBase .portable default none none).run
        (.faultless errorText) .desktopStored).state ∧
      ∃ b s key s₀, World.desktopStored.files World.desktop.defaultSnapshotPath = some b ∧
        Platform.portable.snapshot.fromStr b = .ok s ∧
        World.desktopStored.storeKey .portable World.desktop.defaultSnapshotPath = some key ∧
        s₀ = desktopBaseline ∧ s.unsigned = s₀.unsigned := by
  have hchange : ¬ World.desktopStored.Logged ((checkAndRecover .portable default none).run
      (.faultless errorText) .desktopStored).state := by
    intro hlog
    have hgameBar := (run_checkAndRecover .portable errorText .desktopStored default).gameBar
    rw [hlog.machine, bootSnapshot_desktopStored] at hgameBar
    exact absurd hgameBar (by decide)
  exact ⟨hchange, (checkAndRecover_failSecure rfl (fun _ s₀ => s₀ = desktopBaseline) default none
    macSecure_desktopStored).1 (.inr hchange)⟩

/-! ### The log as the snapshot -/

/-- Undisturbed, the recovery of a snapshot with a wrong signature adds a line to the log. -/
theorem run_checkAndRecover_of_violation (text : Call → String) (now : Ambient) {key b : Bytes}
    {s : SystemStateSnapshot} {path : Path} {expectedHash computedHash : String}
    (hacc : w.Accepts base target) (hfile : w.files target = some b)
    (hread : P.snapshot.fromStr b = .ok s) (hkey : w.storeKey P target = some key)
    (hwrong : verifySnapshot P target key s =
      .error (.integrityViolation path expectedHash computedHash))
    (hfree : w.isDirectory w.storageDir w.recoveryLogPath = false) :
    ∃ e report, (checkAndRecoverWithBase P now (some target) base).run (.faultless text) w =
      .returned (.error e) (w.appendFile w.recoveryLogPath
        (asBytes (RecoveryReport.logEntry P now.debugTime report))) := by
  have hload : (loadAndVerifyWithBase P (some target) base).run (.faultless text) w = _ :=
    run_loadAndVerifyWithBase_of_read (fun _ _ => rfl) hacc hfile hkey hread
  have hfound : w.pathExists (w.baseDir base) target = true :=
    w.pathExists_of_isSome (by rw [hfile]; rfl) _
  unfold checkAndRecoverWithBase
  simp only [Eff.run_bind, run_getWorld, Run.bind_returned, Option.getD_some,
    run_validateSnapshotPath hacc, run_pathExists, hfound, Bool.not_true, Bool.false_eq_true,
    if_false, hload, hwrong, reportUnreadable, run_appendRecoveryLog_faultless _ _ hfree,
    Eff.run_pure]
  exact ⟨_, _, rfl⟩

/-- The desktop with an unsigned snapshot under the name of the log, and a key. -/
def World.desktopLog : World :=
  (World.desktop.writeFile World.desktop.defaultSnapshotPath.keyPath
    (Platform.portable.protect 0 (keyPlaintext default))).writeFile World.desktop.recoveryLogPath
      (Platform.portable.snapshot.toStringPretty desktopBaseline)

/-- A recovery from the file of the log returns an error, and has changed that file. -/
theorem failed_recovery_changes_log : ∃ e w',
    (checkAndRecoverWithBase .portable default (some World.desktop.recoveryLogPath) none).run
        (.faultless errorText) .desktopLog = .returned (.error e) w' ∧
      w'.files World.desktop.recoveryLogPath ≠
        World.desktopLog.files World.desktop.recoveryLogPath := by
  have hP := Platform.lawful_portable
  have hfile : World.desktopLog.files World.desktop.recoveryLogPath =
      some (Platform.portable.snapshot.toStringPretty desktopBaseline) :=
    World.files_writeFile_self ..
  have hkeyFile : World.desktopLog.files World.desktop.recoveryLogPath.keyPath =
      some (Platform.portable.protect 0 (keyPlaintext default)) :=
    (World.files_writeFile_of_ne _ _ (by decide)).trans (World.files_writeFile_self ..)
  have hkey : World.desktopLog.storeKey .portable World.desktop.recoveryLogPath =
      some (default : Ambient).random32 := by
    rw [World.storeKey, hkeyFile, Option.bind_some, hP.unprotect_protect, Option.bind_some,
      keyOfPlaintext_keyPlaintext]
  obtain ⟨e, report, hrun⟩ := run_checkAndRecover_of_violation errorText default
    (by decide : World.desktopLog.Accepts none World.desktop.recoveryLogPath) hfile
    (hP.snapshot.fromStr_toStringPretty desktopBaseline) hkey (if_pos (.inl rfl)) (by decide)
  refine ⟨e, _, hrun, fun hsame => ?_⟩
  -- what was added is at least one byte
  have hbytes := (World.files_writeFile_self ..).symm.trans (hsame.trans hfile)
  have hold : World.desktopLog.files World.desktopLog.recoveryLogPath = _ := hfile
  rw [hold, Option.getD_some, Option.some.injEq, List.append_right_eq_self] at hbytes
  exact asBytes_logEntry_ne_nil _ _ hbytes

end ValOpt
