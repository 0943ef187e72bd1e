import ValOpt.State.Equiv.LinkedTarget
import ValOpt.System.Desktop

/-!
# What the store touches in a tree with links

A save and a deletion leave the files outside the base directory as they are just if the target,
the temporary file and the key file do not lead there (`touchesOwnFiles_iff`).  `SaveConfined` and
`DeleteConfined` say so of the tree before the operation.  A target that passes
`validate_snapshot_path` may still fail them: the key and the temporary file are not validated, and
the base directory itself is an accepted target, whose key would be next to it.

The writes of a save are confined, so that the tree grows inside the base directory (`Grown`), and
what is said of the tree before the save still holds of the tree in which the temporary file is
moved.
-/

namespace ValOpt.LinkedStore

open Effect FileTree Tree

variable {lower : String → String} {cwd : Loc} {P : Platform} {now : Ambient}
  {snapshot : SystemStateSnapshot} {env : Env StoreCall} {fs fs' fs₁ : FileSystem}
  {path base : RawPath} {b : Loc} {target : StorePath} {temp : FilePath} {c : StoreCall}
  {content : Bytes}

/-! ### Calls -/

theorem FilePath.locate_congr (h : SameDirs fs fs') (p : FilePath) :
    p.locate fs' = p.locate fs := by
  have hdir : p.dir.locate fs' = p.dir.locate fs := by
    cases p.dir with
    | canonical loc => rfl
    | given q => exact h.resolve q.start q.comps
  rw [FilePath.locate, FilePath.locate, hdir]
  congr 1
  funext loc
  exact h.resolve loc [p.file]

theorem FilePath.entry_congr (h : SameDirs fs fs') (p : FilePath) : p.entry fs' = p.entry fs := by
  have hdir : p.dir.locate fs' = p.dir.locate fs := by
    cases p.dir with
    | canonical loc => rfl
    | given q => exact h.resolve q.start q.comps
  rw [FilePath.entry, FilePath.entry, hdir, h.fold]

theorem StorePath.entry_congr (h : SameDirs fs fs') (p : StorePath) : p.entry fs' = p.entry fs := by
  cases p with
  | canonical loc => rfl
  | given q =>
    show q.entry fs' = q.entry fs
    rw [RawPath.entry, RawPath.entry, h.resolve, h.fold]

/-- A name whose entry is a file leads to it. -/
theorem FilePath.locate_of_entry {p : FilePath} {loc : Loc} (hfile : p.file ≠ "..")
    (hentry : p.entry fs = some loc) (hnode : ∀ link, fs.node loc ≠ some (.link link)) :
    p.locate fs = some loc := by
  obtain ⟨dir, hdir, rfl⟩ := Option.map_eq_some_iff.mp hentry
  rw [FilePath.locate, hdir, Option.bind_some]
  exact resolve_of_not_link hfile hnode

/-- A confined write lets the tree grow, whatever becomes of the call. -/
theorem holds_writeFile {locate : FileSystem → Option Loc}
    (hconfined : ∀ loc, locate fs = some loc → Confined b fs loc) :
    ((writeFile c locate content).run env fs).Holds
      (fun r fs' => Grown b fs fs' ∧ ∀ u, r = .ok u → ∃ loc, locate fs = some loc ∧ fs.Writable loc)
      (Grown b fs) := by
  have hgrown : ∀ content fs', ((locate fs).bind fun loc => fs.writeAt loc content) = some fs' →
      Grown b fs fs' ∧ ∃ loc, locate fs = some loc ∧ fs.Writable loc := by
    intro content fs' h
    obtain ⟨loc, hloc, hwrite⟩ := Option.bind_eq_some_iff.mp h
    exact ⟨writeAt_grown (hconfined loc hloc) hwrite, loc, hloc, writable_of_writeAt hwrite⟩
  have htorn : ∀ k, Grown b fs ((writeOp locate content).torn k fs) := by
    intro k
    cases k with
    | zero => exact Grown.refl
    | succ n =>
      show Grown b fs (((locate fs).bind fun loc => fs.writeAt loc (content.take n)).getD fs)
      cases hwrite : (locate fs).bind fun loc => fs.writeAt loc (content.take n) with
      | none => exact Grown.refl
      | some fs' => exact (hgrown _ _ hwrite).1
  apply holds_perform
  · intro _ u fs' hfull
    obtain ⟨fs₁, hwrite, heq⟩ := Option.map_eq_some_iff.mp hfull
    obtain ⟨-, rfl⟩ := Prod.mk.inj heq
    exact ⟨(hgrown _ _ hwrite).1, fun _ _ => (hgrown _ _ hwrite).2⟩
  · exact fun _ _ => ⟨Grown.refl, fun _ h => nomatch h⟩
  · exact fun k _ => ⟨htorn k, fun _ h => nomatch h⟩
  · exact fun k _ => htorn k

theorem run_writeFile {locate : FileSystem → Option Loc} {loc : Loc} (henv : env.outcome c = .ok)
    (hloc : locate fs = some loc) (hwrite : fs.writeAt loc content = some fs') :
    (writeFile c locate content).run env fs = .returned (.ok ()) fs' := by
  apply run_perform_ok henv
  show ((locate fs).bind fun loc => fs.writeAt loc content).map _ = _
  rw [hloc, Option.bind_some, hwrite]
  rfl

theorem run_removeFile {entry : FileSystem → Option Loc} {loc : Loc} (henv : env.outcome c = .ok)
    (hloc : entry fs = some loc) (hremove : fs.unlink loc = some fs') :
    (removeFile c entry).run env fs = .returned (.ok ()) fs' := by
  apply run_perform_ok henv
  show ((entry fs).bind fs.unlink).map _ = _
  rw [hloc, Option.bind_some, hremove]
  rfl

theorem run_moveFile {src dst : FileSystem → Option Loc} {srcLoc dstLoc : Loc}
    (henv : env.outcome c = .ok) (hsrc : src fs = some srcLoc) (hdst : dst fs = some dstLoc)
    (hmove : fs.moveEntry srcLoc dstLoc = some fs') :
    (moveFile c src dst).run env fs = .returned (.ok ()) fs' := by
  apply run_perform_ok henv
  show ((src fs).bind fun src => (dst fs).bind fun dst => fs.moveEntry src dst).map _ = _
  rw [hsrc, Option.bind_some, hdst, Option.bind_some, hmove]
  rfl

/-! ### The key of a save -/

/-- The key file of a target. -/
abbrev keyPath (target : StorePath) : FilePath := target.withFileName snapshotKeyFilename

theorem file_keyPath : (keyPath target).file ≠ ".." := by
  show snapshotKeyFilename ≠ ".."
  decide

/-- A save gets a key: the one that is there, or a new one. -/
def KeyUsable (P : Platform) (fs : FileSystem) (target : StorePath) : Prop :=
  ∃ loc, (keyPath target).locate fs = some loc ∧
    ((∃ id key, fs.node loc = some (.file id) ∧
        (P.unprotect (fs.files id).content).bind keyOfPlaintext = some key) ∨
      (fs.node loc = none ∧ fs.isDir loc.dropLast = true))

/-- A new key file is created inside the base directory. -/
def NewKeyConfined (b : Loc) (fs : FileSystem) (target : StorePath) : Prop :=
  ∀ loc, (keyPath target).locate fs = some loc → fs.node loc = none → fs.isDir loc.dropLast = true →
    b <+: loc

/-- The calls of `get_or_generate_key`. -/
def keyCalls : List StoreCall := [.readKey, .unprotectKey, .genRandom, .protectKey, .writeKey]

/-- However its calls end, `get_or_generate_key` lets the tree grow. -/
theorem holds_getOrGenerateKey (hkey : NewKeyConfined b fs target) :
    ((getOrGenerateKey P now target).run env fs).Holds
      (fun r fs' => Grown b fs fs' ∧ ∀ key, r = .ok key → KeyUsable P fs target) (Grown b fs) := by
  have hsame : ∀ {γ : Type} (c : StoreCall) (f : FileSystem → Option γ),
      ((perform c (.read f)).run env fs).Holds
        (fun r fs' => fs' = fs ∧ ∀ x, r = .ok x → f fs = some x) (Grown b fs) := by
    intro γ c f
    exact holds_read (fun r h => ⟨rfl, fun x hx => (h x hx).2⟩) fun _ _ => Grown.refl
  rw [getOrGenerateKey, Eff.run_bind, run_getTree, Run.bind_returned]
  split
  next hthere =>
    rw [Eff.run_bind]
    apply (hsame _ _).bind
    rintro r fs' ⟨rfl, hread⟩
    cases r with
    | error e => exact ⟨Grown.refl, fun _ h => nomatch h⟩
    | ok ciphertext =>
      show ((perform .unprotectKey (.read _) >>= _).run env fs').Holds _ _
      rw [Eff.run_bind]
      apply (hsame _ _).bind
      rintro r fs₁ ⟨rfl, hunprotect⟩
      cases r with
      | error e => exact ⟨Grown.refl, fun _ h => nomatch h⟩
      | ok plaintext =>
        dsimp only
        split
        next => exact ⟨Grown.refl, fun _ h => nomatch h⟩
        next key hkey =>
          refine ⟨Grown.refl, fun _ _ => ?_⟩
          obtain ⟨loc, hloc, hcontent⟩ := Option.bind_eq_some_iff.mp (hread ciphertext rfl)
          obtain ⟨⟨id, data⟩, hfile, rfl⟩ := Option.map_eq_some_iff.mp hcontent
          obtain ⟨hnode, rfl⟩ := node_of_fileAt hfile
          refine ⟨loc, hloc, Or.inl ⟨id, key, hnode, ?_⟩⟩
          rw [hunprotect plaintext rfl, Option.bind_some, hkey]
  next hthere =>
    rw [Eff.run_bind]
    apply (hsame _ _).bind
    rintro r fs' ⟨rfl, -⟩
    cases r with
    | error e => exact ⟨Grown.refl, fun _ h => nomatch h⟩
    | ok rawKey =>
      show ((perform .protectKey (.read _) >>= _).run env fs').Holds _ _
      rw [Eff.run_bind]
      apply (hsame _ _).bind
      rintro r fs₁ ⟨rfl, -⟩
      cases r with
      | error e => exact ⟨Grown.refl, fun _ h => nomatch h⟩
      | ok ciphertext =>
        show ((writeFile .writeKey (keyPath target).locate ciphertext >>= _).run env fs₁).Holds _ _
        rw [Eff.run_bind]
        -- There is no key file, so that the write can only create one.
        have hnoFile : ∀ loc, (keyPath target).locate fs₁ = some loc →
            ∀ id, fs₁.node loc ≠ some (.file id) := by
          intro loc hloc id hid
          apply hthere
          show ((keyPath target).locate fs₁).any (isThere fs₁) = true
          rw [hloc, Option.any_some, isThere_iff]
          exact Or.inr ⟨id, hid⟩
        have hconfined : ∀ loc, (keyPath target).locate fs₁ = some loc → Confined b fs₁ loc :=
          fun loc hloc => ⟨fun id hid => absurd hid (hnoFile loc hloc id), hkey loc hloc⟩
        apply (holds_writeFile hconfined).bind
        rintro r fs' ⟨hgrown, hwritten⟩
        cases r with
        | error e => exact ⟨hgrown, fun _ h => nomatch h⟩
        | ok u =>
          refine ⟨hgrown, fun _ _ => ?_⟩
          obtain ⟨loc, hloc, hwritable⟩ := hwritten u rfl
          rcases hwritable with ⟨id, hid⟩ | hnew
          · exact absurd hid (hnoFile loc hloc id)
          · exact ⟨loc, hloc, Or.inr hnew⟩

/-- Where its calls are carried out, `get_or_generate_key` reads the key of the key file. -/
theorem run_getOrGenerateKey_stored (now : Ambient) {loc : Loc} {id : ℕ} {key : Bytes}
    (hloc : (keyPath target).locate fs = some loc) (hnode : fs.node loc = some (.file id))
    (hkey : (P.unprotect (fs.files id).content).bind keyOfPlaintext = some key)
    (henv : CarriesOut env keyCalls) :
    (getOrGenerateKey P now target).run env fs = .returned (.ok key) fs := by
  have hthere : ((keyPath target).locate fs).any (isThere fs) = true := by
    rw [hloc, Option.any_some, isThere_iff]
    exact Or.inr ⟨id, hnode⟩
  obtain ⟨plaintext, hplaintext, hkey⟩ := Option.bind_eq_some_iff.mp hkey
  have hread : (readFile .readKey (keyPath target).locate).run env fs =
      .returned (.ok (fs.files id).content) fs := by
    apply run_perform_ok (henv .readKey (by decide))
    rw [Op.full_read, hloc, Option.bind_some, fileAt_of_node hnode]
    rfl
  have hunprotect : (perform .unprotectKey (.read fun _ : FileSystem =>
      P.unprotect (fs.files id).content)).run env fs = .returned (.ok plaintext) fs := by
    apply run_perform_ok (henv .unprotectKey (by decide))
    rw [Op.full_read, hplaintext]
    rfl
  rw [getOrGenerateKey, Eff.run_bind, run_getTree, Run.bind_returned, if_pos hthere,
    Eff.run_bind, hread, Run.bind_returned]
  show (perform .unprotectKey _ >>= _).run env fs = _
  rw [Eff.run_bind, hunprotect, Run.bind_returned]
  dsimp only
  rw [hkey]
  rfl

/-- Where there is no key file, `get_or_generate_key` writes a new one. -/
theorem run_getOrGenerateKey_new (now : Ambient) {loc : Loc}
    (hloc : (keyPath target).locate fs = some loc) (hnone : fs.node loc = none)
    (hwrite : fs.writeAt loc (P.protect now.nonce (keyPlaintext now)) = some fs')
    (henv : CarriesOut env keyCalls) :
    (getOrGenerateKey P now target).run env fs = .returned (.ok now.random32) fs' := by
  have hthere : ¬ ((keyPath target).locate fs).any (isThere fs) = true := by
    rw [hloc, Option.any_some, isThere, hnone]
    exact Bool.false_ne_true
  have hrandom : (perform .genRandom (.read fun _ : FileSystem =>
      some now.random32)).run env fs = .returned (.ok now.random32) fs :=
    run_perform_ok (henv .genRandom (by decide)) rfl
  have hprotect : (perform .protectKey (.read fun _ : FileSystem =>
      some (P.protect now.nonce (keyPlaintext now)))).run env fs =
      .returned (.ok (P.protect now.nonce (keyPlaintext now))) fs :=
    run_perform_ok (henv .protectKey (by decide)) rfl
  rw [getOrGenerateKey, Eff.run_bind, run_getTree, Run.bind_returned, if_neg hthere,
    Eff.run_bind, hrandom, Run.bind_returned]
  show (perform .protectKey _ >>= _).run env fs = _
  rw [Eff.run_bind, hprotect, Run.bind_returned]
  show (writeFile .writeKey (keyPath target).locate _ >>= _).run env fs = _
  rw [Eff.run_bind, run_writeFile (henv .writeKey (by decide)) hloc hwrite]
  rfl

/-- Where its calls are carried out, `get_or_generate_key` finds a key that can be used, or writes a
new one. -/
theorem run_getOrGenerateKey (now : Ambient) (h : KeyUsable P fs target) : ∃ key fs',
    (∀ env, CarriesOut env keyCalls →
      (getOrGenerateKey P now target).run env fs = .returned (.ok key) fs') ∧
      ∀ loc, (keyPath target).locate fs = some loc → fs.node loc = none →
        fs.writeAt loc (P.protect now.nonce (keyPlaintext now)) = some fs' := by
  obtain ⟨loc, hloc, ⟨id, key, hnode, hkey⟩ | ⟨hnone, hdir⟩⟩ := h
  · refine ⟨key, fs, fun env henv => run_getOrGenerateKey_stored now hloc hnode hkey henv, ?_⟩
    intro loc' hloc' hnone
    rw [hloc] at hloc'
    rw [← Option.some.inj hloc', hnode] at hnone
    exact absurd hnone (Option.some_ne_none _)
  · obtain ⟨fs', hwrite⟩ := exists_writeAt (Or.inr ⟨hnone, hdir⟩)
      (P.protect now.nonce (keyPlaintext now))
    refine ⟨now.random32, fs',
      fun env henv => run_getOrGenerateKey_new now hloc hnone hwrite henv, ?_⟩
    intro loc' hloc' _
    rw [hloc] at hloc'
    rw [← Option.some.inj hloc', hwrite]

/-! ### The replacement of the target -/

/-- The temporary file can take the place of the target without touching a file outside. -/
structure Replaceable (b : Loc) (fs : FileSystem) (temp : FilePath) (target : StorePath) :
    Prop where
  notLink : ∀ dst link, target.entry fs = some dst → fs.node dst ≠ some (.link link)
  source : ∀ src id, temp.entry fs = some src → fs.node src = some (.file id) → b <+: src
  replaced : ∀ dst id, target.entry fs = some dst → fs.node dst = some (.file id) → b <+: dst
  moved : ∀ src dst id, temp.entry fs = some src → target.entry fs = some dst →
    fs.node src = some (.file id) → fs.node dst ≠ some .dir → b <+: dst

/-- The replacement is still possible when the target was removed. -/
theorem Replaceable.eraseNode (h : Replaceable b fs temp target) {dst : Loc} {id : ℕ}
    (hentry : target.entry fs = some dst) (hnode : fs.node dst = some (.file id)) :
    Replaceable b (fs.eraseNode dst) temp target := by
  have hdst : dst ≠ [] := ne_nil_of_node (t := fs) (by rw [hnode]; simp)
  have hdirs := eraseNode_sameDirs hnode
  have hold : ∀ loc n, (fs.eraseNode dst).node loc = some n → fs.node loc = some n := by
    intro loc n hn
    rw [node_eraseNode hdst] at hn
    exact (Option.ite_none_left_eq_some.mp hn).2
  constructor
  · intro loc link hloc hlink
    rw [StorePath.entry_congr hdirs] at hloc
    exact h.notLink loc link hloc (hold _ _ hlink)
  · intro src id hsrc hid
    rw [FilePath.entry_congr hdirs] at hsrc
    exact h.source src id hsrc (hold _ _ hid)
  · intro loc id hloc hid
    rw [StorePath.entry_congr hdirs] at hloc
    exact h.replaced loc id hloc (hold _ _ hid)
  · intro src loc id hsrc hloc hid _
    rw [FilePath.entry_congr hdirs] at hsrc
    rw [StorePath.entry_congr hdirs, hentry] at hloc
    rw [← Option.some.inj hloc]
    exact h.moved src dst id hsrc hentry (hold _ _ hid) (by rw [hnode]; simp)

/-- The temporary file is moved, or stays where it is. -/
theorem holds_moveFile (h : Replaceable b fs temp target) :
    ((moveFile c temp.entry target.entry).run env fs).Holds
      (fun r fs' => Untouched b fs fs' ∧ ∀ e, r = .error e → fs' = fs) (Untouched b fs) := by
  apply holds_atomic
  · intro fs' _ hmove
    obtain ⟨src, hsrc, hmove⟩ := Option.bind_eq_some_iff.mp hmove
    obtain ⟨dst, hdst, hmove⟩ := Option.bind_eq_some_iff.mp hmove
    obtain ⟨-, -, -, hdir, -, -⟩ := moveEntry_eq_some hmove
    refine ⟨?_, fun _ h => nomatch h⟩
    apply moveEntry_untouched _ (fun id hid => h.replaced dst id hdst hid) hmove
    exact fun id hid => ⟨h.source src id hsrc hid, h.moved src dst id hsrc hdst hid hdir⟩
  · exact fun _ => ⟨Untouched.refl, fun _ _ => rfl⟩
  · exact fun _ _ => Untouched.refl

/-- An entry is removed, or stays where it is. -/
theorem holds_removeFile (entry : FileSystem → Option Loc) :
    ((removeFile c entry).run env fs).Holds
      (fun r fs' => (fs' = fs ∧ ∃ e, r = .error e) ∨
        ∃ loc, entry fs = some loc ∧ fs.unlink loc = some fs') (· = fs) := by
  apply holds_atomic
  · exact fun fs' _ hremove => Or.inr (Option.bind_eq_some_iff.mp hremove)
  · exact fun _ => Or.inl ⟨rfl, _, rfl⟩
  · exact fun _ _ => rfl

/-- However its calls end, the replacement touches no file outside. -/
theorem holds_replaceTarget (h : Replaceable b fs temp target) :
    ((replaceTarget temp target).run env fs).Holds (fun _ => Untouched b fs) (Untouched b fs) := by
  have hcrash : ∀ fs₁ fs' : FileSystem, Untouched b fs fs₁ → fs' = fs₁ → Untouched b fs fs' :=
    fun _ _ h heq => heq ▸ h
  rw [replaceTarget, Eff.run_bind]
  apply (holds_moveFile h).bind
  intro r fs₁ ⟨hmoved, herror⟩
  cases r with
  | ok u => exact hmoved
  | error e =>
    rw [herror e rfl]
    show ((removeFile .removeTarget target.entry >>= _).run env fs).Holds _ _
    rw [Eff.run_bind]
    apply ((holds_removeFile target.entry).mono (fun _ _ h => h)
      fun fs' => hcrash fs fs' Untouched.refl).bind
    intro r fs₂ hremoved
    have hfs₂ : Untouched b fs fs₂ ∧ Replaceable b fs₂ temp target := by
      rcases hremoved with ⟨rfl, -⟩ | ⟨dst, hdst, hunlink⟩
      · exact ⟨Untouched.refl, h⟩
      · refine ⟨unlink_untouched (fun id hid => h.replaced dst id hdst hid) hunlink, ?_⟩
        obtain ⟨rfl, ⟨id, hid⟩ | ⟨link, hlink⟩⟩ := unlink_eq_some hunlink
        · exact h.eraseNode hdst hid
        · exact absurd hlink (h.notLink dst link hdst)
    show ((moveFile .renameTemp temp.entry target.entry >>= _).run env fs₂).Holds _ _
    rw [Eff.run_bind]
    apply ((holds_moveFile hfs₂.2).mono (fun _ _ h => h) fun _ => hfs₂.1.trans).bind
    intro r fs₃ ⟨hrenamed, herror⟩
    cases r with
    | ok u => exact hfs₂.1.trans hrenamed
    | error e =>
      rw [herror e rfl]
      show ((removeFile .removeTemp temp.entry >>= _).run env fs₂).Holds _ _
      rw [Eff.run_bind]
      apply ((holds_removeFile temp.entry).mono (fun _ _ h => h)
        fun fs' => hcrash fs₂ fs' hfs₂.1).bind
      intro r fs₄ hremoved
      rcases hremoved with ⟨rfl, -⟩ | ⟨src, hsrc, hunlink⟩
      · exact hfs₂.1
      · exact hfs₂.1.trans
          (unlink_untouched (fun id hid => hfs₂.2.source src id hsrc hid) hunlink)

/-! ### Saves -/

theorem file_tempPath : (tempPath cwd now target).file ≠ ".." := by
  intro h
  have hhead := congrArg (fun s => s.toList.head?) h
  rw [LinkedStore.tempPath] at hhead
  simp only [String.toList_append, toString] at hhead
  exact absurd (Option.some.inj hhead) (by decide)

/-- What a save needs of the tree, to touch no file outside the base directory. -/
structure SaveConfined (cwd : Loc) (P : Platform) (now : Ambient) (b : Loc) (fs : FileSystem)
    (target : StorePath) : Prop where
  key : NewKeyConfined b fs target
  temp : KeyUsable P fs target → ∀ loc, (tempPath cwd now target).locate fs = some loc →
    Confined b fs loc
  target : KeyUsable P fs target →
    (∃ loc, (tempPath cwd now target).locate fs = some loc ∧ fs.Writable loc) →
    ∀ src dst, (tempPath cwd now target).entry fs = some src → target.entry fs = some dst →
      fs.node dst = some .dir ∨ b <+: dst ∨
        ((∀ id, fs.node dst ≠ some (.file id)) ∧ ∃ link, fs.node src = some (.link link))

/-- Once the temporary file is written, it can take the place of the target. -/
theorem SaveConfined.replaceable (h : SaveConfined cwd P now b fs₁ target)
    (haccepted : Accepted lower cwd fs path base fs₁ b target) (hkey : KeyUsable P fs₁ target)
    (hgrown : Grown b fs₁ fs')
    (hwritten : ∃ loc, (tempPath cwd now target).locate fs₁ = some loc ∧ fs₁.Writable loc) :
    Replaceable b fs' (tempPath cwd now target) target := by
  -- What holds before the save also holds when the replacement starts: the tree has only grown.
  have hdirs := hgrown.toSameDirs
  have hlink : ∀ loc link, fs'.node loc = some (.link link) ↔ fs₁.node loc = some (.link link) := by
    intro loc link
    rw [← inner_eq_link, hdirs.inner, inner_eq_link]
  obtain ⟨src, hsrc⟩ : ∃ src, (tempPath cwd now target).entry fs₁ = some src := by
    obtain ⟨loc, hloc, -⟩ := hwritten
    obtain ⟨dir, hdir, -⟩ := Option.bind_eq_some_iff.mp hloc
    exact ⟨_, by rw [FilePath.entry, hdir]; rfl⟩
  have htarget := fun dst hdst => h.target hkey hwritten src dst hsrc hdst
  constructor
  · intro dst link hdst hnode
    rw [StorePath.entry_congr hdirs] at hdst
    exact haccepted.not_link hdst link ((hlink dst link).mp hnode)
  · intro src id hsrc hid
    have hloc : (tempPath cwd now target).locate fs' = some src :=
      FilePath.locate_of_entry file_tempPath hsrc fun link => by rw [hid]; simp
    rw [FilePath.locate_congr hdirs] at hloc
    exact (hgrown.confined_iff.mpr (h.temp hkey src hloc)).file id hid src hid
  · intro dst id hdst hid
    rw [StorePath.entry_congr hdirs] at hdst
    rcases htarget dst hdst with hdir | hinside | ⟨hfile, -⟩
    · rw [hgrown.old dst .dir hdir] at hid
      exact nomatch hid
    · exact hinside
    · rcases hgrown.new dst id hid with hold | ⟨-, -, hinside⟩
      · exact absurd hold (hfile id)
      · exact hinside dst hid
  · intro src' dst id hsrc' hdst hid hnotDir
    rw [FilePath.entry_congr hdirs, hsrc] at hsrc'
    rw [StorePath.entry_congr hdirs] at hdst
    rw [← Option.some.inj hsrc'] at hid
    rcases htarget dst hdst with hdir | hinside | ⟨-, link, hsrcLink⟩
    · exact absurd (hgrown.old dst .dir hdir) hnotDir
    · exact hinside
    · rw [(hlink src link).mpr hsrcLink] at hid
      exact nomatch hid

/-- The directory of an accepted target is looked at, and not created. -/
theorem holds_createParent (haccepted : Accepted lower cwd fs path base fs₁ b target) :
    ((createParent target).run env fs₁).Holds
      (fun r fs' => fs' = fs₁ ∧ ∀ u, r = .ok u → ParentIsDir fs₁ target) (· = fs₁) := by
  rw [createParent]
  cases hparent : target.parent with
  | none =>
    refine ⟨rfl, fun _ _ parent h => ?_⟩
    rw [hparent] at h
    exact nomatch h
  | some parent =>
    apply holds_atomic
    · intro fs' _ hcreate
      obtain ⟨rfl, hdir⟩ := (haccepted.createDirAll_iff hparent).mp hcreate
      refine ⟨rfl, fun _ _ parent' h => ?_⟩
      rw [← Option.some.inj (hparent.symm.trans h)]
      exact hdir
    · exact fun _ => ⟨rfl, fun _ h => nomatch h⟩
    · exact fun _ _ => rfl

/-- However its calls end, a confined save touches no file outside. -/
theorem holds_saveTarget (haccepted : Accepted lower cwd fs path base fs₁ b target)
    (h : ParentIsDir fs₁ target → SaveConfined cwd P now b fs₁ target) :
    ((saveTarget cwd P now snapshot target).run env fs₁).Holds (fun _ => Untouched b fs₁)
      (Untouched b fs₁) := by
  rw [saveTarget, Eff.run_bind]
  apply ((holds_createParent haccepted).mono (fun _ _ h => h)
    fun fs' (heq : fs' = fs₁) => heq ▸ Untouched.refl).bind
  rintro r fs' ⟨rfl, hparent⟩
  cases r with
  | error e => exact Untouched.refl
  | ok u =>
    have hsave := h (hparent u rfl)
    show ((getOrGenerateKey P now target >>= _).run env fs').Holds _ _
    rw [Eff.run_bind]
    apply ((holds_getOrGenerateKey hsave.key).mono (fun _ _ h => h) fun _ h => h.untouched).bind
    rintro r fs₂ ⟨hgrown₂, husable⟩
    cases r with
    | error e => exact hgrown₂.untouched
    | ok key =>
      have hkey := husable key rfl
      show ((writeFile .writeTemp (tempPath cwd now target).locate _ >>= _).run env fs₂).Holds _ _
      rw [Eff.run_bind]
      -- The key file may have been made since, but the directories are the same.
      have hlocate := FilePath.locate_congr hgrown₂.toSameDirs (tempPath cwd now target)
      have hconfined : ∀ loc, (tempPath cwd now target).locate fs₂ = some loc →
          Confined b fs₂ loc := by
        intro loc hloc
        rw [hlocate] at hloc
        exact hgrown₂.confined_iff.mpr (hsave.temp hkey loc hloc)
      apply ((holds_writeFile hconfined).mono (fun _ _ h => h)
        fun _ h => hgrown₂.untouched.trans h.untouched).bind
      rintro r fs₃ ⟨hgrown₃, hwritten⟩
      have hgrown := hgrown₂.trans hgrown₃
      cases r with
      | error e => exact hgrown.untouched
      | ok u =>
        have hreplaceable := hsave.replaceable haccepted hkey hgrown (by
          obtain ⟨loc, hloc, hwritable⟩ := hwritten u rfl
          exact ⟨loc, hlocate ▸ hloc, hgrown₂.writable_iff.mp hwritable⟩)
        show ((replaceTarget (tempPath cwd now target) target >>= _).run env fs₃).Holds _ _
        rw [Eff.run_bind]
        apply ((holds_replaceTarget hreplaceable).mono
          (fun _ _ => hgrown.untouched.trans) fun _ => hgrown.untouched.trans).bind
        intro r fs₄ huntouched
        cases r <;> exact huntouched

/-! ### Saves that are not confined -/

/-- The calls of a save before the temporary file is written. -/
def prepareCalls : List StoreCall := .createParent :: keyCalls

/-- Where these calls are carried out and a key can be used, the save comes to the temporary file,
and has written a new key if there was none. -/
theorem run_saveTarget (cwd : Loc) (now : Ambient) (snapshot : SystemStateSnapshot)
    (haccepted : Accepted lower cwd fs path base fs₁ b target)
    (hparent : ParentIsDir fs₁ target) (hkey : KeyUsable P fs₁ target) :
    ∃ key fs₂, (NewKeyConfined b fs₁ target → Grown b fs₁ fs₂) ∧
      (∀ env, CarriesOut env prepareCalls → (saveTarget cwd P now snapshot target).run env fs₁ =
        (writeSnapshot cwd P now snapshot target key).run env fs₂) ∧
      ∀ loc, (keyPath target).locate fs₁ = some loc → fs₁.node loc = none →
        fs₁.writeAt loc (P.protect now.nonce (keyPlaintext now)) = some fs₂ := by
  obtain ⟨key, fs₂, hrun, hnew⟩ := run_getOrGenerateKey now hkey
  refine ⟨key, fs₂, ?_, ?_, hnew⟩
  · intro hconfined
    have hholds : ((getOrGenerateKey P now target).run (.faultless fun _ => "") fs₁).Holds _ _ :=
      holds_getOrGenerateKey hconfined
    rw [hrun _ (by decide)] at hholds
    exact hholds.1
  · intro env henv
    have hcreate : (createParent target).run env fs₁ = .returned (.ok ()) fs₁ := by
      rw [createParent]
      cases htarget : target.parent with
      | none => rfl
      | some parent =>
        have hdir := (haccepted.createDirAll_iff htarget).mpr ⟨rfl, hparent parent htarget⟩
        exact run_perform_ok (henv .createParent (by decide)) (by rw [Op.full_atomic, hdir]; rfl)
    rw [saveTarget, Eff.run_bind, hcreate, Run.bind_returned]
    show (getOrGenerateKey P now target >>= _).run env fs₁ = _
    rw [Eff.run_bind, hrun env fun c hc => henv c (List.mem_cons_of_mem _ hc)]
    rfl

/-- Where the temporary file is written as well, the save ends with the replacement. -/
theorem state_saveTarget (snapshot : SystemStateSnapshot)
    (haccepted : Accepted lower cwd fs path base fs₁ b target)
    (hparent : ParentIsDir fs₁ target) (hkey : KeyUsable P fs₁ target)
    (hnew : NewKeyConfined b fs₁ target) {loc : Loc}
    (hloc : (tempPath cwd now target).locate fs₁ = some loc) :
    ∃ content fs₂, Grown b fs₁ fs₂ ∧ ∀ env fs₃, CarriesOut env (.writeTemp :: prepareCalls) →
      fs₂.writeAt loc content = some fs₃ →
      ((saveTarget cwd P now snapshot target).run env fs₁).state =
        ((replaceTarget (tempPath cwd now target) target).run env fs₃).state := by
  obtain ⟨key, fs₂, hgrown, hrun, -⟩ := run_saveTarget cwd now snapshot haccepted hparent hkey
  refine ⟨P.snapshot.toStringPretty (snapshot.signWithKey P key), fs₂, hgrown hnew, ?_⟩
  intro env fs₃ henv hwrite
  have hloc₂ := (FilePath.locate_congr (hgrown hnew).toSameDirs _).trans hloc
  rw [hrun env fun c hc => henv c (List.mem_cons_of_mem _ hc), writeSnapshot, Eff.run_bind,
    run_writeFile (henv .writeTemp (by decide)) hloc₂ hwrite, Run.bind_returned]
  show ((replaceTarget (tempPath cwd now target) target >>= _).run env fs₃).state = _
  rw [Eff.run_bind]
  cases (replaceTarget (tempPath cwd now target) target).run env fs₃ with
  | crashed fs' => rfl
  | returned r fs' => cases r <;> rfl

section Converse

variable (haccepted : Accepted lower cwd fs path base fs₁ b target)
  (hparent : ParentIsDir fs₁ target)
  (h : ∀ env, CarriesOut env validationCalls →
    Untouched b fs₁ ((saveTarget cwd P now snapshot target).run env fs₁).state)

include haccepted hparent h

/-- A save that never touches a file outside creates its key inside. -/
theorem newKeyConfined_of_untouched : NewKeyConfined b fs₁ target := by
  intro loc hloc hnone hdir
  by_contra hout
  obtain ⟨key, fs₂, -, hrun, hnew⟩ := run_saveTarget cwd now snapshot haccepted hparent
    ⟨loc, hloc, Or.inr ⟨hnone, hdir⟩⟩
  have hnot : ¬ Confined b fs₁ loc := fun hconfined => hout (hconfined.missing hnone hdir)
  obtain ⟨fs', hwrite, htouched⟩ := writeAt_touched hnot (P.protect now.nonce (keyPlaintext now))
  have hfs₂ : fs₂ = fs' := Option.some.inj ((hnew loc hloc hnone).symm.trans hwrite)
  -- The run that is cut short before the temporary file is written.
  have huntouched := h (Env.crashAt .writeTemp 0 fun _ => "") (by decide)
  rw [hrun _ (by decide), hfs₂] at huntouched
  exact htouched huntouched

/-- It writes its temporary file inside. -/
theorem tempConfined_of_untouched (hkey : KeyUsable P fs₁ target) {loc : Loc}
    (hloc : (tempPath cwd now target).locate fs₁ = some loc) : Confined b fs₁ loc := by
  by_contra hnot
  obtain ⟨content, fs₂, hgrown, hstate⟩ := state_saveTarget snapshot haccepted hparent
    hkey (newKeyConfined_of_untouched haccepted hparent h) hloc
  obtain ⟨fs₃, hwrite, htouched⟩ :=
    writeAt_touched (fun hconfined => hnot (hgrown.confined_iff.mp hconfined)) content
  -- The run that is cut short before the temporary file is moved.
  have huntouched := h (Env.crashAt .moveFileEx 0 fun _ => "") (by decide)
  rw [hstate _ fs₃ (by decide) hwrite] at huntouched
  exact htouched (hgrown.untouched.symm.trans huntouched)

/-- The environment in which the target is removed, and the program dies before it is there
again. -/
def failingMove : Env StoreCall where
  outcome c := if c = .moveFileEx then .fail 0 else if c = .renameTemp then .crash 0 else .ok
  errorText _ := ""

/-- It replaces no file outside, and moves none there. -/
theorem targetInside_of_untouched (hkey : KeyUsable P fs₁ target) {loc src dst : Loc}
    (hloc : (tempPath cwd now target).locate fs₁ = some loc) (hwritable : fs₁.Writable loc)
    (hsrc : (tempPath cwd now target).entry fs₁ = some src) (hdst : target.entry fs₁ = some dst)
    (hdir : fs₁.node dst ≠ some .dir) (hout : ¬ b <+: dst) :
    (∀ id, fs₁.node dst ≠ some (.file id)) ∧ ∃ link, fs₁.node src = some (.link link) := by
  obtain ⟨content, fs₂, hgrown₂, hstate⟩ := state_saveTarget snapshot haccepted hparent
    hkey (newKeyConfined_of_untouched haccepted hparent h) hloc
  obtain ⟨fs₃, hwrite⟩ := exists_writeAt (hgrown₂.writable_iff.mpr hwritable) content
  have hconfined := tempConfined_of_untouched haccepted hparent h hkey hloc
  have hgrown := hgrown₂.trans (writeAt_grown (hgrown₂.confined_iff.mpr hconfined) hwrite)
  have hdirs := hgrown.toSameDirs
  have hsrc₃ := (FilePath.entry_congr hdirs _).trans hsrc
  have hdst₃ := (StorePath.entry_congr hdirs _).trans hdst
  have hnoFile : ∀ id, fs₁.node dst ≠ some (.file id) := by
    intro id hid
    have huntouched := h failingMove (by decide)
    rw [hstate failingMove fs₃ (by decide) hwrite] at huntouched
    have hnode := hgrown.old dst _ hid
    have hmove : (moveFile .moveFileEx (tempPath cwd now target).entry target.entry).run failingMove
        fs₃ = .returned (.error "") fs₃ := run_perform_fail rfl
    have hremove : (removeFile .removeTarget target.entry).run failingMove fs₃ =
        .returned (.ok ()) (fs₃.eraseNode dst) := run_removeFile rfl hdst₃ (by rw [unlink, hnode])
    rw [replaceTarget, Eff.run_bind, hmove, Run.bind_returned] at huntouched
    dsimp only at huntouched
    rw [Eff.run_bind, hremove] at huntouched
    have hsame : (fs₃.eraseNode dst).fileAt dst = fs₁.fileAt dst := huntouched dst hout
    rw [fileAt_of_node hid, fileAt_eq_none_iff.mpr] at hsame
    · exact Option.some_ne_none _ hsame.symm
    · intro id'
      rw [node_eraseNode (ne_nil_of_node hdir), if_pos rfl]
      exact (Option.some_ne_none _).symm
  refine ⟨hnoFile, ?_⟩
  by_contra hnoLink
  have huntouched := h (.faultless fun _ => "") (by decide)
  rw [hstate _ fs₃ (by decide) hwrite] at huntouched
  -- No link is followed, so that the file that was written is the one that is moved.
  have hsrcLoc : (tempPath cwd now target).locate fs₁ = some src := by
    apply FilePath.locate_of_entry file_tempPath hsrc
    exact fun link hlink => hnoLink ⟨link, hlink⟩
  rw [Option.some.inj (hloc.symm.trans hsrcLoc)] at hwrite
  obtain ⟨id, hid⟩ := node_of_writeAt hwrite
  have hdir₃ : fs₃.node dst ≠ some .dir := by rwa [ne_eq, ← isDir_iff, hdirs.isDir, isDir_iff]
  have hin₃ : fs₃.isDir dst.dropLast = true := by
    rw [hdirs.isDir]
    exact isDir_dropLast_of_entry hdst hparent
  obtain ⟨fs₄, hmove, hmoved⟩ := exists_moveEntry hid hdir₃ hin₃
  rw [replaceTarget, Eff.run_bind, run_moveFile rfl hsrc₃ hdst₃ hmove] at huntouched
  have hsame : fs₄.fileAt dst = fs₁.fileAt dst := huntouched dst hout
  rw [fileAt_of_node hmoved, fileAt_eq_none_iff.mpr hnoFile] at hsame
  exact Option.some_ne_none _ hsame

/-- A save that never touches a file outside is confined. -/
theorem saveConfined_of_untouched : SaveConfined cwd P now b fs₁ target where
  key := newKeyConfined_of_untouched haccepted hparent h
  temp := fun hkey _ hloc => tempConfined_of_untouched haccepted hparent h hkey hloc
  target := by
    intro hkey ⟨loc, hloc, hwritable⟩ src dst hsrc hdst
    by_cases hdir : fs₁.node dst = some .dir
    · exact Or.inl hdir
    · by_cases hin : b <+: dst
      · exact Or.inr (Or.inl hin)
      · exact Or.inr (Or.inr (targetInside_of_untouched haccepted hparent h hkey hloc hwritable hsrc
          hdst hdir hin))

end Converse

/-! ### Deletions -/

/-- What a deletion needs of the tree, to touch no file outside the base directory.  A target that
is a directory is not removed, and then the key stays as well. -/
def DeleteConfined (b : Loc) (fs : FileSystem) : StorePath → Prop
  | .canonical loc => fs.isDir loc = true ∨ (b <+: loc ∧
      ∀ key, (keyPath (.canonical loc)).locate fs = some key → key ≠ loc → OnlyInside b fs key)
  | .given p => ∀ key, (keyPath (.given p)).locate fs = some key → OnlyInside b fs key

/-- However its calls end, the key is removed without touching a file outside. -/
theorem holds_eradicateKey {found : Bool}
    (hkey : ∀ loc, (keyPath target).locate fs = some loc → OnlyInside b fs loc) :
    ((eradicateKey found (keyPath target)).run env fs).Holds (fun _ => Untouched b fs)
      (Untouched b fs) := by
  rw [eradicateKey, Eff.run_bind, run_getTree, Run.bind_returned]
  split
  next hthere =>
    have hconfined : ∀ loc, (keyPath target).locate fs = some loc → Confined b fs loc := by
      intro loc hloc
      refine ⟨hkey loc hloc, fun hnone _ => ?_⟩
      rw [hloc, Option.any_some, isThere, hnone] at hthere
      exact Bool.noConfusion hthere
    rw [Eff.run_bind]
    apply ((holds_writeFile hconfined).mono (fun _ _ h => h) fun _ h => h.untouched).bind
    rintro r fs₂ ⟨hgrown, -⟩
    rw [Eff.run_bind]
    apply ((holds_removeFile (keyPath target).entry).mono (fun _ _ h => h)
      fun fs' (heq : fs' = fs₂) => heq ▸ hgrown.untouched).bind
    intro r' fs₃ hremoved
    rcases hremoved with ⟨rfl, -⟩ | ⟨entry, hentry, hunlink⟩
    · exact hgrown.untouched
    · apply hgrown.untouched.trans (unlink_untouched _ hunlink)
      intro id hid
      have hloc : (keyPath target).locate fs₂ = some entry :=
        FilePath.locate_of_entry file_keyPath hentry fun link => by rw [hid]; simp
      rw [FilePath.locate_congr hgrown.toSameDirs] at hloc
      exact (hgrown.confined_iff.mpr (hconfined entry hloc)).file id hid entry hid
  next => exact Untouched.refl

/-- The state after the key was overwritten, if the run is cut short there. -/
theorem state_eradicateKey {found : Bool} {loc : Loc} {id : ℕ}
    (hloc : (keyPath target).locate fs = some loc) (hid : fs.node loc = some (.file id))
    (hwrite : fs.writeAt loc (List.replicate 128 0) = some fs') :
    ((eradicateKey found (keyPath target)).run (.crashAt .removeKey 0 fun _ => "") fs).state =
      fs' := by
  have hthere : ((keyPath target).locate fs).any (isThere fs) = true := by
    rw [hloc, Option.any_some, isThere_iff]
    exact Or.inr ⟨id, hid⟩
  rw [eradicateKey, Eff.run_bind, run_getTree, Run.bind_returned, if_pos hthere, Eff.run_bind,
    run_writeFile rfl hloc hwrite]
  rfl

/-- The state before the key is overwritten, if the run is cut short there. -/
theorem state_eradicateKey_zeroKey {found : Bool} :
    ((eradicateKey found (keyPath target)).run (.crashAt .zeroKey 0 fun _ => "") fs).state =
      fs := by
  rw [eradicateKey, Eff.run_bind, run_getTree, Run.bind_returned]
  split <;> rfl

/-- Removing the target leaves what is said of the key. -/
theorem onlyInside_eraseNode {loc key : Loc} {id : ℕ} (hnode : fs.node loc = some (.file id))
    (h : key ≠ loc → OnlyInside b fs key) : OnlyInside b (fs.eraseNode loc) key := by
  have hloc : loc ≠ [] := ne_nil_of_node (t := fs) (by rw [hnode]; simp)
  intro id' hid loc' hid'
  rw [node_eraseNode hloc] at hid hid'
  obtain ⟨hne, hid⟩ := Option.ite_none_left_eq_some.mp hid
  exact h hne id' hid loc' (Option.ite_none_left_eq_some.mp hid').2

/-- However its calls end, a confined deletion touches no file outside. -/
theorem holds_deleteTarget (haccepted : Accepted lower cwd fs path base fs₁ b target)
    (h : DeleteConfined b fs₁ target) :
    ((deleteTarget target).run env fs₁).Holds (fun _ => Untouched b fs₁) (Untouched b fs₁) := by
  rw [deleteTarget, Eff.run_bind, run_getTree, Run.bind_returned]
  rcases haccepted.cases with ⟨loc, rfl, hthere⟩ | ⟨rfl, hnone, -, -⟩
  · have hfound : (StorePath.canonical loc).isThere fs₁ = true := hthere
    rw [hfound]
    show ((removeFile .deleteSnapshot (StorePath.canonical loc).entry >>= _).run env fs₁).Holds _ _
    rw [Eff.run_bind]
    apply ((holds_removeFile _).mono (fun _ _ h => h)
      fun fs' (heq : fs' = fs₁) => heq ▸ Untouched.refl).bind
    intro r fs₂ hremoved
    rcases hremoved with ⟨rfl, e, rfl⟩ | ⟨entry, hentry, hunlink⟩
    · exact Untouched.refl
    · rw [← Option.some.inj hentry] at hunlink
      obtain ⟨id, hid⟩ : ∃ id, fs₁.node loc = some (.file id) := by
        rcases (unlink_eq_some hunlink).2 with hfile | ⟨link, hlink⟩
        · exact hfile
        · exact absurd hlink (haccepted.not_link rfl link)
      obtain ⟨hinside, hkey⟩ : b <+: loc ∧ ∀ key, _ → key ≠ loc → OnlyInside b fs₁ key := by
        apply Or.resolve_left h
        rw [isDir_iff, hid]
        simp
      have huntouched := unlink_untouched (fun _ _ => hinside) hunlink
      cases r with
      | error e => exact huntouched
      | ok u =>
        rw [(unlink_eq_some hunlink).1] at huntouched ⊢
        apply (holds_eradicateKey _).mono (fun _ _ => huntouched.trans) fun _ => huntouched.trans
        intro key hloc
        rw [FilePath.locate_congr (eraseNode_sameDirs hid)] at hloc
        exact onlyInside_eraseNode hid (hkey key hloc)
  · have hfound : (StorePath.given path).isThere fs₁ = false := by
      rw [StorePath.isThere, hnone]
      rfl
    rw [hfound]
    exact holds_eradicateKey h

/-- A deletion that never touches a file outside is confined. -/
theorem deleteConfined_of_untouched (haccepted : Accepted lower cwd fs path base fs₁ b target)
    (h : ∀ env, CarriesOut env validationCalls →
      Untouched b fs₁ ((deleteTarget target).run env fs₁).state) : DeleteConfined b fs₁ target := by
  -- The run that is cut short once the key is overwritten.
  have hkey : ∀ fs₂ found key, Untouched b fs₁ fs₂ →
      (∀ env, CarriesOut env (.deleteSnapshot :: validationCalls) →
        ((deleteTarget target).run env fs₁).state =
          ((eradicateKey found (keyPath target)).run env fs₂).state) →
      (keyPath target).locate fs₂ = some key → OnlyInside b fs₂ key := by
    intro fs₂ found key huntouched hstate hloc
    by_contra hnot
    have hfile : ∃ id, fs₂.node key = some (.file id) := by
      by_contra hno
      exact hnot fun id hid => absurd ⟨id, hid⟩ hno
    obtain ⟨id, hid⟩ := hfile
    obtain ⟨fs₃, hwrite, htouched⟩ := writeAt_touched (fun hconfined => hnot hconfined.file)
      (List.replicate 128 0)
    have hwritten := h (.crashAt .removeKey 0 fun _ => "") (by decide)
    rw [hstate _ (by decide), state_eradicateKey hloc hid hwrite] at hwritten
    exact htouched (huntouched.symm.trans hwritten)
  rcases haccepted.cases with ⟨loc, rfl, hthere⟩ | ⟨rfl, hnone, -, -⟩
  · have hfound : (StorePath.canonical loc).isThere fs₁ = true := hthere
    rcases isThere_iff.mp hthere with hdir | ⟨id, hid⟩
    · exact Or.inl (isDir_iff.mpr hdir)
    · have hloc : loc ≠ [] := ne_nil_of_node (t := fs₁) (by rw [hid]; simp)
      have hunlink : fs₁.unlink loc = some (fs₁.eraseNode loc) := by rw [unlink, hid]
      have hstate : ∀ env, CarriesOut env (.deleteSnapshot :: validationCalls) →
          ((deleteTarget (.canonical loc)).run env fs₁).state =
            ((eradicateKey true (keyPath (.canonical loc))).run env (fs₁.eraseNode loc)).state := by
        intro env henv
        rw [deleteTarget, Eff.run_bind, run_getTree, Run.bind_returned, hfound]
        show ((removeFile .deleteSnapshot _ >>= _).run env fs₁).state = _
        rw [Eff.run_bind, run_removeFile (henv .deleteSnapshot (by decide)) rfl hunlink]
        rfl
      have hinside : b <+: loc := by
        by_contra hout
        have hremoved := h (.crashAt .zeroKey 0 fun _ => "") (by decide)
        rw [hstate _ (by decide), state_eradicateKey_zeroKey] at hremoved
        have hsame := hremoved loc hout
        rw [fileAt_of_node hid, fileAt_eq_none_iff.mpr] at hsame
        · exact Option.some_ne_none _ hsame.symm
        · intro id'
          rw [node_eraseNode hloc, if_pos rfl]
          exact (Option.some_ne_none _).symm
      refine Or.inr ⟨hinside, fun key hkeyLoc hne id' hid' loc' hloc' => ?_⟩
      have hdirs := eraseNode_sameDirs hid
      have honly := hkey (fs₁.eraseNode loc) true key
        (unlink_untouched (fun _ _ => hinside) hunlink) hstate
        ((FilePath.locate_congr hdirs _).trans hkeyLoc)
      by_cases heq : loc' = loc
      · rw [heq]
        exact hinside
      · apply honly id' _ loc' _
        · rw [node_eraseNode hloc, if_neg hne, hid']
        · rw [node_eraseNode hloc, if_neg heq, hloc']
  · have hfound : (StorePath.given path).isThere fs₁ = false := by
      rw [StorePath.isThere, hnone]
      rfl
    intro key hloc
    apply hkey fs₁ false key Untouched.refl _ hloc
    intro env _
    rw [deleteTarget, Eff.run_bind, run_getTree, Run.bind_returned, hfound]
    rfl

/-- Saving and deleting never touch a file outside the base directory just if every target that
passes the validation is confined. -/
theorem touchesOwnFiles_iff (lower : String → String) (cwd : Loc) (P : Platform) (now : Ambient)
    (snapshot : SystemStateSnapshot) (path base : RawPath) (fs : FileSystem) :
    (TouchesOwnFiles (saveAtomicWithBase lower cwd P now snapshot path base) fs base ↔
      ∀ fs₁ b target, Accepted lower cwd fs path base fs₁ b target → ParentIsDir fs₁ target →
        SaveConfined cwd P now b fs₁ target) ∧
    (TouchesOwnFiles (deleteSnapshotWithBase lower cwd path base) fs base ↔
      ∀ fs₁ b target, Accepted lower cwd fs path base fs₁ b target →
        DeleteConfined b fs₁ target) := by
  refine ⟨⟨?_, ?_⟩, ⟨?_, ?_⟩⟩
  · intro h fs₁ b target haccepted hparent
    exact saveConfined_of_untouched haccepted hparent fun env henv =>
      untouched_of_onTarget h haccepted henv
  · intro h
    apply touchesOwnFiles_onTarget
    intro fs₁ b target haccepted env
    exact Run.holds_iff_state.mp (holds_saveTarget haccepted (h fs₁ b target haccepted))
  · intro h fs₁ b target haccepted
    exact deleteConfined_of_untouched haccepted fun env henv =>
      untouched_of_onTarget h haccepted henv
  · intro h
    apply touchesOwnFiles_onTarget
    intro fs₁ b target haccepted env
    exact Run.holds_iff_state.mp (holds_deleteTarget haccepted (h fs₁ b target haccepted))

/-! ### Two trees in which files outside are touched -/

/-- A file system that takes names up to the case of their letters. -/
def FileSystem.ofEntries (entries : List (Loc × Entry)) : FileSystem where
  fold := fun name => String.ofList (Text.asciiLower name)
  entries := entries.foldl (fun t e => t.insert e.1 e.2) ∅
  files := fun _ => ⟨[0x61], 0⟩

/-- The base directory. -/
def plainBase : FileSystem :=
  .ofEntries [(["c:"], ⟨"C:", .dir⟩), (["c:", "base"], ⟨"Base", .dir⟩)]

/-- The base directory with a link for a key, which leads to a file outside. -/
def plantedKey : FileSystem :=
  .ofEntries [(["c:"], ⟨"C:", .dir⟩), (["c:", "base"], ⟨"Base", .dir⟩),
    (["c:", "notes"], ⟨"notes", .file 1⟩),
    (["c:", "base", "snapshot.key"], ⟨"snapshot.key", .link ⟨some ["c:"], ["notes"]⟩⟩)]

/-- A deletion overwrites the file that a planted link leads to, and a save to the base directory
itself creates a key outside. -/
theorem touches_other_files :
    ¬ TouchesOwnFiles (deleteSnapshotWithBase (fun s => String.ofList (Text.asciiLower s)) ["c:"]
      ⟨some "C:", ["c:"], ["Base", "snapshot.json"]⟩ ⟨some "C:", ["c:"], ["Base"]⟩) plantedKey
      ⟨some "C:", ["c:"], ["Base"]⟩ ∧
    ¬ TouchesOwnFiles (saveAtomicWithBase (fun s => String.ofList (Text.asciiLower s)) ["c:"]
      .portable default (.new "" "") ⟨some "C:", ["c:"], ["Base"]⟩ ⟨some "C:", ["c:"], ["Base"]⟩)
      plainBase
      ⟨some "C:", ["c:"], ["Base"]⟩ := by
  constructor
  · intro h
    have hnotes := h (.faultless fun _ => "") plantedKey ["c:", "base"] (by rfl)
      ["c:", "notes"] (by decide)
    have hwrites := congrArg (Option.map fun f => f.2.writes) hnotes
    revert hwrites
    decide +kernel
  · intro h
    have hkey := h (.crashAt .writeTemp 0 fun _ => "") plainBase ["c:", "base"] (by rfl)
      ["c:", "snapshot.key"] (by decide)
    have hthere := congrArg Option.isSome hkey
    revert hthere
    decide +kernel

end ValOpt.LinkedStore
