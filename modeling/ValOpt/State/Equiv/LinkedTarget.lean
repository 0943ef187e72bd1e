import ValOpt.State.LinkedStore

/-!
# Targets of the store in a tree with links

`openBase` is the tree once the base directory is there, with the canonical place of the base, and
`Accepted` says which target a path stands for there.  Whatever becomes of its calls,
`validate_snapshot_path` leaves the files as they are, and returns an accepted target only
(`holds_validateSnapshotPath`); so an operation on accepted targets is all that has to be looked at
(`touchesOwnFiles_onTarget`, `untouched_of_onTarget`).
-/

namespace ValOpt.LinkedStore

open Effect FileTree Tree

variable {α : Type} {lower : String → String} {cwd : Loc} {env : Env StoreCall}
  {fs fs' fs₁ : FileSystem} {path base : RawPath} {b : Loc} {target : StorePath}

/-! ### The statement -/

/-- The tree once the base directory is there, and the canonical base. -/
def openBase (fs : FileSystem) (base : RawPath) : Option (FileSystem × Loc) :=
  (if (base.canonicalize fs).isSome then some fs else base.createDirAll fs).bind fun fs' =>
    (base.canonicalize fs').map fun canonicalBase => (fs', canonicalBase)

/-- The target that the path stands for. -/
structure Accepted (lower : String → String) (cwd : Loc) (fs : FileSystem) (path base : RawPath)
    (fs₁ : FileSystem) (b : Loc) (target : StorePath) : Prop where
  noTraversal : ".." ∉ path.comps
  openBase : openBase fs base = some (fs₁, b)
  checkTarget : checkTarget lower cwd fs₁ b path base = .ok target

/-- No run of the program touches a file outside the base directory.  A run may be cut short at
every call, so that this is about each of the states it goes through. -/
def TouchesOwnFiles (m : Prog α) (fs : FileSystem) (base : RawPath) : Prop :=
  ∀ env fs₁ b, openBase fs base = some (fs₁, b) → Untouched b fs (m.run env fs).state

/-! ### Creating directories -/

@[simp] theorem run_getTree : getTree.run env fs = .returned fs fs := rfl

theorem RawPath.makeDir_sameFiles {p : RawPath} (h : p.makeDir fs = some fs') :
    SameFiles fs fs' := by
  obtain ⟨loc, -, hmake⟩ := Option.bind_eq_some_iff.mp h
  exact Tree.makeDir_sameFiles hmake

theorem createDirs_sameFiles {ps : List RawPath} (h : RawPath.createDirs ps fs = some fs') :
    SameFiles fs fs' := by
  have hrefl : some fs = some fs' → SameFiles fs fs' := by
    intro heq loc
    rw [Option.some.inj heq]
  induction ps generalizing fs fs' with
  | nil => exact absurd h (Option.some_ne_none fs').symm
  | cons p ps ih =>
    rw [RawPath.createDirs] at h
    split at h
    · exact hrefl h
    · split at h
      · exact hrefl (Option.ite_none_right_eq_some.mp h).2
      · rcases Option.or_eq_some_iff.mp h with hmake | ⟨-, hrest⟩
        · exact RawPath.makeDir_sameFiles hmake
        · obtain ⟨fs₁, hdirs, hmake⟩ := Option.bind_eq_some_iff.mp hrest
          have hfirst : SameFiles fs fs₁ := by
            apply ih hdirs
            intro heq loc
            rw [Option.some.inj heq]
          split at hmake
          · rw [← Option.some.inj hmake]
            exact hfirst
          · exact hfirst.trans (RawPath.makeDir_sameFiles hmake)

theorem RawPath.ancestors_eq (p : RawPath) : ∃ ps, p.ancestors = p :: ps := by
  rw [RawPath.ancestors]
  obtain ⟨ps, hps⟩ : ∃ ps, p.comps.reverse.tails = p.comps.reverse :: ps := by
    cases p.comps.reverse with
    | nil => exact ⟨[], rfl⟩
    | cons c cs => exact ⟨cs.tails, rfl⟩
  rw [hps, List.map_cons, List.reverse_reverse]
  exact ⟨_, rfl⟩

/-- What is there is not created. -/
theorem RawPath.createDirAll_of_canonicalize {p : RawPath} {loc : Loc}
    (h : p.canonicalize fs = some loc) :
    p.createDirAll fs = if fs.isDir loc then some fs else none := by
  obtain ⟨ps, hps⟩ := p.ancestors_eq
  have hempty : ¬ (p.drive = none ∧ p.comps = []) := by
    intro hempty
    rw [RawPath.canonicalize, if_pos hempty] at h
    exact Option.some_ne_none loc h.symm
  rw [RawPath.createDirAll, hps, RawPath.createDirs, if_neg hempty, RawPath.isDir, h]
  rfl

/-! ### Validation -/

/-- The calls are carried out. -/
abbrev CarriesOut (env : Env StoreCall) (calls : List StoreCall) : Prop :=
  ∀ c ∈ calls, env.outcome c = .ok

/-- The calls of `validate_snapshot_path`. -/
def validationCalls : List StoreCall := [.createBase, .canonicalizeBase, .inspectTarget]

/-- What is known of the tree after the base directory was to be created. -/
theorem holds_createBase : ((createBase base).run env fs).Holds
    (fun r fs' => SameFiles fs fs' ∧ ∀ u, r = .ok u →
      (if (base.canonicalize fs).isSome then some fs else base.createDirAll fs) = some fs')
    (SameFiles fs) := by
  have hrefl : SameFiles fs fs := fun _ => rfl
  rw [createBase, Eff.run_bind, run_getTree, Run.bind_returned]
  split
  · exact ⟨hrefl, fun _ _ => rfl⟩
  · apply holds_perform
    · intro _ u fs' hfull
      rw [Op.full_atomic, Option.map_eq_some_iff] at hfull
      obtain ⟨fs₁, hcreate, heq⟩ := hfull
      rw [← (Prod.mk.inj heq).2]
      exact ⟨createDirs_sameFiles hcreate, fun _ _ => hcreate⟩
    · exact fun _ _ => ⟨hrefl, fun _ h => nomatch h⟩
    · exact fun _ _ => ⟨hrefl, fun _ h => nomatch h⟩
    · exact fun _ _ => hrefl

/-- However its calls end, `validate_snapshot_path` leaves the files as they are, and what it
returns is an accepted target. -/
theorem holds_validateSnapshotPath : ((validateSnapshotPath lower cwd path base).run env fs).Holds
    (fun r fs₁ => SameFiles fs fs₁ ∧ ∀ target, r = .ok target →
      ∃ b, Accepted lower cwd fs path base fs₁ b target)
    (SameFiles fs) := by
  rw [validateSnapshotPath]
  split
  next => exact ⟨fun _ => rfl, fun _ h => nomatch h⟩
  next hcomps =>
    rw [Eff.run_bind]
    apply holds_createBase.bind
    intro r fs₁ ⟨hsame, hbase⟩
    cases r with
    | error e => exact ⟨hsame, fun _ h => nomatch h⟩
    | ok u =>
      show ((perform .canonicalizeBase (.read base.canonicalize) >>= _).run env fs₁).Holds _ _
      rw [Eff.run_bind]
      have hread : ((perform .canonicalizeBase (.read base.canonicalize)).run env fs₁).Holds
          (fun r fs' => fs' = fs₁ ∧ ∀ b, r = .ok b → base.canonicalize fs₁ = some b)
          (SameFiles fs) :=
        holds_read (fun r h => ⟨rfl, fun b hb => (h b hb).2⟩) fun _ _ => hsame
      apply hread.bind
      rintro r fs' ⟨rfl, hcanonical⟩
      cases r with
      | error e => exact ⟨hsame, fun _ h => nomatch h⟩
      | ok b =>
        show ((perform .inspectTarget (.read _) >>= _).run env fs').Holds _ _
        rw [Eff.run_bind]
        have hinspect : ((perform .inspectTarget (.read fun fs =>
            some (checkTarget lower cwd fs b path base))).run env fs').Holds
            (fun r fs₁ => fs₁ = fs' ∧ ∀ checked, r = .ok checked →
              checkTarget lower cwd fs' b path base = checked) (SameFiles fs) :=
          holds_read (fun r h => ⟨rfl, fun a ha => Option.some.inj (h a ha).2⟩) fun _ _ => hsame
        apply hinspect.bind
        rintro r fs₁ ⟨rfl, hchecked⟩
        cases r with
        | error e => exact ⟨hsame, fun _ h => nomatch h⟩
        | ok checked =>
          refine ⟨hsame, fun target htarget => ⟨b, hcomps, ?_, ?_⟩⟩
          · rw [openBase, hbase u rfl, Option.bind_some, hcanonical b rfl]
            rfl
          · rw [hchecked checked rfl, htarget]

/-- Where the calls are not disturbed, an accepted target is returned. -/
theorem run_validateSnapshotPath (henv : CarriesOut env validationCalls)
    (h : Accepted lower cwd fs path base fs₁ b target) :
    (validateSnapshotPath lower cwd path base).run env fs = .returned (.ok target) fs₁ := by
  obtain ⟨fs', hcreate, hopen⟩ := Option.bind_eq_some_iff.mp h.openBase
  obtain ⟨b', hcanonical, heq⟩ := Option.map_eq_some_iff.mp hopen
  obtain ⟨rfl, rfl⟩ := Prod.mk.inj heq
  have hbase : (createBase base).run env fs = .returned (.ok ()) fs' := by
    rw [createBase, Eff.run_bind, run_getTree, Run.bind_returned]
    split at hcreate
    next hthere =>
      rw [if_pos hthere, Option.some.inj hcreate]
      rfl
    next hthere =>
      rw [if_neg hthere]
      exact run_perform_ok (henv .createBase (by decide)) (by rw [Op.full_atomic, hcreate]; rfl)
  have hread : (perform .canonicalizeBase (.read base.canonicalize)).run env fs' =
      .returned (.ok b') fs' :=
    run_perform_ok (henv .canonicalizeBase (by decide)) (by rw [Op.full_read, hcanonical]; rfl)
  have hinspect : (perform .inspectTarget (.read fun fs =>
      some (checkTarget lower cwd fs b' path base))).run env fs' =
        .returned (.ok (.ok target)) fs' :=
    run_perform_ok (henv .inspectTarget (by decide)) (by rw [Op.full_read, h.checkTarget]; rfl)
  rw [validateSnapshotPath, if_neg h.noTraversal, Eff.run_bind, hbase, Run.bind_returned]
  show (perform .canonicalizeBase (.read base.canonicalize) >>= _).run env fs' = _
  rw [Eff.run_bind, hread, Run.bind_returned]
  show (perform .inspectTarget (.read _) >>= _).run env fs' = _
  rw [Eff.run_bind, hinspect]
  rfl

/-! ### Accepted targets -/

theorem isThere_iff {loc : Loc} :
    isThere fs loc = true ↔ fs.node loc = some .dir ∨ ∃ id, fs.node loc = some (.file id) := by
  rw [isThere]
  split <;> simp_all

/-- The directory of the target, if it has one, is there. -/
def ParentIsDir (fs : FileSystem) (target : StorePath) : Prop :=
  ∀ parent, target.parent = some parent → ∃ dir, parent.locate fs = some dir ∧ fs.isDir dir = true

theorem RawPath.canonicalize_eq_some {p : RawPath} {loc : Loc} (h : p.canonicalize fs = some loc) :
    p.locate fs = some loc ∧ isThere fs loc = true :=
  Option.filter_eq_some_iff.mp (Option.ite_none_left_eq_some.mp h).2

/-- The path itself is the first that `checkLinks` looks at. -/
theorem isSymlink_of_checkLinks {u : Unit} (h : checkLinks fs b path.ancestors = .ok u) :
    path.isSymlink fs = false := by
  obtain ⟨ps, hps⟩ := path.ancestors_eq
  rw [hps, checkLinks] at h
  split at h
  next => exact nomatch h
  next hlink => exact Bool.eq_false_iff.mpr hlink

/-- An accepted target is a canonical path to what is there, or a path to nothing. -/
theorem Accepted.cases (h : Accepted lower cwd fs path base fs₁ b target) :
    (∃ loc, target = .canonical loc ∧ isThere fs₁ loc = true) ∨
    (target = .given path ∧ path.canonicalize fs₁ = none ∧ path.isSymlink fs₁ = false ∧
      ∀ parent, path.parent = some parent → (parent.canonicalize fs₁).isSome) := by
  have hcheck := h.checkTarget
  rw [LinkedStore.checkTarget] at hcheck
  split at hcheck
  next loc hloc =>
    refine Or.inl ⟨loc, ?_, ?_⟩
    · split at hcheck
      · exact nomatch hcheck
      · obtain ⟨_, -, hcheck⟩ := bind_eq_ok hcheck
        obtain ⟨_, -, hcheck⟩ := bind_eq_ok hcheck
        exact (Except.ok.inj hcheck).symm
    · exact (RawPath.canonicalize_eq_some hloc).2
  next hnone =>
    refine Or.inr ?_
    split at hcheck
    next => exact nomatch hcheck
    next dir hdir =>
      split at hcheck
      · exact nomatch hcheck
      · obtain ⟨_, hlinks, hcheck⟩ := bind_eq_ok hcheck
        refine ⟨(Except.ok.inj hcheck).symm, hnone, isSymlink_of_checkLinks hlinks, ?_⟩
        intro parent hparent
        rw [hparent, Option.elim_some] at hdir
        rw [hdir]
        rfl

/-- The directory of an accepted target is not created. -/
theorem Accepted.createDirAll_iff (h : Accepted lower cwd fs path base fs₁ b target)
    {parent : StorePath} (hparent : target.parent = some parent) :
    parent.createDirAll fs₁ = some fs' ↔
      fs' = fs₁ ∧ ∃ dir, parent.locate fs₁ = some dir ∧ fs₁.isDir dir = true := by
  obtain ⟨dir, hdir, hcreate⟩ : ∃ dir, parent.locate fs₁ = some dir ∧
      parent.createDirAll fs₁ = if fs₁.isDir dir then some fs₁ else none := by
    rcases h.cases with ⟨loc, rfl, -⟩ | ⟨rfl, -, -, hthere⟩
    · obtain ⟨-, hparent⟩ := Option.ite_none_left_eq_some.mp hparent
      rw [← Option.some.inj hparent]
      exact ⟨loc.dropLast, rfl, rfl⟩
    · obtain ⟨p, hp, rfl⟩ := Option.map_eq_some_iff.mp hparent
      obtain ⟨dir, hdir⟩ := Option.isSome_iff_exists.mp (hthere p hp)
      exact ⟨dir, (RawPath.canonicalize_eq_some hdir).1, RawPath.createDirAll_of_canonicalize hdir⟩
  rw [hcreate, hdir]
  simp only [Option.some.injEq, exists_eq_left', Option.ite_none_right_eq_some]
  exact ⟨fun ⟨hdir, heq⟩ => ⟨heq.symm, hdir⟩, fun ⟨heq, hdir⟩ => ⟨hdir, heq.symm⟩⟩

/-- The entry of an accepted target is no link. -/
theorem Accepted.not_link (h : Accepted lower cwd fs path base fs₁ b target) {loc : Loc}
    (hentry : target.entry fs₁ = some loc) (link : LinkTarget) :
    fs₁.node loc ≠ some (.link link) := by
  intro hlink
  rcases h.cases with ⟨loc', rfl, hthere⟩ | ⟨rfl, -, hsymlink, -⟩
  · have hloc : loc' = loc := Option.some.inj hentry
    rw [hloc, isThere, hlink] at hthere
    exact Bool.noConfusion hthere
  · have hpath : path.entry fs₁ = some loc := hentry
    rw [RawPath.isSymlink, hpath, Option.bind_some, hlink] at hsymlink
    exact Bool.noConfusion hsymlink

/-- The entry of a target is in its directory. -/
theorem isDir_dropLast_of_entry {loc : Loc} (hentry : target.entry fs = some loc)
    (hparent : ParentIsDir fs target) : fs.isDir loc.dropLast = true := by
  cases target with
  | canonical loc' =>
    have hloc : loc' = loc := Option.some.inj hentry
    by_cases hlength : loc.length ≤ 1
    · have hnil : loc.dropLast = [] := by
        apply List.eq_nil_of_length_eq_zero
        rw [List.length_dropLast]
        omega
      rw [hnil, isDir_iff, node_nil]
    · obtain ⟨dir, hdir, hisDir⟩ := hparent (.canonical loc.dropLast) (by
        rw [StorePath.parent, hloc, if_neg hlength])
      rw [← Option.some.inj hdir] at hisDir
      exact hisDir
  | given p =>
    obtain ⟨c, hc, hmap⟩ := Option.bind_eq_some_iff.mp hentry
    obtain ⟨dir, hdir, rfl⟩ := Option.map_eq_some_iff.mp hmap
    have hcomps : p.comps ≠ [] := by
      intro hnil
      rw [hnil] at hc
      exact Option.some_ne_none c hc.symm
    obtain ⟨dir', hdir', hisDir⟩ := hparent (.given { p with comps := p.comps.dropLast }) (by
      rw [StorePath.parent, RawPath.parent, if_neg hcomps]
      rfl)
    have heq : dir = dir' := Option.some.inj (hdir.symm.trans hdir')
    rw [List.dropLast_concat, heq]
    exact hisDir

/-! ### Operations on targets -/

/-- The base directory is created without touching a file. -/
theorem openBase_sameFiles (h : openBase fs base = some (fs₁, b)) : SameFiles fs fs₁ := by
  obtain ⟨fs', hcreate, hopen⟩ := Option.bind_eq_some_iff.mp h
  obtain ⟨b', -, heq⟩ := Option.map_eq_some_iff.mp hopen
  rw [← (Prod.mk.inj heq).1]
  split at hcreate
  · rw [Option.some.inj hcreate]
    exact fun _ => rfl
  · exact createDirs_sameFiles hcreate

/-- What the operation does to no accepted target, the whole does not. -/
theorem touchesOwnFiles_onTarget {operation : StorePath → Prog (Except String α)}
    (h : ∀ fs₁ b target, Accepted lower cwd fs path base fs₁ b target →
      ∀ env, Untouched b fs₁ ((operation target).run env fs₁).state) :
    TouchesOwnFiles (onTarget lower cwd path base operation) fs base := by
  intro env fs₁ b hopen
  apply Run.holds_iff_state (I := Untouched b fs) |>.mp
  rw [onTarget, Eff.run_bind]
  apply (holds_validateSnapshotPath.mono (fun _ _ h => h) fun _ h => h.untouched).bind
  intro r fs' ⟨hsame, haccepted⟩
  cases r with
  | error e => exact hsame.untouched
  | ok target =>
    obtain ⟨b', htarget⟩ := haccepted target rfl
    obtain ⟨rfl, rfl⟩ := Prod.mk.inj (Option.some.inj (htarget.openBase.symm.trans hopen))
    apply Run.holds_iff_state.mpr
    exact hsame.untouched.trans (h _ _ _ htarget env)

/-- What the operation does to an accepted target, the whole does. -/
theorem untouched_of_onTarget {operation : StorePath → Prog (Except String α)}
    (h : TouchesOwnFiles (onTarget lower cwd path base operation) fs base)
    (haccepted : Accepted lower cwd fs path base fs₁ b target)
    (henv : CarriesOut env validationCalls) :
    Untouched b fs₁ ((operation target).run env fs₁).state := by
  have hrun : (onTarget lower cwd path base operation).run env fs =
      (operation target).run env fs₁ := by
    rw [onTarget, Eff.run_bind, run_validateSnapshotPath henv haccepted]
    rfl
  have hbase : Untouched b fs₁ fs := (openBase_sameFiles haccepted.openBase).untouched.symm
  apply hbase.trans
  rw [← hrun]
  exact h env fs₁ b haccepted.openBase

end ValOpt.LinkedStore
