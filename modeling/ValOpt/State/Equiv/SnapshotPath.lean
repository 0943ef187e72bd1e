import ValOpt.State.Equiv.CanonicalText

/-!
# Where a validated snapshot path leads

What the checks establish of a path that is accepted is `Checked`: the place that it leads to, or
the directory that it is to be made in, is the base or below it, name by name, so that a directory
beside the base is never taken for it.  What is promised is more, `Sound`: what is returned leads
into the base directory, and meets no link there.  A path to something new is returned as it was
given.  It is checked from its end up to the first directory that is the base, so a link above that
is missed; if there is none, a path that has been below the base would have stayed there
(`strictlyWithin_of_onTheWay`), so it must come straight (`noLink_of_comesStraight`,
`comesStraight_of_noLink`).

For what is there, the canonical path is returned without its verbatim prefix.  The names of the
place may then be taken for others (`sound_plainPath_iff`), but not if the system leaves them as
they are (`staysInside_of_plain`).
-/

namespace ValOpt

open FileTree Text

variable {t : CaseTable} {fs : StoreFiles} {dirs : CurrentDirs} {answers : ValidationAnswers}
  {base loc : Loc} {path basePath p : GivenPath} {volume : Volume} {names : List String}

/-! ### The statement -/

/-- What a path finds or, if there is nothing, its parent. -/
def canonicalForm (fs : WindowsFiles) (dirs : CurrentDirs) (p : GivenPath) : Option Loc :=
  (fs.canonicalize dirs p).or (p.parent.bind (fs.canonicalize dirs))

/-- The path names this entry on its way. -/
def OnTheWay (fs : WindowsFiles) (p : WindowsPath) (l : Loc) : Prop :=
  ∃ comps, comps <+: p.comps ∧ fs.entry { p with comps := comps } = some l

/-- No entry on the way that is below the base is a link. -/
def NoLink (t : CaseTable) (fs : WindowsFiles) (base : Loc) (p : WindowsPath) : Prop :=
  ∀ l, OnTheWay fs p l → StrictlyWithin t fs base l → ∀ target, fs.tree.node l ≠ some (.link target)

/-- What is promised of a path and of what is returned for it. -/
structure Sound (t : CaseTable) (fs : WindowsFiles) (dirs : CurrentDirs) (base : Loc)
    (path p : GivenPath) : Prop where
  noTraversal : ".." ∉ path.comps
  inside : ∃ loc, canonicalForm fs dirs p = some loc ∧ Within t fs base loc
  noLink : ∀ absolute, p.absolute dirs = some absolute → NoLink t fs base absolute

/-- What the checks establish, whatever links there are: the path has no `..`, and the place that it
finds is the base or below it.  If it finds nothing, its parent is checked in its place, and without
a parent the current directory. -/
structure Checked (t : CaseTable) (fs : WindowsFiles) (dirs : CurrentDirs) (base : Loc)
    (path : GivenPath) : Prop where
  noTraversal : ".." ∉ path.comps
  inside : ∃ loc, Within t fs base loc ∧ (fs.canonicalize dirs path = some loc ∨
    fs.canonicalize dirs path = none ∧
      fs.canonicalize dirs (path.parent.getD .current) = some loc)

/-- Where the path, or a directory above it, leads to the base, nothing on the way there is below
the base. -/
def ComesStraight (t : CaseTable) (fs : WindowsFiles) (dirs : CurrentDirs) (base : Loc)
    (path : GivenPath) : Prop :=
  ∀ q ∈ path.ancestors, isBase fs dirs base q = true → ∀ absolute, q.absolute dirs = some absolute →
    ∀ l, OnTheWay fs absolute l → ¬ StrictlyWithin t fs base l

/-- The names of a place, as the system takes them if they are not verbatim. -/
def plainNames (fs : WindowsFiles) (loc : Loc) : List String :=
  match fs.tree.spelling [] loc with
  | [] => []
  | volume :: names => volume :: fs.plainComps names

/-- The names lead to a directory or a file. -/
structure Leads (fs : WindowsFiles) (names : List String) (loc : Loc) : Prop where
  resolve : fs.tree.resolve [] names = some loc
  there : fs.tree.node loc = some .dir ∨ ∃ id, fs.tree.node loc = some (.file id)
  ne_nil : loc ≠ []

/-- If they are not verbatim, the names of the place lead into the base as well, and meet no link
there. -/
structure StaysInside (t : CaseTable) (fs : WindowsFiles) (base loc : Loc) : Prop where
  inside : ∃ loc', Within t fs base loc' ∧ (Leads fs (plainNames fs loc) loc' ∨
    (∀ l, ¬ Leads fs (plainNames fs loc) l) ∧ Leads fs (plainNames fs loc).dropLast loc')
  noLink : ∀ init c, init ≠ [] → init ++ [c] <+: plainNames fs loc →
    ∀ dir, fs.tree.resolve [] init = some dir → StrictlyWithin t fs base (dir ++ [fs.tree.fold c]) →
      ∀ target, fs.tree.node (dir ++ [fs.tree.fold c]) ≠ some (.link target)

/-! ### Absolute paths -/

theorem start_congr {q : GivenPath} (hvolume : q.volume = p.volume)
    (hrooted : q.rooted = p.rooted) :
    q.start dirs = p.start dirs := by
  rw [GivenPath.start, GivenPath.start, hvolume, hrooted]

theorem absolute_eq_some {absolute : WindowsPath} (h : p.absolute dirs = some absolute) :
    absolute = { p.start dirs with comps := (p.start dirs).comps ++ p.comps } := by
  obtain ⟨-, heq⟩ := Option.ite_none_left_eq_some.mp h
  exact (Option.some.inj heq).symm

/-- A path that has a parent is not empty. -/
theorem absolute_of_parent (dirs : CurrentDirs) (h : p.parent.isSome = true) :
    p.absolute dirs = some { p.start dirs with comps := (p.start dirs).comps ++ p.comps } := by
  apply if_neg
  intro heq
  rw [heq] at h
  exact Bool.noConfusion h

theorem absolute_of_comps_ne_nil (dirs : CurrentDirs) (h : p.comps ≠ []) :
    p.absolute dirs = some { p.start dirs with comps := (p.start dirs).comps ++ p.comps } := by
  apply absolute_of_parent dirs
  rw [GivenPath.parent, if_pos h]
  rfl

/-- No path starts with `..`. -/
theorem start_ne : ∀ c ∈ (p.start dirs).comps, c ≠ ".." := by
  intro c hc
  rw [GivenPath.start] at hc
  split at hc
  next drive _ _ => exact dirs.ofDrive_ne drive c hc
  next => exact absurd hc List.not_mem_nil
  next => exact absurd hc List.not_mem_nil
  next => exact dirs.comps_ne c hc

/-- What is meant by a path without `..` has none either. -/
theorem absolute_ne {absolute : WindowsPath} (hdots : ".." ∉ p.comps)
    (h : p.absolute dirs = some absolute) : ∀ c ∈ absolute.comps, c ≠ ".." := by
  rw [absolute_eq_some h]
  intro c hc
  rcases List.mem_append.mp hc with hstart | hcomps
  · exact start_ne c hstart
  · intro heq
    rw [heq] at hcomps
    exact hdots hcomps

/-- The path and those above it have the same start, and the components become fewer. -/
theorem mem_ancestors (dirs : CurrentDirs) {q : GivenPath} (h : q ∈ path.ancestors) :
    q.start dirs = path.start dirs ∧ q.comps <+: path.comps := by
  rcases List.mem_append.mp h with hq | hq
  · obtain ⟨comps, hcomps, rfl⟩ := List.mem_map.mp hq
    have hsuffix := (List.mem_tails _ _).mp hcomps
    refine ⟨start_congr rfl rfl, ?_⟩
    have hprefix := List.reverse_prefix.mpr hsuffix
    rw [List.reverse_reverse] at hprefix
    exact hprefix
  · split at hq
    · rw [List.mem_singleton.mp hq]
      exact ⟨start_congr rfl rfl, List.nil_prefix⟩
    · exact absurd hq List.not_mem_nil

theorem pairwise_ancestors (path : GivenPath) :
    path.ancestors.Pairwise fun q' q => q.comps <+: q'.comps := by
  have htails : ∀ comps : List String, comps.tails.Pairwise fun l' l => l <:+ l' := by
    intro comps
    induction comps with
    | nil => exact List.pairwise_singleton _ _
    | cons c comps ih =>
      rw [List.tails_cons]
      apply List.pairwise_cons.mpr
      refine ⟨fun l hl => ?_, ih⟩
      exact ((List.mem_tails _ _).mp hl).trans (List.suffix_cons c comps)
  apply List.pairwise_append.mpr
  refine ⟨?_, ?_, ?_⟩
  · apply List.pairwise_map.mpr
    apply (htails path.comps.reverse).imp
    intro l' l hl
    exact List.reverse_prefix.mpr hl
  · split
    · exact List.pairwise_singleton _ _
    · exact List.Pairwise.nil
  · intro q' hq' q hq
    split at hq
    · rw [List.mem_singleton.mp hq]
      exact List.nil_prefix
    · exact absurd hq List.not_mem_nil

/-- An initial part of the components is one of the ancestors. -/
theorem mem_ancestors_of_prefix {comps : List String} (h : comps <+: path.comps) :
    { path with comps := comps } ∈ path.ancestors := by
  apply List.mem_append_left
  apply List.mem_map.mpr
  refine ⟨comps.reverse, ?_, ?_⟩
  · exact (List.mem_tails _ _).mpr (List.reverse_suffix.mpr h)
  · rw [List.reverse_reverse]

/-! ### What the system makes of the components -/

/-- What a component becomes. -/
def taken (fs : WindowsFiles) (volume : PathPrefix) (c : String) : String :=
  if volume.isVerbatim then c else fs.win32Name c

theorem taken_ne {volume : PathPrefix} {c : String} (h : c ≠ "..") :
    taken fs.toWindowsFiles volume c ≠ ".." := by
  rw [taken]
  split
  · exact h
  · exact fs.win32Name_ne c h

/-- Without `..` the components are taken one by one. -/
theorem plainComps_eq_map (fs : WindowsFiles) {comps : List String} (h : ∀ c ∈ comps, c ≠ "..") :
    fs.plainComps comps = comps.map fs.win32Name := by
  have hfold : ∀ acc : List String, comps.foldl (fun acc c =>
      if c = ".." then acc.dropLast else acc ++ [fs.win32Name c]) acc =
        acc ++ comps.map fs.win32Name := by
    induction comps with
    | nil => exact fun acc => (List.append_nil acc).symm
    | cons c comps ih =>
      intro acc
      have ih' := ih fun x hx => h x (List.mem_cons_of_mem c hx)
      rw [List.foldl_cons, if_neg (h c List.mem_cons_self), ih', List.map_cons, List.append_assoc,
        List.singleton_append]
  exact hfold []

theorem systemComps_eq_some_iff (fs : WindowsFiles) {volume : PathPrefix}
    {comps names : List String} (h : ∀ c ∈ comps, c ≠ "..") :
    fs.systemComps volume comps = some names ↔
      (volume.isVerbatim = true → "." ∉ comps) ∧ names = comps.map (taken fs volume) := by
  have hdots : ".." ∉ comps := fun hmem => h _ hmem rfl
  rw [WindowsFiles.systemComps]
  split
  next hverbatim =>
    have htaken : comps.map (taken fs volume) = comps := by
      apply List.map_id''
      intro c
      exact if_pos hverbatim
    rw [Option.ite_none_left_eq_some, htaken, Option.some.injEq]
    simp [hverbatim, hdots, eq_comm]
  next hverbatim =>
    have htaken : comps.map (taken fs volume) = comps.map fs.win32Name := by
      apply List.map_congr_left
      intro c _
      exact if_neg hverbatim
    rw [plainComps_eq_map fs h, htaken, Option.some.injEq]
    simp [hverbatim, eq_comm]

theorem locate_eq (fs : WindowsFiles) (p : WindowsPath) : fs.locate p = p.volume.bind fun volume =>
    (fs.systemComps volume p.comps).bind fun comps =>
      fs.tree.resolve [] (fs.volumeComps volume ++ comps) := by
  rw [WindowsFiles.locate]
  apply Option.bind_congr
  intro volume _
  rw [WindowsFiles.systemComps]
  split
  · split
    · rfl
    · rfl
  · rfl

/-- An entry on the way is named by the first of the components. -/
theorem onTheWay_iff {p : WindowsPath} {volume : PathPrefix} {l : Loc}
    (hvolume : p.volume = some volume)
    (hdots : ∀ c ∈ p.comps, c ≠ "..") (hverbatim : volume.isVerbatim = true → "." ∉ p.comps) :
    OnTheWay fs.toWindowsFiles p l ↔ ∃ init c dir,
      init ++ [c] <+: p.comps.map (taken fs.toWindowsFiles volume) ∧
      fs.tree.resolve [] (fs.volumeComps volume ++ init) = some dir ∧
        l = dir ++ [fs.tree.fold c] := by
  constructor
  · intro ⟨comps, hinit, hentry⟩
    rw [WindowsFiles.entry, hvolume, Option.bind_some] at hentry
    obtain ⟨names, hnames, hentry⟩ := Option.bind_eq_some_iff.mp hentry
    obtain ⟨c, hc, hentry⟩ := Option.bind_eq_some_iff.mp hentry
    obtain ⟨dir, hdir, hl⟩ := Option.map_eq_some_iff.mp hentry
    obtain ⟨-, hmap⟩ := (systemComps_eq_some_iff _ fun c hc => hdots c (hinit.subset hc)).mp hnames
    refine ⟨names.dropLast, c, dir, ?_, hdir, hl.symm⟩
    rw [List.dropLast_append_getLast? c hc, hmap]
    exact hinit.map _
  · intro ⟨init, c, dir, hinit, hdir, hl⟩
    obtain ⟨comps, hcomps, hmap⟩ := List.prefix_map_iff.mp hinit
    have hnames : fs.systemComps volume comps = some (init ++ [c]) := by
      apply (systemComps_eq_some_iff _ fun c hc => hdots c (hcomps.subset hc)).mpr
      exact ⟨fun h hmem => hverbatim h (hcomps.subset hmem), hmap⟩
    refine ⟨comps, hcomps, ?_⟩
    rw [WindowsFiles.entry, hvolume, Option.bind_some, hnames, Option.bind_some,
      List.getLast?_concat, Option.bind_some, List.dropLast_concat, hdir, hl]
    rfl

/-- Once it is below the base, a path that meets no link there stays. -/
theorem strictlyWithin_of_onTheWay {p : WindowsPath} {l : Loc} (hdots : ∀ c ∈ p.comps, c ≠ "..")
    (hlocate : fs.locate p = some loc) (hlink : NoLink t fs.toWindowsFiles base p)
    (hl : OnTheWay fs.toWindowsFiles p l) (hwithin : StrictlyWithin t fs.toWindowsFiles base l) :
    StrictlyWithin t fs.toWindowsFiles base loc := by
  rw [locate_eq] at hlocate
  obtain ⟨volume, hvolume, hlocate⟩ := Option.bind_eq_some_iff.mp hlocate
  obtain ⟨names, hnames, hresolve⟩ := Option.bind_eq_some_iff.mp hlocate
  obtain ⟨hverbatim, hmap⟩ := (systemComps_eq_some_iff _ hdots).mp hnames
  have hway : ∀ l, OnTheWay fs.toWindowsFiles p l ↔ _ :=
    fun l => onTheWay_iff hvolume hdots hverbatim
  have hlinks : ∀ init c dir, init ++ [c] <+: names →
      fs.tree.resolve [] (fs.volumeComps volume ++ init) = some dir →
      StrictlyWithin t fs.toWindowsFiles base (dir ++ [fs.tree.fold c]) →
      ∀ target, fs.tree.node (dir ++ [fs.tree.fold c]) ≠ some (.link target) := by
    intro init c dir hprefix hdir hwithin
    exact hlink _ ((hway _).mpr ⟨init, c, dir, hmap ▸ hprefix, hdir, rfl⟩) hwithin
  -- From the component that leads inside on, no link is followed, so that the path never leaves the
  -- base again.
  obtain ⟨init, c, dir, hprefix, hdir, heq⟩ := (hway l).mp hl
  rw [← hmap] at hprefix
  rw [heq] at hwithin
  obtain ⟨rest, hrest⟩ := hprefix
  have happend : ∀ more, (fs.volumeComps volume ++ init) ++ c :: more =
      fs.volumeComps volume ++ (init ++ c :: more) := fun more => List.append_assoc _ _ _
  have hnames_eq : names = init ++ c :: rest := by
    rw [← hrest, List.append_assoc]
    rfl
  apply Tree.resolve_stays (W := StrictlyWithin t fs.toWindowsFiles base) fs.links
    (Tree.solidDir_nil _) (fun l k h => StrictlyWithin.concat h k) rest
    (fs.volumeComps volume ++ init) c dir hdir hwithin
  · intro d hd
    have hmem : d ∈ p.comps.map (taken fs.toWindowsFiles volume) := by
      rw [← hmap, hnames_eq]
      exact List.mem_append_right init hd
    obtain ⟨d', hd', hd_eq⟩ := List.mem_map.mp hmem
    rw [← hd_eq]
    exact taken_ne (hdots d' hd')
  · intro more d hmore dir' hdir' hwithin'
    rw [happend] at hdir'
    apply hlinks (init ++ c :: more) d dir' _ hdir' hwithin'
    rw [hnames_eq, List.append_assoc, List.prefix_append_right_inj, List.cons_append]
    exact (List.prefix_cons_inj c).mpr hmore
  · exact hlinks init c dir ⟨rest, hrest⟩ hdir hwithin
  · rw [happend, ← hnames_eq]
    exact hresolve

/-! ### What is checked -/

theorem found_of_canonicalize (h : fs.canonicalize dirs p = some loc) :
    fs.Found loc ∧ loc ≠ [] := by
  obtain ⟨hexisting, hne⟩ := Option.filter_eq_some_iff.mp h
  obtain ⟨absolute, -, hexisting⟩ := Option.bind_eq_some_iff.mp hexisting
  exact ⟨WindowsFiles.found_of_existing hexisting, of_decide_eq_true hne⟩

theorem canonicalize_eq_some_iff {absolute : WindowsPath}
    (habsolute : p.absolute dirs = some absolute) :
    fs.canonicalize dirs p = some loc ↔ fs.locate absolute = some loc ∧
      (fs.tree.node loc = some .dir ∨ ∃ id, fs.tree.node loc = some (.file id)) ∧ loc ≠ [] := by
  rw [WindowsFiles.canonicalize, Option.filter_eq_some_iff, habsolute, Option.bind_some,
    WindowsFiles.existing_eq_some_iff, decide_eq_true_eq, and_assoc]

/-- A path that is taken for the base leads as deep as the base is. -/
theorem length_of_isBase (t : CaseTable) (hbase : fs.Found base) (hbase_ne : base ≠ [])
    (h : isBase fs.toWindowsFiles dirs base p = true) :
    ∃ loc, fs.canonicalize dirs p = some loc ∧ loc.length = base.length := by
  obtain ⟨loc, hloc, heq⟩ := (Option.any_eq_true _ _).mp h
  obtain ⟨hfound, hne⟩ := found_of_canonicalize hloc
  refine ⟨loc, hloc, length_eq_of_normText_eq (t := t) hbase hbase_ne hfound hne ?_⟩
  have hlower := eqIgnoreAsciiCase_iff.mp heq
  rw [asciiLower, asciiLower, String.toList_ofList, String.toList_ofList] at hlower
  exact CaseTable.toLowercase_congr hlower

/-- A link that the walk does not see is above one that leads to the base. -/
theorem checkLinks_eq_ok {q : GivenPath} {before after : List GivenPath}
    (h : checkLinks fs.toWindowsFiles dirs base (before ++ q :: after) = .ok ())
    (hlink : fs.isSymlink dirs q = true) :
    ∃ q' ∈ before, isBase fs.toWindowsFiles dirs base q' = true := by
  induction before with
  | nil =>
    rw [List.nil_append, checkLinks, if_pos hlink] at h
    exact nomatch h
  | cons q' before ih =>
    rw [List.cons_append, checkLinks] at h
    split at h
    · exact nomatch h
    split at h
    next hbase => exact ⟨q', List.mem_cons_self, hbase⟩
    next =>
      obtain ⟨q'', hq'', hbase⟩ := ih h
      exact ⟨q'', List.mem_cons_of_mem q' hq'', hbase⟩

/-- What is known of a path that is accepted. -/
theorem validateGivenPath_eq_ok
    (h : validateGivenPath t fs.toWindowsFiles dirs answers path basePath = .ok p)
    (hbase : fs.canonicalize dirs basePath = some base) :
    ".." ∉ path.comps ∧ checkLinks fs.toWindowsFiles dirs base path.ancestors = .ok () ∧
    ((∃ loc, fs.canonicalize dirs path = some loc ∧ isWithin t fs.toWindowsFiles base loc = true ∧
      p = .ofText (normalizeWindowsPath (fs.canonicalPath loc))) ∨
    (fs.canonicalize dirs path = none ∧ p = path ∧
      ∃ loc, fs.canonicalize dirs (path.parent.getD .current) = some loc ∧
        isWithin t fs.toWindowsFiles base loc = true)) := by
  rw [validateGivenPath] at h
  split at h
  · exact nomatch h
  next hdots =>
  rw [hbase] at h
  dsimp only at h
  refine ⟨hdots, ?_⟩
  split at h
  next loc hloc =>
    split at h
    · exact nomatch h
    next hwithin =>
    obtain ⟨u, hlinks, h⟩ := Effect.bind_eq_ok h
    obtain ⟨u', -, h⟩ := Effect.bind_eq_ok h
    refine ⟨hlinks, Or.inl ⟨loc, hloc, by simpa using hwithin, (Except.ok.inj h).symm⟩⟩
  next hnone =>
    split at h
    · exact nomatch h
    next loc hloc =>
    split at h
    · exact nomatch h
    next hwithin =>
    obtain ⟨u, hlinks, h⟩ := Effect.bind_eq_ok h
    exact ⟨hlinks, Or.inr ⟨hnone, (Except.ok.inj h).symm, loc, hloc, by simpa using hwithin⟩⟩

/-! ### Paths to something new -/

/-- What is on the way to the first of the components is on the way. -/
theorem OnTheWay.mono {comps comps' : List String} {l : Loc} (hcomps : comps <+: comps')
    {a : WindowsPath} (h : OnTheWay fs.toWindowsFiles { a with comps := comps } l) :
    OnTheWay fs.toWindowsFiles { a with comps := comps' } l := by
  obtain ⟨init, hinit, hentry⟩ := h
  exact ⟨init, hinit.trans hcomps, hentry⟩

/-- If no link is on the way below the base, a path that comes to the base comes straight. -/
theorem comesStraight_of_noLink {absolute : WindowsPath} (hbase : fs.Found base)
    (hbase_ne : base ≠ []) (hdots : ".." ∉ path.comps)
    (habsolute : path.absolute dirs = some absolute)
    (hlink : NoLink t fs.toWindowsFiles base absolute) :
    ComesStraight t fs.toWindowsFiles dirs base path := by
  intro q hq hisBase absolute' habsolute' l hl hwithin
  obtain ⟨loc, hloc, hlength⟩ := length_of_isBase t hbase hbase_ne hisBase
  obtain ⟨hlocate, -, -⟩ := (canonicalize_eq_some_iff habsolute').mp hloc
  obtain ⟨hstart, hcomps⟩ := mem_ancestors dirs hq
  have hdots' : ".." ∉ q.comps := fun hmem => hdots (hcomps.subset hmem)
  have hlink' : NoLink t fs.toWindowsFiles base absolute' := by
    intro l' hl'
    apply hlink l'
    rw [absolute_eq_some habsolute', hstart] at hl'
    rw [absolute_eq_some habsolute]
    exact hl'.mono ((List.prefix_append_right_inj _).mpr hcomps)
  have hloc_within := strictlyWithin_of_onTheWay (absolute_ne hdots' habsolute') hlocate hlink' hl
    hwithin
  have hlt := hloc_within.2
  omega

/-- Of a path that is checked and comes straight, no link is on the way below the base. -/
theorem noLink_of_comesStraight {absolute : WindowsPath}
    (hlinks : checkLinks fs.toWindowsFiles dirs base path.ancestors = .ok ())
    (habsolute : path.absolute dirs = some absolute)
    (hstart : NoLink t fs.toWindowsFiles base (path.start dirs))
    (hstraight : ComesStraight t fs.toWindowsFiles dirs base path) :
    NoLink t fs.toWindowsFiles base absolute := by
  intro l hl hwithin target htarget
  rw [absolute_eq_some habsolute] at hl
  obtain ⟨comps, hcomps, hentry⟩ := hl
  rcases List.prefix_or_prefix_of_prefix hcomps (List.prefix_append _ _) with hinit | ⟨rest, hrest⟩
  · exact hstart l ⟨comps, hinit, hentry⟩ hwithin target htarget
  -- the entry is that of the path or of one above it
  have hrest_mem : rest <+: path.comps := by
    rw [← hrest] at hcomps
    exact (List.prefix_append_right_inj _).mp hcomps
  by_cases hnil : rest = []
  · rw [hnil, List.append_nil] at hrest
    exact hstart l ⟨comps, by rw [hrest], hentry⟩ hwithin target htarget
  let q : GivenPath := { path with comps := rest }
  have hq : q ∈ path.ancestors := mem_ancestors_of_prefix hrest_mem
  have hq_absolute : q.absolute dirs = some { path.start dirs with comps := comps } := by
    have hq_start : q.start dirs = path.start dirs := start_congr rfl rfl
    rw [absolute_of_comps_ne_nil dirs hnil, hq_start, ← hrest]
  have hsymlink : fs.isSymlink dirs q = true := by
    rw [WindowsFiles.isSymlink, hq_absolute, Option.bind_some, hentry, Option.bind_some, htarget]
  obtain ⟨before, after, hsplit⟩ := List.append_of_mem hq
  rw [hsplit] at hlinks
  obtain ⟨q', hq', hisBase⟩ := checkLinks_eq_ok hlinks hsymlink
  have hq'_mem : q' ∈ path.ancestors := by
    rw [hsplit]
    exact List.mem_append_left _ hq'
  have hfewer : rest <+: q'.comps := by
    have hpairwise := pairwise_ancestors path
    rw [hsplit] at hpairwise
    exact (List.pairwise_append.mp hpairwise).2.2 q' hq' q List.mem_cons_self
  have hq'_absolute := absolute_of_comps_ne_nil dirs
    (List.IsPrefix.ne_nil hfewer hnil)
  rw [(mem_ancestors dirs hq'_mem).1] at hq'_absolute
  apply hstraight q' hq'_mem hisBase _ hq'_absolute l _ hwithin
  refine ⟨comps, ?_, hentry⟩
  rw [← hrest]
  exact (List.prefix_append_right_inj _).mpr hfewer

/-! ### Paths to what is there -/

/-- The path of these names on a volume, which is not verbatim. -/
def plainPath (volume : Volume) (names : List String) : GivenPath :=
  ⟨⟨some volume.pathPrefix, true, names⟩, false⟩

/-- The path that is returned for a place. -/
theorem ofText_canonicalPath (hspelling : fs.tree.spelling [] loc = volume.name :: names)
    (hnames : ∀ n ∈ names, IsName n) :
    GivenPath.ofText (normalizeWindowsPath (fs.canonicalPath loc)) = plainPath volume names := by
  rw [normalizeWindowsPath_canonicalPath hspelling]
  cases volume with
  | drive drive hdrive =>
    have htext : (prefixText (.disk drive)).toList = [drive, ':'] := String.toList_ofList
    show GivenPath.ofText ((prefixText (.disk drive)).toList ++ '\\' :: joinNames names) = _
    rw [htext]
    show GivenPath.ofText (drive :: ':' :: '\\' :: joinNames names) = _
    rw [GivenPath.ofText, parsePrefix_drive hdrive, parsePath_drive hdrive hnames]
    rfl
  | share server share hserver hquery hshare =>
    have htext : (prefixText (.unc server share)).toList ++ '\\' :: joinNames names =
        '\\' :: '\\' :: (server.toList ++ '\\' :: (share.toList ++ '\\' :: joinNames names)) := by
      simp [prefixText]
    show GivenPath.ofText ((prefixText (.unc server share)).toList ++ '\\' :: joinNames names) = _
    rw [htext, GivenPath.ofText, parsePrefix_share hserver hquery hshare,
      parsePath_share hserver hquery hshare hnames]
    rfl

theorem absolute_plainPath : (plainPath volume names).absolute dirs =
    some ⟨some volume.pathPrefix, true, names⟩ := by
  have hstart : (plainPath volume names).start dirs = ⟨some volume.pathPrefix, true, []⟩ := by
    cases volume with
    | drive drive hdrive => rfl
    | share server share hserver hquery hshare => rfl
  rw [GivenPath.absolute, if_neg, hstart]
  · rfl
  · intro heq
    have hvolume := congrArg (fun p : GivenPath => p.volume) heq
    exact absurd hvolume (Option.some_ne_none _)

theorem canonicalize_plainPath (hdots : ∀ n ∈ names, n ≠ "..") :
    fs.canonicalize dirs (plainPath volume names) = some loc ↔
      Leads fs.toWindowsFiles (volume.name :: names.map fs.win32Name) loc := by
  have hlocate : fs.locate ⟨some volume.pathPrefix, true, names⟩ =
      fs.tree.resolve [] (volume.name :: names.map fs.win32Name) := by
    rw [WindowsFiles.locate, Option.bind_some, volume.not_isVerbatim, volume.volumeComps_pathPrefix,
      plainComps_eq_map _ hdots]
    rfl
  rw [canonicalize_eq_some_iff absolute_plainPath, hlocate]
  constructor
  · intro ⟨hresolve, hthere, hne⟩
    exact ⟨hresolve, hthere, hne⟩
  · intro h
    exact ⟨h.resolve, h.there, h.ne_nil⟩

/-- Nothing leads to the volumes themselves. -/
theorem not_leads_nil (fs : WindowsFiles) : ¬ Leads fs [] loc := by
  intro h
  exact h.ne_nil (Option.some.inj h.resolve).symm

/-- What the path that is returned, or its parent, finds. -/
theorem canonicalForm_plainPath (hdots : ∀ n ∈ names, n ≠ "..") {plain : List String}
    (hplain : plain = volume.name :: names.map fs.win32Name) :
    canonicalForm fs.toWindowsFiles dirs (plainPath volume names) = some loc ↔
      Leads fs.toWindowsFiles plain loc ∨
        (∀ l, ¬ Leads fs.toWindowsFiles plain l) ∧ Leads fs.toWindowsFiles plain.dropLast loc := by
  have hleads : ∀ l, fs.canonicalize dirs (plainPath volume names) = some l ↔
      Leads fs.toWindowsFiles plain l := by
    intro l
    rw [hplain]
    exact canonicalize_plainPath hdots
  have hparent : (plainPath volume names).parent.bind (fs.canonicalize dirs) = some loc ↔
      Leads fs.toWindowsFiles plain.dropLast loc := by
    by_cases hnil : names = []
    · rw [hplain, hnil]
      exact iff_of_false (fun h => nomatch h) (not_leads_nil _)
    · have hparent : (plainPath volume names).parent = some (plainPath volume names.dropLast) :=
        if_pos hnil
      rw [hparent, Option.bind_some, hplain, List.dropLast_cons_of_ne_nil (by simpa using hnil),
        ← List.map_dropLast]
      exact canonicalize_plainPath fun n hn => hdots n (List.dropLast_subset _ hn)
  rw [canonicalForm, Option.or_eq_some_iff, hleads, hparent, Option.eq_none_iff_forall_ne_some]
  simp only [ne_eq, hleads]

/-- The path that is returned is as promised just if the names stay inside. -/
theorem sound_plainPath_iff (hspelling : fs.tree.spelling [] loc = volume.name :: names)
    (hnames : ∀ n ∈ names, IsName n) (hdots : ".." ∉ path.comps) :
    Sound t fs.toWindowsFiles dirs base path (plainPath volume names) ↔
      StaysInside t fs.toWindowsFiles base loc := by
  have hnames_ne : ∀ n ∈ names, n ≠ ".." := fun n hn => (hnames n hn).ne_dotdot
  have hplain : plainNames fs.toWindowsFiles loc = volume.name :: names.map fs.win32Name := by
    rw [plainNames, hspelling, ← plainComps_eq_map _ hnames_ne]
  have hverbatim : volume.pathPrefix.isVerbatim = true → "." ∉ names := by
    intro h
    rw [volume.not_isVerbatim] at h
    exact Bool.noConfusion h
  have htaken : names.map (taken fs.toWindowsFiles volume.pathPrefix) = names.map fs.win32Name := by
    apply List.map_congr_left
    intro n _
    rw [taken, volume.not_isVerbatim]
    rfl
  -- What lies on the way of the plain path is what the prefixes of its names lead to.
  have hway : ∀ l, OnTheWay fs.toWindowsFiles ⟨some volume.pathPrefix, true, names⟩ l ↔
      ∃ init c dir, init ++ [c] <+: names.map fs.win32Name ∧
        fs.tree.resolve [] (volume.name :: init) = some dir ∧ l = dir ++ [fs.tree.fold c] := by
    intro l
    rw [← htaken]
    have h : OnTheWay fs.toWindowsFiles ⟨some volume.pathPrefix, true, names⟩ l ↔ _ :=
      onTheWay_iff rfl hnames_ne hverbatim
    rw [volume.volumeComps_pathPrefix] at h
    exact h
  constructor
  · intro h
    constructor
    · obtain ⟨l, hl, hwithin⟩ := h.inside
      exact ⟨l, hwithin, (canonicalForm_plainPath hnames_ne hplain).mp hl⟩
    · intro init c hinit hprefix dir hdir hwithin
      obtain ⟨v, init', rfl⟩ := List.exists_cons_of_ne_nil hinit
      rw [hplain] at hprefix
      obtain ⟨hv, hprefix'⟩ := List.cons_prefix_cons.mp hprefix
      rw [hv] at hdir
      exact h.noLink _ absolute_plainPath _
        ((hway _).mpr ⟨init', c, dir, hprefix', hdir, rfl⟩) hwithin
  · intro h
    refine ⟨hdots, ?_, ?_⟩
    · obtain ⟨l, hwithin, hl⟩ := h.inside
      exact ⟨l, (canonicalForm_plainPath hnames_ne hplain).mpr hl, hwithin⟩
    · intro absolute habsolute l hl hwithin
      rw [← Option.some.inj (absolute_plainPath.symm.trans habsolute), hway] at hl
      obtain ⟨init, c, dir, hprefix, hdir, rfl⟩ := hl
      apply h.noLink (volume.name :: init) c (List.cons_ne_nil _ _) _ dir hdir hwithin
      rw [hplain]
      exact List.cons_prefix_cons.mpr ⟨rfl, hprefix⟩

/-- The place is cut where its names are. -/
theorem exists_of_spelling_prefix {tree : FileTree.Tree Bytes} {init : List String} {c : String}
    (h : init ++ [c] <+: tree.spelling [] loc) :
    ∃ l k, l ++ [k] <+: loc ∧ tree.spelling [] l = init ∧ tree.nameAt (l ++ [k]) = c := by
  have hlength := h.length_le
  rw [length_spelling, List.length_append, List.length_singleton] at hlength
  have hsplit : loc = loc.take init.length ++ loc.drop init.length :=
    (List.take_append_drop _ _).symm
  have htake : (loc.take init.length).length = init.length := by
    rw [List.length_take]
    omega
  have hdrop : loc.drop init.length ≠ [] := by
    intro hnil
    have hle := List.drop_eq_nil_iff.mp hnil
    omega
  obtain ⟨k, rest, hrest⟩ := List.exists_cons_of_ne_nil hdrop
  obtain ⟨after, hafter⟩ := h
  rw [hsplit, hrest, spelling_append, List.nil_append, List.append_assoc] at hafter
  obtain ⟨hinit, hname⟩ := List.append_inj hafter (by rw [length_spelling, htake])
  refine ⟨loc.take init.length, k, ⟨rest, ?_⟩, hinit.symm, (List.cons.inj hname).1.symm⟩
  rw [List.append_assoc, List.singleton_append, ← hrest, List.take_append_drop]

/-- Names that the system does not change lead to the place itself. -/
theorem staysInside_of_plain (hfound : fs.Found loc) (hne : loc ≠ [])
    (hwithin : Within t fs.toWindowsFiles base loc)
    (hplain : ∀ n ∈ (fs.tree.spelling [] loc).tail, fs.win32Name n = n) :
    StaysInside t fs.toWindowsFiles base loc := by
  obtain ⟨volume, names, hspelling, hnames⟩ := exists_spelling hfound hne
  rw [hspelling, List.tail_cons] at hplain
  have hnames_eq : plainNames fs.toWindowsFiles loc = fs.tree.spelling [] loc := by
    rw [plainNames, hspelling]
    show volume.name :: fs.plainComps names = _
    rw [WindowsFiles.plainComps_eq_self hnames hplain]
  constructor
  · refine ⟨loc, hwithin, Or.inl ⟨?_, hfound.there, hne⟩⟩
    rw [hnames_eq]
    exact hfound.resolve_spelling
  · intro init c hinit hprefix dir hdir _ target htarget
    rw [hnames_eq] at hprefix
    obtain ⟨l, k, hl, hinit_eq, hname⟩ := exists_of_spelling_prefix hprefix
    have hl_init : l <+: loc := (List.prefix_append l [k]).trans hl
    have hl_ne : l ≠ loc := by
      intro heq
      have hle := hl.length_le
      rw [heq, List.length_append, List.length_singleton] at hle
      omega
    have hl_found : fs.Found l := by
      refine ⟨fun l' hl' hne' => ?_, Or.inl (Tree.isDir_iff.mp (hfound.underDirs l hl_init hl_ne))⟩
      apply hfound.underDirs l' (hl'.trans hl_init)
      intro heq
      rw [heq] at hl'
      exact hl_ne (hl_init.eq_of_length_le hl'.length_le)
    have hdir_eq : dir = l := by
      rw [← hinit_eq, hl_found.resolve_spelling] at hdir
      exact (Option.some.inj hdir).symm
    rw [hdir_eq, ← hname, (hfound.name_key hl).2] at htarget
    -- what is on the way to a place that is found is no link
    by_cases heq : l ++ [k] = loc
    · rw [heq] at htarget
      rcases hfound.there with hthere | ⟨id, hid⟩
      · rw [hthere] at htarget
        cases htarget
      · rw [hid] at htarget
        cases htarget
    · rw [Tree.isDir_iff.mp (hfound.underDirs _ hl heq)] at htarget
      cases htarget

/-! ### Main result -/

theorem checked_of_ok
    (h : validateGivenPath t fs.toWindowsFiles dirs answers path basePath = .ok p)
    (hbase : fs.canonicalize dirs basePath = some base) :
    Checked t fs.toWindowsFiles dirs base path := by
  obtain ⟨hbase_found, hbase_ne⟩ := found_of_canonicalize hbase
  have hwithin : ∀ {q : GivenPath} {loc : Loc}, fs.canonicalize dirs q = some loc →
      isWithin t fs.toWindowsFiles base loc = true → Within t fs.toWindowsFiles base loc := by
    intro q loc hloc hisWithin
    obtain ⟨hfound, hne⟩ := found_of_canonicalize hloc
    exact within_of_isWithin hbase_found hbase_ne hfound hne hisWithin
  obtain ⟨hdots, -, ⟨loc, hloc, hisWithin, -⟩ | ⟨hnone, -, loc, hloc, hisWithin⟩⟩ :=
    validateGivenPath_eq_ok h hbase
  · exact ⟨hdots, loc, hwithin hloc hisWithin, Or.inl hloc⟩
  · exact ⟨hdots, loc, hwithin hloc hisWithin, Or.inr ⟨hnone, hloc⟩⟩

/-- **Where an accepted path leads.**  The place that is checked is in the base in any case.  What
is returned is as promised just if, where the path finds something, Win32 leaves the names of the
place as they are, or they stay inside as it takes them; and where it finds nothing, it has a
parent, starts without a link below the base and comes straight. -/
theorem sound_validateGivenPath_iff
    (h : validateGivenPath t fs.toWindowsFiles dirs answers path basePath = .ok p)
    (hbase : fs.canonicalize dirs basePath = some base) :
    Checked t fs.toWindowsFiles dirs base path ∧
    (Sound t fs.toWindowsFiles dirs base path p ↔
      (∀ loc, fs.canonicalize dirs path = some loc →
        (∀ n ∈ (fs.tree.spelling [] loc).tail, fs.win32Name n = n) ∨
          StaysInside t fs.toWindowsFiles base loc) ∧
      (fs.canonicalize dirs path = none → path.parent.isSome = true ∧
        NoLink t fs.toWindowsFiles base (path.start dirs) ∧
        ComesStraight t fs.toWindowsFiles dirs base path)) := by
  have hchecked := checked_of_ok h hbase
  refine ⟨hchecked, ?_⟩
  obtain ⟨hbase_found, hbase_ne⟩ := found_of_canonicalize hbase
  obtain ⟨hdots, hlinks, hcases⟩ := validateGivenPath_eq_ok h hbase
  obtain ⟨loc, hwithin, hloc⟩ := hchecked.inside
  rcases hcases with ⟨loc', hloc', -, rfl⟩ | ⟨hnone, rfl, -⟩
  · -- the path finds something, and that is what was checked
    have hsame : fs.canonicalize dirs path = some loc := by
      rcases hloc with hloc | ⟨hnone, -⟩
      · exact hloc
      · rw [hnone] at hloc'
        exact nomatch hloc'
    rw [hloc', Option.some.injEq] at hsame
    subst hsame
    obtain ⟨hfound, hne⟩ := found_of_canonicalize hloc'
    obtain ⟨volume, names, hspelling, hnames⟩ := exists_spelling hfound hne
    rw [ofText_canonicalPath hspelling hnames, sound_plainPath_iff hspelling hnames hdots, hloc']
    constructor
    · intro hstays
      refine ⟨fun loc hsome => ?_, fun hnone => absurd hnone (Option.some_ne_none _)⟩
      rw [← Option.some.inj hsome]
      exact Or.inr hstays
    · intro hcond
      rcases hcond.1 loc' rfl with hplain | hstays
      · exact staysInside_of_plain hfound hne hwithin hplain
      · exact hstays
  · -- it finds nothing, and its parent was checked
    have hparent_loc : fs.canonicalize dirs (p.parent.getD .current) = some loc := by
      rcases hloc with hloc | ⟨-, hloc⟩
      · rw [hnone] at hloc
        exact nomatch hloc
      · exact hloc
    rw [hnone]
    constructor
    · intro hsound
      refine ⟨fun _ hsome => absurd hsome (Option.some_ne_none _).symm, fun _ => ?_⟩
      obtain ⟨loc', hform, -⟩ := hsound.inside
      rw [canonicalForm, hnone, Option.none_or] at hform
      obtain ⟨parent, hparent, -⟩ := Option.bind_eq_some_iff.mp hform
      have hisSome : p.parent.isSome = true := by
        rw [hparent]
        rfl
      have habsolute := absolute_of_parent dirs hisSome
      have hlink := hsound.noLink _ habsolute
      refine ⟨hisSome, ?_, comesStraight_of_noLink hbase_found hbase_ne hdots habsolute hlink⟩
      intro l hl
      exact hlink l (hl.mono (List.prefix_append _ _))
    · intro hcond
      obtain ⟨hparent, hstart, hstraight⟩ := hcond.2 rfl
      obtain ⟨parent, hparent⟩ := Option.isSome_iff_exists.mp hparent
      rw [hparent, Option.getD_some] at hparent_loc
      refine ⟨hdots, ⟨loc, ?_, hwithin⟩, ?_⟩
      · rw [canonicalForm, hnone, Option.none_or, hparent, Option.bind_some, hparent_loc]
      · intro absolute habsolute
        exact noLink_of_comesStraight hlinks habsolute hstart hstraight

/-! ### Links that are missed -/

/-- A name without the dots and blanks at its end. -/
def trimName (name : String) : String :=
  String.ofList (name.toList.reverse.dropWhile fun c => c = '.' ∨ c = ' ').reverse

theorem trimName_ne (name : String) : trimName name ≠ ".." := by
  intro h
  have hchars := congrArg (fun s => s.toList.reverse) h
  rw [trimName, String.toList_ofList, List.reverse_reverse] at hchars
  have hdots : "..".toList.reverse = ['.', '.'] := rfl
  have hhead := List.head?_dropWhile_not (fun c => decide (c = '.' ∨ c = ' ')) name.toList.reverse
  rw [hchars, hdots] at hhead
  have hdot : decide ('.' = '.' ∨ '.' = ' ') = false := hhead
  exact absurd hdot (by decide)

/-- A directory with a link to its own drive; with a link to another directory, which a directory
has the name of but for a dot. -/
def linkedEntries : List (Sigma fun _ : Loc => Entry) :=
  [⟨["C:"], "C:", .dir⟩, ⟨["C:", "Other"], "Other", .dir⟩, ⟨["C:", "Base"], "Base", .dir⟩,
    ⟨["C:", "Base", "loop"], "loop", .link ⟨some [], ["C:"]⟩⟩,
    ⟨["C:", "Base", "lnk"], "lnk", .link ⟨some [], ["C:", "Other"]⟩⟩,
    ⟨["C:", "Base", "lnk."], "lnk.", .dir⟩]

/-- Among the entries, there are no files, and links start at the root. -/
theorem linkedEntries_nodes : ∀ x ∈ linkedEntries,
    (∀ id, x.2.node ≠ .file id) ∧ ∀ target, x.2.node = .link target → target.root = some [] := by
  simp [linkedEntries]

/-- The only volume is a drive. -/
theorem linkedEntries_volume {k : String} {e : Entry} (h : ⟨[k], e⟩ ∈ linkedEntries) :
    e.name = driveName 'C' := by
  have hnames : ∀ x ∈ linkedEntries, x.1.length = 1 → x.2.name = driveName 'C' := by decide
  exact hnames _ h rfl

theorem linkedEntries_names {loc : Loc} {k : String} {e : Entry} (hloc : loc ≠ [])
    (h : ⟨loc ++ [k], e⟩ ∈ linkedEntries) : IsName e.name := by
  have hnames : ∀ x ∈ linkedEntries, x.1.length ≠ 1 → IsName x.2.name := by decide
  exact hnames _ h (Tree.length_concat_ne_one hloc)

/-- The files of this machine. -/
def linkedFiles : StoreFiles where
  tree := ⟨fun name => name, ⟨linkedEntries, by
    show (linkedEntries.map Sigma.fst).Nodup
    decide⟩, fun _ => ⟨[], 0⟩⟩
  device := fun _ => []
  win32Name := trimName
  keys := by
    have hkeys : ∀ x ∈ linkedEntries, x.1.getLast? = some x.2.name := by decide
    exact fun loc e h => hkeys ⟨loc, e⟩ (AList.mem_lookup_iff.mp h)
  volumes := by
    intro k e h
    have hmem := AList.mem_lookup_iff.mp h
    exact ⟨linkedEntries_volume hmem ▸ .drive 'C' rfl, (linkedEntries_nodes _ hmem).1⟩
  names := fun _ _ _ hloc h => linkedEntries_names hloc (AList.mem_lookup_iff.mp h)
  links := Tree.rootedLinks_of_root fun _ _ he =>
    (linkedEntries_nodes _ (AList.mem_lookup_iff.mp he)).2
  ofVolume := fun k e h =>
    ⟨.drive 'C' rfl, linkedEntries_volume (AList.mem_lookup_iff.mp h)⟩
  win32Name_ne := fun name _ => trimName_ne name

/-- The root of the drive is the current directory. -/
def driveDirs : CurrentDirs where
  volume := .disk 'C'
  comps := []
  ofDrive := fun _ => []
  comps_ne := fun _ h => nomatch h
  ofDrive_ne := fun _ _ h => nomatch h

/-- The file can be opened. -/
def readable : ValidationAnswers := ⟨"", .ok ()⟩

/-- What is returned for a path. -/
def validated (path : String) : Except SnapshotError GivenPath :=
  validateGivenPath letterCase linkedFiles.toWindowsFiles driveDirs readable (.ofText path.toList)
    (.ofText "C:\\Base".toList)

/-- A path through a link that leads back to the base is accepted; and the directory that has the
name with the dot is returned under the name of the link. -/
theorem linkedFiles_not_sound :
    linkedFiles.canonicalize driveDirs (.ofText "C:\\Base".toList) = some ["C:", "Base"] ∧
    (validated "C:\\Base\\loop\\Base\\new.json" =
        .ok ⟨⟨some (.disk 'C'), true, ["Base", "loop", "Base", "new.json"]⟩, false⟩ ∧
      ¬ Sound letterCase linkedFiles.toWindowsFiles driveDirs ["C:", "Base"]
        (.ofText "C:\\Base\\loop\\Base\\new.json".toList)
        ⟨⟨some (.disk 'C'), true, ["Base", "loop", "Base", "new.json"]⟩, false⟩) ∧
    (validated "\\\\?\\C:\\Base\\lnk." = .ok ⟨⟨some (.disk 'C'), true, ["Base", "lnk."]⟩, false⟩ ∧
      ¬ Sound letterCase linkedFiles.toWindowsFiles driveDirs ["C:", "Base"]
        (.ofText "\\\\?\\C:\\Base\\lnk.".toList)
        ⟨⟨some (.disk 'C'), true, ["Base", "lnk."]⟩, false⟩) := by
  have hbase : linkedFiles.canonicalize driveDirs (.ofText "C:\\Base".toList) =
      some ["C:", "Base"] := by decide +kernel
  have hloop : validated "C:\\Base\\loop\\Base\\new.json" =
      .ok ⟨⟨some (.disk 'C'), true, ["Base", "loop", "Base", "new.json"]⟩, false⟩ := by
    decide +kernel
  have hdot : validated "\\\\?\\C:\\Base\\lnk." =
      .ok ⟨⟨some (.disk 'C'), true, ["Base", "lnk."]⟩, false⟩ := by decide +kernel
  refine ⟨hbase, ⟨hloop, fun h => ?_⟩, ⟨hdot, fun h => ?_⟩⟩
  · have hentry : linkedFiles.entry ⟨some (.disk 'C'), true, ["Base", "loop"]⟩ =
        some ["C:", "Base", "loop"] := by decide +kernel
    have hwithin : StrictlyWithin letterCase linkedFiles.toWindowsFiles ["C:", "Base"]
        ["C:", "Base", "loop"] := by decide +kernel
    have hnode : linkedFiles.tree.node ["C:", "Base", "loop"] = some (.link ⟨some [], ["C:"]⟩) := by
      decide +kernel
    exact h.noLink _ rfl _ ⟨["Base", "loop"], by decide, hentry⟩ hwithin _ hnode
  · have hentry : linkedFiles.entry ⟨some (.disk 'C'), true, ["Base", "lnk."]⟩ =
        some ["C:", "Base", "lnk"] := by decide +kernel
    have hwithin : StrictlyWithin letterCase linkedFiles.toWindowsFiles ["C:", "Base"]
        ["C:", "Base", "lnk"] := by decide +kernel
    have hnode : linkedFiles.tree.node ["C:", "Base", "lnk"] =
        some (.link ⟨some [], ["C:", "Other"]⟩) := by decide +kernel
    exact h.noLink _ rfl _ ⟨["Base", "lnk."], by decide, hentry⟩ hwithin _ hnode

/-- Only the directory itself is the base, among it, a file in it and what is above. -/
theorem linkedFiles_comesStraight : ComesStraight letterCase linkedFiles.toWindowsFiles driveDirs
    ["C:", "Base"] (.ofText "C:\\Base\\new.json".toList) := by
  intro q hq hisBase absolute habsolute l hl
  have hself : ∀ q ∈ (GivenPath.ofText "C:\\Base\\new.json".toList).ancestors,
      isBase linkedFiles.toWindowsFiles driveDirs ["C:", "Base"] q = true →
        q.absolute driveDirs = some ⟨some (.disk 'C'), true, ["Base"]⟩ := by decide +kernel
  rw [hself q hq hisBase] at habsolute
  obtain rfl := Option.some.inj habsolute
  obtain ⟨comps, hcomps, hentry⟩ := hl
  have hplaces : ∀ comps ∈ ["Base"].inits, ∀ l ∈ linkedFiles.entry ⟨some (.disk 'C'), true, comps⟩,
      ¬ StrictlyWithin letterCase linkedFiles.toWindowsFiles ["C:", "Base"] l := by decide +kernel
  exact hplaces comps ((List.mem_inits _ _).mpr hcomps) l hentry

/-- What is accepted for a new file of the base, and for the base itself, is as promised. -/
theorem sound_validateGivenPath_new :
    validated "C:\\Base\\new.json" = .ok (.ofText "C:\\Base\\new.json".toList) ∧
      Sound letterCase linkedFiles.toWindowsFiles driveDirs ["C:", "Base"]
        (.ofText "C:\\Base\\new.json".toList) (.ofText "C:\\Base\\new.json".toList) ∧
      validated "\\\\?\\C:\\Base" = .ok (.ofText "C:\\Base".toList) ∧
      Sound letterCase linkedFiles.toWindowsFiles driveDirs ["C:", "Base"]
        (.ofText "\\\\?\\C:\\Base".toList) (.ofText "C:\\Base".toList) := by
  have hbase : linkedFiles.canonicalize driveDirs (.ofText "C:\\Base".toList) =
      some ["C:", "Base"] := by decide +kernel
  have hnew : validated "C:\\Base\\new.json" = .ok (.ofText "C:\\Base\\new.json".toList) := by
    decide +kernel
  have hself : validated "\\\\?\\C:\\Base" = .ok (.ofText "C:\\Base".toList) := by decide +kernel
  refine ⟨hnew, ?_, hself, ?_⟩
  · apply (sound_validateGivenPath_iff hnew hbase).2.mpr
    have hnone :
        linkedFiles.canonicalize driveDirs (.ofText "C:\\Base\\new.json".toList) = none := by
      decide +kernel
    refine ⟨fun loc hsome => absurd (hsome.symm.trans hnone) (Option.some_ne_none _), fun _ => ?_⟩
    refine ⟨by decide +kernel, ?_, linkedFiles_comesStraight⟩
    rintro l ⟨comps, hcomps, hentry⟩
    have hstart : ((GivenPath.ofText "C:\\Base\\new.json".toList).start driveDirs) =
        ⟨some (.disk 'C'), true, []⟩ := by decide +kernel
    rw [hstart] at hcomps hentry
    rw [List.prefix_nil.mp hcomps] at hentry
    exact nomatch hentry
  · apply (sound_validateGivenPath_iff hself hbase).2.mpr
    have hfound : linkedFiles.canonicalize driveDirs (.ofText "\\\\?\\C:\\Base".toList) =
        some ["C:", "Base"] := by decide +kernel
    rw [hfound]
    refine ⟨fun loc hsome => Or.inl ?_, fun hnone => absurd hnone (Option.some_ne_none _)⟩
    rw [← Option.some.inj hsome]
    decide +kernel

end ValOpt
