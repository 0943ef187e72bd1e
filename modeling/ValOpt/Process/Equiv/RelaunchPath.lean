import ValOpt.Process.RelaunchPath
import ValOpt.Text.Lowercase

/-!
# What a validated path names

`Accepts` gathers what `validate_relaunch_path` has checked of a path, and the place it leads to
(`validateRelaunchPath_eq_ok`).  The path that is returned is made from the names on the way to this
place: those of a file on a drive are read back as they are (`parsePath_plainText_drive`), and those
of a file on a share become a path that is not absolute (`isAbsolute_plainText_share`).  Nothing was
checked of the last of the names, so whether the result is fit to be relaunched depends on it
(`relaunchable_iff_plainTarget`).  What was checked of the text holds of it where the text ends in
the file's own name, in whatever case (`plainTarget_of_ownName`).
-/

namespace ValOpt

open FileTree Text

variable {fs : WindowsFiles} {s p : String} {loc : Loc}

/-! ### The statement -/

/-- What is promised of a path: it is absolute, names a regular file with this extension, and its
file name is not protected. -/
structure Relaunchable (fs : WindowsFiles) (p : String) : Prop where
  absolute : (parsePath p.toList).isAbsolute = true
  file : ∃ loc id, fs.locate (parsePath p.toList) = some loc ∧ fs.tree.node loc = some (.file id)
  extension : ((parsePath p.toList).extension.any fun ext => eqIgnoreAsciiCase ext "exe") = true
  unprotected : classifyProcess ((parsePath p.toList).fileName.getD "") ≠ .tier0Protected

/-- What was checked of a path that is accepted: it leads to a file. -/
structure Accepts (fs : WindowsFiles) (s : String) (loc : Loc) : Prop where
  absolute : (parsePath (trimMatches isWhitespace s.toList)).isAbsolute = true
  extension : ((parsePath (trimMatches isWhitespace s.toList)).extension.any
    fun ext => eqIgnoreAsciiCase ext "exe") = true
  locate : fs.locate (parsePath (trimMatches isWhitespace s.toList)) = some loc
  file : ∃ id, fs.tree.node loc = some (.file id)
  unprotected : classifyProcess
    ((parsePath (trimMatches isWhitespace s.toList)).fileName.getD "") ≠ .tier0Protected

/-- The file is on a drive, under a name that may be relaunched; and its names, taken as they are
when they are not verbatim, lead to a file. -/
structure PlainTarget (fs : WindowsFiles) (loc : Loc) : Prop where
  drive : ∃ drive names, fs.tree.spelling [] loc = driveName drive :: names ∧
    ∃ loc' id, fs.tree.resolve [] (driveName drive :: fs.plainComps names) = some loc' ∧
      fs.tree.node loc' = some (.file id)
  extension : (((fs.tree.spelling [] loc).getLast?.bind extensionOf).any
    fun ext => eqIgnoreAsciiCase ext "exe") = true
  unprotected : classifyProcess ((fs.tree.spelling [] loc).getLast?.getD "") ≠ .tier0Protected

/-! ### The checks -/

/-- The path that is returned for a file. -/
def plainText (fs : WindowsFiles) (loc : Loc) : String :=
  String.ofList (joinNames (fs.tree.spelling [] loc))

theorem stripVerbatim_canonicalText :
    String.ofList (stripVerbatim (fs.canonicalText loc)) = plainText fs loc := by
  rw [stripVerbatim, WindowsFiles.canonicalText, if_pos (List.prefix_append _ _)]
  rfl

/-- What is found is a directory or a file. -/
theorem existing_eq_some {path : WindowsPath} (hdir : fs.tree.isDir loc = false) :
    fs.existing path = some loc ↔
      fs.locate path = some loc ∧ ∃ id, fs.tree.node loc = some (.file id) := by
  have hnotDir : fs.tree.node loc ≠ some .dir := by
    intro h
    rw [Tree.isDir_iff.mpr h] at hdir
    exact Bool.noConfusion hdir
  rw [WindowsFiles.existing_eq_some_iff]
  apply and_congr_right'
  exact or_iff_right hnotDir

theorem validateRelaunchPath_eq_ok :
    validateRelaunchPath fs s = .ok p ↔ ∃ loc, Accepts fs s loc ∧ p = plainText fs loc := by
  have hempty : trimMatches isWhitespace s.toList = [] →
      (parsePath (trimMatches isWhitespace s.toList)).isAbsolute = false := by
    intro h
    rw [h]
    rfl
  rw [validateRelaunchPath]
  dsimp only
  generalize htrimmed : trimMatches isWhitespace s.toList = trimmed
  -- The checks stand in the order of the source; the text is absolute only if it is not empty,
  -- which takes care of the first.
  constructor
  · intro h
    split at h
    · exact nomatch h
    split at h
    · exact nomatch h
    next habsolute =>
    split at h
    · exact nomatch h
    next hextension =>
    split at h
    · exact nomatch h
    next loc hexisting =>
    split at h
    · exact nomatch h
    next hdir =>
    split at h
    · exact nomatch h
    next hprotected =>
    obtain ⟨hlocate, hfile⟩ := (existing_eq_some (Bool.eq_false_iff.mpr hdir)).mp hexisting
    subst htrimmed
    refine ⟨loc, ⟨?_, ?_, hlocate, hfile, hprotected⟩, ?_⟩
    · simpa using habsolute
    · simpa using hextension
    · rw [← stripVerbatim_canonicalText]
      exact (Except.ok.inj h).symm
  · rintro ⟨loc, haccepts, rfl⟩
    obtain ⟨habsolute, hextension, hlocate, hfile, hunprotected⟩ := haccepts
    rw [htrimmed] at habsolute hextension hlocate hunprotected hempty
    have hdir : fs.tree.isDir loc = false := by
      apply Bool.eq_false_iff.mpr
      intro h
      obtain ⟨id, hid⟩ := hfile
      rw [Tree.isDir_iff.mp h] at hid
      exact nomatch hid
    rw [if_neg, habsolute, hextension, (existing_eq_some hdir).mpr ⟨hlocate, hfile⟩]
    · dsimp only
      rw [hdir, if_neg hunprotected, stripVerbatim_canonicalText]
      rfl
    · intro h
      rw [hempty h] at habsolute
      exact Bool.noConfusion habsolute

/-! ### The names on the way to a file -/

theorem Accepts.found (h : Accepts fs s loc) : fs.Found loc :=
  ⟨WindowsFiles.underDirs_of_locate h.locate, Or.inr h.file⟩

/-- The file is on a volume: its names are that of the volume and those of files. -/
theorem Accepts.spelling (h : Accepts fs s loc) : ∃ volume names,
    fs.tree.spelling [] loc = volume :: names ∧ IsVolumeName volume ∧ names ≠ [] ∧
      ∀ n ∈ names, IsName n := by
  obtain ⟨id, hid⟩ := h.file
  cases loc with
  | nil => exact absurd hid (by rw [FileTree.Tree.node_nil]; exact fun h => nomatch h)
  | cons k ks =>
    obtain ⟨e, he, hspelling, hnames⟩ := h.found.spelling
    obtain ⟨hvolume, hnotFile⟩ := fs.volumes k e he
    refine ⟨e.name, fs.tree.spelling [k] ks, hspelling, hvolume, ?_, hnames⟩
    cases ks with
    | nil =>
      rw [FileTree.Tree.node, if_neg (List.cons_ne_nil k []), he] at hid
      exact absurd (Option.some.inj hid) (hnotFile id)
    | cons k' ks => exact List.cons_ne_nil _ _

/-! ### Reading the path back -/

/-- The path of a file on a drive. -/
theorem parsePath_plainText_drive {drive : Char} {names : List String}
    (hdrive : drive.isUpper = true)
    (hnil : names ≠ []) (hnames : ∀ n ∈ names, IsName n)
    (h : fs.tree.spelling [] loc = driveName drive :: names) :
    parsePath (plainText fs loc).toList = ⟨some (.disk drive), true, names⟩ := by
  obtain ⟨n, names, rfl⟩ := List.exists_cons_of_ne_nil hnil
  rw [plainText, String.toList_ofList, h, joinNames_cons_cons, driveName, String.toList_ofList]
  exact parsePath_drive hdrive hnames

/-- The path of a file on a share is not absolute. -/
theorem isAbsolute_plainText_share {server share : String} {names : List String} (hnil : names ≠ [])
    (h : fs.tree.spelling [] loc = shareName server share :: names) :
    (parsePath (plainText fs loc).toList).isAbsolute = false := by
  obtain ⟨n, names, rfl⟩ := List.exists_cons_of_ne_nil hnil
  have htext : ∃ rest, (plainText fs loc).toList = 'U' :: 'N' :: rest := by
    rw [plainText, String.toList_ofList, h, joinNames_cons_cons, shareName]
    simp
  obtain ⟨rest, htext⟩ := htext
  rw [htext, WindowsPath.isAbsolute, volume_parsePath (by decide) (by decide)]

/-! ### The result -/

/-- The path that is returned for a file is fit to be relaunched just if the file is on a drive and
its own name is. -/
theorem Accepts.relaunchable_iff (h : Accepts fs s loc) :
    Relaunchable fs (plainText fs loc) ↔ PlainTarget fs loc := by
  obtain ⟨volume, names, hspelling, hvolume, hnil, hnames⟩ := h.spelling
  cases hvolume with
  | share server share =>
    apply iff_of_false
    · intro hrelaunch
      have habsolute := hrelaunch.absolute
      rw [isAbsolute_plainText_share hnil hspelling] at habsolute
      exact Bool.noConfusion habsolute
    · rintro ⟨⟨drive, names', hdrive, -⟩, -, -⟩
      rw [hspelling] at hdrive
      -- a drive has two characters
      have hchars := congrArg String.toList (List.cons.inj hdrive).1
      rw [driveName, String.toList_ofList, shareName] at hchars
      simp at hchars
  | drive drive hdrive =>
    have hparse := parsePath_plainText_drive hdrive hnil hnames hspelling
    have hlast : names.getLast? = (fs.tree.spelling [] loc).getLast? := by
      rw [hspelling, List.getLast?_cons_of_ne_nil hnil]
    have hfileName : (parsePath (plainText fs loc).toList).fileName =
        (fs.tree.spelling [] loc).getLast? := by
      have hn := List.getLast?_eq_some_getLast hnil
      have hname := hnames _ (List.getLast_mem hnil)
      rw [hparse, WindowsPath.fileName, ← hlast]
      show names.getLast?.filter (fun c => decide (c ≠ ".." ∧ c ≠ ".")) = names.getLast?
      rw [hn, Option.filter_some, if_pos (decide_eq_true ⟨hname.ne_dotdot, hname.ne_dot⟩)]
    have hlocate : fs.locate (parsePath (plainText fs loc).toList) =
        fs.tree.resolve [] (driveName drive :: fs.plainComps names) := by
      rw [hparse]
      rfl
    constructor
    · intro hrelaunch
      obtain ⟨loc', id, hloc', hid⟩ := hrelaunch.file
      rw [hlocate] at hloc'
      refine ⟨⟨drive, names, hspelling, loc', id, hloc', hid⟩, ?_, ?_⟩
      · rw [← hfileName]
        exact hrelaunch.extension
      · rw [← hfileName]
        exact hrelaunch.unprotected
    · intro htarget
      obtain ⟨drive', names', hspelling', loc', id, hloc', hid⟩ := htarget.drive
      rw [hspelling] at hspelling'
      obtain ⟨hname, rfl⟩ := List.cons.inj hspelling'
      refine ⟨by rw [hparse]; rfl, ⟨loc', id, ?_, hid⟩, ?_, ?_⟩
      · rw [hlocate, hname]
        exact hloc'
      · rw [WindowsPath.extension, hfileName]
        exact htarget.extension
      · rw [hfileName]
        exact htarget.unprotected

/-! ### What the checks of the text say of the file -/

theorem extensionOf_asciiLower (s : String) :
    extensionOf (String.ofList (asciiLower s)) =
      (extensionOf s).map fun ext => String.ofList (asciiLower ext) := by
  have hdot : (fun c => decide (c ≠ '.')) ∘ Char.toLower = fun c => decide (c ≠ '.') := by
    funext c
    exact decide_eq_decide.mpr (not_congr (CaseTable.toLower_eq_iff (by decide) (by decide)))
  have hmem : '.' ∈ asciiLower s ↔ '.' ∈ s.toList := by
    rw [asciiLower, List.mem_map]
    constructor
    · rintro ⟨c, hc, hlower⟩
      rwa [(CaseTable.toLower_eq_iff (by decide) (by decide)).mp hlower] at hc
    · exact fun h => ⟨'.', h, by decide⟩
  have hbefore : ((asciiLower s).reverse.dropWhile (· ≠ '.')).drop 1 =
      ((s.toList.reverse.dropWhile (· ≠ '.')).drop 1).map Char.toLower := by
    rw [asciiLower, ← List.map_reverse, List.dropWhile_map, hdot, List.map_drop]
  have hafter : ((asciiLower s).reverse.takeWhile (· ≠ '.')).reverse =
      (s.toList.reverse.takeWhile (· ≠ '.')).reverse.map Char.toLower := by
    rw [asciiLower, ← List.map_reverse, List.takeWhile_map, hdot, List.map_reverse]
  simp only [extensionOf, String.toList_ofList, hmem, hbefore, hafter, ne_eq, List.map_eq_nil_iff]
  split
  · rw [Option.map_some, asciiLower, String.toList_ofList]
  · rfl

/-- Names that are equal up to case have the same extension up to case. -/
theorem any_extensionOf_congr {s t : String} (h : eqIgnoreAsciiCase s t = true) (ext : String) :
    ((extensionOf s).any fun e => eqIgnoreAsciiCase e ext) =
      (extensionOf t).any fun e => eqIgnoreAsciiCase e ext := by
  have hlower : ∀ name, ((extensionOf name).any fun e => eqIgnoreAsciiCase e ext) =
      (extensionOf (String.ofList (asciiLower name))).any fun e => e.toList == asciiLower ext := by
    intro name
    rw [extensionOf_asciiLower]
    cases extensionOf name with
    | none => rfl
    | some e => simp [eqIgnoreAsciiCase]
  rw [hlower, hlower, eqIgnoreAsciiCase_iff.mp h]

/-- Names that are equal up to case are classified alike. -/
theorem classifyProcess_congr {s t : String} (h : eqIgnoreAsciiCase s t = true) :
    classifyProcess s = classifyProcess t := by
  have hchar : (fun c : Char => if c.toNat = 0x212A then 'k' else c.toLower) ∘ Char.toLower =
      fun c => if c.toNat = 0x212A then 'k' else c.toLower := by
    funext c
    refine apply_toLower (f := fun c : Char => if c.toNat = 0x212A then 'k' else c.toLower) ?_ c
    intro c hc
    have hlower := toNat_toLower_lt hc
    rw [if_neg (by omega), if_neg (by omega), CaseTable.toLower_toLower]
  have hlower : ∀ name : String, toLowercase name = String.ofList ((asciiLower name).map
      fun c => if c.toNat = 0x212A then 'k' else c.toLower) := by
    intro name
    rw [asciiLower, List.map_map, hchar, ← String.toList_inj, String.toList_ofList, toLowercase,
      String.toList_map]
  rw [classifyProcess, classifyProcess, hlower, hlower, eqIgnoreAsciiCase_iff.mp h]

/-- **Where the checks of the text suffice.**  The file is on a drive, the system leaves its names
as they are, and the text ends in its own name, in whatever case. -/
theorem Accepts.plainTarget_of_ownName (h : Accepts fs s loc) {drive : Char} {names : List String}
    (hspelling : fs.tree.spelling [] loc = driveName drive :: names)
    (hplain : ∀ n ∈ names, fs.win32Name n = n) {own given : String}
    (hown : (fs.tree.spelling [] loc).getLast? = some own)
    (hgiven : (parsePath (trimMatches isWhitespace s.toList)).fileName = some given)
    (hcase : eqIgnoreAsciiCase given own = true) : PlainTarget fs loc := by
  obtain ⟨volume, names', hspelling', -, -, hnames⟩ := h.spelling
  rw [hspelling] at hspelling'
  obtain ⟨-, rfl⟩ := List.cons.inj hspelling'
  obtain ⟨id, hid⟩ := h.file
  refine ⟨⟨drive, names, hspelling, loc, id, ?_, hid⟩, ?_, ?_⟩
  · rw [WindowsFiles.plainComps_eq_self hnames hplain, ← hspelling]
    exact h.found.resolve_spelling
  · have hextension := h.extension
    rw [WindowsPath.extension, hgiven, Option.bind_some, any_extensionOf_congr hcase] at hextension
    rw [hown]
    exact hextension
  · have hunprotected := h.unprotected
    rw [hgiven, Option.getD_some, classifyProcess_congr hcase] at hunprotected
    rw [hown]
    exact hunprotected

/-- What `validate_relaunch_path` returns is fit to be relaunched just if each place that it accepts
is a plain target.  There the names that the system does not change lead back to the file. -/
theorem relaunchable_iff_plainTarget (fs : WindowsFiles) (s : String) :
    ((∀ p, validateRelaunchPath fs s = .ok p → Relaunchable fs p) ↔
      ∀ loc, Accepts fs s loc → PlainTarget fs loc) ∧
    ∀ loc drive names, Accepts fs s loc → fs.tree.spelling [] loc = driveName drive :: names →
      (∀ n ∈ names, fs.win32Name n = n) →
      fs.tree.resolve [] (driveName drive :: fs.plainComps names) = some loc ∧
        ∃ id, fs.tree.node loc = some (.file id) := by
  constructor
  · constructor
    · intro h loc haccepts
      exact haccepts.relaunchable_iff.mp
        (h _ (validateRelaunchPath_eq_ok.mpr ⟨loc, haccepts, rfl⟩))
    · intro h p hp
      obtain ⟨loc, haccepts, rfl⟩ := validateRelaunchPath_eq_ok.mp hp
      exact haccepts.relaunchable_iff.mpr (h loc haccepts)
  · intro loc drive names haccepts hspelling hplain
    obtain ⟨volume, names', hspelling', -, -, hnames⟩ := haccepts.spelling
    rw [hspelling] at hspelling'
    obtain ⟨-, rfl⟩ := List.cons.inj hspelling'
    rw [WindowsFiles.plainComps_eq_self hnames hplain, ← hspelling]
    exact ⟨haccepts.found.resolve_spelling, haccepts.file⟩

/-- The entries of a machine on which `app.exe` is a link to a protected program, and `Z:` a
share. -/
def mappedEntries : List (Sigma fun _ : Loc => Entry) :=
  [⟨["C:"], ⟨"C:", .dir⟩⟩, ⟨["C:", "csrss.exe"], ⟨"csrss.exe", .file 0⟩⟩,
    ⟨["C:", "steam.exe"], ⟨"steam.exe", .file 2⟩⟩,
    ⟨["C:", "app.exe"], ⟨"app.exe", .link ⟨some [], ["C:", "csrss.exe"]⟩⟩⟩,
    ⟨["UNC\\nas\\apps"], ⟨"UNC\\nas\\apps", .dir⟩⟩,
    ⟨["UNC\\nas\\apps", "app.exe"], ⟨"app.exe", .file 1⟩⟩,
    ⟨["Z:"], ⟨"Z:", .link ⟨some [], ["UNC\\nas\\apps"]⟩⟩⟩]

/-- Among the entries, volumes are no files, and links start at the root. -/
theorem mappedEntries_nodes : ∀ x ∈ mappedEntries,
    (∀ id, x.2.node = .file id → x.1.length ≠ 1) ∧
      ∀ target, x.2.node = .link target → target.root = some [] := by
  simp [mappedEntries]

theorem mappedEntries_names {loc : Loc} {k : String} {e : Entry} (hloc : loc ≠ [])
    (h : ⟨loc ++ [k], e⟩ ∈ mappedEntries) : IsName e.name := by
  have hnames : ∀ x ∈ mappedEntries, x.1.length ≠ 1 → IsName x.2.name := by decide
  exact hnames _ h (Tree.length_concat_ne_one hloc)

/-- The files of this machine. -/
def mappedFiles : WindowsFiles where
  tree := ⟨fun name => name, ⟨mappedEntries, by
    show (mappedEntries.map Sigma.fst).Nodup
    decide⟩, fun _ => ⟨[], 0⟩⟩
  device := fun _ => []
  win32Name := fun name => name
  keys := by
    have hkeys : ∀ x ∈ mappedEntries, x.1.getLast? = some x.2.name := by decide
    exact fun loc e h => hkeys ⟨loc, e⟩ (AList.mem_lookup_iff.mp h)
  volumes := by
    have hnames : ∀ x ∈ mappedEntries, x.1.length = 1 →
        x.2.name = driveName 'C' ∨ x.2.name = driveName 'Z' ∨
          x.2.name = shareName "nas" "apps" := by
      decide
    intro k e h
    have hmem := AList.mem_lookup_iff.mp h
    refine ⟨?_, fun id hid => (mappedEntries_nodes _ hmem).1 id hid rfl⟩
    rcases hnames _ hmem rfl with heq | heq | heq
    · exact heq ▸ .drive 'C' rfl
    · exact heq ▸ .drive 'Z' rfl
    · exact heq ▸ .share "nas" "apps"
  names := fun _ _ _ hloc h => mappedEntries_names hloc (AList.mem_lookup_iff.mp h)
  links := Tree.rootedLinks_of_root fun _ _ he =>
    (mappedEntries_nodes _ (AList.mem_lookup_iff.mp he)).2

/-- What is returned for the link is a protected program, and for the file on the share a path that
is not absolute. -/
theorem mappedFiles_not_relaunchable :
    (validateRelaunchPath mappedFiles "C:\\app.exe" = .ok "C:\\csrss.exe" ∧
      ¬ Relaunchable mappedFiles "C:\\csrss.exe") ∧
    (validateRelaunchPath mappedFiles "Z:\\app.exe" = .ok "UNC\\nas\\apps\\app.exe" ∧
      ¬ Relaunchable mappedFiles "UNC\\nas\\apps\\app.exe") := by
  have hlink : validateRelaunchPath mappedFiles "C:\\app.exe" = .ok "C:\\csrss.exe" := by
    decide +kernel
  have hprotected : classifyProcess ((parsePath "C:\\csrss.exe".toList).fileName.getD "") =
      .tier0Protected := by decide +kernel
  have hshare : validateRelaunchPath mappedFiles "Z:\\app.exe" =
      .ok "UNC\\nas\\apps\\app.exe" := by decide +kernel
  refine ⟨⟨hlink, fun h => h.unprotected hprotected⟩, ⟨hshare, fun h => ?_⟩⟩
  exact absurd h.absolute (by decide)

end ValOpt
