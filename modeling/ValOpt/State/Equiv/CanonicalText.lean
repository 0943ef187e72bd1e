import ValOpt.State.SnapshotPath

/-!
# What the texts of canonical paths say

`validate_snapshot_path` compares the texts of canonical paths, in lower case and without the
verbatim prefix.  A place is `Within` another if its names continue those of the other, in lower
case.

The text of a place is made of the parts of its volume and of its names, each with a backslash at
its end (`closed_normText`), and no part has a backslash.  So the comparison of the texts finds what
is within the base, and nothing beside it (`within_of_isWithin`).
-/

namespace ValOpt

open FileTree Text

/-! ### Volumes -/

/-- A volume: a drive, or the share of a machine. -/
inductive Volume
  | drive (drive : Char) (h : drive.isUpper = true)
  | share (server share : String) (hserver : IsName server) (hquery : server ≠ "?")
      (hshare : IsName share)

namespace Volume

/-- The name in verbatim paths. -/
def name : Volume → String
  | drive letter _ => driveName letter
  | share server folder _ _ _ => shareName server folder

/-- The prefix of other paths. -/
def pathPrefix : Volume → PathPrefix
  | drive letter _ => .disk letter
  | share server folder _ _ _ => .unc server folder

/-- What is between the backslashes of this prefix. -/
def parts : Volume → List String
  | drive letter _ => [driveName letter]
  | share server folder _ _ _ => ["", "", server, folder]

theorem not_isVerbatim (volume : Volume) : volume.pathPrefix.isVerbatim = false := by
  cases volume with
  | drive letter h => rfl
  | share server share hserver hquery hshare => rfl

theorem volumeComps_pathPrefix (fs : WindowsFiles) (volume : Volume) :
    fs.volumeComps volume.pathPrefix = [volume.name] := by
  cases volume with
  | drive letter h => rfl
  | share server share hserver hquery hshare => rfl

end Volume

theorem not_mem_of_isName {n : String} (h : IsName n) : '\\' ∉ n.toList := by
  intro hmem
  have hseparator := h.not_separator '\\' hmem
  exact absurd hseparator (by decide)

theorem Volume.not_mem_parts (volume : Volume) : ∀ s ∈ volume.parts, '\\' ∉ s.toList := by
  intro s hs
  cases volume with
  | drive drive h =>
    rw [List.mem_singleton.mp hs, driveName, String.toList_ofList]
    intro hmem
    rcases List.mem_cons.mp hmem with heq | hmem
    · rw [← heq] at h
      exact absurd h (by decide)
    · exact absurd (List.mem_singleton.mp hmem) (by decide)
  | share server share hserver hquery hshare =>
    simp only [Volume.parts, List.mem_cons, List.not_mem_nil, or_false] at hs
    rcases hs with rfl | rfl | rfl | rfl
    · exact List.not_mem_nil
    · exact List.not_mem_nil
    · exact not_mem_of_isName hserver
    · exact not_mem_of_isName hshare

/-- Files on such volumes.  What the system makes of a component never leads up. -/
structure StoreFiles extends WindowsFiles where
  ofVolume : ∀ k e, tree.entries.lookup [k] = some e → ∃ volume : Volume, e.name = volume.name
  win32Name_ne : ∀ c, c ≠ ".." → win32Name c ≠ ".."

/-! ### Places within another -/

/-- A name in lower case. -/
def lowerName (t : CaseTable) (n : String) : List Char := t.toLowercase n.toList

/-- The place is the base or below it, up to the case of the names. -/
def Within (t : CaseTable) (fs : WindowsFiles) (base loc : Loc) : Prop :=
  (fs.tree.spelling [] base).map (lowerName t) <+: (fs.tree.spelling [] loc).map (lowerName t)

/-- The place is below the base. -/
def StrictlyWithin (t : CaseTable) (fs : WindowsFiles) (base loc : Loc) : Prop :=
  Within t fs base loc ∧ base.length < loc.length

instance (t : CaseTable) (fs : WindowsFiles) (base loc : Loc) : Decidable (Within t fs base loc) :=
  inferInstanceAs (Decidable (_ <+: _))

instance (t : CaseTable) (fs : WindowsFiles) (base loc : Loc) :
    Decidable (StrictlyWithin t fs base loc) :=
  inferInstanceAs (Decidable (_ ∧ _))

variable {t : CaseTable} {fs : StoreFiles} {base loc : Loc} {names : List String} {volume : Volume}

theorem length_spelling (tree : FileTree.Tree Bytes) (loc ks : Loc) :
    (tree.spelling loc ks).length = ks.length := by
  induction ks generalizing loc with
  | nil => rfl
  | cons k ks ih =>
    show (tree.spelling (loc ++ [k]) ks).length + 1 = _
    rw [ih, List.length_cons]

theorem spelling_append (tree : FileTree.Tree Bytes) (loc ks ks' : Loc) :
    tree.spelling loc (ks ++ ks') = tree.spelling loc ks ++ tree.spelling (loc ++ ks) ks' := by
  induction ks generalizing loc with
  | nil => rw [List.append_nil]; rfl
  | cons k ks ih =>
    have hkeys : loc ++ k :: ks = (loc ++ [k]) ++ ks := by rw [List.append_assoc]; rfl
    show tree.nameAt (loc ++ [k]) :: tree.spelling (loc ++ [k]) (ks ++ ks') = _
    rw [ih, hkeys]
    rfl

/-- What is below a place within the base is below the base. -/
theorem StrictlyWithin.concat (h : StrictlyWithin t fs.toWindowsFiles base loc) (k : String) :
    StrictlyWithin t fs.toWindowsFiles base (loc ++ [k]) := by
  obtain ⟨hwithin, hlength⟩ := h
  constructor
  · rw [Within, spelling_append, List.map_append]
    exact hwithin.trans (List.prefix_append _ _)
  · rw [List.length_append]
    exact Nat.lt_add_right 1 hlength

theorem Within.length_le (h : Within t fs.toWindowsFiles base loc) : base.length ≤ loc.length := by
  have hle := List.IsPrefix.length_le h
  rw [List.length_map, List.length_map, length_spelling, length_spelling] at hle
  exact hle

/-- A place that is found is named by its volume and the names of files. -/
theorem exists_spelling (h : fs.Found loc) (hne : loc ≠ []) :
    ∃ (volume : Volume) (names : List String),
    fs.tree.spelling [] loc = volume.name :: names ∧ ∀ n ∈ names, IsName n := by
  obtain ⟨k, ks, rfl⟩ := List.exists_cons_of_ne_nil hne
  obtain ⟨e, he, hspelling, hnames⟩ := h.spelling
  obtain ⟨volume, hvolume⟩ := fs.ofVolume k e he
  rw [hvolume] at hspelling
  exact ⟨volume, _, hspelling, hnames⟩

/-! ### The text of a place -/

/-- The prefix of a volume is made of its parts. -/
theorem terminated_parts (volume : Volume) :
    (prefixText volume.pathPrefix).toList ++ ['\\'] =
      terminated (volume.parts.map String.toList) := by
  cases volume with
  | drive drive h =>
    show (driveName drive).toList ++ ['\\'] = terminated [(driveName drive).toList]
    rw [terminated_cons]
    rfl
  | share server share hserver hquery hshare =>
    simp [Volume.pathPrefix, Volume.parts, prefixText, terminated]

/-- The canonical path of a place, with a backslash after the volume. -/
theorem canonicalPath_eq (hspelling : fs.tree.spelling [] loc = volume.name :: names) :
    fs.canonicalPath loc = "\\\\?\\".toList ++ (volume.name.toList ++ '\\' :: joinNames names) := by
  have hlength := length_spelling fs.tree [] loc
  rw [hspelling, List.length_cons] at hlength
  rw [WindowsFiles.canonicalPath, WindowsFiles.canonicalText, hspelling]
  cases names with
  | nil =>
    have hone : loc.length = 1 := hlength.symm
    rw [if_pos hone, joinNames_singleton, List.append_assoc]
    rfl
  | cons n names =>
    have hne : loc.length ≠ 1 := by
      rw [List.length_cons] at hlength
      omega
    rw [if_neg hne, joinNames_cons_cons]

/-- Without the verbatim prefix. -/
theorem normalizeWindowsPath_canonicalPath
    (hspelling : fs.tree.spelling [] loc = volume.name :: names) :
    normalizeWindowsPath (fs.canonicalPath loc) =
      (prefixText volume.pathPrefix).toList ++ '\\' :: joinNames names := by
  rw [canonicalPath_eq hspelling]
  cases volume with
  | drive drive h =>
    show (if _ then _ else if _ then _ else _) = (driveName drive).toList ++ '\\' :: joinNames names
    rw [if_neg, if_pos (List.prefix_append _ _)]
    · rfl
    · intro hunc
      -- the fifth character of the other prefix is `U`, the sixth `N`
      have hunc' : "\\\\?\\".toList ++ "UNC\\".toList <+:
          "\\\\?\\".toList ++ ((driveName drive).toList ++ '\\' :: joinNames names) := hunc
      have hdrive : (driveName drive).toList = [drive, ':'] := String.toList_ofList
      rw [List.prefix_append_right_inj, hdrive] at hunc'
      have hchars : 'U' :: 'N' :: ['C', '\\'] <+: drive :: ':' :: '\\' :: joinNames names := hunc'
      have hcolon := (List.cons_prefix_cons.mp (List.cons_prefix_cons.mp hchars).2).1
      exact absurd hcolon (by decide)
  | share server share hserver hquery hshare =>
    have hchars : "\\\\?\\".toList ++ ((shareName server share).toList ++ '\\' :: joinNames names) =
        "\\\\?\\UNC\\".toList ++
          (server.toList ++ '\\' :: share.toList ++ '\\' :: joinNames names) := by
      simp [shareName]
    show (if _ then _ else _) = _
    rw [Volume.name, hchars, if_pos (List.prefix_append _ _)]
    simp [Volume.pathPrefix, prefixText]

/-- `base_prefix`: the text with a separator at its end. -/
def closed (s : List Char) : List Char :=
  if s.getLast? = some '\\' ∨ s.getLast? = some '/' then s else s ++ ['\\']

theorem prefix_closed (s : List Char) : s <+: closed s := by
  rw [closed]
  split
  · exact List.prefix_rfl
  · exact List.prefix_append _ _

/-- A name has no separator, and neither has what it becomes in lower case. -/
theorem not_mem_lowerName {n : String} (h : '\\' ∉ n.toList) : '\\' ∉ lowerName t n :=
  fun hmem => h (CaseTable.mem_of_mem_toLowercase (Or.inl rfl) hmem)

theorem getLast?_lowerName {n : String} (h : IsName n) (s : List Char) :
    ∃ c, (s ++ lowerName t n).getLast? = some c ∧ c ≠ '\\' ∧ c ≠ '/' := by
  have hne : lowerName t n ≠ [] := by
    intro hnil
    have hn := CaseTable.toLowercase_eq_nil_iff.mp hnil
    exact h.ne_empty (String.toList_injective hn)
  have hmem := List.getLast_mem hne
  refine ⟨(lowerName t n).getLast hne, ?_, ?_, ?_⟩
  · rw [List.getLast?_append_of_ne_nil _ hne, List.getLast?_eq_some_getLast hne]
  · intro heq
    rw [heq] at hmem
    exact not_mem_lowerName (not_mem_of_isName h) hmem
  · intro heq
    rw [heq] at hmem
    have hslash := h.not_separator '/' (CaseTable.mem_of_mem_toLowercase (Or.inr rfl) hmem)
    exact absurd hslash (by decide)

/-- The parts of a place, in lower case. -/
def lowerParts (t : CaseTable) (volume : Volume) (names : List String) : List (List Char) :=
  (volume.parts ++ names).map (lowerName t)

/-- The text that is compared, with a backslash at its end. -/
theorem closed_normText (hspelling : fs.tree.spelling [] loc = volume.name :: names)
    (hnames : ∀ n ∈ names, IsName n) :
    closed (normText t fs.toWindowsFiles loc) = terminated (lowerParts t volume names) := by
  have hlower : ∀ ns : List String,
      (ns.map String.toList).map t.toLowercase = ns.map (lowerName t) := by
    intro ns
    rw [List.map_map]
    rfl
  have htext : normText t fs.toWindowsFiles loc =
      t.toLowercase (terminated (volume.parts.map String.toList) ++ joinNames names) := by
    rw [normText, normalizeWindowsPath_canonicalPath hspelling, ← terminated_parts,
      List.append_assoc]
    rfl
  rw [htext, lowerParts]
  -- The text of the volume itself ends in a separator; that of anything below it does not, and
  -- `closed` adds one.
  rcases List.eq_nil_or_concat names with hnil | ⟨init, n, hconcat⟩
  · rw [hnil, List.append_nil]
    have hend := CaseTable.toLowercase_terminated_append (t := t)
      (volume.parts.map String.toList) []
    have hlast : (terminated (volume.parts.map (lowerName t))).getLast? = some '\\' := by
      have hpart : ∃ s parts, volume.parts = parts ++ [s] := by
        cases volume with
        | drive drive h => exact ⟨driveName drive, [], rfl⟩
        | share server share hserver hquery hshare => exact ⟨share, ["", "", server], rfl⟩
      obtain ⟨s, parts, hparts⟩ := hpart
      rw [hparts, List.map_append, terminated_append, List.map_singleton, terminated_cons]
      rw [List.getLast?_append_of_ne_nil _ (by simp)]
      show (lowerName t s ++ ['\\']).getLast? = _
      rw [List.getLast?_concat]
    rw [hlower] at hend
    show closed (t.toLowercase (terminated _ ++ [])) = _
    rw [hend]
    show closed (terminated _ ++ []) = _
    rw [List.append_nil, closed, if_pos (Or.inl hlast)]
  · rw [List.concat_eq_append] at hconcat
    have hn : IsName n := hnames n (by rw [hconcat]; simp)
    have hend := CaseTable.toLowercase_terminated_append (t := t)
      ((volume.parts ++ init).map String.toList) n.toList
    rw [hlower] at hend
    rw [hconcat, joinNames_concat, ← List.append_assoc, ← terminated_append, ← List.map_append,
      hend]
    obtain ⟨c, hc, hbackslash, hslash⟩ := getLast?_lowerName (t := t) hn
      (terminated ((volume.parts ++ init).map (lowerName t)))
    show closed (terminated _ ++ lowerName t n) = _
    have hparts : terminated ((volume.parts ++ init ++ [n]).map (lowerName t)) =
        terminated ((volume.parts ++ init).map (lowerName t)) ++ (lowerName t n ++ ['\\']) := by
      rw [List.map_append, terminated_append, List.map_singleton, terminated_cons]
      rfl
    rw [closed, hc, if_neg (by simp [hbackslash, hslash]), ← List.append_assoc, hparts,
      List.append_assoc]

theorem not_mem_lowerParts (hnames : ∀ n ∈ names, IsName n) :
    ∀ s ∈ lowerParts t volume names, '\\' ∉ s := by
  intro s hs
  obtain ⟨n, hn, rfl⟩ := List.mem_map.mp hs
  rcases List.mem_append.mp hn with hpart | hname
  · exact not_mem_lowerName (volume.not_mem_parts n hpart)
  · exact not_mem_lowerName (not_mem_of_isName (hnames n hname))

/-- The share has the lower-case name that its parts give it. -/
theorem lowerName_shareName (server share : String) : lowerName t (shareName server share) =
    t.toLowercase "UNC".toList ++ '\\' :: (lowerName t server ++ '\\' :: lowerName t share) := by
  have hchars : (shareName server share).toList =
      "UNC".toList ++ '\\' :: (server.toList ++ '\\' :: share.toList) := by
    simp [shareName]
  rw [lowerName, hchars, CaseTable.toLowercase_append_cons, CaseTable.toLowercase_append_cons]
  rfl

/-- The parts continue those of another place just if the names do. -/
theorem prefix_of_lowerParts_prefix {volume' : Volume} {names' : List String}
    (h : lowerParts t volume names <+: lowerParts t volume' names') :
    (volume.name :: names).map (lowerName t) <+: (volume'.name :: names').map (lowerName t) := by
  have hdrive : ∀ drive, lowerName t (driveName drive) ≠ lowerName t "" := by
    intro drive heq
    have hnil := CaseTable.toLowercase_eq_nil_iff.mp heq
    exact absurd hnil (by rw [driveName, String.toList_ofList]; exact List.cons_ne_nil _ _)
  cases volume with
  | drive drive hupper =>
    cases volume' with
    | drive drive' hupper' => exact h
    | share server' share' hserver' hquery' hshare' =>
      exact absurd (List.cons_prefix_cons.mp h).1 (hdrive drive)
  | share server share hserver hquery hshare =>
    cases volume' with
    | drive drive' hupper' =>
      exact absurd (List.cons_prefix_cons.mp h).1.symm (hdrive drive')
    | share server' share' hserver' hquery' hshare' =>
      obtain ⟨-, h⟩ := List.cons_prefix_cons.mp h
      obtain ⟨-, h⟩ := List.cons_prefix_cons.mp h
      obtain ⟨hsame, h⟩ := List.cons_prefix_cons.mp h
      obtain ⟨hsame', hrest⟩ := List.cons_prefix_cons.mp h
      apply List.cons_prefix_cons.mpr
      refine ⟨?_, hrest⟩
      show lowerName t (shareName server share) = lowerName t (shareName server' share')
      rw [lowerName_shareName, lowerName_shareName, hsame, hsame']

/-! ### The comparison -/

/-- What the comparison accepts is within the base. -/
theorem within_of_isWithin (hbase : fs.Found base) (hbase_ne : base ≠ []) (hloc : fs.Found loc)
    (hloc_ne : loc ≠ []) (h : isWithin t fs.toWindowsFiles base loc = true) :
    Within t fs.toWindowsFiles base loc := by
  obtain ⟨volume, names, hspelling, hnames⟩ := exists_spelling hbase hbase_ne
  obtain ⟨volume', names', hspelling', hnames'⟩ := exists_spelling hloc hloc_ne
  have hclosed : closed (normText t fs.toWindowsFiles base) <+:
      closed (normText t fs.toWindowsFiles loc) := by
    rcases of_decide_eq_true h with hprefix | heq
    · exact List.IsPrefix.trans hprefix (prefix_closed _)
    · rw [heq]
  rw [closed_normText hspelling hnames, closed_normText hspelling' hnames'] at hclosed
  have hparts := prefix_of_terminated_prefix (not_mem_lowerParts hnames)
    (not_mem_lowerParts hnames') hclosed
  rw [Within, hspelling, hspelling']
  exact prefix_of_lowerParts_prefix hparts

/-- Places with the same text are at the same depth. -/
theorem length_eq_of_normText_eq (hbase : fs.Found base) (hbase_ne : base ≠ [])
    (hloc : fs.Found loc) (hloc_ne : loc ≠ [])
    (h : normText t fs.toWindowsFiles loc = normText t fs.toWindowsFiles base) :
    loc.length = base.length := by
  have hwithin := within_of_isWithin (t := t) hbase hbase_ne hloc hloc_ne
    (decide_eq_true (Or.inr h))
  have hwithin' := within_of_isWithin (t := t) hloc hloc_ne hbase hbase_ne
    (decide_eq_true (Or.inr h.symm))
  exact Nat.le_antisymm hwithin'.length_le hwithin.length_le

end ValOpt
