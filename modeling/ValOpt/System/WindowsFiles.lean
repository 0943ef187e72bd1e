import ValOpt.FileTree.Basic
import ValOpt.Models.Snapshot
import ValOpt.Text.WindowsPath

/-!
# Files as Windows finds them

The volumes of the machine, its drives and the shares of other machines, are the entries at the root
of a tree of files with links; a drive may be a link to a share.  A path names a volume and the
components below it, which the system takes as they are if the path is verbatim.

A place that a path leads to is spelled out by the name of its volume and names of files
(`Found.spelling`), and these names lead to it again (`Found.resolve_spelling`).
-/

namespace ValOpt

open FileTree Text

/-- The name of a drive. -/
def driveName (drive : Char) : String := String.ofList [drive, ':']

/-- The name of a share, as canonical paths have it. -/
def shareName (server share : String) : String := "UNC\\" ++ server ++ "\\" ++ share

/-- The names that volumes have. -/
inductive IsVolumeName : String → Prop
  | drive (drive : Char) (h : drive.isUpper = true) : IsVolumeName (driveName drive)
  | share (server share : String) : IsVolumeName (shareName server share)

/-- The files that paths lead to.  `device` is what a prefix stands for that names a device, and
`win32Name` what is made of a component that is not verbatim. -/
structure WindowsFiles where
  tree : FileTree.Tree Bytes
  device : String → List String
  win32Name : String → String
  keys : ∀ loc e, tree.entries.lookup loc = some e → loc.getLast? = some (tree.fold e.name)
  volumes : ∀ k e, tree.entries.lookup [k] = some e → IsVolumeName e.name ∧ ∀ id, e.node ≠ .file id
  names : ∀ loc k e, loc ≠ [] → tree.entries.lookup (loc ++ [k]) = some e → IsName e.name
  links : tree.RootedLinks

namespace WindowsFiles

variable (fs : WindowsFiles)

/-- The volume that a prefix names. -/
def volumeComps : PathPrefix → List String
  | .disk drive | .verbatimDisk drive => [driveName drive]
  | .unc server share | .verbatimUnc server share => [shareName server share]
  | .verbatim name | .deviceNs name => fs.device name

/-- The components of a path that is not verbatim, as the system takes them. -/
def plainComps (comps : List String) : List String :=
  comps.foldl (fun acc c => if c = ".." then acc.dropLast else acc ++ [fs.win32Name c]) []

/-- Where an absolute path leads. -/
def locate (p : WindowsPath) : Option Loc :=
  p.volume.bind fun volume =>
    if volume.isVerbatim then
      if "." ∈ p.comps ∨ ".." ∈ p.comps then none
      else fs.tree.resolve [] (fs.volumeComps volume ++ p.comps)
    else fs.tree.resolve [] (fs.volumeComps volume ++ fs.plainComps p.comps)

/-- `Path::exists`, and the place of what is there. -/
def existing (p : WindowsPath) : Option Loc :=
  (fs.locate p).filter fun loc =>
    match fs.tree.node loc with
    | some .dir | some (.file _) => true
    | _ => false

/-- The text of a canonical path. -/
def canonicalText (loc : Loc) : List Char := "\\\\?\\".toList ++ joinNames (fs.tree.spelling [] loc)

end WindowsFiles

/-! ### The names on the way to a place -/

theorem IsVolumeName.ne_dotdot {name : String} (h : IsVolumeName name) : name ≠ ".." := by
  intro hdots
  have hchars := congrArg String.toList hdots
  cases h with
  | drive drive hdrive =>
    rw [driveName, String.toList_ofList] at hchars
    exact absurd (List.cons.inj (List.cons.inj hchars).2).1 (by decide)
  | share server share =>
    rw [shareName] at hchars
    simp at hchars

namespace WindowsFiles

variable {fs : WindowsFiles} {p : WindowsPath} {loc : Loc}

/-- What is in the tree has an entry. -/
theorem exists_entry {l : Loc} (hl : l ≠ []) (h : (fs.tree.node l).isSome = true) :
    ∃ e, fs.tree.entries.lookup l = some e ∧ fs.tree.nameAt l = e.name ∧
      fs.tree.node l = some e.node := by
  rw [FileTree.Tree.node, if_neg hl, Option.isSome_map] at h
  obtain ⟨e, he⟩ := Option.isSome_iff_exists.mp h
  refine ⟨e, he, ?_, ?_⟩
  · rw [Tree.nameAt, he]
    rfl
  · rw [FileTree.Tree.node, if_neg hl, he]
    rfl

/-- A directory or a file, under directories. -/
structure Found (fs : WindowsFiles) (loc : Loc) : Prop where
  underDirs : fs.tree.UnderDirs loc
  there : fs.tree.node loc = some .dir ∨ ∃ id, fs.tree.node loc = some (.file id)

theorem underDirs_of_locate (h : fs.locate p = some loc) : fs.tree.UnderDirs loc := by
  obtain ⟨volume, -, hlocate⟩ := Option.bind_eq_some_iff.mp h
  split at hlocate
  · obtain ⟨-, hresolve⟩ := Option.ite_none_left_eq_some.mp hlocate
    exact Tree.underDirs_walk fs.links 63 _ fs.tree.solidDir_nil hresolve
  · exact Tree.underDirs_walk fs.links 63 _ fs.tree.solidDir_nil hlocate

/-- What a path finds. -/
theorem existing_eq_some_iff : fs.existing p = some loc ↔ fs.locate p = some loc ∧
    (fs.tree.node loc = some .dir ∨ ∃ id, fs.tree.node loc = some (.file id)) := by
  rw [existing, Option.filter_eq_some_iff]
  apply and_congr_right'
  split
  next h => exact iff_of_true rfl (Or.inl h)
  next id h => exact iff_of_true rfl (Or.inr ⟨id, h⟩)
  next hdir hfile =>
    refine iff_of_false Bool.false_ne_true ?_
    rintro (h | ⟨id, h⟩)
    · exact hdir h
    · exact hfile id h

theorem found_of_existing (h : fs.existing p = some loc) : fs.Found loc := by
  obtain ⟨hlocate, hthere⟩ := existing_eq_some_iff.mp h
  exact ⟨underDirs_of_locate hlocate, hthere⟩

/-- Everything on the way to a place that is found is in the tree. -/
theorem Found.isSome_node (h : fs.Found loc) {l : Loc} (hl : l <+: loc) :
    (fs.tree.node l).isSome = true := by
  by_cases heq : l = loc
  · rcases h.there with hdir | ⟨id, hid⟩
    · rw [heq, hdir]
      rfl
    · rw [heq, hid]
      rfl
  · rw [Tree.isDir_iff.mp (h.underDirs l hl heq)]
    rfl

/-- The names after a place of the tree are names of files. -/
theorem isName_spelling {ks l : Loc} (hl : l ≠ [])
    (hthere : ∀ l', l' <+: l ++ ks → (fs.tree.node l').isSome = true) :
    ∀ n ∈ fs.tree.spelling l ks, IsName n := by
  induction ks generalizing l with
  | nil => exact fun n hn => nomatch hn
  | cons k ks ih =>
    intro n hn
    have happend : l ++ k :: ks = (l ++ [k]) ++ ks := by
      rw [List.append_assoc, List.singleton_append]
    rw [happend] at hthere
    rcases List.mem_cons.mp hn with rfl | hn
    · obtain ⟨e, he, hname, -⟩ := exists_entry (List.append_ne_nil_of_left_ne_nil hl [k])
        (hthere (l ++ [k]) (List.prefix_append _ _))
      rw [hname]
      exact fs.names l k e hl he
    · exact ih (List.append_ne_nil_of_left_ne_nil hl [k]) hthere n hn

/-- A place is on a volume: its names are that of the volume and those of files. -/
theorem Found.spelling {k : String} {ks : Loc} (h : fs.Found (k :: ks)) :
    ∃ e, fs.tree.entries.lookup [k] = some e ∧
      fs.tree.spelling [] (k :: ks) = e.name :: fs.tree.spelling [k] ks ∧
      ∀ n ∈ fs.tree.spelling [k] ks, IsName n := by
  have hprefix : [k] <+: k :: ks := ⟨ks, rfl⟩
  obtain ⟨e, he, hname, -⟩ := exists_entry (List.cons_ne_nil k []) (h.isSome_node hprefix)
  refine ⟨e, he, ?_, ?_⟩
  · show fs.tree.nameAt [k] :: _ = _
    rw [hname]
    rfl
  · exact isName_spelling (List.cons_ne_nil k []) fun l hl => h.isSome_node hl

/-- The name at a place on the way gives the key. -/
theorem Found.name_key (h : fs.Found loc) {l : Loc} {k : String} (hl : l ++ [k] <+: loc) :
    fs.tree.nameAt (l ++ [k]) ≠ ".." ∧ fs.tree.fold (fs.tree.nameAt (l ++ [k])) = k := by
  have hne : l ++ [k] ≠ [] := List.append_ne_nil_of_right_ne_nil l (List.cons_ne_nil k [])
  obtain ⟨e, he, hname, -⟩ := exists_entry hne (h.isSome_node hl)
  rw [hname]
  constructor
  · cases l with
    | nil => exact (fs.volumes k e he).1.ne_dotdot
    | cons k' l => exact (fs.names (k' :: l) k e (List.cons_ne_nil k' l) he).ne_dotdot
  · have hlast := fs.keys _ e he
    rw [List.getLast?_concat] at hlast
    exact (Option.some.inj hlast).symm

/-- Taken as they are, the names of a place lead to it. -/
theorem Found.resolve_spelling (h : fs.Found loc) :
    fs.tree.resolve [] (fs.tree.spelling [] loc) = some loc := by
  apply Tree.resolve_spelling h.underDirs
  · intro target htarget
    rcases h.there with hdir | ⟨id, hid⟩
    · rw [hdir] at htarget
      exact nomatch htarget
    · rw [hid] at htarget
      exact nomatch htarget
  · intro l k hl
    exact h.name_key hl

/-- Names that the system does not change. -/
theorem plainComps_eq_self {names : List String} (hnames : ∀ n ∈ names, IsName n)
    (hplain : ∀ n ∈ names, fs.win32Name n = n) : fs.plainComps names = names := by
  have hfold : ∀ acc : List String, names.foldl (fun acc c =>
      if c = ".." then acc.dropLast else acc ++ [fs.win32Name c]) acc = acc ++ names := by
    induction names with
    | nil => exact fun acc => (List.append_nil acc).symm
    | cons n names ih =>
      intro acc
      have ih' := ih (fun m hm => hnames m (List.mem_cons_of_mem n hm))
        fun m hm => hplain m (List.mem_cons_of_mem n hm)
      rw [List.foldl_cons, if_neg (hnames n List.mem_cons_self).ne_dotdot,
        hplain n List.mem_cons_self, ih', List.append_assoc, List.singleton_append]
  exact hfold []

end WindowsFiles

end ValOpt
