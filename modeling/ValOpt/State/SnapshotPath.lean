import ValOpt.State.LinkedStore
import ValOpt.System.WindowsFiles
import ValOpt.Text.Lowercase

/-!
# The validation of snapshot paths

`validate_snapshot_path` of `state/snapshot_engine.rs`, over the files as Windows finds them, once
the base directory is there.  The checks compare the texts of canonical paths in lower case.  A path
to something that is not there yet is returned as it was given; for any other its canonical path is
returned, without the verbatim prefix.
-/

namespace ValOpt

open FileTree Text

/-! ### Paths -/

/-- A path as it is given.  It may have `.` as its first component, if no root is before that. -/
structure GivenPath extends WindowsPath where
  curDir : Bool
  deriving DecidableEq, Repr

/-- The directories that relative paths start in: the current one, and those of the drives. -/
structure CurrentDirs where
  volume : PathPrefix
  comps : List String
  ofDrive : Char → List String
  comps_ne : ∀ c ∈ comps, c ≠ ".."
  ofDrive_ne : ∀ drive, ∀ c ∈ ofDrive drive, c ≠ ".."

namespace GivenPath

/-- `include_cur_dir`. -/
def startsWithCurDir : List Char → Bool
  | ['.'] => true
  | '.' :: c :: _ => isSeparator false c
  | _ => false

/-- `Path::new`. -/
def ofText (s : List Char) : GivenPath :=
  match parsePrefix s with
  | some (.disk _, rest) => ⟨parsePath s, startsWithCurDir rest⟩
  | some _ => ⟨parsePath s, false⟩
  | none => ⟨parsePath s, startsWithCurDir s⟩

/-- The path `.`. -/
def current : GivenPath := ⟨⟨none, false, []⟩, true⟩

variable (p : GivenPath)

/-- `Path::parent`. -/
def parent : Option GivenPath :=
  if p.comps ≠ [] then some { p with comps := p.comps.dropLast }
  else if p.curDir then some { p with curDir := false }
  else none

/-- `Path::ancestors`: the path itself, its parent, and so on. -/
def ancestors : List GivenPath :=
  (p.comps.reverse.tails.map fun comps => { p with comps := comps.reverse }) ++
    if p.curDir then [{ p with comps := [], curDir := false }] else []

/-- The directory that the path starts in. -/
def start (dirs : CurrentDirs) : WindowsPath :=
  match p.volume, p.rooted with
  | some (.disk drive), false => ⟨some (.disk drive), true, dirs.ofDrive drive⟩
  | some volume, _ => ⟨some volume, true, []⟩
  | none, true => ⟨some dirs.volume, true, []⟩
  | none, false => ⟨some dirs.volume, true, dirs.comps⟩

/-- The absolute path that is meant.  The empty path means nothing. -/
def absolute (dirs : CurrentDirs) : Option WindowsPath :=
  if p = ⟨⟨none, false, []⟩, false⟩ then none
  else some { p.start dirs with comps := (p.start dirs).comps ++ p.comps }

end GivenPath

/-- The text of a prefix. -/
def prefixText : PathPrefix → String
  | .verbatim name => "\\\\?\\" ++ name
  | .verbatimUnc server share => "\\\\?\\UNC\\" ++ server ++ "\\" ++ share
  | .verbatimDisk drive => "\\\\?\\" ++ driveName drive
  | .deviceNs name => "\\\\.\\" ++ name
  | .unc server share => "\\\\" ++ server ++ "\\" ++ share
  | .disk drive => driveName drive

/-- `Path::display`, with backslashes. -/
def GivenPath.display (p : GivenPath) : String :=
  p.volume.elim "" prefixText ++ (if p.rooted then "\\" else "") ++
    "\\".intercalate ((if p.curDir then ["."] else []) ++ p.comps)

/-! ### What a path finds -/

namespace WindowsFiles

variable (fs : WindowsFiles) (dirs : CurrentDirs)

/-- The components below the volume, as the system takes them. -/
def systemComps (volume : PathPrefix) (comps : List String) : Option (List String) :=
  if volume.isVerbatim then if "." ∈ comps ∨ ".." ∈ comps then none else some comps
  else some (fs.plainComps comps)

/-- The entry that an absolute path names. -/
def entry (p : WindowsPath) : Option Loc :=
  p.volume.bind fun volume => (fs.systemComps volume p.comps).bind fun comps =>
    comps.getLast?.bind fun c =>
      (fs.tree.resolve [] (fs.volumeComps volume ++ comps.dropLast)).map fun dir =>
        dir ++ [fs.tree.fold c]

/-- `Path::canonicalize`, where the path exists.  No path leads above the volumes. -/
def canonicalize (p : GivenPath) : Option Loc :=
  ((p.absolute dirs).bind fs.existing).filter (· ≠ [])

/-- `Path::is_symlink`. -/
def isSymlink (p : GivenPath) : Bool :=
  match ((p.absolute dirs).bind fs.entry).bind fs.tree.node with
  | some (.link _) => true
  | _ => false

/-- The canonical path of a place: the volumes themselves end in a separator. -/
def canonicalPath (loc : Loc) : List Char :=
  if loc.length = 1 then fs.canonicalText loc ++ ['\\'] else fs.canonicalText loc

end WindowsFiles

/-! ### Validation -/

/-- `normalize_windows_path`. -/
def normalizeWindowsPath (s : List Char) : List Char :=
  if "\\\\?\\UNC\\".toList <+: s then "\\\\".toList ++ s.drop 8
  else if "\\\\?\\".toList <+: s then s.drop 4
  else s

/-- What the calls come to that the files do not decide: the error of `canonicalize`, and whether
the file can be opened and asked for its information. -/
structure ValidationAnswers where
  canonicalizeError : String
  handle : Except SnapshotError Unit

section Validate

variable (t : CaseTable) (fs : WindowsFiles) (dirs : CurrentDirs)

/-- A canonical path, as it is compared. -/
def normText (loc : Loc) : List Char := t.toLowercase (normalizeWindowsPath (fs.canonicalPath loc))

/-- Whether a canonical path is the base directory, or below it, by the texts of both. -/
def isWithin (canonicalBase loc : Loc) : Bool :=
  let normBase := normText t fs canonicalBase
  let basePrefix :=
    if normBase.getLast? = some '\\' ∨ normBase.getLast? = some '/' then normBase
    else normBase ++ ['\\']
  basePrefix <+: normText t fs loc ∨ normText t fs loc = normBase

/-- The path leads to the base directory, by the texts of the canonical paths. -/
def isBase (canonicalBase : Loc) (p : GivenPath) : Bool :=
  (fs.canonicalize dirs p).any fun loc =>
    eqIgnoreAsciiCase (String.ofList (normalizeWindowsPath (fs.canonicalPath loc)))
      (String.ofList (normalizeWindowsPath (fs.canonicalPath canonicalBase)))

/-- Step 4 of `validate_snapshot_path`: the path and the directories above it, up to the base. -/
def checkLinks (canonicalBase : Loc) : List GivenPath → Except SnapshotError Unit
  | [] => .ok ()
  | p :: ps =>
    if fs.isSymlink dirs p then
      .error (.securityViolation
        s!"Reparse point, directory junction, or symlink detected at: {p.display}")
    else if isBase fs dirs canonicalBase p then .ok ()
    else checkLinks canonicalBase ps

/-- Step 5 of `validate_snapshot_path`. -/
def checkHandle (answers : ValidationAnswers) (path : GivenPath) (loc : Loc) :
    Except SnapshotError Unit :=
  match fs.tree.node loc with
  | some (.file id) => do
    answers.handle
    if 1 < LinkedStore.numberOfLinks fs.tree id then
      .error (.securityViolation
        s!"Hardlinked snapshot file detected ({LinkedStore.numberOfLinks fs.tree id} links). Snapshot operations on hardlinks are prohibited: {path.display}")
    else .ok ()
  | _ => .ok ()

/-- `validate_snapshot_path`, from the canonicalization of the base on. -/
def validateGivenPath (answers : ValidationAnswers) (path base : GivenPath) :
    Except SnapshotError GivenPath :=
  if ".." ∈ path.comps then
    .error (.securityViolation
      s!"Directory traversal ('..') prohibited in snapshot path: {path.display}")
  else
    match fs.canonicalize dirs base with
    | none => .error (.io answers.canonicalizeError)
    | some canonicalBase =>
      match fs.canonicalize dirs path with
      | some canonicalPath =>
        if !isWithin t fs canonicalBase canonicalPath then
          .error (.securityViolation
            s!"Snapshot path '{path.display}' resolves outside authorized root '{base.display}'")
        else do
          checkLinks fs dirs canonicalBase path.ancestors
          checkHandle fs answers path canonicalPath
          return .ofText (normalizeWindowsPath (fs.canonicalPath canonicalPath))
      | none =>
        let parent := path.parent.getD .current
        match fs.canonicalize dirs parent with
        | none =>
          .error (.securityViolation
            s!"Snapshot parent directory '{parent.display}' does not exist")
        | some canonicalParent =>
          if !isWithin t fs canonicalBase canonicalParent then
            .error (.securityViolation
              s!"Snapshot path '{path.display}' resides in directory outside authorized root '{base.display}'")
          else do
            checkLinks fs dirs canonicalBase path.ancestors
            return path

end Validate

end ValOpt
