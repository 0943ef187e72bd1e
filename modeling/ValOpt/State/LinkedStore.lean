import ValOpt.FileTree.Basic
import ValOpt.State.SnapshotEngine

/-!
# The snapshot store in a tree with links

`state/snapshot_engine.rs` again, now over a file system with directories, hard links and symbolic
links, in which a path has to be followed before it is known which file it means.

`checkTarget` is what `validate_snapshot_path` decides about the tree it finds, and the calls by
which it looks at the target are one call.  A path that is not there yet is handed on as it was
given, any other by its canonical form, which leads to its place through no link.  The key file and
the temporary file are names in the directory of the target (`withFileName`, `tempPath`), and are
not validated.

Reading and writing follow a link at the end of a path (`locate`); removing and moving take the
entry itself (`entry`).
-/

namespace ValOpt.LinkedStore

open Effect FileTree

/-- The calls of the store. -/
inductive StoreCall where
  | createBase
  | canonicalizeBase
  | inspectTarget
  | createParent
  | readKey
  | unprotectKey
  | genRandom
  | protectKey
  | writeKey
  | writeTemp
  | moveFileEx
  | removeTarget
  | renameTemp
  | removeTemp
  | deleteSnapshot
  | zeroKey
  | removeKey
  deriving DecidableEq, Repr

abbrev FileSystem := FileTree.Tree Bytes

/-- Programs of the store. -/
abbrev Prog := Eff StoreCall FileSystem

/-- The tree as it is. -/
def getTree : Prog FileSystem := fun _ fs => ⟨.returned fs fs, []⟩

/-! ### Paths -/

/-- Whether there is something at the place that a path leads to. -/
def isThere (fs : FileSystem) (loc : Loc) : Bool :=
  match fs.node loc with
  | some .dir | some (.file _) => true
  | _ => false

/-- A path as it is given: the drive that it names, the place where it starts, and its components.
A path without a drive starts in the current directory. -/
structure RawPath where
  drive : Option String
  start : Loc
  comps : List String
  deriving DecidableEq, Repr

namespace RawPath

/-- `Path::display`. -/
def display (p : RawPath) : String := "\\".intercalate (p.drive.toList ++ p.comps)

/-- `Path::parent`. -/
def parent (p : RawPath) : Option RawPath :=
  if p.comps = [] then none else some { p with comps := p.comps.dropLast }

/-- `Path::ancestors`: the path itself, its parent, and so on. -/
def ancestors (p : RawPath) : List RawPath :=
  p.comps.reverse.tails.map fun comps => { p with comps := comps.reverse }

/-- Where the path leads. -/
def locate (p : RawPath) (fs : FileSystem) : Option Loc := fs.resolve p.start p.comps

/-- The entry that the path names. -/
def entry (p : RawPath) (fs : FileSystem) : Option Loc :=
  p.comps.getLast?.bind fun c =>
    (fs.resolve p.start p.comps.dropLast).map fun dir => dir ++ [fs.fold c]

/-- `Path::canonicalize`, where the path exists.  The empty path does not. -/
def canonicalize (p : RawPath) (fs : FileSystem) : Option Loc :=
  if p.drive = none ∧ p.comps = [] then none else (p.locate fs).filter (isThere fs)

/-- `Path::is_symlink`. -/
def isSymlink (p : RawPath) (fs : FileSystem) : Bool :=
  match (p.entry fs).bind fs.node with
  | some (.link _) => true
  | _ => false

/-- `Path::is_dir`. -/
def isDir (p : RawPath) (fs : FileSystem) : Bool := (p.canonicalize fs).any fs.isDir

/-- `mkdir` of a path. -/
def makeDir (p : RawPath) (fs : FileSystem) : Option FileSystem := (p.entry fs).bind fs.makeDir

/-- `fs::create_dir_all` of the first of the paths, each of which is in the next. -/
def createDirs : List RawPath → FileSystem → Option FileSystem
  | [], _ => none
  | p :: ps, fs =>
    if p.drive = none ∧ p.comps = [] then some fs
    else if (p.canonicalize fs).isSome then
      -- What is there already has to be a directory.
      if p.isDir fs then some fs else none
    else
      (p.makeDir fs).or ((createDirs ps fs).bind fun fs =>
        if p.isDir fs then some fs else p.makeDir fs)

/-- `fs::create_dir_all`. -/
def createDirAll (p : RawPath) : FileSystem → Option FileSystem := createDirs p.ancestors

end RawPath

/-- A path that was validated. -/
inductive StorePath where
  | given (p : RawPath)
  | canonical (loc : Loc)
  deriving DecidableEq, Repr

/-- A name in a directory. -/
structure FilePath where
  dir : StorePath
  file : String
  deriving DecidableEq, Repr

namespace StorePath

/-- `Path::parent`.  A drive has none. -/
def parent : StorePath → Option StorePath
  | given p => p.parent.map given
  | canonical loc => if loc.length ≤ 1 then none else some (canonical loc.dropLast)

/-- Where the path leads. -/
def locate (fs : FileSystem) : StorePath → Option Loc
  | given p => p.locate fs
  | canonical loc => some loc

/-- The entry that the path names. -/
def entry (fs : FileSystem) : StorePath → Option Loc
  | given p => p.entry fs
  | canonical loc => some loc

/-- `Path::exists`. -/
def isThere (fs : FileSystem) : StorePath → Bool
  | given p => (p.canonicalize fs).isSome
  | canonical loc => LinkedStore.isThere fs loc

/-- `fs::create_dir_all`. -/
def createDirAll (fs : FileSystem) : StorePath → Option FileSystem
  | given p => p.createDirAll fs
  | canonical loc => if fs.isDir loc then some fs else none

/-- `Path::with_file_name`. -/
def withFileName (p : StorePath) (name : String) : FilePath := ⟨p.parent.getD p, name⟩

end StorePath

namespace FilePath

/-- Where the path leads. -/
def locate (p : FilePath) (fs : FileSystem) : Option Loc :=
  (p.dir.locate fs).bind fun dir => fs.resolve dir [p.file]

/-- The entry that the path names. -/
def entry (p : FilePath) (fs : FileSystem) : Option Loc :=
  (p.dir.locate fs).map fun dir => dir ++ [fs.fold p.file]

end FilePath

/-- The names on the way to a place. -/
def names (fs : FileSystem) (loc : Loc) : List String :=
  (loc.inits.drop 1).filterMap fun l => (fs.entries.lookup l).map (·.name)

/-- `normalize_windows_path` of a canonical path, as a text. -/
def normalizeWindowsPath (fs : FileSystem) (loc : Loc) : String :=
  let text := "\\".intercalate (names fs loc)
  if loc.length ≤ 1 then text ++ "\\" else text

/-- The path in an error. -/
def FilePath.toPath (p : FilePath) (fs : FileSystem) : Path :=
  match p.dir with
  | .given dir => ⟨dir.drive.toList ++ dir.comps, p.file⟩
  | .canonical loc => ⟨names fs loc, p.file⟩

/-! ### Calls -/

/-- `fs::read`. -/
def readFile (c : StoreCall) (locate : FileSystem → Option Loc) : Prog (Except String Bytes) :=
  perform c (.read fun fs => (locate fs).bind fun loc => (fs.fileAt loc).map fun f => f.2.content)

/-- A write: the file is truncated, then filled byte by byte. -/
def writeOp (locate : FileSystem → Option Loc) (content : Bytes) : Op FileSystem Unit where
  full fs := ((locate fs).bind fun loc => fs.writeAt loc content).map fun fs' => ((), fs')
  torn
    | 0, fs => fs
    | n + 1, fs => ((locate fs).bind fun loc => fs.writeAt loc (content.take n)).getD fs

/-- `fs::write`. -/
def writeFile (c : StoreCall) (locate : FileSystem → Option Loc) (content : Bytes) :
    Prog (Except String Unit) := perform c (writeOp locate content)

/-- `fs::remove_file`. -/
def removeFile (c : StoreCall) (entry : FileSystem → Option Loc) : Prog (Except String Unit) :=
  perform c (.atomic fun fs => (entry fs).bind fs.unlink)

/-- `MoveFileExW` with replacement, and `fs::rename`. -/
def moveFile (c : StoreCall) (src dst : FileSystem → Option Loc) : Prog (Except String Unit) :=
  perform c (.atomic fun fs =>
    (src fs).bind fun src => (dst fs).bind fun dst => fs.moveEntry src dst)

/-! ### Validation -/

section Validate

/- `str::to_lowercase`, and the current directory of the process. -/
variable (lower : String → String) (cwd : Loc)

/-- Whether a canonical path is the base directory, or below it, by the texts of both in lower
case. -/
def isWithin (fs : FileSystem) (canonicalBase loc : Loc) : Bool :=
  let normBase := lower (normalizeWindowsPath fs canonicalBase)
  let basePrefix :=
    if normBase.toList.getLast? = some '\\' ∨ normBase.toList.getLast? = some '/' then normBase
    else normBase ++ "\\"
  let normTarget := lower (normalizeWindowsPath fs loc)
  basePrefix.toList <+: normTarget.toList ∨ normTarget = normBase

/-- Step 4 of `validate_snapshot_path`: the path and the directories above it, up to the base. -/
def checkLinks (fs : FileSystem) (canonicalBase : Loc) : List RawPath → Except SnapshotError Unit
  | [] => .ok ()
  | p :: ps =>
    if p.isSymlink fs then
      .error (.securityViolation
        s!"Reparse point, directory junction, or symlink detected at: {p.display}")
    else if (p.canonicalize fs).any fun loc => Text.eqIgnoreAsciiCase (normalizeWindowsPath fs loc)
        (normalizeWindowsPath fs canonicalBase) then .ok ()
    else checkLinks fs canonicalBase ps

/-- `nNumberOfLinks`. -/
def numberOfLinks (fs : FileSystem) (id : ℕ) : ℕ :=
  (fs.entries.entries.filter fun e => e.2.node = .file id).length

/-- Step 5 of `validate_snapshot_path`. -/
def checkHardlinks (fs : FileSystem) (path : RawPath) (loc : Loc) : Except SnapshotError Unit :=
  match fs.node loc with
  | some (.file id) =>
    if 1 < numberOfLinks fs id then
      .error (.securityViolation
        s!"Hardlinked snapshot file detected ({numberOfLinks fs id} links). Snapshot operations on hardlinks are prohibited: {path.display}")
    else .ok ()
  | _ => .ok ()

/-- Steps 3 to 5 of `validate_snapshot_path`, on the tree as it is. -/
def checkTarget (fs : FileSystem) (canonicalBase : Loc) (path base : RawPath) :
    Except SnapshotError StorePath :=
  match path.canonicalize fs with
  | some canonicalPath =>
    if !isWithin lower fs canonicalBase canonicalPath then
      .error (.securityViolation
        s!"Snapshot path '{path.display}' resolves outside authorized root '{base.display}'")
    else do
      checkLinks fs canonicalBase path.ancestors
      checkHardlinks fs path canonicalPath
      return .canonical canonicalPath
  | none =>
    -- The parent of a path without components is the current directory.
    match path.parent.elim (some cwd) fun parent => parent.canonicalize fs with
    | none =>
      let parent := path.parent.elim "." RawPath.display
      .error (.securityViolation s!"Snapshot parent directory '{parent}' does not exist")
    | some canonicalParent =>
      if !isWithin lower fs canonicalBase canonicalParent then
        .error (.securityViolation
          s!"Snapshot path '{path.display}' resides in directory outside authorized root '{base.display}'")
      else do
        checkLinks fs canonicalBase path.ancestors
        return .given path

/-- The creation of the base directory, where there is none. -/
def createBase (base : RawPath) : Prog (Except String Unit) := do
  if (base.canonicalize (← getTree)).isSome then return .ok ()
  else perform .createBase (.atomic base.createDirAll)

/-- `validate_snapshot_path`. -/
def validateSnapshotPath (path base : RawPath) : Prog (Except SnapshotError StorePath) := do
  if ".." ∈ path.comps then
    return .error (.securityViolation
      s!"Directory traversal ('..') prohibited in snapshot path: {path.display}")
  else
    match ← createBase base with
    | .error e => return .error (.io e)
    | .ok () =>
      match ← perform .canonicalizeBase (.read base.canonicalize) with
      | .error e => return .error (.io e)
      | .ok canonicalBase =>
        match ← perform .inspectTarget (.read fun fs =>
            some (checkTarget lower cwd fs canonicalBase path base)) with
        | .error e => return .error (.io e)
        | .ok checked => return checked

/-! ### Saving and deleting -/

variable (P : Platform)

/-- `get_or_generate_key`. -/
def getOrGenerateKey (now : Ambient) (target : StorePath) : Prog (Except SnapshotError Bytes) := do
  let keyPath := target.withFileName snapshotKeyFilename
  let fs ← getTree
  if (keyPath.locate fs).any (isThere fs) then
    match ← readFile .readKey keyPath.locate with
    | .error e => return .error (.io e)
    | .ok ciphertext =>
      match ← perform .unprotectKey (.read fun _ => P.unprotect ciphertext) with
      | .error e => return .error (.keyUnavailable (keyPath.toPath fs)
          s!"DPAPI unprotect failed (cross-machine replay or key corrupted): {e}")
      | .ok plaintext =>
        match keyOfPlaintext plaintext with
        | none =>
          return .error (.keyUnavailable (keyPath.toPath fs) "Invalid key header or payload length")
        | some key => return .ok key
  else
    match ← perform .genRandom (.read fun _ => some now.random32) with
    | .error e =>
      return .error (.keyUnavailable (keyPath.toPath fs) s!"CSPRNG key generation failed: {e}")
    | .ok rawKey =>
      match ← perform .protectKey (.read fun _ =>
          some (P.protect now.nonce (keyPlaintext now))) with
      | .error e =>
        return .error (.keyUnavailable (keyPath.toPath fs) s!"DPAPI protect failed: {e}")
      | .ok ciphertext =>
        match ← writeFile .writeKey keyPath.locate ciphertext with
        | .error e => return .error (.io e)
        | .ok () => return .ok rawKey

/-- The temporary file of a save, next to its target. -/
def tempPath (now : Ambient) (target : StorePath) : FilePath :=
  ⟨target.parent.getD (.canonical cwd), s!"snapshot_{now.pid}_{now.unixNanos}.tmp"⟩

/-- The replacement of the target by the temporary file: `MoveFileExW`, and if that fails the target
is removed and the file renamed. -/
def replaceTarget (temp : FilePath) (target : StorePath) : Prog (Except String Unit) := do
  match ← moveFile .moveFileEx temp.entry target.entry with
  | .ok () => return .ok ()
  | .error _ =>
    let _ ← removeFile .removeTarget target.entry
    match ← moveFile .renameTemp temp.entry target.entry with
    | .ok () => return .ok ()
    | .error e =>
      let _ ← removeFile .removeTemp temp.entry
      return .error s!"Atomic move failed: {e}"

/-- The end of `save_atomic_with_base`, once the key is there. -/
def writeSnapshot (now : Ambient) (snapshot : SystemStateSnapshot) (target : StorePath)
    (key : Bytes) : Prog (Except String (StorePath × SystemStateSnapshot)) := do
  let snapshot := snapshot.signWithKey P key
  let jsonData := P.snapshot.toStringPretty snapshot
  let temp := tempPath cwd now target
  match ← writeFile .writeTemp temp.locate jsonData with
  | .error e => return .error s!"Failed to write temporary snapshot file: {e}"
  | .ok () =>
    match ← replaceTarget temp target with
    | .error e => return .error e
    | .ok () => return .ok (target, snapshot)

/-- The creation of the directory of the target. -/
def createParent (target : StorePath) : Prog (Except String Unit) :=
  match target.parent with
  | none => return .ok ()
  | some parent => perform .createParent (.atomic fun fs => parent.createDirAll fs)

/-- `save_atomic_with_base` on a target that was validated. -/
def saveTarget (now : Ambient) (snapshot : SystemStateSnapshot) (target : StorePath) :
    Prog (Except String (StorePath × SystemStateSnapshot)) := do
  match ← createParent target with
  | .error e => return .error s!"Failed to create snapshot dir: {e}"
  | .ok () =>
    match ← getOrGenerateKey P now target with
    | .error e => return .error s!"Failed to acquire DPAPI snapshot key: {e.message}"
    | .ok key => writeSnapshot cwd P now snapshot target key

/-- The removal in `delete_snapshot_with_base`, when the snapshot was found. -/
def removeFound (found : Bool) (target : StorePath) : Prog (Except String Unit) := do
  if found then removeFile .deleteSnapshot target.entry else return .ok ()

/-- The end of `delete_snapshot_with_base`: the key, which is overwritten with zeros first. -/
def eradicateKey (found : Bool) (keyPath : FilePath) : Prog (Except String Bool) := do
  let fs ← getTree
  if (keyPath.locate fs).any (isThere fs) then
    let _ ← writeFile .zeroKey keyPath.locate (List.replicate 128 0)
    let _ ← removeFile .removeKey keyPath.entry
    return .ok true
  else return .ok found

/-- `delete_snapshot_with_base` on a target that was validated. -/
def deleteTarget (target : StorePath) : Prog (Except String Bool) := do
  let found := target.isThere (← getTree)
  match ← removeFound found target with
  | .error e => return .error s!"Failed to delete snapshot: {e}"
  | .ok () => eradicateKey found (target.withFileName snapshotKeyFilename)

/-- An operation on the target that a path stands for. -/
def onTarget {α : Type} (path base : RawPath) (operation : StorePath → Prog (Except String α)) :
    Prog (Except String α) := do
  match ← validateSnapshotPath lower cwd path base with
  | .error e => return .error s!"Snapshot path validation error: {e.message}"
  | .ok target => operation target

/-- `save_atomic_with_base`: the target, and the snapshot as the caller finds it afterwards. -/
def saveAtomicWithBase (now : Ambient) (snapshot : SystemStateSnapshot) (path base : RawPath) :
    Prog (Except String (StorePath × SystemStateSnapshot)) :=
  onTarget lower cwd path base (saveTarget cwd P now snapshot)

/-- `delete_snapshot_with_base`. -/
def deleteSnapshotWithBase (path base : RawPath) : Prog (Except String Bool) :=
  onTarget lower cwd path base deleteTarget

end Validate

end ValOpt.LinkedStore
