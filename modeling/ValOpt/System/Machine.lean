import Mathlib.Logic.Function.Basic
import ValOpt.Models.Snapshot
import ValOpt.Optimizations.Guid
import ValOpt.Text.Str

/-!
# The machine the optimizer changes

`Machine` holds the Windows settings the program reads and writes: the `GameBar` registry key, the
power schemes, the audio endpoints, the adapters, the QoS policies and the services.  `World` adds
the files of the machine and the directories they are in.  What Windows guarantees of such a state
is part of the type: the active scheme is an installed one, sub-keys of one registry key have
different names, and so have the advanced properties of an adapter, up to letter case.

Each write comes with the fields it leaves alone, as simp lemmas.
-/

namespace ValOpt

open Text

/-- The two values under `HKCU\Software\Microsoft\GameBar`. -/
structure GameBar where
  allowAutoGameMode : Option UInt32
  autoGameModeEnabled : Option UInt32
  deriving DecidableEq, Repr

/-- The advanced properties of one adapter: their keywords are names of registry values, which are
told apart up to letter case. -/
structure AdapterProperties where
  rows : List NicAdvancedProperty
  nodup : (rows.map fun p => asciiLower p.registryKeyword).Nodup

/-- The settings of a machine.  `fxProperties id` is the `FxProperties` sub-key of an endpoint, when
it exists, with its `SysFx` value. -/
structure Machine where
  gameBar : Option GameBar
  batteryFlag : Option UInt8
  activeScheme : Guid
  installedSchemes : List Guid
  endpoints : List String
  friendlyName : String → Option String
  fxProperties : String → Option (Option UInt32)
  primaryAdapter : Option String
  adapters : String → Option AdapterProperties
  qosPolicies : List String
  nlaSetting : Option String
  services : String → Option UInt32
  active_installed : activeScheme ∈ installedSchemes
  endpoints_nodup : endpoints.Nodup

namespace Machine

variable (m : Machine)

/-- The `SysFx` value of an endpoint. -/
def sysFx (id : String) : Option UInt32 := (m.fxProperties id).join

/-- `RegCreateKeyExW` on the `GameBar` key: open it, or make an empty one. -/
def createGameBar : Machine := { m with gameBar := some (m.gameBar.getD ⟨none, none⟩) }

/-- Write `AllowAutoGameMode` through an open key. -/
def setAllowAutoGameMode (v : UInt32) : Option Machine :=
  m.gameBar.map fun k => { m with gameBar := some { k with allowAutoGameMode := some v } }

/-- Write `AutoGameModeEnabled` through an open key. -/
def setAutoGameModeEnabled (v : UInt32) : Option Machine :=
  m.gameBar.map fun k => { m with gameBar := some { k with autoGameModeEnabled := some v } }

/-- `PowerSetActiveScheme`: only an installed scheme can be activated. -/
def setActiveScheme (g : Guid) : Option Machine :=
  if h : g ∈ m.installedSchemes then some { m with activeScheme := g, active_installed := h }
  else none

/-- Set the `FxProperties` key of an endpoint. -/
def setFxProperties (id : String) (v : Option UInt32) : Machine :=
  { m with fxProperties := Function.update m.fxProperties id (some v) }

@[simp] theorem sysFx_setFxProperties (id id' : String) (v : Option UInt32) :
    (m.setFxProperties id v).sysFx id' = if id' = id then v else m.sysFx id' := by
  by_cases h : id' = id
  · subst h
    simp [sysFx, setFxProperties]
  · simp [sysFx, setFxProperties, h]

end Machine

/-- The row that keyword matching finds takes the single value `v`. -/
def NicAdvancedProperty.assign (kw v : String) (p : NicAdvancedProperty) : NicAdvancedProperty :=
  if eqIgnoreAsciiCase p.registryKeyword kw then { p with registryValue := some [v] } else p

@[simp] theorem NicAdvancedProperty.registryKeyword_assign (kw v : String)
    (p : NicAdvancedProperty) : (p.assign kw v).registryKeyword = p.registryKeyword := by
  unfold assign
  split <;> rfl

/-- `Set-NetAdapterAdvancedProperty` on the rows of one adapter. -/
def AdapterProperties.assign (kw v : String) (a : AdapterProperties) : AdapterProperties where
  rows := a.rows.map (·.assign kw v)
  nodup := by
    rw [List.map_map]
    have hkey : (fun p => asciiLower p.registryKeyword) ∘ (·.assign kw v) =
        fun p : NicAdvancedProperty => asciiLower p.registryKeyword := by
      funext p
      simp
    rw [hkey]
    exact a.nodup

/-- `Set-NetAdapterAdvancedProperty`: the adapter and one of its properties must be named. -/
def Machine.setAdapter (m : Machine) (adapter kw v : String) : Option Machine :=
  match m.adapters adapter with
  | none => none
  | some a =>
    if a.rows.any fun p => eqIgnoreAsciiCase p.registryKeyword kw then
      some { m with adapters := Function.update m.adapters adapter (some (a.assign kw v)) }
    else none

/-! ### Files -/

/-- The place of a file: its directory and its name.  Names are taken up to the case folding of the
file system, and directories by their canonical path. -/
structure Path where
  dir : List String
  file : String
  deriving DecidableEq, Repr

namespace Path

/-- `Path::with_file_name`. -/
def withFileName (p : Path) (name : String) : Path := { p with file := name }

/-- `Path::components`. -/
def components (p : Path) : List String := p.dir ++ [p.file]

/-- `Path::parent`, the directory of a path as a path of its own. -/
def parent (p : Path) : Path := ⟨p.dir.dropLast, p.dir.getLast?.getD ""⟩

/-- `Path::display`. -/
def display (p : Path) : String := "\\".intercalate p.components

/-- What is inside a directory, and not the directory itself, has its own directory inside it. -/
theorem prefix_dir {p : Path} {base : List String} (h : base <+: p.components)
    (hne : p.components ≠ base) : base <+: p.dir := by
  rcases List.prefix_concat_iff.mp h with heq | hdir
  · exact absurd heq.symm hne
  · exact hdir

/-- The parent of a path with a directory is that directory. -/
theorem components_parent {p : Path} (h : p.dir ≠ []) : p.parent.components = p.dir := by
  rw [components, parent, List.getLast?_eq_some_getLast h, Option.getD_some,
    List.dropLast_append_getLast h]

theorem prefix_components {p : Path} {base : List String} (h : base <+: p.dir) :
    base <+: p.components := h.trans (List.prefix_append _ _)

@[simp] theorem dir_withFileName (p : Path) (name : String) : (p.withFileName name).dir = p.dir :=
  rfl
@[simp] theorem file_withFileName (p : Path) (name : String) :
    (p.withFileName name).file = name := rfl

end Path

/-- `Path::display` of a directory. -/
def displayDir (dir : List String) : String := "\\".intercalate dir

/-- The directories there are, by their components, and the one that the `ProgramData` variable of
the process names.  The programs change neither. -/
structure Drive where
  programData : Option (List String)
  directories : List (List String)

/-- A machine with its files. -/
@[ext]
structure World where
  machine : Machine
  files : Path → Option Bytes
  drive : Drive

namespace World

variable (w : World)

/-- The storage directory, `%ProgramData%\ValorantOptimizer`. -/
def storageDir : List String :=
  w.drive.programData.getD ["C:", "ProgramData"] ++ ["ValorantOptimizer"]

/-- The directory a path has to be in: the given one, or the storage directory. -/
def baseDir (allowedBase : Option (List String)) : List String := allowedBase.getD w.storageDir

/-- `OptimizationCoordinator::get_snapshot_path`. -/
def transactionPath : Path := ⟨w.storageDir, "active_transaction.json"⟩

/-- `SnapshotEngine::default_snapshot_path`. -/
def defaultSnapshotPath : Path := ⟨w.storageDir, "snapshot.json"⟩

/-- `CrashRecoveryService::default_recovery_log_path`. -/
def recoveryLogPath : Path := ⟨w.storageDir, "recovery.log"⟩

/-- Whether a path is a directory, for a program that has made the directory `base`. -/
def isDirectory (base : List String) (p : Path) : Bool :=
  (w.files p).isNone && (p.components <+: base || p.components ∈ w.drive.directories)

/-- `Path::exists`, for a program that has made the directory `base`. -/
def pathExists (base : List String) (p : Path) : Bool := (w.files p).isSome || w.isDirectory base p

/-- A change of the settings. -/
def onMachine (f : Machine → Option Machine) : Option World :=
  (f w.machine).map fun m => { w with machine := m }

/-- The file `p` holds `b` afterwards. -/
def writeFile (p : Path) (b : Bytes) : World :=
  { w with files := Function.update w.files p (some b) }

/-- What an interrupted write leaves: the old file, or a first part of the new one. -/
def tornWrite (p : Path) (b : Bytes) : ℕ → World
  | 0 => w
  | n + 1 => w.writeFile p (b.take n)

/-- The file `p` holds `b` behind its old content afterwards. -/
def appendFile (p : Path) (b : Bytes) : World := w.writeFile p ((w.files p).getD [] ++ b)

/-- What an interrupted append leaves: the old file, or a first part of what was appended. -/
def tornAppend (p : Path) (b : Bytes) : ℕ → World
  | 0 => w
  | n + 1 => w.appendFile p (b.take n)

/-- The file `p` is gone afterwards. -/
def removeFile (p : Path) : World := { w with files := Function.update w.files p none }

/-- The file at `src` takes the place of `dst`. -/
def moveFile (src dst : Path) : Option World :=
  (w.files src).map fun b => (w.removeFile src).writeFile dst b

@[simp] theorem machine_writeFile (p : Path) (b : Bytes) : (w.writeFile p b).machine = w.machine :=
  rfl
@[simp] theorem machine_removeFile (p : Path) : (w.removeFile p).machine = w.machine := rfl
@[simp] theorem drive_writeFile (p : Path) (b : Bytes) : (w.writeFile p b).drive = w.drive := rfl
@[simp] theorem drive_removeFile (p : Path) : (w.removeFile p).drive = w.drive := rfl
@[simp] theorem files_writeFile_self (p : Path) (b : Bytes) : (w.writeFile p b).files p = some b :=
  Function.update_self ..
@[simp] theorem files_removeFile_self (p : Path) : (w.removeFile p).files p = none :=
  Function.update_self ..

/-- What is a file exists, and is no directory. -/
theorem isDirectory_of_isSome {p : Path} (h : (w.files p).isSome) (base : List String) :
    w.isDirectory base p = false := by
  rw [isDirectory, Option.isNone_eq_false_iff.mpr h, Bool.false_and]

theorem files_of_isDirectory {w : World} {base : List String} {p : Path}
    (h : w.isDirectory base p = true) : w.files p = none := by
  rw [isDirectory, Bool.and_eq_true, Option.isNone_iff_eq_none] at h
  exact h.1

theorem pathExists_of_isSome {p : Path} (h : (w.files p).isSome) (base : List String) :
    w.pathExists base p = true := by
  rw [pathExists, h, Bool.true_or]

/-- The directory that a program has made exists. -/
theorem pathExists_of_components_eq {p : Path} {base : List String} (h : p.components = base) :
    w.pathExists base p = true := by
  cases hfile : w.files p with
  | some b => exact w.pathExists_of_isSome (by rw [hfile]; rfl) base
  | none =>
    have hprefix : p.components <+: base := h ▸ List.prefix_rfl
    simp [pathExists, isDirectory, hfile, hprefix]

/-- Removing a file that is not there. -/
theorem removeFile_of_none {p : Path} (h : w.files p = none) : w.removeFile p = w := by
  unfold removeFile
  rw [← h, Function.update_eq_self]

/-- Removing a file that was just written. -/
@[simp] theorem removeFile_writeFile (p : Path) (b : Bytes) :
    (w.writeFile p b).removeFile p = w.removeFile p := by
  unfold writeFile removeFile
  rw [Function.update_idem]

theorem files_writeFile_of_ne {p q : Path} (b : Bytes) (h : q ≠ p) :
    (w.writeFile p b).files q = w.files q := Function.update_of_ne h _ _

theorem isDirectory_writeFile_of_ne {p q : Path} (b : Bytes) (base : List String) (h : q ≠ p) :
    (w.writeFile p b).isDirectory base q = w.isDirectory base q := by
  rw [isDirectory, isDirectory, w.files_writeFile_of_ne b h, drive_writeFile]

theorem files_removeFile_of_ne {p q : Path} (h : q ≠ p) : (w.removeFile p).files q = w.files q :=
  Function.update_of_ne h _ _

end World

end ValOpt
