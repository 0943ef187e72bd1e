import ValOpt.Process.Terminator

/-!
# Sweeps over a changing system

The two sweeps over the running processes, `terminate_tier2_background_processes` of
`process/terminator.rs` and `purge_riot_client_cef` of `process/supervisor.rs`, one call of the
system at a time, while processes start and exit and windows open and close.

A process is an object of the system.  Its identifier is taken as long as the object is present,
which it is while the process runs or a handle to it is open, and may then go to another process.  A
window handle may be used again as soon as its window is closed.
-/

namespace ValOpt

open Text

/-! ### The system -/

/-- A process of the system, and what is left of it. -/
structure ProcessObject extends Process where
  alive : Bool
  present : Bool
  deriving DecidableEq, Repr

/-- What is done to a process. -/
inductive Touch where
  /-- `PostMessageW` with `WM_CLOSE`. -/
  | wmClose
  /-- `TerminateProcess`. -/
  | terminate
  deriving DecidableEq, Repr

inductive SweepKind where
  /-- `terminate_tier2_background_processes`, in the process with this identifier. -/
  | tier2 (currentPid : UInt32)
  /-- `purge_riot_client_cef`. -/
  | cef
  deriving DecidableEq, Repr

/-- Where a sweep stands.  Objects are given by their number, and windows by their handle. -/
inductive SweepPhase where
  /-- Before the next entry of the snapshot. -/
  | scanning
  /-- `purge_riot_client_cef`, about to open the process of an entry. -/
  | verifying (pid : UInt32) (exe : String)
  /-- `purge_riot_client_cef`, about to look at the path of the opened process. -/
  | verified (pid : UInt32) (exe : String)
  /-- `terminate_process_gracefully`, about to open the process. -/
  | opening (pid : UInt32)
  /-- In `EnumWindows`. -/
  | enumerating (pid : UInt32) (id : ℕ) (found : List ℕ)
  /-- In the loop over the windows. -/
  | posting (id : ℕ) (left : List ℕ)
  /-- In `WaitForSingleObject`. -/
  | waiting (id : ℕ)
  /-- About to call `TerminateProcess`. -/
  | forcing (id : ℕ)
  | finished
  deriving DecidableEq, Repr

/-- A sweep: the entries left of its snapshot, and the handle that `purge_riot_client_cef` keeps
open while it terminates the process. -/
structure Sweep where
  kind : SweepKind
  entries : List (UInt32 × String)
  phase : SweepPhase
  checkHandle : Option ℕ
  deriving DecidableEq, Repr

/-- The system, with the sweeps under way and all that they did to processes. -/
structure ProcessSystem where
  objects : List ProcessObject
  windows : List (ℕ × ℕ)
  sweeps : List Sweep
  touched : List (Touch × ℕ)

/-- What the next call of a sweep is answered: whether a process can be opened or terminated, the
window that `EnumWindows` comes to, and whether an exited process counts as active by its exit code
or by a wait that timed out. -/
structure SweepAnswer where
  succeeds : Bool
  window : Option ℕ
  stillActive : Bool
  deriving DecidableEq, Repr

/-- What can happen next. -/
inductive SweepEvent where
  | sweepStarts (kind : SweepKind)
  | processStarts (p : Process)
  | processExits (id : ℕ)
  /-- The last handle to an exited process is closed. -/
  | objectVanishes (id : ℕ)
  | windowOpens (hwnd : ℕ) (id : ℕ)
  | windowCloses (hwnd : ℕ)
  | advances (i : ℕ) (answer : SweepAnswer)
  deriving DecidableEq, Repr

/-! ### One sweep -/

/-- The names of the frontend of the Riot Client. -/
def isCefName (exe : String) : Bool := exe = "riotclientux.exe" || exe = "riotclientuxrender.exe"

/-- The paths that `purge_riot_client_cef` takes for genuine. -/
def isRiotClientPath (path : String) : Bool :=
  let pathLower := toLowercase path
  containsStr pathLower "riot client" || containsStr pathLower "riotclient"

namespace Sweep

/-- The objects that a sweep has handles to. -/
def handles (sweep : Sweep) : List ℕ := sweep.checkHandle.toList ++
  match sweep.phase with
  | .enumerating _ id _ | .posting id _ | .waiting id | .forcing id => [id]
  | _ => []

/-- On to the next entry, with all handles closed. -/
def next (sweep : Sweep) : Sweep := { sweep with phase := .scanning, checkHandle := none }

/-- The call of `terminate_process_gracefully`, up to `OpenProcess`. -/
def terminate (sweep : Sweep) (pid : UInt32) (processName : String) : Sweep :=
  match assertSafeToKill processName with
  | .error _ => sweep.next
  | .ok () => { sweep with phase := .opening pid }

/-- An entry of the snapshot. -/
def scan (sweep : Sweep) (pid : UInt32) (name : String) : Sweep :=
  match sweep.kind with
  | .tier2 currentPid =>
    if pid ≠ currentPid ∧ 4 < pid ∧ classifyProcess name = .tier2SafeTerminate then
      sweep.terminate pid name
    else sweep
  | .cef =>
    let exe := toLowercase name
    if isCefName exe then { sweep with phase := .verifying pid exe } else sweep

end Sweep

/-! ### Steps -/

/-- The object that a window belongs to. -/
def windowOwner (windows : List (ℕ × ℕ)) (hwnd : ℕ) : Option ℕ :=
  (windows.find? fun w => w.1 = hwnd).map (·.2)

namespace ProcessSystem

/-- The object that has an identifier. -/
def openProcess (s : ProcessSystem) (pid : UInt32) : Option ℕ :=
  s.objects.findIdx? fun p => p.present && p.pid = pid

/-- `GetWindowThreadProcessId`. -/
def windowPid (s : ProcessSystem) (hwnd : ℕ) : Option UInt32 :=
  (windowOwner s.windows hwnd).bind fun id => s.objects[id]?.map fun p => p.pid

def setSweep (s : ProcessSystem) (i : ℕ) (sweep : Sweep) : ProcessSystem :=
  { s with sweeps := s.sweeps.set i sweep }

/-- A process exits, with its windows. -/
def exitProcess (s : ProcessSystem) (id : ℕ) : ProcessSystem :=
  { s with
    objects := s.objects.modify id fun p => { p with alive := false }
    windows := s.windows.filter fun w => w.2 ≠ id }

/-- The next call of a sweep. -/
def advance (s : ProcessSystem) (i : ℕ) (sweep : Sweep) (answer : SweepAnswer) :
    Option ProcessSystem :=
  match sweep.phase with
  | .scanning =>
    match sweep.entries with
    | [] => some (s.setSweep i { sweep with phase := .finished })
    | (pid, name) :: entries => some (s.setSweep i (({ sweep with entries } : Sweep).scan pid name))
  | .verifying pid exe =>
    match (if answer.succeeds then s.openProcess pid else none) with
    | some id => some (s.setSweep i
        { sweep with phase := .verified pid exe, checkHandle := some id })
    | none => some (s.setSweep i sweep.next)
  | .verified pid exe =>
    let path := (sweep.checkHandle.bind fun id => s.objects[id]?).bind fun p => p.imagePath
    if path.any isRiotClientPath then some (s.setSweep i (sweep.terminate pid exe))
    else some (s.setSweep i sweep.next)
  | .opening pid =>
    match (if answer.succeeds then s.openProcess pid else none) with
    | some id => some (s.setSweep i { sweep with phase := .enumerating pid id [] })
    | none => some (s.setSweep i sweep.next)
  | .enumerating pid id found =>
    match answer.window with
    | some hwnd =>
      if s.windowPid hwnd = some pid then
        some (s.setSweep i { sweep with phase := .enumerating pid id (found ++ [hwnd]) })
      else some s
    | none => some (s.setSweep i { sweep with phase := .posting id found })
  | .posting id (hwnd :: left) => some { s.setSweep i { sweep with phase := .posting id left } with
      touched := s.touched ++ (windowOwner s.windows hwnd).toList.map fun id => (.wmClose, id) }
  | .posting id [] => some (s.setSweep i { sweep with phase := .waiting id })
  | .waiting id =>
    if s.objects[id]?.any (fun p => p.alive) || answer.stillActive then
      some (s.setSweep i { sweep with phase := .forcing id })
    else some (s.setSweep i sweep.next)
  | .forcing id =>
    let s := { s.setSweep i sweep.next with touched := s.touched ++ [(.terminate, id)] }
    some (if answer.succeeds then s.exitProcess id else s)
  | .finished => none

/-- One event. -/
def step : SweepEvent → ProcessSystem → Option ProcessSystem
  | .sweepStarts kind, s =>
    -- the snapshot has the names of the running processes
    let entries := (s.objects.filter fun p => p.alive).map fun p => (p.pid, p.name)
    some { s with sweeps := s.sweeps ++ [⟨kind, entries, .scanning, none⟩] }
  | .processStarts p, s =>
    if s.objects.any fun q => q.present && q.pid = p.pid then none
    else some { s with objects := s.objects ++ [⟨p, true, true⟩] }
  | .processExits id, s => some (s.exitProcess id)
  | .objectVanishes id, s =>
    if s.objects[id]?.any (fun p => p.alive) || s.sweeps.any (fun sweep => id ∈ sweep.handles) then
      none
    else some { s with objects := s.objects.modify id fun p => { p with present := false } }
  | .windowOpens hwnd id, s =>
    if s.objects[id]?.any (fun p => p.alive) && (windowOwner s.windows hwnd).isNone then
      some { s with windows := s.windows ++ [(hwnd, id)] }
    else none
  | .windowCloses hwnd, s =>
    some { s with windows := s.windows.filter fun w => w.1 ≠ hwnd }
  | .advances i answer, s =>
    match s.sweeps[i]? with
    | some sweep => s.advance i sweep answer
    | none => none

end ProcessSystem

end ValOpt
