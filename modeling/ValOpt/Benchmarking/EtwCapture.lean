import Mathlib.Data.List.Basic
import ValOpt.Effect.System

/-!
# Capture sessions

The life cycle of `EtwFrameCaptureEngine` of `benchmarking/etw_capture.rs`: the calls of its owner,
one access to the shared slots at a time, and the worker threads that the calls start.  The owner
makes one call after another (`drop` is a call of `stop_capture`).
-/

namespace ValOpt

/-! ### The system -/

/-- `encode_utf16`. -/
def encodeUtf16 (s : String) : List UInt16 :=
  s.toList.flatMap fun c =>
    let n := c.toNat
    if n < 0x10000 then [n.toUInt16]
    else [(0xD800 + (n - 0x10000) / 0x400).toUInt16, (0xDC00 + (n - 0x10000) % 0x400).toUInt16]

/-- The name that the system reads in the buffer of the session properties. -/
def bufferName (sessionName : String) : List UInt16 :=
  ((encodeUtf16 sessionName).take 127).takeWhile (· ≠ 0)

/-- A trace session that the engine has started, and whether the two providers are enabled for
it. -/
structure EtwSession where
  handle : ℕ
  name : List UInt16
  running : Bool
  dxgi : Bool
  d3d9 : Bool
  deriving DecidableEq, Repr

/-- The session ends, and with it the providers are disabled for it. -/
def EtwSession.stop (x : EtwSession) : EtwSession :=
  { x with running := false, dxgi := false, d3d9 := false }

/-- Where a worker thread stands. -/
inductive WorkerPhase where
  /-- Before `OpenTraceW`. -/
  | opening
  /-- In `ProcessTrace`. -/
  | processing
  /-- Before it stores `is_active`. -/
  | leaving
  | ended
  /-- Ended, and joined by `stop_capture`. -/
  | joined
  deriving DecidableEq, Repr

/-- Where the owner of the engine stands. -/
inductive Caller where
  | idle
  /-- In `start_real_capture`, with a session started. -/
  | traced (sessionName : String) (handle : ℕ)
  /-- In `start_real_capture`, before the worker is spawned. -/
  | activated
  /-- In `stop_capture`, which found the engine active. -/
  | swapped
  /-- In `stop_capture`, with the trace closed. -/
  | closed
  /-- In `stop_capture`, before the worker is joined. -/
  | joining
  deriving DecidableEq, Repr

/-- The engine and its worker threads, with the sessions it has started.  `overwrote` says that a
start stored its handle over that of a running session, and `stopped` that the last session was
started before the last call of `stop_capture` that returned. -/
structure EtwCapture where
  isActive : Bool
  sessionHandle : Option ℕ
  traceHandle : Option ℕ
  workerHandle : Option ℕ
  sessionName : String
  lastError : Option String
  caller : Caller
  workers : List WorkerPhase
  sessions : List EtwSession
  overwrote : Bool
  stopped : Bool
  deriving DecidableEq, Repr

/-- The arguments of `start_real_capture`, and what the system answers. -/
structure StartCall where
  sessionName : String
  elevated : Bool
  qpcFrequency : Int
  cleanedUp : Bool
  started : UInt32 ⊕ ℕ
  dxgiEnabled : Bool
  d3d9Enabled : Bool
  deriving DecidableEq, Repr

/-- What can happen next. -/
inductive CaptureEvent where
  | startRealCapture (call : StartCall)
  | activate
  | spawn
  | stopCapture
  | closeTrace
  /-- The two providers are disabled and the session is stopped, as far as the calls succeed. -/
  | stopSession (dxgiDisabled d3d9Disabled controlled : Bool)
  | join
  | openTrace (worker : ℕ) (handle : Option ℕ)
  | traceReturns (worker : ℕ)
  | deactivate (worker : ℕ)
  /-- Another program stops the session. -/
  | foreignStop (handle : ℕ)
  deriving DecidableEq, Repr

namespace EtwCapture

/-- `EtwFrameCaptureEngine::new`. -/
def new : EtwCapture where
  isActive := false
  sessionHandle := none
  traceHandle := none
  workerHandle := none
  sessionName := ""
  lastError := none
  caller := .idle
  workers := []
  sessions := []
  overwrote := false
  stopped := false

/-- The running sessions that `p` selects are changed. -/
def onRunning (p : EtwSession → Bool) (f : EtwSession → EtwSession) (sessions : List EtwSession) :
    List EtwSession :=
  sessions.map fun x => if x.running && p x then f x else x

/-! ### The calls -/

/-- `start_real_capture`, up to `EnableTraceEx2`.  The system does not give a name or a handle to
two running sessions. -/
def startRealCapture (call : StartCall) (s : EtwCapture) : Option EtwCapture :=
  if s.isActive then some { s with lastError := some "ETW capture session is already active" }
  else if !call.elevated then some { s with lastError := some "Administrator elevation required for ETW real-time session creation. Please run val-opt as Administrator to trace DXGI/D3D presentation events." }
  else if call.qpcFrequency ≤ 0 then some { s with lastError := some "Failed to query high-resolution hardware performance frequency (QPC)" }
  else
    let name := bufferName call.sessionName
    let sessions :=
      if call.cleanedUp then onRunning (fun x => x.name = name) .stop s.sessions else s.sessions
    match call.started with
    | .inl code => some { s with
        sessions
        lastError := some s!"StartTraceW failed to create ETW session '{call.sessionName}': Win32 error {code}" }
    | .inr handle =>
      if sessions.any fun x => x.running && (x.name = name || x.handle = handle) then none
      else some { s with
        sessions := sessions ++ [⟨handle, name, true, call.dxgiEnabled, call.d3d9Enabled⟩]
        caller := .traced call.sessionName handle
        stopped := false }

/-- The handle of a running session, other than the one just started, is in the slot. -/
def holdsRunning (s : EtwCapture) (handle : ℕ) : Bool :=
  s.sessions.any fun x => x.running && s.sessionHandle = some x.handle && x.handle ≠ handle

/-- `start_real_capture`, from the store of `is_active` to that of the session name. -/
def activate (sessionName : String) (handle : ℕ) (s : EtwCapture) : EtwCapture :=
  { s with
    isActive := true
    sessionHandle := some handle
    sessionName
    caller := .activated
    overwrote := s.overwrote || s.holdsRunning handle }

/-- `start_real_capture`, from `thread::spawn` on. -/
def spawn (s : EtwCapture) : EtwCapture :=
  { s with
    workers := s.workers ++ [.opening]
    workerHandle := some s.workers.length
    lastError := none
    caller := .idle }

/-- `stop_capture`, the swap of `is_active`. -/
def stopCapture (s : EtwCapture) : EtwCapture :=
  if s.isActive then { s with isActive := false, caller := .swapped }
  else { s with stopped := true }

/-- `stop_capture`, with the handle of the session taken from its slot. -/
def stopSession (dxgiDisabled d3d9Disabled controlled : Bool) (s : EtwCapture) : EtwCapture :=
  match s.sessionHandle with
  | none => { s with caller := .joining }
  | some handle =>
    let disable (x : EtwSession) : EtwSession :=
      { x with dxgi := x.dxgi && !dxgiDisabled, d3d9 := x.d3d9 && !d3d9Disabled }
    { s with
      sessions := onRunning (fun x => x.handle = handle)
        (fun x => if controlled then (disable x).stop else disable x) s.sessions
      sessionHandle := none
      caller := .joining }

/-- `stop_capture`, the join, which waits for the end of the worker. -/
def join (s : EtwCapture) : Option EtwCapture :=
  match s.workerHandle with
  | none => some { s with caller := .idle, stopped := true }
  | some i =>
    if s.workers[i]? = some .ended then
      some { s with
        workers := s.workers.set i .joined
        workerHandle := none
        caller := .idle
        stopped := true }
    else none

/-! ### Steps -/

/-- A worker goes on to another phase. -/
def setWorker (s : EtwCapture) (i : ℕ) (phase : WorkerPhase) : EtwCapture :=
  { s with workers := s.workers.set i phase }

/-- One event. -/
def step : CaptureEvent → EtwCapture → Option EtwCapture
  | .startRealCapture call, s => if s.caller = .idle then s.startRealCapture call else none
  | .activate, s =>
    match s.caller with
    | .traced sessionName handle => some (s.activate sessionName handle)
    | _ => none
  | .spawn, s => if s.caller = .activated then some s.spawn else none
  | .stopCapture, s => if s.caller = .idle then some s.stopCapture else none
  | .closeTrace, s =>
    if s.caller = .swapped then some { s with traceHandle := none, caller := .closed } else none
  | .stopSession dxgiDisabled d3d9Disabled controlled, s =>
    if s.caller = .closed then some (s.stopSession dxgiDisabled d3d9Disabled controlled) else none
  | .join, s => if s.caller = .joining then s.join else none
  | .openTrace i handle, s =>
    if s.workers[i]? = some .opening then
      match handle with
      | some h => some { s.setWorker i .processing with traceHandle := some h }
      | none => some (s.setWorker i .leaving)
    else none
  | .traceReturns i, s =>
    if s.workers[i]? = some .processing then some (s.setWorker i .leaving) else none
  | .deactivate i, s =>
    if s.workers[i]? = some .leaving then some { s.setWorker i .ended with isActive := false }
    else none
  | .foreignStop handle, s =>
    some { s with sessions := onRunning (fun x => x.handle = handle) .stop s.sessions }

end EtwCapture

end ValOpt
