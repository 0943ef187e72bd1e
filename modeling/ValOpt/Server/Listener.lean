import ValOpt.Effect.System
import ValOpt.Ipc.Message

/-!
# The listener threads of the pipe

`IpcServer` of `ipc_server.rs`: the flag `is_running`, which `start`, `stop` and the listener
threads share.  A listener creates the pipe and then serves one client after the other, looking at
the flag on the way.  `start` does not wait for an earlier listener, so there may be several.
-/

namespace ValOpt

open Effect

variable {F : Type}

/-- Where a listener thread stands. -/
inductive ListenerPhase where
  /-- About to create the pipe. -/
  | creating
  /-- At the head of its loop. -/
  | checking
  /-- In `ConnectNamedPipe`. -/
  | connecting
  /-- No client has connected. -/
  | retrying
  /-- A client has connected. -/
  | connected
  /-- Serving a client. -/
  | serving
  /-- Out of its loop, and about to close the pipe. -/
  | leaving
  | ended
  deriving DecidableEq, Repr

/-- The thread has a handle to the pipe open. -/
def ListenerPhase.holdsPipe : ListenerPhase → Bool
  | .creating | .ended => false
  | _ => true

/-- `IpcServer`, with every listener it spawned; `server_handle` is the last of them. -/
structure IpcServer where
  isRunning : Bool
  listeners : List ListenerPhase
  deriving DecidableEq, Repr

/-- What can happen next: a call of the owner, or a step of a listener, by its number. -/
inductive IpcEvent (F : Type) where
  | start
  | stop
  /-- The system can create the first instance of the pipe, or not. -/
  | create (i : ℕ) (succeeds : Bool)
  /-- The thread reads the flag. -/
  | look (i : ℕ)
  | connect (i : ℕ) (succeeds : Bool)
  /-- The client is served; there is no request if none can be read or decoded. -/
  | serve (i : ℕ) (request : Option (IpcRequest F)) (elevated : Bool)
  | close (i : ℕ)

/-- The request is `ShutdownDaemon`. -/
def IpcRequest.isShutdown : IpcRequest F → Bool
  | .shutdownDaemon => true
  | _ => false

namespace IpcServer

/-- `IpcServer::new`. -/
def new : IpcServer := ⟨false, []⟩

variable (s : IpcServer)

/-- `start`. -/
def start : Except String Unit × IpcServer :=
  if s.isRunning then (.error "IPC server is already running", s)
  else (.ok (), ⟨true, s.listeners ++ [.creating]⟩)

/-- `stop`; the client that it connects is one of those that may come. -/
def stop : IpcServer := { s with isRunning := false }

/-- The name of the pipe is taken by a listener. -/
def holdsPipe : Bool := s.listeners.any ListenerPhase.holdsPipe

def setListener (i : ℕ) (phase : ListenerPhase) : IpcServer :=
  { s with listeners := s.listeners.set i phase }

/-- The step of a listener in this phase, if it can take it. -/
def listenerStep (i : ℕ) (phase : ListenerPhase) (next : IpcServer) : Option IpcServer :=
  if s.listeners[i]? = some phase then some next else none

/-- One step of the server. -/
def step : IpcEvent F → IpcServer → Option IpcServer
  | .start, s => some s.start.2
  | .stop, s => some s.stop
  | .create i succeeds, s =>
    -- `FILE_FLAG_FIRST_PIPE_INSTANCE`: the name must be free
    s.listenerStep i .creating
      (s.setListener i (if succeeds && !s.holdsPipe then .checking else .ended))
  | .look i, s =>
    match s.listeners[i]? with
    | some .checking => some (s.setListener i (if s.isRunning then .connecting else .leaving))
    | some .retrying => some (s.setListener i (if s.isRunning then .checking else .leaving))
    | some .connected => some (s.setListener i (if s.isRunning then .serving else .leaving))
    | _ => none
  | .connect i succeeds, s =>
    s.listenerStep i .connecting (s.setListener i (if succeeds then .connected else .retrying))
  | .serve i request elevated, s =>
    s.listenerStep i .serving
      { s.setListener i .checking with
        isRunning := s.isRunning && !(request.any IpcRequest.isShutdown && elevated) }
  | .close i, s => s.listenerStep i .leaving (s.setListener i .ended)

end IpcServer

end ValOpt
