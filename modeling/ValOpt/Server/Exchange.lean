import ValOpt.Effect.System
import ValOpt.Ipc.Framing
import ValOpt.Server.Handler

/-!
# The client and the daemon on the pipe

`ipc_client.rs` and the loop of `IpcServer::start`: the calls of `send_request` in the user
interface, each with its own steps, and the loop that serves one connection after the other.  What
was sent may arrive in part or not at all, a write may fail although its bytes arrive, and the
daemon may die at any time and be started again; the events of a run say when.  Each side has its
own process-wide state, and they share the machine.
-/

namespace ValOpt

open Effect Text

variable {F : Type}

/-! ### States -/

/-- Where a call of `send_request` stands. -/
inductive CallPhase (F V : Type) where
  /-- About to open the pipe. -/
  | opening
  /-- The pipe is open. -/
  | sending
  /-- The request is written, and the response is awaited. -/
  | reading
  /-- About to fall back after an error. -/
  | failed (e : String)
  | returned (response : IpcResponse F V)
  /-- The process died in the fallback. -/
  | died

/-- A call of `send_request`, and what has been sent to it. -/
structure ClientCall (F V : Type) where
  request : IpcRequest F
  phase : CallPhase F V
  received : Bytes

/-- A client at the pipe, by its call, and what it has sent. -/
structure Connection where
  call : ℕ
  pending : Bytes

/-- Where the loop of the daemon stands. -/
inductive LoopPhase (F V : Type) where
  /-- There is no daemon, or its loop has ended. -/
  | down
  | listening
  /-- A client has opened the pipe. -/
  | connecting (c : Connection)
  /-- The elevation of the client is known, and its line is to be read. -/
  | connected (c : Connection) (elevated : Bool)
  | handling (call : ℕ) (request : IpcRequest F) (elevated : Bool)
  /-- The response is to be written; after a `shutdown` the loop ends. -/
  | replying (call : ℕ) (response : IpcResponse F V) (shutdown : Bool)

inductive Party where
  | daemon
  | gui
  deriving DecidableEq, Repr

/-- A request that a handler was run for, on behalf of a call. -/
structure Execution (F : Type) where
  party : Party
  call : ℕ
  request : IpcRequest F

/-- The daemon, the user interface and the pipe between them. -/
structure Exchange (F V : Type) where
  daemon : Daemon
  gui : Daemon
  loop : LoopPhase F V
  calls : ℕ → ClientCall F V
  executions : List (Execution F)

/-- What can happen next.  A call takes a step, where `delivered` and `arrived` say how many of the
bytes get through; or the loop of the daemon does; or the daemon dies or is started. -/
inductive ExchangeEvent (F V : Type) where
  | opens (call : ℕ) (ok : Bool)
  | sends (call : ℕ) (delivered : ℕ) (ok : Bool)
  | receives (call : ℕ) (arrived : ℕ) (ok : Bool)
  | fallsBack (call : ℕ) (a : Answers F V)
  | accepts (elevated : Bool)
  | drops
  | reads (arrived : ℕ) (ok : Bool)
  | handles (a : Answers F V)
  | replies (delivered : ℕ)
  | dies
  | starts (currentPid : UInt32)

/-! ### Steps -/

/-- The machine as the other process left it. -/
def Daemon.see (d other : Daemon) : Daemon :=
  { d with world := other.world, processes := other.processes }

/-- Bytes of a call arrive, as long as its connection is there. -/
def Connection.deliver (c : Connection) (call : ℕ) (bytes : Bytes) : Connection :=
  if c.call = call then { c with pending := c.pending ++ bytes } else c

def LoopPhase.deliver {V : Type} (call : ℕ) (bytes : Bytes) : LoopPhase F V → LoopPhase F V
  | connecting c => connecting (c.deliver call bytes)
  | connected c elevated => connected (c.deliver call bytes) elevated
  | l => l

/-- What `read_line` makes of the bytes that arrived: no line that is not UTF-8. -/
def receiveLine (bytes : Bytes) (ok : Bool) : Option Bytes :=
  let line := (readLine bytes).1
  if ok && (fromUtf8 line).isSome then some line else none

/-- A call goes over to another phase. -/
def Exchange.setPhase {V : Type} (s : Exchange F V) (call : ℕ) (phase : CallPhase F V) :
    Exchange F V :=
  { s with calls := Function.update s.calls call { s.calls call with phase := phase } }

variable (P : Platform) (w : Wire F)

/-- The client's end of a response. -/
def receiveResponse (bytes : Bytes) (ok : Bool) : Except String (IpcResponse F w.Value) :=
  match receiveLine bytes ok with
  | some line => decodeMessage w w.response line
  | none => .error "Failed to read IPC response"

/-- One step of both sides. -/
def Exchange.step : ExchangeEvent F w.Value → Exchange F w.Value → Option (Exchange F w.Value)
  | .opens i ok, s =>
    match (s.calls i).phase with
    | .opening =>
      if ok then
        match s.loop with
        | .listening => some { s.setPhase i .sending with loop := .connecting ⟨i, []⟩ }
        | _ => none
      -- a daemon that could be spawned is there, or it is not
      else some (s.setPhase i (.failed "Pipe open failed"))
    | _ => none
  | .sends i delivered ok, s =>
    match (s.calls i).phase with
    | .sending =>
      let bytes := (encodeMessage w w.request (s.calls i).request).take delivered
      some { s.setPhase i (if ok then .reading else .failed "Failed to send IPC request") with
        loop := s.loop.deliver i bytes }
    | _ => none
  | .receives i arrived ok, s =>
    match (s.calls i).phase with
    | .reading =>
      match receiveResponse w ((s.calls i).received.take arrived) ok with
      | .ok response => some (s.setPhase i (.returned response))
      | .error e => some (s.setPhase i (.failed e))
    | _ => none
  | .fallsBack i a, s =>
    match (s.calls i).phase with
    | .failed _ =>
      let executions := s.executions ++ [⟨.gui, i, (s.calls i).request⟩]
      match handleRequest P a (s.calls i).request s.gui with
      | .returned response d => some { s.setPhase i (.returned response) with
          gui := d, daemon := s.daemon.see d, executions := executions }
      | .crashed d => some { s.setPhase i .died with
          gui := d, daemon := s.daemon.see d, executions := executions }
    | _ => none
  | .accepts elevated, s =>
    match s.loop with
    | .connecting c => some { s with loop := .connected c elevated }
    | _ => none
  | .drops, s =>
    -- the handle of the pipe could not be duplicated
    match s.loop with
    | .connected _ _ => some { s with loop := .listening }
    | _ => none
  | .reads arrived ok, s =>
    match s.loop with
    | .connected c elevated =>
      match receiveLine (c.pending.take arrived) ok with
      | none | some [] => some { s with loop := .listening }
      | some line =>
        match decodeMessage w w.request line with
        | .ok request => some { s with loop := .handling c.call request elevated }
        | .error e => some { s with loop := .replying c.call (.error "INVALID_REQUEST" e) false }
    | _ => none
  | .handles a, s =>
    match s.loop with
    | .handling i request elevated =>
      let executions := s.executions ++ [⟨.daemon, i, request⟩]
      match handleRequestAuthorized P a request elevated s.daemon with
      | .returned response d =>
        let shutdown := match request with
          | .shutdownDaemon => elevated
          | _ => false
        some { s with
          daemon := d, gui := s.gui.see d, loop := .replying i response shutdown
          executions := executions }
      | .crashed d => some { s with
          daemon := d, gui := s.gui.see d, loop := .down, executions := executions }
    | _ => none
  | .replies delivered, s =>
    match s.loop with
    | .replying i response shutdown =>
      let bytes := (encodeMessage w w.response response).take delivered
      some { s with
        loop := if shutdown then .down else .listening
        calls := Function.update s.calls i
          { s.calls i with received := (s.calls i).received ++ bytes } }
    | _ => none
  | .dies, s => some { s with loop := .down }
  | .starts currentPid, s =>
    match s.loop with
    | .down => some { s with
        daemon := .start s.daemon.world s.daemon.processes currentPid, loop := .listening }
    | _ => none

/-- Both sides before any call. -/
def Exchange.start {V : Type} (daemon gui : Daemon) (loop : Bool) (requests : ℕ → IpcRequest F) :
    Exchange F V :=
  ⟨daemon, gui.see daemon, if loop then .listening else .down, fun i => ⟨requests i, .opening, []⟩,
    []⟩

end ValOpt
