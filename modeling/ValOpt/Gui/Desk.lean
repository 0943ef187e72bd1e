import ValOpt.Gui.Window
import ValOpt.Server.Exchange

/-!
# The interface at work

The event loop of the interface over the exchange with the daemon.  `initialize_telemetry` and the
buttons for the launch, the commit and the rollback wait in the thread of the window until their
call of `send_request` returns; the buttons for a test start a thread that waits, and what it shows
comes back through the event loop.  The process ends when the window is closed, by a launch, or with
a handler that dies in it.
-/

namespace ValOpt

open Effect

variable {F : Type}

/-- What a call of the interface is made for. -/
inductive Action where
  | status
  | launch
  | apply
  | rollback
  | bufferbloat
  | latency
  deriving DecidableEq, Repr

/-- The request of a call. -/
def Action.request {V : Type} (t : Texts F V) : Action → IpcRequest F
  | .status => .getStatus
  | .launch => .launchOptimizedGame true
  | .apply => .applyOptimizations
  | .rollback => .rollbackOptimizations
  | .bufferbloat => .runBufferbloatTest
  | .latency => .getLatencyReport t.one

/-- Where the thread of the window stands. -/
inductive UiThread where
  /-- Before `initialize_telemetry`. -/
  | created
  | idle
  | waiting (call : ℕ)
  | exited
  deriving DecidableEq, Repr

/-- A response that the interface has dealt with. -/
structure Receipt (F V : Type) where
  call : ℕ
  response : IpcResponse F V

/-- The interface and the exchange.  `actions` says what each call is made for, and `tests` are the
calls of the threads that wait.  A process that is `headless`, as `--headless` and `--test-render`
ask for, does not enter the event loop, and `closed` says that `main` has returned. -/
structure Desk (F V : Type) where
  exchange : Exchange F V
  actions : ℕ → Action
  headless : Bool
  window : Window
  thread : UiThread
  tests : List ℕ
  delivered : List (Receipt F V)
  closed : Bool

/-- What can happen next: a step of the exchange, or one of the thread of the window. -/
inductive DeskEvent (F V : Type) where
  | pipe (e : ExchangeEvent F V)
  | initializes (manifest : Except String FullSystemManifest) (call : ℕ)
  | clicks (call : ℕ)
  | returns
  | shows (call : ℕ)
  | closes

/-- The call of the interface that takes the step. -/
def ExchangeEvent.caller {V : Type} : ExchangeEvent F V → Option ℕ
  | .opens i _ | .sends i _ _ | .receives i _ _ | .fallsBack i _ => some i
  | _ => none

/-- What the window makes of a response; `none` where the process exits. -/
def Window.respond {V : Type} (t : Texts F V) (w : Window) (action : Action)
    (r : IpcResponse F V) : Option Window :=
  match action with
  | .status => some (w.showStatus (.ok r))
  | .launch => w.launchClicked w.unloadGuiOnLaunch
      (triggerLaunchAndUnload t.debug w.unloadGuiOnLaunch r)
  | .apply => some (w.applyAllClicked (.ok r))
  | .rollback => some (w.rollbackAllClicked (.ok r))
  | .bufferbloat => some (w.showBufferbloat t (.ok r))
  | .latency => some (w.showLatency (.ok r))

namespace Desk

variable {V : Type}

/-- The calls that some thread waits for. -/
def awaited (s : Desk F V) : List ℕ :=
  match s.thread with
  | .waiting i => i :: s.tests
  | _ => s.tests

/-- The end of the process. -/
def exit (s : Desk F V) : Desk F V := { s with thread := .exited, tests := [] }

/-- A call has not begun. -/
def isNew (s : Desk F V) (i : ℕ) : Bool :=
  match (s.exchange.calls i).phase with
  | .opening => decide (i ∉ s.awaited)
  | _ => false

/-- A response is dealt with. -/
def deliver (t : Texts F V) (s : Desk F V) (i : ℕ) (r : IpcResponse F V) : Desk F V :=
  let s : Desk F V := { s with delivered := s.delivered ++ [⟨i, r⟩] }
  match s.window.respond t (s.actions i) r with
  | some window => { s with window, thread := .idle, tests := s.tests.erase i }
  | none => s.exit

/-- A button is clicked. -/
def click (s : Desk F V) (i : ℕ) : Option (Desk F V) :=
  match s.actions i with
  | .status => none
  | .bufferbloat =>
    some { s with window := s.window.runBufferbloatClicked, tests := s.tests ++ [i] }
  | .latency =>
    some { s with window := s.window.runLatencyProfileClicked, tests := s.tests ++ [i] }
  | .launch | .apply | .rollback => some { s with thread := .waiting i }

/-- After a step of the exchange: a handler that dies takes its process along. -/
def afterStep (s : Desk F V) (e : ExchangeEvent F V) (x : Exchange F V) : Desk F V :=
  let s : Desk F V := { s with exchange := x }
  match e.caller with
  | some i =>
    match (x.calls i).phase with
    | .died => s.exit
    | _ => s
  | none => s

/-- One step. -/
def step (P : Platform) (w : Wire F) (t : Texts F w.Value) :
    DeskEvent F w.Value → Desk F w.Value → Option (Desk F w.Value)
  | .pipe e, s =>
    if ∀ i ∈ e.caller, i ∈ s.awaited then
      (Exchange.step P w e s.exchange).map (s.afterStep e)
    else none
  | .initializes manifest i, s =>
    if s.thread = .created ∧ s.actions i = .status ∧ s.isNew i then
      some { s with window := s.window.showManifest manifest, thread := .waiting i }
    else none
  | .clicks i, s =>
    if s.thread = .idle ∧ s.headless = false ∧ s.isNew i then s.click i else none
  | .returns, s =>
    match s.thread with
    | .waiting i =>
      match (s.exchange.calls i).phase with
      | .returned r => some (s.deliver t i r)
      | _ => none
    | _ => none
  | .shows i, s =>
    if s.thread = .idle ∧ i ∈ s.tests then
      match (s.exchange.calls i).phase with
      | .returned r => some (s.deliver t i r)
      | _ => none
    else none
  -- `main` returns: there is no window, none is to be shown, or it is closed
  | .closes, s =>
    if s.thread = .created ∨ s.thread = .idle then some { s.exit with closed := true } else none

/-- The interface before anything happens. -/
def start (t : Texts F V) (daemon gui : Daemon) (loop headless : Bool) (actions : ℕ → Action) :
    Desk F V where
  exchange := .start daemon gui loop fun i => (actions i).request t
  actions
  headless
  window := .new
  thread := .created
  tests := []
  delivered := []
  closed := false

end Desk

end ValOpt
