import ValOpt.Effect.System
import ValOpt.Latency.Report

/-!
# A real session

`run_real_session`, as the handler of `GetLatencyReport` calls it on a manager of its own, with the
trace of the NT Kernel Logger that it starts.  The trace is the system's: it runs until it is
stopped by a call, whatever becomes of the worker and of the manager.
-/

namespace ValOpt

open Effect

variable {F : Type}

/-- A manager, and whether the trace that it has started is running. -/
structure KernelTrace (F : Type) where
  manager : KernelLatencySessionManager F
  running : Bool

/-- What happens to a trace beside the calls of its owner. -/
inductive TraceEvent where
  /-- `OpenTraceW` of the worker. -/
  | opens (ok : Bool)
  | kernelEvent (rec : KernelEventRecord)
  /-- `ProcessTrace` returns to the worker. -/
  | exits
  /-- Another program stops the trace. -/
  | foreignStop
  deriving DecidableEq, Repr

variable (A : Averages F)

/-- One event. -/
def KernelTrace.step : TraceEvent → KernelTrace F → Option (KernelTrace F)
  | .opens ok, t => (t.manager.step A (.opens ok)).map fun m => { t with manager := m }
  | .kernelEvent rec, t =>
    (t.manager.step A (.kernelEvent rec)).map fun m => { t with manager := m }
  | .exits, t => (t.manager.step A .exits).map fun m => { t with manager := m }
  | .foreignStop, t => some { t with running := false }

/-- How a session goes: the start, with the frequency of the counter if it succeeds, what happens in
the sleep, whether `ControlTraceW` stops the trace, and what happens until the worker is joined. -/
structure RealSession where
  started : Except StartFailure UInt64
  during : List TraceEvent
  controlled : Bool
  late : List TraceEvent

/-- `run_real_session`.  `stop_session` does nothing if the worker has left by then. -/
def runRealSession (session : RealSession) (m : KernelLatencySessionManager F) :
    Option (KernelTrace F) :=
  match session.started with
  | .error failure => (m.step A (.startFails failure)).map fun m => ⟨m, false⟩
  | .ok qpcFrequency => do
    let m ← m.step A (.starts qpcFrequency)
    let t ← exec (KernelTrace.step A) session.during ⟨m, true⟩
    let m ← t.manager.step A .stops
    if m.stopping then
      let t ← exec (KernelTrace.step A) session.late ⟨m, t.running && !session.controlled⟩
      let m ← t.manager.step A .joins
      return { t with manager := m }
    else return { t with manager := m }

end ValOpt
