import ValOpt.Effect.System
import ValOpt.Server.Handler
import ValOpt.System.Desktop

/-!
# Handlers and threads, interleaved

`Server` is the daemon with the handlers that are under way.  Its steps are those of the handlers,
of the supervisor threads and of the processes around the daemon, in any order.  Without
interference, a handler's steps amount to `handleRequestAuthorized` (`exec_of_handleRequest`).

`Host` is the daemon as the clients of the pipe see it: one request after the other, each as a
whole, and a panic ends the process.
-/

namespace ValOpt

open Effect

variable {F V : Type}

/-! ### Processes around the daemon -/

namespace Daemon

variable (d : Daemon)

/-- Another process has started. -/
def startProcess (p : Process) : Daemon := { d with processes := d.processes ++ [p] }

/-- A process has ended by itself. -/
def exitProcess (pid : UInt32) : Daemon :=
  { d with processes := d.processes.filter (·.pid ≠ pid) }

end Daemon

/-! ### Handlers under way -/

/-- The daemon, and what is left to do of the requests it works on. -/
structure Server where
  daemon : Daemon
  jobs : List Job

/-- What can happen next: a request comes in, a handler or a thread takes a step, or a process
starts or ends. -/
inductive ServerEvent (F : Type) where
  | request (vanguard : Except String Unit) (elevated : Bool) (request : IpcRequest F)
  | job (k : ℕ) (env : Env Call) (now : Ambient) (access : ProcessAccess)
  | supervisor (i : ℕ) (env : Env Call) (access : ProcessAccess)
  | processStarts (p : Process)
  | processExits (pid : UInt32)

/-- The job of a request that came in. -/
def IpcRequest.admitted (request : IpcRequest F) (vanguard : Except String Unit)
    (elevated : Bool) : Option Job :=
  if request.isPrivileged && !elevated then none else request.job vanguard

/-- The handlers after the one in place `k` took a step and has `rest` left to do. -/
def restOfJobs (jobs : List Job) (k : ℕ) : Option Job → List Job
  | some rest => jobs.set k rest
  | none => jobs.eraseIdx k

/-- One step of the server; there is none where the daemon dies. -/
def Server.step (P : Platform) : ServerEvent F → Server → Option Server
  | .request vanguard elevated request, s =>
    some { s with jobs := s.jobs ++ (request.admitted vanguard elevated).toList }
  | .job k env now access, s =>
    match s.jobs[k]? with
    | none => none
    | some j =>
      match j.step P env now access s.daemon with
      | .returned rest d => some ⟨d, restOfJobs s.jobs k rest⟩
      | .crashed _ => none
  | .supervisor i env access, s =>
    (s.daemon.supervisorStep P env access i).map fun d => { s with daemon := d }
  | .processStarts p, s => some { s with daemon := s.daemon.startProcess p }
  | .processExits pid, s => some { s with daemon := s.daemon.exitProcess pid }

/-- A server that has just started. -/
def Server.start (world : World) (processes : List Process) (currentPid : UInt32) : Server :=
  ⟨.start world processes currentPid, []⟩

/-! ### Whole handlers -/

theorem Daemon.state_onWorld (d : Daemon) {α : Type} (m : Prog α) (env : Env Call) :
    (d.onWorld m env).state = { d with world := (m.run env d.world).state } := by
  unfold onWorld
  cases m.run env d.world <;> rfl

/-- A request without a job leaves the daemon as it is. -/
theorem state_handleRequestAuthorized_of_none (P : Platform) {a : Answers F V}
    {request : IpcRequest F} {elevated : Bool} (h : request.admitted a.vanguard elevated = none)
    (d : Daemon) : (handleRequestAuthorized P a request elevated d).state = d := by
  unfold IpcRequest.admitted at h
  unfold handleRequestAuthorized
  split at h
  · next hdenied => rw [if_pos hdenied, Run.state_returned]
  next hpass =>
    rw [if_neg hpass]
    cases request with
    | ping => rfl
    -- The only one of these requests that makes a call, and the call only reads.
    | getStatus =>
      have hsame : (d.onWorld (readMachine .detectPrimary fun m => m.primaryAdapter) a.env).state =
          d := by
        rw [Daemon.state_onWorld, preserves_readMachine.state (I := fun w => w = d.world) rfl]
      dsimp only
      cases hread : d.onWorld (readMachine .detectPrimary fun m => m.primaryAdapter) a.env with
      | returned adapter d' =>
        rw [hread] at hsame
        exact hsame
      | crashed d' =>
        rw [hread] at hsame
        exact hsame
    | inspectSystem =>
      dsimp only
      cases a.inspect <;> rfl
    | getLatencyReport durationSecs =>
      dsimp only
      split <;> rfl
    | runBufferbloatTest =>
      dsimp only
      cases a.bufferbloat <;> rfl
    | trimWorkingSet => rfl
    -- A launch without a job is one that the check has turned down.
    | launchOptimizedGame autoRelaunchGui =>
      cases hv : a.vanguard with
      | error e => rfl
      | ok =>
        rw [hv] at h
        cases h
    | applyOptimizations => cases h
    | rollbackOptimizations => cases h
    | purgeBloatware => cases h
    | shutdownDaemon => cases h

/-- A step of the only handler. -/
theorem exec_job {P : Platform} {env : Env Call} {now : Ambient} {access : ProcessAccess}
    {j : Job} {d d' : Daemon} {r : Option Job}
    (h : j.step P env now access d = .returned r d') (events : List (ServerEvent F)) :
    exec (Server.step P) (.job 0 env now access :: events) ⟨d, [j]⟩ =
      exec (Server.step P) events ⟨d', r.toList⟩ := by
  have hrest : restOfJobs [j] 0 r = r.toList := by cases r <;> rfl
  rw [exec_cons, Server.step]
  simp only [List.getElem?_cons_zero, h, hrest, Option.bind_some]

/-- The same for a step that runs a program of the optimizer. -/
theorem exec_program {P : Platform} {env : Env Call} {now : Ambient} {access : ProcessAccess}
    {j : Job} {d d' : Daemon} {r : Option Job} {α : Type} {m : Prog α} {outcome : α}
    (hj : j.step P env now access d = (d.onWorld m env).bind fun _ d => .returned r d)
    (h : d.onWorld m env = .returned outcome d') (events : List (ServerEvent F)) :
    exec (Server.step P) (.job 0 env now access :: events) ⟨d, [j]⟩ =
      exec (Server.step P) events ⟨d', r.toList⟩ := by
  apply exec_job
  rw [hj, h, Run.bind_returned]

/-- Alone, the job of a rollback stops the game and recovers both kinds of records. -/
theorem exec_stopAndRecover {P : Platform} {env : Env Call} {now : Ambient}
    {access : ProcessAccess} {d d₁ d₂ : Daemon} {crashReport : Except String RecoveryReport}
    {coordReport : Except String Bool}
    (hsnapshot : d.stopActive.onWorld (checkAndRecover P now none) env = .returned crashReport d₁)
    (htransaction : d₁.onWorld (recoverOrphanedTransaction P) env = .returned coordReport d₂) :
    exec (Server.step P) (List.replicate 3 (.job 0 env now access : ServerEvent F))
      ⟨d, [.stopAndRecover]⟩ = some ⟨d₂, []⟩ := by
  rw [List.replicate_succ, List.replicate_succ, List.replicate_one, exec_job rfl,
    Option.toList_some,
    exec_program (j := .recoverSnapshot) (r := some .recoverTransaction) rfl hsnapshot,
    Option.toList_some,
    exec_program (j := .recoverTransaction) (r := none) rfl htransaction]
  rfl

/-- Alone, the job of a launch closes programs, applies the optimizations and starts a thread. -/
theorem exec_close {P : Platform} {env : Env Call} {now : Ambient} {access : ProcessAccess}
    {d d₁ : Daemon} {outcome : Except String OptimizationTransaction}
    (happly : (d.closeApps access).onWorld (applyOptimizations P now) env =
      .returned outcome d₁) :
    exec (Server.step P) (List.replicate 4 (.job 0 env now access : ServerEvent F))
      ⟨d, [.close]⟩ =
        some ⟨(d₁.swapSignal d.supervisors.length).spawn d.supervisors.length, []⟩ := by
  rw [List.replicate_succ, List.replicate_succ, List.replicate_succ, List.replicate_one,
    exec_job rfl, Option.toList_some,
    exec_program (j := .applyLaunch d.supervisors.length)
      (r := some (.swap d.supervisors.length)) rfl happly,
    Option.toList_some, exec_job rfl, Option.toList_some, exec_job rfl]
  rfl

/-- Alone, the handler of a request does what `handleRequestAuthorized` does. -/
theorem exec_of_handleRequest (P : Platform) {a : Answers F V} {request : IpcRequest F}
    {elevated : Bool} {d d' : Daemon} {response : IpcResponse F V}
    (h : handleRequestAuthorized P a request elevated d = .returned response d') :
    ∃ n, exec (Server.step P) (.request a.vanguard elevated request ::
      List.replicate n (.job 0 a.env a.now a.access)) ⟨d, []⟩ = some ⟨d', []⟩ := by
  cases hjob : request.admitted a.vanguard elevated with
  | none =>
    have hstate := state_handleRequestAuthorized_of_none P hjob d
    rw [h, Run.state_returned] at hstate
    refine ⟨0, ?_⟩
    rw [List.replicate_zero, exec_cons, Server.step, hjob, hstate]
    rfl
  | some j =>
    have hstart : ∀ events, exec (Server.step P) (.request a.vanguard elevated request :: events)
        ⟨d, []⟩ = exec (Server.step P) events ⟨d, [j]⟩ := by
      intro events
      rw [exec_cons, Server.step, hjob]
      rfl
    have hpass : ¬ (request.isPrivileged && !elevated) := by
      intro hdenied
      rw [IpcRequest.admitted, if_pos hdenied] at hjob
      cases hjob
    rw [IpcRequest.admitted, if_neg hpass] at hjob
    unfold handleRequestAuthorized at h
    rw [if_neg hpass] at h
    cases request with
    | ping => cases hjob
    | getStatus => cases hjob
    | inspectSystem => cases hjob
    | getLatencyReport durationSecs => cases hjob
    | runBufferbloatTest => cases hjob
    | trimWorkingSet => cases hjob
    | applyOptimizations =>
      cases hjob
      refine ⟨1, ?_⟩
      dsimp only at h
      cases happly : d.onWorld (applyOptimizations P a.now) a.env with
      | crashed d₁ =>
        rw [happly] at h
        cases h
      | returned outcome d₁ =>
        have hd : d₁ = d' := by
          rw [happly, Run.bind_returned] at h
          cases outcome <;> cases h <;> rfl
        rw [hstart, List.replicate_one, exec_program (j := .apply) (r := none) rfl happly, hd]
        rfl
    | rollbackOptimizations =>
      cases hjob
      refine ⟨3, ?_⟩
      dsimp only at h
      cases hsnapshot : d.stopActive.onWorld (checkAndRecover P a.now none) a.env with
      | crashed d₁ =>
        rw [hsnapshot] at h
        cases h
      | returned crashReport d₁ =>
        rw [hsnapshot, Run.bind_returned] at h
        cases htransaction : d₁.onWorld (recoverOrphanedTransaction P) a.env with
        | crashed d₂ =>
          rw [htransaction] at h
          cases h
        | returned coordReport d₂ =>
          rw [htransaction] at h
          cases h
          rw [hstart]
          exact exec_stopAndRecover hsnapshot htransaction
    | purgeBloatware =>
      cases hjob
      refine ⟨1, ?_⟩
      have hd : d' = { d with processes :=
          (terminateTier2BackgroundProcesses a.access d.currentPid d.processes).2 } := by
        dsimp only at h
        cases houtcome : (terminateTier2BackgroundProcesses a.access d.currentPid d.processes).1
        all_goals
          rw [houtcome] at h
          cases h
          rfl
      rw [hstart, List.replicate_one, exec_job rfl, hd]
      rfl
    | launchOptimizedGame autoRelaunchGui =>
      cases hv : a.vanguard with
      | error e =>
        rw [hv] at hjob
        cases hjob
      | ok =>
        rw [hv] at hjob
        cases hjob
        refine ⟨4, ?_⟩
        rw [hv] at h hstart
        dsimp only at h
        cases happly : (d.closeApps a.access).onWorld (applyOptimizations P a.now) a.env with
        | crashed d₁ =>
          rw [happly] at h
          cases h
        | returned outcome d₁ =>
          have hd : (d₁.swapSignal d.supervisors.length).spawn d.supervisors.length = d' := by
            rw [happly, Run.bind_returned] at h
            -- the launch changes nothing, and a panic does not return
            split at h <;> cases h <;> rfl
          rw [hstart, ← hd]
          exact exec_close happly
    | shutdownDaemon =>
      cases hjob
      cases h
      refine ⟨1, ?_⟩
      rw [hstart, List.replicate_one, exec_job rfl]
      rfl

/-! ### Requests of the pipe -/

/-- The daemon behind its pipe, as long as its process is alive. -/
structure Host where
  daemon : Daemon
  alive : Bool

/-- What can happen next to clients without elevation. -/
inductive PipeEvent (F V : Type) where
  | request (a : Answers F V) (request : IpcRequest F)
  | supervisor (i : ℕ) (env : Env Call) (access : ProcessAccess)
  | processStarts (p : Process)
  | processExits (pid : UInt32)

/-- One step of the host, whose clients are not elevated. -/
def Host.step (P : Platform) : PipeEvent F V → Host → Option Host
  | .request a request, h =>
    if h.alive then
      match handleRequestAuthorized P a request false h.daemon with
      | .returned _ d => some ⟨d, true⟩
      | .crashed d => some ⟨d, false⟩
    else none
  | .supervisor i env access, h =>
    if h.alive then (h.daemon.supervisorStep P env access i).map fun d => { h with daemon := d }
    else none
  | .processStarts p, h => some { h with daemon := h.daemon.startProcess p }
  | .processExits pid, h => some { h with daemon := h.daemon.exitProcess pid }

/-- The answers of a system that works, for a client that asks for no report. -/
def Answers.working : Answers Unit Unit where
  env := .faultless errorText
  now := default
  access := ⟨.ok (), fun _ => true, fun _ => true⟩
  vanguard := .ok ()
  inspect := .ok ()
  validDuration := fun _ => true
  latency := fun _ =>
    ⟨⟨.realKernelDpcIsr, "", "", "", true, 0, 0, []⟩, .realEtwCollected, 0, 0, 0, 0, none, none, [],
      [], true, [], ()⟩
  bufferbloat := .error "No network"
  launcher := .absent

end ValOpt
