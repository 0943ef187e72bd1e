import ValOpt.Server.Equiv.FailedLaunch
import ValOpt.Server.Equiv.Genuine
import ValOpt.Server.Handoff

/-!
# The interface exits after a launch

The interface exits by the response of one handler.  Whatever is lost or cut on the pipe, this
handler ran for its launch, and the interface exits just if the gate admitted the launch and the
game was started or found (`handoff_launched`).  A new supervisor then watches for the game, with
the active signal and all applications that were closed; it is a thread of the daemon, or, where the
call fell back, of the interface that exits.
-/

namespace ValOpt

open Effect

variable {F V : Type} {P : Platform} {w : Wire F} {d d' : Daemon}

/-! ### Launches -/

/-- The applications that the launch closes, as far as they can be relaunched. -/
def Daemon.closed (d : Daemon) (access : ProcessAccess) : List TerminatedAppBackup :=
  (terminateTier2BackgroundProcesses access d.currentPid d.processes).1.toOption.getD []

/-- A launch succeeded, and is supervised: the gate admitted it, the game was started or found once
the applications were closed, and a new thread watches for the game, which has their backups and the
active signal. -/
structure Daemon.Launched (a : Answers F V) (d d' : Daemon) : Prop where
  gate : a.vanguard = .ok ()
  started : ∃ status, a.launcher.launchGame a.access (d.remaining a.access) = some (.ok status)
  closed : d'.processes = d.remaining a.access
  active : d'.activeStop = some d.supervisors.length
  watching : d'.supervisors[d.supervisors.length]? =
    some ⟨⟨valorantBinaryName, true⟩, d.closed a.access, false, .polling⟩

/-- The active signal is that of a launch. -/
def Daemon.Held (d : Daemon) : Prop := ∀ j, d.activeStop = some j → j < d.supervisors.length

section Held

variable {env : Env Call}

theorem Daemon.held_start (world : World) (processes : List Process) (pid : UInt32) :
    (Daemon.start world processes pid).Held := nofun

theorem Daemon.Held.program (h : d.Held) {α : Type} (m : Prog α) :
    (d.onWorld m env).state.Held := by
  unfold Daemon.onWorld
  cases m.run env d.world <;> exact h

theorem Daemon.held_stopActive (d : Daemon) : d.stopActive.Held := by
  intro j hj
  unfold stopActive at hj
  split at hj <;> cases hj

theorem Daemon.length_stopActive (d : Daemon) :
    d.stopActive.supervisors.length = d.supervisors.length := by
  unfold stopActive
  split
  · exact List.length_modify ..
  · rfl

theorem Daemon.Held.bind {α β : Type} {r : Run Daemon α} {f : α → Daemon → Run Daemon β}
    (hr : r.state.Held) (hf : ∀ a d, d.Held → (f a d).state.Held) : (r.bind f).state.Held := by
  cases r with
  | returned a d => exact hf a d hr
  | crashed d => exact hr

theorem Daemon.Held.closeApps (h : d.Held) (access : ProcessAccess) :
    (d.closeApps access).Held := by
  intro j hj
  have hlt := h j hj
  show j < (d.supervisors ++ [_]).length
  rw [List.length_append]
  omega

/-- The signal that a launch stores is its own. -/
theorem Daemon.held_spawn {i : ℕ} (hi : i < d.supervisors.length) :
    ((d.swapSignal i).spawn i).Held := by
  intro j hj
  have hlength : ((d.swapSignal i).spawn i).supervisors.length = d.supervisors.length :=
    (List.length_modify ..).trans d.length_stopActive
  cases hj
  rwa [hlength]

/-- No handler stores the signal of another launch than its own. -/
theorem Daemon.Held.handle (h : d.Held) (a : Answers F V) (request : IpcRequest F)
    (elevated : Bool) : (handleRequestAuthorized P a request elevated d).state.Held := by
  unfold handleRequestAuthorized
  split
  · exact h
  cases request <;> dsimp only
  case getStatus => exact (h.program _).bind fun _ _ hd => hd
  case inspectSystem => split <;> exact h
  case applyOptimizations =>
    refine (h.program _).bind fun outcome d hd => ?_
    cases outcome <;> exact hd
  case rollbackOptimizations =>
    refine (d.held_stopActive.program _).bind fun _ d hd => ?_
    exact (hd.program _).bind fun _ _ hd => hd
  case purgeBloatware => split <;> exact h
  case getLatencyReport => split <;> exact h
  case runBufferbloatTest => split <;> exact h
  case launchOptimizedGame =>
    split
    · exact h
    · cases happly : (d.closeApps a.access).onWorld (applyOptimizations P a.now) a.env with
      | crashed d₁ =>
        have hd : ((d.closeApps a.access).onWorld (applyOptimizations P a.now) a.env).state.Held :=
          (h.closeApps a.access).program _
        rwa [happly] at hd
      | returned outcome d₁ =>
        have hlt : d.supervisors.length < d₁.supervisors.length := by
          rw [(sameThreads_onWorld happly).supervisors]
          show _ < (d.supervisors ++ [_]).length
          rw [List.length_append, List.length_singleton]
          omega
        have hd := d₁.held_spawn hlt
        rw [Run.bind_returned]
        split <;> exact hd
  case shutdownDaemon => exact d.held_stopActive
  all_goals exact h

end Held

/-- A launch is acknowledged just if it succeeded. -/
theorem acknowledged_iff (h : d.Held) {a : Answers F V} {autoRelaunchGui elevated : Bool}
    {r : IpcResponse F V} (hrun : handleRequestAuthorized P a (.launchOptimizedGame autoRelaunchGui)
      elevated d = .returned r d') :
    (∃ message, r = .gameLaunchAcknowledged message) ↔ d.Launched a d' := by
  cases hvanguard : a.vanguard with
  | error e =>
    rw [handleRequestAuthorized_refused hvanguard] at hrun
    cases hrun
    refine iff_of_false (by simp) fun hlaunched => ?_
    exact absurd (hvanguard.symm.trans hlaunched.gate) (by simp)
  | ok =>
  cases happly : (applyOptimizations P a.now).run a.env d.world with
  | crashed world => exact absurd hrun (handleRequestAuthorized_crashed hvanguard happly _ _)
  | returned outcome world =>
    generalize hd₀ : ({ d.closeApps a.access with world := world } : Daemon) = d₀
    have honWorld : (d.closeApps a.access).onWorld (applyOptimizations P a.now) a.env =
        .returned outcome d₀ := by
      rw [← hd₀]
      exact (d.closeApps a.access).onWorld_of_run happly
    have hprocesses : ((d₀.swapSignal d.supervisors.length).spawn d.supervisors.length).processes =
        d.remaining a.access := by
      show (d₀.swapSignal d.supervisors.length).processes = _
      rw [d₀.processes_swapSignal, ← hd₀]
      rfl
    have hactive : d₀.activeStop ≠ some d.supervisors.length := by
      rw [← hd₀]
      exact fun hsome => absurd (h _ hsome) (lt_irrefl _)
    have hwatching : ((d₀.swapSignal d.supervisors.length).spawn
        d.supervisors.length).supervisors[d.supervisors.length]? =
          some ⟨⟨valorantBinaryName, true⟩, d.closed a.access, false, .polling⟩ := by
      have hnew : d₀.supervisors[d.supervisors.length]? =
          some ⟨⟨valorantBinaryName, true⟩, d.closed a.access, false, .launching⟩ := by
        rw [← hd₀]
        exact List.getElem?_concat_length
      rw [Daemon.spawn, Daemon.getElem_setPhase_self, Daemon.getElem_swapSignal, hnew,
        Option.map_some, if_neg hactive, Option.map_some]
    unfold handleRequestAuthorized at hrun
    simp only [IpcRequest.isPrivileged, Bool.false_and, Bool.false_eq_true, if_false, hvanguard,
      honWorld, Run.bind_returned, hprocesses] at hrun
    cases hlaunch : a.launcher.launchGame a.access (d.remaining a.access) with
    | none =>
      rw [hlaunch] at hrun
      cases hrun
    | some result =>
      rw [hlaunch] at hrun
      cases result with
      | ok status =>
        cases hrun
        exact iff_of_true ⟨_, rfl⟩ ⟨hvanguard, ⟨status, hlaunch⟩, hprocesses, rfl, hwatching⟩
      | error e =>
        cases hrun
        refine iff_of_false (by simp) fun hlaunched => ?_
        obtain ⟨status, hstatus⟩ := hlaunched.started
        rw [hlaunch] at hstatus
        cases hstatus

/-! ### Runs -/

/-- The active signals of both processes are those of launches. -/
def Exchange.Held (s : Exchange F V) : Prop := s.daemon.Held ∧ s.gui.Held

theorem Exchange.Held.step {e : ExchangeEvent F w.Value} {s s' : Exchange F w.Value}
    (h : s.Held) (hstep : Exchange.step P w e s = some s') : s'.Held := by
  obtain ⟨hdaemon, hgui⟩ := h
  cases e <;> simp only [Exchange.step] at hstep
  case fallsBack i a =>
    split at hstep
    · have hd := hgui.handle (P := P) a (s.calls i).request true
      split at hstep
      all_goals
        next hrun =>
          cases hstep
          rw [show handleRequestAuthorized P a _ true s.gui = _ from hrun] at hd
          exact ⟨hdaemon, hd⟩
    · cases hstep
  case handles a =>
    split at hstep
    · next i request elevated _ =>
      have hd := hdaemon.handle (P := P) a request elevated
      split at hstep
      all_goals
        next hrun =>
          cases hstep
          rw [hrun] at hd
          exact ⟨hd, hgui⟩
    · cases hstep
  case starts pid =>
    split at hstep
    · cases hstep
      exact ⟨Daemon.held_start _ _ _, hgui⟩
    · cases hstep
  -- the other steps leave both processes alone
  all_goals
    repeat' split at hstep
    all_goals cases hstep <;> exact ⟨hdaemon, hgui⟩

/-- At this step the party's handler of the launch ends, and the launch succeeded just if the
interface is to exit. -/
def ExchangeEvent.Settles (P : Platform) (w : Wire F) (party : Party) (i : ℕ)
    (autoRelaunchGui exits : Bool) (e : ExchangeEvent F w.Value) (s : Exchange F w.Value) : Prop :=
  match party, e with
  | .daemon, .handles a => ∃ elevated r d,
      s.loop = .handling i (.launchOptimizedGame autoRelaunchGui) elevated ∧
      handleRequestAuthorized P a (.launchOptimizedGame autoRelaunchGui) elevated s.daemon =
        .returned r d ∧ (exits = true ↔ s.daemon.Launched a d)
  | .gui, .fallsBack j a => j = i ∧ ∃ r d,
      handleRequest P a (.launchOptimizedGame autoRelaunchGui) s.gui = .returned r d ∧
        (exits = true ↔ s.gui.Launched a d)
  | _, _ => False

/-- The interface exits just by an acknowledgement. -/
theorem unloads_iff (debug : IpcResponse F V → String) (r : IpcResponse F V) :
    triggerLaunchAndUnload debug true r = .unloads ↔
      ∃ message, r = .gameLaunchAcknowledged message := by
  cases r <;> simp [triggerLaunchAndUnload]

/-- The handler whose answer the interface gets settles whether it exits. -/
theorem ExchangeEvent.Answers.settles {party : Party} {i : ℕ} {autoRelaunchGui : Bool}
    {r : IpcResponse F w.Value} {e : ExchangeEvent F w.Value} {s : Exchange F w.Value}
    (debug : IpcResponse F w.Value → String)
    (h : e.Answers P w party i (.launchOptimizedGame autoRelaunchGui) r s) (hheld : s.Held) :
    e.Settles P w party i autoRelaunchGui
      (triggerLaunchAndUnload debug true r = .unloads) s := by
  cases party <;> cases e <;> try exact h.elim
  case daemon.handles a =>
    obtain ⟨elevated, d, hloop, hrun⟩ := h
    refine ⟨elevated, r, d, hloop, hrun, ?_⟩
    rw [decide_eq_true_iff, unloads_iff, acknowledged_iff hheld.1 hrun]
  case gui.fallsBack j a =>
    obtain ⟨hji, d, hrun⟩ := h
    refine ⟨hji, r, d, hrun, ?_⟩
    rw [decide_eq_true_iff, unloads_iff, acknowledged_iff hheld.2 hrun]

/-- **The interface exits just after a launch that succeeded.**  Two processes that have just
started exchange requests in any way.  Where the launch of the interface returns, the interface
exits by the answer of one handler that ran for it, of the daemon or, if the call fell back, its
own, and it exits just if the launch of that handler succeeded and is supervised.  Where no handler
ran, the interface stays. -/
theorem handoff_launched {world guiWorld : World} {processes guiProcesses : List Process}
    {pid guiPid : UInt32} {loop : Bool} {requests : ℕ → IpcRequest F}
    {es : List (ExchangeEvent F w.Value)} {s : Exchange F w.Value}
    (hexec : exec (Exchange.step P w) es (.start (.start world processes pid)
      (.start guiWorld guiProcesses guiPid) loop requests) = some s) {i : ℕ}
    {autoRelaunchGui : Bool} (hrequest : requests i = .launchOptimizedGame autoRelaunchGui)
    {r : IpcResponse F w.Value} (hphase : (s.calls i).phase = .returned r)
    (debug : IpcResponse F w.Value → String) :
    (s.ledger.runs .gui i = 1 ∧ Sometimes (Exchange.step P w)
      (·.Settles P w .gui i autoRelaunchGui (triggerLaunchAndUnload debug true r = .unloads) ·) es
        (.start (.start world processes pid) (.start guiWorld guiProcesses guiPid) loop
          requests)) ∨
    (s.ledger.runs .gui i = 0 ∧ s.ledger.runs .daemon i = 1 ∧ Sometimes (Exchange.step P w)
      (·.Settles P w .daemon i autoRelaunchGui
        (triggerLaunchAndUnload debug true r = .unloads) ·) es
        (.start (.start world processes pid) (.start guiWorld guiProcesses guiPid) loop
          requests)) ∨
    (s.ledger.runs .gui i = 0 ∧ s.ledger.runs .daemon i = 0 ∧
      triggerLaunchAndUnload debug true r ≠ .unloads) := by
  have hsettles : ∀ party, Sometimes (Exchange.step P w)
      (·.Answers P w party i (requests i) r ·) es (.start (.start world processes pid)
        (.start guiWorld guiProcesses guiPid) loop requests) →
      Sometimes (Exchange.step P w) (·.Settles P w party i autoRelaunchGui
        (triggerLaunchAndUnload debug true r = .unloads) ·) es
        (.start (.start world processes pid) (.start guiWorld guiProcesses guiPid) loop
          requests) := by
    intro party hanswers
    rw [hrequest] at hanswers
    exact hanswers.imp (I := Exchange.Held) (fun _ _ _ h hstep => h.step hstep)
      (fun _ _ hheld hanswer => hanswer.settles debug hheld)
      ⟨Daemon.held_start _ _ _, Daemon.held_start _ _ _⟩
  have hanswered := (Exchange.genuine_exec hexec).answered hphase
  refine hanswered.imp (And.imp_right (hsettles .gui)) ?_
  refine Or.imp (And.imp_right (And.imp_right (hsettles .daemon))) ?_
  rintro ⟨hgui, hdaemon, e, rfl⟩
  refine ⟨hgui, hdaemon, ?_⟩
  rw [ne_eq, unloads_iff]
  rintro ⟨message, hm⟩
  cases hm

/-- The answers of a desktop where the protocol of the Riot Client is registered. -/
def Answers.launching {V : Type} : Answers F V :=
  { Answers.unable with
    launcher := { LauncherAnswers.absent with uriRegistered := true, shellExecute := 42 } }

/-- Without a daemon the interface launches the game itself, and exits. -/
theorem handoff_launched_alone :
    ∃ s : Exchange (Option ℕ) Wire.tenths.Value, exec (Exchange.step .portable Wire.tenths)
      [.opens 0 false, .fallsBack 0 .launching] (.start (.start .desktop [] 4)
        (.start .desktop [] 8) false fun _ => .launchOptimizedGame true) = some s ∧
      Sometimes (Exchange.step .portable Wire.tenths)
        (·.Settles .portable Wire.tenths .gui 0 true true ·)
        [.opens 0 false, .fallsBack 0 .launching] (.start (.start .desktop [] 4)
          (.start .desktop [] 8) false fun _ => .launchOptimizedGame true) := by
  obtain ⟨message, d, hrun⟩ : ∃ message d, handleRequest .portable
      (.launching : Answers (Option ℕ) Wire.tenths.Value) (.launchOptimizedGame true)
        (.start .desktop [] 8) = .returned (.gameLaunchAcknowledged message) d := by
    have happly : (applyOptimizations .portable default).run (.faultless errorText) .desktop = _ :=
      run_applyOptimizations default
    unfold handleRequest handleRequestAuthorized
    simp only [IpcRequest.isPrivileged, Bool.false_and, Bool.false_eq_true, if_false,
      Answers.launching, Answers.unable]
    rw [((Daemon.start .desktop [] 8).closeApps Answers.working.access).onWorld_of_run happly]
    exact ⟨_, _, rfl⟩
  have hfalls : ∀ s : Exchange (Option ℕ) Wire.tenths.Value, s.executions = [] →
      s.calls 0 = ⟨.launchOptimizedGame true, .failed "Pipe open failed", []⟩ →
      s.gui = .start .desktop [] 8 →
        ∃ s', Exchange.step .portable Wire.tenths (.fallsBack 0 .launching) s = some s' ∧
          (s'.calls 0).phase = .returned (.gameLaunchAcknowledged message) ∧
          s'.ledger.runs .gui 0 = 1 := by
    intro s hexecutions hcall hgui
    simp only [Exchange.step, hcall, hgui, hrun, hexecutions]
    exact ⟨_, rfl, rfl, rfl⟩
  obtain ⟨s₀, hfirst, hexecutions, hcall, hgui⟩ : ∃ s : Exchange (Option ℕ) Wire.tenths.Value,
      exec (Exchange.step .portable Wire.tenths) [.opens 0 false] (.start (.start .desktop [] 4)
        (.start .desktop [] 8) false fun _ => .launchOptimizedGame true) = some s ∧
      s.executions = [] ∧
      s.calls 0 = ⟨.launchOptimizedGame true, .failed "Pipe open failed", []⟩ ∧
      s.gui = .start .desktop [] 8 := ⟨_, rfl, rfl, rfl, rfl⟩
  obtain ⟨s, hlast, hphase, hruns⟩ := hfalls s₀ hexecutions hcall hgui
  have hexec := (exec_concat hfirst).trans hlast
  have hexits := handoff_launched hexec rfl hphase fun _ => ""
  rcases hexits with ⟨-, hsettles⟩ | ⟨hnone, -⟩ | ⟨hnone, -⟩
  · exact ⟨s, hexec, hsettles⟩
  · omega
  · omega

end ValOpt
