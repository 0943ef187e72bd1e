import ValOpt.Server.Equiv.Moves

/-!
# The active supervisor

`ACTIVE_SUPERVISOR_STOP` is the only way to reach a thread.  Whatever order the critical sections
and the spawns of the handlers run in, a thread whose signal is not set is the one in that slot
(`one_live_supervisor`), and a signal that was set stays set.
-/

namespace ValOpt

open Effect

variable {F : Type} {P : Platform} {e : ServerEvent F} {s s' : Server}

/-- A handler that has not stored its signal has not spawned its thread. -/
theorem Server.mem_launches_of_mem_unswapped {i : ℕ} (h : i ∈ s.unswapped) : i ∈ s.launches := by
  obtain ⟨j, hj, hi⟩ := List.mem_filterMap.mp h
  refine List.mem_filterMap.mpr ⟨j, hj, ?_⟩
  cases j with
  | applyLaunch i' => exact hi
  | swap i' => exact hi
  | _ => cases hi

/-- A signal that is not set is the active one, or its handler has not stored it yet. -/
structure Server.Tracked (s : Server) : Prop where
  orderly : s.Orderly
  active : ∀ i sup, s.daemon.supervisors[i]? = some sup → sup.stop = false →
    s.daemon.activeStop = some i ∨ i ∈ s.unswapped

theorem Server.tracked_start (world : World) (processes : List Process) (currentPid : UInt32) :
    (Server.start world processes currentPid).Tracked :=
  ⟨Server.orderly_start world processes currentPid, fun _ _ h => (nomatch h)⟩

/-- Setting the active signal leaves out the launches whose signal is not stored yet. -/
theorem Server.Tracked.mem_unswapped_of_stopActive (h : s.Tracked) {i : ℕ} {sup : Supervisor}
    (hsup : s.daemon.stopActive.supervisors[i]? = some sup) (hstop : sup.stop = false) :
    i ∈ s.unswapped := by
  rw [Daemon.getElem_stopActive] at hsup
  obtain ⟨old, hold, heq⟩ := Option.map_eq_some_iff.mp hsup
  -- the signal that was active before is set now
  have hne : s.daemon.activeStop ≠ some i := by
    intro hi
    rw [if_pos hi] at heq
    rw [← heq] at hstop
    cases hstop
  rw [if_neg hne] at heq
  rw [← heq] at hstop
  exact (h.active i old hold hstop).resolve_left hne

/-- A step of a thread changes no signal. -/
theorem Server.Tracked.active_of_setPhase (h : s.Tracked) {i k : ℕ} {phase : Phase}
    {sup : Supervisor} (hsup : (s.daemon.setPhase k phase).supervisors[i]? = some sup)
    (hstop : sup.stop = false) : s.daemon.activeStop = some i ∨ i ∈ s.unswapped := by
  by_cases hki : k = i
  · rw [hki, Daemon.getElem_setPhase_self] at hsup
    obtain ⟨old, hold, rfl⟩ := Option.map_eq_some_iff.mp hsup
    exact h.active i old hold hstop
  · rw [Daemon.getElem_setPhase_of_ne _ hki] at hsup
    exact h.active i sup hsup hstop

/-- Every move keeps track of the signals. -/
theorem Server.Tracked.move (h : s.Tracked) (hmove : Server.Move e s s') : s'.Tracked := by
  refine ⟨h.orderly.move hmove, fun i sup hsup hstop => ?_⟩
  cases hmove with
  | silent hsame _ hunswapped _ _ =>
    rw [hsame.supervisors] at hsup
    rw [hsame.activeStop, hunswapped.mem_iff]
    exact h.active i sup hsup hstop
  | opened new _ _ hsupervisors hactive _ _ hunswapped _ _ =>
    rw [hactive, hunswapped.mem_iff, List.mem_cons]
    rw [hsupervisors] at hsup
    obtain hsup | ⟨hi, -⟩ := of_getElem_concat hsup
    · obtain hi | hi := h.active i sup hsup hstop
      · exact .inl hi
      · exact .inr (.inr hi)
    · exact .inr (.inl hi)
  | swapped k hdaemon _ hunswapped _ _ =>
    have hactive : s'.daemon.activeStop = some k := by rw [hdaemon]; rfl
    rw [hdaemon] at hsup
    have hi := h.mem_unswapped_of_stopActive hsup hstop
    obtain rfl | hi := List.mem_cons.mp (hunswapped.mem_iff.mp hi)
    · exact .inl hactive
    · exact .inr hi
  | spawned k hdaemon _ hunswapped _ _ =>
    have hactive : s'.daemon.activeStop = s.daemon.activeStop := by rw [hdaemon]; rfl
    rw [hactive, hunswapped.mem_iff]
    rw [hdaemon, Daemon.spawn] at hsup
    exact h.active_of_setPhase hsup hstop
  | stopped hdaemon _ hunswapped _ _ =>
    rw [hunswapped.mem_iff]
    rw [hdaemon] at hsup
    exact .inr (h.mem_unswapped_of_stopActive hsup hstop)
  | thread k old phase hold hsupervisors hactive _ hjobs _ _ =>
    have hunswapped : s'.unswapped = s.unswapped := by
      rw [Server.unswapped, hjobs, Server.unswapped]
    rw [hactive, hunswapped]
    rw [hsupervisors] at hsup
    exact h.active_of_setPhase hsup hstop

/-- The launch number `i` has its stop signal set. -/
def Server.Stopped (s : Server) (i : ℕ) : Prop :=
  ∃ sup, s.daemon.supervisors[i]? = some sup ∧ sup.stop = true

/-- No move takes a signal back. -/
theorem Server.Stopped.move {i : ℕ} (h : s.Stopped i) (hmove : Server.Move e s s') :
    s'.Stopped i := by
  obtain ⟨sup, hsup, hstop⟩ := h
  cases hmove with
  | silent hsame _ _ _ _ =>
    refine ⟨sup, ?_, hstop⟩
    rw [hsame.supervisors, hsup]
  | opened new _ _ hsupervisors _ _ _ _ _ _ =>
    refine ⟨sup, ?_, hstop⟩
    rw [hsupervisors, List.getElem?_append_left (List.getElem?_eq_some_iff.mp hsup).1, hsup]
  | swapped k hdaemon _ _ _ _ =>
    rw [Stopped, hdaemon, Daemon.getElem_swapSignal, hsup]
    refine ⟨_, rfl, ?_⟩
    split
    · rfl
    · exact hstop
  | spawned k hdaemon _ _ _ _ =>
    rw [Stopped, hdaemon, Daemon.spawn]
    by_cases hki : k = i
    · rw [hki, Daemon.getElem_setPhase_self, hsup]
      exact ⟨_, rfl, hstop⟩
    · rw [Daemon.getElem_setPhase_of_ne _ hki]
      exact ⟨sup, hsup, hstop⟩
  | stopped hdaemon _ _ _ _ =>
    rw [Stopped, hdaemon, Daemon.getElem_stopActive, hsup]
    refine ⟨_, rfl, ?_⟩
    split
    · rfl
    · exact hstop
  | thread k old phase _ hsupervisors _ _ _ _ _ =>
    rw [Stopped, hsupervisors]
    by_cases hki : k = i
    · rw [hki, Daemon.getElem_setPhase_self, hsup]
      exact ⟨_, rfl, hstop⟩
    · rw [Daemon.getElem_setPhase_of_ne _ hki]
      exact ⟨sup, hsup, hstop⟩

/-- The thread of the launch `i` is spawned and its signal is not set. -/
def Server.Live (s : Server) (i : ℕ) : Prop :=
  ∃ sup, s.daemon.supervisors[i]? = some sup ∧ sup.phase ≠ .launching ∧ sup.stop = false

/-- A thread that is live is the active one. -/
theorem Server.Tracked.activeStop_of_live (h : s.Tracked) {i : ℕ} (hlive : s.Live i) :
    s.daemon.activeStop = some i := by
  obtain ⟨sup, hsup, hphase, hstop⟩ := hlive
  obtain hactive | hunswapped := h.active i sup hsup hstop
  · exact hactive
  · obtain ⟨sup', hsup', hphase'⟩ :=
      h.orderly.launching i (Server.mem_launches_of_mem_unswapped hunswapped)
    rw [hsup, Option.some.injEq] at hsup'
    rw [hsup'] at hphase
    exact absurd hphase' hphase

/-- The event is the critical section of `RollbackOptimizations` or `ShutdownDaemon`. -/
def ServerEvent.isStopSection (e : ServerEvent F) (s : Server) : Prop :=
  ∃ k env now access j, e = .job k env now access ∧ s.jobs[k]? = some j ∧
    (j = .stopAndRecover ∨ j = .stop)

/-- That critical section leaves no thread whose signal is not set. -/
theorem Server.Tracked.stopped_of_stopSection (h : s.Tracked) (he : e.isStopSection s)
    (hstep : Server.step P e s = some s') {i : ℕ} {sup : Supervisor}
    (hsup : s.daemon.supervisors[i]? = some sup) (hphase : sup.phase ≠ .launching) :
    s'.Stopped i := by
  have hdaemon : s'.daemon = s.daemon.stopActive := by
    obtain ⟨k, env, now, access, j, rfl, hj, hjob⟩ := he
    rw [Server.step, hj] at hstep
    obtain rfl | rfl := hjob <;> cases hstep <;> rfl
  rw [Stopped, hdaemon, Daemon.getElem_stopActive, hsup]
  refine ⟨_, rfl, ?_⟩
  cases hstop : sup.stop with
  | true => split <;> first | rfl | exact hstop
  | false =>
    dsimp only
    rw [if_pos (h.activeStop_of_live ⟨sup, hsup, hphase, hstop⟩)]

/-- **One supervisor.**  In every state of a run the only live thread is the one whose signal is in
`ACTIVE_SUPERVISOR_STOP`, and the critical section of a rollback or shutdown sets the signals of
all threads spawned before, for good. -/
theorem one_live_supervisor (P : Platform) (world : World) (processes : List Process)
    (currentPid : UInt32) (events : List (ServerEvent F))
    (hrun : exec (Server.step P) events (.start world processes currentPid) = some s) :
    (∀ i, s.Live i → s.daemon.activeStop = some i) ∧ (∀ i j, s.Live i → s.Live j → i = j) ∧
      ∀ (e : ServerEvent F) s₁, e.isStopSection s → Server.step P e s = some s₁ →
        ∀ (later : List (ServerEvent F)) s₂, exec (Server.step P) later s₁ = some s₂ →
          ∀ i sup, s.daemon.supervisors[i]? = some sup → sup.phase ≠ .launching →
            s₂.Stopped i := by
  have htracked : s.Tracked := exec_invariant (I := Server.Tracked)
    (fun _ _ _ h hstep => h.move (Server.move_of_step hstep))
    (Server.tracked_start world processes currentPid) hrun
  refine ⟨fun i => htracked.activeStop_of_live, ?_, ?_⟩
  · intro i j hi hj
    have hactive := htracked.activeStop_of_live hi
    rw [htracked.activeStop_of_live hj, Option.some.injEq] at hactive
    exact hactive.symm
  · intro e s₁ he hstep later s₂ hlater i sup hsup hphase
    exact exec_invariant (I := (Server.Stopped · i))
      (fun _ _ _ h hstep => h.move (Server.move_of_step hstep))
      (htracked.stopped_of_stopSection he hstep hsup hphase) hlater

/-- Two launches on the desktop, one after the other, and a rollback up to its critical section. -/
def relaunchEvents : List (ServerEvent Unit) :=
  launchEvents ++ (launchEvents ++ [.request (.ok ()) true .rollbackOptimizations])

/-- The second launch has replaced the first, and the rollback is about to stop it. -/
theorem exec_relaunchEvents : ∃ w : World,
    exec (Server.step .portable) relaunchEvents (.start .desktop [steam] 4) =
      some ⟨⟨w, [], 4, some 1, [steamLaunch true .polling,
        ⟨⟨valorantBinaryName, true⟩, [], false, .polling⟩], []⟩, [.stopAndRecover]⟩ := by
  refine ⟨(World.desktop.applied .portable default).applied .portable default, ?_⟩
  have hagain : exec (Server.step .portable) launchEvents
      (.launched (World.desktop.applied .portable default) (some 0) .polling []) = some _ :=
    exec_launchEvents_alone rfl
  rw [relaunchEvents, exec_append, exec_launchEvents, Option.bind_some, exec_append, hagain]
  rfl

/-- The thread of the second launch is the live one.  The rollback ends it, whatever comes later. -/
theorem one_live_supervisor_desktop :
    ∃ s s₁, exec (Server.step .portable) relaunchEvents (.start .desktop [steam] 4) = some s ∧
      s.Live 1 ∧ s.daemon.activeStop = some 1 ∧ ¬ s.Live 0 ∧
      Server.step .portable desktopJob s = some s₁ ∧
      ∀ (later : List (ServerEvent Unit)) s₂,
        exec (Server.step .portable) later s₁ = some s₂ → s₂.Stopped 1 := by
  obtain ⟨w, hrun⟩ := exec_relaunchEvents
  obtain ⟨hactive, hunique, hstops⟩ :=
    one_live_supervisor .portable .desktop [steam] 4 relaunchEvents hrun
  have hlive : Server.Live ⟨⟨w, [], 4, some 1, [steamLaunch true .polling,
      ⟨⟨valorantBinaryName, true⟩, [], false, .polling⟩], []⟩, [.stopAndRecover]⟩ 1 :=
    ⟨_, rfl, by decide, rfl⟩
  refine ⟨_, _, hrun, hlive, hactive 1 hlive, ?_, rfl, ?_⟩
  · intro hzero
    exact absurd (hunique 0 1 hzero hlive) Nat.zero_ne_one
  · intro later s₂ hlater
    exact hstops desktopJob _ ⟨0, _, _, _, _, rfl, rfl, .inl rfl⟩ rfl later s₂ hlater 1 _ rfl
      (by decide)

end ValOpt
