import ValOpt.Server.Interleaving

/-!
# The elevation barrier

What clients without elevation can change.  The privilege check stops the requests that act on the
machine but one: `LaunchOptimizedGame` is meant for them, and starts a whole session.  Everything
else they send may be left out of a run (`unelevated_requests_inert`).
-/

namespace ValOpt

open Effect

variable {F V : Type}

/-- A launch that passes the check of Vanguard. -/
def IpcRequest.launches (vanguard : Except String Unit) : IpcRequest F → Bool
  | .launchOptimizedGame _ => vanguard.isOk
  | _ => false

/-- The daemon may die of the request: `from_secs_f64` panics on the duration, or the process is
killed while it waits for the name of the adapter. -/
def IpcRequest.Kills (a : Answers F V) : IpcRequest F → Prop
  | .getLatencyReport durationSecs => a.validDuration durationSecs = false
  | .getStatus => a.env.DiesIn .detectPrimary
  | _ => False

namespace PipeEvent

/-- Everything but the requests. -/
def isSurrounding : PipeEvent F V → Bool
  | .request _ _ => false
  | _ => true

/-- Everything but the requests that are not launches. -/
def isLaunchOrSurrounding : PipeEvent F V → Bool
  | .request a r => r.launches a.vanguard
  | _ => true

end PipeEvent

/-- Without elevation, only a launch has a job. -/
theorem admitted_of_not_launches {request : IpcRequest F} {vanguard : Except String Unit}
    (h : request.launches vanguard = false) : request.admitted vanguard false = none := by
  cases request with
  | launchOptimizedGame autoRelaunchGui =>
    cases vanguard with
    | error e => rfl
    | ok => cases h
  | _ => rfl

/-- The other requests that the daemon may die of. -/
theorem kills_of_crashed {P : Platform} {a : Answers F V} {request : IpcRequest F}
    (hlaunch : request.launches a.vanguard = false) {d d' : Daemon}
    (h : handleRequestAuthorized P a request false d = .crashed d') : request.Kills a := by
  cases request with
  | getStatus =>
    have hread : (readMachine .detectPrimary fun m => m.primaryAdapter).run a.env d.world |>.Holds
        (fun _ _ => True) fun _ => a.env.DiesIn .detectPrimary :=
      holds_readMachine (fun _ _ => trivial) fun k hk => ⟨k, hk⟩
    change ((d.onWorld _ _).bind _) = _ at h
    unfold Daemon.onWorld at h
    cases hrun : (readMachine .detectPrimary fun m => m.primaryAdapter).run a.env d.world with
    | returned adapter w =>
      rw [hrun] at h
      cases h
    | crashed w => exact hread.of_crashed hrun
  | getLatencyReport durationSecs =>
    cases hvalid : a.validDuration durationSecs with
    | false => exact hvalid
    | true =>
      have hrun : handleRequestAuthorized P a (.getLatencyReport durationSecs) false d =
          .returned (.latencyReport (a.latency durationSecs)) d := by
        unfold handleRequestAuthorized
        exact if_pos hvalid
      rw [hrun] at h
      cases h
  | inspectSystem =>
    unfold handleRequestAuthorized at h
    cases hinspect : a.inspect <;> rw [hinspect] at h <;> cases h
  | runBufferbloatTest =>
    unfold handleRequestAuthorized at h
    cases hreport : a.bufferbloat <;> rw [hreport] at h <;> cases h
  | launchOptimizedGame autoRelaunchGui =>
    unfold handleRequestAuthorized at h
    cases hv : a.vanguard with
    | error e =>
      rw [hv] at h
      cases h
    | ok =>
      rw [hv] at hlaunch
      cases hlaunch
  | _ => cases h

/-- A request that is not a launch leaves the daemon as it is, if the daemon survives. -/
theorem Host.step_request {P : Platform} {a : Answers F V} {request : IpcRequest F}
    (hlaunch : request.launches a.vanguard = false) {h h' : Host}
    (hstep : Host.step P (.request a request) h = some h') :
    h'.daemon = h.daemon ∧ (¬ request.Kills a → h' = h) := by
  by_cases halive : h.alive
  · have hstate := state_handleRequestAuthorized_of_none P (admitted_of_not_launches hlaunch)
      h.daemon
    rw [Host.step, if_pos halive] at hstep
    cases hrun : handleRequestAuthorized P a request false h.daemon with
    | returned response d =>
      rw [hrun] at hstep hstate
      rw [Run.state_returned] at hstate
      cases hstep
      refine ⟨hstate, fun _ => ?_⟩
      rw [hstate, ← halive]
    | crashed d =>
      rw [hrun] at hstep hstate
      rw [Run.state_crashed] at hstate
      cases hstep
      exact ⟨hstate, fun hlives => absurd (kills_of_crashed hlaunch hrun) hlives⟩
  · rw [Host.step, if_neg halive] at hstep
    cases hstep

/-- **Noninterference.**  A run of clients without elevation ends as the run in which they only make
their launches, if the daemon survives their requests.  Where there is no launch and no supervisor
yet, it ends with the same daemon as the run without requests, come what may. -/
theorem unelevated_requests_inert (P : Platform) (d : Daemon) (events : List (PipeEvent F V))
    {h : Host} (hrun : exec (Host.step P) events ⟨d, true⟩ = some h) :
    ((∀ a r, .request a r ∈ events → ¬ r.Kills a) →
      exec (Host.step P) (events.filter PipeEvent.isLaunchOrSurrounding) ⟨d, true⟩ = some h) ∧
    ((∀ a r, .request a r ∈ events → r.launches a.vanguard = false) → d.supervisors = [] →
      ∃ h', exec (Host.step P) (events.filter PipeEvent.isSurrounding) ⟨d, true⟩ = some h' ∧
        h'.daemon = h.daemon) := by
  constructor
  · intro hlives
    have hsim : ∃ h', exec (Host.step P) (events.filter PipeEvent.isLaunchOrSurrounding)
        ⟨d, true⟩ = some h' ∧ h = h' := by
      apply exec_filter (R := Eq) ?_ ?_ rfl hrun
      · intro event hmem hkeep s s' t hst hstep
        cases event with
        | request a r =>
          rw [← hst]
          exact (Host.step_request hkeep hstep).2 (hlives a r hmem)
        | _ => cases hkeep
      · intro event _ _ s s' t hst hstep
        exact ⟨s', hst ▸ hstep, rfl⟩
    obtain ⟨h', hexec, rfl⟩ := hsim
    exact hexec
  · intro hlaunch hfresh
    have hsim : ∃ h', exec (Host.step P) (events.filter PipeEvent.isSurrounding) ⟨d, true⟩ =
        some h' ∧ (h'.daemon = h.daemon ∧ h'.daemon.supervisors = [] ∧ h'.alive = true) := by
      apply exec_filter (R := fun s t => t.daemon = s.daemon ∧ t.daemon.supervisors = [] ∧
        t.alive = true) ?_ ?_ ⟨rfl, hfresh, rfl⟩ hrun
      · intro event hmem hkeep s s' t hst hstep
        cases event with
        | request a r =>
          rw [(Host.step_request (hlaunch a r hmem) hstep).1]
          exact hst
        | _ => cases hkeep
      · intro event _ hkeep s s' t hst hstep
        obtain ⟨hsame, hnone, halive⟩ := hst
        cases event with
        | request a r => cases hkeep
        | supervisor i env access =>
          -- there is no supervisor, so none of them takes a step
          have hstuck : s.daemon.supervisorStep P env access i = none := by
            rw [← hsame, Daemon.supervisorStep, hnone]
            rfl
          rw [Host.step, hstuck] at hstep
          split at hstep <;> cases hstep
        | processStarts p =>
          cases hstep
          exact ⟨_, rfl, congrArg (·.startProcess p) hsame, hnone, halive⟩
        | processExits pid =>
          cases hstep
          exact ⟨_, rfl, congrArg (·.exitProcess pid) hsame, hnone, halive⟩
    obtain ⟨h', hexec, hsame, -⟩ := hsim
    exact ⟨h', hexec, hsame⟩

/-- On the desktop a refused request and one without effect are left out: the launch between them
starts its session all the same, and without it the daemon is as if nobody had asked. -/
theorem unelevated_requests_inert_desktop :
    (∃ h, exec (Host.step .portable)
        [.request Answers.working (.launchOptimizedGame true),
          .processStarts ⟨8, "steam.exe", none⟩]
        (⟨.start .desktop [] 4, true⟩ : Host) = some h ∧
      h.daemon.activeStop = some 0 ∧
      h.daemon.world.machine.gameBar ≠ World.desktop.machine.gameBar) ∧
    ∃ h', exec (Host.step .portable) [(.processStarts ⟨8, "steam.exe", none⟩ : PipeEvent Unit Unit)]
        ⟨.start .desktop [] 4, true⟩ = some h' ∧
      h'.daemon = (Daemon.start .desktop [] 4).startProcess ⟨8, "steam.exe", none⟩ := by
  constructor
  · obtain ⟨h, hrun, hactive, hgame⟩ : ∃ h, exec (Host.step .portable)
        [.request Answers.working .purgeBloatware,
          .request Answers.working (.launchOptimizedGame true),
          .processStarts ⟨8, "steam.exe", none⟩, .request Answers.working .ping]
        (⟨.start .desktop [] 4, true⟩ : Host) = some h ∧ h.daemon.activeStop = some 0 ∧
          h.daemon.world.machine.gameBar ≠ World.desktop.machine.gameBar :=
      ⟨_, rfl, rfl, by decide⟩
    refine ⟨h, ?_, hactive, hgame⟩
    refine (unelevated_requests_inert .portable (.start .desktop [] 4) _ hrun).1 ?_
    intro a r hmem
    simp only [List.mem_cons, PipeEvent.request.injEq, reduceCtorEq, List.not_mem_nil, or_false,
      false_or] at hmem
    obtain ⟨rfl, rfl⟩ | ⟨rfl, rfl⟩ | ⟨rfl, rfl⟩ := hmem <;> exact not_false
  · have hrun : exec (Host.step .portable) [.request Answers.working .purgeBloatware,
        .processStarts ⟨8, "steam.exe", none⟩, .request Answers.working .ping]
        ⟨.start .desktop [] 4, true⟩ =
          some ⟨(Daemon.start .desktop [] 4).startProcess ⟨8, "steam.exe", none⟩, true⟩ := rfl
    refine (unelevated_requests_inert .portable (.start .desktop [] 4) _ hrun).2 ?_ rfl
    intro a r hmem
    simp only [List.mem_cons, PipeEvent.request.injEq, reduceCtorEq, List.not_mem_nil, or_false,
      false_or] at hmem
    obtain ⟨rfl, rfl⟩ | ⟨rfl, rfl⟩ := hmem <;> rfl

/-- **Counterexample.**  A client without elevation launches the game, and Game Mode is on. -/
theorem unelevated_launch_turns_gameMode_on :
    ∃ h, exec (Host.step .portable) [.request Answers.working (.launchOptimizedGame true)]
        ⟨.start .desktop [] 4, true⟩ = some h ∧
      h.daemon.world.machine.gameBar ≠ World.desktop.machine.gameBar :=
  ⟨_, rfl, by decide⟩

end ValOpt
