import ValOpt.Safety.Equiv.VanguardCheck
import ValOpt.Server.Equiv.Moves
import ValOpt.Server.Equiv.Spawns

/-!
# Launches that are answered with an error

`LaunchOptimizedGame` has two errors.  A refusal by the Vanguard gate comes first and leaves the
daemon as it is (`handleRequestAuthorized_refused`).  A launch that fails comes last: by then the
applications are closed, the settings changed and a new supervisor runs, and nothing of it is taken
back (`handleRequestAuthorized_reached`).  So an error leaves nothing behind just where it is not
the launch that fails (`leavesNothing_iff`).
-/

namespace ValOpt

open Effect

variable {F V : Type} {P : Platform} {a : Answers F V} {elevated autoRelaunchGui : Bool}
  {d d' : Daemon}

/-! ### The statement -/

/-- The daemon has an application of tier 2 running under this name. -/
def Daemon.RunsTier2 (d : Daemon) (name : String) : Prop :=
  classifyProcess name = .tier2SafeTerminate ∧ ∃ p ∈ d.processes, p.name = name

/-- Nothing of a request is left behind: the applications of tier 2 run as before, the settings, the
transaction file and the active signal are as before, and no new supervisor runs. -/
structure NothingLeft (d d' : Daemon) : Prop where
  applications : ∀ name, d'.RunsTier2 name ↔ d.RunsTier2 name
  gameMode : d'.world.machine.gameMode = d.world.machine.gameMode
  power : d'.world.machine.activeScheme = d.world.machine.activeScheme
  audio : d'.world.machine.fxProperties = d.world.machine.fxProperties
  transaction : d'.world.files d'.world.transactionPath = d.world.files d.world.transactionPath
  activeStop : d'.activeStop = d.activeStop
  supervisors : ∀ i s, d'.supervisors[i]? = some s → d.supervisors.length ≤ i →
    s.phase = .finished

/-- Where the launch is answered with an error, nothing of it is left behind. -/
def LeavesNothing (P : Platform) (a : Answers F V) (autoRelaunchGui elevated : Bool) (d : Daemon) :
    Prop :=
  ∀ code message d', handleRequestAuthorized P a (.launchOptimizedGame autoRelaunchGui) elevated d =
    .returned (.error code message) d' → NothingLeft d d'

/-- No way to start the client works: neither under the token of the user nor directly, nor by the
protocol. -/
def LauncherAnswers.CannotStart (l : LauncherAnswers) (riotExe : Option String) : Prop :=
  l.UriFails ∧ ∀ exe, riotExe = some exe → (∃ e, l.spawn exe = .error e) ∧
    (l.isElevated = true → ∀ pid, l.spawnAsUser exe ≠ some (.ok pid))

/-- The game is not running and cannot be started. -/
def LauncherAnswers.Fails (l : LauncherAnswers) (access : ProcessAccess) (running : List Process) :
    Prop :=
  findProcessWithPath access running valorantBinaryName = none ∧
    ∃ riotExe, l.findRiotClientExecutable = some riotExe ∧ l.CannotStart riotExe

/-- The launch comes to its last step: the gate admits it, and no call of the optimizer kills the
daemon. -/
def ReachesLaunch (P : Platform) (a : Answers F V) (d : Daemon) : Prop :=
  a.vanguard = .ok () ∧
    ∃ outcome w, (applyOptimizations P a.now).run a.env d.world = .returned outcome w

/-! ### The launch -/

theorem LauncherAnswers.clientSpawned_eq_nil {l : LauncherAnswers} {riotExe : Option String} :
    l.clientSpawned riotExe = [] ↔ l.CannotStart riotExe := by
  have huri : l.uriSpawned = [] ↔ l.UriFails := by
    rw [uriSpawned, UriFails]
    by_cases h : 32 < l.shellExecute
    · cases l.uriRegistered <;> simp [h]
    · simp [h, Nat.le_of_not_lt h]
  rw [CannotStart]
  cases riotExe with
  | none => simp [clientSpawned, huri]
  | some exe =>
    have hdirect : l.directSpawned exe = [] ↔ (∃ e, l.spawn exe = .error e) ∧ l.UriFails := by
      rw [directSpawned]
      cases l.spawn exe <;> simp [huri]
    rw [clientSpawned]
    cases l.isElevated with
    | false => simp [hdirect, and_comm]
    | true =>
      rw [if_pos rfl]
      cases huser : l.spawnAsUser exe with
      | none => simp [hdirect, huser, and_comm]
      | some result => cases result <;> simp [hdirect, huser, and_comm]

/-- A launch fails just if the game is not running and cannot be started. -/
theorem LauncherAnswers.launchGame_error_iff {l : LauncherAnswers} {access : ProcessAccess}
    {running : List Process} :
    (∃ e, l.launchGame access running = some (.error e)) ↔ l.Fails access running := by
  rw [launchGame, Fails]
  cases findProcessWithPath access running valorantBinaryName with
  | some found => simp
  | none =>
    simp only [true_and, Option.map_eq_some_iff]
    have hclient : ∀ riotExe, (∃ e, l.launchClient riotExe = .error e) ↔ l.CannotStart riotExe := by
      intro riotExe
      rw [← clientSpawned_eq_nil, ← not_iff_not, ← ne_eq, ← isOk_launchClient_iff]
      cases l.launchClient riotExe <;> simp [Except.isOk, Except.toBool]
    simp only [← hclient]
    constructor
    · rintro ⟨e, riotExe, h, he⟩
      exact ⟨riotExe, h, e, he⟩
    · rintro ⟨riotExe, h, e, he⟩
      exact ⟨e, riotExe, h, he⟩

/-! ### The handler -/

/-- A launch that the gate refuses leaves the daemon as it is. -/
theorem handleRequestAuthorized_refused {e : String} (h : a.vanguard = .error e) :
    handleRequestAuthorized P a (.launchOptimizedGame autoRelaunchGui) elevated d =
      .returned (.error "VANGUARD_VIOLATION" e) d := by
  unfold handleRequestAuthorized
  rw [h]
  rfl

/-- The applications that are left after the launch closed those of tier 2. -/
def Daemon.remaining (d : Daemon) (access : ProcessAccess) : List Process :=
  (terminateTier2BackgroundProcesses access d.currentPid d.processes).2

namespace Daemon

variable (d : Daemon)

theorem onWorld_of_run {α : Type} {m : Prog α} {env : Env Call} {x : α} {w : World}
    (h : m.run env d.world = .returned x w) :
    d.onWorld m env = .returned x { d with world := w } := by
  rw [onWorld, h]

theorem processes_swapSignal (i : ℕ) : (d.swapSignal i).processes = d.processes := by
  show d.stopActive.processes = d.processes
  unfold stopActive
  split <;> rfl

/-- The supervisor of a launch runs after its signal was stored and its thread spawned. -/
theorem exists_polling {sup : Supervisor} {i : ℕ} (h : d.supervisors[i]? = some sup) :
    ∃ s, ((d.swapSignal i).spawn i).supervisors[i]? = some s ∧ s.phase = .polling := by
  rw [spawn, getElem_setPhase_self, getElem_swapSignal, h]
  exact ⟨_, rfl, rfl⟩

end Daemon

/-- A launch that comes to its last step has its supervisor running, and is answered with an error
just if the game cannot be launched. -/
theorem handleRequestAuthorized_reached (autoRelaunchGui elevated : Bool)
    (h : ReachesLaunch P a d) : ∃ d₁ : Daemon,
    (∃ s, d₁.supervisors[d.supervisors.length]? = some s ∧ s.phase = .polling) ∧
    ∀ code message d',
      handleRequestAuthorized P a (.launchOptimizedGame autoRelaunchGui) elevated d =
          .returned (.error code message) d' ↔
        a.launcher.launchGame a.access (d.remaining a.access) = some (.error message) ∧
        code = "LAUNCH_FAILED" ∧ d' = d₁ := by
  obtain ⟨hvanguard, outcome, w, hrun⟩ := h
  generalize hd₀ : ({ d.closeApps a.access with world := w } : Daemon) = d₀
  have happly : (d.closeApps a.access).onWorld (applyOptimizations P a.now) a.env =
      .returned outcome d₀ := by
    rw [← hd₀]
    exact (d.closeApps a.access).onWorld_of_run hrun
  obtain ⟨sup, hsup⟩ : ∃ sup, d₀.supervisors[d.supervisors.length]? = some sup := by
    rw [← hd₀]
    exact ⟨_, List.getElem?_concat_length⟩
  have hprocesses : (d₀.swapSignal d.supervisors.length).processes = d.remaining a.access := by
    rw [d₀.processes_swapSignal, ← hd₀]
    rfl
  refine ⟨(d₀.swapSignal d.supervisors.length).spawn d.supervisors.length,
    d₀.exists_polling hsup, fun code message d' => ?_⟩
  have hspawn : ((d₀.swapSignal d.supervisors.length).spawn d.supervisors.length).processes =
      d.remaining a.access := hprocesses
  unfold handleRequestAuthorized
  simp only [IpcRequest.isPrivileged, Bool.false_and, Bool.false_eq_true, if_false, hvanguard,
    happly, Run.bind_returned, hspawn]
  cases a.launcher.launchGame a.access (d.remaining a.access) with
  | none => simp
  | some result =>
    cases result with
    | ok status => simp
    | error e =>
      simp only [Run.returned.injEq, IpcResponse.error.injEq, Option.some.injEq, Except.error.injEq]
      exact ⟨fun ⟨⟨hcode, he⟩, hd⟩ => ⟨he, hcode.symm, hd.symm⟩,
        fun ⟨he, hcode, hd⟩ => ⟨⟨hcode.symm, he⟩, hd.symm⟩⟩

/-- A launch in which the optimizer kills the daemon is not answered. -/
theorem handleRequestAuthorized_crashed {w : World} (hvanguard : a.vanguard = .ok ())
    (hrun : (applyOptimizations P a.now).run a.env d.world = .crashed w)
    (response : IpcResponse F V) (d' : Daemon) :
    handleRequestAuthorized P a (.launchOptimizedGame autoRelaunchGui) elevated d ≠
      .returned response d' := by
  have happly : (d.closeApps a.access).onWorld (applyOptimizations P a.now) a.env =
      .crashed { d.closeApps a.access with world := w } := by
    unfold Daemon.onWorld
    have hworld : (d.closeApps a.access).world = d.world := rfl
    rw [hworld, hrun]
  unfold handleRequestAuthorized
  simp [IpcRequest.isPrivileged, hvanguard, happly]

/-! ### What is left behind -/

theorem NothingLeft.refl (d : Daemon) : NothingLeft d d where
  applications _ := Iff.rfl
  gameMode := rfl
  power := rfl
  audio := rfl
  transaction := rfl
  activeStop := rfl
  supervisors _ _ h hi := absurd (List.getElem?_eq_some_iff.mp h).1 (Nat.not_lt.mpr hi)

/-- **An error of a launch leaves nothing behind just where it is not the launch of the game that
fails**: a refusal of the gate comes before all changes, and a failure of the launch after them. -/
theorem leavesNothing_iff : LeavesNothing P a autoRelaunchGui elevated d ↔
    ¬ (ReachesLaunch P a d ∧ a.launcher.Fails a.access (d.remaining a.access)) := by
  constructor
  · intro h hfailed
    obtain ⟨hreached, hfails⟩ := hfailed
    obtain ⟨e, he⟩ := LauncherAnswers.launchGame_error_iff.mpr hfails
    obtain ⟨d₁, ⟨s, hs, hpolling⟩, hanswer⟩ :=
      handleRequestAuthorized_reached autoRelaunchGui elevated hreached
    -- the new supervisor is still waiting for the game
    have hfinished : s.phase = .finished :=
      (h _ _ _ ((hanswer _ e d₁).mpr ⟨he, rfl, rfl⟩)).supervisors _ s hs le_rfl
    rw [hpolling] at hfinished
    cases hfinished
  · intro h code message d' herror
    cases hvanguard : a.vanguard with
    | error e =>
      rw [handleRequestAuthorized_refused hvanguard] at herror
      cases herror
      exact .refl d
    | ok =>
      cases hrun : (applyOptimizations P a.now).run a.env d.world with
      | crashed w => exact absurd herror (handleRequestAuthorized_crashed hvanguard hrun _ _)
      | returned outcome w =>
        have hreached : ReachesLaunch P a d := ⟨hvanguard, outcome, w, hrun⟩
        obtain ⟨d₁, -, hanswer⟩ := handleRequestAuthorized_reached autoRelaunchGui elevated hreached
        obtain ⟨he, -, -⟩ := (hanswer code message d').mp herror
        exact absurd ⟨hreached, LauncherAnswers.launchGame_error_iff.mp ⟨message, he⟩⟩ h

/-- Steam runs on the desktop, and there is no Riot Client: the launch fails, with Steam closed and
a supervisor running. -/
theorem desktop_not_leavesNothing :
    ¬ LeavesNothing .portable Answers.working true false (.start .desktop [steam] 4) := by
  intro h
  have hclosed : (Daemon.start .desktop [steam] 4).remaining Answers.working.access = [] := by
    have hclass : classifyProcess "steam.exe" = .tier2SafeTerminate := by decide +kernel
    have hpid : (4 : UInt32) < 8 := by decide
    simp [Daemon.remaining, Daemon.start, terminateTier2BackgroundProcesses, terminateEntries,
      steam, hclass, hpid, terminateProcessGracefully, Answers.working, assertSafeToKill]
  have hfails : Answers.working.launcher.Fails Answers.working.access [] := by
    refine ⟨rfl, none, rfl, ?_, ?_⟩
    · intro hregistered
      cases hregistered
    · intro exe hexe
      cases hexe
  have hreached : ReachesLaunch .portable Answers.working (.start .desktop [steam] 4) :=
    ⟨rfl, _, _, run_applyOptimizations default⟩
  obtain ⟨e, he⟩ := LauncherAnswers.launchGame_error_iff.mpr hfails
  obtain ⟨d₁, ⟨s, hs, hpolling⟩, hanswer⟩ :=
    handleRequestAuthorized_reached true false hreached
  rw [hclosed] at hanswer
  have hfinished := (h _ _ _ ((hanswer _ e d₁).mpr ⟨he, rfl, rfl⟩)).supervisors _ s hs le_rfl
  rw [hpolling] at hfinished
  cases hfinished

end ValOpt
