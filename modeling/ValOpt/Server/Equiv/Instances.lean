import ValOpt.Server.Equiv.Listener
import ValOpt.Server.Instances
import ValOpt.State.Equiv.FailSecure
import ValOpt.State.Equiv.KeyFile

/-!
# Who recovers

A process restores the snapshot that it finds before it creates the pipe, so that it does not know
whether another process has the pipe.  Whenever it looks for a snapshot while another one does, it
will restore what it finds; and a process that cannot create the pipe goes on to wait for its
server.  `ownerRecovers_iff` is the exact condition on a run for neither to happen.  No two
processes own the pipe in any case (`ownsPipe_unique`).
-/

namespace ValOpt

open Effect

variable {F : Type} {P : Platform} {now : Ambient} {env : Env Call} {w : World}

/-! ### Looking for a snapshot -/

/-- A process that looks for a snapshot finds one: the one that is stored at the default path passes
its checks, and all calls succeed. -/
def World.Finds (P : Platform) (env : Env Call) (w : World) : Prop :=
  (w.bootSnapshot P).isSome ∧ env.outcome (.validatePath .recover) = .ok ∧
    ∀ c ∈ Call.loadReads, env.outcome c = .ok

theorem run_findSnapshot_of_finds (now : Ambient) (h : w.Finds P env) : ∃ s,
    (findSnapshot P now).run env w = .returned (some (w.defaultSnapshotPath, s)) w := by
  obtain ⟨hboot, hvalidate, hreads⟩ := h
  obtain ⟨s, hs⟩ := Option.isSome_iff_exists.mp hboot
  have hacc : w.Accepts none w.defaultSnapshotPath := by
    by_contra hacc
    rw [World.bootSnapshot, if_neg hacc] at hs
    cases hs
  rw [World.bootSnapshot, if_pos hacc] at hs
  obtain ⟨b, -, hfile, -⟩ := World.exists_of_snapshotAt hs
  have hfound : w.pathExists w.storageDir w.defaultSnapshotPath = true :=
    w.pathExists_of_isSome (by rw [hfile]; rfl) _
  use s
  unfold findSnapshot
  simp only [Eff.run_bind, run_getWorld, Run.bind_returned,
    run_validateSnapshotPath_of_ok hacc hvalidate, run_pathExists, hfound, Bool.not_true,
    Bool.false_eq_true, if_false, run_loadAndVerifyWithBase_of_ok hreads hacc hs, Eff.run_pure]

/-- Looking for a snapshot changes nothing but the log, and that only if none is found. -/
theorem holds_findSnapshot : ((findSnapshot P now).run env w).Holds
    (fun r w' => w.Logged w' ∧ (r.isSome → w.Finds P env)) w.Logged := by
  unfold findSnapshot
  simp only [Eff.run_bind, run_getWorld, Run.bind_returned]
  refine Run.Holds.bind ((holds_validateSnapshotPath_ok .recover _).mono (fun _ _ h => h)
    fun _ h => h ▸ .refl w) ?_
  rintro (e | target) w₁ ⟨rfl, htarget⟩
  · exact ⟨.refl w₁, nofun⟩
  obtain ⟨rfl, hacc, hvalidate⟩ := htarget target rfl
  simp only [Eff.run_bind, run_pathExists, Run.bind_returned]
  split
  · exact ⟨.refl w₁, nofun⟩
  rw [Eff.run_bind]
  refine Run.Holds.bind ((holds_loadAndVerifyWithBase_reads _).mono (fun _ _ h => h)
    fun _ h => h ▸ .refl w₁) ?_
  rintro (e | s) w₂ ⟨rfl, hload⟩
  · dsimp only
    rw [Eff.run_bind]
    exact Run.Holds.bind ((holds_reportUnreadable now e).mono (fun _ _ h => h) fun _ h => h.2)
      fun _ _ hlog => ⟨hlog, nofun⟩
  obtain ⟨hs : w₂.snapshotAt P w₂.defaultSnapshotPath = some s, hreads⟩ := hload s rfl
  have hboot : w₂.bootSnapshot P = some s := (if_pos hacc).trans hs
  exact ⟨.refl w₂, fun _ => ⟨hboot ▸ rfl, hvalidate, hreads⟩⟩

/-! ### The steps of a recovery -/

namespace RecoveryStep

/-- All steps, in their order. -/
def all : List RecoveryStep :=
  [.qos, .adapter, .audio, .power, .gameMode, .services, .delete, .log]

/-- Some steps of a recovery, one after the other, from a report on. -/
def programs (P : Platform) (now : Ambient) (target : Path) (snapshot : SystemStateSnapshot) :
    RecoveryReport → List RecoveryStep → Prog RecoveryReport
  | report, [] => return report
  | report, step :: rest => do
    programs P now target snapshot (← step.program P now target snapshot report) rest

end RecoveryStep

/-- `rollback_snapshot`, the deletion and the line of the log are the steps of a recovery. -/
theorem run_programs_all {target : Path} {s : SystemStateSnapshot} {w' : World}
    {r : Except String RecoveryReport}
    (h : (do
      match ← rollbackSnapshot s with
      | .error e => return .error e
      | .ok report =>
        let report := { report with durationMs := now.elapsedMillis }
        let _ ← deleteSnapshotWithBase (some target) none
        let _ ← appendRecoveryLog P now report
        return .ok report : Prog (Except String RecoveryReport)).run env w = .returned r w') :
    ∃ report, r = .ok report ∧
      (RecoveryStep.programs P now target s (.begin s) RecoveryStep.all).run env w =
        .returned report w' := by
  rw [Eff.run_bind] at h
  obtain ⟨r', w₇, hrollback, h⟩ := Run.exists_of_bind_eq_returned h
  simp only [rollbackSnapshot, Eff.run_bind] at hrollback
  obtain ⟨_, w₁, hqos, hrollback⟩ := Run.exists_of_bind_eq_returned hrollback
  obtain ⟨_, w₂, hadapter, hrollback⟩ := Run.exists_of_bind_eq_returned hrollback
  obtain ⟨_, w₃, haudio, hrollback⟩ := Run.exists_of_bind_eq_returned hrollback
  obtain ⟨_, w₄, hpower, hrollback⟩ := Run.exists_of_bind_eq_returned hrollback
  obtain ⟨_, w₅, hgameMode, hrollback⟩ := Run.exists_of_bind_eq_returned hrollback
  obtain ⟨_, w₆, hservices, hrollback⟩ := Run.exists_of_bind_eq_returned hrollback
  cases hrollback
  simp only [Eff.run_bind] at h
  obtain ⟨_, w₈, hdelete, h⟩ := Run.exists_of_bind_eq_returned h
  obtain ⟨_, w₉, hlog, h⟩ := Run.exists_of_bind_eq_returned h
  cases h
  refine ⟨_, rfl, ?_⟩
  simp only [RecoveryStep.programs, RecoveryStep.all, RecoveryStep.program,
    Eff.run_bind, Eff.run_pure, Run.bind_returned, hqos, hadapter, haudio, hpower, hgameMode,
    hservices, hdelete, hlog]

/-- `check_and_recover` looks for a snapshot, and takes the steps if it finds one. -/
theorem exists_of_run_checkAndRecover {w' : World} {r : Except String RecoveryReport}
    (h : (checkAndRecover P now none).run env w = .returned r w') :
    (findSnapshot P now).run env w = .returned none w' ∨
      ∃ target s w₁ report, (findSnapshot P now).run env w = .returned (some (target, s)) w₁ ∧
        (RecoveryStep.programs P now target s (.begin s) RecoveryStep.all).run env w₁ =
          .returned report w' := by
  unfold checkAndRecover checkAndRecoverWithBase at h
  unfold findSnapshot
  simp only [Eff.run_bind, run_getWorld, Run.bind_returned, Option.getD_none, World.baseDir]
    at h ⊢
  obtain ⟨e | target, w₁, hvalidate, h⟩ := Run.exists_of_bind_eq_returned h
  · cases h
    rw [hvalidate]
    exact .inl rfl
  rw [hvalidate, Run.bind_returned]
  simp only [Eff.run_bind, run_pathExists, Run.bind_returned] at h ⊢
  split at h
  · next hmissing =>
    cases h
    rw [if_pos hmissing]
    exact .inl rfl
  next hfound =>
  rw [if_neg hfound]
  rw [Eff.run_bind] at h ⊢
  obtain ⟨e | s, w₂, hload, h⟩ := Run.exists_of_bind_eq_returned h
  · rw [hload, Run.bind_returned]
    dsimp only at h ⊢
    rw [Eff.run_bind] at h ⊢
    obtain ⟨text, w₃, hreport, h⟩ := Run.exists_of_bind_eq_returned h
    cases h
    rw [hreport]
    exact .inl rfl
  · rw [hload]
    obtain ⟨report, -, hsteps⟩ := run_programs_all h
    exact .inr ⟨target, s, w₂, report, rfl, hsteps⟩

namespace Instances

variable {s s' : Instances} {p q : ℕ} {d d' : DaemonProcess}

/-! ### One process -/

theorem live_eq_some_iff :
    s.live p = some d ↔ s.processes[p]? = some d ∧ d.main.isExited = false := by
  rw [live, Option.filter_eq_some_iff, Bool.not_eq_eq_eq_not, Bool.not_true]

/-- A process that was updated is there. -/
theorem getElem_update (h : s.processes[p]? = some d) :
    (s.update p d' w).processes[p]? = some d' :=
  List.getElem?_set_self (List.getElem?_eq_some_iff.mp h).1

@[simp] theorem update_update (w w' : World) :
    (s.update p d w).update p d' w' = s.update p d' w' := by
  simp [update]

/-- The main thread takes a step that returns. -/
theorem step_main (hp : s.processes[p]? = some d) (hd : d.main.isExited = false)
    (hrun : (d.mainProgram P now).run env s.world = .returned d' w) :
    step P (.main p now env : InstanceEvent F) s = some (s.update p d' w) := by
  rw [step, live_eq_some_iff.mpr ⟨hp, hd⟩, Option.map_some, hrun]

/-- The main thread takes a step of its recovery. -/
theorem step_restoring {target : Path} {snapshot : SystemStateSnapshot}
    {report report' : RecoveryReport} {first : RecoveryStep} {server : IpcServer} {w₁ w₂ : World}
    (hp : s.processes[p]? = some d)
    (hrun : (first.program P now target snapshot report).run env w₁ = .returned report' w₂) :
    step P (.main p now env : InstanceEvent F)
        (s.update p ⟨.restoring target snapshot report first, server⟩ w₁) =
      some (s.update p ⟨.after target snapshot report' first, server⟩ w₂) := by
  have hprogram : ((DaemonProcess.mainProgram P now)
      ⟨.restoring target snapshot report first, server⟩).run env w₁ =
        .returned ⟨.after target snapshot report' first, server⟩ w₂ := by
    simp only [DaemonProcess.mainProgram, Eff.run_bind]
    show ((first.program P now target snapshot report).run env w₁).bind _ = _
    rw [hrun]
    rfl
  rw [step_main (getElem_update hp) rfl hprogram, update_update]

/-- The steps of a recovery, from one on to the last. -/
theorem exec_restoring {target : Path} {snapshot : SystemStateSnapshot} {server : IpcServer}
    (hp : s.processes[p]? = some d) (rest : List RecoveryStep) :
    ∀ (first : RecoveryStep) (report report' : RecoveryReport) (w₁ w₂ : World),
      (first :: rest).IsChain (fun step next => step.next = some next) →
      ((first :: rest).getLast (List.cons_ne_nil first rest)).next = none →
      (RecoveryStep.programs P now target snapshot report (first :: rest)).run env w₁ =
        .returned report' w₂ →
      exec (step P) (List.replicate (rest.length + 1) (.main p now env : InstanceEvent F))
          (s.update p ⟨.restoring target snapshot report first, server⟩ w₁) =
        some (s.update p ⟨.starting, server⟩ w₂) := by
  induction rest with
  | nil =>
    intro first report report' w₁ w₂ _ hlast hrun
    rw [RecoveryStep.programs, Eff.run_bind] at hrun
    obtain ⟨report₁, w, hfirst, hrun⟩ := Run.exists_of_bind_eq_returned hrun
    cases hrun
    have hafter : MainPhase.after target snapshot report' first = .starting := by
      rw [MainPhase.after, show first.next = none from hlast]
    rw [List.replicate_succ, exec_cons, step_restoring hp hfirst, hafter]
    rfl
  | cons second rest ih =>
    intro first report report' w₁ w₂ hchain hlast hrun
    rw [RecoveryStep.programs, Eff.run_bind] at hrun
    obtain ⟨report₁, w, hfirst, hrun⟩ := Run.exists_of_bind_eq_returned hrun
    obtain ⟨hnext, hchain⟩ := List.isChain_cons_cons.mp hchain
    have hafter : MainPhase.after target snapshot report₁ first =
        .restoring target snapshot report₁ second := by
      rw [MainPhase.after, hnext]
    rw [List.length_cons, List.replicate_succ, exec_cons, step_restoring hp hfirst, hafter,
      Option.bind_some]
    exact ih second report₁ report' w w₂ hchain hlast hrun

/-- **The start-up of a process is `check_and_recover`**: left alone, its main thread comes from the
beginning to the start of the server, with what `check_and_recover` makes of the computer. -/
theorem exec_recovering {r : Except String RecoveryReport} (hp : s.processes[p]? = some d)
    (hd : d.main = .recovering)
    (hrun : (checkAndRecover P now none).run env s.world = .returned r w) :
    ∃ n, exec (step P) (List.replicate n (.main p now env : InstanceEvent F)) s =
      some (s.update p ⟨.starting, d.server⟩ w) := by
  have hlive : d.main.isExited = false := by rw [hd]; rfl
  rcases exists_of_run_checkAndRecover hrun with
    hfind | ⟨target, snapshot, w₁, report, hfind, hsteps⟩
  · have hprogram : (d.mainProgram P now).run env s.world =
        .returned ⟨.starting, d.server⟩ w := by
      simp only [DaemonProcess.mainProgram, hd, Eff.run_bind, hfind]
      rfl
    use 1
    rw [List.replicate_one, exec_cons, step_main hp hlive hprogram]
    rfl
  · have hprogram : (d.mainProgram P now).run env s.world =
        .returned ⟨.restoring target snapshot (.begin snapshot) .qos, d.server⟩ w₁ := by
      simp only [DaemonProcess.mainProgram, hd, Eff.run_bind, hfind]
      rfl
    use 9
    rw [List.replicate_succ, exec_cons, step_main hp hlive hprogram, Option.bind_some]
    exact exec_restoring hp [.adapter, .audio, .power, .gameMode, .services, .delete, .log] .qos
      (.begin snapshot) report w₁ w (by simp [RecoveryStep.next]) rfl hsteps

/-! ### The statement -/

/-- No process restores a snapshot while another owns the pipe, and a process whose listener has
ended leaves the loop of `main`. -/
structure OwnerRecovers (P : Platform) (s : Instances) : Prop where
  alone : ∀ p d, s.processes[p]? = some d → d.main.isRestoring = true → s.pipeTaken p = false
  leaves : ∀ d ∈ s.processes, d.main = .waiting → d.server.listener = some .ended →
    ∀ now env w, (d.mainProgram P now).run env w = .returned d.exit w

end Instances

/-- A process that looks for a snapshot while another owns the pipe finds none; and where a listener
is to create the pipe, the system gives it, and no other process owns it or is restoring a snapshot.
-/
def InstanceEvent.Orderly (P : Platform) (e : InstanceEvent F) (s : Instances) : Prop :=
  match e with
  | .main p _ env => ∀ d, s.processes[p]? = some d → d.main = .recovering → s.world.Finds P env →
    s.pipeTaken p = false
  | .listener p (.create _ succeeds) =>
    succeeds = true ∧ s.pipeTaken p = false ∧ s.othersRestore p = false
  | _ => True

/-- The process waits for a listener that has ended. -/
def DaemonProcess.Stuck (d : DaemonProcess) : Prop :=
  d.main = .waiting ∧ d.server.listener = some .ended ∧ d.server.isRunning = true

/-- Before it waits, a process has not started its server, and then it has one listener. -/
def DaemonProcess.Sound (d : DaemonProcess) : Prop :=
  match d.main with
  | .waiting => ∃ phase running, d.server = ⟨running, [phase]⟩ ∧
    (phase = .creating → running = true) ∧ (phase = .leaving → running = false)
  | .exited => True
  | _ => d.server = .new

theorem DaemonProcess.not_stuck_iff {d : DaemonProcess} : ¬ d.Stuck ↔
    (d.main = .waiting → d.server.listener = some .ended →
      ∀ now env w, (d.mainProgram P now).run env w = .returned d.exit w) := by
  constructor
  · intro h hmain hended now env w
    have hrunning : d.server.isRunning = false := by
      rw [← Bool.not_eq_true]
      exact fun hrunning => h ⟨hmain, hended, hrunning⟩
    simp only [mainProgram, hmain, hrunning, Bool.false_eq_true, if_false, Eff.run_pure]
    rfl
  · rintro h ⟨hmain, hended, hrunning⟩
    have hrun := h hmain hended default (.faultless errorText) World.desktop
    simp only [mainProgram, hmain, hrunning, if_true, Eff.run_pure, Run.returned.injEq] at hrun
    have hphase := congrArg DaemonProcess.main hrun.1
    cases hphase

/-! ### The other processes -/

namespace Instances

variable {s s' : Instances} {p q : ℕ} {d d' : DaemonProcess}

theorem any_eraseIdx_eq_false_iff {f : DaemonProcess → Bool} {l : List DaemonProcess} :
    (l.eraseIdx p).any f = false ↔ ∀ q d, q ≠ p → l[q]? = some d → f d = false := by
  simp only [List.any_eq_false, List.mem_eraseIdx_iff_getElem?, Bool.not_eq_true]
  constructor
  · intro h q d hq hd
    exact h d ⟨q, hq, hd⟩
  · rintro h d ⟨q, hq, hd⟩
    exact h q d hq hd

theorem pipeTaken_eq_false_iff : s.pipeTaken p = false ↔
    ∀ q d, q ≠ p → s.processes[q]? = some d → d.ownsPipe = false := any_eraseIdx_eq_false_iff

theorem othersRestore_eq_false_iff : s.othersRestore p = false ↔
    ∀ q d, q ≠ p → s.processes[q]? = some d → d.main.isRestoring = false :=
  any_eraseIdx_eq_false_iff

theorem getElem_update_of_ne (h : q ≠ p) : (s.update p d' w).processes[q]? = s.processes[q]? :=
  List.getElem?_set_ne h.symm

/-- The others do not see what becomes of a process. -/
theorem pipeTaken_update : (s.update p d' w).pipeTaken p = s.pipeTaken p := by
  rw [Bool.eq_iff_iff, ← not_iff_not, Bool.not_eq_true, Bool.not_eq_true, pipeTaken_eq_false_iff,
    pipeTaken_eq_false_iff]
  apply forall₃_congr
  intro q d hq
  rw [getElem_update_of_ne hq]

/-- What it takes to replace a process. -/
theorem OwnerRecovers.update_iff (h : s.OwnerRecovers P) (hp : s.processes[p]? = some d) :
    (s.update p d' w).OwnerRecovers P ↔
      (d'.main.isRestoring = true → s.pipeTaken p = false) ∧
      (d'.ownsPipe = true → s.othersRestore p = false) ∧ ¬ d'.Stuck := by
  have hself : (s.update p d' w).processes[p]? = some d' := getElem_update hp
  constructor
  · intro h'
    refine ⟨fun hrestoring => ?_, fun howns => ?_, ?_⟩
    · have hsame : (s.update p d' w).pipeTaken p = s.pipeTaken p := pipeTaken_update
      rw [← hsame]
      exact h'.alone p d' hself hrestoring
    · rw [othersRestore_eq_false_iff]
      intro q x hq hx
      rw [← Bool.not_eq_true]
      intro hrestoring
      have hx' : (s.update p d' w).processes[q]? = some x := (getElem_update_of_ne hq).trans hx
      have htaken := pipeTaken_eq_false_iff.mp (h'.alone q x hx' hrestoring) p d' hq.symm hself
      rw [howns] at htaken
      cases htaken
    · exact DaemonProcess.not_stuck_iff.mpr (h'.leaves d' (List.mem_of_getElem? hself))
  · rintro ⟨hrestoring, howns, hstuck⟩
    constructor
    · intro q x hx hx'
      by_cases hq : q = p
      · subst hq
        rw [hself, Option.some.injEq] at hx
        subst hx
        rw [pipeTaken_update]
        exact hrestoring hx'
      · rw [getElem_update_of_ne hq] at hx
        have hfree := pipeTaken_eq_false_iff.mp (h.alone q x hx hx')
        rw [pipeTaken_eq_false_iff]
        intro r y hr hy
        by_cases hrp : r = p
        · subst hrp
          rw [hself, Option.some.injEq] at hy
          subst hy
          -- the process that is replaced does not take the pipe from one that restores
          rw [← Bool.not_eq_true]
          intro hy
          have hnone := othersRestore_eq_false_iff.mp (howns hy) q x hq hx
          rw [hx'] at hnone
          cases hnone
        · rw [getElem_update_of_ne hrp] at hy
          exact hfree r y hr hy
    · intro x hx
      rcases List.mem_or_eq_of_mem_set hx with hx | rfl
      · exact h.leaves x hx
      · exact DaemonProcess.not_stuck_iff.mp hstuck

end Instances

/-! ### What a process does -/

/-- What an event makes of a process. -/
inductive DaemonProcess.Move (P : Platform) (e : InstanceEvent F) (s : Instances) (p : ℕ)
    (d : DaemonProcess) : DaemonProcess → Prop
  /-- It looks for a snapshot, and finds one. -/
  | found (now : Ambient) (env : Env Call) (he : e = .main p now env)
      (hmain : d.main = .recovering) (hfinds : s.world.Finds P env) (target : Path)
      (snapshot : SystemStateSnapshot) :
      Move P e s p d { d with main := .restoring target snapshot (.begin snapshot) .qos }
  /-- Its listener creates the pipe, or fails to. -/
  | created (i : ℕ) (succeeds : Bool) (he : e = .listener p (.create i succeeds))
      (hmain : d.main = .waiting) (hserver : d.server = ⟨true, [.creating]⟩) :
      Move P e s p d { d with server :=
        ⟨true, [if succeeds && !s.pipeTaken p then .checking else .ended]⟩ }
  /-- Anything else. -/
  | other (d' : DaemonProcess) (horderly : e.Orderly P s)
      (hrestoring : d'.main.isRestoring = true → d.main.isRestoring = true)
      (howns : d'.ownsPipe = true → d.ownsPipe = true) (hstuck : ¬ d.Stuck → ¬ d'.Stuck)
      (hsound : d'.Sound) : Move P e s p d d'

namespace DaemonProcess

variable {e : InstanceEvent F} {s : Instances} {p : ℕ} {d d' : DaemonProcess}

/-- A process that is not waiting for its listener is not stuck. -/
theorem not_stuck_of_main (h : d.main ≠ .waiting) : ¬ d.Stuck := fun hstuck => h hstuck.1

theorem Move.exit (horderly : e.Orderly P s) : Move P e s p d d.exit :=
  .other d.exit horderly nofun nofun (fun _ => not_stuck_of_main nofun) trivial

theorem ownsPipe_of_new (h : d.server = .new) : d.ownsPipe = false := by
  unfold ownsPipe
  rw [h]
  exact Bool.and_false _

theorem Sound.server_of_recovering (h : d.Sound) (hmain : d.main = .recovering) :
    d.server = .new := by
  unfold Sound at h
  rw [hmain] at h
  exact h

/-- The step of a main thread that is not looking for a snapshot, or finds none. -/
theorem orderly_main {env : Env Call} (hp : s.processes[p]? = some d)
    (h : d.main = .recovering → ¬ s.world.Finds P env) :
    (.main p now env : InstanceEvent F).Orderly P s := by
  intro d₁ hd₁ hmain hfinds
  rw [hp, Option.some.injEq] at hd₁
  subst hd₁
  exact absurd hfinds (h hmain)

/-- A step of the main thread that neither restores nor takes the pipe. -/
theorem Move.quiet {env : Env Call} (hp : s.processes[p]? = some d)
    (hfinds : d.main = .recovering → ¬ s.world.Finds P env)
    (hrestoring : d'.main.isRestoring = false) (howns : d'.server.holdsPipe = false)
    (hstuck : ¬ d'.Stuck) (hsound : d'.Sound) :
    Move P (.main p now env : InstanceEvent F) s p d d' := by
  refine .other d' (orderly_main hp hfinds) ?_ ?_ (fun _ => hstuck) hsound
  · rw [hrestoring]
    exact nofun
  · rw [ownsPipe, howns, Bool.and_false]
    exact nofun

theorem move_of_main {env : Env Call} {w : World} (hsound : d.Sound)
    (hp : s.processes[p]? = some d) (hlive : d.main.isExited = false)
    (hrun : (d.mainProgram P now).run env s.world = .returned d' w) :
    Move P (.main p now env : InstanceEvent F) s p d d' := by
  have hsound' := hsound
  unfold Sound at hsound
  cases hmain : d.main with
  | recovering =>
    rw [hmain] at hsound
    simp only [mainProgram, hmain, Eff.run_bind] at hrun
    obtain ⟨found, w₁, hfind, hrun⟩ := Run.exists_of_bind_eq_returned hrun
    cases found with
    | none =>
      cases hrun
      refine .quiet hp (fun _ hfinds => ?_) rfl ?_ (not_stuck_of_main nofun) hsound
      · obtain ⟨snapshot, hsome⟩ := run_findSnapshot_of_finds now hfinds
        rw [hfind] at hsome
        cases hsome
      · show d.server.holdsPipe = false
        rw [hsound]
        rfl
    | some found =>
      cases hrun
      have hfinds := (holds_findSnapshot.of_returned hfind).2 rfl
      exact .found now env rfl hmain hfinds _ _
  | restoring target snapshot report step =>
    rw [hmain] at hsound
    simp only [mainProgram, hmain, Eff.run_bind] at hrun
    obtain ⟨report', w₁, -, hrun⟩ := Run.exists_of_bind_eq_returned hrun
    cases hrun
    have hwait : MainPhase.after target snapshot report' step ≠ .waiting := by
      unfold MainPhase.after
      split <;> nofun
    refine .other _ (orderly_main hp fun h => ?_) (fun _ => ?_) (fun howns => ?_)
      (fun _ => not_stuck_of_main hwait) ?_
    · rw [hmain] at h
      cases h
    · rw [hmain]
      rfl
    · have hfree : (⟨.after target snapshot report' step, d.server⟩ : DaemonProcess).ownsPipe =
          false := ownsPipe_of_new hsound
      rw [hfree] at howns
      cases howns
    · unfold Sound MainPhase.after
      split
      · next h => split at h <;> cases h
      · trivial
      · exact hsound
  | starting =>
    rw [hmain] at hsound
    simp only [mainProgram, hmain, hsound] at hrun
    cases hrun
    refine .quiet hp (fun h => ?_) rfl rfl ?_ ?_
    · rw [hmain] at h
      cases h
    · rintro ⟨-, hended, -⟩
      cases hended
    · exact ⟨.creating, true, rfl, fun _ => rfl, nofun⟩
  | waiting =>
    have horderly : (.main p now env : InstanceEvent F).Orderly P s := by
      refine orderly_main hp fun h => ?_
      rw [hmain] at h
      cases h
    simp only [mainProgram, hmain] at hrun
    cases hrun
    split
    · -- the flag is set: another half second
      rw [← hmain]
      exact .other d horderly id id id hsound'
    · exact Move.exit horderly
  | exited =>
    rw [hmain] at hlive
    cases hlive

theorem Sound.server_of_live (h : d.Sound) (hlive : d.main.isExited = false) :
    (d.main = .waiting ∧ ∃ phase running, d.server = ⟨running, [phase]⟩ ∧
      (phase = .creating → running = true) ∧ (phase = .leaving → running = false)) ∨
    d.main ≠ .waiting ∧ d.server = .new := by
  unfold Sound at h
  cases hmain : d.main with
  | waiting =>
    rw [hmain] at h
    exact .inl ⟨rfl, h⟩
  | exited =>
    rw [hmain] at hlive
    cases hlive
  | recovering | restoring | starting =>
    rw [hmain] at h
    exact .inr ⟨nofun, h⟩

/-- The only listener that a process has. -/
theorem eq_of_getElem_singleton {i : ℕ} {phase phase' : ListenerPhase}
    (h : [phase][i]? = some phase') : i = 0 ∧ phase' = phase := by
  cases i with
  | zero =>
    rw [List.getElem?_cons_zero, Option.some.injEq] at h
    exact ⟨rfl, h.symm⟩
  | succ i => cases h

theorem exists_of_atPipe_eq_create {e : IpcEvent F} {free ok : Bool} {i : ℕ}
    (h : e.atPipe free = .create i ok) :
    ∃ succeeds, e = .create i succeeds ∧ ok = (succeeds && free) := by
  cases e with
  | create j succeeds =>
    cases h
    exact ⟨succeeds, rfl, rfl⟩
  | start | stop | look | connect | serve | close => cases h

theorem atPipe_ne_call {e : IpcEvent F} {free : Bool} (he : e.ofListener = true) :
    e.atPipe free ≠ .start ∧ e.atPipe free ≠ .stop := by
  cases e with
  | start | stop => cases he
  | create | look | connect | serve | close => exact ⟨nofun, nofun⟩

/-- The step of a listener of a process that waits. -/
theorem move_of_listener_waiting {e : IpcEvent F} {server : IpcServer} {phase : ListenerPhase}
    {running : Bool} (hmain : d.main = .waiting) (hserver : d.server = ⟨running, [phase]⟩)
    (hcreating : phase = .creating → running = true) (hleaving : phase = .leaving → running = false)
    (horderly : (∀ i succeeds, e ≠ .create i succeeds) →
      (.listener p e : InstanceEvent F).Orderly P s)
    (hsound : d.Sound) (he : e.ofListener = true)
    (hmove : IpcServer.Move (e.atPipe !s.pipeTaken p) d.server server) :
    Move P (.listener p e : InstanceEvent F) s p d { d with server := server } := by
  have hother : (∀ i succeeds, e.atPipe (!s.pipeTaken p) ≠ .create i succeeds) →
      ∀ i succeeds, e ≠ .create i succeeds := by
    rintro h i succeeds rfl
    exact h i _ rfl
  cases hmove with
  | refused h => exact .other _ (horderly (hother h)) id id id hsound
  | started h => exact absurd h (atPipe_ne_call he).1
  | stopped h => exact absurd h (atPipe_ne_call he).2
  | created i ok h hphase =>
    obtain ⟨succeeds, rfl, rfl⟩ := exists_of_atPipe_eq_create h
    rw [hserver] at hphase
    obtain ⟨rfl, hsame⟩ := eq_of_getElem_singleton hphase
    rw [hcreating hsame.symm, ← hsame] at hserver
    have hfree : (⟨true, [.creating]⟩ : IpcServer).holdsPipe = false := rfl
    rw [hserver, hfree, Bool.not_false, Bool.and_true]
    exact .created 0 succeeds rfl hmain hserver
  | moved i phase' next running' h hphase hholds hnext hrunning hleave hended =>
    rw [hserver] at hphase hrunning hleave ⊢
    change running' = true → running = true at hrunning
    obtain ⟨rfl, rfl⟩ := eq_of_getElem_singleton hphase
    refine .other _ (horderly (hother h)) id (fun howns => ?_) (fun _ => ?_) ?_
    · unfold ownsPipe
      rw [hserver, hmain]
      show (true && [phase'].any ListenerPhase.holdsPipe) = true
      rw [List.any_cons, hholds]
      rfl
    · rintro ⟨-, hlast, hset⟩
      -- it has left its loop, so that the flag is not set
      have hclear := hleaving (hended (Option.some.inj hlast))
      rw [hrunning hset] at hclear
      cases hclear
    · unfold Sound
      rw [hmain]
      refine ⟨next, running', rfl, fun hcreate => absurd hcreate hnext, fun hleft => ?_⟩
      have hclear := hleave hleft
      rw [← Bool.not_eq_true]
      intro hset
      rw [hrunning hset] at hclear
      cases hclear

theorem move_of_listener {e : IpcEvent F} {server : IpcServer} (hsound : d.Sound)
    (hlive : d.main.isExited = false) (he : e.ofListener = true)
    (hstep : IpcServer.step (e.atPipe !s.pipeTaken p) d.server = some server) :
    Move P (.listener p e : InstanceEvent F) s p d { d with server := server } := by
  have hmove := IpcServer.move_of_step hstep
  have horderly : (∀ i succeeds, e ≠ .create i succeeds) →
      (.listener p e : InstanceEvent F).Orderly P s := by
    intro hother
    cases e with
    | create i succeeds => exact absurd rfl (hother i succeeds)
    | start | stop | look | connect | serve | close => trivial
  rcases hsound.server_of_live hlive with
    ⟨hmain, phase, running, hserver, hcreating, hleaving⟩ | ⟨hmain, hserver⟩
  · exact move_of_listener_waiting hmain hserver hcreating hleaving horderly hsound he hmove
  · -- no listener has been spawned yet
    rw [hserver] at hmove
    have hnone : ∀ {i : ℕ} {phase : ListenerPhase}, IpcServer.new.listeners[i]? ≠ some phase :=
      nofun
    cases hmove with
    | refused h =>
      rw [← hserver]
      refine .other _ (horderly ?_) id id id hsound
      rintro i succeeds rfl
      exact h i _ rfl
    | started h => exact absurd h (atPipe_ne_call he).1
    | stopped h => exact absurd h (atPipe_ne_call he).2
    | created i ok h hphase => exact absurd hphase hnone
    | moved i phase' next running' h hphase => exact absurd hphase hnone

theorem Move.sound (h : Move P e s p d d') (hsound : d.Sound) : d'.Sound := by
  cases h with
  | found now env he hmain hfinds target snapshot => exact hsound.server_of_recovering hmain
  | created i succeeds he hmain hserver =>
    unfold Sound
    rw [hmain]
    refine ⟨_, true, rfl, fun _ => rfl, ?_⟩
    split <;> nofun
  | other d' horderly hrestoring howns hstuck hsound => exact hsound

end DaemonProcess

/-! ### Every step -/

namespace Instances

variable {s s' : Instances} {e : InstanceEvent F} {p q : ℕ} {d d' : DaemonProcess}

/-- What an event makes of the computer and its processes. -/
inductive Move (P : Platform) (e : InstanceEvent F) (s : Instances) : Instances → Prop
  | spawned (horderly : e.Orderly P s) :
      Move P e s { s with processes := s.processes ++ [.spawned] }
  | acted (horderly : e.Orderly P s) (w : World) : Move P e s { s with world := w }
  | process (p : ℕ) (d d' : DaemonProcess) (w : World) (hp : s.processes[p]? = some d)
      (hmove : d.Sound → DaemonProcess.Move P e s p d d') : Move P e s (s.update p d' w)

theorem move_of_step (h : step P e s = some s') : Move P e s s' := by
  cases e with
  | spawn =>
    cases h
    exact .spawned trivial
  | act program env =>
    have horderly : (.act program env : InstanceEvent F).Orderly P s := trivial
    cases h
    exact .acted horderly _
  | main p now env =>
    obtain ⟨d, hlive, rfl⟩ := Option.map_eq_some_iff.mp h
    obtain ⟨hp, hlive⟩ := live_eq_some_iff.mp hlive
    cases hrun : (d.mainProgram P now).run env s.world with
    | returned d' w =>
      exact .process p d d' w hp fun hsound => DaemonProcess.move_of_main hsound hp hlive hrun
    | crashed w =>
      refine .process p d d.exit w hp fun _ => .exit (DaemonProcess.orderly_main hp ?_)
      intro hmain hfinds
      obtain ⟨snapshot, hfind⟩ := run_findSnapshot_of_finds now hfinds
      simp only [DaemonProcess.mainProgram, hmain, Eff.run_bind, hfind] at hrun
      cases hrun
  | listener p e =>
    obtain ⟨d, hlive, h⟩ := Option.bind_eq_some_iff.mp h
    obtain ⟨hp, hlive⟩ := live_eq_some_iff.mp hlive
    split at h
    · next he =>
      obtain ⟨server, hstep, rfl⟩ := Option.map_eq_some_iff.mp h
      exact .process p d _ s.world hp
        fun hsound => DaemonProcess.move_of_listener hsound hlive he hstep
    · cases h
  | kill p =>
    obtain ⟨d, hlive, rfl⟩ := Option.map_eq_some_iff.mp h
    obtain ⟨hp, -⟩ := live_eq_some_iff.mp hlive
    exact .process p d d.exit s.world hp fun _ => .exit trivial

/-- Every process is as far as its server is. -/
def Sound (s : Instances) : Prop := ∀ d ∈ s.processes, d.Sound

theorem Sound.move (h : s.Sound) (hmove : Move P e s s') : s'.Sound := by
  cases hmove with
  | spawned =>
    intro d hd
    rcases List.mem_append.mp hd with hd | hd
    · exact h d hd
    · rw [List.mem_singleton] at hd
      subst hd
      rfl
  | acted => exact h
  | process p d d' w hp hmove =>
    have hsound := h d (List.mem_of_getElem? hp)
    intro x hx
    rcases List.mem_or_eq_of_mem_set hx with hx | rfl
    · exact h x hx
    · exact (hmove hsound).sound hsound

theorem getElem_spawned (h : (s.processes ++ [DaemonProcess.spawned])[q]? = some d) :
    s.processes[q]? = some d ∨ d = .spawned := by
  rw [List.getElem?_append] at h
  split at h
  · exact .inl h
  · exact .inr (List.mem_singleton.mp (List.mem_of_getElem? h))

/-- A new process has not the pipe. -/
theorem pipeTaken_spawned (h : s.pipeTaken p = false) :
    ({ s with processes := s.processes ++ [.spawned] } : Instances).pipeTaken p = false := by
  rw [pipeTaken_eq_false_iff] at h ⊢
  intro q d hq hd
  rcases getElem_spawned hd with hd | rfl
  · exact h q d hq hd
  · rfl

theorem OwnerRecovers.spawned (h : s.OwnerRecovers P) :
    ({ s with processes := s.processes ++ [.spawned] } : Instances).OwnerRecovers P := by
  constructor
  · intro p d hp hrestoring
    rcases getElem_spawned hp with hp | rfl
    · exact pipeTaken_spawned (h.alone p d hp hrestoring)
    · cases hrestoring
  · intro d hd
    rcases List.mem_append.mp hd with hd | hd
    · exact h.leaves d hd
    · rw [List.mem_singleton] at hd
      subst hd
      exact nofun

/-- A process that owns the pipe is the only one that may be restoring. -/
theorem OwnerRecovers.othersRestore (h : s.OwnerRecovers P) (hp : s.processes[p]? = some d)
    (howns : d.ownsPipe = true) : s.othersRestore p = false := by
  rw [othersRestore_eq_false_iff]
  intro q x hq hx
  rw [← Bool.not_eq_true]
  intro hrestoring
  have hfree := pipeTaken_eq_false_iff.mp (h.alone q x hx hrestoring) p d hq.symm hp
  rw [howns] at hfree
  cases hfree

/-- A step keeps the law just if it is orderly. -/
theorem OwnerRecovers.move_iff (hsound : s.Sound) (h : s.OwnerRecovers P) (hmove : Move P e s s') :
    s'.OwnerRecovers P ↔ e.Orderly P s := by
  cases hmove with
  | spawned horderly => exact iff_of_true h.spawned horderly
  | acted horderly w => exact iff_of_true ⟨h.alone, h.leaves⟩ horderly
  | process p d d' w hp hmove =>
    have hd := hsound d (List.mem_of_getElem? hp)
    rw [h.update_iff hp]
    cases hmove hd with
    | found now env he hmain hfinds target snapshot =>
      subst he
      have hserver := hd.server_of_recovering hmain
      constructor
      · intro hlaw d₁ hd₁ _ _
        exact hlaw.1 rfl
      · intro horderly
        refine ⟨fun _ => horderly d hp hmain hfinds, ?_, DaemonProcess.not_stuck_of_main nofun⟩
        intro howns
        have hfree : DaemonProcess.ownsPipe
            ⟨.restoring target snapshot (.begin snapshot) .qos, d.server⟩ = false :=
          DaemonProcess.ownsPipe_of_new hserver
        rw [hfree] at howns
        cases howns
    | created i succeeds he hmain hserver =>
      subst he
      show (d.main.isRestoring = true → _) ∧ (_ → _) ∧ ¬ DaemonProcess.Stuck _ ↔
        succeeds = true ∧ s.pipeTaken p = false ∧ s.othersRestore p = false
      have hquiet : d.main.isRestoring = false := by rw [hmain]; rfl
      cases hcreates : succeeds && !s.pipeTaken p with
      | false =>
        -- the listener has ended, and the flag is still set
        refine iff_of_false (fun hlaw => hlaw.2.2 ⟨hmain, rfl, rfl⟩) ?_
        rintro ⟨rfl, hfree, -⟩
        rw [hfree] at hcreates
        cases hcreates
      | true =>
        rw [Bool.and_eq_true, Bool.not_eq_true'] at hcreates
        obtain ⟨hsucceeds, hfree⟩ := hcreates
        constructor
        · rintro ⟨-, hothers, -⟩
          refine ⟨hsucceeds, hfree, hothers ?_⟩
          rw [DaemonProcess.ownsPipe, hmain]
          rfl
        · rintro ⟨-, -, hothers⟩
          refine ⟨fun _ => hfree, fun _ => hothers, ?_⟩
          rintro ⟨-, hended, -⟩
          cases hended
    | other d' horderly hrestoring howns hstuck hsound' =>
      refine iff_of_true ⟨fun hd' => h.alone p d hp (hrestoring hd'), fun hd' => ?_, ?_⟩ horderly
      · exact h.othersRestore hp (howns hd')
      · exact hstuck (DaemonProcess.not_stuck_iff.mpr (h.leaves d (List.mem_of_getElem? hp)))

/-! Before the first process is spawned. -/

theorem sound_empty (w : World) : (⟨w, []⟩ : Instances).Sound :=
  fun _ hd => absurd hd List.not_mem_nil

theorem not_getElem_empty {w : World} : (⟨w, []⟩ : Instances).processes[p]? ≠ some d := by
  rw [List.getElem?_nil]
  exact (Option.some_ne_none d).symm

theorem ownerRecovers_empty (P : Platform) (w : World) : (⟨w, []⟩ : Instances).OwnerRecovers P where
  alone _ _ hp := absurd hp not_getElem_empty
  leaves _ hd := absurd hd List.not_mem_nil

/-- **The owner of the pipe recovers**, and no other process, and every process whose listener has
ended leaves the loop of `main`, throughout a run of any number of processes just if every step is
orderly. -/
theorem ownerRecovers_iff (P : Platform) (events : List (InstanceEvent F)) (w : World) :
    Always (step P) (OwnerRecovers P) events ⟨w, []⟩ ↔
      Each (step P) (InstanceEvent.Orderly P) events ⟨w, []⟩ :=
  always_iff_each (I := Sound)
    (fun _ _ _ hsound hlaw hstep => hlaw.move_iff hsound (move_of_step hstep))
    (fun _ _ _ hsound _ _ hstep => hsound.move (move_of_step hstep))
    (sound_empty w) (ownerRecovers_empty P w)

/-! ### One owner -/

/-- Where a process owns the pipe, no other does. -/
def Exclusive (s : Instances) : Prop :=
  ∀ p d, s.processes[p]? = some d → d.ownsPipe = true → s.pipeTaken p = false

theorem Exclusive.update (h : s.Exclusive) (hp : s.processes[p]? = some d)
    (howns : d'.ownsPipe = true → s.pipeTaken p = false) : (s.update p d' w).Exclusive := by
  intro q x hx hx'
  rw [pipeTaken_eq_false_iff]
  intro r y hr hy
  rw [← Bool.not_eq_true]
  intro hy'
  -- of two owners, at most one is the process that was replaced
  by_cases hq : q = p
  · subst hq
    rw [getElem_update hp, Option.some.injEq] at hx
    subst hx
    rw [getElem_update_of_ne hr] at hy
    have hfree := pipeTaken_eq_false_iff.mp (howns hx') r y hr hy
    rw [hy'] at hfree
    cases hfree
  · rw [getElem_update_of_ne hq] at hx
    by_cases hrp : r = p
    · subst hrp
      rw [getElem_update hp, Option.some.injEq] at hy
      subst hy
      have hfree := pipeTaken_eq_false_iff.mp (howns hy') q x hq hx
      rw [hx'] at hfree
      cases hfree
    · rw [getElem_update_of_ne hrp] at hy
      have hfree := pipeTaken_eq_false_iff.mp (h q x hx hx') r y hr hy
      rw [hy'] at hfree
      cases hfree

theorem Exclusive.move (hsound : s.Sound) (h : s.Exclusive) (hmove : Move P e s s') :
    s'.Exclusive := by
  cases hmove with
  | spawned =>
    intro q x hx howns
    rcases getElem_spawned hx with hx | rfl
    · exact pipeTaken_spawned (h q x hx howns)
    · cases howns
  | acted => exact h
  | process p d d' w hp hmove =>
    have hd := hsound d (List.mem_of_getElem? hp)
    apply h.update hp
    intro howns
    cases hmove hd with
    | found now env he hmain hfinds target snapshot =>
      have hfree : DaemonProcess.ownsPipe
          ⟨.restoring target snapshot (.begin snapshot) .qos, d.server⟩ = false :=
        DaemonProcess.ownsPipe_of_new (hd.server_of_recovering hmain)
      rw [hfree] at howns
      cases howns
    | created i succeeds he hmain hserver =>
      -- the call has succeeded, so that the name was free
      rw [DaemonProcess.ownsPipe, Bool.and_eq_true] at howns
      have hholds := howns.2
      cases hcreates : succeeds && !s.pipeTaken p with
      | false =>
        rw [hcreates] at hholds
        cases hholds
      | true =>
        rw [Bool.and_eq_true, Bool.not_eq_true'] at hcreates
        exact hcreates.2
    | other d' horderly hrestoring howns' => exact h p d hp (howns' howns)

/-- **At most one process owns the pipe**, in every state of every run. -/
theorem ownsPipe_unique {events : List (InstanceEvent F)}
    (h : exec (step P) events ⟨w, []⟩ = some s) (hp : s.processes[p]? = some d)
    (hq : s.processes[q]? = some d') (hd : d.ownsPipe = true) (hd' : d'.ownsPipe = true) :
    p = q := by
  have hinvariant : s.Sound ∧ s.Exclusive :=
    exec_invariant (I := fun s => s.Sound ∧ s.Exclusive)
      (fun _ _ _ hs hstep => ⟨hs.1.move (move_of_step hstep), hs.2.move hs.1 (move_of_step hstep)⟩)
      ⟨sound_empty w, fun _ _ hp => absurd hp not_getElem_empty⟩ h
  by_contra hne
  have hfree := pipeTaken_eq_false_iff.mp (hinvariant.2 p d hp hd) q d' (Ne.symm hne) hq
  rw [hd'] at hfree
  cases hfree

/-! ### Two daemons -/

/-- The start of a first daemon, which creates the pipe or not. -/
def firstDaemon (succeeds : Bool) : List (InstanceEvent Unit) :=
  [.spawn, .main 0 default (.faultless errorText), .main 0 default (.faultless errorText),
    .listener 0 (.create 0 succeeds)]

theorem exec_firstDaemon (succeeds : Bool) :
    exec (step .portable) (firstDaemon succeeds) ⟨.desktop, []⟩ =
      some ⟨.desktop, [⟨.waiting, ⟨true, [if succeeds then .checking else .ended]⟩⟩]⟩ := by
  have hacc : World.desktop.Accepts none World.desktop.defaultSnapshotPath := by decide
  have hfind : (findSnapshot .portable default).run (.faultless errorText) .desktop =
      .returned none .desktop := by
    unfold findSnapshot
    simp only [Eff.run_bind, run_getWorld, Run.bind_returned, run_validateSnapshotPath hacc,
      run_pathExists]
    rfl
  have hprogram : (DaemonProcess.spawned.mainProgram .portable default).run (.faultless errorText)
      World.desktop = .returned ⟨.starting, .new⟩ .desktop := by
    simp only [DaemonProcess.mainProgram, DaemonProcess.spawned, Eff.run_bind, hfind]
    rfl
  have hmain : step .portable (.main 0 default (.faultless errorText) : InstanceEvent Unit)
      ⟨.desktop, [.spawned]⟩ = some ⟨.desktop, [⟨.starting, .new⟩]⟩ := step_main rfl rfl hprogram
  have hspawn : step .portable (.spawn : InstanceEvent Unit) ⟨.desktop, []⟩ =
      some ⟨.desktop, [.spawned]⟩ := rfl
  rw [firstDaemon, exec_cons, hspawn, Option.bind_some, exec_cons, hmain]
  cases succeeds <;> rfl

/-- The save of `val-opt-cli snapshot`, once the settings are read. -/
def savesSnapshot : Prog Unit := do
  let _ ← saveAtomicWithBase .portable default (.new "snap_0" "")
    (some World.desktop.defaultSnapshotPath) none
  return ()

theorem finds_savesSnapshot :
    (savesSnapshot.run (.faultless errorText) .desktop).state.Finds .portable
      (.faultless errorText) := by
  have hacc : World.desktop.Accepts none World.desktop.defaultSnapshotPath := by decide
  have hsaves : ∃ s w, (saveAtomicWithBase .portable default (.new "snap_0" "")
      (some World.desktop.defaultSnapshotPath) none).run (.faultless errorText) .desktop =
        .returned (.ok (World.desktop.defaultSnapshotPath, s)) w :=
    run_saveAtomicWithBase_of_keyUsable errorText (.inl rfl) hacc ⟨rfl, rfl, rfl, .inr rfl⟩
  obtain ⟨s, w, hsave⟩ := hsaves
  have hload : (loadAndVerifyWithBase .portable (some World.desktop.defaultSnapshotPath) none).run
      (.faultless errorText) w = .returned (.ok s) w :=
    load_of_run_save Platform.lawful_portable (by decide) hsave
  have hdata : w.drive = World.desktop.drive := by
    have hkept : Eff.Preserves (.faultless errorText)
        (fun w => w.drive = World.desktop.drive)
        (saveAtomicWithBase .portable default (.new "snap_0" "")
          (some World.desktop.defaultSnapshotPath) none) :=
      preserves_saveAtomicWithBase _ _ _ _ (fun _ _ _ h => h) fun _ _ h => h
    have hstate := hkept.state (s := World.desktop) rfl
    rw [hsave] at hstate
    exact hstate
  obtain ⟨haccepts, hsnap⟩ := load_ok_iff.mp hload
  have hpath : w.defaultSnapshotPath = World.desktop.defaultSnapshotPath := by
    unfold World.defaultSnapshotPath World.storageDir
    rw [hdata]
  have hstate : (savesSnapshot.run (.faultless errorText) .desktop).state = w := by
    rw [savesSnapshot, Eff.run_bind, hsave]
    rfl
  rw [hstate]
  have hboot : w.bootSnapshot .portable = some s := by
    unfold World.bootSnapshot
    rw [hpath]
    exact (if_pos haccepts).trans hsnap
  exact ⟨hboot ▸ rfl, rfl, fun _ _ => rfl⟩

/-- **Counterexample.**  A first daemon owns the pipe and saves a snapshot, and a second one is
spawned: it is going to restore what it finds.  And a daemon whose pipe is not created waits on. -/
theorem second_daemon_recovers :
    ¬ Always (step .portable) (OwnerRecovers .portable)
      (firstDaemon true ++ [.act savesSnapshot (.faultless errorText), .spawn,
        .main 1 default (.faultless errorText)]) ⟨.desktop, []⟩ ∧
    ¬ Always (step .portable) (OwnerRecovers .portable) (firstDaemon false) ⟨.desktop, []⟩ := by
  constructor
  · intro h
    obtain ⟨w, hw⟩ : ∃ w, (savesSnapshot.run (.faultless errorText) .desktop).state = w := ⟨_, rfl⟩
    have hfinds := finds_savesSnapshot
    rw [hw] at hfinds
    obtain ⟨snapshot, hfind⟩ := run_findSnapshot_of_finds default hfinds
    have hprogram :
        (DaemonProcess.spawned.mainProgram .portable default).run (.faultless errorText) w =
        .returned ⟨.restoring w.defaultSnapshotPath snapshot (.begin snapshot) .qos, .new⟩ w := by
      simp only [DaemonProcess.mainProgram, DaemonProcess.spawned, Eff.run_bind, hfind]
      rfl
    have hmain : step .portable (.main 1 default (.faultless errorText) : InstanceEvent Unit)
        ⟨w, [⟨.waiting, ⟨true, [.checking]⟩⟩, .spawned]⟩ =
          some ⟨w, [⟨.waiting, ⟨true, [.checking]⟩⟩,
            ⟨.restoring w.defaultSnapshotPath snapshot (.begin snapshot) .qos, .new⟩]⟩ :=
        step_main rfl rfl hprogram
    have hact : step .portable (.act savesSnapshot (.faultless errorText) : InstanceEvent Unit)
        ⟨.desktop, [⟨.waiting, ⟨true, [.checking]⟩⟩]⟩ =
          some ⟨w, [⟨.waiting, ⟨true, [.checking]⟩⟩]⟩ := by
      rw [← hw]
      rfl
    have hspawn : step .portable (.spawn : InstanceEvent Unit)
        ⟨w, [⟨.waiting, ⟨true, [.checking]⟩⟩]⟩ =
          some ⟨w, [⟨.waiting, ⟨true, [.checking]⟩⟩, .spawned]⟩ := rfl
    have hexec := exec_firstDaemon true
    rw [if_pos rfl] at hexec
    have hlaw := h.of_exec <| by
      rw [exec_append, hexec, Option.bind_some, exec_cons, hact, Option.bind_some, exec_cons,
        hspawn, Option.bind_some, exec_cons, hmain]
      rfl
    have hfree := hlaw.alone 1 _ rfl rfl
    cases hfree
  · intro h
    have hlaw := h.of_exec (exec_firstDaemon false)
    have hrun := hlaw.leaves _ List.mem_cons_self rfl rfl default (.faultless errorText) .desktop
    simp only [DaemonProcess.mainProgram, if_true, Eff.run_pure, Run.returned.injEq] at hrun
    cases congrArg DaemonProcess.main hrun.1

end Instances

end ValOpt
