import Mathlib.Data.List.Perm.Basic
import ValOpt.Optimizations.Equiv.Coordinator
import ValOpt.Server.Interleaving

/-!
# What a step of the server can do

`Server.Move` lists the ways in which a step changes the supervisors, their signals and the handlers
under way; the settings of the machine and the processes are left open.  Every step is one of them
(`Server.move_of_step`), so an invariant of the server needs one argument for each move, and not one
for each handler.

`Server.Orderly` says that every launch is in the hands of one handler until its thread is spawned.
-/

namespace ValOpt

open Effect

/-! ### Launches in the handlers -/

/-- The launch a handler works on. -/
def Job.launch : Job → Option ℕ
  | .applyLaunch i | .swap i | .spawn i => some i
  | _ => none

/-- The launch a handler works on, as long as its signal is not stored. -/
def Job.unswapped : Job → Option ℕ
  | .applyLaunch i | .swap i => some i
  | _ => none

/-- The next step of the handler takes the active signal and sets it. -/
def Job.stops : Job → Bool
  | .swap _ | .stopAndRecover | .stop => true
  | _ => false

namespace Server

variable (s : Server)

/-- The launches whose thread is not spawned yet. -/
def launches : List ℕ := s.jobs.filterMap Job.launch

/-- The launches whose signal is not stored yet. -/
def unswapped : List ℕ := s.jobs.filterMap Job.unswapped

end Server

section Jobs

variable {α : Type*} {f : Job → Option α} {jobs : List Job} {k : ℕ} {j : Job}

theorem filterMap_jobs (h : jobs[k]? = some j) :
    (jobs.filterMap f).Perm ((f j).toList ++ (jobs.eraseIdx k).filterMap f) := by
  obtain ⟨hk, rfl⟩ := List.getElem?_eq_some_iff.mp h
  have hperm := (List.getElem_cons_eraseIdx_perm hk).symm.filterMap f
  rw [List.filterMap_cons] at hperm
  cases hj : f jobs[k] with
  | none =>
    rw [hj] at hperm
    exact hperm
  | some a =>
    rw [hj] at hperm
    exact hperm

theorem filterMap_restOfJobs (h : jobs[k]? = some j) (rest : Option Job) :
    ((restOfJobs jobs k rest).filterMap f).Perm
      ((rest.bind f).toList ++ (jobs.eraseIdx k).filterMap f) := by
  obtain ⟨hk, rfl⟩ := List.getElem?_eq_some_iff.mp h
  cases rest with
  | none => exact .refl _
  | some j' =>
    have hperm := (List.set_perm_cons_eraseIdx hk j').filterMap f
    rw [List.filterMap_cons] at hperm
    rw [Option.bind_some, restOfJobs]
    cases hj : f j' with
    | none =>
      rw [hj] at hperm
      exact hperm
    | some a =>
      rw [hj] at hperm
      exact hperm

end Jobs

/-! ### Steps of a thread -/

/-- The thread watches the game and has not passed its last look at the signal. -/
def Phase.Watching : Phase → Prop
  | .polling | .searching | .detected _ | .opening _ | .waiting _ | .blocked _ | .exited _ => True
  | _ => False

/-- How the thread of the launch `i` goes over to another phase, and what it relaunches. -/
inductive ThreadMove (i : ℕ) (sup : Supervisor) (relaunched : List (ℕ × ℕ)) :
    Phase → List (ℕ × ℕ) → Prop
  | watch {phase : Phase} (hfrom : sup.phase.Watching) (hexit : sup.phase ≠ .exited false)
      (hto : phase.Watching) : ThreadMove i sup relaunched phase relaunched
  /-- The thread gives up, because it was stopped or the exit was not clean. -/
  | cancel (hfrom : sup.phase.Watching) (hwhy : sup.stop = true ∨ sup.phase = .exited false) :
      ThreadMove i sup relaunched .finished relaunched
  | pass (hfrom : sup.phase = .exited true) (hstop : sup.stop = false) :
      ThreadMove i sup relaunched (.relaunching 0) relaunched
  | relaunch (done : ℕ) (hfrom : sup.phase = .relaunching done)
      (hmore : done < sup.backups.length) :
      ThreadMove i sup relaunched (.relaunching (done + 1)) (relaunched ++ [(i, done)])
  | relaunched (done : ℕ) (hfrom : sup.phase = .relaunching done)
      (hall : sup.backups.length ≤ done) : ThreadMove i sup relaunched .restoring relaunched
  | restored (hfrom : sup.phase = .restoring) : ThreadMove i sup relaunched .finished relaunched

/-- All that a step of the thread of launch `i` can do, by the phase it is taken in. -/
inductive SupervisorStep (P : Platform) (env : Env Call) (access : ProcessAccess) (i : ℕ)
    (d : Daemon) (sup : Supervisor) : Daemon → Prop
  | polled (hphase : sup.phase = .polling) :
      SupervisorStep P env access i d sup
        (d.setPhase i (if sup.stop then .finished else .searching))
  | found (pid : UInt32) (hphase : sup.phase = .searching) :
      SupervisorStep P env access i d sup (d.setPhase i (.detected pid))
  | notFound (hphase : sup.phase = .searching) :
      SupervisorStep P env access i d sup (d.setPhase i .polling)
  | optimized (pid : UInt32) (hphase : sup.phase = .detected pid) :
      SupervisorStep P env access i d sup { d.setPhase i (.opening pid) with
        processes := optimizeGameProcess access sup.config pid d.processes }
  | opened (pid : UInt32) (hphase : sup.phase = .opening pid)
      (hopens : (access.opens pid && d.processes.any (·.pid = pid)) = true) :
      SupervisorStep P env access i d sup (d.setPhase i (.waiting pid))
  | missed (pid : UInt32) (hphase : sup.phase = .opening pid)
      (hopens : (access.opens pid && d.processes.any (·.pid = pid)) = false) :
      SupervisorStep P env access i d sup (d.setPhase i (.exited false))
  | waited (pid : UInt32) (hphase : sup.phase = .waiting pid) :
      SupervisorStep P env access i d sup
        (d.setPhase i (if sup.stop then .exited false else .blocked pid))
  | looked (pid : UInt32) (hphase : sup.phase = .blocked pid) :
      SupervisorStep P env access i d sup
        (d.setPhase i (if d.processes.any (·.pid = pid) then .waiting pid else .exited true))
  | left (clean : Bool) (hphase : sup.phase = .exited clean) :
      SupervisorStep P env access i d sup
        (d.setPhase i (if !clean || sup.stop then .finished else .relaunching 0))
  | relaunched (done : ℕ) (hphase : sup.phase = .relaunching done)
      (hmore : done < sup.backups.length) :
      SupervisorStep P env access i d sup { d.setPhase i (.relaunching (done + 1)) with
        relaunched := d.relaunched ++ [(i, done)] }
  | allRelaunched (done : ℕ) (hphase : sup.phase = .relaunching done)
      (hall : sup.backups.length ≤ done) :
      SupervisorStep P env access i d sup (d.setPhase i .restoring)
  | restored (r : Except String Bool) (w : World) (hphase : sup.phase = .restoring)
      (hrun : (recoverOrphanedTransaction P).run env d.world = .returned r w) :
      SupervisorStep P env access i d sup ({ d with world := w }.setPhase i .finished)

/-- The step function does one of these. -/
theorem supervisorStep_cases {P : Platform} {env : Env Call} {access : ProcessAccess} {i : ℕ}
    {d d' : Daemon} (h : d.supervisorStep P env access i = some d') :
    ∃ sup, d.supervisors[i]? = some sup ∧ SupervisorStep P env access i d sup d' := by
  unfold Daemon.supervisorStep at h
  cases hsup : d.supervisors[i]? with
  | none =>
    rw [hsup] at h
    cases h
  | some sup =>
    rw [hsup] at h
    dsimp only at h
    refine ⟨sup, rfl, ?_⟩
    -- Each phase has one step, or two where the code branches on what it finds.
    cases hphase : sup.phase with
    | launching =>
      rw [hphase] at h
      cases h
    | polling =>
      rw [hphase] at h
      cases h
      exact .polled hphase
    | searching =>
      rw [hphase] at h
      dsimp only at h
      split at h
      · next pid _ _ =>
        cases h
        exact .found pid hphase
      · cases h
        exact .notFound hphase
    | detected pid =>
      rw [hphase] at h
      cases h
      exact .optimized pid hphase
    | opening pid =>
      rw [hphase] at h
      dsimp only at h
      split at h
      · next hopens =>
        cases h
        exact .opened pid hphase hopens
      · next hopens =>
        cases h
        exact .missed pid hphase (Bool.eq_false_iff.mpr hopens)
    | waiting pid =>
      rw [hphase] at h
      cases h
      exact .waited pid hphase
    | blocked pid =>
      rw [hphase] at h
      cases h
      exact .looked pid hphase
    | exited clean =>
      rw [hphase] at h
      cases h
      exact .left clean hphase
    | relaunching done =>
      rw [hphase] at h
      dsimp only at h
      split at h
      · next hmore =>
        cases h
        exact .relaunched done hphase hmore
      · next hall =>
        cases h
        exact .allRelaunched done hphase (Nat.le_of_not_lt hall)
    | restoring =>
      rw [hphase] at h
      dsimp only at h
      unfold Daemon.onWorld at h
      cases hrun : (recoverOrphanedTransaction P).run env d.world with
      | crashed w =>
        rw [hrun] at h
        cases h
      | returned r w =>
        rw [hrun] at h
        cases h
        exact .restored r w hphase hrun
    | finished =>
      rw [hphase] at h
      cases h

/-- A step of a thread moves it, and it alone. -/
theorem threadMove_of_supervisorStep {P : Platform} {env : Env Call} {access : ProcessAccess}
    {i : ℕ} {d d' : Daemon} (h : d.supervisorStep P env access i = some d') :
    ∃ sup phase, d.supervisors[i]? = some sup ∧ d'.supervisors = (d.setPhase i phase).supervisors ∧
      d'.activeStop = d.activeStop ∧ ThreadMove i sup d.relaunched phase d'.relaunched := by
  obtain ⟨sup, hsup, hstep⟩ := supervisorStep_cases h
  -- The thread goes on watching from a phase that is not the end of an unclean exit.
  have hwatch : ∀ {phase : Phase}, sup.phase.Watching → sup.phase ≠ .exited false →
      phase.Watching → ThreadMove i sup d.relaunched phase d.relaunched := .watch
  refine ⟨sup, ?_⟩
  cases hstep with
  | polled hphase =>
    refine ⟨_, hsup, rfl, rfl, ?_⟩
    split
    · next hstop => exact .cancel (by rw [hphase]; trivial) (.inl hstop)
    · exact hwatch (by rw [hphase]; trivial) (by simp [hphase]) trivial
  | found pid hphase =>
    exact ⟨_, hsup, rfl, rfl, hwatch (by rw [hphase]; trivial) (by simp [hphase]) trivial⟩
  | notFound hphase =>
    exact ⟨_, hsup, rfl, rfl, hwatch (by rw [hphase]; trivial) (by simp [hphase]) trivial⟩
  | optimized pid hphase =>
    exact ⟨_, hsup, rfl, rfl, hwatch (by rw [hphase]; trivial) (by simp [hphase]) trivial⟩
  | opened pid hphase _ =>
    exact ⟨_, hsup, rfl, rfl, hwatch (by rw [hphase]; trivial) (by simp [hphase]) trivial⟩
  | missed pid hphase _ =>
    exact ⟨_, hsup, rfl, rfl, hwatch (by rw [hphase]; trivial) (by simp [hphase]) trivial⟩
  | waited pid hphase =>
    refine ⟨_, hsup, rfl, rfl, hwatch (by rw [hphase]; trivial) (by simp [hphase]) ?_⟩
    split <;> trivial
  | looked pid hphase =>
    refine ⟨_, hsup, rfl, rfl, hwatch (by rw [hphase]; trivial) (by simp [hphase]) ?_⟩
    split <;> trivial
  | left clean hphase =>
    refine ⟨_, hsup, rfl, rfl, ?_⟩
    cases clean with
    | false => exact .cancel (by rw [hphase]; trivial) (.inr hphase)
    | true =>
      cases hstop : sup.stop with
      | true => exact .cancel (by rw [hphase]; trivial) (.inl hstop)
      | false => exact .pass hphase hstop
  | relaunched done hphase hmore =>
    exact ⟨_, hsup, rfl, rfl, .relaunch done hphase hmore⟩
  | allRelaunched done hphase hall =>
    exact ⟨_, hsup, rfl, rfl, .relaunched done hphase hall⟩
  | restored r w hphase _ => exact ⟨_, hsup, rfl, rfl, .restored hphase⟩

/-! ### Steps of the server -/

/-- The signals and threads of two daemons are the same. -/
structure Daemon.SameThreads (d d' : Daemon) : Prop where
  supervisors : d'.supervisors = d.supervisors
  activeStop : d'.activeStop = d.activeStop
  relaunched : d'.relaunched = d.relaunched

/-- The event is a step of a handler that sets the active signal. -/
def ServerEvent.stops {F : Type} (e : ServerEvent F) (s : Server) : Prop :=
  ∃ k env now access j, e = .job k env now access ∧ s.jobs[k]? = some j ∧ j.stops

/-- The event is a step of the thread of the launch `i`. -/
def ServerEvent.isThread {F : Type} (e : ServerEvent F) (i : ℕ) : Prop :=
  ∃ env access, e = .supervisor i env access

/-- What a step changes in the signals, the threads and the launches under way. -/
inductive Server.Move {F : Type} (e : ServerEvent F) (s s' : Server) : Prop
  | silent (hsame : s.daemon.SameThreads s'.daemon) (hlaunches : s'.launches.Perm s.launches)
      (hunswapped : s'.unswapped.Perm s.unswapped) (hstops : ¬ e.stops s)
      (hthread : ∀ i, ¬ e.isThread i)
  /-- A launch begins. -/
  | opened (sup : Supervisor) (hstop : sup.stop = false) (hphase : sup.phase = .launching)
      (hsupervisors : s'.daemon.supervisors = s.daemon.supervisors ++ [sup])
      (hactive : s'.daemon.activeStop = s.daemon.activeStop)
      (hrelaunched : s'.daemon.relaunched = s.daemon.relaunched)
      (hlaunches : s'.launches.Perm (s.daemon.supervisors.length :: s.launches))
      (hunswapped : s'.unswapped.Perm (s.daemon.supervisors.length :: s.unswapped))
      (hstops : ¬ e.stops s) (hthread : ∀ i, ¬ e.isThread i)
  /-- The signal of a launch takes the place of the active one. -/
  | swapped (i : ℕ) (hdaemon : s'.daemon = s.daemon.swapSignal i)
      (hlaunches : s'.launches.Perm s.launches) (hunswapped : s.unswapped.Perm (i :: s'.unswapped))
      (hstops : e.stops s) (hthread : ∀ i, ¬ e.isThread i)
  /-- The thread of a launch is spawned. -/
  | spawned (i : ℕ) (hdaemon : s'.daemon = s.daemon.spawn i)
      (hlaunches : s.launches.Perm (i :: s'.launches)) (hunswapped : s'.unswapped.Perm s.unswapped)
      (hstops : ¬ e.stops s) (hthread : ∀ i, ¬ e.isThread i)
  /-- The active signal is taken and set. -/
  | stopped (hdaemon : s'.daemon = s.daemon.stopActive)
      (hlaunches : s'.launches.Perm s.launches) (hunswapped : s'.unswapped.Perm s.unswapped)
      (hstops : e.stops s) (hthread : ∀ i, ¬ e.isThread i)
  /-- A thread goes over to another phase. -/
  | thread (i : ℕ) (sup : Supervisor) (phase : Phase)
      (hsup : s.daemon.supervisors[i]? = some sup)
      (hsupervisors : s'.daemon.supervisors = (s.daemon.setPhase i phase).supervisors)
      (hactive : s'.daemon.activeStop = s.daemon.activeStop)
      (hmove : ThreadMove i sup s.daemon.relaunched phase s'.daemon.relaunched)
      (hjobs : s'.jobs = s.jobs) (hstops : ¬ e.stops s) (hthread : e.isThread i)

/-- A program of the optimizer leaves the threads alone. -/
theorem sameThreads_onWorld {d d' : Daemon} {α : Type} {m : Prog α} {env : Env Call} {a : α}
    (h : d.onWorld m env = .returned a d') : d.SameThreads d' := by
  unfold Daemon.onWorld at h
  cases hrun : m.run env d.world with
  | returned a w =>
    rw [hrun] at h
    cases h
    exact ⟨rfl, rfl, rfl⟩
  | crashed w =>
    rw [hrun] at h
    cases h

section Steps

variable {F : Type} {P : Platform} {s s' : Server}

/-- A step of the handler `j` is none of a thread, and sets a signal just if `j` does. -/
theorem stops_job {k : ℕ} {env : Env Call} {now : Ambient} {access : ProcessAccess} {j : Job}
    (h : s.jobs[k]? = some j) :
    (ServerEvent.job k env now access : ServerEvent F).stops s ↔ j.stops := by
  constructor
  · intro hstops
    obtain ⟨k', env', now', access', j', heq, hj', hstops⟩ := hstops
    cases heq
    rw [h, Option.some.injEq] at hj'
    rw [hj']
    exact hstops
  · exact fun hstops => ⟨k, env, now, access, j, rfl, h, hstops⟩

/-- A handler's step that runs a program of the optimizer. -/
theorem of_program {d d' : Daemon} {α : Type} {m : Prog α} {env : Env Call}
    {rest rest' : Option Job}
    (h : ((d.onWorld m env).bind fun _ d => .returned rest d) = .returned rest' d') :
    rest' = rest ∧ d.SameThreads d' := by
  cases hrun : d.onWorld m env with
  | crashed d₁ =>
    rw [hrun] at h
    cases h
  | returned a d₁ =>
    rw [hrun] at h
    cases h
    exact ⟨rfl, sameThreads_onWorld hrun⟩

/-- A step of a handler is one of the moves. -/
theorem Server.move_of_job {k : ℕ} {env : Env Call} {now : Ambient} {access : ProcessAccess}
    (h : Server.step P (.job k env now access : ServerEvent F) s = some s') :
    Server.Move (.job k env now access : ServerEvent F) s s' := by
  rw [Server.step] at h
  cases hj : s.jobs[k]? with
  | none =>
    rw [hj] at h
    cases h
  | some j =>
    rw [hj] at h
    dsimp only at h
    cases hstep : j.step P env now access s.daemon with
    | crashed d =>
      rw [hstep] at h
      cases h
    | returned rest d =>
      rw [hstep] at h
      cases h
      have hstops : (.job k env now access : ServerEvent F).stops s ↔ j.stops := stops_job hj
      have hthread : ∀ i, ¬ (.job k env now access : ServerEvent F).isThread i := by
        intro i hthread
        obtain ⟨env', access', heq⟩ := hthread
        cases heq
      -- a job that keeps its number keeps it in the list too, up to the order
      have hlaunches : ∀ {f : Job → Option ℕ}, rest.bind f = f j →
          ((restOfJobs s.jobs k rest).filterMap f).Perm (s.jobs.filterMap f) := by
        intro f heq
        have hperm := filterMap_restOfJobs (f := f) hj rest
        rw [heq] at hperm
        exact hperm.trans (filterMap_jobs hj).symm
      have hbefore : ∀ f : Job → Option ℕ, (s.jobs.filterMap f).Perm _ :=
        fun f => filterMap_jobs hj
      have hafter : ∀ f : Job → Option ℕ, ((restOfJobs s.jobs k rest).filterMap f).Perm _ :=
        fun f => filterMap_restOfJobs hj rest
      cases j with
      | close =>
        cases hstep
        exact .opened _ rfl rfl rfl rfl rfl
          ((hafter _).trans (.cons _ (hbefore Job.launch).symm))
          ((hafter _).trans (.cons _ (hbefore Job.unswapped).symm)) (by simp [hstops, Job.stops])
          hthread
      | applyLaunch i =>
        obtain ⟨rfl, hsame⟩ := of_program hstep
        exact .silent hsame (hlaunches rfl) (hlaunches rfl) (by simp [hstops, Job.stops]) hthread
      | swap i =>
        cases hstep
        exact .swapped i rfl (hlaunches rfl)
          ((hbefore _).trans (.cons _ (hafter Job.unswapped).symm)) (hstops.mpr rfl) hthread
      | spawn i =>
        cases hstep
        exact .spawned i rfl ((hbefore _).trans (.cons _ (hafter Job.launch).symm)) (hlaunches rfl)
          (by simp [hstops, Job.stops]) hthread
      | apply =>
        obtain ⟨rfl, hsame⟩ := of_program hstep
        exact .silent hsame (hlaunches rfl) (hlaunches rfl) (by simp [hstops, Job.stops]) hthread
      | stopAndRecover =>
        cases hstep
        exact .stopped rfl (hlaunches rfl) (hlaunches rfl) (hstops.mpr rfl) hthread
      | recoverSnapshot =>
        obtain ⟨rfl, hsame⟩ := of_program hstep
        exact .silent hsame (hlaunches rfl) (hlaunches rfl) (by simp [hstops, Job.stops]) hthread
      | recoverTransaction =>
        obtain ⟨rfl, hsame⟩ := of_program hstep
        exact .silent hsame (hlaunches rfl) (hlaunches rfl) (by simp [hstops, Job.stops]) hthread
      | stop =>
        cases hstep
        exact .stopped rfl (hlaunches rfl) (hlaunches rfl) (hstops.mpr rfl) hthread
      | purge =>
        cases hstep
        exact .silent ⟨rfl, rfl, rfl⟩ (hlaunches rfl) (hlaunches rfl) (by simp [hstops, Job.stops])
          hthread

/-- Every step is one of the moves. -/
theorem Server.move_of_step {e : ServerEvent F} (h : Server.step P e s = some s') :
    Server.Move e s s' := by
  cases e with
  | request vanguard elevated request =>
    cases h
    -- A request adds one job at its first step, where no launch has been numbered yet.
    have hnone : ∀ f : Job → Option ℕ, f .apply = none → f .stopAndRecover = none →
        f .purge = none → f .close = none → f .stop = none →
        (request.admitted vanguard elevated).toList.filterMap f = [] := by
      intro f h₁ h₂ h₃ h₄ h₅
      unfold IpcRequest.admitted
      split
      · rfl
      · cases request with
        | launchOptimizedGame _ =>
          cases vanguard with
          | error _ => rfl
          | ok => simp [IpcRequest.job, Except.toOption, h₄]
        | _ => simp [IpcRequest.job, h₁, h₂, h₃, h₅]
    refine .silent ⟨rfl, rfl, rfl⟩ ?_ ?_ ?_ ?_
    · show ((s.jobs ++ _).filterMap Job.launch).Perm _
      rw [List.filterMap_append, hnone Job.launch rfl rfl rfl rfl rfl, List.append_nil]
      exact .refl _
    · show ((s.jobs ++ _).filterMap Job.unswapped).Perm _
      rw [List.filterMap_append, hnone Job.unswapped rfl rfl rfl rfl rfl, List.append_nil]
      exact .refl _
    · rintro ⟨_, _, _, _, _, heq, -⟩
      cases heq
    · rintro i ⟨_, _, heq⟩
      cases heq
  | job k env now access => exact Server.move_of_job h
  | supervisor i env access =>
    obtain ⟨d, hd, hs'⟩ := Option.map_eq_some_iff.mp h
    subst hs'
    obtain ⟨sup, phase, hsup, hsupervisors, hactive, hmove⟩ := threadMove_of_supervisorStep hd
    refine .thread i sup phase hsup hsupervisors hactive hmove rfl ?_ ⟨env, access, rfl⟩
    rintro ⟨_, _, _, _, _, heq, -⟩
    cases heq
  | processStarts p =>
    cases h
    refine .silent ⟨rfl, rfl, rfl⟩ (.refl _) (.refl _) ?_ ?_
    · rintro ⟨_, _, _, _, _, heq, -⟩
      cases heq
    · rintro i ⟨_, _, heq⟩
      cases heq
  | processExits pid =>
    cases h
    refine .silent ⟨rfl, rfl, rfl⟩ (.refl _) (.refl _) ?_ ?_
    · rintro ⟨_, _, _, _, _, heq, -⟩
      cases heq
    · rintro i ⟨_, _, heq⟩
      cases heq

end Steps

/-! ### Single supervisors -/

/-- An entry of a list with one more at its end. -/
theorem of_getElem_concat {α : Type*} {l : List α} {a b : α} {i : ℕ}
    (h : (l ++ [a])[i]? = some b) : l[i]? = some b ∨ (i = l.length ∧ b = a) := by
  have hi : i < (l ++ [a]).length := (List.getElem?_eq_some_iff.mp h).1
  rw [List.length_append, List.length_singleton] at hi
  by_cases hlt : i < l.length
  · rw [List.getElem?_append_left hlt] at h
    exact .inl h
  · have heq : i = l.length := by omega
    rw [heq, List.getElem?_concat_length, Option.some.injEq] at h
    exact .inr ⟨heq, h.symm⟩

namespace Daemon

variable (d : Daemon) (i j : ℕ)

theorem getElem_setPhase_self (phase : Phase) : (d.setPhase i phase).supervisors[i]? =
    d.supervisors[i]?.map fun s => { s with phase := phase } := by
  show (d.supervisors.modify i _)[i]? = _
  rw [List.getElem?_modify_eq]
  rfl

variable {i j} in
theorem getElem_setPhase_of_ne (h : i ≠ j) (phase : Phase) :
    (d.setPhase i phase).supervisors[j]? = d.supervisors[j]? := by
  show (d.supervisors.modify i _)[j]? = _
  exact List.getElem?_modify_ne _ _ h

theorem getElem_stopActive : d.stopActive.supervisors[j]? = d.supervisors[j]?.map fun s =>
    if d.activeStop = some j then { s with stop := true } else s := by
  unfold stopActive
  cases hactive : d.activeStop with
  | none => simp
  | some i =>
    show (d.supervisors.modify i _)[j]? = _
    rw [List.getElem?_modify]
    by_cases h : i = j
    · simp [h]
    · simp [h]

theorem relaunched_stopActive : d.stopActive.relaunched = d.relaunched := by
  unfold stopActive
  split <;> rfl

theorem getElem_swapSignal : (d.swapSignal i).supervisors[j]? = d.supervisors[j]?.map fun s =>
    if d.activeStop = some j then { s with stop := true } else s := d.getElem_stopActive j

end Daemon

/-! ### Launches under way -/

/-- Every launch under way is in the hands of one handler, and its thread is not spawned yet. -/
structure Server.Orderly (s : Server) : Prop where
  nodup : s.launches.Nodup
  launching : ∀ i ∈ s.launches, ∃ sup, s.daemon.supervisors[i]? = some sup ∧ sup.phase = .launching

theorem Server.orderly_start (world : World) (processes : List Process) (currentPid : UInt32) :
    (Server.start world processes currentPid).Orderly := ⟨.nil, fun _ h => (nomatch h)⟩

/-- A thread that moves was spawned before. -/
theorem ThreadMove.ne_launching {i : ℕ} {sup : Supervisor} {relaunched relaunched' : List (ℕ × ℕ)}
    {phase : Phase} (h : ThreadMove i sup relaunched phase relaunched') :
    sup.phase ≠ .launching := by
  intro hphase
  cases h with
  | watch hfrom _ _ =>
    rw [hphase] at hfrom
    exact hfrom
  | cancel hfrom _ =>
    rw [hphase] at hfrom
    exact hfrom
  | pass hfrom _ => simp [hphase] at hfrom
  | relaunch done hfrom _ => simp [hphase] at hfrom
  | relaunched done hfrom _ => simp [hphase] at hfrom
  | restored hfrom => simp [hphase] at hfrom

/-- Every move keeps the launches in order. -/
theorem Server.Orderly.move {F : Type} {e : ServerEvent F} {s s' : Server} (h : s.Orderly)
    (hmove : Server.Move e s s') : s'.Orderly := by
  have hlt : ∀ i ∈ s.launches, i < s.daemon.supervisors.length := by
    intro i hi
    obtain ⟨sup, hsup, -⟩ := h.launching i hi
    exact (List.getElem?_eq_some_iff.mp hsup).1
  cases hmove with
  | silent hsame hlaunches _ _ _ =>
    refine ⟨hlaunches.nodup_iff.mpr h.nodup, fun i hi => ?_⟩
    rw [hsame.supervisors]
    exact h.launching i (hlaunches.mem_iff.mp hi)
  | opened sup hstop hphase hsupervisors _ _ hlaunches _ _ _ =>
    constructor
    · refine hlaunches.nodup_iff.mpr (List.nodup_cons.mpr ⟨fun hmem => ?_, h.nodup⟩)
      exact absurd (hlt _ hmem) (Nat.lt_irrefl _)
    · intro i hi
      rw [hsupervisors]
      obtain rfl | hi := List.mem_cons.mp (hlaunches.mem_iff.mp hi)
      · exact ⟨sup, List.getElem?_concat_length, hphase⟩
      · rw [List.getElem?_append_left (hlt i hi)]
        exact h.launching i hi
  | swapped i hdaemon hlaunches _ _ _ =>
    refine ⟨hlaunches.nodup_iff.mpr h.nodup, fun j hj => ?_⟩
    obtain ⟨sup, hsup, hphase⟩ := h.launching j (hlaunches.mem_iff.mp hj)
    rw [hdaemon, Daemon.getElem_swapSignal, hsup]
    refine ⟨_, rfl, ?_⟩
    split <;> exact hphase
  -- The launch that is consumed appears nowhere else in the list, so the others keep their phase.
  | spawned i hdaemon hlaunches _ _ _ =>
    have hnodup := hlaunches.nodup_iff.mp h.nodup
    refine ⟨(List.nodup_cons.mp hnodup).2, fun j hj => ?_⟩
    obtain ⟨sup, hsup, hphase⟩ := h.launching j (hlaunches.mem_iff.mpr (List.mem_cons_of_mem _ hj))
    have hne : i ≠ j := by
      intro hij
      exact (List.nodup_cons.mp hnodup).1 (hij ▸ hj)
    rw [hdaemon, Daemon.spawn, Daemon.getElem_setPhase_of_ne _ hne]
    exact ⟨sup, hsup, hphase⟩
  | stopped hdaemon hlaunches _ _ _ =>
    refine ⟨hlaunches.nodup_iff.mpr h.nodup, fun j hj => ?_⟩
    obtain ⟨sup, hsup, hphase⟩ := h.launching j (hlaunches.mem_iff.mp hj)
    rw [hdaemon, Daemon.getElem_stopActive, hsup]
    refine ⟨_, rfl, ?_⟩
    split <;> exact hphase
  -- A thread that runs is not waiting to be launched.
  | thread i sup phase hsup hsupervisors _ hmove hjobs _ _ =>
    have hlaunches : s'.launches = s.launches := by rw [launches, hjobs, launches]
    refine ⟨hlaunches ▸ h.nodup, fun j hj => ?_⟩
    rw [hlaunches] at hj
    obtain ⟨sup', hsup', hphase⟩ := h.launching j hj
    have hne : i ≠ j := by
      intro hij
      rw [hij, hsup', Option.some.injEq] at hsup
      exact hmove.ne_launching (hsup ▸ hphase)
    rw [hsupervisors, Daemon.getElem_setPhase_of_ne _ hne]
    exact ⟨sup', hsup', hphase⟩

/-- A supervisor after a thread was spawned: only its own is in another phase. -/
theorem Server.Orderly.exists_of_spawn {s s' : Server} (h : s.Orderly) {i : ℕ}
    (hdaemon : s'.daemon = s.daemon.spawn i) (hi : i ∈ s.launches) {j : ℕ} {new : Supervisor}
    (hnew : s'.daemon.supervisors[j]? = some new) : ∃ old, s.daemon.supervisors[j]? = some old ∧
      new.backups = old.backups ∧ new.stop = old.stop ∧
      (new.phase = old.phase ∨ old.phase = .launching ∧ new.phase = .polling) := by
  rw [hdaemon, Daemon.spawn] at hnew
  by_cases hij : i = j
  · obtain ⟨old, hold, hphase⟩ := h.launching i hi
    rw [← hij, Daemon.getElem_setPhase_self, hold, Option.map_some, Option.some.injEq] at hnew
    rw [← hij, ← hnew]
    exact ⟨old, hold, rfl, rfl, .inr ⟨hphase, rfl⟩⟩
  · rw [Daemon.getElem_setPhase_of_ne _ hij] at hnew
    exact ⟨new, hnew, rfl, rfl, .inl rfl⟩

/-! ### A launch on the desktop -/

/-- Steam, as it runs on the desktop. -/
def steam : Process := ⟨8, "steam.exe", some "C:\\Steam\\steam.exe"⟩

/-- The backup of Steam. -/
def steamBackup : TerminatedAppBackup := ⟨"steam.exe", "C:\\Steam\\steam.exe", none⟩

/-- The only launch of a daemon, which closed Steam. -/
def steamLaunch (stop : Bool) (phase : Phase) : Supervisor :=
  ⟨⟨valorantBinaryName, true⟩, [steamBackup], stop, phase⟩

/-- A daemon whose only launch closed Steam and was not stopped. -/
def Server.launched (w : World) (activeStop : Option ℕ) (phase : Phase) (jobs : List Job) :
    Server := ⟨⟨w, [], 4, activeStop, [steamLaunch false phase], []⟩, jobs⟩

/-- A step of the only handler of the desktop. -/
def desktopJob : ServerEvent Unit :=
  .job 0 (.faultless errorText) default Answers.working.access

/-- The steps of the handler of a launch, alone. -/
def launchEvents : List (ServerEvent Unit) :=
  [.request (.ok ()) false (.launchOptimizedGame true), desktopJob, desktopJob, desktopJob,
    desktopJob]

theorem step_applyLaunch (d : Daemon) (launch : ℕ) :
    Server.step .portable desktopJob ⟨d, [.applyLaunch launch]⟩ =
      some ⟨{ d with world := d.world.applied .portable default }, [.swap launch]⟩ := by
  rw [desktopJob, Server.step]
  simp only [List.getElem?_cons_zero, Job.step, Daemon.onWorld, run_applyOptimizations]
  rfl

/-- What a launch does to a daemon without other handlers. -/
theorem exec_launchEvents_alone {d closed : Daemon}
    (hclose : d.closeApps Answers.working.access = closed) :
    exec (Server.step .portable) launchEvents ⟨d, []⟩ =
      some ⟨({ closed with world := closed.world.applied .portable default }.swapSignal
        d.supervisors.length).spawn d.supervisors.length, []⟩ := by
  have hstart : ∀ events : List (ServerEvent Unit), exec (Server.step .portable)
      (.request (.ok ()) false (.launchOptimizedGame true) :: events) ⟨d, []⟩ =
        exec (Server.step .portable) events ⟨d, [.close]⟩ := fun _ => rfl
  have hstep : Server.step .portable desktopJob ⟨d, [.close]⟩ =
      some ⟨closed, [.applyLaunch d.supervisors.length]⟩ := by
    rw [desktopJob, Server.step]
    simp only [List.getElem?_cons_zero, Job.step, hclose]
    rfl
  rw [launchEvents, hstart, exec_cons, hstep, Option.bind_some, exec_cons, step_applyLaunch,
    Option.bind_some]
  rfl

/-- Steam is one of the applications that a launch closes. -/
theorem closeApps_steam : (Daemon.start .desktop [steam] 4).closeApps Answers.working.access =
    ⟨.desktop, [], 4, none, [steamLaunch false .launching], []⟩ := by
  have hclass : classifyProcess "steam.exe" = .tier2SafeTerminate := by decide +kernel
  have hpid : (4 : UInt32) < 8 := by decide
  have hclose : terminateTier2BackgroundProcesses Answers.working.access 4 [steam] =
      (.ok [steamBackup], []) := by
    simp [terminateTier2BackgroundProcesses, terminateEntries, steam, steamBackup, hclass, hpid,
      terminateProcessGracefully, Answers.working, assertSafeToKill]
  unfold Daemon.closeApps
  simp only [Daemon.start, hclose]
  rfl

theorem step_close_desktop : Server.step .portable desktopJob
    ⟨.start .desktop [steam] 4, [.close]⟩ =
      some (.launched .desktop none .launching [.applyLaunch 0]) := by
  rw [desktopJob, Server.step]
  simp only [List.getElem?_cons_zero, Job.step, closeApps_steam]
  rfl

theorem step_applyLaunch_desktop (w : World) : Server.step .portable desktopJob
    (.launched w none .launching [.applyLaunch 0]) =
      some (.launched (w.applied .portable default) none .launching [.swap 0]) :=
  step_applyLaunch _ 0

/-- After a launch on the desktop, its thread waits for the game and has Steam in its backups. -/
theorem exec_launchEvents :
    exec (Server.step .portable) launchEvents (.start .desktop [steam] 4) =
      some (.launched (World.desktop.applied .portable default) (some 0) .polling []) :=
  exec_launchEvents_alone closeApps_steam

end ValOpt
