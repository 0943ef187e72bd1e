import ValOpt.Server.Equiv.ForeignRecord
import ValOpt.Server.Equiv.Moves
import ValOpt.State.Equiv.Confined
import ValOpt.System.Desktop

/-!
# Whose session a supervisor ends

`Sessions` is the server together with a record of what its calls of `apply_optimizations` and its
supervisors did: the calls are numbered, and for every thread it is known which one was the last
when the thread was started.  A thread undoes only that session as long as no call goes through
while a thread has passed its last look at the signal, and no thread passes it after a later call
whose record is still there (`supervisors_undo_own`).
-/

namespace ValOpt

open Effect

variable {F : Type} {P : Platform} {e : ServerEvent F}

/-! ### The record of a run -/

/-- A server and its past.  `session` is the number of calls of `apply_optimizations` that went
through, `startedIn` what it was when a thread was started, and `undone` lists, for every
transaction that a thread rolled back, what it was then and what it is now. -/
structure Sessions where
  server : Server
  session : ℕ
  startedIn : ℕ → ℕ
  undone : List (ℕ × ℕ)

/-- `apply_optimizations` returns a transaction. -/
def applySucceeds (P : Platform) (env : Env Call) (now : Ambient) (w : World) : Bool :=
  match ((applyOptimizations P now).run env w).value with
  | some (.ok _) => true
  | _ => false

/-- The event is a call of `apply_optimizations` that goes through. -/
def ServerEvent.applies (P : Platform) (e : ServerEvent F) (s : Server) : Bool :=
  match e with
  | .job k env now _ =>
    match s.jobs[k]? with
    | some .apply | some (.applyLaunch _) => applySucceeds P env now s.daemon.world
    | _ => false
  | _ => false

/-- The launch whose thread the event starts. -/
def ServerEvent.spawns (e : ServerEvent F) (s : Server) : Option ℕ :=
  match e with
  | .job k _ _ _ =>
    match s.jobs[k]? with
    | some (.spawn i) => some i
    | _ => none
  | _ => none

/-- The launch whose thread rolls a transaction back in the event. -/
def ServerEvent.undoes (P : Platform) (e : ServerEvent F) (s : Server) : Option ℕ :=
  match e with
  | .supervisor i env _ =>
    if s.daemon.supervisors[i]?.map (·.phase) = some .restoring then
      match ((recoverOrphanedTransaction P).run env s.daemon.world).value with
      | some (.ok true) => some i
      | _ => none
    else none
  | _ => none

/-- `startedIn` after the thread of a launch was started, if one was. -/
def Sessions.startThread (h : Sessions) : Option ℕ → ℕ → ℕ
  | some i => Function.update h.startedIn i h.session
  | none => h.startedIn

/-- One step of the server, and its record. -/
def Sessions.step (P : Platform) (e : ServerEvent F) (h : Sessions) : Option Sessions :=
  (Server.step P e h.server).map fun server =>
    { server := server
      session := if e.applies P h.server then h.session + 1 else h.session
      startedIn := h.startThread (e.spawns h.server)
      undone := h.undone ++
        ((e.undoes P h.server).map fun i => (h.startedIn i, h.session)).toList }

/-- A server that has just started. -/
def Sessions.start (world : World) (processes : List Process) (currentPid : UInt32) : Sessions :=
  ⟨.start world processes currentPid, 0, fun _ => 0, []⟩

/-- Every transaction that a thread rolled back is that of the session it was started in. -/
def Sessions.Own (h : Sessions) : Prop := ∀ p ∈ h.undone, p.1 = p.2

/-- No transaction is stored. -/
def World.NoRecord (w : World) : Prop := w.files w.transactionPath = none

/-- A thread in this phase has passed its last look at the signal, and will recover the
transaction. -/
def Phase.Committed : Phase → Prop
  | .relaunching _ | .restoring => True
  | _ => False

/-- No call of `apply_optimizations` goes through while a thread is about to recover the
transaction, and no thread passes its last look at the signal after a later call whose record is
stored. -/
def ServerEvent.KeepsSessions (P : Platform) (e : ServerEvent F) (h : Sessions) : Prop :=
  (e.applies P h.server = true → ∀ sup ∈ h.server.daemon.supervisors, ¬ sup.phase.Committed) ∧
  ∀ i sup, e.isThread i → h.server.daemon.supervisors[i]? = some sup → sup.phase = .exited true →
    sup.stop = false → h.server.daemon.world.NoRecord ∨ h.session = h.startedIn i

/-! ### No record comes from nothing -/

section NoRecord

variable {env : Env Call} {w w' : World}

/-- A snapshot recovery stores no transaction. -/
theorem World.NoRecord.checkAndRecover {now : Ambient} {r : Except String RecoveryReport}
    (h : w.NoRecord) (hrun : (checkAndRecover P now none).run env w = .returned r w') :
    w'.NoRecord := by
  have hrecovered := (holds_checkAndRecover_recovered P env w now).of_returned hrun
  have hpath : w'.transactionPath = w.transactionPath := by
    unfold World.transactionPath World.storageDir
    rw [hrecovered.drive]
  rw [NoRecord, hpath, hrecovered.transaction]
  exact h

/-- A transaction recovery has nothing to do then. -/
theorem World.NoRecord.recoverOrphanedTransaction {r : Except String Bool} (h : w.NoRecord)
    (hrun : (recoverOrphanedTransaction P).run env w = .returned r w') :
    w'.NoRecord ∧ r = .ok false := by
  rw [run_recoverOrphanedTransaction_of_none h] at hrun
  cases hrun
  exact ⟨h, rfl⟩

theorem World.NoRecord.removeFile (h : w.NoRecord) (p : Path) : (w.removeFile p).NoRecord := by
  by_cases hp : w.transactionPath = p
  · subst hp
    exact World.files_removeFile_self ..
  · exact (World.files_removeFile_of_ne _ hp).trans h

/-- An apply that fails stores no transaction. -/
theorem World.NoRecord.applyOptimizations {now : Ambient} {e : String} (h : w.NoRecord)
    (hrun : (applyOptimizations P now).run env w = .returned (.error e) w') : w'.NoRecord := by
  have hmode : Eff.Preserves env World.NoRecord (setGameMode true) :=
    preserves_setGameMode true (fun _ h => h) (fun _ _ h _ => h) fun _ _ h _ => h
  have hrollback : Eff.Preserves env World.NoRecord (rollback (newTransaction now)) :=
    preserves_rollback (RollbackRecord.keeps_of_machine _ fun _ _ h => h) fun _ p h =>
      h.removeFile p
  have htrue : ∀ {α : Type} {r : Run World α}, r.Holds (fun _ _ => True) fun _ => True := by
    intro α r
    cases r <;> trivial
  have hholds : ((ValOpt.applyOptimizations P now).run env w).Holds
      (fun r w' => ∀ e, r = .error e → w'.NoRecord) fun _ => True := by
    unfold ValOpt.applyOptimizations
    rw [Eff.run_bind]
    refine Run.Holds.bind ((hmode.holds h).mono (fun _ _ h => h) fun _ _ => trivial) ?_
    intro status w₁ hw₁
    cases status with
    | error e =>
      dsimp only
      rw [Eff.run_bind]
      refine Run.Holds.bind ((hrollback.holds hw₁).mono (fun _ _ h => h) fun _ _ => trivial) ?_
      intro r w₂ hw₂
      cases r <;> exact fun _ _ => hw₂
    | ok prev =>
      dsimp only
      simp only [Eff.run_bind]
      iterate 3 refine Run.Holds.bind htrue fun _ _ _ => ?_
      exact fun e he => (nomatch he)
  exact hholds.of_returned hrun e rfl

end NoRecord

/-! ### What a step does to the stored transaction -/

theorem run_of_onWorld {d d' : Daemon} {α : Type} {m : Prog α} {env : Env Call} {a : α}
    (h : d.onWorld m env = .returned a d') : m.run env d.world = .returned a d'.world := by
  unfold Daemon.onWorld at h
  cases hrun : m.run env d.world with
  | returned a w =>
    rw [hrun] at h
    cases h
    rfl
  | crashed w =>
    rw [hrun] at h
    cases h

/-- The last step of a handler's program, taken apart. -/
theorem exists_of_program {d d' : Daemon} {α : Type} {m : Prog α} {env : Env Call}
    {rest rest' : Option Job}
    (h : ((d.onWorld m env).bind fun _ d => .returned rest d) = .returned rest' d') :
    ∃ a, m.run env d.world = .returned a d'.world := by
  cases hrun : d.onWorld m env with
  | crashed d₁ =>
    rw [hrun] at h
    cases h
  | returned a d₁ =>
    rw [hrun] at h
    cases h
    exact ⟨a, run_of_onWorld hrun⟩

/-- A step of a thread that is about to recover the transaction does so; the others leave the
machine and its files. -/
theorem world_of_supervisorStep {env : Env Call} {access : ProcessAccess} {i : ℕ} {d d' : Daemon}
    (h : d.supervisorStep P env access i = some d') : d'.world = d.world ∨
      ∃ r, (recoverOrphanedTransaction P).run env d.world = .returned r d'.world := by
  obtain ⟨sup, -, hstep⟩ := supervisorStep_cases h
  cases hstep with
  | restored r w _ hrun => exact .inr ⟨r, hrun⟩
  | _ => exact .inl rfl

/-- Only a call of `apply_optimizations` that goes through stores a transaction. -/
theorem noRecord_of_step {s s' : Server} (happlies : e.applies P s = false)
    (h : s.daemon.world.NoRecord) (hstep : Server.step P e s = some s') :
    s'.daemon.world.NoRecord := by
  cases e with
  | request vanguard elevated request =>
    cases hstep
    exact h
  | job k env now access =>
    rw [Server.step] at hstep
    unfold ServerEvent.applies at happlies
    dsimp only at happlies
    cases hj : s.jobs[k]? with
    | none =>
      rw [hj] at hstep
      cases hstep
    | some j =>
      rw [hj] at hstep happlies
      dsimp only at hstep happlies
      cases hjob : j.step P env now access s.daemon with
      | crashed d =>
        rw [hjob] at hstep
        cases hstep
      | returned rest d =>
        rw [hjob] at hstep
        cases hstep
        -- a call that fails leaves no transaction behind
        have happly : ∀ outcome, (applyOptimizations P now).run env s.daemon.world =
            .returned outcome d.world → applySucceeds P env now s.daemon.world = false →
              d.world.NoRecord := by
          intro outcome hrun hfails
          cases outcome with
          | error e => exact h.applyOptimizations hrun
          | ok tx =>
            rw [applySucceeds, hrun] at hfails
            cases hfails
        cases j with
        | applyLaunch i =>
          obtain ⟨outcome, hrun⟩ := exists_of_program hjob
          exact happly outcome hrun happlies
        | apply =>
          obtain ⟨outcome, hrun⟩ := exists_of_program hjob
          exact happly outcome hrun happlies
        | recoverSnapshot =>
          obtain ⟨r, hrun⟩ := exists_of_program hjob
          exact h.checkAndRecover hrun
        | recoverTransaction =>
          obtain ⟨r, hrun⟩ := exists_of_program hjob
          exact (h.recoverOrphanedTransaction hrun).1
        | stopAndRecover =>
          cases hjob
          rw [Daemon.world_stopActive]
          exact h
        | stop =>
          cases hjob
          rw [Daemon.world_stopActive]
          exact h
        | swap i =>
          cases hjob
          show s.daemon.stopActive.world.NoRecord
          rw [Daemon.world_stopActive]
          exact h
        | _ =>
          cases hjob
          exact h
  | supervisor i env access =>
    obtain ⟨d, hd, rfl⟩ := Option.map_eq_some_iff.mp hstep
    obtain hsame | ⟨r, hrun⟩ := world_of_supervisorStep hd
    · show d.world.NoRecord
      rw [hsame]
      exact h
    · exact (h.recoverOrphanedTransaction hrun).1
  | processStarts p =>
    cases hstep
    exact h
  | processExits pid =>
    cases hstep
    exact h

/-! ### Threads that have passed their last look -/

/-- A thread that has passed its last look at the signal passed it earlier, or does so in this
step. -/
theorem Server.Move.committed {s s' : Server} (horderly : s.Orderly)
    (hmove : Server.Move e s s') {i : ℕ} {new : Supervisor}
    (hnew : s'.daemon.supervisors[i]? = some new) (hphase : new.phase.Committed) :
    ∃ sup, s.daemon.supervisors[i]? = some sup ∧
      (sup.phase.Committed ∨ e.isThread i ∧ sup.phase = .exited true ∧ sup.stop = false) := by
  cases hmove with
  | silent hsame _ _ _ _ =>
    rw [hsame.supervisors] at hnew
    exact ⟨new, hnew, .inl hphase⟩
  | opened sup _ hlaunching hsupervisors _ _ _ _ _ _ =>
    rw [hsupervisors] at hnew
    obtain hold | ⟨-, rfl⟩ := of_getElem_concat hnew
    · exact ⟨new, hold, .inl hphase⟩
    · rw [hlaunching] at hphase
      exact hphase.elim
  | swapped k hdaemon _ _ _ _ =>
    rw [hdaemon, Daemon.getElem_swapSignal] at hnew
    obtain ⟨old, hold, rfl⟩ := Option.map_eq_some_iff.mp hnew
    refine ⟨old, hold, .inl ?_⟩
    split at hphase <;> exact hphase
  | spawned k hdaemon hlaunches _ _ _ =>
    have hk : k ∈ s.launches := hlaunches.mem_iff.mpr List.mem_cons_self
    obtain ⟨old, hold, -, -, hsame | ⟨-, hpolling⟩⟩ := horderly.exists_of_spawn hdaemon hk hnew
    · rw [hsame] at hphase
      exact ⟨old, hold, .inl hphase⟩
    · rw [hpolling] at hphase
      exact hphase.elim
  | stopped hdaemon _ _ _ _ =>
    rw [hdaemon, Daemon.getElem_stopActive] at hnew
    obtain ⟨old, hold, rfl⟩ := Option.map_eq_some_iff.mp hnew
    refine ⟨old, hold, .inl ?_⟩
    split at hphase <;> exact hphase
  | thread k sup phase hsup hsupervisors _ hthread _ _ hk =>
    rw [hsupervisors] at hnew
    by_cases hki : k = i
    · subst hki
      rw [Daemon.getElem_setPhase_self, hsup, Option.map_some, Option.some.injEq] at hnew
      subst hnew
      refine ⟨sup, hsup, ?_⟩
      generalize s'.daemon.relaunched = after at hthread
      -- The one step into the relaunches is the one from a clean exit that was not cancelled.
      cases hthread with
      | watch _ _ hto =>
        change phase.Committed at hphase
        cases phase <;> first | exact hphase.elim | exact hto.elim
      | cancel _ _ => exact hphase.elim
      | pass hfrom hstop => exact .inr ⟨hk, hfrom, hstop⟩
      | relaunch done hfrom _ => exact .inl (by rw [hfrom]; trivial)
      | relaunched done hfrom _ => exact .inl (by rw [hfrom]; trivial)
      | restored hfrom => exact hphase.elim
    · rw [Daemon.getElem_setPhase_of_ne _ hki] at hnew
      exact ⟨new, hnew, .inl hphase⟩

/-- A thread is started but once. -/
theorem Server.Orderly.launching_of_spawns {s : Server} (h : s.Orderly) {i : ℕ}
    (hi : e.spawns s = some i) : ∃ sup, s.daemon.supervisors[i]? = some sup ∧
      sup.phase = .launching := by
  apply h.launching
  unfold ServerEvent.spawns at hi
  split at hi
  · split at hi
    · next hj =>
      cases hi
      exact List.mem_filterMap.mpr ⟨_, List.mem_of_getElem? hj, rfl⟩
    · cases hi
  · cases hi

/-! ### Sessions -/

/-- Every thread that has passed its last look at the signal was started in the present session, or
finds no record. -/
structure Sessions.Ordered (h : Sessions) : Prop where
  orderly : h.server.Orderly
  committed : ∀ i sup, h.server.daemon.supervisors[i]? = some sup → sup.phase.Committed →
    h.server.daemon.world.NoRecord ∨ h.session = h.startedIn i
  own : h.Own

theorem Sessions.ordered_start (world : World) (processes : List Process) (currentPid : UInt32) :
    (Sessions.start world processes currentPid).Ordered :=
  ⟨Server.orderly_start world processes currentPid, fun _ _ h => (nomatch h),
    fun _ h => (nomatch h)⟩

/-- A thread rolls a transaction back in its last step, if one is stored. -/
theorem exists_of_undoes {s : Server} {i : ℕ} (h : e.undoes P s = some i) :
    ∃ sup, s.daemon.supervisors[i]? = some sup ∧ sup.phase = .restoring ∧
      ¬ s.daemon.world.NoRecord := by
  unfold ServerEvent.undoes at h
  cases e with
  | supervisor j env access =>
    dsimp only at h
    split at h
    case isFalse => cases h
    next hphase =>
      obtain ⟨sup, hsup, hrestoring⟩ := Option.map_eq_some_iff.mp hphase
      have hrecord : ¬ s.daemon.world.NoRecord := by
        intro hnone
        rw [run_recoverOrphanedTransaction_of_none hnone] at h
        cases h
      have hij : j = i := by
        split at h <;> cases h
        rfl
      exact ⟨sup, hij ▸ hsup, hrestoring, hrecord⟩
  | _ => cases h

/-- A step that meets the condition keeps the sessions in order. -/
theorem Sessions.Ordered.step {h h' : Sessions} (hordered : h.Ordered)
    (hc : e.KeepsSessions P h) (hstep : Sessions.step P e h = some h') : h'.Ordered := by
  obtain ⟨s', hserver, rfl⟩ := Option.map_eq_some_iff.mp hstep
  have hmove := Server.move_of_step hserver
  constructor
  case orderly => exact hordered.orderly.move hmove
  case committed =>
    intro i new hnew hphase
    obtain ⟨sup, hsup, hbefore⟩ := hmove.committed hordered.orderly hnew hphase
    -- a thread that has passed its last look was started before this step
    have hstarted : h.startThread (e.spawns h.server) i = h.startedIn i := by
      cases hspawn : e.spawns h.server with
      | none => rfl
      | some j =>
        have hne : i ≠ j := by
          intro hij
          obtain ⟨sup', hsup', hlaunching⟩ := hordered.orderly.launching_of_spawns hspawn
          rw [← hij, hsup, Option.some.injEq] at hsup'
          rw [hsup', hlaunching] at hbefore
          obtain hcommitted | ⟨-, hexit, -⟩ := hbefore
          · exact hcommitted
          · cases hexit
        exact Function.update_of_ne hne _ _
    have happlies : e.applies P h.server = false := by
      rw [← Bool.not_eq_true]
      intro happlies
      obtain hcommitted | ⟨hthread, -, -⟩ := hbefore
      · exact hc.1 happlies sup (List.mem_of_getElem? hsup) hcommitted
      · obtain ⟨env, access, rfl⟩ := hthread
        cases happlies
    have hnow : h.server.daemon.world.NoRecord ∨ h.session = h.startedIn i := by
      obtain hcommitted | ⟨hthread, hexit, hstop⟩ := hbefore
      · exact hordered.committed i sup hsup hcommitted
      · exact hc.2 i sup hthread hsup hexit hstop
    show s'.daemon.world.NoRecord ∨
      (if e.applies P h.server then h.session + 1 else h.session) = h.startThread _ i
    rw [hstarted, if_neg (by simp [happlies])]
    exact hnow.imp_left fun hnone => noRecord_of_step happlies hnone hserver
  case own =>
    intro p hp
    obtain hp | hp := List.mem_append.mp hp
    · exact hordered.own p hp
    · cases hundoes : e.undoes P h.server with
      | none =>
        rw [hundoes] at hp
        cases hp
      | some i =>
        rw [hundoes, Option.map_some, Option.toList_some, List.mem_singleton] at hp
        subst hp
        obtain ⟨sup, hsup, hrestoring, hrecord⟩ := exists_of_undoes hundoes
        have hcommitted : sup.phase.Committed := by
          rw [hrestoring]
          trivial
        obtain hnone | hsame := hordered.committed i sup hsup hcommitted
        · exact absurd hnone hrecord
        · exact hsame.symm

/-- **A supervisor never undoes a later session**, in a run in which no call of
`apply_optimizations` goes through while a thread is about to recover the transaction, and no thread
passes its last look at the signal after a later call whose record is still stored. -/
theorem supervisors_undo_own (P : Platform) (world : World) (processes : List Process)
    (currentPid : UInt32) (events : List (ServerEvent F))
    (h : Each (Sessions.step P) (ServerEvent.KeepsSessions P) events
      (.start world processes currentPid)) :
    Always (Sessions.step P) Sessions.Own events (.start world processes currentPid) :=
  always_of_each (I := Sessions.Ordered) (fun _ hordered => hordered.own)
    (fun _ _ _ hordered hc hstep => hordered.step hc hstep)
    (Sessions.ordered_start world processes currentPid) h

/-! ### A game on the desktop -/

/-- The server of the desktop after its first session began. -/
def Sessions.launched (server : Server) : Sessions :=
  ⟨server, 1, Function.update (fun _ => 0) 0 1, []⟩

theorem applySucceeds_faultless (text : Call → String) (now : Ambient) (w : World) :
    applySucceeds P (.faultless text) now w = true := by
  rw [applySucceeds, run_applyOptimizations]
  rfl

theorem exec_launchEvents_sessions :
    exec (Sessions.step .portable) launchEvents (.start .desktop [steam] 4) = some (.launched
      (.launched (World.desktop.applied .portable default) (some 0) .polling [])) := by
  have hstart : ∀ events : List (ServerEvent Unit), exec (Sessions.step .portable)
      (.request (.ok ()) false (.launchOptimizedGame true) :: events) (.start .desktop [steam] 4) =
        exec (Sessions.step .portable) events
          ⟨⟨.start .desktop [steam] 4, [.close]⟩, 0, fun _ => 0, []⟩ := fun _ => rfl
  have hclose : Sessions.step .portable desktopJob
      ⟨⟨.start .desktop [steam] 4, [.close]⟩, 0, fun _ => 0, []⟩ =
        some ⟨.launched .desktop none .launching [.applyLaunch 0], 0, fun _ => 0, []⟩ := by
    rw [Sessions.step, step_close_desktop]
    rfl
  have happly : Sessions.step .portable desktopJob
      ⟨.launched .desktop none .launching [.applyLaunch 0], 0, fun _ => 0, []⟩ =
        some ⟨.launched (World.desktop.applied .portable default) none .launching [.swap 0], 1,
          fun _ => 0, []⟩ := by
    have hsession : desktopJob.applies .portable
        (.launched .desktop none .launching [.applyLaunch 0]) = true :=
      applySucceeds_faultless (P := .portable) errorText default .desktop
    rw [Sessions.step, step_applyLaunch_desktop, Option.map_some, if_pos hsession]
    rfl
  rw [launchEvents, hstart, exec_cons, hclose, Option.bind_some, exec_cons, happly,
    Option.bind_some]
  rfl

/-- The game. -/
def valorant : Process := ⟨16, valorantBinaryName,
  some "C:\\VALORANT\\ShooterGame\\Binaries\\Win64\\VALORANT-Win64-Shipping.exe"⟩

/-- A step of the first thread of the desktop. -/
def desktopThread : ServerEvent Unit := .supervisor 0 (.faultless errorText) Answers.working.access

/-- The game is started and found, it ends, and the thread relaunches Steam. -/
def gameEvents : List (ServerEvent Unit) :=
  .processStarts valorant :: List.replicate 5 desktopThread ++
    .processExits 16 :: List.replicate 4 desktopThread

/-- The thread of the launch of the desktop in one of its phases, while the game runs or not. -/
def Server.playing (w : World) (processes : List Process) (phase : Phase)
    (relaunched : List (ℕ × ℕ)) : Server :=
  ⟨⟨w, processes, 4, some 0, [steamLaunch false phase], relaunched⟩, []⟩

theorem step_search_desktop (w : World) : Server.step .portable desktopThread
    (.playing w [valorant] .searching []) = some (.playing w [valorant] (.detected 16) []) := by
  have hfind : findProcessWithPath Answers.working.access [valorant] valorantBinaryName =
      some (16, "C:\\VALORANT\\ShooterGame\\Binaries\\Win64\\VALORANT-Win64-Shipping.exe") := by
    decide +kernel
  rw [desktopThread, Server.step, Server.playing]
  simp only [Daemon.supervisorStep, steamLaunch, List.getElem?_cons_zero, hfind]
  rfl

theorem step_purge_desktop (w : World) : Server.step .portable desktopThread
    (.playing w [valorant] (.detected 16) []) =
      some (.playing w [valorant] (.opening 16) []) := by
  have hcef : optimizeGameProcess Answers.working.access ⟨valorantBinaryName, true⟩ 16 [valorant] =
      [valorant] := by decide +kernel
  rw [desktopThread, Server.step, Server.playing]
  simp only [Daemon.supervisorStep, steamLaunch, List.getElem?_cons_zero, hcef]
  rfl

theorem exec_gameEvents (w : World) (session : ℕ) (startedIn : ℕ → ℕ) :
    exec (Sessions.step .portable) gameEvents
      ⟨.launched w (some 0) .polling [], session, startedIn, []⟩ =
        some ⟨.playing w [] .restoring [(0, 0)], session, startedIn, []⟩ := by
  have hfound : Sessions.step .portable desktopThread
      ⟨.playing w [valorant] .searching [], session, startedIn, []⟩ =
        some ⟨.playing w [valorant] (.detected 16) [], session, startedIn, []⟩ := by
    rw [Sessions.step, step_search_desktop]
    rfl
  have hpurged : Sessions.step .portable desktopThread
      ⟨.playing w [valorant] (.detected 16) [], session, startedIn, []⟩ =
        some ⟨.playing w [valorant] (.opening 16) [], session, startedIn, []⟩ := by
    rw [Sessions.step, step_purge_desktop]
    rfl
  have hstart : ∀ events : List (ServerEvent Unit), exec (Sessions.step .portable)
      (.processStarts valorant :: desktopThread :: events)
      ⟨.launched w (some 0) .polling [], session, startedIn, []⟩ =
        exec (Sessions.step .portable) events
          ⟨.playing w [valorant] .searching [], session, startedIn, []⟩ := fun _ => rfl
  have hevents : gameEvents = .processStarts valorant :: desktopThread :: desktopThread ::
      desktopThread :: (List.replicate 2 desktopThread ++
        .processExits 16 :: List.replicate 4 desktopThread) := rfl
  rw [hevents, hstart, exec_cons, hfound, Option.bind_some, exec_cons, hpurged, Option.bind_some]
  rfl

/-- The transaction of the last apply is found and rolled back. -/
theorem exists_run_recover_applied (w : World) (now : Ambient) :
    ∃ w', (recoverOrphanedTransaction .portable).run (.faultless errorText)
      (w.applied .portable now) = .returned (.ok true) w' := by
  have hpath : (w.applied .portable now).transactionPath = w.transactionPath := rfl
  have hrecord : (w.applied .portable now).files (w.applied .portable now).transactionPath =
      some (transactionCodec.toStringPretty (w.machine.transaction now)) := by
    rw [hpath]
    exact World.files_writeFile_self _ _ _
  have hread : transactionCodec.fromStr (transactionCodec.toStringPretty
      (w.machine.transaction now)) = .ok (w.machine.transaction now) :=
    lawful_transactionCodec.fromStr_toStringPretty _
  exact ⟨_, run_recoverOrphanedTransaction_record hrecord hread⟩

theorem step_restore_desktop {w w' : World} {outcome : Except String Bool}
    (hrun : (recoverOrphanedTransaction .portable).run (.faultless errorText) w =
      .returned outcome w') (relaunched : List (ℕ × ℕ)) :
    Server.step .portable desktopThread (.playing w [] .restoring relaunched) =
      some (.playing w' [] .finished relaunched) := by
  rw [desktopThread, Server.step, Server.playing]
  simp only [Daemon.supervisorStep, steamLaunch, List.getElem?_cons_zero, Daemon.onWorld, hrun]
  rfl

/-- The thread finds the transaction of the last apply, and rolls it back. -/
theorem exists_step_restore (w : World) (now : Ambient) (relaunched : List (ℕ × ℕ)) (session : ℕ)
    (startedIn : ℕ → ℕ) : ∃ h, Sessions.step .portable desktopThread
      ⟨.playing (w.applied .portable now) [] .restoring relaunched, session, startedIn, []⟩ =
        some h ∧ h.undone = [(startedIn 0, session)] := by
  obtain ⟨w', hrun⟩ := exists_run_recover_applied w now
  have hundoes : desktopThread.undoes .portable
      (.playing (w.applied .portable now) [] .restoring relaunched) = some 0 := by
    show (match ((recoverOrphanedTransaction .portable).run (.faultless errorText)
        (w.applied .portable now)).value with
      | some (.ok true) => some 0
      | _ => none) = some 0
    rw [hrun]
    rfl
  refine ⟨_, by rw [Sessions.step, step_restore_desktop hrun, Option.map_some], ?_⟩
  rw [hundoes]
  rfl

theorem step_apply_desktop (w : World) (activeStop : Option ℕ) (phase : Phase) :
    Server.step .portable desktopJob (.launched w activeStop phase [.apply]) =
      some (.launched (w.applied .portable default) activeStop phase []) := by
  rw [desktopJob, Server.step, Server.launched]
  simp only [List.getElem?_cons_zero, Job.step, Daemon.onWorld, run_applyOptimizations]
  rfl

/-- No thread has passed its last look at the signal. -/
def Sessions.Watching (h : Sessions) : Prop :=
  h.server.Orderly ∧ ∀ sup ∈ h.server.daemon.supervisors, ¬ sup.phase.Committed

/-- The steps of handlers let no thread pass it. -/
theorem Sessions.Watching.step {h h' : Sessions} (hwatching : h.Watching)
    (hthread : ∀ i, ¬ e.isThread i) (hstep : Sessions.step P e h = some h') : h'.Watching := by
  obtain ⟨s', hserver, rfl⟩ := Option.map_eq_some_iff.mp hstep
  have hmove := Server.move_of_step hserver
  refine ⟨hwatching.1.move hmove, fun new hnew hphase => ?_⟩
  obtain ⟨i, hi⟩ := List.mem_iff_getElem?.mp hnew
  obtain ⟨sup, hsup, hcommitted | ⟨hi, -⟩⟩ := hmove.committed hwatching.1 hi hphase
  · exact hwatching.2 sup (List.mem_of_getElem? hsup) hcommitted
  · exact hthread i hi

/-- A thread of the launch on the desktop, alone, meets the condition. -/
theorem each_gameEvents {h : Sessions} (hsession : h.session = h.startedIn 0) :
    Each (Sessions.step .portable) (ServerEvent.KeepsSessions .portable)
      (gameEvents ++ [desktopThread]) h := by
  have hevents : ∀ e ∈ gameEvents ++ [desktopThread],
      e = desktopThread ∨ e = .processStarts valorant ∨ e = .processExits 16 := by
    intro e he
    simp only [gameEvents, List.mem_append, List.mem_cons, List.mem_replicate,
      List.not_mem_nil] at he
    tauto
  refine each_of_invariant (I := fun h => h.session = h.startedIn 0) ?_ ?_ hsession
  · intro e he h h' hI hstep
    obtain ⟨s', -, rfl⟩ := Option.map_eq_some_iff.mp hstep
    obtain rfl | rfl | rfl := hevents e he <;> exact hI
  · intro e he h hI
    constructor
    · intro happlies
      obtain rfl | rfl | rfl := hevents e he <;> cases happlies
    · rintro i sup ⟨env, access, hi⟩ - - -
      obtain rfl | rfl | rfl := hevents e he
      · cases hi
        exact .inr hI
      · cases hi
      · cases hi

/-- The handler of a launch, alone, meets the condition. -/
theorem each_launchEvents {h : Sessions} (hwatching : h.Watching) :
    Each (Sessions.step .portable) (ServerEvent.KeepsSessions .portable) launchEvents h := by
  have hthread : ∀ e ∈ launchEvents, ∀ i, ¬ e.isThread i := by
    rintro e he i ⟨env, access, rfl⟩
    simp [launchEvents, desktopJob] at he
  exact each_of_invariant (I := Sessions.Watching)
    (fun e he _ _ hwatching hstep => hwatching.step (hthread e he) hstep)
    (fun e he _ hwatching => ⟨fun _ => hwatching.2, fun i _ hi => absurd hi (hthread e he i)⟩)
    hwatching

/-- After a game on the desktop, the thread undoes the session of its own launch. -/
theorem supervisors_undo_own_desktop :
    (∃ h, exec (Sessions.step .portable) (launchEvents ++ (gameEvents ++ [desktopThread]))
      (.start .desktop [steam] 4) = some h ∧ h.undone = [(1, 1)]) ∧
    Always (Sessions.step .portable) Sessions.Own (launchEvents ++ (gameEvents ++ [desktopThread]))
      (.start .desktop [steam] 4) := by
  constructor
  · obtain ⟨h, hstep, hundone⟩ := exists_step_restore .desktop default [(0, 0)] 1
      (Function.update (fun _ => 0) 0 1)
    refine ⟨h, ?_, hundone⟩
    rw [exec_append, exec_launchEvents_sessions, Option.bind_some, exec_append, Sessions.launched,
      exec_gameEvents, Option.bind_some, exec_cons, hstep]
    rfl
  · apply supervisors_undo_own
    apply Each.append
    · exact each_launchEvents ⟨Server.orderly_start .., fun _ h => (nomatch h)⟩
    · intro h hexec
      have hlaunched : some (Sessions.launched _) = some h :=
        exec_launchEvents_sessions.symm.trans hexec
      cases hlaunched
      exact each_gameEvents rfl

/-- **Counterexample.**  While the thread waits for the game, another apply goes through; the thread
rolls that one back. -/
theorem supervisor_undoes_later_apply :
    ¬ Always (Sessions.step .portable) Sessions.Own
      (launchEvents ++ ([.request (.ok ()) true .applyOptimizations, desktopJob] ++
        (gameEvents ++ [desktopThread])))
      (.start .desktop [steam] 4) := by
  intro hown
  have happly : exec (Sessions.step .portable)
      [.request (.ok ()) true .applyOptimizations, desktopJob]
      (.launched (.launched (World.desktop.applied .portable default) (some 0) .polling [])) =
        some ⟨.launched ((World.desktop.applied .portable default).applied .portable default)
          (some 0) .polling [], 2, Function.update (fun _ => 0) 0 1, []⟩ := by
    have hstart : ∀ events : List (ServerEvent Unit), exec (Sessions.step .portable)
        (.request (.ok ()) true .applyOptimizations :: events)
        (.launched (.launched (World.desktop.applied .portable default) (some 0) .polling [])) =
          exec (Sessions.step .portable) events
            (.launched (.launched (World.desktop.applied .portable default) (some 0) .polling
              [.apply])) := fun _ => rfl
    have hstep := step_apply_desktop (World.desktop.applied .portable default) (some 0) .polling
    have happlies : desktopJob.applies .portable (.launched
        (World.desktop.applied .portable default) (some 0) .polling [.apply]) = true :=
      applySucceeds_faultless (P := .portable) errorText default
        (World.desktop.applied .portable default)
    rw [hstart, exec_cons, Sessions.step, Sessions.launched, hstep, Option.map_some,
      if_pos happlies]
    rfl
  obtain ⟨h, hstep, hundone⟩ := exists_step_restore (World.desktop.applied .portable default)
    default [(0, 0)] 2 (Function.update (fun _ => 0) 0 1)
  have hrun : exec (Sessions.step .portable)
      (launchEvents ++ ([.request (.ok ()) true .applyOptimizations, desktopJob] ++
        (gameEvents ++ [desktopThread]))) (.start .desktop [steam] 4) = some h := by
    rw [exec_append, exec_launchEvents_sessions, Option.bind_some, exec_append, happly,
      Option.bind_some, exec_append, exec_gameEvents, Option.bind_some, exec_cons, hstep]
    rfl
  have hpair := hown.of_exec hrun (1, 2) (by rw [hundone]; exact List.mem_singleton_self _)
  cases hpair

end ValOpt
