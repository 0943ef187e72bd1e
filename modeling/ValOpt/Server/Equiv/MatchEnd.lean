import ValOpt.Server.Equiv.Backups
import ValOpt.Server.Equiv.Sessions

/-!
# The end of a supervised match

A thread opens the game process once, between finding the game and waiting for its end.  Where that
works, the thread waits, relaunches its backups and recovers the transaction; where it does not, it
takes the game's end for a cancellation and does neither.  So a thread that ends without having been
stopped has restored everything just if it could open the game (`restores_iff_opensGame`).
-/

namespace ValOpt

open Effect

variable {F : Type} {P : Platform} {e : ServerEvent F} {s s' : Server} {i : ℕ}

/-! ### The statement -/

/-- The thread recovers the transaction, after it relaunched each of its backups once, and nothing
else. -/
def ServerEvent.Restores (i : ℕ) (e : ServerEvent F) (s : Server) : Prop :=
  e.isThread i ∧ ∃ sup, s.daemon.supervisors[i]? = some sup ∧ sup.phase = .restoring ∧
    ∀ n, s.daemon.relaunched.count (i, n) = if n < sup.backups.length then 1 else 0

/-- Where the thread opens the game process, that is still there and can be opened. -/
def ServerEvent.OpensGame (i : ℕ) (e : ServerEvent F) (s : Server) : Prop :=
  ∀ env access sup pid, e = .supervisor i env access → s.daemon.supervisors[i]? = some sup →
    sup.phase = .opening pid →
    access.opens pid = true ∧ ∃ p ∈ s.daemon.processes, p.pid = pid

/-! ### Where a thread stands -/

/-- What a thread is up to about the game: it has not opened it yet, it has and will restore
everything, it could not, or it has ended. -/
inductive Stand where
  | ahead
  | supervising
  | lost
  | ended
  deriving DecidableEq, Repr

def Phase.stand : Phase → Stand
  | .launching | .polling | .searching | .detected _ | .opening _ => .ahead
  | .waiting _ | .blocked _ | .exited true | .relaunching _ | .restoring => .supervising
  | .exited false => .lost
  | .finished => .ended

/-- Where the thread of a launch stands; a launch that did not begin is still ahead. -/
def Daemon.stand (d : Daemon) (i : ℕ) : Stand :=
  (d.supervisors[i]?.map fun sup => sup.phase.stand).getD .ahead

theorem Daemon.stand_of_getElem {d : Daemon} {sup : Supervisor} (h : d.supervisors[i]? = some sup) :
    d.stand i = sup.phase.stand := by
  rw [stand, h]
  rfl

/-- Where a step of its thread brings a launch; `opens` tells whether the game can be opened. -/
inductive StandMove (sup : Supervisor) (opens : Bool) : Stand → Prop
  | opened (pid : UInt32) (hphase : sup.phase = .opening pid) (hopens : opens = true) :
      StandMove sup opens .supervising
  | missed (pid : UInt32) (hphase : sup.phase = .opening pid) (hopens : opens = false) :
      StandMove sup opens .lost
  | restored (hphase : sup.phase = .restoring) : StandMove sup opens .ended
  | gaveUp (hphase : sup.phase = .exited false) : StandMove sup opens .ended
  | stopped {stand : Stand} (hstop : sup.stop = true) (hstand : stand ≠ .ahead) :
      StandMove sup opens stand
  | stays (hopening : ∀ pid, sup.phase ≠ .opening pid) (hrestoring : sup.phase ≠ .restoring) :
      StandMove sup opens sup.phase.stand

/-- Whether the thread, if it is about to open the game, can do so. -/
def Daemon.canOpen (d : Daemon) (access : ProcessAccess) (sup : Supervisor) : Bool :=
  match sup.phase with
  | .opening pid => access.opens pid && d.processes.any (·.pid = pid)
  | _ => false

theorem standMove_of_supervisorStep {env : Env Call} {access : ProcessAccess} {d d' : Daemon}
    {sup : Supervisor} (h : d.supervisorStep P env access i = some d')
    (hsup : d.supervisors[i]? = some sup) :
    StandMove sup (d.canOpen access sup) (d'.stand i) := by
  have hto : ∀ (d₁ : Daemon) (phase : Phase),
      d₁.supervisors = (d.setPhase i phase).supervisors →
      StandMove sup (d.canOpen access sup) phase.stand →
      StandMove sup (d.canOpen access sup) (d₁.stand i) := by
    intro d₁ phase heq hmove
    have hnew : d₁.supervisors[i]? = some { sup with phase := phase } := by
      rw [heq, Daemon.getElem_setPhase_self, hsup, Option.map_some]
    rw [Daemon.stand_of_getElem hnew]
    exact hmove
  -- a step that leaves the thread where it stands
  have hstays : ∀ (d₁ : Daemon) (phase : Phase),
      d₁.supervisors = (d.setPhase i phase).supervisors → phase.stand = sup.phase.stand →
      (∀ pid, sup.phase ≠ .opening pid) → sup.phase ≠ .restoring →
      StandMove sup (d.canOpen access sup) (d₁.stand i) := by
    intro d₁ phase heq hstand hopening hrestoring
    apply hto d₁ phase heq
    rw [hstand]
    exact .stays hopening hrestoring
  obtain ⟨sup', hsup', hstep⟩ := supervisorStep_cases h
  rw [hsup] at hsup'
  obtain rfl := Option.some.inj hsup'
  cases hstep with
  | opened pid hphase hopens =>
    have hcan : d.canOpen access sup = true := by
      rw [Daemon.canOpen, hphase]
      exact hopens
    exact hto _ (.waiting pid) rfl (.opened pid hphase hcan)
  | missed pid hphase hopens =>
    have hcan : d.canOpen access sup = false := by
      rw [Daemon.canOpen, hphase]
      exact hopens
    exact hto _ (.exited false) rfl (.missed pid hphase hcan)
  | restored r w hphase _ => exact hto _ .finished rfl (.restored hphase)
  | left clean hphase =>
    cases clean with
    | false => exact hto _ .finished rfl (.gaveUp hphase)
    | true =>
      cases hstop : sup.stop with
      | true => exact hto _ .finished rfl (.stopped hstop (by decide))
      | false =>
        exact hstays _ (.relaunching 0) rfl (by rw [hphase]; rfl) (by simp [hphase])
          (by simp [hphase])
  | polled hphase =>
    cases hstop : sup.stop with
    | true => exact hto _ .finished rfl (.stopped hstop (by decide))
    | false =>
      exact hstays _ .searching rfl (by rw [hphase]; rfl) (by simp [hphase]) (by simp [hphase])
  | waited pid hphase =>
    cases hstop : sup.stop with
    | true => exact hto _ (.exited false) rfl (.stopped hstop (by decide))
    | false =>
      exact hstays _ (.blocked pid) rfl (by rw [hphase]; rfl) (by simp [hphase])
        (by simp [hphase])
  | looked pid hphase =>
    apply hstays _ _ rfl _ (by simp [hphase]) (by simp [hphase])
    rw [hphase]
    split <;> rfl
  | found pid hphase =>
    exact hstays _ (.detected pid) rfl (by rw [hphase]; rfl) (by simp [hphase]) (by simp [hphase])
  | notFound hphase =>
    exact hstays _ .polling rfl (by rw [hphase]; rfl) (by simp [hphase]) (by simp [hphase])
  | optimized pid hphase =>
    exact hstays _ (.opening pid) rfl (by rw [hphase]; rfl) (by simp [hphase]) (by simp [hphase])
  | relaunched done hphase _ =>
    exact hstays _ (.relaunching (done + 1)) rfl (by rw [hphase]; rfl) (by simp [hphase])
      (by simp [hphase])
  | allRelaunched done hphase _ =>
    exact hstays _ .restoring rfl (by rw [hphase]; rfl) (by simp [hphase]) (by simp [hphase])

/-- A supervisor after a move: its backups are the same, it was not stopped if it is not, and it
stands where it did unless its own thread took the step. -/
theorem Server.Move.exists_of_getElem (hmove : Server.Move e s s') (horderly : s.Orderly)
    {old : Supervisor} (hold : s.daemon.supervisors[i]? = some old) :
    ∃ new, s'.daemon.supervisors[i]? = some new ∧ (new.stop = false → old.stop = false) ∧
      (¬ e.isThread i → new.phase.stand = old.phase.stand) := by
  -- Setting a signal leaves the phases as they are.
  have hstopped : s'.daemon.supervisors[i]? = s.daemon.stopActive.supervisors[i]? →
      ∃ new, s'.daemon.supervisors[i]? = some new ∧ (new.stop = false → old.stop = false) ∧
        (¬ e.isThread i → new.phase.stand = old.phase.stand) := by
    intro heq
    rw [heq, Daemon.getElem_stopActive, hold]
    refine ⟨_, rfl, ?_⟩
    split
    · exact ⟨fun h => (nomatch h), fun _ => rfl⟩
    · exact ⟨fun h => h, fun _ => rfl⟩
  cases hmove with
  | silent hsame _ _ _ _ =>
    rw [hsame.supervisors]
    exact ⟨old, hold, fun h => h, fun _ => rfl⟩
  | opened sup _ _ hsupervisors _ _ _ _ _ _ =>
    have hlt : i < s.daemon.supervisors.length := (List.getElem?_eq_some_iff.mp hold).1
    rw [hsupervisors, List.getElem?_append_left hlt]
    exact ⟨old, hold, fun h => h, fun _ => rfl⟩
  | swapped k hdaemon _ _ _ _ =>
    apply hstopped
    rw [hdaemon]
    rfl
  | spawned k hdaemon hlaunches _ _ _ =>
    have hk : k ∈ s.launches := hlaunches.mem_iff.mpr List.mem_cons_self
    rw [hdaemon, Daemon.spawn]
    by_cases hki : k = i
    -- A thread that starts polling is as far ahead of its game as one that is still launching.
    · obtain ⟨sup, hsup, hphase⟩ := horderly.launching k hk
      rw [hki, hold, Option.some.injEq] at hsup
      rw [hki, Daemon.getElem_setPhase_self, hold]
      refine ⟨_, rfl, fun h => h, fun _ => ?_⟩
      rw [hsup, hphase]
      rfl
    · rw [Daemon.getElem_setPhase_of_ne _ hki]
      exact ⟨old, hold, fun h => h, fun _ => rfl⟩
  | stopped hdaemon _ _ _ _ =>
    apply hstopped
    rw [hdaemon]
  | thread k sup phase hsup hsupervisors _ _ _ _ hthread =>
    rw [hsupervisors]
    by_cases hki : k = i
    · rw [hki, Daemon.getElem_setPhase_self, hold]
      exact ⟨_, rfl, fun h => h, fun hno => absurd (hki ▸ hthread) hno⟩
    · rw [Daemon.getElem_setPhase_of_ne _ hki]
      exact ⟨old, hold, fun h => h, fun _ => rfl⟩

/-- A launch that did not begin is still ahead after a move. -/
theorem Server.Move.stand_of_none (hmove : Server.Move e s s')
    (hnone : s.daemon.supervisors[i]? = none) : s'.daemon.stand i = .ahead := by
  -- The only move that adds a thread adds one that is still launching.
  have hsame : s'.daemon.supervisors[i]? = none → s'.daemon.stand i = .ahead := by
    intro h
    rw [Daemon.stand, h]
    rfl
  cases hmove with
  | silent h _ _ _ _ =>
    apply hsame
    rw [h.supervisors, hnone]
  | opened sup _ hphase hsupervisors _ _ _ _ _ _ =>
    cases hnew : s'.daemon.supervisors[i]? with
    | none => exact hsame hnew
    | some new =>
      rw [Daemon.stand_of_getElem hnew]
      rw [hsupervisors] at hnew
      rcases of_getElem_concat hnew with hold | ⟨-, rfl⟩
      · rw [hnone] at hold
        cases hold
      · rw [hphase]
        rfl
  | swapped k hdaemon _ _ _ _ =>
    apply hsame
    rw [hdaemon, Daemon.getElem_swapSignal, hnone]
    rfl
  | spawned k hdaemon _ _ _ _ =>
    apply hsame
    rw [hdaemon, Daemon.spawn]
    by_cases hki : k = i
    · rw [hki, Daemon.getElem_setPhase_self, hnone]
      rfl
    · rw [Daemon.getElem_setPhase_of_ne _ hki, hnone]
  | stopped hdaemon _ _ _ _ =>
    apply hsame
    rw [hdaemon, Daemon.getElem_stopActive, hnone]
    rfl
  | thread k sup phase hsup hsupervisors _ _ _ _ _ =>
    apply hsame
    have hki : k ≠ i := by
      intro h
      rw [h, hnone] at hsup
      cases hsup
    rw [hsupervisors, Daemon.getElem_setPhase_of_ne _ hki, hnone]

/-- Another step leaves the thread where it stands. -/
theorem Server.Move.stand_eq (hmove : Server.Move e s s') (horderly : s.Orderly)
    (hother : ¬ e.isThread i) : s'.daemon.stand i = s.daemon.stand i := by
  cases hold : s.daemon.supervisors[i]? with
  | none =>
    rw [hmove.stand_of_none hold, Daemon.stand, hold]
    rfl
  | some old =>
    obtain ⟨new, hnew, -, hstand⟩ := hmove.exists_of_getElem horderly hold
    rw [Daemon.stand_of_getElem hnew, hstand hother, Daemon.stand_of_getElem hold]

/-- A thread that is not stopped in the end never was. -/
theorem stop_of_exec {events : List (ServerEvent F)} (horderly : s.Orderly)
    (hexec : exec (Server.step P) events s = some s') {old sup : Supervisor}
    (hold : s.daemon.supervisors[i]? = some old) (hsup : s'.daemon.supervisors[i]? = some sup)
    (hstop : sup.stop = false) : old.stop = false := by
  induction events generalizing s old with
  | nil =>
    cases hexec
    rw [hold, Option.some.injEq] at hsup
    rw [hsup]
    exact hstop
  | cons e events ih =>
    obtain ⟨s₁, hstep, hrest⟩ := Option.bind_eq_some_iff.mp hexec
    have hmove := Server.move_of_step hstep
    obtain ⟨new, hnew, hback, -⟩ := hmove.exists_of_getElem horderly hold
    exact hback (ih (horderly.move hmove) hrest hnew)

/-! ### Whole runs -/

/-- A step of the thread. -/
theorem exists_standMove (hstep : Server.step P e s = some s') (hthread : e.isThread i) :
    ∃ env access sup, e = .supervisor i env access ∧ s.daemon.supervisors[i]? = some sup ∧
      StandMove sup (s.daemon.canOpen access sup) (s'.daemon.stand i) := by
  obtain ⟨env, access, rfl⟩ := hthread
  obtain ⟨d, hd, rfl⟩ := Option.map_eq_some_iff.mp hstep
  obtain ⟨sup, -, hsup, -⟩ := threadMove_of_supervisorStep hd
  exact ⟨env, access, sup, rfl, hsup, standMove_of_supervisorStep hd hsup⟩

/-- A step at which the thread is not about to open the game meets the condition. -/
theorem opensGame_of_phase (h : ∀ sup pid, e.isThread i → s.daemon.supervisors[i]? = some sup →
    sup.phase ≠ .opening pid) : e.OpensGame i s := by
  intro env access sup pid he hsup hphase
  exact absurd hphase (h sup pid ⟨env, access, he⟩ hsup)

theorem opensGame_iff_canOpen {env : Env Call} {access : ProcessAccess} {sup : Supervisor}
    (he : e = .supervisor i env access) (hsup : s.daemon.supervisors[i]? = some sup) :
    e.OpensGame i s ↔
      ∀ pid, sup.phase = .opening pid → s.daemon.canOpen access sup = true := by
  have hcan : ∀ pid, sup.phase = .opening pid → (s.daemon.canOpen access sup = true ↔
      access.opens pid = true ∧ ∃ p ∈ s.daemon.processes, p.pid = pid) := by
    intro pid hphase
    rw [Daemon.canOpen, hphase]
    simp
  constructor
  · intro h pid hphase
    exact (hcan pid hphase).mpr (h env access sup pid he hsup hphase)
  · intro h env' access' sup' pid he' hsup' hphase
    rw [he] at he'
    cases he'
    rw [hsup, Option.some.injEq] at hsup'
    subst hsup'
    exact (hcan pid hphase).mp (h pid hphase)

/-- A thread that recovers the transaction has relaunched its backups. -/
theorem restores_iff_phase {sup : Supervisor} (hcounted : s.Counted) (hthread : e.isThread i)
    (hsup : s.daemon.supervisors[i]? = some sup) : e.Restores i s ↔ sup.phase = .restoring := by
  constructor
  · intro h
    obtain ⟨-, sup', hsup', hphase, -⟩ := h
    rw [hsup, Option.some.injEq] at hsup'
    rw [hsup']
    exact hphase
  · intro hphase
    have hprogress : sup.progress = some sup.backups.length := by rw [Supervisor.progress, hphase]
    exact ⟨hthread, sup, hsup, hphase, (hcounted.count i sup _ hsup hprogress).2⟩

/-- A thread that has opened the game, or could not, does not open it again. -/
theorem each_opensGame {events : List (ServerEvent F)} (horderly : s.Orderly)
    (hstand : s.daemon.stand i ≠ .ahead) :
    Each (Server.step P) (·.OpensGame i ·) events s := by
  refine each_of_invariant (I := fun s => s.Orderly ∧ s.daemon.stand i ≠ .ahead) ?_ ?_
    ⟨horderly, hstand⟩
  · intro e _ s s' h hstep
    obtain ⟨horderly, hstand⟩ := h
    have hmove := Server.move_of_step hstep
    refine ⟨horderly.move hmove, ?_⟩
    by_cases hthread : e.isThread i
    · obtain ⟨env, access, sup, -, hsup, hmove⟩ := exists_standMove hstep hthread
      rw [Daemon.stand_of_getElem hsup] at hstand
      generalize s'.daemon.stand i = stand at hmove
      cases hmove with
      | stopped _ hstand => exact hstand
      | stays _ _ => exact hstand
      | _ => decide
    · rw [hmove.stand_eq horderly hthread]
      exact hstand
  · intro e _ s h
    refine opensGame_of_phase fun sup pid _ hsup hphase => h.2 ?_
    rw [Daemon.stand_of_getElem hsup, hphase]
    rfl

/-- A thread that ends without having been stopped has restored everything just if it supervises the
game, or has still to open it and can do so. -/
theorem restores_iff_stand {events : List (ServerEvent F)} {sup : Supervisor}
    (hcounted : s.Counted) (hexec : exec (Server.step P) events s = some s')
    (hsup : s'.daemon.supervisors[i]? = some sup) (hstop : sup.stop = false)
    (hfinished : sup.phase = .finished) :
    Sometimes (Server.step P) (·.Restores i ·) events s ↔ s.daemon.stand i = .supervising ∨
      (s.daemon.stand i = .ahead ∧ Each (Server.step P) (·.OpensGame i ·) events s) := by
  induction events generalizing s with
  | nil =>
    cases hexec
    rw [Daemon.stand_of_getElem hsup, hfinished]
    simp [Sometimes, Phase.stand]
  | cons e events ih =>
    obtain ⟨s₁, hstep, hrest⟩ := Option.bind_eq_some_iff.mp hexec
    have hmove := Server.move_of_step hstep
    have hcounted₁ := hcounted.move hmove
    rw [sometimes_cons_iff hstep, each_cons_iff hstep, ih hcounted₁ hrest]
    by_cases hthread : e.isThread i
    · obtain ⟨env, access, old, he, hold, hstand⟩ := exists_standMove hstep hthread
      have hunstopped : old.stop = false :=
        stop_of_exec hcounted.orderly hexec hold hsup hstop
      have hrestores := restores_iff_phase hcounted hthread hold
      have hopens := opensGame_iff_canOpen he hold
      rw [hrestores, hopens, Daemon.stand_of_getElem hold]
      generalize hnew : s₁.daemon.stand i = stand at hstand ⊢
      cases hstand with
      | opened pid hphase hcan =>
        have hlater : Each (Server.step P) (·.OpensGame i ·) events s₁ :=
          each_opensGame hcounted₁.orderly (by rw [hnew]; decide)
        simp [hphase, hcan, hlater, Phase.stand]
      | missed pid hphase hcan => simp [hphase, hcan, Phase.stand]
      | restored hphase => simp [hphase, Phase.stand]
      | gaveUp hphase => simp [hphase, Phase.stand]
      | stopped hstopped _ =>
        rw [hunstopped] at hstopped
        cases hstopped
      | stays hopening hrestoring => simp [hopening, hrestoring]
    · have hrestores : ¬ e.Restores i s := fun h => hthread h.1
      have hopens : e.OpensGame i s := opensGame_of_phase fun _ _ h => absurd h hthread
      rw [hmove.stand_eq hcounted.orderly hthread]
      simp [hrestores, hopens]

/-- **A thread that ends without having been stopped has restored everything**, its backups first
and then the settings, just if it could open the game process before it waited for its end. -/
theorem restores_iff_opensGame (P : Platform) (world : World) (processes : List Process)
    (currentPid : UInt32) (events : List (ServerEvent F)) {s : Server} {i : ℕ} {sup : Supervisor}
    (hexec : exec (Server.step P) events (.start world processes currentPid) = some s)
    (hsup : s.daemon.supervisors[i]? = some sup) (hstop : sup.stop = false)
    (hfinished : sup.phase = .finished) :
    Sometimes (Server.step P) (·.Restores i ·) events (.start world processes currentPid) ↔
      Each (Server.step P) (·.OpensGame i ·) events (.start world processes currentPid) := by
  rw [restores_iff_stand (Server.counted_start world processes currentPid) hexec hsup hstop
    hfinished]
  have hstand : (Server.start world processes currentPid).daemon.stand i = .ahead := rfl
  simp [hstand]

/-! ### A game on the desktop -/

/-- The game is started, and the thread finds it and is about to open it. -/
def detectionEvents : List (ServerEvent Unit) :=
  .processStarts valorant :: List.replicate 3 desktopThread

/-- The thread of the launch on the desktop, about to open the game. -/
theorem exec_detectionEvents (w : World) :
    exec (Server.step .portable) detectionEvents (.launched w (some 0) .polling []) =
      some (.playing w [valorant] (.opening 16) []) := by
  have hstart : ∀ events : List (ServerEvent Unit), exec (Server.step .portable)
      (.processStarts valorant :: desktopThread :: events) (.launched w (some 0) .polling []) =
        exec (Server.step .portable) events (.playing w [valorant] .searching []) := fun _ => rfl
  have hevents : detectionEvents =
      .processStarts valorant :: desktopThread :: [desktopThread, desktopThread] := rfl
  rw [hevents, hstart, exec_cons, step_search_desktop, Option.bind_some, exec_cons,
    step_purge_desktop, Option.bind_some]
  rfl

/-- Up to there, the thread of the desktop has not opened anything. -/
theorem each_detectionEvents (w : World) :
    Each (Server.step .portable) (·.OpensGame 0 ·) detectionEvents
      (.launched w (some 0) .polling []) := by
  have hthread : ∀ phase, (∀ pid, phase ≠ .opening pid) →
      desktopThread.OpensGame 0 (.playing w [valorant] phase []) := by
    intro phase hphase
    refine opensGame_of_phase fun sup pid _ hsup => ?_
    cases hsup
    exact hphase pid
  have hstarts : (ServerEvent.processStarts valorant : ServerEvent Unit).OpensGame 0
      (.launched w (some 0) .polling []) := fun _ _ _ _ he => (nomatch he)
  have hpolling : Server.step .portable desktopThread (.playing w [valorant] .polling []) =
      some (.playing w [valorant] .searching []) := rfl
  have hprocess : Server.step .portable (ServerEvent.processStarts valorant : ServerEvent Unit)
      (.launched w (some 0) .polling []) = some (.playing w [valorant] .polling []) := rfl
  have hevents : detectionEvents =
      [.processStarts valorant, desktopThread, desktopThread, desktopThread] := rfl
  rw [hevents, each_cons_iff hprocess, each_cons_iff hpolling,
    each_cons_iff (step_search_desktop w), each_cons_iff (step_purge_desktop w)]
  exact ⟨hstarts, hthread _ (by simp), hthread _ (by simp), hthread _ (by simp), trivial⟩

/-- **Counterexample.**  The game ends before the thread opens it: Steam is not relaunched, and the
settings are not restored. -/
theorem early_exit_not_restored :
    (∃ s, exec (Server.step .portable) (launchEvents ++ (detectionEvents ++
        [.processExits 16, desktopThread, desktopThread])) (.start .desktop [steam] 4) = some s ∧
      s.daemon.supervisors[0]? = some (steamLaunch false .finished)) ∧
    ¬ Sometimes (Server.step .portable) (·.Restores 0 ·) (launchEvents ++ (detectionEvents ++
      [.processExits 16, desktopThread, desktopThread])) (.start .desktop [steam] 4) := by
  have hrun : exec (Server.step .portable) (launchEvents ++ (detectionEvents ++
      [.processExits 16, desktopThread, desktopThread])) (.start .desktop [steam] 4) =
        some (.playing (World.desktop.applied .portable default) [] .finished []) := by
    rw [exec_append, exec_launchEvents, Option.bind_some, exec_append, exec_detectionEvents,
      Option.bind_some]
    rfl
  refine ⟨⟨_, hrun, rfl⟩, fun hrestores => ?_⟩
  rcases (restores_iff_stand (Server.counted_start ..) hrun rfl rfl rfl).mp hrestores with
    hstand | ⟨-, hopens⟩
  · cases hstand
  · have hexited : exec (Server.step .portable) (launchEvents ++ (detectionEvents ++
        [.processExits 16])) (.start .desktop [steam] 4) =
          some (.playing (World.desktop.applied .portable default) [] (.opening 16) []) := by
      rw [exec_append, exec_launchEvents, Option.bind_some, exec_append, exec_detectionEvents,
        Option.bind_some]
      rfl
    have hevents : launchEvents ++ (detectionEvents ++ [.processExits 16, desktopThread,
        desktopThread]) = (launchEvents ++ (detectionEvents ++ [.processExits 16])) ++
          desktopThread :: [desktopThread] := by simp
    rw [hevents] at hopens
    obtain ⟨-, p, hp, -⟩ := hopens.of_append_cons hexited rfl _ _ _ 16 rfl rfl rfl
    cases hp

/-- A game on the desktop that is played to its end: Steam is relaunched, and the settings are
restored. -/
theorem restores_desktop : Sometimes (Server.step .portable) (·.Restores 0 ·) (launchEvents ++
    (detectionEvents ++ (List.replicate 2 desktopThread ++
      .processExits 16 :: List.replicate 5 desktopThread))) (.start .desktop [steam] 4) := by
  have hopening : exec (Server.step .portable) (launchEvents ++ detectionEvents)
      (.start .desktop [steam] 4) =
        some (.playing (World.desktop.applied .portable default) [valorant] (.opening 16) []) := by
    rw [exec_append, exec_launchEvents, Option.bind_some, exec_detectionEvents]
  have hplayed : exec (Server.step .portable) (List.replicate 2 desktopThread ++
      .processExits 16 :: List.replicate 4 desktopThread)
      (.playing (World.desktop.applied .portable default) [valorant] (.opening 16) []) =
        some (.playing (World.desktop.applied .portable default) [] .restoring [(0, 0)]) := rfl
  obtain ⟨w', hrecover⟩ := exists_run_recover_applied .desktop default
  have hrun : exec (Server.step .portable) (launchEvents ++
      (detectionEvents ++ (List.replicate 2 desktopThread ++
        .processExits 16 :: List.replicate 5 desktopThread))) (.start .desktop [steam] 4) =
          some (.playing w' [] .finished [(0, 0)]) := by
    have hevents : List.replicate 2 desktopThread ++
        ServerEvent.processExits 16 :: List.replicate 5 desktopThread =
          (List.replicate 2 desktopThread ++ .processExits 16 :: List.replicate 4 desktopThread) ++
            [desktopThread] := rfl
    rw [hevents, ← List.append_assoc, exec_append, hopening, Option.bind_some, exec_append,
      hplayed, Option.bind_some, exec_cons, step_restore_desktop hrecover]
    rfl
  refine (restores_iff_opensGame _ _ _ _ _ hrun rfl rfl rfl).mpr ?_
  apply Each.append
  · -- the handler of the launch is no step of the thread
    refine each_of_invariant (I := fun _ => True) (fun _ _ _ _ _ _ => trivial) ?_ trivial
    intro e he s _
    refine opensGame_of_phase fun sup pid hthread => absurd hthread ?_
    rintro ⟨env, access, heq⟩
    rw [heq] at he
    simp [launchEvents, desktopJob] at he
  · intro s hs
    rw [exec_launchEvents] at hs
    cases hs
    apply Each.append
    · exact each_detectionEvents _
    · intro s hs
      rw [exec_detectionEvents] at hs
      cases hs
      have hopen : Server.step .portable desktopThread (.playing
          (World.desktop.applied .portable default) [valorant] (.opening 16) []) =
            some (.playing (World.desktop.applied .portable default) [valorant] (.waiting 16) []) :=
        rfl
      have hopens : desktopThread.OpensGame 0 (.playing
          (World.desktop.applied .portable default) [valorant] (.opening 16) []) := by
        intro env access sup pid he hsup hphase
        cases he
        cases hsup
        cases hphase
        exact ⟨rfl, valorant, List.mem_singleton_self _, rfl⟩
      have hrest : List.replicate 2 desktopThread ++ ServerEvent.processExits 16 ::
          List.replicate 5 desktopThread = desktopThread :: (desktopThread ::
            ServerEvent.processExits 16 :: List.replicate 5 desktopThread) := rfl
      rw [hrest, each_cons_iff hopen]
      refine ⟨hopens, each_opensGame ⟨.nil, fun _ h => absurd h List.not_mem_nil⟩ ?_⟩
      decide

end ValOpt
