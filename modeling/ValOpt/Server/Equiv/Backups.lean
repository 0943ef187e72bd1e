import ValOpt.Server.Equiv.Moves

/-!
# What becomes of the backups

The backups of a launch live in its thread alone.  `Server.Kept` says that none is lost: it waits in
a thread that was not stopped and has not finished, or its application was relaunched once.  A step
breaks this just if it stops a thread that still has something to relaunch, or lets one with backups
give up after an exit that was not clean (`backups_kept_iff`).
-/

namespace ValOpt

open Effect

variable {F : Type} {P : Platform} {e : ServerEvent F} {s s' : Server}

/-- How many of its backups a thread has relaunched; a thread that finished may have given up. -/
def Supervisor.progress (sup : Supervisor) : Option ℕ :=
  match sup.phase with
  | .relaunching done => some done
  | .restoring => some sup.backups.length
  | .finished => none
  | _ => some 0

theorem Supervisor.progress_of_watching {sup : Supervisor} (h : sup.phase.Watching) :
    sup.progress = some 0 := by
  unfold progress
  cases hphase : sup.phase with
  | launching => rfl
  | relaunching done =>
    rw [hphase] at h
    exact h.elim
  | restoring =>
    rw [hphase] at h
    exact h.elim
  | finished =>
    rw [hphase] at h
    exact h.elim
  | _ => rfl

/-- The attempts to relaunch are those that the phases of the threads tell of. -/
structure Server.Counted (s : Server) : Prop where
  orderly : s.Orderly
  known : ∀ p ∈ s.daemon.relaunched, p.1 < s.daemon.supervisors.length
  count : ∀ i sup m, s.daemon.supervisors[i]? = some sup → sup.progress = some m →
    m ≤ sup.backups.length ∧ ∀ n, s.daemon.relaunched.count (i, n) = if n < m then 1 else 0

theorem Server.counted_start (world : World) (processes : List Process) (currentPid : UInt32) :
    (Server.start world processes currentPid).Counted :=
  ⟨Server.orderly_start world processes currentPid, fun _ h => (nomatch h),
    fun _ _ _ h => (nomatch h)⟩

/-- Every backup is with a thread that will relaunch it, or was relaunched once. -/
def Server.Kept (s : Server) : Prop :=
  ∀ i sup, s.daemon.supervisors[i]? = some sup → ∀ n < sup.backups.length,
    (sup.stop = false ∧ sup.phase ≠ .finished) ∨ s.daemon.relaunched.count (i, n) = 1

theorem Server.kept_start (world : World) (processes : List Process) (currentPid : UInt32) :
    (Server.start world processes currentPid).Kept := fun _ _ h => (nomatch h)

/-- The event stops only a thread that has relaunched everything, and is not the end of a thread
with backups after an exit that was not clean. -/
def ServerEvent.KeepsBackups (e : ServerEvent F) (s : Server) : Prop :=
  (e.stops s → ∀ i sup, s.daemon.activeStop = some i → s.daemon.supervisors[i]? = some sup →
    ∀ n < sup.backups.length, (i, n) ∈ s.daemon.relaunched) ∧
  ∀ i sup, e.isThread i → s.daemon.supervisors[i]? = some sup → sup.phase = .exited false →
    sup.backups = []

/-! ### Stopping the active thread -/

section Stop

variable (hsupervisors : ∀ i : ℕ, s'.daemon.supervisors[i]? = s.daemon.stopActive.supervisors[i]?)
  (hrelaunched : s'.daemon.relaunched = s.daemon.relaunched)

include hsupervisors

/-- A supervisor afterwards: only the signal of the active one is another. -/
theorem exists_of_stopActive {i : ℕ} {sup : Supervisor}
    (h : s'.daemon.supervisors[i]? = some sup) : ∃ old, s.daemon.supervisors[i]? = some old ∧
      sup.backups = old.backups ∧ sup.phase = old.phase ∧
      (sup.stop = if s.daemon.activeStop = some i then true else old.stop) := by
  rw [hsupervisors, Daemon.getElem_stopActive] at h
  obtain ⟨old, hold, heq⟩ := Option.map_eq_some_iff.mp h
  refine ⟨old, hold, ?_⟩
  rw [← heq]
  split <;> exact ⟨rfl, rfl, rfl⟩

include hrelaunched

theorem Server.Counted.of_stopActive (h : s.Counted) (horderly : s'.Orderly) : s'.Counted := by
  have hlength : s.daemon.supervisors.length ≤ s'.daemon.supervisors.length := by
    rw [← Nat.not_lt]
    intro hlt
    have hnone := List.getElem?_eq_none (Nat.le_refl s'.daemon.supervisors.length)
    rw [hsupervisors, Daemon.getElem_stopActive, List.getElem?_eq_getElem hlt] at hnone
    cases hnone
  refine ⟨horderly, fun p hp => ?_, fun i sup m hsup hm => ?_⟩
  · rw [hrelaunched] at hp
    exact Nat.lt_of_lt_of_le (h.known p hp) hlength
  · obtain ⟨old, hold, hbackups, hphase, -⟩ := exists_of_stopActive hsupervisors hsup
    have hprogress : old.progress = some m := by
      rw [← hm, Supervisor.progress, Supervisor.progress, hphase, hbackups]
    rw [hbackups, hrelaunched]
    exact h.count i old m hold hprogress

/-- A stop loses no backup just if the thread has relaunched all of them. -/
theorem Server.Kept.of_stopActive_iff (hcounted : s.Counted) (h : s.Kept) : s'.Kept ↔
    ∀ i sup, s.daemon.activeStop = some i → s.daemon.supervisors[i]? = some sup →
      ∀ n < sup.backups.length, (i, n) ∈ s.daemon.relaunched := by
  constructor
  · intro hkept i sup hactive hsup n hn
    have hnew : s'.daemon.supervisors[i]? = some { sup with stop := true } := by
      rw [hsupervisors, Daemon.getElem_stopActive, hsup, Option.map_some, if_pos hactive]
    obtain ⟨hstop, -⟩ | hcount := hkept i _ hnew n hn
    · cases hstop
    · rw [hrelaunched] at hcount
      exact List.count_pos_iff.mp (by omega)
  · intro hall i sup hsup n hn
    obtain ⟨old, hold, hbackups, hphase, hstop⟩ := exists_of_stopActive hsupervisors hsup
    rw [hbackups] at hn
    rw [hstop, hphase, hrelaunched]
    by_cases hactive : s.daemon.activeStop = some i
    · right
      have hmem := List.count_pos_iff.mpr (hall i old hactive hold n hn)
      cases hprogress : old.progress with
      | some m =>
        have hcount := (hcounted.count i old m hold hprogress).2 n
        split at hcount <;> omega
      | none =>
        obtain ⟨-, hne⟩ | hcount := h i old hold n hn
        · unfold Supervisor.progress at hprogress
          split at hprogress <;> contradiction
        · exact hcount
    · rw [if_neg hactive]
      exact h i old hold n hn

end Stop

/-! ### Steps of a thread -/

namespace ThreadMove

variable {i : ℕ} {sup : Supervisor} {phase : Phase} {before after : List (ℕ × ℕ)}

/-- What a thread relaunches is its own. -/
theorem mem_or (h : ThreadMove i sup before phase after) {p : ℕ × ℕ} (hp : p ∈ after) :
    p ∈ before ∨ p.1 = i := by
  cases h with
  | relaunch done _ _ =>
    obtain hp | hp := List.mem_append.mp hp
    · exact .inl hp
    · rw [List.mem_singleton] at hp
      exact .inr (congrArg Prod.fst hp)
  | _ => exact .inl hp

theorem count_of_ne (h : ThreadMove i sup before phase after) {j : ℕ} (hji : j ≠ i) (n : ℕ) :
    after.count (j, n) = before.count (j, n) := by
  cases h with
  | relaunch done _ _ =>
    have hne : (i, done) ≠ (j, n) := fun heq => hji (congrArg Prod.fst heq).symm
    rw [List.count_append, List.count_singleton, if_neg (by simpa using hne), Nat.add_zero]
  | _ => rfl

/-- The attempts of the thread still are those that its phase tells of. -/
theorem count_progress (h : ThreadMove i sup before phase after)
    (hcount : ∀ m, sup.progress = some m →
      m ≤ sup.backups.length ∧ ∀ n, before.count (i, n) = if n < m then 1 else 0)
    {m : ℕ} (hm : { sup with phase := phase }.progress = some m) :
    m ≤ sup.backups.length ∧ ∀ n, after.count (i, n) = if n < m then 1 else 0 := by
  cases h with
  | watch hfrom _ hto =>
    rw [Supervisor.progress_of_watching hto, Option.some.injEq] at hm
    subst hm
    exact hcount 0 (Supervisor.progress_of_watching hfrom)
  | cancel hfrom _ => cases hm
  | pass hfrom _ =>
    cases hm
    exact hcount 0 (by rw [Supervisor.progress, hfrom])
  | relaunch done hfrom hmore =>
    cases hm
    have hbefore := (hcount done (by rw [Supervisor.progress, hfrom])).2
    refine ⟨hmore, fun n => ?_⟩
    rw [List.count_append, List.count_singleton, hbefore n]
    by_cases hn : n = done
    · subst hn
      simp
    · have hne : (i, done) ≠ (i, n) := fun heq => hn (congrArg Prod.snd heq).symm
      rw [if_neg (show ¬ ((i, done) == (i, n)) = true by simpa using hne), Nat.add_zero]
      by_cases hlt : n < done
      · rw [if_pos hlt, if_pos (by omega)]
      · rw [if_neg hlt, if_neg (by omega)]
  | relaunched done hfrom hall =>
    cases hm
    obtain ⟨hle, hbefore⟩ := hcount done (by rw [Supervisor.progress, hfrom])
    have heq : done = sup.backups.length := Nat.le_antisymm hle hall
    rw [← heq]
    exact ⟨Nat.le_refl _, hbefore⟩
  | restored hfrom => cases hm

end ThreadMove

section Thread

variable {i : ℕ} {sup : Supervisor} {phase : Phase}
  (hsup : s.daemon.supervisors[i]? = some sup)
  (hsupervisors : s'.daemon.supervisors = (s.daemon.setPhase i phase).supervisors)
  (hmove : ThreadMove i sup s.daemon.relaunched phase s'.daemon.relaunched)

include hsup hsupervisors

/-- A supervisor afterwards: only that of the thread is in another phase. -/
theorem exists_of_setPhase {j : ℕ} {new : Supervisor} (h : s'.daemon.supervisors[j]? = some new) :
    (j = i ∧ new = { sup with phase := phase }) ∨
      (j ≠ i ∧ s.daemon.supervisors[j]? = some new) := by
  rw [hsupervisors] at h
  by_cases hji : j = i
  · rw [hji, Daemon.getElem_setPhase_self, hsup, Option.map_some, Option.some.injEq] at h
    exact .inl ⟨hji, h.symm⟩
  · rw [Daemon.getElem_setPhase_of_ne _ (Ne.symm hji)] at h
    exact .inr ⟨hji, h⟩

include hmove

theorem Server.Counted.thread (h : s.Counted) (horderly : s'.Orderly) : s'.Counted := by
  refine ⟨horderly, fun p hp => ?_, fun j new m hnew hm => ?_⟩
  · rw [hsupervisors, Daemon.setPhase, List.length_modify]
    obtain hold | hi := hmove.mem_or hp
    · exact h.known p hold
    · rw [hi]
      exact (List.getElem?_eq_some_iff.mp hsup).1
  · obtain ⟨rfl, rfl⟩ | ⟨hji, hold⟩ := exists_of_setPhase hsup hsupervisors hnew
    · exact hmove.count_progress (fun m => h.count j sup m hsup) hm
    · simp only [hmove.count_of_ne hji]
      exact h.count j new m hold hm

/-- A thread loses its backups just if it gives up after an exit that was not clean. -/
theorem Server.Kept.thread_iff (hcounted : s.Counted) (h : s.Kept) :
    s'.Kept ↔ (sup.phase = .exited false → sup.backups = []) := by
  constructor
  · intro hkept hexit
    have hnew : s'.daemon.supervisors[i]? = some { sup with phase := phase } := by
      rw [hsupervisors, Daemon.getElem_setPhase_self, hsup, Option.map_some]
    have hfirst := hkept i _ hnew 0
    generalize s'.daemon.relaunched = after at hmove hfirst
    cases hmove with
    | watch _ hne _ => exact absurd hexit hne
    | cancel hfrom _ =>
      -- a thread that still watches has relaunched nothing
      have hzero := (hcounted.count i sup 0 hsup (Supervisor.progress_of_watching hfrom)).2 0
      rw [if_neg (Nat.lt_irrefl 0)] at hzero
      apply List.eq_nil_of_length_eq_zero
      by_contra hne
      obtain ⟨-, hphase⟩ | hone := hfirst (Nat.pos_of_ne_zero hne)
      · exact hphase rfl
      · omega
    | pass hfrom _ => simp [hexit] at hfrom
    | relaunch done hfrom _ => simp [hexit] at hfrom
    | relaunched done hfrom _ => simp [hexit] at hfrom
    | restored hfrom => simp [hexit] at hfrom
  · intro hexit j new hnew n hn
    obtain ⟨rfl, rfl⟩ | ⟨hji, hold⟩ := exists_of_setPhase hsup hsupervisors hnew
    · have hold := h j sup hsup n hn
      have hmove' := hmove
      generalize s'.daemon.relaunched = after at hmove hmove' ⊢
      cases hmove with
      | watch _ _ hto =>
        refine hold.imp_left fun hlive => ⟨hlive.1, ?_⟩
        intro hphase
        change phase = .finished at hphase
        rw [hphase] at hto
        exact hto
      | cancel hfrom hwhy =>
        have hzero := (hcounted.count j sup 0 hsup (Supervisor.progress_of_watching hfrom)).2 n
        rw [if_neg (Nat.not_lt_zero n)] at hzero
        obtain hstop | hphase := hwhy
        · obtain ⟨hstop', -⟩ | hone := hold
          · rw [hstop] at hstop'
            cases hstop'
          · omega
        · change n < sup.backups.length at hn
          rw [hexit hphase] at hn
          cases hn
      | pass _ _ => exact hold.imp_left fun hlive => ⟨hlive.1, by simp⟩
      | relaunch done hfrom hmore =>
        obtain hlive | hone := hold
        · exact .inl ⟨hlive.1, by simp⟩
        · -- the count of this backup was one already, and a relaunch takes no count back
          right
          have hbefore := (hcounted.count j sup done hsup (by rw [Supervisor.progress, hfrom])).2 n
          have hafter := (hmove'.count_progress (fun m => hcounted.count j sup m hsup)
            (m := done + 1) rfl).2 n
          rw [hone] at hbefore
          split at hbefore
          · rw [hafter, if_pos (by omega)]
          · omega
      | relaunched done _ _ => exact hold.imp_left fun hlive => ⟨hlive.1, by simp⟩
      | restored hfrom =>
        right
        have hall := (hcounted.count j sup _ hsup (by rw [Supervisor.progress, hfrom])).2 n
        rw [hall, if_pos hn]
    · rw [hmove.count_of_ne hji]
      exact h j new hold n hn

end Thread

/-! ### Every move -/

theorem Server.Counted.move (h : s.Counted) (hmove : Server.Move e s s') : s'.Counted := by
  have horderly := h.orderly.move hmove
  cases hmove with
  | silent hsame _ _ _ _ =>
    refine ⟨horderly, ?_, ?_⟩
    · rw [hsame.supervisors, hsame.relaunched]
      exact h.known
    · rw [hsame.supervisors, hsame.relaunched]
      exact h.count
  | opened new _ hphase hsupervisors _ hrelaunched _ _ _ _ =>
    refine ⟨horderly, fun p hp => ?_, fun i sup m hsup hm => ?_⟩
    · rw [hrelaunched] at hp
      rw [hsupervisors, List.length_append, List.length_singleton]
      exact Nat.lt_succ_of_lt (h.known p hp)
    · rw [hrelaunched]
      rw [hsupervisors] at hsup
      obtain hsup | ⟨rfl, rfl⟩ := of_getElem_concat hsup
      · exact h.count i sup m hsup hm
      · -- nothing has been relaunched for a new thread
        rw [Supervisor.progress, hphase] at hm
        cases hm
        refine ⟨Nat.zero_le _, fun n => ?_⟩
        rw [if_neg (Nat.not_lt_zero n), List.count_eq_zero]
        exact fun hmem => Nat.lt_irrefl _ (h.known _ hmem)
  | swapped k hdaemon _ _ _ _ =>
    refine h.of_stopActive ?_ ?_ horderly
    · intro i
      rw [hdaemon]
      rfl
    · rw [hdaemon]
      exact s.daemon.relaunched_stopActive
  | spawned k hdaemon hlaunches _ _ _ =>
    have hrelaunched : s'.daemon.relaunched = s.daemon.relaunched := by
      rw [hdaemon]
      rfl
    have hk : k ∈ s.launches := hlaunches.mem_iff.mpr List.mem_cons_self
    refine ⟨horderly, ?_, fun i sup m hsup hm => ?_⟩
    · rw [hrelaunched, hdaemon, Daemon.spawn, Daemon.setPhase, List.length_modify]
      exact h.known
    · obtain ⟨old, hold, hbackups, -, hphase⟩ := h.orderly.exists_of_spawn hdaemon hk hsup
      have hprogress : old.progress = some m := by
        rw [← hm, Supervisor.progress, Supervisor.progress, hbackups]
        obtain hphase | ⟨hbefore, hafter⟩ := hphase
        · rw [hphase]
        · rw [hbefore, hafter]
      rw [hbackups, hrelaunched]
      exact h.count i old m hold hprogress
  | stopped hdaemon _ _ _ _ =>
    refine h.of_stopActive ?_ ?_ horderly
    · intro i
      rw [hdaemon]
    · rw [hdaemon, s.daemon.relaunched_stopActive]
  | thread i sup phase hsup hsupervisors _ hthread _ _ _ =>
    exact h.thread hsup hsupervisors hthread horderly

/-- A move loses no backup just if it meets the condition. -/
theorem Server.Kept.move_iff (hcounted : s.Counted) (h : s.Kept) (hmove : Server.Move e s s') :
    s'.Kept ↔ e.KeepsBackups s := by
  cases hmove with
  -- Only a swap of the signal, a stop and the end of a cancelled thread can lose backups: the other
  -- moves keep them, and the condition asks nothing of them.
  | silent hsame _ _ hstops hthread =>
    have hkept : s'.Kept := by
      rw [Kept, hsame.supervisors, hsame.relaunched]
      exact h
    exact ⟨fun _ => ⟨fun hs => absurd hs hstops, fun i _ hi => absurd hi (hthread i)⟩,
      fun _ => hkept⟩
  | opened new hstop hphase hsupervisors _ hrelaunched _ _ hstops hthread =>
    have hkept : s'.Kept := by
      rw [Kept, hsupervisors, hrelaunched]
      intro i sup hsup n hn
      obtain hsup | ⟨-, rfl⟩ := of_getElem_concat hsup
      · exact h i sup hsup n hn
      · exact .inl ⟨hstop, by simp [hphase]⟩
    exact ⟨fun _ => ⟨fun hs => absurd hs hstops, fun i _ hi => absurd hi (hthread i)⟩,
      fun _ => hkept⟩
  | swapped k hdaemon _ _ hstops hthread =>
    rw [h.of_stopActive_iff (fun i => by rw [hdaemon]; rfl)
      (by rw [hdaemon]; exact s.daemon.relaunched_stopActive) hcounted]
    exact ⟨fun hall => ⟨fun _ => hall, fun i _ hi => absurd hi (hthread i)⟩,
      fun hkeeps => hkeeps.1 hstops⟩
  | spawned k hdaemon hlaunches _ hstops hthread =>
    have hrelaunched : s'.daemon.relaunched = s.daemon.relaunched := by
      rw [hdaemon]
      rfl
    have hk : k ∈ s.launches := hlaunches.mem_iff.mpr List.mem_cons_self
    have hkept : s'.Kept := by
      intro i sup hsup n hn
      obtain ⟨old, hold, hbackups, hstop, hphase⟩ :=
        hcounted.orderly.exists_of_spawn hdaemon hk hsup
      rw [hbackups] at hn
      rw [hrelaunched, hstop]
      refine (h i old hold n hn).imp_left fun hlive => ⟨hlive.1, ?_⟩
      obtain hphase | ⟨-, hafter⟩ := hphase
      · rw [hphase]
        exact hlive.2
      · simp [hafter]
    exact ⟨fun _ => ⟨fun hs => absurd hs hstops, fun i _ hi => absurd hi (hthread i)⟩,
      fun _ => hkept⟩
  | stopped hdaemon _ _ hstops hthread =>
    rw [h.of_stopActive_iff (fun i => by rw [hdaemon])
      (by rw [hdaemon, s.daemon.relaunched_stopActive]) hcounted]
    exact ⟨fun hall => ⟨fun _ => hall, fun i _ hi => absurd hi (hthread i)⟩,
      fun hkeeps => hkeeps.1 hstops⟩
  | thread i sup phase hsup hsupervisors _ hmove _ hstops hthread =>
    rw [h.thread_iff hsup hsupervisors hmove hcounted]
    constructor
    · intro hexit
      refine ⟨fun hs => absurd hs hstops, fun j sup' hj hsup' hphase => ?_⟩
      obtain ⟨env, access, heq⟩ := hthread
      obtain ⟨env', access', heq'⟩ := hj
      rw [heq] at heq'
      cases heq'
      rw [hsup, Option.some.injEq] at hsup'
      subst hsup'
      exact hexit hphase
    · exact fun hkeeps => hkeeps.2 i sup hthread hsup

/-- **No backup is lost** in a run exactly when each of its steps stops only threads that have
relaunched everything, and no thread with backups ends after an exit that was not clean. -/
theorem backups_kept_iff (P : Platform) (world : World) (processes : List Process)
    (currentPid : UInt32) (events : List (ServerEvent F)) :
    Always (Server.step P) Server.Kept events (.start world processes currentPid) ↔
      Each (Server.step P) ServerEvent.KeepsBackups events (.start world processes currentPid) :=
  always_iff_each (I := Server.Counted)
    (fun _ _ _ hcounted hkept hstep => hkept.move_iff hcounted (Server.move_of_step hstep))
    (fun _ _ _ hcounted _ _ hstep => hcounted.move (Server.move_of_step hstep))
    (Server.counted_start world processes currentPid)
    (Server.kept_start world processes currentPid)

/-- **Counterexample.**  The launch closes Steam, and the rollback stops the thread that knows. -/
theorem rollback_loses_backup :
    ¬ Always (Server.step .portable) Server.Kept
      (launchEvents ++ [.request (.ok ()) true .rollbackOptimizations, desktopJob])
      (.start .desktop [steam] 4) := by
  intro hkept
  have hrun : exec (Server.step .portable)
      (launchEvents ++ [.request (.ok ()) true .rollbackOptimizations, desktopJob])
      (.start .desktop [steam] 4) =
        some ⟨⟨World.desktop.applied .portable default, [], 4, none, [steamLaunch true .polling],
          []⟩, [.recoverSnapshot]⟩ := by
    rw [exec_append, exec_launchEvents]
    rfl
  obtain ⟨hstop, -⟩ | hcount := hkept.of_exec hrun 0 (steamLaunch true .polling) rfl 0 (by decide)
  · cases hstop
  · cases hcount

end ValOpt
