import Mathlib.Data.List.Basic
import ValOpt.Process.ServicePause
import ValOpt.System.Desktop

/-!
# Services that are paused and resumed

A service is stopped where its stop is accepted, and it is recorded where the stop is seen to
complete (`pauseServices_spec`).  So the services that ran before run again after the restoration
just if every stop that is accepted is also seen, and the recorded services can be opened again
(`comeBack_iff`).
-/

namespace ValOpt

open Effect

variable {answers : String → StopAnswers} {m : Machine} {name : String}

/-! ### The statement -/

def Machine.Runs (m : Machine) (name : String) : Prop := m.services name = some serviceRunning

instance (m : Machine) (name : String) : Decidable (m.Runs name) :=
  inferInstanceAs (Decidable (_ = _))

/-- A running service is asked to stop, and the service control manager accepts that. -/
def StopAnswers.takes (a : StopAnswers) : Bool :=
  a.opensScm && a.opensService && a.queries && a.accepts

/-- Some look at the service from the completion of its stop on is answered. -/
def StopAnswers.sees (a : StopAnswers) : Bool :=
  (a.polls.dropWhile fun poll => !poll.completes).any fun poll => poll.answers

/-- The service runs, its stop is accepted, and it is seen to complete. -/
def Paused (answers : String → StopAnswers) (m : Machine) (name : String) : Prop :=
  m.Runs name ∧ (answers name).takes = true ∧ (answers name).sees = true

instance (answers : String → StopAnswers) (m : Machine) (name : String) :
    Decidable (Paused answers m name) := inferInstanceAs (Decidable (_ ∧ _ ∧ _))

/-- The calls that open the service of the backup number `index` for its start. -/
def OpensBackup (env : Env Call) (index : ℕ) : Prop :=
  env.outcome (.openScm index) = .ok ∧ env.outcome (.openService index) = .ok

instance (env : Env Call) (index : ℕ) : Decidable (OpensBackup env index) :=
  inferInstanceAs (Decidable (_ ∧ _))

/-- The service named can be opened again, at its position among those that were paused. -/
def Reopens (env : Env Call) (answers : String → StopAnswers) (m : Machine) (name : String) :
    Prop :=
  OpensBackup env ((targetTier3Services.filter fun name => Paused answers m name).idxOf name)

/-- After the pause, the completion of all stops and the restoration, the services run that ran
before. -/
def ComeBack (env : Env Call) (answers : String → StopAnswers) (w : World) : Prop :=
  let paused := pauseTier3Services answers w.machine
  ∀ w', (restoreTier3Services paused.1).run env
      { w with machine := paused.2.completePendingStops } = .returned () w' →
    ∀ name, w'.machine.Runs name ↔ w.machine.Runs name

/-! ### Waiting -/

section Wait

variable (polls : List StopPoll)

/-- A wait changes the state of no other service. -/
theorem services_waitForStop_of_ne {other : String} (h : other ≠ name) :
    (waitForStop name polls m).2.services other = m.services other := by
  induction polls generalizing m with
  | nil => rfl
  | cons poll polls ih =>
    have hfinds : (poll.finds name m).services other = m.services other := by
      rw [StopPoll.finds, Machine.completeStop]
      split
      · split
        · exact Function.update_of_ne h _ _
        · rfl
      · rfl
    rw [waitForStop]
    split
    · exact hfinds
    · rw [ih, hfinds]

/-- Without a pending stop a wait changes nothing. -/
theorem waitForStop_of_ne (h : m.services name ≠ some serviceStopPending) :
    waitForStop name polls m =
      (decide (m.services name = some serviceStopped) && polls.any (·.answers), m) := by
  induction polls with
  | nil => simp [waitForStop]
  | cons poll polls ih =>
    have hfinds : poll.finds name m = m := by
      rw [StopPoll.finds, Machine.completeStop, if_neg h, ite_self]
    rw [waitForStop, hfinds, ih]
    by_cases hstopped : m.services name = some serviceStopped
    · cases hanswers : poll.answers <;> simp [hstopped, hanswers]
    · simp [hstopped]

/-- A wait for a pending stop sees the end of it just if a look after its completion is answered. -/
theorem waitForStop_pending (h : m.services name = some serviceStopPending) :
    (waitForStop name polls m).1 =
        (polls.dropWhile fun poll => !poll.completes).any (·.answers) ∧
      (waitForStop name polls m).2.completePendingStops.services name = some serviceStopped := by
  have hcomplete : ∀ m : Machine, m.services name = some serviceStopPending ∨
      m.services name = some serviceStopped →
      m.completePendingStops.services name = some serviceStopped := by
    intro m hm
    rcases hm with hm | hm <;> simp [Machine.completePendingStops, hm, serviceStopped,
      serviceStopPending]
  induction polls with
  | nil => exact ⟨rfl, hcomplete m (.inl h)⟩
  | cons poll polls ih =>
    cases hcompletes : poll.completes with
    | false =>
      have hfinds : poll.finds name m = m := by
        rw [StopPoll.finds, hcompletes]
        rfl
      have hwait : waitForStop name (poll :: polls) m = waitForStop name polls m := by
        rw [waitForStop, hfinds, h, if_neg (by simp [serviceStopPending, serviceStopped])]
      rw [hwait, List.dropWhile_cons_of_pos (by simp [hcompletes])]
      exact ih
    | true =>
      have hstopped : (poll.finds name m).services name = some serviceStopped := by
        rw [StopPoll.finds, hcompletes, if_pos rfl, Machine.completeStop, if_pos h]
        exact Function.update_self _ _ _
      -- the stop has completed, and any look that is answered sees it
      have hnot : (poll.finds name m).services name ≠ some serviceStopPending := by
        rw [hstopped]
        decide
      have hrest := waitForStop_of_ne polls hnot
      rw [waitForStop, hrest, hstopped, List.dropWhile_cons_of_neg (by simp [hcompletes])]
      cases hanswers : poll.answers
      · simp [hanswers, hcomplete _ (.inr hstopped)]
      · simp [hanswers, hcomplete _ (.inr hstopped)]

end Wait

/-! ### Stopping -/

theorem services_completePendingStops : m.completePendingStops.services name =
    if m.services name = some serviceStopPending then some serviceStopped
    else m.services name := rfl

/-- What a stop comes to: it is recorded if it was accepted and seen, and the service is stopped in
the end if it was accepted. -/
structure StopOutcome (a : StopAnswers) (name : String) (m : Machine) (backup : ServiceBackup)
    (m' : Machine) : Prop where
  serviceName : backup.serviceName = name
  paused : backup.wasPausedByOptimizer = true ↔ m.Runs name ∧ a.takes = true ∧ a.sees = true
  others : ∀ other ≠ name, m'.services other = m.services other
  service : m'.completePendingStops.services name =
    if m.Runs name ∧ a.takes = true then some serviceStopped
    else m.completePendingStops.services name

/-- Where nothing is asked of the service, nothing happens. -/
theorem stopOutcome_same {a : StopAnswers} (hnot : ¬ (m.Runs name ∧ a.takes = true))
    (state : UInt32) : StopOutcome a name m ⟨name, name, state, false⟩ m where
  serviceName := rfl
  paused := ⟨fun h => (nomatch h), fun h => absurd ⟨h.1, h.2.1⟩ hnot⟩
  others _ _ := rfl
  service := by rw [if_neg hnot]

/-- A running service that is asked to stop. -/
theorem stopOutcome_asked {a : StopAnswers} (hruns : m.Runs name)
    (htakes : a.takes = a.accepts) {asked : Machine}
    (hasked : asked = if a.accepts then m.setService name serviceStopPending else m) :
    StopOutcome a name m ⟨name, name, serviceRunning, (waitForStop name a.polls asked).1⟩
      (waitForStop name a.polls asked).2 := by
  cases haccepts : a.accepts with
  | false =>
    rw [haccepts] at htakes hasked
    have hsame : asked = m := hasked
    have hwait : waitForStop name a.polls m = (false, m) := by
      rw [waitForStop_of_ne, hruns]
      · rfl
      · rw [hruns]
        decide
    rw [hsame, hwait]
    exact stopOutcome_same (by simp [htakes]) serviceRunning
  | true =>
    rw [haccepts] at htakes hasked
    have hpending : asked.services name = some serviceStopPending := by
      rw [hasked]
      exact Function.update_self _ _ _
    obtain ⟨hsees, hstopped⟩ := waitForStop_pending a.polls hpending
    constructor
    · rfl
    · show (waitForStop name a.polls asked).1 = true ↔ _
      rw [hsees]
      exact ⟨fun h => ⟨hruns, htakes, h⟩, fun h => h.2.2⟩
    · intro other hne
      rw [services_waitForStop_of_ne _ hne, hasked]
      exact Function.update_of_ne hne _ _
    · rw [if_pos ⟨hruns, htakes⟩]
      exact hstopped

theorem stopService_spec {a : StopAnswers} (hsafe : assertSafeToStopService name = .ok ()) :
    ∃ backup, (stopService a name m).1 = .ok backup ∧
      StopOutcome a name m backup (stopService a name m).2 := by
  have hsame : ∀ state, stopService a name m = (.ok ⟨name, name, state, false⟩, m) →
      ¬ (m.Runs name ∧ a.takes = true) → ∃ backup, (stopService a name m).1 = .ok backup ∧
        StopOutcome a name m backup (stopService a name m).2 := by
    intro state heq hnot
    rw [heq]
    exact ⟨_, rfl, stopOutcome_same hnot state⟩
  by_cases hopens : a.opensScm && a.opensService
  · cases hstate : m.services name with
    | none =>
      exact hsame serviceStopped (by simp [stopService, hsafe, hopens, hstate])
        (by simp [Machine.Runs, hstate])
    | some state =>
      by_cases hqueries : a.queries
      · by_cases hruns : state = serviceRunning
        · subst hruns
          have htakes : a.takes = a.accepts := by
            rw [StopAnswers.takes, hopens, hqueries]
            rfl
          generalize hasked :
            (if a.accepts then m.setService name serviceStopPending else m) = asked
          have heq : stopService a name m =
              (.ok ⟨name, name, serviceRunning, (waitForStop name a.polls asked).1⟩,
                (waitForStop name a.polls asked).2) := by
            simp [stopService, hsafe, hopens, hstate, hqueries, hasked]
          rw [heq]
          exact ⟨_, rfl, stopOutcome_asked hstate htakes hasked.symm⟩
        · exact hsame state (by simp [stopService, hsafe, hopens, hstate, hqueries, hruns])
            (by simp [Machine.Runs, hstate, hruns])
      · exact hsame serviceStopped (by simp [stopService, hsafe, hopens, hstate, hqueries])
          (by simp [StopAnswers.takes, hqueries])
  · exact hsame serviceStopped (by simp [stopService, hsafe, hopens])
      (by simp [StopAnswers.takes, hopens])

/-! ### Pausing -/

/-- Who is recorded in a pause of these services, and what they come to. -/
structure PauseOutcome (answers : String → StopAnswers) (names : List String) (m : Machine)
    (backups : List ServiceBackup) (m' : Machine) : Prop where
  recorded : backups.map (·.serviceName) = names.filter fun name => Paused answers m name
  paused : ∀ b ∈ backups, b.wasPausedByOptimizer = true
  others : ∀ name ∉ names, m'.services name = m.services name
  services : ∀ name ∈ names, m'.completePendingStops.services name =
    if m.Runs name ∧ (answers name).takes = true then some serviceStopped
    else m.completePendingStops.services name

theorem pauseServices_spec {names : List String} (hnodup : names.Nodup)
    (hsafe : ∀ name ∈ names, assertSafeToStopService name = .ok ()) :
    PauseOutcome answers names m (pauseServices answers names m).1
      (pauseServices answers names m).2 := by
  induction names generalizing m with
  | nil =>
    exact ⟨rfl, fun _ h => (nomatch h), fun _ _ => rfl, fun _ h => (nomatch h)⟩
  | cons name names ih =>
    obtain ⟨hnotMem, hnodup⟩ := List.nodup_cons.mp hnodup
    obtain ⟨backup, hbackup, hstop⟩ :=
      stopService_spec (m := m) (a := answers name) (hsafe name List.mem_cons_self)
    rcases hfirst : stopService (answers name) name m with ⟨outcome, m₁⟩
    rw [hfirst] at hbackup hstop
    dsimp only at hbackup hstop
    have hrest := ih (m := m₁) hnodup fun other h => hsafe other (List.mem_cons_of_mem _ h)
    have hresult : pauseServices answers (name :: names) m =
        (if backup.wasPausedByOptimizer then backup :: (pauseServices answers names m₁).1
          else (pauseServices answers names m₁).1, (pauseServices answers names m₁).2) := by
      rw [pauseServices, hfirst, hbackup]
    -- the first service is not among the others, so these are as they were
    have hsame : ∀ other ∈ names, m₁.services other = m.services other := by
      intro other hother
      apply hstop.others
      intro h
      exact hnotMem (h ▸ hother)
    have hfilter : (names.filter fun name => Paused answers m₁ name) =
        names.filter fun name => Paused answers m name := by
      apply List.filter_congr
      intro other hother
      rw [decide_eq_decide, Paused, Paused, Machine.Runs, Machine.Runs, hsame other hother]
    rw [hresult]
    constructor
    · have hpaused : backup.wasPausedByOptimizer = true ↔ Paused answers m name := hstop.paused
      by_cases h : Paused answers m name
      · rw [if_pos (hpaused.mpr h), List.filter_cons_of_pos (by simpa using h), List.map_cons,
          hrest.recorded, hfilter, hstop.serviceName]
      · rw [if_neg (fun hp => h (hpaused.mp hp)), List.filter_cons_of_neg (by simpa using h),
          hrest.recorded, hfilter]
    · intro b hb
      dsimp only at hb
      split at hb
      · next hpaused =>
        rcases List.mem_cons.mp hb with rfl | hb
        · exact hpaused
        · exact hrest.paused b hb
      · exact hrest.paused b hb
    · intro other hother
      rw [List.mem_cons, not_or] at hother
      rw [hrest.others other hother.2, hstop.others other hother.1]
    · intro other hother
      rcases List.mem_cons.mp hother with rfl | hother
      · rw [← hstop.service, services_completePendingStops, hrest.others other hnotMem,
          services_completePendingStops]
      · have hruns : m₁.Runs other ↔ m.Runs other := by
          rw [Machine.Runs, Machine.Runs, hsame other hother]
        rw [hrest.services other hother, services_completePendingStops,
          services_completePendingStops, hsame other hother]
        simp only [hruns]

/-! ### Resuming -/

/-- A start of an installed service that can be opened makes it run, and does nothing otherwise. -/
theorem run_startService {env : Env Call} (hfree : env.CrashFree) {index : ℕ}
    (hstart : env.outcome (.startService index) = .ok) (name : String) (w : World) :
    ∃ r w', (startService index name).run env w = .returned r w' ∧ ∀ other,
      w'.machine.services other =
        if other = name ∧ OpensBackup env index ∧ (w.machine.services name).isSome then
          some serviceRunning
        else w.machine.services other := by
  have hfails : ∀ {c : Call}, env.outcome c ≠ .ok → ∃ k, env.outcome c = .fail k := by
    intro c hc
    cases houtcome : env.outcome c with
    | ok => exact absurd houtcome hc
    | fail k => exact ⟨k, rfl⟩
    | crash k => exact absurd houtcome (hfree c k)
  rw [startService]
  by_cases hscm : env.outcome (.openScm index) = .ok
  · have hopened : (readMachine (.openScm index) fun _ => some ()).run env w =
        .returned (.ok ()) w := run_readMachine hscm rfl
    rw [Eff.run_bind, hopened, Run.bind_returned]
    dsimp only
    by_cases hservice : env.outcome (.openService index) = .ok
    · cases hstate : w.machine.services name with
      | none =>
        rw [Eff.run_bind, run_readMachine_none hservice hstate, Run.bind_returned]
        exact ⟨_, w, rfl, fun other => by simp⟩
      | some state =>
        rw [Eff.run_bind, run_readMachine hservice hstate, Run.bind_returned]
        dsimp only
        rw [Eff.run_bind, run_writeMachine hstart (by rw [Machine.startService, hstate]; rfl),
          Run.bind_returned]
        refine ⟨_, _, rfl, fun other => ?_⟩
        simp [OpensBackup, hscm, hservice, Function.update_apply]
    · obtain ⟨k, hk⟩ := hfails hservice
      rw [Eff.run_bind, readMachine, run_perform_fail hk, Run.bind_returned]
      exact ⟨_, w, rfl, fun other => by simp [OpensBackup, hservice]⟩
  · obtain ⟨k, hk⟩ := hfails hscm
    rw [Eff.run_bind, readMachine, run_perform_fail hk, Run.bind_returned]
    exact ⟨_, w, rfl, fun other => by simp [OpensBackup, hscm]⟩

/-- What the restoration of recorded services comes to. -/
theorem run_restoreServices {env : Env Call} (hfree : env.CrashFree)
    (hstart : ∀ i, env.outcome (.startService i) = .ok) {backups : List ServiceBackup}
    (hpaused : ∀ b ∈ backups, b.wasPausedByOptimizer = true)
    (hnodup : (backups.map (·.serviceName)).Nodup) (index : ℕ) (w : World) :
    ∃ w', (Eff.forEach restoreService index backups).run env w = .returned () w' ∧
      (∀ name ∉ backups.map (·.serviceName),
        w'.machine.services name = w.machine.services name) ∧
      ∀ name ∈ backups.map (·.serviceName), w'.machine.services name =
        if OpensBackup env (index + (backups.map (·.serviceName)).idxOf name) ∧
            (w.machine.services name).isSome then some serviceRunning
        else w.machine.services name := by
  induction backups generalizing index w with
  | nil => exact ⟨w, rfl, fun _ _ => rfl, fun _ h => (nomatch h)⟩
  | cons b backups ih =>
    rw [List.map_cons, List.nodup_cons] at hnodup
    obtain ⟨r, w₁, hrun, hw₁⟩ := run_startService hfree (hstart index) b.serviceName w
    have hbody : (restoreService index b).run env w = .returned () w₁ := by
      rw [restoreService, if_pos (hpaused b List.mem_cons_self), Eff.run_bind, hrun]
      rfl
    obtain ⟨w', hrest, hothers, hservices⟩ :=
      ih (fun b h => hpaused b (List.mem_cons_of_mem _ h)) hnodup.2 (index + 1) w₁
    refine ⟨w', ?_, ?_, ?_⟩
    · rw [Eff.forEach, Eff.run_bind, hbody, Run.bind_returned, hrest]
    · intro name hname
      rw [List.map_cons, List.mem_cons, not_or] at hname
      rw [hothers name hname.2, hw₁, if_neg (fun h => hname.1 h.1)]
    · intro name hname
      rw [List.map_cons] at hname ⊢
      rcases List.mem_cons.mp hname with rfl | hname
      · rw [hothers _ hnodup.1, hw₁, List.idxOf_cons_self]
        simp
      · have hne : name ≠ b.serviceName := fun h => hnodup.1 (h ▸ hname)
        have hindex : index + 1 + (backups.map (·.serviceName)).idxOf name =
            index + ((backups.map (·.serviceName)).idxOf name + 1) := by omega
        have hother : w₁.machine.services name = w.machine.services name := by
          rw [hw₁, if_neg (fun h => hne h.1)]
        rw [hservices name hname, hother, List.idxOf_cons_ne _ (Ne.symm hne),
          Nat.succ_eq_add_one, hindex]

/-! ### Both together -/

theorem runs_completePendingStops : m.completePendingStops.Runs name ↔ m.Runs name := by
  rw [Machine.Runs, Machine.Runs, services_completePendingStops]
  by_cases h : m.services name = some serviceStopPending
  · rw [if_pos h, h]
    decide
  · rw [if_neg h]

/-- The services that run after the pause and the completion of all stops. -/
theorem PauseOutcome.runs_iff {names : List String} {backups : List ServiceBackup} {m' : Machine}
    (h : PauseOutcome answers names m backups m') : m'.completePendingStops.Runs name ↔
      m.Runs name ∧ ¬ (name ∈ names ∧ (answers name).takes = true) := by
  by_cases hname : name ∈ names
  · rw [Machine.Runs, h.services name hname]
    by_cases hstopped : m.Runs name ∧ (answers name).takes = true
    · rw [if_pos hstopped]
      simp [hname, hstopped.1, hstopped.2, serviceStopped, serviceRunning]
    · rw [if_neg hstopped]
      have hcompleted : m.completePendingStops.Runs name ↔ m.Runs name := runs_completePendingStops
      rw [Machine.Runs] at hcompleted
      rw [hcompleted]
      exact ⟨fun hruns => ⟨hruns, fun htakes => hstopped ⟨hruns, htakes.2⟩⟩, fun hruns => hruns.1⟩
  · rw [runs_completePendingStops, Machine.Runs, h.others name hname]
    simp [hname, Machine.Runs]

/-- **The services that ran before run again** just if every stop that was accepted is seen to
complete within the two seconds, and the services recorded can be opened again. -/
theorem comeBack_iff {env : Env Call} (hfree : env.CrashFree)
    (hstart : ∀ i, env.outcome (.startService i) = .ok) (answers : String → StopAnswers)
    (w : World) : ComeBack env answers w ↔ ∀ name ∈ targetTier3Services, w.machine.Runs name →
      (answers name).takes = true →
      (answers name).sees = true ∧ Reopens env answers w.machine name := by
  have hsafe : ∀ name ∈ targetTier3Services, assertSafeToStopService name = .ok () := by
    decide +kernel
  have hnodup : targetTier3Services.Nodup := by decide
  have hpause : PauseOutcome answers targetTier3Services w.machine _ _ :=
    pauseServices_spec hnodup hsafe
  generalize hbackups : (pauseServices answers targetTier3Services w.machine).1 = backups at hpause
  generalize hmachine : (pauseServices answers targetTier3Services w.machine).2 = m at hpause
  have hrecorded : (backups.map (·.serviceName)).Nodup := by
    rw [hpause.recorded]
    exact hnodup.filter _
  obtain ⟨w₁, hrun, hothers, hservices⟩ := run_restoreServices hfree hstart hpause.paused
    hrecorded 0 { w with machine := m.completePendingStops }
  rw [hpause.recorded] at hothers hservices
  have hcome : ComeBack env answers w ↔ ∀ name, w₁.machine.Runs name ↔ w.machine.Runs name := by
    have hrestore : (restoreTier3Services (pauseTier3Services answers w.machine).1).run env
        { w with machine := (pauseTier3Services answers w.machine).2.completePendingStops } =
          .returned () w₁ := by
      rw [restoreTier3Services, pauseTier3Services, hbackups, hmachine, hrun]
    constructor
    · exact fun h => h w₁ hrestore
    · intro h w' hw'
      rw [hrestore] at hw'
      cases hw'
      exact h
  -- what runs in the end: what was not stopped, and what is started again
  have hend : ∀ name, w₁.machine.Runs name ↔ (w.machine.Runs name ∧
      ¬ (name ∈ targetTier3Services ∧ (answers name).takes = true)) ∨
      (name ∈ targetTier3Services ∧ Paused answers w.machine name ∧
        Reopens env answers w.machine name) := by
    intro name
    rw [← hpause.runs_iff]
    by_cases hpaused : name ∈ targetTier3Services ∧ Paused answers w.machine name
    · obtain ⟨hname, hpaused⟩ := hpaused
      have hstopped : m.completePendingStops.services name = some serviceStopped := by
        rw [hpause.services name hname, if_pos ⟨hpaused.1, hpaused.2.1⟩]
      rw [Machine.Runs, hservices name (List.mem_filter.mpr ⟨hname, by simpa using hpaused⟩),
        Nat.zero_add, Machine.Runs, hstopped]
      simp [hname, hpaused, Reopens, serviceStopped, serviceRunning]
    · have hnotMem :
          name ∉ targetTier3Services.filter fun name => Paused answers w.machine name := by
        rw [List.mem_filter]
        simpa using hpaused
      rw [Machine.Runs, hothers name hnotMem]
      exact ⟨.inl, fun h => h.resolve_right fun hp => hpaused ⟨hp.1, hp.2.1⟩⟩
  rw [hcome]
  constructor
  · intro h name hname hruns htakes
    rcases (hend name).mp ((h name).mpr hruns) with hrest | ⟨-, hpaused, hreopens⟩
    · exact absurd ⟨hname, htakes⟩ hrest.2
    · exact ⟨hpaused.2.2, hreopens⟩
  · intro h name
    rw [hend name]
    constructor
    · intro hruns
      rcases hruns with hruns | ⟨-, hpaused, -⟩
      · exact hruns.1
      · exact hpaused.1
    · intro hruns
      by_cases hstopped : name ∈ targetTier3Services ∧ (answers name).takes = true
      · obtain ⟨hsees, hreopens⟩ := h name hstopped.1 hruns hstopped.2
        exact .inr ⟨hstopped.1, ⟨hruns, hstopped.2, hsees⟩, hreopens⟩
      · exact .inl ⟨hruns, hstopped⟩

/-! ### A slow spooler -/

/-- The desktop with a print spooler that runs. -/
def World.printing : World :=
  { World.desktop with machine := World.desktop.machine.setService "Spooler" serviceRunning }

/-- A service whose stop is accepted, and completes within the two seconds or later. -/
def StopAnswers.accepted (polls : List StopPoll) : StopAnswers := ⟨true, true, true, true, polls⟩

/-- A spooler that stops in time comes back. -/
theorem comeBack_printing : ComeBack (.faultless errorText)
    (fun _ => .accepted [⟨false, true⟩, ⟨true, true⟩]) .printing :=
  (comeBack_iff (Env.crashFree_faultless _) (fun _ => rfl) _ _).mpr fun _ _ _ _ =>
    ⟨by decide, rfl, rfl⟩

/-- **Counterexample.**  The spooler stops only after the two seconds: it is not recorded, and is
never started again. -/
theorem slow_spooler_stays_stopped : ¬ ComeBack (.faultless errorText)
    (fun _ => .accepted (List.replicate 20 ⟨false, true⟩)) .printing := by
  intro h
  have hnone : (pauseTier3Services (fun _ => .accepted (List.replicate 20 ⟨false, true⟩))
      World.printing.machine).1 = [] := by decide +kernel
  have hrun : (restoreTier3Services []).run (.faultless errorText)
      { World.printing with machine := (pauseTier3Services
        (fun _ => .accepted (List.replicate 20 ⟨false, true⟩))
        World.printing.machine).2.completePendingStops } = .returned () _ := rfl
  rw [← hnone] at hrun
  have hruns := (h _ hrun "Spooler").mpr rfl
  have hstopped : ¬ (pauseTier3Services (fun _ => .accepted (List.replicate 20 ⟨false, true⟩))
      World.printing.machine).2.completePendingStops.Runs "Spooler" := by decide +kernel
  exact hstopped hruns

end ValOpt
