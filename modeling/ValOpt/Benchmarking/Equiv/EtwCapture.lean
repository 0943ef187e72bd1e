import Mathlib.Tactic.Common
import ValOpt.Benchmarking.EtwCapture

/-!
# Release of capture sessions

`stop_capture` cleans up only if it finds the engine active, and the worker thread stores
`is_active` as well, when it ends.  As long as no worker does so before `stop_capture` has looked,
and the system stops the sessions it is asked to stop, every session ends and every worker is
joined, and no start overwrites the handle of a running session (`Released.step`).  Where one of the
two fails, the run can go on so that something is left behind (`leak_of_not_meets`).
-/

namespace ValOpt

open Effect

/-- The session has ended and no provider is enabled for it. -/
def EtwSession.Released (x : EtwSession) : Prop :=
  x.running = false ∧ x.dxgi = false ∧ x.d3d9 = false

theorem EtwSession.released_stop (x : EtwSession) : x.stop.Released := ⟨rfl, rfl, rfl⟩

namespace EtwCapture

variable {s s' : EtwCapture} {l : CaptureEvent}

/-! ### What is claimed, and when -/

/-- No handle of a running session has been overwritten, and after the last `stop_capture` all
sessions are released and all workers joined. -/
structure Sound (s : EtwCapture) : Prop where
  kept : s.overwrote = false
  clean : s.stopped = true → (∀ x ∈ s.sessions, x.Released) ∧ ∀ w ∈ s.workers, w = .joined

/-- `stop_capture` is under way and has found the engine active. -/
def Caller.IsStopping (caller : Caller) : Prop :=
  caller = .swapped ∨ caller = .closed ∨ caller = .joining

/-- The condition: a worker deactivates the engine only while `stop_capture` cleans up, and the
system stops the session if it runs. -/
def Meets : CaptureEvent → EtwCapture → Prop
  | .deactivate _, s => Caller.IsStopping s.caller
  | .stopSession _ _ controlled, s =>
    controlled = true ∨ ∀ x ∈ s.sessions, some x.handle = s.sessionHandle → x.running = false
  | _, _ => True

instance (l : CaptureEvent) (s : EtwCapture) : Decidable (Meets l s) :=
  match l with
  | .deactivate _ => inferInstanceAs (Decidable (_ ∨ _))
  | .stopSession _ _ _ => inferInstanceAs (Decidable (_ ∨ _))
  | .startRealCapture _ | .activate | .spawn | .stopCapture | .closeTrace | .join | .openTrace _ _
  | .traceReturns _ | .foreignStop _ => inferInstanceAs (Decidable True)

/-! ### The invariant -/

/-- The handle that the engine is responsible for. -/
def owned (s : EtwCapture) : Option ℕ :=
  match s.caller with
  | .traced _ handle => some handle
  | _ => s.sessionHandle

/-- All sessions are released but the one with this handle. -/
def SessionsBut (handle : Option ℕ) (sessions : List EtwSession) : Prop :=
  ∀ x ∈ sessions, x.Released ∨ x.running = true ∧ some x.handle = handle

/-- All workers are joined but this one, which is not. -/
def WorkersBut (worker : Option ℕ) (workers : List WorkerPhase) : Prop :=
  ∀ i phase, workers[i]? = some phase → (phase = .joined ↔ worker ≠ some i)

/-- What holds of the slots, by where the owner stands. -/
def SlotsOk (s : EtwCapture) : Prop :=
  match s.caller with
  | .idle => s.isActive = false → s.sessionHandle = none ∧ s.workerHandle = none
  | .traced _ _ => s.isActive = false ∧ s.sessionHandle = none ∧ s.workerHandle = none
  | .activated => s.isActive = true ∧ s.workerHandle = none
  | .swapped | .closed => s.isActive = false
  | .joining => s.isActive = false ∧ s.sessionHandle = none

/-- The invariant of the runs that meet the condition. -/
structure Inv (s : EtwCapture) : Prop where
  kept : s.overwrote = false
  sessions : SessionsBut s.owned s.sessions
  workers : WorkersBut s.workerHandle s.workers
  worker_mem : ∀ i, s.workerHandle = some i → i < s.workers.length
  slots : s.SlotsOk
  stopped : s.stopped = true → s.caller = .idle ∧ s.isActive = false

theorem Inv.new : Inv new where
  kept := rfl
  sessions := fun _ hx => absurd hx List.not_mem_nil
  workers := fun _ _ h => by simp [EtwCapture.new] at h
  worker_mem := fun _ h => by simp [EtwCapture.new] at h
  slots := fun _ => ⟨rfl, rfl⟩
  stopped := fun h => absurd h Bool.false_ne_true

theorem SessionsBut.released (h : SessionsBut none s.sessions) : ∀ x ∈ s.sessions, x.Released := by
  intro x hx
  rcases h x hx with hreleased | ⟨-, howned⟩
  · exact hreleased
  · exact absurd howned (Option.some_ne_none _)

theorem Inv.sound (h : Inv s) : Sound s where
  kept := h.kept
  clean := by
    intro hstopped
    obtain ⟨hidle, hinactive⟩ := h.stopped hstopped
    have hslots := h.slots
    have hsessions := h.sessions
    rw [SlotsOk, hidle] at hslots
    rw [owned, hidle] at hsessions
    obtain ⟨hnone, hworker⟩ := hslots hinactive
    constructor
    · rw [hnone] at hsessions
      exact hsessions.released
    · intro w hw
      obtain ⟨i, hi⟩ := List.mem_iff_getElem?.mp hw
      rw [h.workers i w hi, hworker]
      exact (Option.some_ne_none i).symm

/-! ### Sessions and workers -/

theorem mem_onRunning {p : EtwSession → Bool} {f : EtwSession → EtwSession} {xs : List EtwSession}
    {y : EtwSession} : y ∈ onRunning p f xs ↔
      ∃ x ∈ xs, (x.running = true ∧ p x = true ∧ f x = y) ∨
        (¬ (x.running = true ∧ p x = true) ∧ x = y) := by
  rw [onRunning, List.mem_map]
  apply exists_congr
  intro x
  apply and_congr_right
  intro _
  rw [← Bool.and_eq_true, ← and_assoc, ← Bool.and_eq_true]
  by_cases h : (x.running && p x) = true <;> simp [h]

/-- Sessions that end are released. -/
theorem SessionsBut.onRunning_stop {handle : Option ℕ} {xs : List EtwSession}
    (h : SessionsBut handle xs) (p : EtwSession → Bool) :
    SessionsBut handle (onRunning p EtwSession.stop xs) := by
  intro y hy
  obtain ⟨x, hx, ⟨-, -, rfl⟩ | ⟨-, rfl⟩⟩ := mem_onRunning.mp hy
  · exact Or.inl (EtwSession.released_stop x)
  · exact h x hx

/-- A worker that is not joined yet goes on. -/
theorem WorkersBut.set {worker : Option ℕ} {workers : List WorkerPhase} {i : ℕ}
    {phase phase' : WorkerPhase} (h : WorkersBut worker workers) (hi : workers[i]? = some phase)
    (hphase : phase ≠ .joined) (hphase' : phase' ≠ .joined) :
    WorkersBut worker (workers.set i phase') := by
  intro j ph hj
  by_cases hij : i = j
  · have hlt : i < workers.length := (List.getElem?_eq_some_iff.mp hi).1
    rw [← hij, List.getElem?_set_self hlt, Option.some.injEq] at hj
    rw [← hij, ← hj, ← h i phase hi]
    exact iff_of_false hphase' hphase
  · rw [List.getElem?_set_ne hij] at hj
    exact h j ph hj

/-! ### The steps -/

/-- `start_real_capture`, as far as it starts a session. -/
theorem Inv.startRealCapture (h : Inv s) (hidle : s.caller = .idle) {call : StartCall}
    (hs : s.startRealCapture call = some s') : Inv s' := by
  have hslots := h.slots
  have hsessions := h.sessions
  rw [SlotsOk, hidle] at hslots
  rw [owned, hidle] at hsessions
  -- A call that fails early changes only the error it returns.
  have herror : ∀ e, Inv { s with lastError := e } := fun e =>
    { kept := h.kept, sessions := h.sessions, workers := h.workers, worker_mem := h.worker_mem,
      slots := h.slots, stopped := h.stopped }
  rw [EtwCapture.startRealCapture] at hs
  split at hs
  next => exact Option.some.inj hs ▸ herror _
  next hactive =>
    obtain ⟨hnone, hworker⟩ := hslots (eq_false_of_ne_true hactive)
    split at hs
    next => exact Option.some.inj hs ▸ herror _
    next =>
      split at hs
      next => exact Option.some.inj hs ▸ herror _
      next =>
        have hcleaned : SessionsBut s.sessionHandle (if call.cleanedUp = true then onRunning
            (fun x => x.name = bufferName call.sessionName) .stop s.sessions else s.sessions) := by
          split
          · exact SessionsBut.onRunning_stop hsessions _
          · exact hsessions
        dsimp only at hs
        generalize (if call.cleanedUp = true then onRunning
          (fun x => x.name = bufferName call.sessionName) .stop s.sessions
            else s.sessions) = cleaned at hs hcleaned
        split at hs
        next code _ =>
          rw [← Option.some.inj hs]
          exact { kept := h.kept
                  sessions := by
                    rw [owned, hidle]
                    exact hcleaned
                  workers := h.workers
                  worker_mem := h.worker_mem
                  slots := by
                    rw [SlotsOk, hidle]
                    exact hslots
                  stopped := h.stopped }
        next handle _ =>
          split at hs
          next => exact absurd hs (Option.some_ne_none s').symm
          next =>
            rw [← Option.some.inj hs]
            exact { kept := h.kept
                    sessions := by
                      intro x hx
                      rcases List.mem_append.mp hx with hx | hx
                      · -- The slot is empty, so that the sessions before are released.
                        rw [hnone] at hcleaned
                        rcases hcleaned x hx with hreleased | ⟨-, howned⟩
                        · exact Or.inl hreleased
                        · exact absurd howned (Option.some_ne_none _)
                      · rw [List.mem_singleton.mp hx]
                        exact Or.inr ⟨rfl, rfl⟩
                    workers := h.workers
                    worker_mem := h.worker_mem
                    slots := ⟨eq_false_of_ne_true hactive, hnone, hworker⟩
                    stopped := fun hstopped => absurd hstopped Bool.false_ne_true }

/-- The handle of the new session goes into an empty slot. -/
theorem Inv.activate (h : Inv s) {sessionName : String} {handle : ℕ}
    (hcaller : s.caller = .traced sessionName handle) : Inv (s.activate sessionName handle) := by
  have hslots := h.slots
  have hsessions := h.sessions
  rw [SlotsOk, hcaller] at hslots
  rw [owned, hcaller] at hsessions
  have hholds : s.holdsRunning handle = false := by
    rw [holdsRunning, hslots.2.1]
    simp
  exact {
    kept := by
      show (s.overwrote || s.holdsRunning handle) = false
      rw [h.kept, hholds, Bool.or_false]
    sessions := hsessions
    workers := h.workers
    worker_mem := h.worker_mem
    slots := ⟨rfl, hslots.2.2⟩
    stopped := by
      intro hstopped
      have hidle := (h.stopped hstopped).1
      rw [hcaller] at hidle
      cases hidle }

theorem Inv.spawn (h : Inv s) (hcaller : s.caller = .activated) : Inv s.spawn := by
  have hslots := h.slots
  have hsessions := h.sessions
  rw [SlotsOk, hcaller] at hslots
  rw [owned, hcaller] at hsessions
  exact {
    kept := h.kept
    sessions := hsessions
    workers := by
      intro i phase hi
      by_cases hlt : i < s.workers.length
      · -- The slot was empty, so that the workers before are joined.
        rw [EtwCapture.spawn, List.getElem?_append_left hlt] at hi
        have hempty : s.workerHandle ≠ some i := by
          rw [hslots.2]
          exact (Option.some_ne_none i).symm
        have hjoined := (h.workers i phase hi).mpr hempty
        apply iff_of_true hjoined
        rw [EtwCapture.spawn, ne_eq, Option.some.injEq]
        omega
      · rw [EtwCapture.spawn, List.getElem?_append_right (Nat.not_lt.mp hlt),
          List.getElem?_singleton] at hi
        split at hi
        next hzero =>
          have hlen : s.workers.length = i := by omega
          apply iff_of_false
          · rw [← Option.some.inj hi]
            decide
          · rw [EtwCapture.spawn, not_not, Option.some.injEq]
            exact hlen
        next => exact absurd hi (Option.some_ne_none phase).symm
    worker_mem := by
      intro i hi
      rw [← Option.some.inj hi]
      show s.workers.length < (s.workers ++ [_]).length
      rw [List.length_append]
      exact Nat.lt_succ_self _
    slots := fun hinactive => absurd hslots.1 (ne_true_of_eq_false hinactive)
    stopped := by
      intro hstopped
      exact absurd hslots.1 (ne_true_of_eq_false (h.stopped hstopped).2) }

theorem Inv.stopCapture (h : Inv s) (hidle : s.caller = .idle) : Inv s.stopCapture := by
  have hsessions := h.sessions
  rw [owned, hidle] at hsessions
  rw [EtwCapture.stopCapture]
  split
  next hactive =>
    exact { kept := h.kept, sessions := hsessions, workers := h.workers, worker_mem := h.worker_mem
            slots := rfl
            stopped := fun hstopped =>
              absurd hactive (ne_true_of_eq_false (h.stopped hstopped).2) }
  next hinactive =>
    exact { kept := h.kept, sessions := h.sessions, workers := h.workers, worker_mem := h.worker_mem
            slots := h.slots
            stopped := fun _ => ⟨hidle, eq_false_of_ne_true hinactive⟩ }

/-- The session of the slot is stopped, or has ended before. -/
theorem Inv.stopSession (h : Inv s) (hclosed : s.caller = .closed) {dxgi d3d9 controlled : Bool}
    (hmeets : controlled = true ∨
      ∀ x ∈ s.sessions, some x.handle = s.sessionHandle → x.running = false) :
    Inv (s.stopSession dxgi d3d9 controlled) := by
  have hslots := h.slots
  have hsessions := h.sessions
  rw [SlotsOk, hclosed] at hslots
  rw [owned, hclosed] at hsessions
  have hstopped : s.stopped ≠ true := by
    intro hstopped
    have hidle := (h.stopped hstopped).1
    rw [hclosed] at hidle
    cases hidle
  rw [EtwCapture.stopSession]
  -- Without a handle there is no session of its own; with one, that session is the only one that is
  -- still allowed to run.
  split
  next hnone =>
    rw [hnone] at hsessions
    exact { kept := h.kept
            sessions := by
              show SessionsBut s.sessionHandle s.sessions
              rw [hnone]
              exact hsessions
            workers := h.workers, worker_mem := h.worker_mem
            slots := ⟨hslots, hnone⟩
            stopped := fun ht => absurd ht hstopped }
  next handle hsome =>
    rw [hsome] at hsessions hmeets
    exact { kept := h.kept
            sessions := by
              intro y hy
              obtain ⟨x, hx, ⟨hrunning, hhandle, rfl⟩ | ⟨hother, rfl⟩⟩ := mem_onRunning.mp hy
              · rcases hmeets with hcontrolled | hended
                · rw [if_pos hcontrolled]
                  exact Or.inl (EtwSession.released_stop _)
                · have hfalse := hended x hx (by rw [of_decide_eq_true hhandle])
                  exact absurd hrunning (ne_true_of_eq_false hfalse)
              · rcases hsessions x hx with hreleased | ⟨hrunning, howned⟩
                · exact Or.inl hreleased
                · exact absurd ⟨hrunning, decide_eq_true (Option.some.inj howned)⟩ hother
            workers := h.workers, worker_mem := h.worker_mem
            slots := ⟨hslots, rfl⟩
            stopped := fun ht => absurd ht hstopped }

theorem Inv.join (h : Inv s) (hjoining : s.caller = .joining) (hs : s.join = some s') : Inv s' := by
  have hslots := h.slots
  have hsessions := h.sessions
  rw [SlotsOk, hjoining] at hslots
  rw [owned, hjoining] at hsessions
  rw [EtwCapture.join] at hs
  split at hs
  next hnone =>
    rw [← Option.some.inj hs]
    exact { kept := h.kept, sessions := hsessions, workers := h.workers, worker_mem := h.worker_mem
            slots := fun _ => ⟨hslots.2, hnone⟩
            stopped := fun _ => ⟨rfl, hslots.1⟩ }
  next i hsome =>
    split at hs
    next hended =>
      rw [← Option.some.inj hs]
      exact { kept := h.kept, sessions := hsessions
              workers := by
                intro j phase hj
                apply iff_of_true _ (Option.some_ne_none j).symm
                by_cases hij : i = j
                · rw [← hij, List.getElem?_set_self (h.worker_mem i hsome)] at hj
                  exact (Option.some.inj hj).symm
                · rw [List.getElem?_set_ne hij] at hj
                  rw [h.workers j phase hj, hsome, ne_eq, Option.some.injEq]
                  exact hij
              worker_mem := fun j hj => absurd hj (Option.some_ne_none j).symm
              slots := fun _ => ⟨hslots.2, rfl⟩
              stopped := fun _ => ⟨rfl, hslots.1⟩ }
    next => exact absurd hs (Option.some_ne_none s').symm

/-- A worker goes on, and keeps the slots as they are. -/
theorem Inv.setWorker (h : Inv s) {i : ℕ} {phase phase' : WorkerPhase}
    (hi : s.workers[i]? = some phase) (hphase : phase ≠ .joined) (hphase' : phase' ≠ .joined) :
    Inv (s.setWorker i phase') where
  kept := h.kept
  sessions := h.sessions
  workers := h.workers.set hi hphase hphase'
  worker_mem := by
    intro j hj
    show j < (s.workers.set i phase').length
    rw [List.length_set]
    exact h.worker_mem j hj
  slots := h.slots
  stopped := h.stopped

/-- The slot of the trace handle is not part of the invariant. -/
theorem Inv.setTraceHandle (h : Inv s) (traceHandle : Option ℕ) : Inv { s with traceHandle } :=
  { kept := h.kept, sessions := h.sessions, workers := h.workers, worker_mem := h.worker_mem
    slots := h.slots, stopped := h.stopped }

/-- A worker deactivates the engine while `stop_capture` cleans up. -/
theorem Inv.deactivate (h : Inv s) (hstopping : Caller.IsStopping s.caller) :
    Inv { s with isActive := false } := by
  have hslots := h.slots
  rw [SlotsOk] at hslots
  refine { kept := h.kept, sessions := h.sessions, workers := h.workers, worker_mem := h.worker_mem
           slots := ?_, stopped := fun hs => ⟨(h.stopped hs).1, rfl⟩ }
  rcases hstopping with hcaller | hcaller | hcaller
  all_goals
    rw [hcaller] at hslots
    simp only [SlotsOk, hcaller]
  exact ⟨trivial, hslots.2⟩

theorem Inv.closeTrace (h : Inv s) (hswapped : s.caller = .swapped) :
    Inv { s with traceHandle := none, caller := .closed } := by
  have hslots := h.slots
  have hsessions := h.sessions
  rw [SlotsOk, hswapped] at hslots
  rw [owned, hswapped] at hsessions
  exact { kept := h.kept, sessions := hsessions, workers := h.workers, worker_mem := h.worker_mem
          slots := hslots
          stopped := by
            intro hstopped
            have hidle := (h.stopped hstopped).1
            rw [hswapped] at hidle
            cases hidle }

/-- Every step that meets the condition keeps the invariant. -/
theorem Inv.step (h : Inv s) (hmeets : Meets l s) (hstep : step l s = some s') : Inv s' := by
  cases l with
  | startRealCapture call =>
    obtain ⟨hidle, hs⟩ := Option.ite_none_right_eq_some.mp hstep
    exact h.startRealCapture hidle hs
  | activate =>
    simp only [EtwCapture.step] at hstep
    split at hstep
    next sessionName handle hcaller => exact Option.some.inj hstep ▸ h.activate hcaller
    next => exact absurd hstep (Option.some_ne_none s').symm
  | spawn =>
    obtain ⟨hcaller, hs⟩ := Option.ite_none_right_eq_some.mp hstep
    exact Option.some.inj hs ▸ h.spawn hcaller
  | stopCapture =>
    obtain ⟨hidle, hs⟩ := Option.ite_none_right_eq_some.mp hstep
    exact Option.some.inj hs ▸ h.stopCapture hidle
  | closeTrace =>
    obtain ⟨hswapped, hs⟩ := Option.ite_none_right_eq_some.mp hstep
    exact Option.some.inj hs ▸ h.closeTrace hswapped
  | stopSession dxgi d3d9 controlled =>
    obtain ⟨hclosed, hs⟩ := Option.ite_none_right_eq_some.mp hstep
    exact Option.some.inj hs ▸ h.stopSession hclosed hmeets
  | join =>
    obtain ⟨hjoining, hs⟩ := Option.ite_none_right_eq_some.mp hstep
    exact h.join hjoining hs
  | openTrace i handle =>
    obtain ⟨hi, hs⟩ := Option.ite_none_right_eq_some.mp hstep
    cases handle with
    | none => exact Option.some.inj hs ▸ h.setWorker hi (by decide) (by decide)
    | some handle =>
      have hset : Inv (s.setWorker i .processing) := h.setWorker hi (by decide) (by decide)
      exact Option.some.inj hs ▸ hset.setTraceHandle (some handle)
  | traceReturns i =>
    obtain ⟨hi, hs⟩ := Option.ite_none_right_eq_some.mp hstep
    exact Option.some.inj hs ▸ h.setWorker hi (by decide) (by decide)
  | deactivate i =>
    obtain ⟨hi, hs⟩ := Option.ite_none_right_eq_some.mp hstep
    have hset : Inv (s.setWorker i .ended) := h.setWorker hi (by decide) (by decide)
    exact Option.some.inj hs ▸ hset.deactivate hmeets
  -- A session that someone else stops is no longer running, which is all that it may become.
  | foreignStop handle =>
    rw [← Option.some.inj hstep]
    exact { kept := h.kept, sessions := h.sessions.onRunning_stop _, workers := h.workers
            worker_mem := h.worker_mem, slots := h.slots, stopped := h.stopped }

/-! ### What a step that violates the condition leads to -/

/-- `stop_capture` returns once the worker has ended. -/
theorem returns_of_ended (hjoining : s.caller = .joining)
    (hworker : ∀ i, s.workerHandle = some i → s.workers[i]? = some .ended) :
    ∃ ls t, exec step ls s = some t ∧ t.stopped = true ∧ t.sessions = s.sessions := by
  have hjoin : ∃ t, s.join = some t ∧ t.stopped = true ∧ t.sessions = s.sessions := by
    rw [EtwCapture.join]
    split
    next => exact ⟨_, rfl, rfl, rfl⟩
    next i hsome =>
      rw [if_pos (hworker i hsome)]
      exact ⟨_, rfl, rfl, rfl⟩
  obtain ⟨t, hs, ht⟩ := hjoin
  refine ⟨[.join], t, ?_, ht⟩
  rw [exec_cons, step, if_pos hjoining, hs]
  rfl

/-- A worker that leaves ends by one more step. -/
theorem returns_of_leaving (hjoining : s.caller = .joining) {i : ℕ}
    (hsome : s.workerHandle = some i)
    (hi : s.workers[i]? = some .leaving) :
    ∃ ls t, exec step ls s = some t ∧ t.stopped = true ∧ t.sessions = s.sessions := by
  have hlt : i < s.workers.length := (List.getElem?_eq_some_iff.mp hi).1
  obtain ⟨ls, t, hexec, ht⟩ :=
    returns_of_ended (s := { s.setWorker i .ended with isActive := false }) hjoining (by
      intro j hj
      rw [← Option.some.inj (hsome.symm.trans hj)]
      exact List.getElem?_set_self hlt)
  refine ⟨.deactivate i :: ls, t, ?_, ht⟩
  rw [exec_cons, step, if_pos hi]
  exact hexec

/-- `stop_capture` can return, whatever the worker is at. -/
theorem returns_of_joining (hjoining : s.caller = .joining)
    (hworker : ∀ i, s.workerHandle = some i → ∃ phase, s.workers[i]? = some phase ∧
      phase ≠ .joined) :
    ∃ ls t, exec step ls s = some t ∧ t.stopped = true ∧ t.sessions = s.sessions := by
  cases hsome : s.workerHandle with
  | none => exact returns_of_ended hjoining fun i hi => absurd (hsome.symm.trans hi) (by simp)
  | some i =>
    obtain ⟨phase, hi, hphase⟩ := hworker i hsome
    have hlt : i < s.workers.length := (List.getElem?_eq_some_iff.mp hi).1
    have hset : (s.setWorker i .leaving).workers[i]? = some .leaving := List.getElem?_set_self hlt
    cases phase with
    | opening =>
      obtain ⟨ls, t, hexec, ht⟩ :=
        returns_of_leaving (s := s.setWorker i .leaving) hjoining hsome hset
      refine ⟨.openTrace i none :: ls, t, ?_, ht⟩
      rw [exec_cons, step, if_pos hi]
      exact hexec
    | processing =>
      obtain ⟨ls, t, hexec, ht⟩ :=
        returns_of_leaving (s := s.setWorker i .leaving) hjoining hsome hset
      refine ⟨.traceReturns i :: ls, t, ?_, ht⟩
      rw [exec_cons, step, if_pos hi]
      exact hexec
    | leaving => exact returns_of_leaving hjoining hsome hi
    | ended =>
      apply returns_of_ended hjoining
      intro j hj
      rw [← Option.some.inj (hsome.symm.trans hj)]
      exact hi
    | joined => exact absurd rfl hphase

/-- A worker that deactivates the engine too early is not joined by the next `stop_capture`. -/
theorem leak_of_deactivate (h : Inv s) {i : ℕ} (hi : s.workers[i]? = some .leaving)
    (hnot : ¬ Caller.IsStopping s.caller) :
    ∃ ls t, exec step ls { s.setWorker i .ended with isActive := false } = some t ∧ ¬ Sound t := by
  have hslots := h.slots
  have hworker : s.workerHandle = some i := by
    by_contra hne
    exact absurd ((h.workers i _ hi).mpr hne) (by decide)
  have hidle : s.caller = .idle := by
    rw [SlotsOk] at hslots
    cases hcaller : s.caller with
    | idle => rfl
    | traced name handle =>
      rw [hcaller] at hslots
      exact absurd (hslots.2.2.symm.trans hworker) (by simp)
    | activated =>
      rw [hcaller] at hslots
      exact absurd (hslots.2.symm.trans hworker) (by simp)
    | swapped => exact absurd (Or.inl hcaller) hnot
    | closed => exact absurd (Or.inr (Or.inl hcaller)) hnot
    | joining => exact absurd (Or.inr (Or.inr hcaller)) hnot
  refine ⟨[.stopCapture], { s.setWorker i .ended with isActive := false, stopped := true }, ?_, ?_⟩
  · show (if s.caller = .idle then _ else none).bind _ = _
    rw [if_pos hidle]
    rfl
  · intro hsound
    have hlt : i < s.workers.length := (List.getElem?_eq_some_iff.mp hi).1
    have hmem : WorkerPhase.ended ∈ s.workers.set i .ended :=
      List.mem_of_getElem? (List.getElem?_set_self hlt)
    exact absurd ((hsound.clean rfl).2 _ hmem) (by decide)

/-- A session that the system does not stop goes on running after `stop_capture`. -/
theorem leak_of_stopSession (h : Inv s) (dxgi d3d9 : Bool) {x : EtwSession} (hx : x ∈ s.sessions)
    (hhandle : some x.handle = s.sessionHandle) (hrunning : x.running = true) :
    ∃ ls t, exec step ls (s.stopSession dxgi d3d9 false) = some t ∧ ¬ Sound t := by
  have hleft : ∃ y ∈ (s.stopSession dxgi d3d9 false).sessions, y.running = true := by
    rw [EtwCapture.stopSession, ← hhandle]
    refine ⟨_, mem_onRunning.mpr ⟨x, hx, Or.inl ⟨hrunning, decide_eq_true rfl, rfl⟩⟩, ?_⟩
    exact hrunning
  have hkeep : (s.stopSession dxgi d3d9 false).caller = .joining ∧
      (s.stopSession dxgi d3d9 false).workerHandle = s.workerHandle ∧
      (s.stopSession dxgi d3d9 false).workers = s.workers := by
    rw [EtwCapture.stopSession, ← hhandle]
    exact ⟨rfl, rfl, rfl⟩
  obtain ⟨ls, t, hexec, hstopped, hsessions⟩ := returns_of_joining hkeep.1 (by
    rw [hkeep.2.1, hkeep.2.2]
    intro i hi
    have hlt := h.worker_mem i hi
    refine ⟨s.workers[i], List.getElem?_eq_getElem hlt, ?_⟩
    intro hjoined
    have hne := (h.workers i _ (List.getElem?_eq_getElem hlt)).mp hjoined
    exact hne hi)
  refine ⟨ls, t, hexec, ?_⟩
  intro hsound
  obtain ⟨y, hy, hyrunning⟩ := hleft
  have hreleased := (hsound.clean hstopped).1 y (hsessions ▸ hy)
  exact absurd hyrunning (ne_true_of_eq_false hreleased.1)

/-- After a step that violates the condition, the run can go on so that something is left behind. -/
theorem leak_of_not_meets (h : Inv s) (hstep : step l s = some s') (hnot : ¬ Meets l s) :
    ∃ ls t, exec step ls s' = some t ∧ ¬ Sound t := by
  cases l with
  | deactivate i =>
    obtain ⟨hi, hs⟩ := Option.ite_none_right_eq_some.mp hstep
    exact Option.some.inj hs ▸ leak_of_deactivate h hi hnot
  | stopSession dxgi d3d9 controlled =>
    obtain ⟨-, hs⟩ := Option.ite_none_right_eq_some.mp hstep
    rw [Meets, not_or] at hnot
    obtain ⟨hcontrolled, hsession⟩ := hnot
    rw [Bool.not_eq_true] at hcontrolled
    push Not at hsession
    obtain ⟨x, hx, hhandle, hrunning⟩ := hsession
    rw [← Option.some.inj hs, hcontrolled]
    exact leak_of_stopSession h dxgi d3d9 hx hhandle (eq_true_of_ne_false hrunning)
  | _ => exact absurd trivial hnot

/-! ### Runs -/

/-- In every run whose steps meet the condition, the engine releases what it started.  The condition
is sharp: a run that violates it can go on so that something is left behind. -/
theorem capture_released (ls : List CaptureEvent) :
    (Each step Meets ls new → Always step Sound ls new) ∧
    ∀ s l s', Each step Meets ls new → exec step ls new = some s → step l s = some s' →
      ¬ Meets l s → ∃ ls' t, exec step ls' s' = some t ∧ ¬ Sound t := by
  have hkeep : ∀ l s s', Inv s → Meets l s → step l s = some s' → Inv s' :=
    fun _ _ _ h hmeets hstep => h.step hmeets hstep
  constructor
  · intro hmeets
    exact always_of_each (fun _ => Inv.sound) hkeep Inv.new hmeets
  · intro s l s' hmeets hexec hstep hnot
    have hinv := (always_of_each (p := Inv) (fun _ => id) hkeep Inv.new hmeets).of_exec hexec
    exact leak_of_not_meets hinv hstep hnot

/-- A start that succeeds. -/
def sampleStart (sessionName : String) (handle : ℕ) : CaptureEvent :=
  .startRealCapture ⟨sessionName, true, 10000000, false, .inr handle, true, true⟩

/-- A capture that is stopped while its worker processes events. -/
theorem capture_released_round :
    Always step Sound [sampleStart "A" 7, .activate, .spawn, .openTrace 0 (some 3), .stopCapture,
      .closeTrace, .traceReturns 0, .stopSession true true true, .deactivate 0, .join] new :=
  (capture_released _).1 (by decide +kernel)

/-- The trace cannot be opened, the capture is stopped, and another one is started. -/
def leakEvents : List CaptureEvent :=
  [sampleStart "A" 7, .activate, .spawn, .openTrace 0 none, .deactivate 0, .stopCapture,
    sampleStart "B" 8, .activate]

/-- After `stop_capture` the session is still running with its providers, and the next start
overwrites its handle. -/
theorem session_leaks :
    (exec step (leakEvents.take 6) new).any (fun s => s.caller = .idle && s.stopped &&
      s.sessions = [⟨7, bufferName "A", true, true, true⟩] && s.workers = [.ended]) = true ∧
    (exec step leakEvents new).any (fun s => s.overwrote) = true ∧
    ¬ ∀ ls, Always step Sound ls new := by
  have hrun : (exec step leakEvents new).any (fun s => s.overwrote) = true := by decide +kernel
  refine ⟨by decide +kernel, hrun, ?_⟩
  intro h
  obtain ⟨s, hexec, hs⟩ := (Option.any_eq_true ..).mp hrun
  exact absurd hs (ne_true_of_eq_false ((h leakEvents).of_exec hexec).kept)

end EtwCapture

end ValOpt
