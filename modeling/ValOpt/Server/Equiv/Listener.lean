import ValOpt.Server.Listener

/-!
# What the flag of the server tells

A listener that leaves its loop has read the flag as not set, and only a `start` sets it, which
spawns another listener.  So the flag of a server whose last listener has ended is not set, unless
that one could not create the pipe: this exit leaves the flag as it is (`truthful_iff`).
-/

namespace ValOpt

open Effect

variable {F : Type}

namespace IpcServer

/-! ### The statement -/

/-- The listener that was spawned last. -/
def listener (s : IpcServer) : Option ListenerPhase := s.listeners.getLast?

/-- Where its listener has ended, the server is not running, so that the loop of `main` ends and the
server can be started again. -/
def Truthful (s : IpcServer) : Prop :=
  s.listener = some .ended → s.isRunning = false ∧ s.start.1 = .ok ()

end IpcServer

/-- The last listener creates the pipe, or fails to after the server was stopped. -/
def IpcEvent.Creates (e : IpcEvent F) (s : IpcServer) : Prop :=
  ∀ i succeeds, e = .create i succeeds → s.listeners.length = i + 1 →
    (succeeds = true ∧ s.holdsPipe = false) ∨ s.isRunning = false

namespace IpcServer

variable {s s' : IpcServer} {e : IpcEvent F} {i : ℕ}

theorem truthful_iff_isRunning :
    s.Truthful ↔ (s.listener = some .ended → s.isRunning = false) := by
  have hstart : s.isRunning = false → s.start.1 = .ok () := by
    intro h
    rw [start, h]
    rfl
  exact ⟨fun h hended => (h hended).1, fun h hended => ⟨h hended, hstart (h hended)⟩⟩

/-! ### The last listener -/

/-- A step of a listener changes the last one just if it is that one. -/
theorem listener_setListener (hi : i < s.listeners.length) (phase : ListenerPhase) :
    (s.setListener i phase).listener =
      if s.listeners.length = i + 1 then some phase else s.listener := by
  show (s.listeners.set i phase).getLast? = _
  rw [List.getLast?_eq_getElem?, List.length_set, List.getElem?_set]
  by_cases hlast : s.listeners.length = i + 1
  · have hindex : i = s.listeners.length - 1 := by omega
    rw [if_pos hindex, if_pos hi, if_pos hlast]
  · have hindex : i ≠ s.listeners.length - 1 := by omega
    rw [if_neg hindex, if_neg hlast, listener, List.getLast?_eq_getElem?]

theorem listener_of_getElem {phase : ListenerPhase} (h : s.listeners[i]? = some phase)
    (hlast : s.listeners.length = i + 1) : s.listener = some phase := by
  rw [listener, List.getLast?_eq_getElem?, hlast]
  exact h

/-- A listener that left its loop is the last one only as long as the flag is not set. -/
def Sound (s : IpcServer) : Prop :=
  s.listener = some .leaving → s.isRunning = false

section Set

variable {phase : ListenerPhase} {running : Bool} (hi : i < s.listeners.length)
  (hrunning : running = true → s.isRunning = true)

include hi hrunning

/-- A step of a listener that does not set the flag. -/
theorem Sound.set (h : s.Sound) (hleaving : phase = .leaving → s.isRunning = false) :
    ({ s.setListener i phase with isRunning := running } : IpcServer).Sound := by
  intro hlast
  have hclear : s.isRunning = false → running = false := by
    intro hs
    rw [← Bool.not_eq_true]
    intro hset
    rw [hrunning hset] at hs
    cases hs
  have hlistener : (s.setListener i phase).listener = some .leaving := hlast
  rw [listener_setListener hi] at hlistener
  apply hclear
  split at hlistener
  · exact hleaving (Option.some.inj hlistener)
  · exact h hlistener

theorem Truthful.set_iff (h : s.Truthful) :
    ({ s.setListener i phase with isRunning := running } : IpcServer).Truthful ↔
      (s.listeners.length = i + 1 → phase = .ended → running = false) := by
  rw [truthful_iff_isRunning] at h ⊢
  show ((s.setListener i phase).listener = some .ended → running = false) ↔ _
  rw [listener_setListener hi]
  by_cases hlast : s.listeners.length = i + 1
  · rw [if_pos hlast, Option.some.injEq]
    exact ⟨fun htruthful _ => htruthful, fun htruthful => htruthful hlast⟩
  · rw [if_neg hlast]
    refine ⟨fun _ hlength => absurd hlength hlast, fun _ hended => ?_⟩
    rw [← Bool.not_eq_true]
    intro hset
    have hclear := h hended
    rw [hrunning hset] at hclear
    cases hclear

end Set

/-! ### Every step -/

/-- What a step does to the listeners and the flag. -/
inductive Move (e : IpcEvent F) (s : IpcServer) : IpcServer → Prop
  | refused (hother : ∀ i succeeds, e ≠ .create i succeeds) : Move e s s
  | started (he : e = .start) (hstopped : s.isRunning = false) :
      Move e s ⟨true, s.listeners ++ [.creating]⟩
  | stopped (he : e = .stop) : Move e s s.stop
  | created (i : ℕ) (succeeds : Bool) (he : e = .create i succeeds)
      (hphase : s.listeners[i]? = some .creating) :
      Move e s (s.setListener i (if succeeds && !s.holdsPipe then .checking else .ended))
  /-- A listener that has the pipe goes on; it leaves its loop only where the flag is not set. -/
  | moved (i : ℕ) (phase next : ListenerPhase) (running : Bool)
      (hother : ∀ i succeeds, e ≠ .create i succeeds) (hphase : s.listeners[i]? = some phase)
      (hholds : phase.holdsPipe = true) (hnext : next ≠ .creating)
      (hrunning : running = true → s.isRunning = true)
      (hleaving : next = .leaving → s.isRunning = false)
      (hended : next = .ended → phase = .leaving) :
      Move e s { s.setListener i next with isRunning := running }

theorem exists_of_listenerStep {phase : ListenerPhase} {next : IpcServer}
    (h : s.listenerStep i phase next = some s') : s.listeners[i]? = some phase ∧ s' = next := by
  unfold listenerStep at h
  split at h
  · next hphase =>
    cases h
    exact ⟨hphase, rfl⟩
  · cases h

theorem move_of_step (h : IpcServer.step e s = some s') : Move e s s' := by
  cases e with
  | start =>
    cases h
    rw [start]
    split
    · exact .refused nofun
    · next hrunning => exact .started rfl (Bool.eq_false_iff.mpr hrunning)
  | stop =>
    cases h
    exact .stopped rfl
  | create i succeeds =>
    obtain ⟨hphase, rfl⟩ := exists_of_listenerStep h
    exact .created i succeeds rfl hphase
  | look i =>
    -- the flag is read, and tells where the listener goes
    have hlook : ∀ phase next, s.listeners[i]? = some phase → phase.holdsPipe = true →
        next ≠ .creating → next ≠ .leaving → next ≠ .ended →
        Move (IpcEvent.look i : IpcEvent F) s
          (s.setListener i (if s.isRunning then next else .leaving)) := by
      intro phase next hphase hholds hcreating hleaving hended
      refine .moved i phase _ s.isRunning nofun hphase hholds ?_ id ?_ ?_
      · split
        · exact hcreating
        · exact nofun
      · intro hnext
        by_contra hrunning
        rw [if_pos (Bool.of_not_eq_false hrunning)] at hnext
        exact hleaving hnext
      · intro hnext
        split at hnext
        · exact absurd hnext hended
        · cases hnext
    unfold step at h
    dsimp only at h
    split at h
    · next hphase =>
      cases h
      exact hlook _ _ hphase rfl nofun nofun nofun
    · next hphase =>
      cases h
      exact hlook _ _ hphase rfl nofun nofun nofun
    · next hphase =>
      cases h
      exact hlook _ _ hphase rfl nofun nofun nofun
    · cases h
  | connect i succeeds =>
    obtain ⟨hphase, rfl⟩ := exists_of_listenerStep h
    refine .moved i _ _ s.isRunning nofun hphase rfl ?_ id ?_ ?_
    · split <;> nofun
    · split <;> nofun
    · split <;> nofun
  | serve i request elevated =>
    obtain ⟨hphase, rfl⟩ := exists_of_listenerStep h
    refine .moved i _ .checking _ nofun hphase rfl nofun ?_ nofun nofun
    intro hrunning
    exact (Bool.and_eq_true_iff.mp hrunning).1
  | close i =>
    obtain ⟨hphase, rfl⟩ := exists_of_listenerStep h
    exact .moved i .leaving .ended s.isRunning nofun hphase rfl nofun id nofun fun _ => rfl

theorem lt_of_getElem {phase : ListenerPhase} (h : s.listeners[i]? = some phase) :
    i < s.listeners.length := (List.getElem?_eq_some_iff.mp h).1

theorem Sound.move (h : s.Sound) (hmove : Move e s s') : s'.Sound := by
  cases hmove with
  | refused _ => exact h
  | started _ _ =>
    intro hlast
    simp [listener] at hlast
  | stopped _ => exact fun _ => rfl
  | created i succeeds _ hphase =>
    show ({ s.setListener i _ with isRunning := s.isRunning } : IpcServer).Sound
    refine h.set (lt_of_getElem hphase) id ?_
    split <;> nofun
  | moved i phase next running _ hphase _ _ hrunning hleaving _ =>
    exact h.set (lt_of_getElem hphase) hrunning hleaving

/-- A step leaves the flag truthful just if it creates the pipe where it is to. -/
theorem Truthful.move_iff (hsound : s.Sound) (h : s.Truthful) (hmove : Move e s s') :
    s'.Truthful ↔ e.Creates s := by
  have hcreates : (∀ i succeeds, e ≠ .create i succeeds) → e.Creates s :=
    fun hother i succeeds he => absurd he (hother i succeeds)
  cases hmove with
  | refused hother => exact iff_of_true h (hcreates hother)
  | started he _ =>
    subst he
    refine iff_of_true ?_ (hcreates nofun)
    intro hlast
    simp [listener] at hlast
  | stopped he =>
    subst he
    exact iff_of_true (truthful_iff_isRunning.mpr fun _ => rfl) (hcreates nofun)
  | created i succeeds he hphase =>
    show ({ s.setListener i _ with isRunning := s.isRunning } : IpcServer).Truthful ↔ _
    rw [h.set_iff (lt_of_getElem hphase) id]
    have hfails : (if succeeds && !s.holdsPipe then ListenerPhase.checking else .ended) = .ended ↔
        ¬ (succeeds = true ∧ s.holdsPipe = false) := by
      cases succeeds <;> cases s.holdsPipe <;> simp
    rw [hfails]
    constructor
    · intro htruthful i' succeeds' he' hlast
      rw [he] at he'
      cases he'
      exact or_iff_not_imp_left.mpr (htruthful hlast)
    · intro hcreates hlast
      exact or_iff_not_imp_left.mp (hcreates i succeeds he hlast)
  | moved i phase next running hother hphase _ _ hrunning _ hended =>
    refine iff_of_true ((h.set_iff (lt_of_getElem hphase) hrunning).mpr ?_) (hcreates hother)
    intro hlast hnext
    -- the last listener has left its loop, so the flag was not set
    have hleaving := hsound ((listener_of_getElem hphase hlast).trans (by rw [hended hnext]))
    rw [← Bool.not_eq_true]
    intro hset
    rw [hrunning hset] at hleaving
    cases hleaving

/-- **The flag is truthful** throughout a run just if the last listener creates the pipe whenever it
is to, or the server was stopped before. -/
theorem truthful_iff (events : List (IpcEvent F)) :
    Always IpcServer.step Truthful events .new ↔
      Each IpcServer.step IpcEvent.Creates events .new :=
  always_iff_each (I := Sound)
    (fun _ _ _ hsound htruthful hstep => htruthful.move_iff hsound (move_of_step hstep))
    (fun _ _ _ hsound _ _ hstep => hsound.move (move_of_step hstep))
    (fun h => (nomatch h)) fun h => (nomatch h)

/-- **Counterexample.**  Another program has the pipe: the listener ends at once, and the server
goes on to say that it is running. -/
theorem failed_listener_running : ¬ Always (IpcServer.step (F := Unit)) Truthful
    [.start, .create 0 false] .new := by
  intro h
  have hrun : exec (IpcServer.step (F := Unit)) [.start, .create 0 false] .new =
      some ⟨true, [.ended]⟩ := rfl
  obtain ⟨hflag, -⟩ := h.of_exec hrun rfl
  cases hflag

end IpcServer

end ValOpt
