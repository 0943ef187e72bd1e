import ValOpt.Cli.Equiv.Writes
import ValOpt.State.Equiv.WriteBack
import ValOpt.System.Desktop

/-!
# Pausing and resuming by hand

`pause-services` keeps no record of what it has paused, and `resume-services` starts every service
of its table.  So the services are as before iff those of the table that are installed were running
(`resume_services_iff`), whatever happened in between.
-/

namespace ValOpt

open Effect

variable {P : Platform} {text : Call → String} {w : World}

/-- No service is installed or removed. -/
def World.SameInstalled (w w' : World) : Prop :=
  w.SameHost w' ∧ ∀ name, (w'.machine.services name).isSome = (w.machine.services name).isSome

theorem admits_sameInstalled (w : World) : Admits w.SameInstalled w.storageDir Set.univ where
  write a _ w₁ w₂ h hwrite := by
    refine ⟨h.1.trans hwrite.sameHost, fun other => ?_⟩
    rw [← h.2 other]
    by_cases ha : a = .service other
    · subst ha
      cases hwrite with
      | service state hinstalled =>
        show (Function.update w₁.machine.services other (some state) other).isSome = _
        rw [Function.update_self, hinstalled]
        rfl
    · have hsame : w₂.machine.services other = w₁.machine.services other :=
        hwrite.same (Ne.symm ha)
      rw [hsame]
  storageDir _ h := h.1.storageDir

theorem sameInstalled_runCommands (P : Platform) (runs : List (Env Call × CliCommand)) (w : World) :
    w.SameInstalled (runCommands P runs w) := by
  refine holds_runCommands ⟨?_, (admits_sameInstalled w).storageDir⟩ ⟨.refl w, fun _ => rfl⟩
  exact fun a _ => (admits_sameInstalled w).write a (Set.mem_univ a)

/-- Undisturbed, every installed service of the table is started. -/
theorem run_resumeServices : (CliCommand.resumeServices.run P).run (.faultless text) w =
    .returned (.ok (.resumed 3)) { w with machine := w.machine.withServices resumeBackups } := by
  unfold CliCommand.run
  rw [Eff.run_bind, run_restoreTier3Services, Run.bind_returned]
  rfl

theorem services_withServices_resume (m : Machine) (name : String) :
    (m.withServices resumeBackups).services name =
      if name ∈ targetTier3Services then (m.services name).map fun _ => serviceRunning
      else m.services name := by
  have hany : (resumeBackups.any fun b => b.wasPausedByOptimizer && b.serviceName == name) = true ↔
      name ∈ targetTier3Services := by
    rw [resumeBackups, List.any_map, List.any_eq_true]
    constructor
    · rintro ⟨other, hother, hname⟩
      have heq : other = name := by simpa using hname
      exact heq ▸ hother
    · exact fun hname => ⟨name, hname, by simp⟩
  show (if resumeBackups.any _ then _ else _) = _
  by_cases hname : name ∈ targetTier3Services
  · rw [if_pos hname, if_pos (hany.mpr hname)]
  · rw [if_neg hname, if_neg fun h => hname (hany.mp h)]

/-- **Resuming knows nothing of the pause.**  After any commands that touch no other service, and
however they end, `resume-services` leaves the services as they were iff those of the table that are
installed were running. -/
theorem resume_services_iff (P : Platform) (text : Call → String)
    (runs : List (Env Call × CliCommand)) (w : World)
    (hruns : ∀ q ∈ runs, ∀ name ∉ targetTier3Services, .service name ∉ q.2.writes w.storageDir) :
    let w' := runCommands P (runs ++ [(.faultless text, .resumeServices)]) w
    (∀ name, w'.machine.services name =
      if name ∈ targetTier3Services then (w.machine.services name).map fun _ => serviceRunning
      else w.machine.services name) ∧
    (w'.machine.services = w.machine.services ↔ ∀ name ∈ targetTier3Services, ∀ state,
      w.machine.services name = some state → state = serviceRunning) := by
  intro w'
  have hlast : w'.machine = (runCommands P runs w).machine.withServices resumeBackups := by
    show (runCommands P (runs ++ _) w).machine = _
    rw [runCommands, List.foldl_append, List.foldl_cons, List.foldl_nil]
    change ((CliCommand.resumeServices.run P).run (.faultless text)
      (runCommands P runs w)).state.machine = _
    rw [run_resumeServices, Run.state_returned]
  have hinstalled := (sameInstalled_runCommands P runs w).2
  have hothers : ∀ name ∉ targetTier3Services,
      (runCommands P runs w).machine.services name = w.machine.services name := by
    intro name hname
    apply (runCommands_frame P runs w).1.2 (.service name)
    rintro ⟨q, hq, hwrites⟩
    exact hruns q hq name hname hwrites
  have hservices : ∀ name, w'.machine.services name =
      if name ∈ targetTier3Services then (w.machine.services name).map fun _ => serviceRunning
      else w.machine.services name := by
    intro name
    rw [hlast, services_withServices_resume]
    split
    · have hname := hinstalled name
      rcases hold : w.machine.services name with _ | state
      · rw [hold, Option.isSome_none, Option.isSome_eq_false_iff,
          Option.isNone_iff_eq_none] at hname
        rw [hname, Option.map_none]
      · rw [hold, Option.isSome_some, Option.isSome_iff_exists] at hname
        obtain ⟨state', hstate'⟩ := hname
        rw [hstate', Option.map_some, Option.map_some]
    · next hname => exact hothers name hname
  refine ⟨hservices, ?_⟩
  constructor
  · intro hsame name hname state hstate
    have hvalue := hservices name
    rw [hsame, if_pos hname, hstate, Option.map_some] at hvalue
    exact Option.some.inj hvalue
  · intro hrunning
    funext name
    rw [hservices]
    split
    · next hname =>
      rcases hstate : w.machine.services name with _ | state
      · rfl
      · rw [Option.map_some, hrunning name hname state hstate]
    · rfl

/-- A spooler that was stopped all along runs after a pause and a resumption. -/
theorem resume_services_stopped :
    let stopped : World :=
      { World.desktop with machine := Machine.desktop.setService "Spooler" serviceStopped }
    (runCommands .portable
      [(.faultless errorText, .pauseServices fun _ => ⟨true, true, true, true, [⟨true, true⟩]⟩),
        (.faultless errorText, .resumeServices)] stopped).machine.services "Spooler" =
      some serviceRunning := by
  intro stopped
  let pause : Env Call × CliCommand :=
    (.faultless errorText, .pauseServices fun _ => ⟨true, true, true, true, [⟨true, true⟩]⟩)
  have hpause : ∀ q ∈ [pause], ∀ name ∉ targetTier3Services,
      .service name ∉ q.2.writes stopped.storageDir := by
    intro q hq name hname hwrites
    rw [List.mem_singleton.mp hq] at hwrites
    obtain ⟨other, hother, heq⟩ := hwrites
    cases heq
    exact hname hother
  have hservices := (resume_services_iff .portable errorText [pause] stopped hpause).1 "Spooler"
  rw [if_pos (by decide)] at hservices
  exact hservices

end ValOpt
