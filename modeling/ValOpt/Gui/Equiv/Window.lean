import ValOpt.Gui.Desk
import ValOpt.Server.Equiv.Admission

/-!
# What a response changes in the window

The callbacks deal with each response that a request admits: the process ends by a launch, or the
window shows what the response says, and nothing else changes (`respond_expected`).  The message
after a response is none of a test under way.
-/

namespace ValOpt

/-! ### The last value -/

section LastSome

variable {α β : Type*} (f : α → Option β)

/-- The last value that the elements have. -/
def lastSome (l : List α) : Option β := l.reverse.findSome? f

@[simp] theorem lastSome_nil : lastSome f [] = none := rfl

@[simp] theorem lastSome_concat (l : List α) (a : α) :
    lastSome f (l ++ [a]) = (f a).or (lastSome f l) := by
  unfold lastSome
  rw [List.reverse_append, List.reverse_singleton, List.singleton_append, List.findSome?_cons]
  cases f a <;> rfl

end LastSome

variable {F V : Type} (t : Texts F V)

/-! ### What a response shows -/

/-- A call made for the action may return the response. -/
def Action.Expects (action : Action) (r : IpcResponse F V) : Prop :=
  (action.request t).Admits r ∨ ∃ e, r = .error "INVALID_REQUEST" e

/-- The figures of a bufferbloat test. -/
def Window.figures (w : Window) : String × String × String × String :=
  (w.unloadedPing, w.loadedPing, w.bufferbloatDelta, w.bufferbloatGrade)

/-- A test is shown as running. -/
def Window.ShowsRunning (w : Window) : Action → Prop
  | .bufferbloat =>
    w.testStatusMsg = "Executing saturating UDP/TCP bufferbloat diagnostics..."
  | .latency => w.testStatusMsg = "Capturing ETW kernel DPC/ISR events for 1.0s..."
  | _ => False

namespace Action

/-- The status after a commit or a rollback. -/
def dpcStatus : Action → IpcResponse F V → Option String
  | .apply, .optimizationSuccess .. => some "OPTIMAL (< 80µs)"
  | .rollback, .rollbackSuccess _ => some "DEFAULT (Unoptimized)"
  | _, _ => none

/-- The figures of a report. -/
def figures : Action → IpcResponse F V → Option (String × String × String × String)
  | .bufferbloat, .bufferbloatReport report =>
    some (s!"{t.tenths report.unloadedPingMs} ms", s!"{t.tenths report.loadedPingMs} ms",
      s!"+{t.tenths report.bufferbloatDeltaMs} ms", report.grade.debug)
  | _, _ => none

/-- The driver of the longest DPC, if the report has one. -/
def dpcDriver : Action → IpcResponse F V → Option String
  | .latency, .latencyReport report =>
    report.highestDpcDriver.map fun driver => s!"{driver} ({report.highestDpcUs}µs)"
  | _, _ => none

/-- The driver of the longest ISR, if the report has one. -/
def isrDriver : Action → IpcResponse F V → Option String
  | .latency, .latencyReport report =>
    report.highestIsrDriver.map fun driver => s!"{driver} ({report.highestIsrUs}µs)"
  | _, _ => none

/-- The response ends the process. -/
def Unloads (action : Action) (r : IpcResponse F V) : Prop :=
  action = .launch ∧ ∃ message, r = .gameLaunchAcknowledged message

end Action

/-- What becomes of the window by a response. -/
structure Window.Reflects (action : Action) (r : IpcResponse F V) (w w' : Window) : Prop where
  unload : w'.unloadGuiOnLaunch = w.unloadGuiOnLaunch
  dpcStatus : w'.dpcStatus = (action.dpcStatus r).getD w.dpcStatus
  figures : w'.figures = (action.figures t r).getD w.figures
  dpcDriver : w'.highestDpcDriver = (action.dpcDriver r).getD w.highestDpcDriver
  isrDriver : w'.highestIsrDriver = (action.isrDriver r).getD w.highestIsrDriver
  running : (∃ test, w'.ShowsRunning test) →
    w'.testStatusMsg = w.testStatusMsg ∧ action ≠ .bufferbloat ∧ action ≠ .latency

theorem prefix_append (p e : String) : p.toList <+: (p ++ e).toList := by
  rw [String.toList_append]
  exact List.prefix_append ..

/-- A message that starts in another way is none of a test under way. -/
theorem not_showsRunning {w : Window} {p : String} (hw : p.toList <+: w.testStatusMsg.toList)
    (hexecuting : ¬p.toList <+:
      "Executing saturating UDP/TCP bufferbloat diagnostics...".toList)
    (hcapturing : ¬p.toList <+: "Capturing ETW kernel DPC/ISR events for 1.0s...".toList) :
    ¬∃ test, w.ShowsRunning test := by
  rintro ⟨test, htest⟩
  cases test
  case bufferbloat => exact hexecuting (htest ▸ hw)
  case latency => exact hcapturing (htest ▸ hw)
  all_goals exact htest

theorem showsRunning_bufferbloat {w : Window} {test : Action}
    (h : w.runBufferbloatClicked.ShowsRunning test) : test = .bufferbloat := by
  cases test
  case bufferbloat => rfl
  case latency =>
    have heq : "Executing saturating UDP/TCP bufferbloat diagnostics..." =
        "Capturing ETW kernel DPC/ISR events for 1.0s..." := h
    exact absurd heq (by decide)
  all_goals exact h.elim

theorem showsRunning_latency {w : Window} {test : Action}
    (h : w.runLatencyProfileClicked.ShowsRunning test) : test = .latency := by
  cases test
  case latency => rfl
  case bufferbloat =>
    have heq : "Capturing ETW kernel DPC/ISR events for 1.0s..." =
        "Executing saturating UDP/TCP bufferbloat diagnostics..." := h
    exact absurd heq (by decide)
  all_goals exact h.elim

variable {t}

/-- An error changes just the message. -/
theorem reflects_error {w : Window} {action : Action} {code e p m : String}
    (hp : p.toList <+: m.toList)
    (hexecuting : ¬p.toList <+:
      "Executing saturating UDP/TCP bufferbloat diagnostics...".toList)
    (hcapturing : ¬p.toList <+: "Capturing ETW kernel DPC/ISR events for 1.0s...".toList) :
    w.Reflects t action (.error code e) { w with testStatusMsg := m } := by
  refine ⟨rfl, ?_, ?_, ?_, ?_, fun h => absurd h (not_showsRunning hp hexecuting hcapturing)⟩
  all_goals cases action <;> rfl

/-- **A callback deals with every response that it may get**: the process ends by a launch, or the
window reflects the response. -/
theorem respond_expected {action : Action} {r : IpcResponse F V} (h : action.Expects t r)
    {w : Window} (hunload : w.unloadGuiOnLaunch = true) (hnew : action = .status →
      w.dpcStatus = Window.new.dpcStatus ∧ w.bufferbloatGrade = Window.new.bufferbloatGrade) :
    (action.Unloads r ∧ w.respond t action r = none) ∨
      ¬action.Unloads r ∧ ∃ w', w.respond t action r = some w' ∧ w.Reflects t action r w' := by
  by_cases herror : ∃ code e, r = .error code e
  · obtain ⟨code, e, rfl⟩ := herror
    refine Or.inr ⟨by simp [Action.Unloads], ?_⟩
    cases action
    case status =>
      exact ⟨w, rfl, rfl, rfl, rfl, rfl, rfl, fun _ => ⟨rfl, by simp, by simp⟩⟩
    case launch =>
      exact ⟨_, rfl, reflects_error (prefix_append "Launch failed: " _) (by decide) (by decide)⟩
    case apply =>
      exact ⟨_, rfl, reflects_error (prefix_append "Commit failed: " _) (by decide) (by decide)⟩
    case rollback =>
      exact ⟨_, rfl, reflects_error (prefix_append "Rollback failed: " _) (by decide) (by decide)⟩
    case bufferbloat =>
      exact ⟨_, rfl, reflects_error (prefix_append "Bufferbloat diagnostic failed: " _)
        (by decide) (by decide)⟩
    case latency =>
      exact ⟨_, rfl, reflects_error (prefix_append "Latency profiling failed: " _)
        (by decide) (by decide)⟩
  have hadmits : (action.request t).Admits r := by
    refine h.resolve_right ?_
    rintro ⟨e, rfl⟩
    exact herror ⟨_, e, rfl⟩
  cases action <;> cases hadmits <;> try exact absurd ⟨_, _, rfl⟩ herror
  case status.status running profile =>
    obtain ⟨hdpc, hgrade⟩ := hnew rfl
    refine Or.inr ⟨by simp [Action.Unloads], _, rfl, rfl, hdpc.symm, ?_, rfl, rfl,
      fun _ => ⟨rfl, by simp, by simp⟩⟩
    show (_, _, _, _) = w.figures
    rw [Window.figures, hgrade]
    rfl
  case launch.launched message =>
    refine Or.inl ⟨⟨rfl, message, rfl⟩, ?_⟩
    simp only [Window.respond, triggerLaunchAndUnload, hunload, if_true, Window.launchClicked]
  case apply.applied =>
    refine Or.inr ⟨by simp [Action.Unloads], _, rfl, rfl, rfl, rfl, rfl, rfl, fun htest => ?_⟩
    refine absurd htest (not_showsRunning (p := "P") ?_ (by decide) (by decide))
    show "P".toList <+: "Profile successfully committed to system.".toList
    decide
  case rollback.rolledBack message =>
    refine Or.inr ⟨by simp [Action.Unloads], _, rfl, rfl, rfl, rfl, rfl, rfl, fun htest => ?_⟩
    refine absurd htest (not_showsRunning (p := "S") ?_ (by decide) (by decide))
    show "S".toList <+:
      "System successfully rolled back to baseline configuration.".toList
    decide
  case bufferbloat.bufferbloat report =>
    refine Or.inr ⟨by simp [Action.Unloads], _, rfl, rfl, rfl, rfl, rfl, rfl, fun htest => ?_⟩
    refine absurd htest (not_showsRunning (p := "B") ?_ (by decide) (by decide))
    show "B".toList <+: "Bufferbloat analysis completed successfully.".toList
    decide
  case latency.latency report =>
    refine Or.inr ⟨by simp [Action.Unloads], _, rfl, rfl, rfl, rfl, rfl, rfl, fun htest => ?_⟩
    refine absurd htest (not_showsRunning (p := "ETW profile complete. ") ?_ (by decide)
      (by decide))
    exact (prefix_append _ _).trans ((prefix_append _ _).trans (prefix_append _ _))

end ValOpt
