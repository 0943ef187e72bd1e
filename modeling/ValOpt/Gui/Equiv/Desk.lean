import ValOpt.Gui.Equiv.Window
import ValOpt.Server.Equiv.Genuine

/-!
# What the window shows

Whatever happens between the interface and the daemon, each call of the interface returns a response
of its own request, so that no callback meets an unexpected one.  What the window shows of a kind is
therefore what the last response of that kind said, or what it was built with; the four figures of
a bufferbloat test always belong together.  A test that is shown as running is awaited, and the
process ends just when the window is closed, by a launch or a handler that dies (`window_shows`).
-/

namespace ValOpt

open Effect

variable {F V : Type} {t : Texts F V}

/-! ### The exchange -/

variable {P : Platform} {w : Wire F}

/-- A response that the handler of a request gave is one that the request admits. -/
theorem ExchangeEvent.Answers.admits {party : Party} {i : ℕ} {request : IpcRequest F}
    {r : IpcResponse F w.Value} {e : ExchangeEvent F w.Value} {s : Exchange F w.Value}
    (h : e.Answers P w party i request r s) : request.Admits r := by
  cases party <;> cases e <;> try exact h.elim
  case daemon.handles a =>
    obtain ⟨elevated, d, -, hrun⟩ := h
    exact admits_of_returned hrun
  case gui.fallsBack j a =>
    obtain ⟨-, d, hrun⟩ := h
    exact admits_of_returned hrun

theorem Exchange.admits_of_exec {daemon gui : Daemon} {loop : Bool} {requests : ℕ → IpcRequest F}
    {es : List (ExchangeEvent F w.Value)} {s : Exchange F w.Value}
    (hexec : exec (Exchange.step P w) es (.start daemon gui loop requests) = some s) {i : ℕ}
    {r : IpcResponse F w.Value} (hphase : (s.calls i).phase = .returned r) :
    (requests i).Admits r ∨ ∃ e, r = .error "INVALID_REQUEST" e := by
  rcases (genuine_exec hexec).answered hphase with ⟨-, h⟩ | ⟨-, -, h⟩ | ⟨-, -, h⟩
  · obtain ⟨e, t, hanswers⟩ := h.exists_step
    exact Or.inl hanswers.admits
  · obtain ⟨e, t, hanswers⟩ := h.exists_step
    exact Or.inl hanswers.admits
  · exact Or.inr h

/-- A step leaves the calls of others in their phases. -/
theorem Exchange.phase_step {e : ExchangeEvent F w.Value} {s s' : Exchange F w.Value}
    (hstep : Exchange.step P w e s = some s') {j : ℕ} (hj : e.caller ≠ some j) :
    (s'.calls j).phase = (s.calls j).phase := by
  have hset : ∀ i phase, e.caller = some i →
      ((s.setPhase i phase).calls j).phase = (s.calls j).phase := by
    intro i phase hi
    have hji : j ≠ i := by
      rintro rfl
      exact hj hi
    show (Function.update s.calls i _ j).phase = _
    rw [Function.update_of_ne hji]
  cases e <;> simp only [Exchange.step] at hstep
  case replies delivered =>
    split at hstep
    · next i response shutdown _ =>
      cases hstep
      by_cases hji : j = i
      · subst hji
        show (Function.update s.calls j _ j).phase = _
        rw [Function.update_self]
      · show (Function.update s.calls i _ j).phase = _
        rw [Function.update_of_ne hji]
    · cases hstep
  all_goals
    repeat' split at hstep
    all_goals cases hstep <;> first | rfl | exact hset _ _ rfl

/-- What a call returned stays. -/
theorem Exchange.phase_step_returned {e : ExchangeEvent F w.Value} {s s' : Exchange F w.Value}
    (hstep : Exchange.step P w e s = some s') {j : ℕ} {r : IpcResponse F w.Value}
    (hphase : (s.calls j).phase = .returned r) : (s'.calls j).phase = .returned r := by
  by_cases hj : e.caller = some j
  · cases e <;> simp only [ExchangeEvent.caller, Option.some.injEq, reduceCtorEq] at hj
    all_goals
      subst hj
      simp [Exchange.step, hphase] at hstep
  · rw [phase_step hstep hj, hphase]

/-! ### States -/

namespace Desk

variable {s : Desk F V}

/-- The threads of the interface: each call is awaited once, the callbacks of the tests do not wait
themselves, and the first response is that to `initialize_telemetry`. -/
structure Threads (s : Desk F V) : Prop where
  nodup : s.awaited.Nodup
  tests : ∀ i ∈ s.tests, s.actions i = .bufferbloat ∨ s.actions i = .latency
  waits : ∀ i, s.thread = .waiting i → s.actions i ≠ .bufferbloat ∧ s.actions i ≠ .latency
  first : (s.thread = .created ∨ ∃ i, s.thread = .waiting i ∧ s.actions i = .status) →
    s.delivered = []
  exited : s.thread = .exited → s.tests = []

/-- What the window shows is what the last response of each kind said, or what it was built with.  A
test that is shown as running is awaited.  The process has ended just if the window was closed, a
launch was acknowledged, or a handler in it died. -/
structure Shows (t : Texts F V) (s : Desk F V) : Prop where
  expected : ∀ d ∈ s.delivered, (s.actions d.call).Expects t d.response
  dpcStatus : s.window.dpcStatus = (lastSome (fun d => (s.actions d.call).dpcStatus d.response)
    s.delivered).getD Window.new.dpcStatus
  figures : s.window.figures = (lastSome (fun d => (s.actions d.call).figures t d.response)
    s.delivered).getD Window.new.figures
  dpcDriver : s.window.highestDpcDriver = (lastSome (fun d =>
    (s.actions d.call).dpcDriver d.response) s.delivered).getD Window.new.highestDpcDriver
  isrDriver : s.window.highestIsrDriver = (lastSome (fun d =>
    (s.actions d.call).isrDriver d.response) s.delivered).getD Window.new.highestIsrDriver
  unload : s.window.unloadGuiOnLaunch = true
  running : s.thread ≠ .exited → ∀ test, s.window.ShowsRunning test →
    ∃ i ∈ s.tests, s.actions i = test
  exits : s.thread = .exited ↔
    s.closed = true ∨ (∃ d ∈ s.delivered, (s.actions d.call).Unloads d.response) ∨
      ∃ i, (s.exchange.calls i).phase = .died

/-- The window that reflects a response shows it. -/
theorem Shows.deliver {t : Texts F V} (h : s.Shows t) (hthreads : s.Threads) {i : ℕ}
    {r : IpcResponse F V} (hawaited : s.thread = .waiting i ∨ s.thread = .idle ∧ i ∈ s.tests)
    (hr : (s.actions i).Expects t r) : (s.deliver t i r).Shows t := by
  have hnew : s.actions i = .status → s.window.dpcStatus = Window.new.dpcStatus ∧
      s.window.bufferbloatGrade = Window.new.bufferbloatGrade := by
    intro hstatus
    have hnil : s.delivered = [] := by
      refine hthreads.first (Or.inr ⟨i, hawaited.resolve_right ?_, hstatus⟩)
      rintro ⟨-, hi⟩
      rcases hthreads.tests i hi with htest | htest <;> rw [htest] at hstatus <;> cases hstatus
    have hfigures := h.figures
    have hdpc := h.dpcStatus
    rw [hnil] at hfigures hdpc
    exact ⟨hdpc, congrArg (·.2.2.2) hfigures⟩
  have hdelivered : ∀ d ∈ s.delivered ++ [⟨i, r⟩], (s.actions d.call).Expects t d.response := by
    intro d hd
    rcases List.mem_append.mp hd with hd | hd
    · exact h.expected d hd
    · rw [List.mem_singleton.mp hd]
      exact hr
  have hlive : s.thread ≠ .exited := by
    rcases hawaited with hwaiting | ⟨hidle, -⟩
    · rw [hwaiting]
      simp
    · rw [hidle]
      simp
  rcases respond_expected hr h.unload hnew with ⟨hunloads, hrespond⟩ | ⟨hstays, w', hrespond, hw'⟩
  · have hdeliver : s.deliver t i r =
        ({ s with delivered := s.delivered ++ [⟨i, r⟩] } : Desk F V).exit := by
      unfold Desk.deliver
      dsimp only
      rw [hrespond]
    obtain ⟨hlaunch, message, rfl⟩ := id hunloads
    rw [hdeliver]
    refine ⟨hdelivered, ?_, ?_, ?_, ?_, h.unload, fun hexited => absurd rfl hexited, ?_⟩
    · show s.window.dpcStatus = _
      rw [exit, lastSome_concat, hlaunch]
      exact h.dpcStatus
    · show s.window.figures = _
      rw [exit, lastSome_concat, hlaunch]
      exact h.figures
    · show s.window.highestDpcDriver = _
      rw [exit, lastSome_concat, hlaunch]
      exact h.dpcDriver
    · show s.window.highestIsrDriver = _
      rw [exit, lastSome_concat, hlaunch]
      exact h.isrDriver
    · exact iff_of_true rfl (Or.inr (Or.inl ⟨_, List.mem_concat_self, hunloads⟩))
  · have hdeliver : s.deliver t i r = { s with
        delivered := s.delivered ++ [⟨i, r⟩], window := w', thread := .idle
        tests := s.tests.erase i } := by
      unfold Desk.deliver
      dsimp only
      rw [hrespond]
    rw [hdeliver]
    refine ⟨hdelivered, ?_, ?_, ?_, ?_, hw'.unload.trans h.unload, fun _ test htest => ?_, ?_⟩
    · rw [lastSome_concat, Option.getD_or, ← h.dpcStatus]
      exact hw'.dpcStatus
    · rw [lastSome_concat, Option.getD_or, ← h.figures]
      exact hw'.figures
    · rw [lastSome_concat, Option.getD_or, ← h.dpcDriver]
      exact hw'.dpcDriver
    · rw [lastSome_concat, Option.getD_or, ← h.isrDriver]
      exact hw'.isrDriver
    · -- the message is the one from before, and the call is that of no test
      obtain ⟨hmessage, hbufferbloat, hlatency⟩ := hw'.running ⟨test, htest⟩
      have hbefore : s.window.ShowsRunning test := by
        cases test <;> simp only [Window.ShowsRunning] at htest ⊢ <;>
          rwa [← hmessage]
      obtain ⟨j, hj, htest⟩ := h.running hlive test hbefore
      refine ⟨j, List.mem_erase_of_ne ?_ |>.mpr hj, htest⟩
      rintro rfl
      rcases hthreads.tests j hj with haction | haction
      · exact hbufferbloat haction
      · exact hlatency haction
    · refine iff_of_false (by simp) ?_
      have hbefore := mt h.exits.mpr hlive
      rintro (hclosed | ⟨d, hd, hunloads⟩ | hdied)
      · exact hbefore (Or.inl hclosed)
      · rcases List.mem_append.mp hd with hd | hd
        · exact hbefore (Or.inr (Or.inl ⟨d, hd, hunloads⟩))
        · rw [List.mem_singleton.mp hd] at hunloads
          exact hstays hunloads
      · exact hbefore (Or.inr (Or.inr hdied))

/-- The end of the process leaves no thread. -/
theorem threads_exit (s : Desk F V) : s.exit.Threads := by
  refine ⟨List.nodup_nil, fun i hi => absurd hi List.not_mem_nil, ?_, ?_, fun _ => rfl⟩
  · rintro i ⟨⟩
  · rintro (hcreated | ⟨i, hwaiting, -⟩)
    · cases hcreated
    · cases hwaiting

theorem Threads.deliver {t : Texts F V} (h : s.Threads) (i : ℕ) (r : IpcResponse F V) :
    (s.deliver t i r).Threads := by
  unfold Desk.deliver
  dsimp only
  cases s.window.respond t (s.actions i) r with
  | none => exact threads_exit _
  | some w' =>
    have hsub : (s.tests.erase i).Sublist s.awaited := by
      unfold awaited
      split
      · exact List.erase_sublist.trans (List.sublist_cons_self _ _)
      · exact List.erase_sublist
    refine ⟨h.nodup.sublist hsub, fun j hj => h.tests j (List.mem_of_mem_erase hj), ?_, ?_, ?_⟩
    · rintro j ⟨⟩
    · rintro (hcreated | ⟨j, hwaiting, -⟩)
      · cases hcreated
      · cases hwaiting
    · rintro ⟨⟩

/-- A click awaits a new call. -/
theorem Threads.click {s' : Desk F V} (h : s.Threads) (hidle : s.thread = .idle) {i : ℕ}
    (hnew : i ∉ s.awaited) (hclick : s.click i = some s') : s'.Threads := by
  have hawaited : s.awaited = s.tests := by
    rw [awaited, hidle]
  rw [hawaited] at hnew
  have hnodup : s.tests.Nodup := hawaited ▸ h.nodup
  have htest : s.actions i = .bufferbloat ∨ s.actions i = .latency → ∀ window : Window,
      Threads { s with window := window, tests := s.tests ++ [i] } := by
    intro haction window
    refine ⟨?_, fun j hj => ?_, h.waits, h.first, fun hexited => ?_⟩
    · show (awaited { s with window := window, tests := s.tests ++ [i] }).Nodup
      simp only [awaited, hidle]
      exact List.nodup_append.mpr ⟨hnodup, List.nodup_singleton i, by
        rintro j hj k hk rfl
        exact hnew (List.mem_singleton.mp hk ▸ hj)⟩
    · rcases List.mem_append.mp hj with hj | hj
      · exact h.tests j hj
      · rwa [List.mem_singleton.mp hj]
    · exact absurd (hidle.symm.trans hexited) (by simp)
  have hwait : s.actions i ≠ .bufferbloat ∧ s.actions i ≠ .latency → s.actions i ≠ .status →
      Threads { s with thread := .waiting i } := by
    rintro haction hstatus
    refine ⟨List.nodup_cons.mpr ⟨hnew, hnodup⟩, h.tests, ?_, ?_, ?_⟩
    · rintro j ⟨⟩
      exact haction
    · rintro (hcreated | ⟨j, hwaiting, hj⟩)
      · cases hcreated
      · cases hwaiting
        exact absurd hj hstatus
    · rintro ⟨⟩
  unfold Desk.click at hclick
  split at hclick <;> cases hclick
  case h_2 haction => exact htest (Or.inl haction) _
  case h_3 haction => exact htest (Or.inr haction) _
  all_goals next haction => exact hwait (by simp [haction]) (by simp [haction])

theorem Shows.click {t : Texts F V} {s' : Desk F V} (h : s.Shows t) (hidle : s.thread = .idle)
    {i : ℕ} (hclick : s.click i = some s') : s'.Shows t := by
  have hlive : s.thread ≠ .exited := by
    rw [hidle]
    simp
  have hbefore := mt h.exits.mpr hlive
  -- the message is of the test that is started
  have htest : ∀ window : Window, (∃ message, window = { s.window with testStatusMsg := message } ∧
      ∀ test, window.ShowsRunning test → s.actions i = test) →
      Shows t { s with window := window, tests := s.tests ++ [i] } := by
    rintro window ⟨message, rfl, hmessage⟩
    refine ⟨h.expected, h.dpcStatus, h.figures, h.dpcDriver, h.isrDriver, h.unload, ?_, h.exits⟩
    exact fun _ test hshows => ⟨i, List.mem_concat_self, hmessage test hshows⟩
  have hwait : Shows t { s with thread := .waiting i } :=
    ⟨h.expected, h.dpcStatus, h.figures, h.dpcDriver, h.isrDriver, h.unload,
      fun _ => h.running hlive, iff_of_false (by simp) hbefore⟩
  unfold Desk.click at hclick
  split at hclick <;> cases hclick
  case h_2 haction =>
    exact htest _ ⟨_, rfl, fun test hshows => haction.trans (showsRunning_bufferbloat hshows).symm⟩
  case h_3 haction =>
    exact htest _ ⟨_, rfl, fun test hshows => haction.trans (showsRunning_latency hshows).symm⟩
  all_goals exact hwait

/-- An interface that has ended awaits nothing. -/
theorem Threads.live (h : s.Threads) {i : ℕ} (hi : i ∈ s.awaited) : s.thread ≠ .exited := by
  intro hexited
  rw [awaited, hexited] at hi
  dsimp only at hi
  rw [h.exited hexited] at hi
  cases hi

/-- A step of the exchange. -/
theorem Threads.afterStep (h : s.Threads) (e : ExchangeEvent F V) (x : Exchange F V) :
    (s.afterStep e x).Threads := by
  have hsame : Threads { s with exchange := x } := ⟨h.nodup, h.tests, h.waits, h.first, h.exited⟩
  unfold Desk.afterStep
  split
  · split
    · exact threads_exit _
    · exact hsame
  · exact hsame

theorem Shows.afterStep {t : Texts F w.Value} {s : Desk F w.Value} (h : s.Shows t)
    (hthreads : s.Threads) {e : ExchangeEvent F w.Value} {x : Exchange F w.Value}
    (hcaller : ∀ i ∈ e.caller, i ∈ s.awaited)
    (hstep : Exchange.step P w e s.exchange = some x) : (s.afterStep e x).Shows t := by
  have hsame : (s.thread = .exited ↔ s.closed = true ∨
      (∃ d ∈ s.delivered, (s.actions d.call).Unloads d.response) ∨
        ∃ i, (x.calls i).phase = .died) → Shows t { s with exchange := x } :=
    fun hexits => ⟨h.expected, h.dpcStatus, h.figures, h.dpcDriver, h.isrDriver, h.unload,
      h.running, hexits⟩
  unfold Desk.afterStep
  split
  · next i hi =>
    have hlive := hthreads.live (hcaller i hi)
    have hbefore := mt h.exits.mpr hlive
    split
    · next hdied =>
      exact ⟨h.expected, h.dpcStatus, h.figures, h.dpcDriver, h.isrDriver, h.unload,
        fun hexited => absurd rfl hexited, iff_of_true rfl (Or.inr (Or.inr ⟨i, hdied⟩))⟩
    · next hphase =>
      apply hsame
      refine iff_of_false hlive ?_
      rintro (hclosed | hunloads | ⟨j, hdied⟩)
      · exact hbefore (Or.inl hclosed)
      · exact hbefore (Or.inr (Or.inl hunloads))
      · by_cases hji : j = i
        · rw [hji] at hdied
          exact hphase hdied
        · have hother : e.caller ≠ some j := by
            rw [hi, ne_eq, Option.some.injEq]
            exact fun hij => hji hij.symm
          rw [Exchange.phase_step hstep hother] at hdied
          exact hbefore (Or.inr (Or.inr ⟨j, hdied⟩))
  · next hnone =>
    apply hsame
    have hphase : ∀ j, (x.calls j).phase = (s.exchange.calls j).phase :=
      fun j => Exchange.phase_step hstep (by simp [hnone])
    simp only [hphase]
    exact h.exits

/-- The start of `initialize_telemetry`. -/
theorem Threads.initialized (h : s.Threads) (hcreated : s.thread = .created) {i : ℕ}
    (hstatus : s.actions i = .status) (hnew : i ∉ s.awaited) (window : Window) :
    Threads { s with window := window, thread := .waiting i } := by
  have hawaited : s.awaited = s.tests := by
    rw [awaited, hcreated]
  rw [hawaited] at hnew
  refine ⟨List.nodup_cons.mpr ⟨hnew, hawaited ▸ h.nodup⟩, h.tests, ?_, ?_, ?_⟩
  · rintro j ⟨⟩
    exact ⟨by simp [hstatus], by simp [hstatus]⟩
  · exact fun _ => h.first (Or.inl hcreated)
  · rintro ⟨⟩

theorem Shows.initialized {t : Texts F V} (h : s.Shows t) (hcreated : s.thread = .created)
    (manifest : Except String FullSystemManifest) (i : ℕ) :
    Shows t { s with window := s.window.showManifest manifest, thread := .waiting i } := by
  have hlive : s.thread ≠ .exited := by
    rw [hcreated]
    simp
  have hbefore := mt h.exits.mpr hlive
  cases manifest
  all_goals
    exact ⟨h.expected, h.dpcStatus, h.figures, h.dpcDriver, h.isrDriver, h.unload,
      fun _ => h.running hlive, iff_of_false (by simp) hbefore⟩

theorem not_mem_awaited {i : ℕ} (h : s.isNew i = true) : i ∉ s.awaited := by
  unfold isNew at h
  split at h
  · exact of_decide_eq_true h
  · cases h

/-! ### Responses -/

/-- Each response is the one that its call returned, and is dealt with once. -/
structure Settled (s : Desk F V) : Prop where
  returned : ∀ d ∈ s.delivered, (s.exchange.calls d.call).phase = .returned d.response
  once : (s.delivered.map (·.call) ++ s.awaited).Nodup

/-- A call that has not begun has no response. -/
theorem Settled.nodup_new (h : s.Settled) {i : ℕ} (hnew : s.isNew i = true) {awaited : List ℕ}
    (hperm : awaited.Perm (i :: s.awaited)) :
    (s.delivered.map (·.call) ++ awaited).Nodup := by
  have hundelivered : i ∉ s.delivered.map (·.call) := by
    intro hmem
    obtain ⟨d, hd, rfl⟩ := List.mem_map.mp hmem
    rw [isNew, h.returned d hd] at hnew
    cases hnew
  rw [(hperm.append_left _).nodup_iff, List.nodup_middle]
  refine List.nodup_cons.mpr ⟨fun hmem => ?_, h.once⟩
  rcases List.mem_append.mp hmem with hmem | hmem
  · exact hundelivered hmem
  · exact not_mem_awaited hnew hmem

theorem Settled.deliver {t : Texts F V} (h : s.Settled) {i : ℕ} {r : IpcResponse F V}
    (hawaited : s.thread = .waiting i ∨ s.thread = .idle ∧ i ∈ s.tests)
    (hphase : (s.exchange.calls i).phase = .returned r) : (s.deliver t i r).Settled := by
  have hreturned : ∀ d ∈ s.delivered ++ [⟨i, r⟩],
      (s.exchange.calls d.call).phase = .returned d.response := by
    intro d hd
    rcases List.mem_append.mp hd with hd | hd
    · exact h.returned d hd
    · rw [List.mem_singleton.mp hd]
      exact hphase
  have hperm : s.awaited.Perm (i :: s.tests.erase i) := by
    rcases hawaited with hwaiting | ⟨hidle, hi⟩
    · have heq : s.awaited = i :: s.tests := by
        rw [awaited, hwaiting]
      have hnodup := (List.nodup_append.mp h.once).2.1
      rw [heq] at hnodup ⊢
      rw [List.erase_of_not_mem (List.nodup_cons.mp hnodup).1]
    · have heq : s.awaited = s.tests := by
        rw [awaited, hidle]
      rw [heq]
      exact List.perm_cons_erase hi
  have honce : ((s.delivered ++ [⟨i, r⟩] : List (Receipt F V)).map (·.call) ++
      s.tests.erase i).Nodup := by
    rw [List.map_append, List.append_assoc]
    exact (hperm.append_left _).nodup_iff.mp h.once
  unfold Desk.deliver
  dsimp only
  cases s.window.respond t (s.actions i) r with
  | none => exact ⟨hreturned, honce.sublist (List.Sublist.append_left (List.nil_sublist _) _)⟩
  | some w' => exact ⟨hreturned, honce⟩

theorem Settled.click {s' : Desk F V} (h : s.Settled) (hidle : s.thread = .idle) {i : ℕ}
    (hnew : s.isNew i = true) (hclick : s.click i = some s') : s'.Settled := by
  have hawaited : s.awaited = s.tests := by
    rw [awaited, hidle]
  have htest : ∀ window : Window,
      Settled { s with window := window, tests := s.tests ++ [i] } := by
    refine fun window => ⟨h.returned, h.nodup_new hnew ?_⟩
    simp only [awaited, hidle]
    exact List.perm_append_singleton ..
  have hwait : Settled { s with thread := .waiting i } := by
    refine ⟨h.returned, h.nodup_new hnew ?_⟩
    rw [hawaited]
    exact List.Perm.refl _
  unfold Desk.click at hclick
  split at hclick <;> cases hclick
  case h_2 => exact htest _
  case h_3 => exact htest _
  all_goals exact hwait

theorem Settled.initialized (h : s.Settled) (hcreated : s.thread = .created) {i : ℕ}
    (hnew : s.isNew i = true) (window : Window) :
    Settled { s with window := window, thread := .waiting i } := by
  have hawaited : s.awaited = s.tests := by
    rw [awaited, hcreated]
  refine ⟨h.returned, h.nodup_new hnew ?_⟩
  rw [hawaited]
  exact List.Perm.refl _

theorem Settled.afterStep {s : Desk F w.Value} (h : s.Settled) {e : ExchangeEvent F w.Value}
    {x : Exchange F w.Value} (hstep : Exchange.step P w e s.exchange = some x) :
    (s.afterStep e x).Settled := by
  have hreturned : ∀ d ∈ s.delivered, (x.calls d.call).phase = .returned d.response :=
    fun d hd => Exchange.phase_step_returned hstep (h.returned d hd)
  have hexit : Settled (exit { s with exchange := x }) :=
    ⟨hreturned, h.once.sublist (List.Sublist.append_left (List.nil_sublist _) _)⟩
  unfold Desk.afterStep
  split
  · split
    · exact hexit
    · exact ⟨hreturned, h.once⟩
  · exact ⟨hreturned, h.once⟩

/-! ### Runs -/

theorem Shows.closed {t : Texts F V} (h : s.Shows t) : Shows t { s.exit with closed := true } :=
  ⟨h.expected, h.dpcStatus, h.figures, h.dpcDriver, h.isrDriver, h.unload,
    fun hexited => absurd rfl hexited, iff_of_true rfl (Or.inl rfl)⟩

theorem Threads.closed (h : s.exit.Threads) : Threads { s.exit with closed := true } :=
  ⟨h.nodup, h.tests, h.waits, h.first, h.exited⟩

theorem Settled.closed (h : s.Settled) : Settled { s.exit with closed := true } :=
  ⟨h.returned, h.once.sublist (List.Sublist.append_left (List.nil_sublist _) _)⟩

/-- **What a step keeps.** -/
theorem Shows.step {t : Texts F w.Value} {s s' : Desk F w.Value} {e : DeskEvent F w.Value}
    (h : s.Shows t) (hthreads : s.Threads) (hsettled : s.Settled)
    (hexpects : ∀ i r, (s.exchange.calls i).phase = .returned r → (s.actions i).Expects t r)
    (hstep : Desk.step P w t e s = some s') : s'.Shows t ∧ s'.Threads ∧ s'.Settled := by
  cases e <;> simp only [Desk.step] at hstep
  case pipe e =>
    split at hstep
    · next hcaller =>
      obtain ⟨x, hx, rfl⟩ := Option.map_eq_some_iff.mp hstep
      exact ⟨h.afterStep hthreads hcaller hx, hthreads.afterStep e x, hsettled.afterStep hx⟩
    · cases hstep
  case initializes manifest i =>
    split at hstep
    · next hguard =>
      obtain ⟨hcreated, hstatus, hnew⟩ := hguard
      cases hstep
      exact ⟨h.initialized hcreated manifest i,
        hthreads.initialized hcreated hstatus (not_mem_awaited hnew) _,
        hsettled.initialized hcreated hnew _⟩
    · cases hstep
  case clicks i =>
    split at hstep
    · next hguard =>
      obtain ⟨hidle, -, hnew⟩ := hguard
      exact ⟨h.click hidle hstep, hthreads.click hidle (not_mem_awaited hnew) hstep,
        hsettled.click hidle hnew hstep⟩
    · cases hstep
  case returns =>
    split at hstep
    · next i hwaiting =>
      split at hstep
      · next r hphase =>
        cases hstep
        exact ⟨h.deliver hthreads (Or.inl hwaiting) (hexpects i r hphase), hthreads.deliver i r,
          hsettled.deliver (Or.inl hwaiting) hphase⟩
      · cases hstep
    · cases hstep
  case shows i =>
    split at hstep
    · next hguard =>
      split at hstep
      · next r hphase =>
        cases hstep
        exact ⟨h.deliver hthreads (Or.inr hguard) (hexpects i r hphase), hthreads.deliver i r,
          hsettled.deliver (Or.inr hguard) hphase⟩
      · cases hstep
    · cases hstep
  case closes =>
    split at hstep
    · cases hstep
      exact ⟨h.closed, (threads_exit s).closed, hsettled.closed⟩
    · cases hstep

/-- What the exchange sees of a step. -/
def seen : DeskEvent F V → Option (ExchangeEvent F V)
  | .pipe e => some e
  | _ => none

theorem actions_deliver (t : Texts F V) (s : Desk F V) (i : ℕ) (r : IpcResponse F V) :
    (s.deliver t i r).actions = s.actions ∧ (s.deliver t i r).exchange = s.exchange := by
  unfold Desk.deliver
  dsimp only
  cases s.window.respond t (s.actions i) r <;> exact ⟨rfl, rfl⟩

theorem actions_click {s' : Desk F V} {i : ℕ} (h : s.click i = some s') :
    s'.actions = s.actions ∧ s'.exchange = s.exchange := by
  unfold Desk.click at h
  split at h <;> cases h <;> exact ⟨rfl, rfl⟩

theorem actions_afterStep (s : Desk F V) (e : ExchangeEvent F V) (x : Exchange F V) :
    (s.afterStep e x).actions = s.actions ∧ (s.afterStep e x).exchange = x := by
  unfold Desk.afterStep
  split
  · split <;> exact ⟨rfl, rfl⟩
  · exact ⟨rfl, rfl⟩

/-- Just the steps of the exchange change it, and what the calls are made for stays. -/
theorem exchange_step {t : Texts F w.Value} {s s' : Desk F w.Value} {e : DeskEvent F w.Value}
    (hstep : Desk.step P w t e s = some s') : s'.actions = s.actions ∧
      (∀ k, seen e = some k → Exchange.step P w k s.exchange = some s'.exchange) ∧
      (seen e = none → s'.exchange = s.exchange) := by
  cases e <;> simp only [Desk.step] at hstep
  case pipe e =>
    split at hstep
    · obtain ⟨x, hx, rfl⟩ := Option.map_eq_some_iff.mp hstep
      obtain ⟨hactions, hexchange⟩ := actions_afterStep s e x
      refine ⟨hactions, ?_, by simp [seen]⟩
      rintro k ⟨⟩
      rw [hexchange]
      exact hx
    · cases hstep
  case initializes manifest i =>
    split at hstep <;> cases hstep
    exact ⟨rfl, by simp [seen], fun _ => rfl⟩
  case clicks i =>
    split at hstep
    · obtain ⟨hactions, hexchange⟩ := actions_click hstep
      exact ⟨hactions, by simp [seen], fun _ => hexchange⟩
    · cases hstep
  case returns =>
    split at hstep
    · next i _ =>
      split at hstep
      · next r _ =>
        cases hstep
        obtain ⟨hactions, hexchange⟩ := actions_deliver t s i r
        exact ⟨hactions, by simp [seen], fun _ => hexchange⟩
      · cases hstep
    · cases hstep
  case shows i =>
    split at hstep
    · split at hstep
      · next r _ =>
        cases hstep
        obtain ⟨hactions, hexchange⟩ := actions_deliver t s i r
        exact ⟨hactions, by simp [seen], fun _ => hexchange⟩
      · cases hstep
    · cases hstep
  case closes =>
    split at hstep <;> cases hstep
    exact ⟨rfl, by simp [seen], fun _ => rfl⟩

variable {daemon gui : Daemon} {loop headless : Bool} {actions : ℕ → Action} {t : Texts F w.Value}
  {es : List (DeskEvent F w.Value)} {s : Desk F w.Value}

/-- The exchange of a run is a run of the exchange. -/
theorem exec_exchange
    (hexec : exec (Desk.step P w t) es (.start t daemon gui loop headless actions) = some s) :
    exec (Exchange.step P w) (es.filterMap seen)
      (.start daemon gui loop fun i => (actions i).request t) = some s.exchange :=
  exec_view Desk.exchange (fun _ k _ _ hk hstep => (exchange_step hstep).2.1 k hk)
    (fun _ _ _ hnone hstep => (exchange_step hstep).2.2 hnone) hexec

/-- What a run keeps. -/
theorem sound_exec
    (hexec : exec (Desk.step P w t) es (.start t daemon gui loop headless actions) = some s) :
    s.actions = actions ∧ s.Shows t ∧ s.Threads ∧ s.Settled := by
  refine exec_history (I := fun _ s => s.actions = actions ∧ s.Shows t ∧ s.Threads ∧ s.Settled)
    ⟨rfl, ?_, ?_, ?_⟩ ?_ hexec
  · refine ⟨by rintro d ⟨⟩, rfl, rfl, rfl, rfl, rfl, fun _ test htest => ?_, ?_⟩
    · have hready : "D".toList <+: Window.new.testStatusMsg.toList := by decide
      exact absurd ⟨test, htest⟩ (not_showsRunning hready (by decide) (by decide))
    · refine iff_of_false (by simp [Desk.start]) ?_
      rintro (hclosed | ⟨d, ⟨⟩, -⟩ | ⟨i, hdied⟩)
      · cases hclosed
      · cases hdied
  · exact ⟨List.nodup_nil, by rintro i ⟨⟩, by rintro i ⟨⟩, fun _ => rfl, fun _ => rfl⟩
  · exact ⟨by rintro d ⟨⟩, List.nodup_nil⟩
  · rintro es e s s' hpre ⟨hactions, hshows, hthreads, hsettled⟩ hstep
    have hexpects : ∀ i r, (s.exchange.calls i).phase = .returned r →
        (s.actions i).Expects t r := by
      intro i r hphase
      rw [hactions]
      exact Exchange.admits_of_exec (exec_exchange hpre) hphase
    exact ⟨(exchange_step hstep).1.trans hactions, hshows.step hthreads hsettled hexpects hstep⟩

end Desk

/-- **What the window shows.**  The interface and the daemon work in any way, with what is lost or
cut on the pipe, and with handlers that die.  Each response that the interface deals with is the
one that its call returned, is dealt with once, and is of the kind of its request.  What the window
shows of a kind is what the last response of the kind said.  A test that is shown as running is
awaited, and the process has ended just if its `main` returned, a launch was acknowledged or a
handler in it died. -/
theorem window_shows {daemon gui : Daemon} {loop headless : Bool} {actions : ℕ → Action}
    {t : Texts F w.Value} {es : List (DeskEvent F w.Value)} {s : Desk F w.Value}
    (hexec : exec (Desk.step P w t) es (.start t daemon gui loop headless actions) = some s) :
    s.Shows t ∧ s.Settled := by
  obtain ⟨-, hshows, -, hsettled⟩ := Desk.sound_exec hexec
  exact ⟨hshows, hsettled⟩

/-- A test of the network without a daemon, and then the window is closed. -/
def testEvents : List (DeskEvent (Option ℕ) Wire.tenths.Value) :=
  [.initializes (.error "No manifest") 0, .pipe (.opens 0 false), .pipe (.fallsBack 0 .unable),
    .returns, .clicks 1, .pipe (.opens 1 false), .pipe (.fallsBack 1 .unable), .shows 1, .closes]

/-- The test runs in the interface, its error is shown, and the process ends though no launch was
acknowledged. -/
theorem window_shows_error :
    ∃ s : Desk (Option ℕ) Wire.tenths.Value, exec (Desk.step .portable Wire.tenths
      ⟨some 10, fun _ => "", fun _ => ""⟩) testEvents (.start ⟨some 10, fun _ => "", fun _ => ""⟩
        (.start .desktop [] 4) (.start .desktop [] 8) false false fun i =>
          if i = 0 then .status else .bufferbloat) = some s ∧
      s.window.testStatusMsg = "Bufferbloat diagnostic failed: No network" ∧ s.closed = true ∧
      s.thread = .exited ∧ s.delivered.map (·.call) = [0, 1] ∧
      s.Shows ⟨some 10, fun _ => "", fun _ => ""⟩ ∧ s.Settled := by
  have hrun : (exec (Desk.step .portable Wire.tenths ⟨some 10, fun _ => "", fun _ => ""⟩) testEvents
      (.start ⟨some 10, fun _ => "", fun _ => ""⟩ (.start .desktop [] 4) (.start .desktop [] 8)
        false false fun i => if i = 0 then .status else .bufferbloat)).map
          (fun s => (s.window.testStatusMsg, s.closed, s.delivered.map (·.call))) =
        some ("Bufferbloat diagnostic failed: No network", true, [0, 1]) := by
    decide +kernel
  obtain ⟨s, hexec, hend⟩ := Option.map_eq_some_iff.mp hrun
  obtain ⟨hmessage, hclosed, hcalls⟩ : s.window.testStatusMsg = _ ∧ s.closed = _ ∧ _ = _ := by
    simpa only [Prod.mk.injEq] using hend
  obtain ⟨hshows, hsettled⟩ := window_shows hexec
  exact ⟨s, hexec, hmessage, hclosed, hshows.exits.mpr (Or.inl hclosed), hcalls, hshows, hsettled⟩

end ValOpt
