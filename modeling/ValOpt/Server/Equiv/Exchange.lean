import ValOpt.Effect.System
import ValOpt.Server.Interleaving
import ValOpt.Server.Ledger

/-!
# A request is executed once, unless its call fails too late

The exchange keeps its ledger.  Each of the two processes runs the handler of a request at most
once, and so do both together in a run in which no call fails that has reached the daemon.  A call
that fails later may be executed twice.
-/

namespace ValOpt

open Effect Text

variable {F : Type}

/-! ### The ledger of an exchange -/

def CallPhase.stage {V : Type} : CallPhase F V → Stage
  | opening => .opening
  | sending => .sending
  | reading => .reading
  | failed _ => .failed
  | returned _ | died => .done

def LoopPhase.slot {V : Type} : LoopPhase F V → Slot F
  | connecting c | connected c _ => .waiting c
  | handling i request _ => .handling i request
  | down | listening | replying .. => .free

def Exchange.ledger {V : Type} (s : Exchange F V) : Ledger F :=
  ⟨fun i => (s.calls i).phase.stage, fun i => (s.calls i).request, s.loop.slot, s.executions⟩

theorem LoopPhase.slot_deliver {V : Type} (l : LoopPhase F V) (i : ℕ) (bytes : Bytes) :
    (l.deliver i bytes).slot = l.slot.deliver i bytes := by
  cases l <;> rfl

theorem Exchange.ledger_setPhase {V : Type} (s : Exchange F V) (i : ℕ) (phase : CallPhase F V) :
    (s.setPhase i phase).ledger = s.ledger.setStage i phase.stage := by
  have hcalls : ∀ j, ((s.setPhase i phase).calls j).phase.stage =
      Function.update s.ledger.stage i phase.stage j ∧
        ((s.setPhase i phase).calls j).request = (s.calls j).request := by
    intro j
    by_cases hj : j = i
    · subst hj
      simp [setPhase]
    · simp [setPhase, hj, ledger]
  unfold ledger Ledger.setStage
  congr 1
  · funext j
    exact (hcalls j).1
  · funext j
    exact (hcalls j).2

/-- What was sent to a call is not in the ledger. -/
theorem Exchange.ledger_update {V : Type} (s : Exchange F V) {i : ℕ} {c : ClientCall F V}
    (hphase : c.phase = (s.calls i).phase) (hrequest : c.request = (s.calls i).request) :
    ({ s with calls := Function.update s.calls i c } : Exchange F V).ledger = s.ledger := by
  have hcalls : ∀ {α : Type} (f : ClientCall F V → α), f c = f (s.calls i) →
      ∀ j, f (Function.update s.calls i c j) = f (s.calls j) := by
    intro α f hf j
    by_cases hj : j = i
    · subst hj
      rw [Function.update_self, hf]
    · rw [Function.update_of_ne hj]
  unfold ledger
  congr 1
  · funext j
    exact hcalls (fun c => c.phase.stage) (congrArg CallPhase.stage hphase) j
  · funext j
    exact hcalls (fun c => c.request) hrequest j

/-- The line that was read, if one was. -/
theorem line_of_receiveLine {bytes line : Bytes} {ok : Bool}
    (h : receiveLine bytes ok = some line) :
    line = (readLine bytes).1 := by
  unfold receiveLine at h
  dsimp only at h
  split at h
  · exact (Option.some.inj h).symm
  · cases h

theorem readLine_ne_nil {bytes : Bytes} (h : bytes ≠ []) : (readLine bytes).1 ≠ [] := by
  cases bytes with
  | nil => exact absurd rfl h
  | cons c rest =>
    rw [readLine]
    split <;> exact List.cons_ne_nil _ _

variable {P : Platform} {w : Wire F}

/-- A line that can be decoded is read. -/
theorem receiveLine_of_decode {α : Type} {s : Json.Adjacent (Json.Number w.floats) α}
    {bytes : Bytes}
    {message : α} (h : decodeMessage w s (readLine bytes).1 = .ok message) :
    receiveLine bytes true = some (readLine bytes).1 := by
  obtain ⟨text, htext⟩ := fromUtf8_of_decode w s h
  simp [receiveLine, htext]

/-- **A step of the exchange is one of its ledger.** -/
theorem Exchange.ledger_step {e : ExchangeEvent F w.Value} {s s' : Exchange F w.Value}
    (h : Exchange.step P w e s = some s') : s.ledger.Step w s'.ledger := by
  have hset : ∀ i (phase : CallPhase F w.Value), (s.setPhase i phase).ledger =
      s.ledger.setStage i phase.stage := s.ledger_setPhase
  have hstage : ∀ {i} {phase : CallPhase F w.Value}, (s.calls i).phase = phase →
      s.ledger.stage i = phase.stage := fun hphase => congrArg CallPhase.stage hphase
  have hslot : ∀ {loop : LoopPhase F w.Value}, s.loop = loop → s.ledger.slot = loop.slot :=
    fun hloop => congrArg LoopPhase.slot hloop
  have hfree : ∀ loop : LoopPhase F w.Value, loop.slot = .free →
      s.ledger.Step w { s.ledger with slot := loop.slot } := fun loop hloop => hloop ▸ .frees
  cases e <;> simp only [step] at h
  case opens i ok =>
    split at h
    case h_1 hphase =>
      split at h
      · split at h
        · next hloop =>
          -- the pipe was listening, and its slot waits for the request of this call now
          cases h
          show s.ledger.Step w { (s.setPhase i .sending).ledger with slot := .waiting ⟨i, []⟩ }
          rw [hset]
          exact .opens i (hstage hphase) (hslot hloop)
        · cases h
      · cases h
        rw [hset]
        exact .cannotOpen i (hstage hphase)
    · cases h
  case sends i delivered ok =>
    split at h
    case h_1 hphase =>
      cases h
      show s.ledger.Step w { (s.setPhase i _).ledger with slot := (s.loop.deliver i _).slot }
      rw [hset, LoopPhase.slot_deliver]
      refine .sends i delivered _ (hstage hphase) ?_
      cases ok
      · exact Or.inr rfl
      · exact Or.inl rfl
    · cases h
  case receives i arrived ok =>
    split at h
    case h_1 hphase =>
      split at h
      all_goals
        cases h
        rw [hset]
      · exact .receives i .done (hstage hphase) (Or.inl rfl)
      · exact .receives i .failed (hstage hphase) (Or.inr rfl)
    · cases h
  case fallsBack i a =>
    split at h
    case h_1 hphase =>
      split at h
      all_goals
        cases h
        show s.ledger.Step w ((s.setPhase i _).ledger.execute ⟨.gui, i, (s.calls i).request⟩)
        rw [hset]
        exact .fallsBack i (hstage hphase)
    · cases h
  case accepts elevated =>
    split at h
    case h_1 c hloop =>
      cases h
      -- the identity of the client is no part of the ledger
      have hwaiting : s.loop.slot = .waiting c := congrArg LoopPhase.slot hloop
      have hledger : ({ s with loop := .connected c elevated } : Exchange F w.Value).ledger =
          s.ledger := by
        unfold ledger
        rw [hwaiting]
        rfl
      rw [hledger]
      exact .stays
    · cases h
  case drops =>
    split at h
    · cases h
      exact hfree .listening rfl
    · cases h
  case reads arrived ok =>
    split at h
    case h_1 c elevated hloop =>
      split at h
      · cases h
        exact hfree .listening rfl
      · cases h
        exact hfree .listening rfl
      case h_3 line hne hline =>
        split at h
        · next request hdecode =>
          cases h
          rw [line_of_receiveLine hline] at hdecode
          exact .reads c arrived request (hslot hloop) hdecode
        · cases h
          exact hfree (.replying ..) rfl
    · cases h
  case handles a =>
    split at h
    case h_1 i request elevated hloop =>
      split at h
      all_goals
        cases h
        exact .handles i request (hslot hloop)
    · cases h
  case replies delivered =>
    split at h
    case h_1 i response shutdown hloop =>
      cases h
      -- nor is what the client has received
      have hcalls := s.ledger_update (i := i) (c := { s.calls i with
        received := (s.calls i).received ++ (encodeMessage w w.response response).take delivered })
        rfl rfl
      show s.ledger.Step w { ({ s with calls := Function.update s.calls i _ } :
        Exchange F w.Value).ledger with slot := LoopPhase.slot _ }
      rw [hcalls]
      apply hfree
      split <;> rfl
    · cases h
  case dies =>
    cases h
    exact hfree .down rfl
  case starts currentPid =>
    split at h
    · cases h
      exact hfree .listening rfl
    · cases h

/-! ### Runs -/

theorem Exchange.sound_start (daemon gui : Daemon) (loop : Bool) (requests : ℕ → IpcRequest F) :
    (Exchange.start daemon gui loop requests : Exchange F w.Value).ledger.Sound w := by
  have hslot :
      (Exchange.start daemon gui loop requests : Exchange F w.Value).ledger.slot = .free := by
    cases loop <;> rfl
  refine ⟨fun i => ?_, fun i => le_rfl, fun c hc => ?_, fun c hc => ?_, fun i r hr => ?_,
    fun x hx => (nomatch hx)⟩
  · rw [hslot]
    exact le_rfl
  all_goals
    rw [hslot] at *
    cases ‹_ = _›

/-- What every run from the start keeps. -/
theorem Exchange.sound_exec {daemon gui : Daemon} {loop : Bool} {requests : ℕ → IpcRequest F}
    {es : List (ExchangeEvent F w.Value)} {s : Exchange F w.Value}
    (h : exec (Exchange.step P w) es (.start daemon gui loop requests) = some s) :
    s.ledger.Sound w ∧ s.ledger.request = requests := by
  refine exec_invariant (I := fun s => s.ledger.Sound w ∧ s.ledger.request = requests) ?_
    ⟨sound_start daemon gui loop requests, rfl⟩ h
  intro e s s' hs hstep
  exact ⟨hs.1.step (ledger_step hstep), (ledger_step hstep).request_eq.trans hs.2⟩

/-- No call fails at this step that has reached the daemon. -/
def ExchangeEvent.KeepsOnce (P : Platform) (w : Wire F) (e : ExchangeEvent F w.Value)
    (s : Exchange F w.Value) : Prop :=
  ∀ s', Exchange.step P w e s = some s' → s.ledger.KeepsOnce w s'.ledger

theorem Exchange.single_start (daemon gui : Daemon) (loop : Bool) (requests : ℕ → IpcRequest F) :
    (Exchange.start daemon gui loop requests : Exchange F w.Value).ledger.Single w := by
  intro i hi
  rcases hi with hstage | hruns
  · cases hstage
  · exact absurd hruns (lt_irrefl 0)

/-- No call fails when one falls back. -/
theorem keepsOnce_fallsBack {i : ℕ} {a : Answers F w.Value} {s : Exchange F w.Value} :
    (ExchangeEvent.fallsBack i a).KeepsOnce P w s := by
  intro s' hstep j hbefore hafter
  have hset : ∀ phase : CallPhase F w.Value, phase.stage = .done →
      (s.setPhase i phase).ledger.stage j ≠ .failed := by
    intro phase hdone
    rw [Exchange.ledger_setPhase, Ledger.stage_setStage, hdone]
    split
    · nofun
    · exact hbefore
  simp only [Exchange.step] at hstep
  split at hstep
  · split at hstep
    all_goals
      cases hstep
      exact absurd hafter (hset _ rfl)
  · cases hstep

/-- A call to an idle daemon fails too late if all of its request arrives. -/
theorem not_keepsOnce_sends {s : Exchange F w.Value} {i : ℕ}
    (hslot : s.ledger.slot = .waiting ⟨i, []⟩)
    (hphase : (s.calls i).phase = .sending) (hfinite : (s.ledger.request i).Finite w.floats) :
    ¬ (ExchangeEvent.sends i (encodeMessage w w.request (s.ledger.request i)).length
      false).KeepsOnce P w s := by
  intro hkeeps
  have hstep : Exchange.step P w (.sends i (encodeMessage w w.request (s.ledger.request i)).length
      false) s = some { s.setPhase i (.failed "Failed to send IPC request") with
        loop := s.loop.deliver i (encodeMessage w w.request (s.ledger.request i)) } := by
    simp only [Exchange.step, hphase]
    show some _ = some _
    rw [show (s.calls i).request = s.ledger.request i from rfl, List.take_length]
    rfl
  apply hkeeps _ hstep i
  · show (s.calls i).phase.stage ≠ .failed
    rw [hphase]
    nofun
  · show (s.setPhase i _).ledger.stage i = .failed
    rw [Exchange.ledger_setPhase, Ledger.stage_setStage, if_pos rfl]
    rfl
  · left
    have hslot' : (s.loop.deliver i (encodeMessage w w.request (s.ledger.request i))).slot =
        .waiting ⟨i, encodeMessage w w.request (s.ledger.request i)⟩ := by
      rw [LoopPhase.slot_deliver, show s.loop.slot = _ from hslot]
      simp [Slot.deliver, Connection.deliver]
    have hrequest : (s.setPhase i (.failed "Failed to send IPC request")).ledger.request =
        s.ledger.request := by
      rw [Exchange.ledger_setPhase]
      rfl
    show Ledger.Due w { (s.setPhase i (.failed "Failed to send IPC request")).ledger with
      slot := LoopPhase.slot _ } i
    rw [Ledger.Due, hslot', hrequest]
    refine ⟨rfl, ?_, hfinite⟩
    rw [encodeMessage, List.length_append]
    exact Nat.le_add_right _ _

/-- Throughout a run that meets the condition, no request is executed twice. -/
theorem always_once {daemon gui : Daemon} {loop : Bool} {requests : ℕ → IpcRequest F}
    {es : List (ExchangeEvent F w.Value)} (h : Each (Exchange.step P w)
      (ExchangeEvent.KeepsOnce P w) es (.start daemon gui loop requests)) :
    Always (Exchange.step P w) (fun s => s.ledger.Once) es (.start daemon gui loop requests) := by
  refine always_of_each (I := fun s => s.ledger.Sound w ∧ s.ledger.Single w)
    (fun s hs => hs.1.once hs.2) ?_
    ⟨Exchange.sound_start daemon gui loop requests,
      Exchange.single_start daemon gui loop requests⟩ h
  intro e s s' hs hkeeps hstep
  have hledger := Exchange.ledger_step hstep
  exact ⟨hs.1.step hledger, hs.2.step hs.1 hledger (hkeeps s' hstep)⟩

/-! ### Runs that go on -/

/-- The daemon runs the handler of the request that it has. -/
theorem exists_handles {s : Exchange F w.Value} {i : ℕ} {request : IpcRequest F} {elevated : Bool}
    (hloop : s.loop = .handling i request elevated) (a : Answers F w.Value) :
    ∃ s', Exchange.step P w (.handles a) s = some s' ∧ s'.calls = s.calls ∧
      0 < s'.ledger.runs .daemon i := by
  have hruns : ∀ l : Ledger F, 0 < (l.execute ⟨.daemon, i, request⟩).runs .daemon i := by
    intro l
    rw [Ledger.runs_execute, if_pos ⟨rfl, rfl⟩]
    omega
  simp only [Exchange.step, hloop]
  cases handleRequestAuthorized P a request elevated s.daemon with
  | returned response d => exact ⟨_, rfl, rfl, hruns s.ledger⟩
  | crashed d => exact ⟨_, rfl, rfl, hruns s.ledger⟩

/-- A request that has reached the daemon is executed there in some run. -/
theorem exists_executed {s : Exchange F w.Value} (h : s.ledger.Sound w) {i : ℕ}
    (hreached : s.ledger.Reached w i) (a : Answers F w.Value) :
    ∃ es s', exec (Exchange.step P w) es s = some s' ∧ s'.calls = s.calls ∧
      0 < s'.ledger.runs .daemon i := by
  -- the connected daemon reads all that arrived
  have hconnected : ∀ (s : Exchange F w.Value) (c : Connection) (elevated : Bool),
      s.ledger.Sound w → s.ledger.Due w i → s.loop = .connected c elevated →
        ∃ es s', exec (Exchange.step P w) es s = some s' ∧ s'.calls = s.calls ∧
          0 < s'.ledger.runs .daemon i := by
    intro s c elevated h hdue hloop
    have hslot : s.ledger.slot = .waiting c := congrArg LoopPhase.slot hloop
    rw [Ledger.Due, hslot] at hdue
    obtain ⟨rfl, hlength, hfinite⟩ := hdue
    have hdecode := (h.decode_iff hslot c.pending.length _).mpr
      ⟨⟨by omega, hfinite⟩, rfl⟩
    have hline := receiveLine_of_decode hdecode
    have hpending : c.pending.take c.pending.length ≠ [] := by
      rw [List.take_length]
      intro hnil
      rw [hnil, List.length_nil, Nat.le_zero, List.length_eq_zero_iff] at hlength
      exact messageJson_ne_nil w _ _ hlength
    have hstep : Exchange.step P w (.reads c.pending.length true) s =
        some { s with loop := .handling c.call (s.ledger.request c.call) elevated } := by
      simp only [Exchange.step, hloop, hline]
      split
      case h_1 hnil => cases hnil
      case h_2 hnil => exact absurd (Option.some.inj hnil) (readLine_ne_nil hpending)
      case h_3 line _ hsome =>
        rw [← Option.some.inj hsome, hdecode]
    obtain ⟨s', hhandles, hcalls, hruns⟩ := exists_handles (P := P)
      (s := { s with loop := .handling c.call (s.ledger.request c.call) elevated }) rfl a
    refine ⟨[.reads c.pending.length true, .handles a], s', ?_, hcalls, hruns⟩
    rw [exec_cons, hstep, Option.bind_some, exec_cons, hhandles]
    rfl
  rcases hreached with hdue | hruns
  · cases hloop : s.loop with
    | connecting c =>
      have hdue' : ({ s with loop := .connected c true } : Exchange F w.Value).ledger.Due w i := by
        have hslot : s.ledger.slot = .waiting c := congrArg LoopPhase.slot hloop
        rw [Ledger.Due, hslot] at hdue
        exact hdue
      have haccepts : Exchange.step P w (.accepts true) s =
          some { s with loop := .connected c true } := by
        simp only [Exchange.step, hloop]
      obtain ⟨es, s', hexec, hcalls, hruns⟩ := hconnected _ c true
        (h.step (Exchange.ledger_step haccepts)) hdue' rfl
      refine ⟨.accepts true :: es, s', ?_, hcalls, hruns⟩
      rw [exec_cons, haccepts, Option.bind_some, hexec]
    | connected c elevated => exact hconnected s c elevated h hdue hloop
    | handling j request elevated =>
      have hslot : s.ledger.slot = .handling j request := congrArg LoopPhase.slot hloop
      rw [Ledger.Due, hslot] at hdue
      obtain rfl : j = i := hdue
      obtain ⟨s', hstep, hcalls, hruns⟩ := exists_handles (P := P) hloop a
      refine ⟨[.handles a], s', ?_, hcalls, hruns⟩
      rw [exec_cons, hstep]
      rfl
    | _ =>
      rw [Ledger.Due, show s.ledger.slot = _ from congrArg LoopPhase.slot hloop] at hdue
      exact hdue.elim
  · exact ⟨[], s, rfl, rfl, hruns⟩

/-- The answers of a system that can only report a latency without events. -/
def Answers.unable {V : Type} : Answers F V where
  env := .faultless errorText
  now := default
  access := Answers.working.access
  vanguard := .ok ()
  inspect := .error "No access"
  validDuration := fun _ => true
  latency := fun duration =>
    ⟨⟨.realKernelDpcIsr, "", "", "", true, 0, 0, []⟩, .sessionError, 0, 0, 0, 0, none, none, [], [],
      false, [], duration⟩
  bufferbloat := .error "No network"
  launcher := .absent

/-- **A call that fails too late** may be executed twice. -/
theorem exists_twice {s : Exchange F w.Value} (h : s.ledger.Sound w)
    {e : ExchangeEvent F w.Value} (hfails : ¬ e.KeepsOnce P w s) :
    ∃ es s', exec (Exchange.step P w) (e :: es) s = some s' ∧ ¬ s'.ledger.Once := by
  have a : Answers F w.Value := .unable
  simp only [ExchangeEvent.KeepsOnce, Ledger.KeepsOnce, not_forall, not_not] at hfails
  obtain ⟨s₁, hstep, i, -, hfailed, hreached⟩ := hfails
  obtain ⟨es, s₂, hexec, hcalls, hdaemon⟩ :=
    exists_executed (P := P) (h.step (Exchange.ledger_step hstep)) hreached a
  have hstage : s₂.ledger.stage i = .failed := by
    rw [← hfailed]
    show (s₂.calls i).phase.stage = (s₁.calls i).phase.stage
    rw [hcalls]
  obtain ⟨error, hphase⟩ : ∃ error, (s₂.calls i).phase = .failed error := by
    cases hphase : (s₂.calls i).phase with
    | failed error => exact ⟨error, rfl⟩
    | _ =>
      have hstage' := congrArg CallPhase.stage hphase
      exact nomatch hstage.symm.trans hstage'
  -- the client falls back although the daemon has run the handler
  have hruns : ∀ l : Ledger F, 0 < l.runs .daemon i →
      ¬ (l.execute ⟨.gui, i, s₂.ledger.request i⟩).Once := by
    intro l hl honce
    have hi := honce i
    rw [Ledger.runs_execute, Ledger.runs_execute, if_neg (by simp), if_pos ⟨rfl, rfl⟩] at hi
    omega
  have hfalls : ∃ s', Exchange.step P w (.fallsBack i a) s₂ = some s' ∧ ¬ s'.ledger.Once := by
    simp only [Exchange.step, hphase]
    cases handleRequest P a (s₂.calls i).request s₂.gui with
    | returned response d => exact ⟨_, rfl, hruns s₂.ledger hdaemon⟩
    | crashed d => exact ⟨_, rfl, hruns s₂.ledger hdaemon⟩
  obtain ⟨s', hlast, htwice⟩ := hfalls
  refine ⟨es ++ [.fallsBack i a], s', ?_, htwice⟩
  rw [exec_cons, hstep, Option.bind_some, exec_append, hexec, Option.bind_some, exec_cons, hlast]
  rfl

/-- **A request is executed once.**  In every run, each of the two processes runs a handler at most
once for a call, and only for the request that it was made with.  Both together run it at most once,
provided that no call fails after it has reached the daemon.  If one does, the run may go on so that
the request is executed twice. -/
theorem at_most_once (P : Platform) (w : Wire F) (daemon gui : Daemon) (loop : Bool)
    (requests : ℕ → IpcRequest F) (es : List (ExchangeEvent F w.Value)) :
    (∀ s, exec (Exchange.step P w) es (.start daemon gui loop requests) = some s →
      (∀ x ∈ s.executions, x.request = requests x.call) ∧
      (∀ i, s.ledger.runs .daemon i ≤ 1 ∧ s.ledger.runs .gui i ≤ 1) ∧
      ∀ e, ¬ e.KeepsOnce P w s → ∃ es' s',
        exec (Exchange.step P w) (e :: es') s = some s' ∧ ¬ s'.ledger.Once) ∧
    (Each (Exchange.step P w) (ExchangeEvent.KeepsOnce P w) es (.start daemon gui loop requests) →
      Always (Exchange.step P w) (fun s => s.ledger.Once) es
        (.start daemon gui loop requests)) := by
  refine ⟨fun s hexec => ?_, always_once⟩
  obtain ⟨hsound, hrequest⟩ := Exchange.sound_exec hexec
  refine ⟨fun x hx => ?_, fun i => ?_, fun e hfails => exists_twice hsound hfails⟩
  · rw [hsound.asked x hx, hrequest]
  · have hdaemon := hsound.daemon i
    have hgui := hsound.gui i
    omega

/-- Only the first bytes of a request to the daemon arrive, and the client executes it. -/
def cutEvents : List (ExchangeEvent (Option ℕ) Wire.tenths.Value) :=
  [.opens 0 true, .sends 0 3 false] ++ [.fallsBack 0 .unable]

/-- A call that is cut after three bytes is executed once. -/
theorem at_most_once_cut :
    (∃ s, exec (Exchange.step .portable Wire.tenths) cutEvents (.start (.start .desktop [] 4)
      (.start .desktop [] 8) true fun _ => .applyOptimizations) = some s ∧
        s.ledger.runs .gui 0 = 1) ∧
    Always (Exchange.step .portable Wire.tenths) (fun s => s.ledger.Once) cutEvents
      (.start (.start .desktop [] 4) (.start .desktop [] 8) true fun _ => .applyOptimizations) := by
  constructor
  · have hfalls : ∀ s : Exchange (Option ℕ) Wire.tenths.Value, s.executions = [] →
        (s.calls 0).phase = .failed "Failed to send IPC request" →
          ∃ s', Exchange.step .portable Wire.tenths (.fallsBack 0 .unable) s = some s' ∧
            s'.ledger.runs .gui 0 = 1 := by
      intro s hexecutions hphase
      simp only [Exchange.step, hphase, hexecutions]
      cases handleRequest .portable .unable (s.calls 0).request s.gui with
      | returned response d => exact ⟨_, rfl, rfl⟩
      | crashed d => exact ⟨_, rfl, rfl⟩
    obtain ⟨s, hexec, hexecutions, hphase⟩ : ∃ s, exec (Exchange.step .portable Wire.tenths)
        [.opens 0 true, .sends 0 3 false] (.start (.start .desktop [] 4) (.start .desktop [] 8) true
          fun _ => .applyOptimizations) = some s ∧ s.executions = [] ∧
            (s.calls 0).phase = .failed "Failed to send IPC request" := ⟨_, rfl, rfl, rfl⟩
    obtain ⟨s', hstep, hruns⟩ := hfalls s hexecutions hphase
    refine ⟨s', ?_, hruns⟩
    rw [cutEvents, exec_append, hexec, Option.bind_some, exec_cons, hstep]
    rfl
  · apply (at_most_once .portable Wire.tenths (.start .desktop [] 4) (.start .desktop [] 8) true
      (fun _ => .applyOptimizations) cutEvents).2
    have hlength :
        3 < (messageJson Wire.tenths Wire.tenths.request .applyOptimizations).length := by
      decide +kernel
    -- at most three bytes have arrived
    have hcut : ∀ (s : Exchange (Option ℕ) Wire.tenths.Value) (bytes : Bytes) (i : ℕ),
        s.ledger.request = (fun _ => .applyOptimizations) → s.ledger.slot = .waiting ⟨0, bytes⟩ →
          bytes.length ≤ 3 → s.ledger.runs .daemon i = 0 → ¬ s.ledger.Reached Wire.tenths i := by
      intro s bytes i hrequest hslot hbytes hruns hreached
      rcases hreached with hdue | hdaemon
      · rw [Ledger.Due, hslot] at hdue
        obtain ⟨-, hwhole, -⟩ := hdue
        rw [hrequest] at hwhole
        exact absurd (hlength.trans_le hwhole) (by simpa using hbytes)
      · omega
    intro s₁ h₁
    have hrequest₁ := (Exchange.ledger_step h₁).request_eq
    cases h₁
    refine ⟨fun s h i _ _ => ?_, fun s₂ h₂ => ?_⟩
    · cases h
      exact hcut _ [] i hrequest₁ rfl (by decide) rfl
    · have hrequest₂ := (Exchange.ledger_step h₂).request_eq.trans hrequest₁
      cases h₂
      refine ⟨fun s h i _ _ => ?_, fun s₃ h₃ => ⟨keepsOnce_fallsBack, trivial⟩⟩
      cases h
      exact hcut _ _ i hrequest₂ rfl (by simp) rfl

/-- **Counterexample.**  The whole request arrives although the client is told otherwise, and both
processes execute it. -/
theorem request_executed_twice :
    ¬ ∀ (es : List (ExchangeEvent (Option ℕ) Wire.tenths.Value)) s,
      exec (Exchange.step .portable Wire.tenths) es (.start (.start .desktop [] 4)
        (.start .desktop [] 8) true fun _ => .applyOptimizations) = some s → s.ledger.Once := by
  intro hall
  obtain ⟨s, hexec, hslot, hstage⟩ : ∃ s, exec (Exchange.step .portable Wire.tenths)
      [.opens 0 true] (.start (.start .desktop [] 4) (.start .desktop [] 8) true
        fun _ => .applyOptimizations) = some s ∧ s.ledger.slot = .waiting ⟨0, []⟩ ∧
          (s.calls 0).phase = .sending := ⟨_, rfl, rfl, rfl⟩
  obtain ⟨hsound, hrequest⟩ := Exchange.sound_exec hexec
  have hlate := not_keepsOnce_sends (P := .portable) hslot hstage
    (congrFun hrequest 0 ▸ trivial : (s.ledger.request 0).Finite Wire.tenths.floats)
  obtain ⟨es, s', hexec', htwice⟩ := exists_twice hsound hlate
  apply htwice
  apply hall ([.opens 0 true] ++ .sends 0 _ false :: es) s'
  rw [exec_append, hexec, Option.bind_some, hexec']

end ValOpt
