import ValOpt.Ipc.Equiv.CutMessage
import ValOpt.Server.Equiv.Exchange

/-!
# Whose answer a call returns

A handler's response travels as bytes that may be cut anywhere, next to those of other calls, and a
daemon may die and be started again on the way.  A call that returns something nevertheless returns
what a handler said that ran for this call and its request (`returned_genuine`): the one in the user
interface if the call fell back, and that of the daemon otherwise.  The only other answer is that of
the daemon to a line it could not read, and then no handler has run.

`Genuine` is what the steps keep: which responses are on their way, and where they come from.
-/

namespace ValOpt

open Effect Text

variable {F : Type} (P : Platform) (w : Wire F)

/-- At this step the party runs its handler of the request for the call, with this response. -/
def ExchangeEvent.Answers (party : Party) (i : ℕ) (request : IpcRequest F)
    (r : IpcResponse F w.Value) (e : ExchangeEvent F w.Value) (s : Exchange F w.Value) : Prop :=
  match party, e with
  | .daemon, .handles a => ∃ elevated d, s.loop = .handling i request elevated ∧
      handleRequestAuthorized P a request elevated s.daemon = .returned r d
  | .gui, .fallsBack j a => j = i ∧ ∃ d, handleRequest P a request s.gui = .returned r d
  | _, _ => False

/-! ### Responses under way -/

section Genuine

variable {w} (H : Party → ℕ → IpcResponse F w.Value → Prop)

/-- The daemon has this response for the call: that of its handler, or the one to a line that is no
request.  `H` says which responses the handlers gave. -/
def Given (executions : List (Execution F)) (i : ℕ) (r : IpcResponse F w.Value) : Prop :=
  (runsOf executions .daemon i = 1 ∧ H .daemon i r) ∨
    (runsOf executions .daemon i = 0 ∧ ∃ e, r = .error "INVALID_REQUEST" e)

/-- The call is over for the daemon: it is past its opening, and neither served nor replied to. -/
structure Spent (calls : ℕ → ClientCall F w.Value) (loop : LoopPhase F w.Value) (i : ℕ) :
    Prop where
  opened : (calls i).phase ≠ .opening
  unserved : loop.slot.serves i = 0
  replied : ∀ r shutdown, loop ≠ .replying i r shutdown

/-- What was sent to a call is a part of its response, what the daemon is about to send is the
response, and what a call returned was sent to it or comes from its own handler. -/
structure Genuine (calls : ℕ → ClientCall F w.Value) (loop : LoopPhase F w.Value)
    (executions : List (Execution F)) : Prop where
  received : ∀ i, (calls i).received ≠ [] → Spent calls loop i ∧
    ∃ r n, (calls i).received = (encodeMessage w w.response r).take n ∧ Given H executions i r
  replying : ∀ i r shutdown, loop = .replying i r shutdown →
    (calls i).received = [] ∧ (calls i).phase ≠ .opening ∧ Given H executions i r
  returned : ∀ i r, (calls i).phase = .returned r →
    (runsOf executions .gui i = 1 ∧ H .gui i r) ∨
      (runsOf executions .gui i = 0 ∧ (calls i).received ≠ [] ∧ Given H executions i r)

variable {H} {H' : Party → ℕ → IpcResponse F w.Value → Prop}
  {calls : ℕ → ClientCall F w.Value} {loop loop' : LoopPhase F w.Value}
  {executions : List (Execution F)}

theorem Given.mono (hH : ∀ p i r, H p i r → H' p i r) {i : ℕ} {r : IpcResponse F w.Value}
    (h : Given H executions i r) : Given H' executions i r :=
  h.imp_left (And.imp_right (hH _ _ _))

theorem Genuine.mono (hH : ∀ p i r, H p i r → H' p i r) (h : Genuine H calls loop executions) :
    Genuine H' calls loop executions where
  received i hi := by
    obtain ⟨hspent, r, n, hbytes, hgiven⟩ := h.received i hi
    exact ⟨hspent, r, n, hbytes, hgiven.mono hH⟩
  replying i r shutdown hloop := by
    obtain ⟨hnil, hphase, hgiven⟩ := h.replying i r shutdown hloop
    exact ⟨hnil, hphase, hgiven.mono hH⟩
  returned i r hphase := by
    rcases h.returned i r hphase with ⟨hruns, hr⟩ | ⟨hruns, hne, hgiven⟩
    · exact Or.inl ⟨hruns, hH _ _ _ hr⟩
    · exact Or.inr ⟨hruns, hne, hgiven.mono hH⟩

/-- The loop goes on without a reply, and serves no other call. -/
theorem Genuine.withLoop (h : Genuine H calls loop executions)
    (hserves : ∀ i, loop'.slot.serves i ≤ loop.slot.serves i)
    (hreply : ∀ i r shutdown, loop' ≠ .replying i r shutdown) :
    Genuine H calls loop' executions where
  received i hi := by
    obtain ⟨hspent, hbytes⟩ := h.received i hi
    have hle := hserves i
    have hzero := hspent.unserved
    exact ⟨⟨hspent.opened, by omega, hreply i⟩, hbytes⟩
  replying i r shutdown hloop := absurd hloop (hreply i r shutdown)
  returned := h.returned

/-- A call goes over to another phase. -/
theorem Genuine.withPhase (h : Genuine H calls loop executions) {i : ℕ}
    {phase : CallPhase F w.Value} (hopening : phase ≠ .opening)
    (hreturned : ∀ r, phase = .returned r → (runsOf executions .gui i = 1 ∧ H .gui i r) ∨
      (runsOf executions .gui i = 0 ∧ (calls i).received ≠ [] ∧ Given H executions i r)) :
    Genuine H (Function.update calls i { calls i with phase := phase }) loop executions := by
  have hreceived : ∀ j, (Function.update calls i { calls i with phase := phase } j).received =
      (calls j).received := by
    intro j
    by_cases hj : j = i
    · subst hj
      rw [Function.update_self]
    · rw [Function.update_of_ne hj]
  have hphase : ∀ j, (calls j).phase ≠ .opening →
      (Function.update calls i { calls i with phase := phase } j).phase ≠ .opening := by
    intro j hj
    by_cases hji : j = i
    · subst hji
      rwa [Function.update_self]
    · rwa [Function.update_of_ne hji]
  refine ⟨fun j hj => ?_, fun j r shutdown hloop => ?_, fun j r hr => ?_⟩
  · rw [hreceived] at hj ⊢
    obtain ⟨hspent, hbytes⟩ := h.received j hj
    exact ⟨⟨hphase j hspent.opened, hspent.unserved, hspent.replied⟩, hbytes⟩
  · obtain ⟨hnil, hopened, hgiven⟩ := h.replying j r shutdown hloop
    exact ⟨(hreceived j).trans hnil, hphase j hopened, hgiven⟩
  · rw [hreceived]
    by_cases hji : j = i
    · subst hji
      rw [Function.update_self] at hr
      exact hreturned r hr
    · rw [Function.update_of_ne hji] at hr
      exact h.returned j r hr

/-- Bytes that arrive change neither whom the loop serves nor what it replies. -/
theorem Genuine.delivers (h : Genuine H calls loop executions) (i : ℕ) (bytes : Bytes) :
    Genuine H calls (loop.deliver i bytes) executions := by
  cases loop with
  | replying j r shutdown => exact h
  | _ =>
    refine h.withLoop (fun j => ?_) fun _ _ _ => nofun
    rw [LoopPhase.slot_deliver, Slot.serves_deliver]

/-- A response that a call reads is the one it was sent. -/
theorem Genuine.receives (h : Genuine H calls loop executions) {i arrived : ℕ} {ok : Bool}
    {response : IpcResponse F w.Value}
    (hreceive : receiveResponse w ((calls i).received.take arrived) ok = .ok response) :
    (calls i).received ≠ [] ∧ Given H executions i response := by
  unfold receiveResponse at hreceive
  split at hreceive
  · next line hline =>
    rw [line_of_receiveLine hline] at hreceive
    by_cases hnil : (calls i).received = []
    · have hnone : decodeMessage w w.response ((messageJson w w.response .pong).take 0) ≠
          .ok response := by
        apply decode_take
        exact List.length_pos_iff.mpr (messageJson_ne_nil w w.response .pong)
      rw [hnil, List.take_nil] at hreceive
      exact absurd hreceive hnone
    · obtain ⟨-, r, n, hbytes, hgiven⟩ := h.received i hnil
      rw [hbytes, List.take_take, readLine_encodeMessage,
        decode_take_iff w (definite_response w)] at hreceive
      exact ⟨hnil, hreceive.2 ▸ hgiven⟩
  · cases hreceive

/-- A call opens the pipe to a loop that listens. -/
theorem Genuine.opens (h : Genuine H calls .listening executions) {i : ℕ}
    (hphase : (calls i).phase = .opening) :
    Genuine H (Function.update calls i { calls i with phase := .sending }) (.connecting ⟨i, []⟩)
      executions := by
  have hsending : Genuine H (Function.update calls i { calls i with phase := .sending }) .listening
      executions := h.withPhase (by simp) (by simp)
  refine ⟨fun j hj => ?_, by simp, hsending.returned⟩
  obtain ⟨hspent, hbytes⟩ := hsending.received j hj
  -- nothing was sent to the call that opens
  have hji : i ≠ j := by
    rintro rfl
    rw [Function.update_self] at hj
    exact (h.received i hj).1.opened hphase
  exact ⟨⟨hspent.opened, if_neg hji, by simp⟩, hbytes⟩

/-- The loop replies to a call that it served, and to which nothing was sent before. -/
theorem Genuine.answers (h : Genuine H calls loop executions) {i : ℕ}
    (hserves : loop.slot.serves i = 1) (hopened : (calls i).phase ≠ .opening)
    (hfree : ∀ j, j ≠ i → loop'.slot.serves j = 0)
    (hreply : ∀ j r shutdown, loop' = .replying j r shutdown → j = i)
    {executions' : List (Execution F)}
    (hother : ∀ j, j ≠ i → runsOf executions' .daemon j = runsOf executions .daemon j)
    (hgui : ∀ j, runsOf executions' .gui j = runsOf executions .gui j)
    (hgiven : ∀ r shutdown, loop' = .replying i r shutdown → Given H executions' i r) :
    Genuine H calls loop' executions' := by
  have hnil : (calls i).received = [] := by
    by_contra hne
    have hzero := (h.received i hne).1.unserved
    omega
  have hkeeps : ∀ j r, (calls j).received ≠ [] → Given H executions j r →
      Given H executions' j r := by
    intro j r hj hr
    have hji : j ≠ i := fun heq => hj (heq ▸ hnil)
    unfold Given at hr ⊢
    rwa [hother j hji]
  refine ⟨fun j hj => ?_, fun j r shutdown hloop => ?_, fun j r hr => ?_⟩
  · obtain ⟨hspent, r, n, hbytes, hr⟩ := h.received j hj
    have hji : j ≠ i := fun heq => hj (heq ▸ hnil)
    exact ⟨⟨hspent.opened, hfree j hji, fun r shutdown hloop => hji (hreply j r shutdown hloop)⟩,
      r, n, hbytes, hkeeps j r hj hr⟩
  · obtain rfl := hreply j r shutdown hloop
    exact ⟨hnil, hopened, hgiven r shutdown hloop⟩
  · rw [hgui]
    exact (h.returned j r hr).imp_right fun ⟨hruns, hne, hr⟩ => ⟨hruns, hne, hkeeps j r hne hr⟩

/-- The first bytes of the reply arrive. -/
theorem Genuine.replies {i : ℕ} {r : IpcResponse F w.Value} {shutdown : Bool}
    (h : Genuine H calls (.replying i r shutdown) executions) (n : ℕ)
    (hfree : ∀ j, loop'.slot.serves j = 0)
    (hreply : ∀ j r shutdown, loop' ≠ .replying j r shutdown) :
    Genuine H (Function.update calls i { calls i with
      received := (calls i).received ++ (encodeMessage w w.response r).take n }) loop'
        executions := by
  obtain ⟨hnil, hopened, hgiven⟩ := h.replying i r shutdown rfl
  rw [hnil, List.nil_append]
  refine ⟨fun j hj => ?_, fun j r shutdown hloop => absurd hloop (hreply j r shutdown),
    fun j r' hr => ?_⟩
  · by_cases hji : j = i
    · subst hji
      refine ⟨⟨?_, hfree j, hreply j⟩, r, n, ?_, hgiven⟩
      · rwa [Function.update_self]
      · rw [Function.update_self]
    · rw [Function.update_of_ne hji] at hj ⊢
      obtain ⟨hspent, hbytes⟩ := h.received j hj
      refine ⟨⟨?_, hfree j, hreply j⟩, hbytes⟩
      rw [Function.update_of_ne hji]
      exact hspent.opened
  · by_cases hji : j = i
    · subst hji
      rw [Function.update_self] at hr ⊢
      exact (h.returned j r' hr).imp_right fun ⟨_, hne, _⟩ => absurd hnil hne
    · rw [Function.update_of_ne hji] at hr ⊢
      exact h.returned j r' hr

/-- A call that failed runs its own handler. -/
theorem Genuine.fallsBack (h : Genuine H calls loop executions) {i : ℕ} {e : String}
    (hfailed : (calls i).phase = .failed e) (hruns : runsOf executions .gui i = 0)
    (request : IpcRequest F) {phase : CallPhase F w.Value} (hopening : phase ≠ .opening)
    (hreturned : ∀ r, phase = .returned r → H .gui i r) :
    Genuine H (Function.update calls i { calls i with phase := phase }) loop
      (executions ++ [⟨.gui, i, request⟩]) := by
  have hdaemon : ∀ j, runsOf (executions ++ [⟨.gui, i, request⟩]) .daemon j =
      runsOf executions .daemon j := by
    intro j
    rw [runsOf_concat, if_neg (by simp)]
    omega
  have hgiven : ∀ j r, Given H executions j r →
      Given H (executions ++ [⟨.gui, i, request⟩]) j r := by
    intro j r hr
    unfold Given at hr ⊢
    rwa [hdaemon]
  have hrest : Genuine H calls loop (executions ++ [⟨.gui, i, request⟩]) := by
    refine ⟨fun j hj => ?_, fun j r shutdown hloop => ?_, fun j r hr => ?_⟩
    · obtain ⟨hspent, r, n, hbytes, hr⟩ := h.received j hj
      exact ⟨hspent, r, n, hbytes, hgiven j r hr⟩
    · obtain ⟨hnil, hopened, hr⟩ := h.replying j r shutdown hloop
      exact ⟨hnil, hopened, hgiven j r hr⟩
    · have hji : i ≠ j := by
        rintro rfl
        rw [hfailed] at hr
        cases hr
      rw [runsOf_concat, if_neg fun heq => hji heq.2, Nat.add_zero]
      exact (h.returned j r hr).imp_right (And.imp_right (And.imp_right (hgiven j r)))
  apply hrest.withPhase hopening
  intro r hr
  refine Or.inl ⟨?_, hreturned r hr⟩
  rw [runsOf_concat, if_pos ⟨rfl, rfl⟩, hruns]

/-- Which handlers ran for a call that returned. -/
theorem Genuine.answered (h : Genuine H calls loop executions) {i : ℕ} {r : IpcResponse F w.Value}
    (hphase : (calls i).phase = .returned r) :
    (runsOf executions .gui i = 1 ∧ H .gui i r) ∨
    (runsOf executions .gui i = 0 ∧ runsOf executions .daemon i = 1 ∧ H .daemon i r) ∨
    (runsOf executions .gui i = 0 ∧ runsOf executions .daemon i = 0 ∧
      ∃ e, r = .error "INVALID_REQUEST" e) := by
  rcases h.returned i r hphase with hgui | ⟨hgui, -, hgiven⟩
  · exact Or.inl hgui
  · exact Or.inr (hgiven.imp (And.intro hgui) (And.intro hgui))

end Genuine

/-! ### Runs -/

variable {P w}

/-- **What a step keeps.** -/
theorem Genuine.step {H H' : Party → ℕ → IpcResponse F w.Value → Prop}
    {e : ExchangeEvent F w.Value} {s s' : Exchange F w.Value}
    (h : Genuine H s.calls s.loop s.executions) (hsound : s.ledger.Sound w)
    (hstep : Exchange.step P w e s = some s') (hH : ∀ p i r, H p i r → H' p i r)
    (hnew : ∀ p i r, e.Answers P w p i (s.calls i).request r s → H' p i r) :
    Genuine H' s'.calls s'.loop s'.executions := by
  replace h := h.mono hH
  have hdaemon : ∀ i, (s.calls i).phase.stage.unopened + s.loop.slot.serves i +
      runsOf s.executions .daemon i ≤ 1 := hsound.daemon
  have hgui : ∀ i, (s.calls i).phase.stage.unanswered + runsOf s.executions .gui i ≤ 1 :=
    hsound.gui
  -- a call that is served has been opened, and the daemon has not run its handler
  have hserved : ∀ i, s.loop.slot.serves i = 1 → (s.calls i).phase ≠ .opening ∧
      runsOf s.executions .daemon i = 0 := by
    intro i hi
    have hle := hdaemon i
    refine ⟨fun hphase => ?_, by omega⟩
    rw [hphase, hi] at hle
    simp only [CallPhase.stage, Stage.unopened] at hle
    omega
  cases e <;> simp only [Exchange.step] at hstep
  case opens i ok =>
    split at hstep
    case h_1 hphase =>
      split at hstep
      · split at hstep
        · next hloop =>
          cases hstep
          rw [hloop] at h
          exact h.opens hphase
        · cases hstep
      · cases hstep
        exact h.withPhase (by simp) (by simp)
    · cases hstep
  case sends i delivered ok =>
    split at hstep
    case h_1 hphase =>
      cases hstep
      exact (h.withPhase (by split <;> simp) (by split <;> simp)).delivers i _
    · cases hstep
  case receives i arrived ok =>
    split at hstep
    case h_1 hphase =>
      split at hstep
      · next response hreceive =>
        cases hstep
        obtain ⟨hne, hgiven⟩ := h.receives hreceive
        refine h.withPhase (by simp) fun r hr => Or.inr ?_
        cases hr
        have hle := hgui i
        rw [hphase] at hle
        simp only [CallPhase.stage, Stage.unanswered] at hle
        exact ⟨by omega, hne, hgiven⟩
      · cases hstep
        exact h.withPhase (by simp) (by simp)
    · cases hstep
  case fallsBack i a =>
    split at hstep
    case h_1 e hphase =>
      have hruns : runsOf s.executions .gui i = 0 := by
        have hle := hgui i
        rw [hphase] at hle
        simp only [CallPhase.stage, Stage.unanswered] at hle
        omega
      split at hstep
      · next response d hhandle =>
        cases hstep
        refine h.fallsBack hphase hruns _ (by simp) fun r hr => ?_
        cases hr
        exact hnew .gui i response ⟨rfl, d, hhandle⟩
      · cases hstep
        exact h.fallsBack hphase hruns _ (by simp) (by simp)
    · cases hstep
  case accepts elevated =>
    split at hstep
    case h_1 c hloop =>
      cases hstep
      exact h.withLoop (fun j => by rw [hloop]; exact le_rfl) (by simp)
    · cases hstep
  case drops =>
    split at hstep
    · cases hstep
      exact h.withLoop (fun j => Nat.zero_le _) (by simp)
    · cases hstep
  case reads arrived ok =>
    split at hstep
    case h_1 c elevated hloop =>
      have hserves : ∀ j, s.loop.slot.serves j = if c.call = j then 1 else 0 := by
        intro j
        rw [hloop]
        rfl
      have hlisten : Genuine H' s.calls .listening s.executions :=
        h.withLoop (fun j => Nat.zero_le _) (by simp)
      split at hstep
      · cases hstep
        exact hlisten
      · cases hstep
        exact hlisten
      · split at hstep
        · cases hstep
          exact h.withLoop (fun j => (hserves j).ge) (by simp)
        · next e _ =>
          cases hstep
          have hone : s.loop.slot.serves c.call = 1 := (hserves c.call).trans (if_pos rfl)
          obtain ⟨hopened, hruns⟩ := hserved c.call hone
          refine h.answers hone hopened (fun _ _ => rfl) ?_ (fun _ _ => rfl) (fun _ => rfl) ?_
          · rintro j r shutdown ⟨⟩
            rfl
          · rintro r shutdown ⟨⟩
            exact Or.inr ⟨hruns, e, rfl⟩
    · cases hstep
  case handles a =>
    split at hstep
    case h_1 i request elevated hloop =>
      have hrequest : request = (s.calls i).request :=
        hsound.handled i request (congrArg LoopPhase.slot hloop)
      have hone : s.loop.slot.serves i = 1 := by
        rw [hloop]
        exact if_pos rfl
      obtain ⟨hopened, hruns⟩ := hserved i hone
      have hother : ∀ j, j ≠ i → runsOf (s.executions ++ [⟨.daemon, i, request⟩]) .daemon j =
          runsOf s.executions .daemon j := by
        intro j hji
        rw [runsOf_concat, if_neg fun heq => hji heq.2.symm, Nat.add_zero]
      have hsame : ∀ j, runsOf (s.executions ++ [⟨.daemon, i, request⟩]) .gui j =
          runsOf s.executions .gui j := by
        intro j
        rw [runsOf_concat, if_neg (by simp), Nat.add_zero]
      split at hstep
      · next response d hhandle =>
        cases hstep
        refine h.answers hone hopened (fun _ _ => rfl) ?_ hother hsame ?_
        · rintro j r shutdown ⟨⟩
          rfl
        · rintro r shutdown ⟨⟩
          refine Or.inl ⟨?_, hnew .daemon i response ⟨elevated, d, ?_, ?_⟩⟩
          · rw [runsOf_concat, if_pos ⟨rfl, rfl⟩, hruns]
          · rw [hloop, hrequest]
          · rw [← hrequest, hhandle]
      · cases hstep
        refine h.answers hone hopened (fun _ _ => rfl) ?_ hother hsame ?_
        · rintro j r shutdown ⟨⟩
        · rintro r shutdown ⟨⟩
    · cases hstep
  case replies delivered =>
    split at hstep
    case h_1 i response shutdown hloop =>
      cases hstep
      rw [hloop] at h
      refine h.replies delivered (fun j => ?_) fun j r sh => ?_
      · cases shutdown <;> rfl
      · cases shutdown <;> simp
    · cases hstep
  case dies =>
    cases hstep
    exact h.withLoop (fun j => Nat.zero_le _) (by simp)
  case starts pid =>
    split at hstep
    · cases hstep
      exact h.withLoop (fun j => Nat.zero_le _) (by simp)
    · cases hstep

variable {daemon gui : Daemon} {loop : Bool} {requests : ℕ → IpcRequest F}
  {es : List (ExchangeEvent F w.Value)} {s : Exchange F w.Value}

/-- What a run keeps. -/
theorem Exchange.genuine_exec
    (hexec : exec (Exchange.step P w) es (.start daemon gui loop requests) = some s) :
    Genuine (fun p i r => Sometimes (Exchange.step P w) (·.Answers P w p i (requests i) r ·) es
      (.start daemon gui loop requests)) s.calls s.loop s.executions := by
  refine exec_history (I := fun es s => Genuine (fun p i r => Sometimes (Exchange.step P w)
    (·.Answers P w p i (requests i) r ·) es (.start daemon gui loop requests)) s.calls s.loop
      s.executions) ?_ ?_ hexec
  · refine ⟨fun i hi => absurd rfl hi, fun i r shutdown hloop => ?_, fun i r hr => ?_⟩
    · cases loop <;> cases hloop
    · cases hr
  · intro es e t t' hpre h hstep
    obtain ⟨hsound, hrequests⟩ := sound_exec hpre
    refine h.step hsound hstep (fun p i r hr => hr.append [e]) fun p i r hanswers => ?_
    have hrequest : (t.calls i).request = requests i := congrFun hrequests i
    rw [hrequest] at hanswers
    exact Sometimes.of_exec hpre hstep hanswers

/-- **Answers are genuine.**  What a call returns is the response of a handler that ran in this run
for the call and its request: of the one in the user interface just if the call fell back, and of
that of the daemon otherwise; or it is the answer to a line that is no request, and no handler ran
for the call. -/
theorem returned_genuine
    (hexec : exec (Exchange.step P w) es (.start daemon gui loop requests) = some s) {i : ℕ}
    {r : IpcResponse F w.Value} (hphase : (s.calls i).phase = .returned r) :
    (s.ledger.runs .gui i = 1 ∧ Sometimes (Exchange.step P w)
      (·.Answers P w .gui i (requests i) r ·) es (.start daemon gui loop requests)) ∨
    (s.ledger.runs .gui i = 0 ∧ s.ledger.runs .daemon i = 1 ∧ Sometimes (Exchange.step P w)
      (·.Answers P w .daemon i (requests i) r ·) es (.start daemon gui loop requests)) ∨
    (s.ledger.runs .gui i = 0 ∧ s.ledger.runs .daemon i = 0 ∧
      ∃ e, r = .error "INVALID_REQUEST" e) := by
  exact (Exchange.genuine_exec hexec).answered hphase

/-- A call to a daemon that listens, all the way. -/
def pingEvents : List (ExchangeEvent (Option ℕ) Wire.tenths.Value) :=
  [.opens 0 true, .accepts false, .sends 0 100 true, .reads 100 true, .handles .unable,
    .replies 100, .receives 0 100 true]

/-- A ping is answered by the daemon. -/
theorem returned_genuine_ping :
    ∃ s : Exchange (Option ℕ) Wire.tenths.Value, exec (Exchange.step .portable Wire.tenths)
      pingEvents (.start (.start .desktop [] 4) (.start .desktop [] 8) true fun _ => .ping) =
        some s ∧ (s.calls 0).phase = .returned .pong ∧
      Sometimes (Exchange.step .portable Wire.tenths)
        (·.Answers .portable Wire.tenths .daemon 0 .ping .pong ·) pingEvents
        (.start (.start .desktop [] 4) (.start .desktop [] 8) true fun _ => .ping) := by
  obtain ⟨s, hexec, hphase, hparty⟩ : ∃ s : Exchange (Option ℕ) Wire.tenths.Value,
      exec (Exchange.step .portable Wire.tenths) pingEvents
        (.start (.start .desktop [] 4) (.start .desktop [] 8) true fun _ => .ping) = some s ∧
      (s.calls 0).phase = .returned .pong ∧ s.executions.map (·.party) = [.daemon] :=
    ⟨_, rfl, rfl, rfl⟩
  obtain ⟨x, hx, hparty⟩ := List.map_eq_singleton_iff.mp hparty
  have hgui : s.ledger.runs .gui 0 = 0 := by
    show s.executions.countP _ = 0
    rw [hx, List.countP_singleton]
    simp [hparty]
  refine ⟨s, hexec, hphase, ?_⟩
  rcases returned_genuine hexec hphase with ⟨hone, -⟩ | ⟨-, -, hanswers⟩ | ⟨-, -, e, he⟩
  · omega
  · exact hanswers
  · cases he

end ValOpt
