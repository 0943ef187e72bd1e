import ValOpt.Ipc.Equiv.Framing
import ValOpt.Server.Exchange

/-!
# The ledger of the calls

What the exchange of client and daemon comes to for the requests: how far each call is, whether the
daemon still has to do with one of them, and for which the handlers were run.  A daemon serves a
call once, and a client falls back once; a request is executed twice only if a call fails that the
daemon has been reached by.
-/

namespace ValOpt

open Text

variable {F : Type}

/-- How far a call is. -/
inductive Stage where
  | opening
  | sending
  | reading
  | failed
  | done
  deriving DecidableEq, Repr

/-- The call may still reach the daemon for the first time. -/
def Stage.unopened : Stage → ℕ
  | opening => 1
  | _ => 0

/-- The call may still run the handler itself. -/
def Stage.unanswered : Stage → ℕ
  | done => 0
  | _ => 1

/-- The call that the daemon has to do with before its handler runs. -/
inductive Slot (F : Type) where
  | free
  | waiting (c : Connection)
  | handling (call : ℕ) (request : IpcRequest F)

/-- How often the party ran a handler for the call. -/
def runsOf (executions : List (Execution F)) (party : Party) (call : ℕ) : ℕ :=
  executions.countP fun x => x.party = party ∧ x.call = call

theorem runsOf_concat (executions : List (Execution F)) (x : Execution F) (p : Party) (i : ℕ) :
    runsOf (executions ++ [x]) p i =
      runsOf executions p i + if x.party = p ∧ x.call = i then 1 else 0 := by
  unfold runsOf
  simp [List.countP_append, List.countP_singleton]

structure Ledger (F : Type) where
  stage : ℕ → Stage
  request : ℕ → IpcRequest F
  slot : Slot F
  executions : List (Execution F)

def Slot.deliver (call : ℕ) (bytes : Bytes) : Slot F → Slot F
  | waiting c => waiting (c.deliver call bytes)
  | l => l

/-- The slot is taken by the call. -/
def Slot.serves (call : ℕ) : Slot F → ℕ
  | free => 0
  | waiting c => if c.call = call then 1 else 0
  | handling i _ => if i = call then 1 else 0

@[simp] theorem Connection.call_deliver (c : Connection) (call : ℕ) (bytes : Bytes) :
    (c.deliver call bytes).call = c.call := by
  unfold Connection.deliver
  split <;> rfl

@[simp] theorem Slot.serves_deliver (s : Slot F) (i j : ℕ) (bytes : Bytes) :
    (s.deliver i bytes).serves j = s.serves j := by
  cases s with
  | waiting c =>
    show (if (c.deliver i bytes).call = j then 1 else 0) = if c.call = j then 1 else 0
    rw [Connection.call_deliver]
  | _ => rfl

namespace Ledger

variable (w : Wire F)

/-- The runs of a handler for the call so far. -/
def runs (l : Ledger F) (party : Party) (call : ℕ) : ℕ := runsOf l.executions party call

/-- The handler of the daemon is about to run for the call: its request has arrived whole, and can
be read. -/
def Due (l : Ledger F) (call : ℕ) : Prop :=
  match l.slot with
  | .free => False
  | .waiting c => c.call = call ∧
      (messageJson w w.request (l.request call)).length ≤ c.pending.length ∧
      (l.request call).Finite w.floats
  | .handling i _ => i = call

/-- The request of the call has reached the daemon, and was not lost there. -/
def Reached (l : Ledger F) (call : ℕ) : Prop := l.Due w call ∨ 0 < l.runs .daemon call

def setStage (l : Ledger F) (call : ℕ) (stage : Stage) : Ledger F :=
  { l with stage := Function.update l.stage call stage }

def execute (l : Ledger F) (x : Execution F) : Ledger F :=
  { l with executions := l.executions ++ [x] }

/-- What can become of a ledger. -/
inductive Step : Ledger F → Ledger F → Prop
  | opens {l : Ledger F} (i : ℕ) (hstage : l.stage i = .opening) (hslot : l.slot = .free) :
      Step l { l.setStage i .sending with slot := .waiting ⟨i, []⟩ }
  | cannotOpen {l : Ledger F} (i : ℕ) (hstage : l.stage i = .opening) :
      Step l (l.setStage i .failed)
  | sends {l : Ledger F} (i n : ℕ) (stage : Stage) (hstage : l.stage i = .sending)
      (hnext : stage = .reading ∨ stage = .failed) :
      Step l { l.setStage i stage with
        slot := l.slot.deliver i ((encodeMessage w w.request (l.request i)).take n) }
  | receives {l : Ledger F} (i : ℕ) (stage : Stage) (hstage : l.stage i = .reading)
      (hnext : stage = .done ∨ stage = .failed) : Step l (l.setStage i stage)
  | fallsBack {l : Ledger F} (i : ℕ) (hstage : l.stage i = .failed) :
      Step l ((l.setStage i .done).execute ⟨.gui, i, l.request i⟩)
  | reads {l : Ledger F} (c : Connection) (n : ℕ) (r : IpcRequest F) (hslot : l.slot = .waiting c)
      (hdecode : decodeMessage w w.request (readLine (c.pending.take n)).1 = .ok r) :
      Step l { l with slot := .handling c.call r }
  | handles {l : Ledger F} (i : ℕ) (r : IpcRequest F) (hslot : l.slot = .handling i r) :
      Step l { l.execute ⟨.daemon, i, r⟩ with slot := .free }
  | frees {l : Ledger F} : Step l { l with slot := .free }
  | stays {l : Ledger F} : Step l l

/-- A call that fails has not reached the daemon. -/
def KeepsOnce (l l' : Ledger F) : Prop :=
  ∀ i, l.stage i ≠ .failed → l'.stage i = .failed → ¬ l'.Reached w i

/-! ### Updates -/

section Updates

variable (l : Ledger F) (i j : ℕ) (stage : Stage) (slot : Slot F) (x : Execution F) (p : Party)

theorem stage_setStage :
    (l.setStage i stage).stage j = if j = i then stage else l.stage j :=
  Function.update_apply ..

@[simp] theorem runs_setStage : (l.setStage i stage).runs p j = l.runs p j := rfl

@[simp] theorem runs_withSlot : ({ l with slot := slot } : Ledger F).runs p j = l.runs p j := rfl

theorem runs_execute : (l.execute x).runs p j =
    l.runs p j + if x.party = p ∧ x.call = j then 1 else 0 :=
  runsOf_concat ..

end Updates

/-! ### The invariant -/

/-- What holds of every ledger of a run: the daemon has to do with a call after it was opened and
before its handler ran, the client falls back before it is done, only what was asked arrives, and
only after it was sent. -/
structure Sound (l : Ledger F) : Prop where
  daemon : ∀ i, (l.stage i).unopened + l.slot.serves i + l.runs .daemon i ≤ 1
  gui : ∀ i, (l.stage i).unanswered + l.runs .gui i ≤ 1
  pending : ∀ c, l.slot = .waiting c →
    ∃ n, c.pending = (encodeMessage w w.request (l.request c.call)).take n
  unsent : ∀ c, l.slot = .waiting c → l.stage c.call = .sending → c.pending = []
  handled : ∀ i r, l.slot = .handling i r → r = l.request i
  asked : ∀ x ∈ l.executions, x.request = l.request x.call

variable {w} {l l' : Ledger F}

/-- No request changes. -/
theorem Step.request_eq (h : l.Step w l') : l'.request = l.request := by
  cases h <;> rfl

/-- A request is read from what arrived of it just if that can be decoded, and then as what it
is. -/
theorem Sound.decode_iff (h : l.Sound w) {c : Connection} (hslot : l.slot = .waiting c) (n : ℕ)
    (r : IpcRequest F) : decodeMessage w w.request (readLine (c.pending.take n)).1 = .ok r ↔
      ((messageJson w w.request (l.request c.call)).length ≤ min n c.pending.length ∧
        (l.request c.call).Finite w.floats) ∧ r = l.request c.call := by
  obtain ⟨m, hm⟩ := h.pending c hslot
  have hfeed := (isLine_messageJson w w.request (l.request c.call)).noFeed
  have hread : (readLine (c.pending.take n)).1 =
      (encodeMessage w w.request (l.request c.call)).take (min n m) := by
    rw [hm, List.take_take]
    exact readLine_take hfeed _
  have hlength : c.pending.length =
      min m ((messageJson w w.request (l.request c.call)).length + 1) := by
    rw [hm, encodeMessage, List.length_take, List.length_append, List.length_singleton]
  have hiff : (messageJson w w.request (l.request c.call)).length ≤ min n m ↔
      (messageJson w w.request (l.request c.call)).length ≤ min n c.pending.length := by omega
  rw [hread, decode_request_take_iff, hiff]

/-- A call that goes on past the opening. -/
theorem unopened_setStage_le {i : ℕ} {stage : Stage} (h : stage ≠ .opening) (j : ℕ) :
    ((l.setStage i stage).stage j).unopened ≤ (l.stage j).unopened := by
  rw [stage_setStage]
  split
  · cases stage with
    | opening => exact absurd rfl h
    | _ => exact Nat.zero_le _
  · exact le_rfl

/-- A call that was not done before. -/
theorem unanswered_setStage_le {i : ℕ} (stage : Stage) (h : l.stage i ≠ .done) (j : ℕ) :
    ((l.setStage i stage).stage j).unanswered ≤ (l.stage j).unanswered := by
  rw [stage_setStage]
  by_cases hj : j = i
  · rw [if_pos hj, hj]
    cases hstage : l.stage i with
    | done => exact absurd hstage h
    | _ => cases stage <;> decide
  · rw [if_neg hj]

theorem daemon_step (h : l.Sound w) (hstep : l.Step w l') (j : ℕ) :
    (l'.stage j).unopened + l'.slot.serves j + l'.runs .daemon j ≤ 1 := by
  have hj := h.daemon j
  have hmove : ∀ i stage, stage ≠ .opening →
      ((l.setStage i stage).stage j).unopened + l.slot.serves j + l.runs .daemon j ≤ 1 := by
    intro i stage hstage
    have hle := unopened_setStage_le (l := l) (i := i) hstage j
    omega
  cases hstep with
  | opens i hstage hslot =>
    show ((l.setStage i .sending).stage j).unopened + (if i = j then 1 else 0) +
      l.runs .daemon j ≤ 1
    rw [stage_setStage]
    by_cases hij : j = i
    · -- the daemon begins to serve the call that was not opened yet
      subst hij
      rw [hstage] at hj
      rw [if_pos rfl, if_pos rfl]
      simp only [Stage.unopened] at hj ⊢
      omega
    · rw [if_neg hij, if_neg (Ne.symm hij)]
      omega
  | cannotOpen i hstage => exact hmove i .failed nofun
  | sends i n stage hstage hnext =>
    show _ + (l.slot.deliver i _).serves j + l.runs .daemon j ≤ 1
    rw [Slot.serves_deliver]
    exact hmove i stage (by rcases hnext with rfl | rfl <;> nofun)
  | receives i stage hstage hnext =>
    exact hmove i stage (by rcases hnext with rfl | rfl <;> nofun)
  | fallsBack i hstage =>
    rw [runs_execute, if_neg (by simp)]
    exact hmove i .done nofun
  | reads c n r hslot hdecode =>
    rw [hslot] at hj
    exact hj
  | handles i r hslot =>
    -- the handler runs for the call that was served
    rw [hslot] at hj
    rw [runs_withSlot, runs_execute]
    simp only [Slot.serves, true_and] at hj ⊢
    show (l.stage j).unopened + 0 + (l.runs .daemon j + _) ≤ 1
    omega
  | frees =>
    show (l.stage j).unopened + 0 + l.runs .daemon j ≤ 1
    omega
  | stays => exact hj

theorem gui_step (h : l.Sound w) (hstep : l.Step w l') (j : ℕ) :
    (l'.stage j).unanswered + l'.runs .gui j ≤ 1 := by
  have hj := h.gui j
  have hmove : ∀ i stage, l.stage i ≠ .done →
      ((l.setStage i stage).stage j).unanswered + l.runs .gui j ≤ 1 := by
    intro i stage hstage
    have hle := unanswered_setStage_le stage hstage j
    omega
  cases hstep with
  | opens i hstage hslot => exact hmove i _ (by rw [hstage]; nofun)
  | cannotOpen i hstage => exact hmove i _ (by rw [hstage]; nofun)
  | sends i n stage hstage hnext => exact hmove i _ (by rw [hstage]; nofun)
  | receives i stage hstage hnext => exact hmove i _ (by rw [hstage]; nofun)
  | fallsBack i hstage =>
    rw [runs_execute, runs_setStage]
    by_cases hij : j = i
    · subst hij
      show ((l.setStage j .done).stage j).unanswered + _ ≤ 1
      rw [hstage] at hj
      rw [stage_setStage, if_pos rfl, if_pos ⟨rfl, rfl⟩]
      simp only [Stage.unanswered] at hj ⊢
      omega
    · rw [if_neg (by rintro ⟨-, heq⟩; exact hij heq.symm)]
      exact hmove i _ (by rw [hstage]; nofun)
  | reads c n r hslot hdecode => exact hj
  | handles i r hslot =>
    rw [runs_withSlot, runs_execute, if_neg (by simp)]
    exact hj
  | frees => exact hj
  | stays => exact hj

/-- A connection has what was sent, and that is nothing before the sending. -/
theorem pending_step (h : l.Sound w) (hstep : l.Step w l') (c : Connection)
    (hc : l'.slot = .waiting c) :
    (∃ n, c.pending = (encodeMessage w w.request (l'.request c.call)).take n) ∧
      (l'.stage c.call = .sending → c.pending = []) := by
  have hmove : ∀ i stage, stage ≠ .sending → l.slot = .waiting c →
      (∃ n, c.pending = (encodeMessage w w.request (l.request c.call)).take n) ∧
        ((l.setStage i stage).stage c.call = .sending → c.pending = []) := by
    intro i stage hstage hslot
    refine ⟨h.pending c hslot, fun hsending => h.unsent c hslot ?_⟩
    rw [stage_setStage] at hsending
    split at hsending
    · exact absurd hsending hstage
    · exact hsending
  cases hstep with
  | opens i hstage hslot =>
    cases hc
    exact ⟨⟨0, rfl⟩, fun _ => rfl⟩
  | cannotOpen i hstage => exact hmove i .failed nofun hc
  | sends i n stage hstage hnext =>
    have hne : stage ≠ .sending := by rcases hnext with rfl | rfl <;> nofun
    cases hslot : l.slot with
    | waiting c' =>
      rw [hslot] at hc
      cases hc
      by_cases hcall : c'.call = i
      · -- what is delivered now is the first to arrive
        subst hcall
        have hpending : c'.pending = [] := h.unsent c' hslot hstage
        simp only [Connection.deliver, ↓reduceIte, hpending, List.nil_append]
        refine ⟨⟨n, rfl⟩, fun hsending => ?_⟩
        rw [stage_setStage, if_pos rfl] at hsending
        exact absurd hsending hne
      · have hdeliver : c'.deliver i ((encodeMessage w w.request (l.request i)).take n) = c' :=
          if_neg hcall
        rw [hdeliver] at hmove ⊢
        exact hmove i stage hne hslot
    | _ =>
      rw [hslot] at hc
      cases hc
  | receives i stage hstage hnext =>
    exact hmove i stage (by rcases hnext with rfl | rfl <;> nofun) hc
  | fallsBack i hstage => exact hmove i .done nofun hc
  | stays => exact ⟨h.pending c hc, h.unsent c hc⟩
  | reads | handles | frees => cases hc

/-- **What a step keeps.** -/
theorem Sound.step (h : l.Sound w) (hstep : l.Step w l') : l'.Sound w where
  daemon := daemon_step h hstep
  gui := gui_step h hstep
  pending := (pending_step h hstep · · |>.1)
  unsent := (pending_step h hstep · · |>.2)
  handled := by
    cases hstep with
    | reads c n r hslot hdecode =>
      intro i r' heq
      cases heq
      exact ((h.decode_iff hslot n r).mp hdecode).2
    | sends i n stage hstage hnext =>
      intro j r heq
      cases hslot : l.slot with
      | handling j' r' =>
        rw [hslot] at heq
        cases heq
        exact h.handled j r hslot
      | _ =>
        rw [hslot] at heq
        cases heq
    | opens | frees | handles => exact fun _ _ heq => (nomatch heq)
    | _ => exact h.handled
  asked := by
    have hnew : ∀ {x}, x.request = l.request x.call →
        ∀ y ∈ l.executions ++ [x], y.request = l.request y.call := by
      intro x hx y hy
      rcases List.mem_append.mp hy with hy | hy
      · exact h.asked y hy
      · rw [List.mem_singleton.mp hy]
        exact hx
    cases hstep with
    | fallsBack i hstage => exact hnew rfl
    | handles i r hslot => exact hnew (h.handled i r hslot)
    | _ => exact h.asked

/-! ### At most once -/

/-- No request is executed twice. -/
def Once (l : Ledger F) : Prop := ∀ i, l.runs .daemon i + l.runs .gui i ≤ 1

variable (w) in
/-- A call that failed, or that the client executed, has not reached the daemon. -/
def Single (l : Ledger F) : Prop :=
  ∀ i, l.stage i = .failed ∨ 0 < l.runs .gui i → ¬ l.Reached w i

theorem Sound.once (h : l.Sound w) (hsingle : l.Single w) : l.Once := by
  intro i
  have hdaemon := h.daemon i
  have hgui := h.gui i
  by_cases hfallen : 0 < l.runs .gui i
  · have hreached : ¬ 0 < l.runs .daemon i := fun hd => hsingle i (Or.inr hfallen) (Or.inr hd)
    omega
  · omega

/-- The daemon is reached by a call only when it sends. -/
theorem reached_of_step (h : l.Sound w) (hstep : l.Step w l') {i : ℕ} (hreached : l'.Reached w i) :
    l.Reached w i ∨ l.stage i = .sending := by
  cases hstep with
  | opens j hstage hslot =>
    -- A connection that has just been opened carries nothing, and no message is empty.
    rcases hreached with ⟨-, hlength, -⟩ | hruns
    · exact absurd (List.length_eq_zero_iff.mp (Nat.le_zero.mp hlength)) (messageJson_ne_nil w _ _)
    · exact Or.inl (Or.inr hruns)
  | sends j n stage hstage hnext =>
    by_cases hij : j = i
    · exact Or.inr (hij ▸ hstage)
    · refine Or.inl (hreached.imp_left fun hdue => ?_)
      cases hslot : l.slot with
      | waiting c =>
        simp only [Due, hslot, Slot.deliver] at hdue ⊢
        rw [Connection.call_deliver] at hdue
        obtain ⟨hcall, hdue⟩ := hdue
        have hdeliver : c.deliver j ((encodeMessage w w.request (l.request j)).take n) = c :=
          if_neg fun heq => hij (heq.symm.trans hcall)
        rw [hdeliver] at hdue
        exact ⟨hcall, hdue⟩
      | free =>
        simp only [Due, hslot, Slot.deliver] at hdue
      | handling =>
        simp only [Due, hslot, Slot.deliver] at hdue ⊢
        exact hdue
  | fallsBack j hstage =>
    refine Or.inl (hreached.imp_right fun hruns => ?_)
    rwa [runs_execute, if_neg (by simp)] at hruns
  | reads c n r hslot hdecode =>
    -- The bytes of another call do not reach the connection of this one.
    refine Or.inl (hreached.imp_left fun hdue => ?_)
    -- What the server decodes is the whole request of the call that sends.
    obtain ⟨⟨hlength, hfinite⟩, -⟩ := (h.decode_iff hslot n r).mp hdecode
    have hcall : c.call = i := hdue
    rw [hcall] at hlength hfinite
    rw [Due, hslot]
    exact ⟨hcall, by omega, hfinite⟩
  | handles j r hslot =>
    rcases hreached with hdue | hruns
    · exact hdue.elim
    · rw [runs_withSlot, runs_execute] at hruns
      by_cases hij : j = i
      · refine Or.inl (Or.inl ?_)
        rw [Due, hslot]
        exact hij
      · rw [if_neg (fun hx => hij hx.2)] at hruns
        exact Or.inl (Or.inr hruns)
  | frees => exact Or.inl (Or.inr (hreached.resolve_left fun hdue => hdue))
  | cannotOpen | receives | stays => exact Or.inl hreached

/-- The client executes a request only after the call failed. -/
theorem failed_of_step (hstep : l.Step w l') {i : ℕ} (hruns : 0 < l'.runs .gui i) :
    0 < l.runs .gui i ∨ l.stage i = .failed := by
  cases hstep with
  | fallsBack j hstage =>
    rw [runs_execute, runs_setStage] at hruns
    by_cases hij : j = i
    · exact Or.inr (hij ▸ hstage)
    · rw [if_neg (fun hx => hij hx.2)] at hruns
      exact Or.inl hruns
  | handles j r hslot =>
    rw [runs_withSlot, runs_execute, if_neg (by simp)] at hruns
    exact Or.inl hruns
  | _ => exact Or.inl hruns

/-- **A step at which no call fails that has reached the daemon.** -/
theorem Single.step (hsound : l.Sound w) (h : l.Single w) (hstep : l.Step w l')
    (hkeeps : l.KeepsOnce w l') : l'.Single w := by
  intro i hi hreached
  have hbefore := reached_of_step hsound hstep hreached
  have hfailed : ¬ l.stage i = .failed := by
    intro hfailed
    rcases hbefore with hreached | hsending
    · exact h i (Or.inl hfailed) hreached
    · rw [hfailed] at hsending
      cases hsending
  rcases hi with hi | hruns
  · exact hkeeps i hfailed hi hreached
  · have hruns : 0 < l.runs .gui i := (failed_of_step hstep hruns).resolve_right hfailed
    rcases hbefore with hreached | hsending
    · exact h i (Or.inr hruns) hreached
    · -- a call that the client executed is done
      have hgui := hsound.gui i
      rw [hsending] at hgui
      simp only [Stage.unanswered] at hgui
      omega

end Ledger

end ValOpt
