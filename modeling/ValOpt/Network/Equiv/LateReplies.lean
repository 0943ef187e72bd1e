import ValOpt.Network.Echo
import ValOpt.Network.Equiv.Probe

/-!
# Late replies

A round of a probe reads one datagram from its socket.  If it is the reply to an earlier datagram,
that came after the timeout, the round ends without a look at what comes next, and the reply to its
own datagram is left to a later round.  So every reply in time counts exactly if, before each round
with one, nothing is in front of it (`timelyCounted_iff`).  A single late reply can keep all later
ones from being counted, however many there are (`received_eq_of_firstLate`).
-/

namespace ValOpt

open Bytes

variable {K : Type} [Field K]

/-! ### What a round counts -/

section Counting

variable {W : Type} (ep : Endpoint W) (config : UdpProbeConfig) (qpcFreq : ℤ)

/-- A receive counts if it reads the datagram of its round. -/
theorem receiveReply_received_iff (seq sendTimeUs : ℕ) (s : ProbeLoop K W) :
    (receiveReply ep qpcFreq seq sendTimeUs s).packetsReceived = s.packetsReceived + 1 ↔
      ∃ datagram world, ep.recvFrom s.world = (.ok datagram, world) ∧ 12 ≤ datagram.length ∧
        leValue (datagram.take 4) = seq := by
  have hne : s.packetsReceived ≠ s.packetsReceived + 1 := (Nat.succ_ne_self _).symm
  rw [receiveReply]
  split
  next datagram world hrecv =>
    dsimp only
    split_ifs with hlen hseq
    · exact iff_of_true rfl ⟨datagram, world, hrecv, hlen, hseq⟩
    · refine iff_of_false hne ?_
      rintro ⟨datagram', world', hrecv', -, hseq'⟩
      rw [hrecv, Prod.mk.injEq, Except.ok.injEq] at hrecv'
      exact hseq (hrecv'.1 ▸ hseq')
    · refine iff_of_false hne ?_
      rintro ⟨datagram', world', hrecv', hlen', -⟩
      rw [hrecv, Prod.mk.injEq, Except.ok.injEq] at hrecv'
      exact hlen (hrecv'.1 ▸ hlen')
  next e world hrecv =>
    refine iff_of_false hne ?_
    rintro ⟨datagram', world', hrecv', -⟩
    rw [hrecv] at hrecv'
    cases hrecv'

/-- The payload of a round. -/
def payloadOf (ep : Endpoint W) (qpcFreq : ℤ) (seq : ℕ) (world : W) : List UInt8 :=
  leBytes 4 seq ++ leBytes 8 (getQpcTimeUs qpcFreq (ep.queryPerformanceCounter world).1)

variable {config qpcFreq} in
theorem probeRound_of_unsent {s : ProbeLoop K W} {seq : ℕ} {e : String} {world : W}
    (h : ep.sendTo (payloadOf ep qpcFreq seq s.world) config.targetAddr
      (ep.queryPerformanceCounter s.world).2 = (.error e, world)) :
    probeRound ep config qpcFreq s seq = { s with
      world := ep.sleep config.packetIntervalMs.toNat world
      packetsSent := s.packetsSent + 1 } := by
  rw [payloadOf] at h
  rw [probeRound]
  dsimp only
  rw [h]

variable {config qpcFreq} in
theorem probeRound_of_sent {s : ProbeLoop K W} {seq : ℕ} {world : W}
    (h : ep.sendTo (payloadOf ep qpcFreq seq s.world) config.targetAddr
      (ep.queryPerformanceCounter s.world).2 = (.ok (), world)) :
    ∃ received, received = receiveReply ep qpcFreq seq
        (getQpcTimeUs qpcFreq (ep.queryPerformanceCounter s.world).1)
        { s with world, packetsSent := s.packetsSent + 1 } ∧
      probeRound ep config qpcFreq s seq = { received with
        world := if 0 < config.packetIntervalMs then
          ep.sleep config.packetIntervalMs.toNat received.world else received.world } := by
  rw [payloadOf] at h
  refine ⟨_, rfl, ?_⟩
  rw [probeRound]
  dsimp only
  rw [h]
  dsimp only
  split_ifs <;> rfl

/-- A round counts if its datagram is sent and the next one that is read is its own. -/
theorem probeRound_received_iff (s : ProbeLoop K W) (seq : ℕ) :
    (probeRound ep config qpcFreq s seq).packetsReceived = s.packetsReceived + 1 ↔
      ∃ world datagram world',
        ep.sendTo (payloadOf ep qpcFreq seq s.world) config.targetAddr
          (ep.queryPerformanceCounter s.world).2 = (.ok (), world) ∧
        ep.recvFrom world = (.ok datagram, world') ∧ 12 ≤ datagram.length ∧
        leValue (datagram.take 4) = seq := by
  rcases hsend : ep.sendTo (payloadOf ep qpcFreq seq s.world) config.targetAddr
    (ep.queryPerformanceCounter s.world).2 with ⟨e | _, world⟩
  · rw [probeRound_of_unsent ep hsend]
    refine iff_of_false (Nat.succ_ne_self _).symm ?_
    rintro ⟨world', -, -, hsend', -⟩
    exact nomatch hsend'
  · obtain ⟨received, hreceived, hround⟩ := probeRound_of_sent ep hsend
    have hreceive := receiveReply_received_iff ep qpcFreq seq
      (getQpcTimeUs qpcFreq (ep.queryPerformanceCounter s.world).1)
      { s with world, packetsSent := s.packetsSent + 1 }
    rw [← hreceived] at hreceive
    rw [hround]
    refine hreceive.trans ⟨?_, ?_⟩
    · rintro ⟨datagram, world', hrecv⟩
      exact ⟨world, datagram, world', rfl, hrecv⟩
    · rintro ⟨world₁, datagram, world', hsend', hrecv⟩
      obtain ⟨-, rfl⟩ := Prod.ext_iff.mp hsend'
      exact ⟨datagram, world', hrecv⟩

theorem probeRound_received_of_not {s : ProbeLoop K W} {seq : ℕ}
    (h : (probeRound ep config qpcFreq s seq).packetsReceived ≠ s.packetsReceived + 1) :
    (probeRound ep config qpcFreq s seq).packetsReceived = s.packetsReceived := by
  obtain ⟨-, ⟨-, hsame⟩ | ⟨-, -, hmore⟩⟩ := probeRound_cases ep config qpcFreq s seq
  · exact hsame
  · exact absurd hmore h

/-- The round with this number counts the reply to its datagram. -/
def Counted (K : Type) [Field K] (ep : Endpoint W) (config : UdpProbeConfig) (qpcFreq : ℤ)
    (world : W) (seq : ℕ) : Prop :=
  (probeRounds (K := K) ep config qpcFreq seq world).packetsReceived =
    (probeRounds (K := K) ep config qpcFreq (seq - 1) world).packetsReceived + 1

instance (world : W) (seq : ℕ) : Decidable (Counted K ep config qpcFreq world seq) :=
  inferInstanceAs (Decidable (_ = _))

/-- What is received is what the rounds count. -/
theorem probeRounds_received (rounds : ℕ) (world : W) :
    (probeRounds (K := K) ep config qpcFreq rounds world).packetsReceived =
      (List.range' 1 rounds).countP fun seq => Counted K ep config qpcFreq world seq := by
  induction rounds with
  | zero => rfl
  | succ rounds ih =>
    rw [List.range'_1_concat, List.countP_append, ← ih, List.countP_singleton, Nat.add_comm 1]
    by_cases hcounted : Counted K ep config qpcFreq world (rounds + 1)
    · rw [if_pos (decide_eq_true hcounted)]
      exact hcounted
    · rw [if_neg (by simpa using hcounted), Nat.add_zero]
      rw [Counted, probeRounds_succ] at hcounted
      rw [probeRounds_succ]
      exact probeRound_received_of_not ep config qpcFreq hcounted

end Counting

/-! ### The network -/

namespace EchoWorld

variable (schedule : EchoSchedule) (payload : List UInt8) (w : EchoWorld)

/-- A receive reads the first datagram in time, or waits for the timeout. -/
theorem recvFrom_cases :
    (∃ item rest, w.recvFrom = (.ok item.2, { w with now := max w.now item.1, socket := rest }) ∧
        w.socket.items = item :: rest.items ∧ item.1 < w.now + w.readTimeout) ∨
      w.recvFrom = (.error "timed out", { w with now := w.now + w.readTimeout }) ∧
        ∀ item ∈ w.socket.items, w.now + w.readTimeout ≤ item.1 := by
  rw [recvFrom]
  rcases w.socket.take_cases (w.now + w.readTimeout) with
    ⟨item, rest, htake, hitems, hlt⟩ | ⟨htake, hle⟩
  · rw [htake]
    exact .inl ⟨item, rest, rfl, hitems, hlt⟩
  · rw [htake]
    exact .inr ⟨rfl, hle⟩

/-- The world after a send that is not answered. -/
def departed : EchoWorld :=
  { w with
    now := w.now + schedule.before (w.sent + 1) + schedule.after (w.sent + 1)
    sent := w.sent + 1 }

/-- The world after a send that is going to be answered. -/
def echoing (delay : ℕ) : EchoWorld :=
  { w.departed schedule with
    socket := w.socket.put (w.now + schedule.before (w.sent + 1) + delay) payload }

variable {schedule w} in
theorem sendTo_of_unsent (h : schedule.delivery (w.sent + 1) = .unsent) :
    w.sendTo schedule payload = (.error "network unreachable", w.departed schedule) := by
  rw [sendTo]
  dsimp only
  rw [h]
  rfl

variable {schedule w} in
theorem sendTo_of_lost (h : schedule.delivery (w.sent + 1) = .lost) :
    w.sendTo schedule payload = (.ok (), w.departed schedule) := by
  rw [sendTo]
  dsimp only
  rw [h]
  rfl

variable {schedule w} in
theorem sendTo_of_echoed {delay : ℕ} (h : schedule.delivery (w.sent + 1) = .echoed delay) :
    w.sendTo schedule payload = (.ok (), w.echoing schedule payload delay) := by
  rw [sendTo]
  dsimp only
  rw [h]
  rfl

/-- What a send and its receive leave. -/
def exchange : EchoWorld :=
  match w.sendTo schedule payload with
  | (.error _, w) => w
  | (.ok _, w) => w.recvFrom.2

/-- A receive takes time, and at most a datagram. -/
theorem recvFrom_spec : w.recvFrom.2.sent = w.sent ∧ w.recvFrom.2.readTimeout = w.readTimeout ∧
    w.now ≤ w.recvFrom.2.now ∧ ∀ item ∈ w.recvFrom.2.socket.items, item ∈ w.socket.items := by
  rcases w.recvFrom_cases with ⟨item, rest, hrecv, hitems, -⟩ | ⟨hrecv, -⟩
  · rw [hrecv, hitems]
    exact ⟨rfl, rfl, le_max_left _ _, fun _ => List.mem_cons_of_mem _⟩
  · rw [hrecv]
    exact ⟨rfl, rfl, Nat.le_add_right _ _, fun _ => id⟩

/-- What is in the socket afterwards was there before, or is the reply. -/
theorem exchange_spec :
    (w.exchange schedule payload).sent = w.sent + 1 ∧
      (w.exchange schedule payload).readTimeout = w.readTimeout ∧
      w.now + schedule.before (w.sent + 1) ≤ (w.exchange schedule payload).now ∧
      ∀ item ∈ (w.exchange schedule payload).socket.items, item ∈ w.socket.items ∨
        ∃ delay, schedule.delivery (w.sent + 1) = .echoed delay ∧
          item = (w.now + schedule.before (w.sent + 1) + delay, payload) := by
  rw [exchange]
  rcases hdelivery : schedule.delivery (w.sent + 1) with _ | _ | delay
  · rw [sendTo_of_unsent payload hdelivery]
    exact ⟨rfl, rfl, Nat.le_add_right _ _, fun _ => .inl⟩
  · rw [sendTo_of_lost payload hdelivery]
    obtain ⟨hsent, htimeout, hnow, hitems⟩ := recvFrom_spec (w.departed schedule)
    exact ⟨hsent, htimeout, (Nat.le_add_right _ _).trans hnow, fun item h => .inl (hitems item h)⟩
  · rw [sendTo_of_echoed payload hdelivery]
    obtain ⟨hsent, htimeout, hnow, hitems⟩ := recvFrom_spec (w.echoing schedule payload delay)
    refine ⟨hsent, htimeout, (Nat.le_add_right _ _).trans hnow, ?_⟩
    intro item h
    rcases Mailbox.mem_put.mp (hitems item h) with rfl | hold
    · exact .inr ⟨delay, rfl, rfl⟩
    · exact .inl hold

/-- With another datagram in front of it, the reply stays in the socket. -/
theorem mem_exchange_of_behind {delay : ℕ}
    (hdelivery : schedule.delivery (w.sent + 1) = .echoed delay)
    (hbehind : ∃ item ∈ w.socket.items, item.1 ≤ w.now + schedule.before (w.sent + 1) + delay) :
    (w.now + schedule.before (w.sent + 1) + delay, payload) ∈
      (w.exchange schedule payload).socket.items := by
  obtain ⟨first, rest, -, -, hmem, hput⟩ := Mailbox.put_of_behind payload hbehind
  rw [exchange, sendTo_of_echoed payload hdelivery]
  dsimp only
  rcases recvFrom_cases (w.echoing schedule payload delay) with
    ⟨item, left, hrecv, hitems, -⟩ | ⟨hrecv, -⟩
  · rw [hrecv]
    obtain ⟨-, hrest⟩ := List.cons.inj (hput.symm.trans hitems)
    exact hrest ▸ hmem
  · rw [hrecv]
    exact Mailbox.mem_put.mpr (.inl rfl)

/-- With nothing else in the socket, the reply is read, or is still on its way after the timeout. -/
theorem exchange_of_nil {delay : ℕ} (hnil : w.socket.items = [])
    (hdelivery : schedule.delivery (w.sent + 1) = .echoed delay) :
    (delay < schedule.after (w.sent + 1) + w.readTimeout ∧
        (w.exchange schedule payload).socket.items = []) ∨
      schedule.after (w.sent + 1) + w.readTimeout ≤ delay ∧
        (w.exchange schedule payload).socket.items =
          [(w.now + schedule.before (w.sent + 1) + delay, payload)] ∧
        (w.exchange schedule payload).now =
          w.now + schedule.before (w.sent + 1) + schedule.after (w.sent + 1) + w.readTimeout := by
  have hput : (w.echoing schedule payload delay).socket.items =
      [(w.now + schedule.before (w.sent + 1) + delay, payload)] := by
    rw [← hnil]
    exact Mailbox.put_of_first payload (by rw [hnil]; exact List.forall_mem_nil _)
  rw [exchange, sendTo_of_echoed payload hdelivery]
  dsimp only
  rcases recvFrom_cases (w.echoing schedule payload delay) with
    ⟨item, rest, hrecv, hitems, hlt⟩ | ⟨hrecv, hlate⟩
  · rw [hrecv]
    obtain ⟨rfl, hrest⟩ := List.cons.inj (hitems.symm.trans hput)
    have hlt' : w.now + schedule.before (w.sent + 1) + delay <
        w.now + schedule.before (w.sent + 1) + schedule.after (w.sent + 1) + w.readTimeout := hlt
    exact .inl ⟨by omega, hrest⟩
  · rw [hrecv]
    have hle : w.now + schedule.before (w.sent + 1) + schedule.after (w.sent + 1) +
        w.readTimeout ≤ w.now + schedule.before (w.sent + 1) + delay :=
      hlate (_, payload) (by rw [hput]; exact List.mem_cons_self)
    exact .inr ⟨by omega, hput, rfl⟩

/-- With nothing else in the socket, nothing is left if the reply is not late. -/
theorem exchange_nil (hnil : w.socket.items = [])
    (hcome : ∀ delay, schedule.delivery (w.sent + 1) = .echoed delay →
      delay < schedule.after (w.sent + 1) + w.readTimeout) :
    (w.exchange schedule payload).socket.items = [] := by
  obtain ⟨-, -, -, hitems⟩ := w.exchange_spec schedule payload
  apply List.eq_nil_iff_forall_not_mem.mpr
  intro item hitem
  rcases hitems item hitem with hold | ⟨delay, hdelivery, -⟩
  · rw [hnil] at hold
    exact List.not_mem_nil hold
  · rcases w.exchange_of_nil schedule payload hnil hdelivery with ⟨-, hread⟩ | ⟨hlate, -⟩
    · rw [hread] at hitem
      exact List.not_mem_nil hitem
    · exact absurd (hcome delay hdelivery) (not_lt.mpr hlate)

/-- The receive reads the reply exactly if it comes in time, and ahead of what is in the socket. -/
theorem reads_reply_iff {seq : ℕ} (hsent : w.sent + 1 = seq) (hlen : 12 ≤ payload.length)
    (hown : leValue (payload.take 4) = seq)
    (hforeign : ∀ item ∈ w.socket.items, leValue (item.2.take 4) ≠ seq) :
    (∃ world datagram world', w.sendTo schedule payload = (.ok (), world) ∧
        world.recvFrom = (.ok datagram, world') ∧ 12 ≤ datagram.length ∧
        leValue (datagram.take 4) = seq) ↔
      ∃ delay, schedule.delivery seq = .echoed delay ∧
        delay < schedule.after seq + w.readTimeout ∧
        ∀ item ∈ w.socket.items, w.now + schedule.before seq + delay < item.1 := by
  subst hsent
  constructor
  · rintro ⟨world, datagram, world', hsend, hrecv, -, hseq⟩
    rcases hdelivery : schedule.delivery (w.sent + 1) with _ | _ | delay
    · rw [sendTo_of_unsent payload hdelivery] at hsend
      exact nomatch hsend
    · -- there are only replies to other datagrams in the socket
      rw [sendTo_of_lost payload hdelivery] at hsend
      obtain ⟨-, rfl⟩ := Prod.ext_iff.mp hsend
      rcases recvFrom_cases (w.departed schedule) with ⟨item, rest, hread, hitems, -⟩ | ⟨hread, -⟩
      · rw [hread, Prod.mk.injEq, Except.ok.injEq] at hrecv
        exact absurd (hrecv.1 ▸ hseq) (hforeign item (hitems ▸ List.mem_cons_self))
      · rw [hread] at hrecv
        exact nomatch hrecv
    · rw [sendTo_of_echoed payload hdelivery] at hsend
      obtain ⟨-, rfl⟩ := Prod.ext_iff.mp hsend
      rcases recvFrom_cases (w.echoing schedule payload delay) with
        ⟨item, rest, hread, hitems, hlt⟩ | ⟨hread, -⟩
      · rw [hread, Prod.mk.injEq, Except.ok.injEq] at hrecv
        have hfront : ∀ item ∈ w.socket.items,
            w.now + schedule.before (w.sent + 1) + delay < item.1 := by
          by_contra hnot
          push Not at hnot
          obtain ⟨first, others, hmem, -, -, hput⟩ := Mailbox.put_of_behind payload hnot
          have hfirst : first = item := (List.cons.inj (hput.symm.trans hitems)).1
          exact absurd (hrecv.1 ▸ hseq) (hforeign item (hfirst ▸ hmem))
        have hput := Mailbox.put_of_first payload hfront
        rw [← (List.cons.inj (hput.symm.trans hitems)).1] at hlt
        have hlt' : w.now + schedule.before (w.sent + 1) + delay < w.now +
            schedule.before (w.sent + 1) + schedule.after (w.sent + 1) + w.readTimeout := hlt
        exact ⟨delay, rfl, by omega, hfront⟩
      · rw [hread] at hrecv
        exact nomatch hrecv
  · rintro ⟨delay, hdelivery, hlt, hfront⟩
    have hput := Mailbox.put_of_first payload hfront
    rcases recvFrom_cases (w.echoing schedule payload delay) with
      ⟨item, rest, hread, hitems, -⟩ | ⟨-, hlate⟩
    · rw [← (List.cons.inj (hput.symm.trans hitems)).1] at hread
      exact ⟨_, payload, _, sendTo_of_echoed payload hdelivery, hread, hlen, hown⟩
    · have hle : w.now + schedule.before (w.sent + 1) + schedule.after (w.sent + 1) +
          w.readTimeout ≤ w.now + schedule.before (w.sent + 1) + delay :=
        hlate _ (Mailbox.mem_put.mpr (.inl rfl))
      omega

end EchoWorld

/-! ### The rounds of a probe -/

section Echo

variable (schedule : EchoSchedule) (config : UdpProbeConfig) (qpcFreq : ℤ)

theorem sleep_zero (w : EchoWorld) : w.sleep schedule 0 = w := by
  rw [EchoWorld.sleep, Nat.zero_mul, Nat.add_zero]

theorem receiveReply_world (seq sendTimeUs : ℕ) (s : ProbeLoop K EchoWorld) :
    (receiveReply (echoNetwork schedule) qpcFreq seq sendTimeUs s).world = s.world.recvFrom.2 := by
  have hrecv : (echoNetwork schedule).recvFrom s.world = s.world.recvFrom := rfl
  rw [receiveReply, hrecv]
  split
  next datagram world hok =>
    rw [hok]
    dsimp only
    split_ifs <;> rfl
  next e world herror =>
    rw [herror]

theorem probeRound_world (s : ProbeLoop K EchoWorld) (seq : ℕ) :
    (probeRound (echoNetwork schedule) config qpcFreq s seq).world =
      (s.world.exchange schedule (payloadOf (echoNetwork schedule) qpcFreq seq s.world)).sleep
        schedule config.packetIntervalMs.toNat := by
  rw [EchoWorld.exchange]
  rcases hsend : s.world.sendTo schedule (payloadOf (echoNetwork schedule) qpcFreq seq s.world) with
    ⟨e | _, world⟩
  · rw [probeRound_of_unsent (echoNetwork schedule) hsend]
    rfl
  · obtain ⟨received, rfl, hround⟩ := probeRound_of_sent (echoNetwork schedule) hsend
    rw [hround, receiveReply_world]
    dsimp only
    split_ifs with hpos
    · rfl
    · have hzero : config.packetIntervalMs = 0 := by
        simpa [UInt64.pos_iff_ne_zero] using hpos
      rw [hzero]
      exact (sleep_zero schedule _).symm

/-- The number of a datagram is in its first bytes. -/
theorem leValue_payload {seq : ℕ} (hseq : seq < 2 ^ 32) (time : ℕ) :
    leValue ((leBytes 4 seq ++ leBytes 8 time).take 4) = seq := by
  rw [List.take_left' (length_leBytes 4 seq), leValue_leBytes hseq]

/-- What holds before a round: what is in the socket are replies to the rounds before. -/
structure Reached (rounds : ℕ) (w : EchoWorld) : Prop where
  sent : w.sent = rounds
  readTimeout : w.readTimeout = config.timeoutMs.toNat * schedule.ticksPerMs
  replies : ∀ item ∈ w.socket.items, ∃ seq time, seq ≤ rounds ∧
    item.2 = leBytes 4 seq ++ leBytes 8 time

variable {schedule config}

theorem Reached.round {rounds : ℕ} {s : ProbeLoop K EchoWorld}
    (h : Reached schedule config rounds s.world) :
    Reached schedule config (rounds + 1)
      (probeRound (echoNetwork schedule) config qpcFreq s (rounds + 1)).world := by
  obtain ⟨hsent, htimeout, hreplies⟩ := h
  rw [probeRound_world]
  obtain ⟨hsent', htimeout', -, hitems⟩ := s.world.exchange_spec schedule
    (payloadOf (echoNetwork schedule) qpcFreq (rounds + 1) s.world)
  refine ⟨?_, ?_, ?_⟩
  · exact hsent'.trans (congrArg (· + 1) hsent)
  · exact htimeout'.trans htimeout
  · intro item hitem
    rcases hitems item hitem with hold | ⟨delay, -, rfl⟩
    · obtain ⟨seq, time, hle, hdatagram⟩ := hreplies item hold
      exact ⟨seq, time, by omega, hdatagram⟩
    · exact ⟨rounds + 1, _, le_rfl, rfl⟩

theorem probeRounds_reached {opened : EchoWorld} (h : Reached schedule config 0 opened)
    (rounds : ℕ) :
    Reached schedule config rounds
      (probeRounds (K := K) (echoNetwork schedule) config qpcFreq rounds opened).world := by
  induction rounds with
  | zero => exact h
  | succ rounds ih =>
    rw [probeRounds_succ]
    exact ih.round qpcFreq

/-- A probe starts with an empty socket. -/
theorem openSocket_eq_ok {start opened : EchoWorld} {qpcFreq : ℤ}
    (h : openSocket (echoNetwork schedule) config start = (.ok qpcFreq, opened)) :
    opened = { start with
      sent := 0
      readTimeout := config.timeoutMs.toNat * schedule.ticksPerMs
      socket := .empty } := by
  rw [openSocket] at h
  dsimp only [echoNetwork] at h
  split_ifs at h with hfreq htimeout
  · exact nomatch (Prod.ext_iff.mp h).1
  · exact nomatch (Prod.ext_iff.mp h).1
  · exact (Prod.ext_iff.mp h).2.symm

theorem openSocket_reached {start opened : EchoWorld} {qpcFreq : ℤ}
    (h : openSocket (echoNetwork schedule) config start = (.ok qpcFreq, opened)) :
    Reached schedule config 0 opened := by
  rw [openSocket_eq_ok h]
  exact ⟨rfl, rfl, List.forall_mem_nil _⟩

/-- A round counts exactly if its reply comes in time and nothing is in front of it. -/
theorem probeRound_counts_iff {rounds : ℕ} (hrounds : rounds + 1 < 2 ^ 32)
    {s : ProbeLoop K EchoWorld} (h : Reached schedule config rounds s.world) :
    (probeRound (echoNetwork schedule) config qpcFreq s (rounds + 1)).packetsReceived =
        s.packetsReceived + 1 ↔
      InTime schedule config (rounds + 1) ∧ NothingInFront schedule (rounds + 1) s.world := by
  obtain ⟨hsent, htimeout, hreplies⟩ := h
  have hforeign : ∀ item ∈ s.world.socket.items, leValue (item.2.take 4) ≠ rounds + 1 := by
    intro item hitem
    obtain ⟨seq, time, hle, hdatagram⟩ := hreplies item hitem
    rw [hdatagram, leValue_payload (by omega)]
    omega
  have hlen : 12 ≤ (payloadOf (echoNetwork schedule) qpcFreq (rounds + 1) s.world).length := by
    rw [payloadOf, List.length_append, length_leBytes, length_leBytes]
  have hreads := s.world.reads_reply_iff schedule _ (congrArg (· + 1) hsent) hlen
    (leValue_payload hrounds _) hforeign
  rw [probeRound_received_iff]
  refine hreads.trans ⟨?_, ?_⟩
  · rintro ⟨delay, hdelivery, hlt, hfront⟩
    rw [htimeout] at hlt
    refine ⟨⟨delay, hdelivery, hlt⟩, ?_⟩
    intro delay' hdelivery'
    obtain rfl := Delivery.echoed.inj (hdelivery.symm.trans hdelivery')
    exact hfront
  · rintro ⟨⟨delay, hdelivery, hlt⟩, hfront⟩
    rw [← htimeout] at hlt
    exact ⟨delay, hdelivery, hlt, hfront delay hdelivery⟩

variable (schedule config) in
/-- Before its round, nothing is in front of a reply that comes in time. -/
def NeverBehind (K : Type) [Field K] (start : EchoWorld) : Prop :=
  ∀ qpcFreq opened, openSocket (echoNetwork schedule) config start = (.ok qpcFreq, opened) →
    ∀ seq ∈ List.range' 1 config.packetCount.toNat, InTime schedule config seq →
      NothingInFront schedule seq
        (probeRounds (K := K) (echoNetwork schedule) config qpcFreq (seq - 1) opened).world

variable (schedule config) in
/-- Every probe whose reply comes in time is counted. -/
def TimelyCounted (K : Type) [Field K] (start : EchoWorld) : Prop :=
  ∀ qpcFreq opened, openSocket (echoNetwork schedule) config start = (.ok qpcFreq, opened) →
    ∀ seq ∈ List.range' 1 config.packetCount.toNat, InTime schedule config seq →
      Counted K (echoNetwork schedule) config qpcFreq opened seq

theorem counted_iff {opened : EchoWorld} (h : Reached schedule config 0 opened) {seq : ℕ}
    (hseq : seq ∈ List.range' 1 config.packetCount.toNat) :
    Counted K (echoNetwork schedule) config qpcFreq opened seq ↔
      InTime schedule config seq ∧ NothingInFront schedule seq
        (probeRounds (K := K) (echoNetwork schedule) config qpcFreq (seq - 1) opened).world := by
  have hcount : config.packetCount.toNat < 2 ^ 32 := config.packetCount.toNat_lt
  obtain ⟨rounds, rfl⟩ : ∃ rounds, seq = rounds + 1 := by
    rw [List.mem_range'_1] at hseq
    exact ⟨seq - 1, by omega⟩
  rw [List.mem_range'_1] at hseq
  rw [Counted, probeRounds_succ, Nat.add_sub_cancel]
  exact probeRound_counts_iff qpcFreq (by omega) (probeRounds_reached qpcFreq h rounds)

end Echo

/-! ### What a late reply costs -/

section Late

variable {schedule : EchoSchedule} {config : UdpProbeConfig} (qpcFreq : ℤ)

/-- A datagram comes ahead of the next reply, or with it. -/
def Behind (schedule : EchoSchedule) (w : EchoWorld) : Prop :=
  ∃ delay, schedule.delivery (w.sent + 1) = .echoed delay ∧
    ∃ item ∈ w.socket.items, item.1 ≤ w.now + schedule.before (w.sent + 1) + delay

theorem Behind.not_front {w : EchoWorld} (h : Behind schedule w) :
    ¬ NothingInFront schedule (w.sent + 1) w := by
  obtain ⟨delay, hdelivery, item, hitem, hle⟩ := h
  intro hfront
  exact absurd (hfront delay hdelivery item hitem) (not_lt.mpr hle)

/-- In a round that starts behind, the reply is left for the next round, and is in front of the next
one if that does not come faster. -/
theorem Behind.round {s : ProbeLoop K EchoWorld} (h : Behind schedule s.world) (seq : ℕ)
    (hnext : ∀ delay, schedule.delivery (s.world.sent + 1) = .echoed delay →
      ∃ delay', schedule.delivery (s.world.sent + 2) = .echoed delay' ∧ delay ≤ delay') :
    Behind schedule (probeRound (echoNetwork schedule) config qpcFreq s seq).world := by
  obtain ⟨delay, hdelivery, hbehind⟩ := h
  obtain ⟨delay', hdelivery', hle⟩ := hnext delay hdelivery
  rw [probeRound_world]
  obtain ⟨hsent, -, hnow, -⟩ := s.world.exchange_spec schedule
    (payloadOf (echoNetwork schedule) qpcFreq seq s.world)
  have hmem := s.world.mem_exchange_of_behind schedule
    (payloadOf (echoNetwork schedule) qpcFreq seq s.world) hdelivery hbehind
  refine ⟨delay', ?_, _, hmem, ?_⟩
  · rw [EchoWorld.sleep, hsent]
    exact hdelivery'
  · have hlater : s.world.now + schedule.before (s.world.sent + 1) ≤ (EchoWorld.sleep schedule
        config.packetIntervalMs.toNat (s.world.exchange schedule
          (payloadOf (echoNetwork schedule) qpcFreq seq s.world))).now :=
      hnow.trans (Nat.le_add_right _ _)
    dsimp only
    omega

/-- **A late reply can cost all probes.**  Once a round starts behind, and from there on every
datagram is answered, no faster than the one before it, no later round counts. -/
theorem received_eq_of_behind {opened : EchoWorld} (h : Reached schedule config 0 opened)
    {first : ℕ} (delays : ℕ → ℕ) (hdelivery : ∀ seq, first < seq →
      schedule.delivery seq = .echoed (delays seq) ∧ delays seq ≤ delays (seq + 1))
    (hbehind : Behind schedule
      (probeRounds (K := K) (echoNetwork schedule) config qpcFreq first opened).world)
    (more : ℕ) (hcount : first + more < 2 ^ 32) :
    (probeRounds (K := K) (echoNetwork schedule) config qpcFreq (first + more)
        opened).packetsReceived =
      (probeRounds (K := K) (echoNetwork schedule) config qpcFreq first opened).packetsReceived ∧
    Behind schedule
      (probeRounds (K := K) (echoNetwork schedule) config qpcFreq (first + more) opened).world := by
  induction more with
  | zero => exact ⟨rfl, hbehind⟩
  | succ more ih =>
    obtain ⟨hreceived, hbehind'⟩ := ih (by omega)
    have hreached := probeRounds_reached (K := K) qpcFreq h (first + more)
    rw [← Nat.add_assoc, probeRounds_succ]
    constructor
    · have hnot := mt (probeRound_counts_iff qpcFreq hcount hreached).mp fun hfront =>
        hbehind'.not_front (by rw [hreached.sent]; exact hfront.2)
      exact (probeRound_received_of_not _ config qpcFreq hnot).trans hreceived
    · refine hbehind'.round qpcFreq (first + more + 1) ?_
      rw [hreached.sent]
      intro delay hdelay
      obtain ⟨hdelivery₁, hle⟩ := hdelivery (first + more + 1) (by omega)
      obtain rfl := Delivery.echoed.inj (hdelivery₁.symm.trans hdelay)
      exact ⟨_, (hdelivery (first + more + 2) (by omega)).1, hle⟩

/-- As long as no reply is late, the socket is empty between the rounds. -/
theorem socket_eq_nil {opened : EchoWorld} (h : Reached schedule config 0 opened)
    (hnil : opened.socket.items = []) {rounds : ℕ}
    (hall : ∀ seq ∈ List.range' 1 rounds, ∀ delay, schedule.delivery seq = .echoed delay →
      InTime schedule config seq) :
    (probeRounds (K := K) (echoNetwork schedule) config qpcFreq rounds
      opened).world.socket.items = [] := by
  induction rounds with
  | zero => exact hnil
  | succ rounds ih =>
    have hreached := probeRounds_reached (K := K) qpcFreq h rounds
    have hempty := ih fun seq hseq => hall seq (by rw [List.mem_range'_1] at hseq ⊢; omega)
    rw [probeRounds_succ, probeRound_world]
    refine EchoWorld.exchange_nil schedule _ _ hempty ?_
    rw [hreached.sent, hreached.readTimeout]
    intro delay hdelivery
    obtain ⟨delay', hdelivery', hlt⟩ := hall (rounds + 1)
      (by rw [List.mem_range'_1]; omega) delay hdelivery
    obtain rfl := Delivery.echoed.inj (hdelivery.symm.trans hdelivery')
    exact hlt

/-- If no reply in time is to a datagram that was sent after one with a late reply, nothing is ever
in front of it. -/
theorem neverBehind_of_lateLast {start : EchoWorld}
    (hall : ∀ seq ∈ List.range' 1 config.packetCount.toNat, InTime schedule config seq →
      ∀ other ∈ List.range' 1 (seq - 1), ∀ delay, schedule.delivery other = .echoed delay →
        InTime schedule config other) :
    NeverBehind schedule config K start := by
  intro qpcFreq opened hopen seq hseq hintime delay _
  have hnil : opened.socket.items = [] := by
    rw [openSocket_eq_ok hopen]
    rfl
  rw [socket_eq_nil qpcFreq (openSocket_reached hopen) hnil (hall seq hseq hintime)]
  exact List.forall_mem_nil _

/-- A late reply is in front of the next one, if it comes first. -/
theorem Behind.of_late {s : ProbeLoop K EchoWorld} (hempty : s.world.socket.items = []) (seq : ℕ)
    {delay delay' : ℕ} (hdelivery : schedule.delivery (s.world.sent + 1) = .echoed delay)
    (hlate : schedule.after (s.world.sent + 1) + s.world.readTimeout ≤ delay)
    (hdelivery' : schedule.delivery (s.world.sent + 2) = .echoed delay')
    (hahead : delay ≤ schedule.after (s.world.sent + 1) + s.world.readTimeout +
      config.packetIntervalMs.toNat * schedule.ticksPerMs + schedule.before (s.world.sent + 2) +
      delay') :
    Behind schedule (probeRound (echoNetwork schedule) config qpcFreq s seq).world := by
  have hsent := (s.world.exchange_spec schedule
    (payloadOf (echoNetwork schedule) qpcFreq seq s.world)).1
  rw [probeRound_world]
  rcases s.world.exchange_of_nil schedule (payloadOf (echoNetwork schedule) qpcFreq seq s.world)
    hempty hdelivery with ⟨hlt, -⟩ | ⟨-, hitems, hnow⟩
  · exact absurd hlt (not_lt.mpr hlate)
  · refine ⟨delay', ?_, _, hitems.symm ▸ List.mem_cons_self, ?_⟩
    · rw [EchoWorld.sleep, hsent]
      exact hdelivery'
    · rw [EchoWorld.sleep, hsent, hnow]
      show s.world.now + schedule.before (s.world.sent + 1) + delay ≤ s.world.now +
        schedule.before (s.world.sent + 1) + schedule.after (s.world.sent + 1) +
        s.world.readTimeout + config.packetIntervalMs.toNat * schedule.ticksPerMs +
        schedule.before (s.world.sent + 2) + delay'
      omega

/-- **The first late reply can cost all later probes**: if it comes ahead of the next reply, and
the later ones come no faster than that, the rounds before it are all that counts. -/
theorem received_eq_of_firstLate {opened : EchoWorld} (h : Reached schedule config 0 opened)
    (hnil : opened.socket.items = []) (rounds : ℕ) (delays : ℕ → ℕ)
    (hall : ∀ seq ∈ List.range' 1 rounds, ∀ delay, schedule.delivery seq = .echoed delay →
      InTime schedule config seq)
    (hdelivery : ∀ seq, rounds < seq → schedule.delivery seq = .echoed (delays seq))
    (hmono : ∀ seq, rounds + 1 < seq → delays seq ≤ delays (seq + 1))
    (hlate : ¬ InTime schedule config (rounds + 1))
    (hahead : delays (rounds + 1) ≤ schedule.after (rounds + 1) +
      config.timeoutMs.toNat * schedule.ticksPerMs +
      config.packetIntervalMs.toNat * schedule.ticksPerMs + schedule.before (rounds + 2) +
      delays (rounds + 2))
    (more : ℕ) (hcount : rounds + 1 + more < 2 ^ 32) :
    (probeRounds (K := K) (echoNetwork schedule) config qpcFreq (rounds + 1 + more)
        opened).packetsReceived =
      (probeRounds (K := K) (echoNetwork schedule) config qpcFreq rounds
        opened).packetsReceived := by
  have hreached := probeRounds_reached (K := K) qpcFreq h rounds
  have hempty := socket_eq_nil (K := K) qpcFreq h hnil hall
  have hle : schedule.after (rounds + 1) + config.timeoutMs.toNat * schedule.ticksPerMs ≤
      delays (rounds + 1) := by
    by_contra hlt
    exact hlate ⟨_, hdelivery (rounds + 1) (by omega), not_le.mp hlt⟩
  have hbehind : Behind schedule (probeRounds (K := K) (echoNetwork schedule) config qpcFreq
      (rounds + 1) opened).world := by
    rw [probeRounds_succ]
    apply Behind.of_late qpcFreq hempty
    · rw [hreached.sent]
      exact hdelivery (rounds + 1) (by omega)
    · rw [hreached.sent, hreached.readTimeout]
      exact hle
    · rw [hreached.sent]
      exact hdelivery (rounds + 2) (by omega)
    · rw [hreached.sent, hreached.readTimeout]
      exact hahead
  have hnot := mt (probeRound_counts_iff qpcFreq (by omega) hreached).mp fun hfront =>
    hlate hfront.1
  have hlater := received_eq_of_behind qpcFreq h delays
    (fun seq hseq => ⟨hdelivery seq (by omega), hmono seq hseq⟩) hbehind more hcount
  rw [hlater.1, probeRounds_succ]
  exact probeRound_received_of_not _ config qpcFreq hnot

end Late

/-! ### Whole probes -/

/-- **Every probe whose reply comes in time is counted** exactly if nothing is ever in front of such
a reply; what is received is what is counted. -/
theorem timelyCounted_iff [LinearOrder K] [FloorSemiring K] (num : Numerics K)
    (schedule : EchoSchedule) (config : UdpProbeConfig) (start : EchoWorld) :
    (∀ qpcFreq opened report world',
      openSocket (echoNetwork schedule) config start = (.ok qpcFreq, opened) →
      probe num (echoNetwork schedule) config start = (.ok report, world') →
      report.packetsReceived = (List.range' 1 config.packetCount.toNat).countP
        fun seq => Counted K (echoNetwork schedule) config qpcFreq opened seq) ∧
    (TimelyCounted schedule config K start ↔ NeverBehind schedule config K start) := by
  constructor
  · intro qpcFreq opened report world' hopen hprobe
    obtain ⟨qpcFreq', opened', hopen', rfl⟩ := probe_eq_ok hprobe
    obtain ⟨hfreq, rfl⟩ := Prod.ext_iff.mp (hopen.symm.trans hopen')
    obtain rfl := Except.ok.inj hfreq
    rw [← probeRounds_received]
    exact makeReport_received num config (probeRounds_tallied _ config qpcFreq _ opened)
  · constructor
    · intro h qpcFreq opened hopen seq hseq hintime
      exact ((counted_iff qpcFreq (openSocket_reached hopen) hseq).mp
        (h qpcFreq opened hopen seq hseq hintime)).2
    · intro h qpcFreq opened hopen seq hseq hintime
      exact (counted_iff qpcFreq (openSocket_reached hopen) hseq).mpr
        ⟨hintime, h qpcFreq opened hopen seq hseq hintime⟩

/-! ### Instances -/

/-- The first reply takes 205 ms, and all others 10 ms. -/
def firstLate : EchoSchedule where
  ticksPerMs := 1
  before _ := 0
  delivery seq := .echoed (if seq = 1 then 205 else 10)
  after _ := 0

/-- The second datagram is lost, the third reply takes 205 ms, and all others 10 ms. -/
def thirdLate : EchoSchedule where
  ticksPerMs := 1
  before _ := 0
  delivery seq := if seq = 2 then .lost else .echoed (if seq = 3 then 205 else 10)
  after _ := 0

/-- With a timeout of 200 ms, the third reply is late, and nothing comes after it. -/
theorem timelyCounted_thirdLate :
    ¬ InTime thirdLate threePackets 3 ∧
      TimelyCounted thirdLate threePackets ℝ ⟨0, 0, 0, .empty⟩ := by
  have hlate : ¬ InTime thirdLate threePackets 3 := by
    rintro ⟨delay, hdelivery, hlt⟩
    obtain rfl := Delivery.echoed.inj hdelivery
    exact absurd hlt (by decide)
  refine ⟨hlate, (timelyCounted_iff sampleNumerics thirdLate threePackets _).2.mpr ?_⟩
  apply neverBehind_of_lateLast
  intro seq hseq hintime other hother delay hdelivery
  -- the datagram in time is the first or the second, so the first is the only one before it
  have hcount : threePackets.packetCount.toNat = 3 := rfl
  have hne : seq ≠ 3 := by
    rintro rfl
    exact hlate hintime
  rw [hcount, List.mem_range'_1] at hseq
  rw [List.mem_range'_1] at hother
  obtain rfl : other = 1 := by omega
  exact ⟨10, rfl, by decide⟩

/-- With a timeout of 200 ms, only the first reply is late.  The second round reads it, and leaves
its own to the third. -/
theorem not_timelyCounted_firstLate :
    ¬ TimelyCounted firstLate threePackets ℝ ⟨0, 0, 0, .empty⟩ := by
  intro h
  have hopen : openSocket (echoNetwork firstLate) threePackets ⟨0, 0, 0, .empty⟩ =
      (.ok 1000, ⟨0, 0, 200, .empty⟩) := rfl
  have hlate : ¬ InTime firstLate threePackets 1 := by
    rintro ⟨delay, hdelivery, hlt⟩
    obtain rfl := Delivery.echoed.inj hdelivery
    exact absurd hlt (by decide)
  have hmono : ∀ seq, 1 < seq →
      (if seq = 1 then 205 else 10) ≤ if seq + 1 = 1 then 205 else 10 := by
    intro seq hseq
    rw [if_neg (by omega), if_neg (by omega)]
  have hreceived := received_eq_of_firstLate (K := ℝ) 1000 (openSocket_reached hopen) rfl 0
    (fun seq => if seq = 1 then 205 else 10) (fun _ hseq => absurd hseq List.not_mem_nil)
    (fun _ _ => rfl) hmono hlate (by decide) 1 (by decide)
  have hcounted := h 1000 _ hopen 2 (by decide) ⟨10, rfl, by decide⟩
  rw [Counted, hreceived] at hcounted
  exact Nat.succ_ne_zero _ hcounted.symm

end ValOpt
