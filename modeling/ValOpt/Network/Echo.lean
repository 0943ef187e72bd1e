import ValOpt.Mailbox.Basic
import ValOpt.Network.Probe

/-!
# A network of echoes

The world of a probe whose target sends every datagram back, as `MockUdpEchoServer` does.  A
schedule says what becomes of each datagram and how long the calls take.  Replies wait in the socket
until they are read, in the order of their arrival.  Times are ticks of the performance counter.
-/

namespace ValOpt

/-- What becomes of a datagram. -/
inductive Delivery where
  /-- `send_to` fails. -/
  | unsent
  /-- The datagram or its reply is lost. -/
  | lost
  /-- The reply reaches the socket some ticks after the datagram has left it. -/
  | echoed (delay : ℕ)
  deriving DecidableEq, Repr

/-- What becomes of the datagrams of a socket, counted from 1. -/
structure EchoSchedule where
  ticksPerMs : ℕ
  /-- The ticks from the start of a round until its datagram leaves. -/
  before : ℕ → ℕ
  delivery : ℕ → Delivery
  /-- The ticks from there until the program waits for the reply. -/
  after : ℕ → ℕ

structure EchoWorld where
  now : ℕ
  /-- The number of datagrams that were sent from the socket. -/
  sent : ℕ
  readTimeout : ℕ
  socket : Mailbox ℕ (List UInt8)

namespace EchoWorld

def sendTo (schedule : EchoSchedule) (payload : List UInt8) (w : EchoWorld) :
    Except String Unit × EchoWorld :=
  let seq := w.sent + 1
  let departure := w.now + schedule.before seq
  let w := { w with now := departure + schedule.after seq, sent := seq }
  match schedule.delivery seq with
  | .unsent => (.error "network unreachable", w)
  | .lost => (.ok (), w)
  | .echoed delay => (.ok (), { w with socket := w.socket.put (departure + delay) payload })

/-- A receive waits for the first datagram, until the timeout expires. -/
def recvFrom (w : EchoWorld) : Except String (List UInt8) × EchoWorld :=
  match w.socket.take (w.now + w.readTimeout) with
  | (some item, socket) => (.ok item.2, { w with now := max w.now item.1, socket })
  | (none, socket) => (.error "timed out", { w with now := w.now + w.readTimeout, socket })

def sleep (schedule : EchoSchedule) (ms : ℕ) (w : EchoWorld) : EchoWorld :=
  { w with now := w.now + ms * schedule.ticksPerMs }

end EchoWorld

def echoNetwork (schedule : EchoSchedule) : Endpoint EchoWorld where
  queryPerformanceFrequency w := (1000 * schedule.ticksPerMs, w)
  queryPerformanceCounter w := (w.now, w)
  bind w := (.ok (), { w with sent := 0, socket := .empty })
  setReadTimeout ms w :=
    if ms = 0 then (.error "cannot set a 0 duration timeout", w)
    else (.ok (), { w with readTimeout := ms * schedule.ticksPerMs })
  sendTo payload _ w := w.sendTo schedule payload
  recvFrom w := w.recvFrom
  sleep ms w := w.sleep schedule ms

/-- The reply to a datagram reaches the socket before the timeout of its receive expires. -/
def InTime (schedule : EchoSchedule) (config : UdpProbeConfig) (seq : ℕ) : Prop :=
  ∃ delay, schedule.delivery seq = .echoed delay ∧
    delay < schedule.after seq + config.timeoutMs.toNat * schedule.ticksPerMs

/-- Before a round, no datagram is on its way or in the socket that arrives ahead of the reply to
that of the round, or with it. -/
def NothingInFront (schedule : EchoSchedule) (seq : ℕ) (w : EchoWorld) : Prop :=
  ∀ delay, schedule.delivery seq = .echoed delay →
    ∀ item ∈ w.socket.items, w.now + schedule.before seq + delay < item.1

end ValOpt
