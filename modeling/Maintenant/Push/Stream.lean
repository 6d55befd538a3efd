/-
  File:      Maintenant/Push/Stream.lean
  Subject:   THE PUSH PROTOCOL: the agent's spool, the streams between agent and server
             (internal/agent/client.go) and the server's Push loop (internal/agentserver/
             enrollment.go), as one machine.

  A stream is two FIFO channels. On the agent's side `PushStream.Send` numbers an event that has
  no number yet from a counter of the stream; a spooled event carries the seq of its row. On the
  server's side the loop refuses an event (rate limiter) or accepts it, and now and then answers
  with the seq of the event it accepted last.

  * `Stream` -- both ends of one stream, with two records of its history that no code reads: the
    rows sent on it and the rows the loop has received;
  * `Main` -- the goroutine that attaches a stream, restates the snapshots, drains and detaches;
    a stream is dialled only when the receive loop of the one before has ended, so the agent
    hears from the newest stream only;
  * `System.step` -- one step of a producer, of that goroutine, of the receive loop, of a server
    loop, or the loss of a stream with a tail of what was under way in both directions.

  Not modelled: authentication, commands and their results, status messages, sessions. Whether
  the limiter allows an event is an input of the step.
-/
import Maintenant.Push.Spool

namespace Maintenant.Push

open GoTime

/-! ## 1. Events -/

/-- The event families that restate current state. -/
inductive SnapshotKind where
  | inventory
  | swarm
  | kubernetes
  | certScan
  | hostSample
deriving DecidableEq, Repr

inductive Body where
  | inventory
  | swarm
  | kubernetes
  | certificate
  | resource (containerID : String)
  | other
deriving DecidableEq, Repr

/-- An event as a producer hands it to `Send`; `marshalled` is what `proto.Marshal` makes of it. -/
structure AgentEvent where
  body : Body
  eventID : String
  observedAt : Option Time
  marshalled : Option (List UInt8)
deriving DecidableEq, Repr

def snapshotOf (evt : AgentEvent) : Option SnapshotKind :=
  match evt.body with
  | .inventory => some .inventory
  | .swarm => some .swarm
  | .kubernetes => some .kubernetes
  | .certificate => some .certScan
  | .resource containerID => if containerID = "" then some .hostSample else none
  | .other => none

/-- The event `Send` queues, if it can be serialized. -/
def pendingOf (evt : AgentEvent) (now : Time) : Option PendingEvent :=
  evt.marshalled.map fun payload => ⟨evt.eventID, unix (evt.observedAt.getD now), payload⟩

/-! ## 2. A stream -/

/-- An event under way. The server reads `seq` only; `row` is the spooled row the event was made
    from, none for a snapshot. -/
structure Envelope where
  seq : Nat
  row : Option Row
deriving DecidableEq, Repr

inductive ServerMessage where
  | ack (lastEventSeq : Nat)
  | rateLimited (retryAfterMs : Nat)
deriving DecidableEq, Repr

structure Stream where
  up : Bool
  seq : Nat
  toServer : List Envelope
  toAgent : List ServerMessage
  eventCount : Nat
  lastSeenSeq : Nat
  lastAck : Time
  sent : List Row
  seen : List Row

namespace Stream

def fresh (now : Time) : Stream := ⟨true, 0, [], [], 0, 0, now, [], []⟩

/-- `stream.Send` on the agent's side. -/
def push (st : Stream) (e : Envelope) : Stream :=
  { st with toServer := st.toServer ++ [e], sent := st.sent ++ e.row.toList }

/-- `stream.Send` on the server's side. -/
def reply (st : Stream) (m : ServerMessage) : Stream :=
  if st.up then { st with toAgent := st.toAgent ++ [m] } else st

/-- The loop takes the next event off the channel. -/
def take (st : Stream) (e : Envelope) (rest : List Envelope) : Stream :=
  { st with toServer := rest, seen := st.seen ++ e.row.toList }

def accept (st : Stream) (e : Envelope) : Stream :=
  { st with eventCount := st.eventCount + 1, lastSeenSeq := e.seq }

def ackEvery : Nat := 100

def ackDue (st : Stream) (now : Time) : Bool :=
  st.eventCount % ackEvery == 0 || decide (5 * second ≤ now - st.lastAck)

/-- `maybeAck(false)`; an ack that cannot be sent ends the loop. -/
def maybeAck (st : Stream) (now : Time) : Stream :=
  if st.ackDue now then
    if st.up then { st.reply (.ack st.lastSeenSeq) with lastAck := now }
    else { st with toServer := [] }
  else st

/-- The stream is lost, with what came after the first `i` events and `k` replies under way. -/
def lose (st : Stream) (i k : Nat) : Stream :=
  { st with up := false, toServer := st.toServer.take i, toAgent := st.toAgent.take k }

end Stream

/-! ## 3. The system -/

/-- A call of `PushStream.Send` with a snapshot: the event (by its identity), the stream, and
    whether the call has dealt with the number. -/
structure SendCall where
  evt : Nat
  stream : Nat
  numbered : Bool
deriving DecidableEq, Repr

/-- Where the goroutine of `RunWithReconnect` stands. -/
inductive Main where
  | detached
  | attaching
  | attached
  | resending (calls : List SendCall)
  | draining
deriving DecidableEq, Repr

/-- `cur` is the newest stream, `base` the `ackSeq` it was attached at, `evtSeq` the field `Seq` of
    each event handed to `Send` so far, `accepted` the rows whose event a server loop handed to the
    dispatcher. -/
structure System where
  agent : Agent
  main : Main
  cur : Nat
  base : Nat
  streams : Nat → Stream
  evtSeq : Nat → Nat
  nextEvt : Nat
  snapshots : List (SnapshotKind × Nat)
  calls : List SendCall
  accepted : List Row

namespace System

def start (agent : Agent) : System :=
  ⟨agent, .detached, 0, 0, fun _ => { Stream.fresh agent.now with up := false }, fun _ => 0, 0, [],
    [], []⟩

def setStream (s : System) (k : Nat) (st : Stream) : System :=
  { s with streams := fun i => if i = k then st else s.streams i }

/-- A new event, and a call that sends it on the sink if there is one. -/
def startSend (s : System) : System :=
  { s with evtSeq := fun i => if i = s.nextEvt then 0 else s.evtSeq i
           nextEvt := s.nextEvt + 1
           calls := s.calls ++ (s.agent.spool.sink.toList.map fun k => ⟨s.nextEvt, k, false⟩) }

/-- `sendSnapshot`: the latest of its kind is kept. -/
def sendSnapshot (s : System) (kind : SnapshotKind) : System :=
  { s.startSend with snapshots := (s.snapshots.filter fun x => x.1 ≠ kind) ++ [(kind, s.nextEvt)] }

/-- `Spool.Send`. Without a budget every event goes straight to the stream. -/
def send (readable : List UInt8 → Bool) (s : System) (evt : AgentEvent) : Option System :=
  if s.agent.spool.cfg.enabled then
    match snapshotOf evt with
    | some kind => some (s.sendSnapshot kind)
    | none => match pendingOf evt s.agent.now with
        | none => none
        | some e => (s.agent.step readable (.send e)).map fun x => { s with agent := x.1 }
  else some s.startSend

/-- The first half of `PushStream.Send`: an event without a number gets the stream's next one. -/
def number (s : System) (c : SendCall) : System :=
  if s.evtSeq c.evt = 0 then
    let n := (s.streams c.stream).seq + 1
    { s.setStream c.stream { s.streams c.stream with seq := n } with
      evtSeq := fun i => if i = c.evt then n else s.evtSeq i }
  else s

/-- The second half: it goes out, on a stream that is up. -/
def deliver (s : System) (c : SendCall) : System :=
  if (s.streams c.stream).up then
    s.setStream c.stream ((s.streams c.stream).push ⟨s.evtSeq c.evt, none⟩)
  else s

/-- A producer's call takes a step. -/
def callStep (s : System) (i : Nat) : Option System :=
  match s.calls[i]? with
  | none => none
  | some c =>
    if c.numbered then some { s.deliver c with calls := s.calls.eraseIdx i }
    else some { s.number c with calls := s.calls.set i { c with numbered := true } }

/-- The loop of `resendSnapshots`; a failed send ends it. -/
def resendStep (s : System) : Option System :=
  match s.main with
  | .resending [] => some { s with main := .draining }
  | .resending (c :: cs) =>
    if c.numbered then
      some { s.deliver c with
        main := if (s.streams c.stream).up then .resending cs else .draining }
    else some { s.number c with main := .resending ({ c with numbered := true } :: cs) }
  | _ => none

/-- `resendSnapshots` takes the snapshots in the order the map gives them. -/
def resendSnapshots (s : System) (order : List Nat) : Option System :=
  if s.main = .attached ∧ order.isPerm (s.snapshots.map Prod.snd) = true then
    let calls := s.agent.spool.sink.toList.flatMap fun k => order.map fun e => ⟨e, k, false⟩
    some { s with main := .resending calls }
  else none

/-- `drainOnce`: a row handed to the sink is on its stream, which is up. -/
def drainStep (readable : List UInt8 → Bool) (s : System) (act : Act) : Option System :=
  if s.main = .draining then
    match s.agent.step readable act with
    | none => none
    | some (a, none) => some { s with agent := a }
    | some (a, some (k, row)) =>
      if (s.streams k).up then
        some { s.setStream k ((s.streams k).push ⟨row.1, some row⟩) with agent := a }
      else none
  else none

/-- A new stream is dialled and attached; the receive loop of the old one has ended. -/
def attach (s : System) : Option System :=
  if s.main = .detached ∧ s.agent.purging = none then
    let k := s.cur + 1
    some { s.setStream k (Stream.fresh s.agent.now) with
      agent := { s.agent with spool := s.agent.spool.attach k, drain := .idle }
      main := .attaching
      cur := k }
  else none

/-- The second half of `Attach`. -/
def rewind (s : System) : Option System :=
  if s.main = .attaching then
    some { s with agent := { s.agent with spool := s.agent.spool.rewind }
                  main := .attached
                  base := s.agent.spool.ackSeq }
  else none

/-- `Drain` has returned: a `drainOnce` failed, or the context is done. -/
def detach (s : System) : Option System :=
  if s.main = .draining ∧ (s.agent.drain = .idle ∨ s.agent.drain = .failed) then
    some { s with agent := { s.agent with spool := s.agent.spool.detach }
                  main := .detached }
  else none

/-- The receive loop takes the next reply off the newest stream. -/
def recv (readable : List UInt8 → Bool) (s : System) : Option System :=
  match (s.streams s.cur).toAgent with
  | [] => none
  | m :: rest =>
    let act := match m with
      | .ack seq => Act.acked seq
      | .rateLimited ms => Act.rateLimited (ms * millisecond)
    (s.agent.step readable act).map fun x =>
      { s.setStream s.cur { s.streams s.cur with toAgent := rest } with agent := x.1 }

/-- A server loop takes the next event off stream `k` and refuses or accepts it. -/
def serverRecv (s : System) (k : Nat) (allowed : Bool) (retryAfterMs : Nat) : Option System :=
  match (s.streams k).toServer with
  | [] => none
  | e :: rest =>
    let st := (s.streams k).take e rest
    if allowed then
      some { s.setStream k ((st.accept e).maybeAck s.agent.now) with
        accepted := s.accepted ++ e.row.toList }
    else some (s.setStream k (st.reply (.rateLimited retryAfterMs)))

def lose (s : System) (k i j : Nat) : Option System :=
  if (s.streams k).up then some (s.setStream k ((s.streams k).lose i j)) else none

end System

inductive Op where
  | send (evt : AgentEvent)
  | call (i : Nat)
  | background (act : Act)
  | attach
  | rewind
  | resendSnapshots (order : List Nat)
  | resend
  | drain (r : Reply)
  | cancel
  | detach
  | recv
  | serverRecv (k : Nat) (allowed : Bool) (retryAfterMs : Nat)
  | lose (k i j : Nat)
deriving DecidableEq, Repr

/-- **One step of the protocol.** -/
def System.step (readable : List UInt8 → Bool) (s : System) : Op → Option System
  | .send evt => s.send readable evt
  | .call i => s.callStep i
  | .background act =>
    if act.background then
      (s.agent.step readable act).map fun x => { s with agent := x.1 }
    else none
  | .attach => s.attach
  | .rewind => s.rewind
  | .resendSnapshots order => s.resendSnapshots order
  | .resend => s.resendStep
  | .drain r => s.drainStep readable (.drain r)
  | .cancel => s.drainStep readable .cancel
  | .detach => s.detach
  | .recv => s.recv readable
  | .serverRecv k allowed retryAfterMs => s.serverRecv k allowed retryAfterMs
  | .lose k i j => s.lose k i j

end Maintenant.Push
