/-
  File:      Maintenant/Push/Spool.lean
  Subject:   THE AGENT'S OUTBOUND QUEUE (internal/agent/spool.go, spool_store.go): the `Spool`
             record, the SQLite rows behind it, and the goroutines that work on both.

  Every section under `mu` and every call of the store is one step, so that a run of `Agent.step`
  is an interleaving of

  * producers in `Send`, and the `flush` and `purgeExpired` calls in progress (`Job`, one store
    call each step);
  * the goroutine in `drainOnce` (`Drain` says where it stands: it reads a batch, hands one row
    after another to the sink and writes the cursor AFTER each of them);
  * the receive loop in `Acked` (`purging`: the DELETE it still has to run) and `RateLimited`;
  * `Attach` (two sections: the sink, then the rewind) and `Detach`.

  The outcome of a store call and the size of the database file are inputs of the step. Not
  modelled: log lines and the drop report behind them, the status message, `Close` and `Discard`.
-/
import Maintenant.Lib.GoTime
import Maintenant.Lib.Journal

namespace Maintenant.Push

open GoTime

/-! ## 1. The store -/

/-- An event waiting for its batch write; in the store its size is the length of the payload. -/
structure PendingEvent where
  eventID : String
  observedAt : Int
  payload : List UInt8
deriving DecidableEq, Repr

/-- A row of spool_events: its seq and the event. -/
abbrev Row := Nat × PendingEvent

def Row.size (r : Row) : Int := r.2.payload.length

/-- spool_events and the counter `dropped_since_connect` of spool_meta. -/
structure SpoolStore where
  events : Journal PendingEvent
  droppedSinceConnect : Nat

namespace SpoolStore

def append (st : SpoolStore) (batch : List PendingEvent) : SpoolStore :=
  { st with events := st.events.append batch }

def readFrom (st : SpoolStore) (after limit : Nat) : List Row := st.events.readFrom after limit

def delete (st : SpoolStore) (p : Row → Bool) : SpoolStore :=
  { st with events := st.events.keep fun r => !p r }

def deleteUpTo (st : SpoolStore) (seq : Nat) : SpoolStore := st.delete fun r => decide (r.1 ≤ seq)

def deleteOlderThan (st : SpoolStore) (cutoff : Int) : SpoolStore :=
  st.delete fun r => decide (r.2.observedAt < cutoff)

def spoolDropScanLimit : Nat := 50000

/-- Each row with `SUM(size_bytes) OVER (ORDER BY seq)`. -/
def runningTotals : Int → List Row → List (Row × Int)
  | _, [] => []
  | total, r :: rs => (r, total + r.size) :: runningTotals (total + r.size) rs

/-- The `MAX(seq)` that `DeleteOldestBytes` deletes up to; no row, no bound. -/
def oldestBytes (st : SpoolStore) (target : Int) : Option Nat :=
  let scanned := runningTotals 0 (st.events.rows.take spoolDropScanLimit)
  ((scanned.filter fun x => decide (x.2 - x.1.size < target)).map fun x => x.1.1).max?

def deleteOldestBytes (st : SpoolStore) (target : Int) : SpoolStore :=
  st.delete fun r => (st.oldestBytes target).any fun last => decide (r.1 ≤ last)

def depth (st : SpoolStore) : Nat := st.events.rows.length

def addDropped (st : SpoolStore) (n : Nat) : SpoolStore :=
  { st with droppedSinceConnect := st.droppedSinceConnect + n }

def resetDroppedSinceConnect (st : SpoolStore) : SpoolStore := { st with droppedSinceConnect := 0 }

end SpoolStore

/-! ## 2. The spool -/

structure SpoolConfig where
  maxMemoryBytes : Int
  maxDiskBytes : Int
  maxAge : Int
deriving DecidableEq, Repr

def SpoolConfig.enabled (c : SpoolConfig) : Bool :=
  decide (0 < c.maxMemoryBytes) || decide (0 < c.maxDiskBytes)

def spoolDrainBatch : Nat := 200

/-- What `mu` guards. `store` says whether the pointer is set: without a database the spool is
    memory only. A sink is the number of the stream it sends on. -/
structure Spool where
  cfg : SpoolConfig
  store : Bool
  buf : List PendingEvent
  bufBytes : Int
  sink : Option Nat
  sendSeq : Nat
  ackSeq : Nat
  dropped : Nat
  pausedUntil : Time

def newSpool (cfg : SpoolConfig) (opened : Bool) : Spool :=
  ⟨cfg, cfg.enabled && opened, [], 0, none, 0, 0, 0, zeroTime⟩

def totalBytes (events : List PendingEvent) : Int := (events.map fun e => (e.payload.length : Int)).sum

namespace Spool

def attach (s : Spool) (sink : Nat) : Spool := { s with sink := some sink, pausedUntil := zeroTime }

def detach (s : Spool) : Spool := { s with sink := none }

/-- The section of `Send` that queues an event. -/
def queue (s : Spool) (e : PendingEvent) : Spool :=
  { s with buf := s.buf ++ [e], bufBytes := s.bufBytes + e.payload.length }

def overMemory (s : Spool) : Bool := decide (s.cfg.maxMemoryBytes ≤ s.bufBytes)

/-- The loop of `trimMemoryLocked`: what stays of the buffer, its bytes, and how many went. -/
def trimLoop (budget : Int) : List PendingEvent → Int → Nat → List PendingEvent × Int × Nat
  | [], bytes, dropped => ([], bytes, dropped)
  | e :: rest, bytes, dropped =>
    if budget < bytes then trimLoop budget rest (bytes - e.payload.length) (dropped + 1)
    else (e :: rest, bytes, dropped)

def trimMemoryLocked (s : Spool) : Spool :=
  let r := trimLoop s.cfg.maxMemoryBytes s.buf s.bufBytes 0
  { s with buf := r.1, bufBytes := r.2.1, dropped := s.dropped + r.2.2 }

/-- `flush` takes the buffer out … -/
def takeBuffer (s : Spool) : Spool := { s with buf := [], bufBytes := 0 }

/-- … and puts it back in front when the write failed. -/
def putBack (s : Spool) (batch : List PendingEvent) : Spool :=
  { s with buf := batch ++ s.buf, bufBytes := s.bufBytes + totalBytes batch }

def writeCursor (s : Spool) (seq : Nat) : Spool := { s with sendSeq := seq }

def rewind (s : Spool) : Spool := { s with sendSeq := s.ackSeq }

def rateLimited (s : Spool) (now : Time) (retryAfter : Int) : Spool :=
  { s with sendSeq := s.ackSeq,
           pausedUntil := now + if retryAfter ≤ 0 then second else retryAfter }

/-- The section of `Acked`: the new `ackSeq`, if there is one to purge up to. -/
def purgeTo (s : Spool) (seq : Nat) : Option Nat :=
  if 2 ^ 63 ≤ seq then none
  else if min seq s.sendSeq ≤ s.ackSeq then none
  else some (min seq s.sendSeq)

def resetDropped (s : Spool) : Spool := { s with dropped := 0 }

end Spool

/-! ## 3. The goroutines -/

/-- What a store call answers. `halfway`: the rows are deleted, and the call failed after that
    (counting them or giving the pages back). -/
inductive Reply where
  | ok (n : Int)
  | halfway
  | failed
deriving DecidableEq, Repr

/-- Where a call of `flush` or `purgeExpired` stands. -/
inductive Job where
  | flush
  | append (batch : List PendingEvent)
  | enforceDiskBudget
  | sizeBytes
  | deleteOldestBytes (target : Int)
  | addDropped (n : Nat)
  | purgeExpired
  | deleteOlderThan (cutoff : Int)
deriving DecidableEq, Repr

/-- What one step of such a call leads to. -/
inductive Outcome where
  | returned (ok : Bool)
  | goesOn (j : Job)
deriving DecidableEq, Repr

/-- Where the goroutine in `drainOnce` stands. `sent`: the sink took the row, the cursor is not
    written yet. -/
inductive Drain where
  | idle
  | failed
  | flushing (j : Job)
  | top
  | read (sink after : Nat)
  | rows (sink : Nat) (batch : List Row)
  | sent (sink : Nat) (row : Row) (rest : List Row)
deriving DecidableEq, Repr

structure Agent where
  spool : Spool
  store : SpoolStore
  now : Time
  jobs : List Job
  drain : Drain
  purging : Option Nat

/-- A started agent, with the rows a former run left. -/
def newAgent (cfg : SpoolConfig) (opened : Bool) (store : SpoolStore) (now : Time) : Agent :=
  ⟨newSpool cfg opened, store, now, [], .idle, none⟩

namespace Agent

/-- A deletion of the store and what the caller does when it succeeds. -/
def deleting (a : Agent) (r : Reply) (st : SpoolStore) (next : Outcome) : Agent × Outcome :=
  match r with
  | .ok _ => ({ a with store := st }, next)
  | .halfway => ({ a with store := st }, .returned false)
  | .failed => (a, .returned false)

/-- One step of `flush` or `purgeExpired`: a section under `mu`, or a call of the store. -/
def runJob (a : Agent) (r : Reply) : Job → Agent × Outcome
  | .flush =>
    if a.spool.buf = [] then (a, .returned true)
    else if a.spool.store then
      ({ a with spool := a.spool.takeBuffer }, .goesOn (.append a.spool.buf))
    else ({ a with spool := a.spool.trimMemoryLocked }, .returned true)
  | .append batch => match r with
      | .ok _ => ({ a with store := a.store.append batch }, .goesOn .enforceDiskBudget)
      | _ => ({ a with spool := a.spool.putBack batch }, .returned false)
  | .enforceDiskBudget =>
    if a.spool.cfg.maxDiskBytes ≤ 0 then (a, .returned true)
    else if a.spool.store then (a, .goesOn .sizeBytes)
    else (a, .returned true)
  | .sizeBytes => match r with
      | .ok size =>
        if size ≤ a.spool.cfg.maxDiskBytes then (a, .returned true)
        else (a, .goesOn (.deleteOldestBytes
          (size - a.spool.cfg.maxDiskBytes + a.spool.cfg.maxDiskBytes / 10)))
      | _ => (a, .returned false)
  | .deleteOldestBytes target =>
    let st := a.store.deleteOldestBytes target
    let dropped := a.store.depth - st.depth
    a.deleting r st (if dropped = 0 then .returned true else .goesOn (.addDropped dropped))
  | .addDropped n => match r with
      | .ok _ => ({ a with store := a.store.addDropped n }, .returned true)
      | _ => (a, .returned false)
  | .purgeExpired =>
    if a.spool.cfg.maxAge ≤ 0 then (a, .returned true)
    else if a.spool.store then
      (a, .goesOn (.deleteOlderThan (unix (a.now - a.spool.cfg.maxAge))))
    else (a, .returned true)
  | .deleteOlderThan cutoff => a.deleting r (a.store.deleteOlderThan cutoff) (.returned true)

/-- One step of `drainOnce`, and the row it hands to a sink with it. -/
def drainStep (readable : List UInt8 → Bool) (a : Agent) (r : Reply) :
    Option (Agent × Option (Nat × Row)) :=
  match a.drain with
  | .idle => if a.spool.cfg.enabled then some ({ a with drain := .flushing .flush }, none) else none
  | .failed => none
  | .flushing j => match a.runJob r j with
      | (a', .returned true) => some ({ a' with drain := .top }, none)
      | (a', .returned false) => some ({ a' with drain := .failed }, none)
      | (a', .goesOn j') => some ({ a' with drain := .flushing j' }, none)
  | .top => match a.spool.sink with
      | none => some ({ a with drain := .idle }, none)
      | some sink =>
        if a.spool.store = true ∧ a.spool.pausedUntil ≤ a.now then
          some ({ a with drain := .read sink a.spool.sendSeq }, none)
        else some ({ a with drain := .idle }, none)
  | .read sink after => match r with
      | .ok _ => match a.store.readFrom after spoolDrainBatch with
          | [] => some ({ a with drain := .idle }, none)
          | row :: rest => some ({ a with drain := .rows sink (row :: rest) }, none)
      | _ => some ({ a with drain := .failed }, none)
  | .rows _ [] => some ({ a with drain := .top }, none)
  | .rows sink (row :: rest) =>
    if readable row.2.payload then match r with
      | .ok _ => some ({ a with drain := .sent sink row rest }, some (sink, row))
      | _ => some ({ a with drain := .failed }, none)
    else some ({ a with spool := a.spool.writeCursor row.1, drain := .rows sink rest }, none)
  | .sent sink row rest =>
    some ({ a with spool := a.spool.writeCursor row.1, drain := .rows sink rest }, none)

/-- The context of `drainOnce` is found done before the next row. -/
def cancelStep (a : Agent) : Option Agent :=
  match a.drain with
  | .rows _ (_ :: _) => some { a with drain := .idle }
  | _ => none

/-- The job at place `i` takes a step; a call that returned is gone. -/
def jobStep (a : Agent) (i : Nat) (r : Reply) : Option Agent :=
  match a.jobs[i]? with
  | none => none
  | some j => match a.runJob r j with
      | (a', .returned _) => some { a' with jobs := a'.jobs.eraseIdx i }
      | (a', .goesOn j') => some { a' with jobs := a'.jobs.set i j' }

def acked (a : Agent) (seq : Nat) : Agent :=
  match a.spool.purgeTo seq with
  | none => a
  | some p =>
    { a with spool := { a.spool with ackSeq := p },
             purging := if a.spool.store then some p else none }

/-- The DELETE of an `Acked` in progress; its error is only logged. -/
def purgeStep (a : Agent) (r : Reply) : Option Agent :=
  match a.purging with
  | none => none
  | some p => match r with
      | .failed => some { a with purging := none }
      | _ => some { a with store := a.store.deleteUpTo p, purging := none }

end Agent

/-- What can happen next in the agent. -/
inductive Act where
  | send (e : PendingEvent)
  | startFlush
  | startPurge
  | job (i : Nat) (r : Reply)
  | drain (r : Reply)
  | cancel
  | acked (seq : Nat)
  | purge (r : Reply)
  | attach (sink : Nat)
  | rewind
  | rateLimited (retryAfter : Int)
  | detach
  | resetDropped
  | resetDroppedSinceConnect
  | tick (d : Nat)
deriving DecidableEq, Repr

/-- The steps of the producers, the jobs and the clock, and the DELETE behind an ack. -/
def Act.background : Act → Bool
  | .send _ | .startFlush | .startPurge | .job _ _ | .purge _ | .resetDropped
  | .resetDroppedSinceConnect | .tick _ => true
  | _ => false

/-- **One step of the agent**, and the row it hands to a sink with it. `readable` is whether
    `proto.Unmarshal` takes a payload. -/
def Agent.step (readable : List UInt8 → Bool) (a : Agent) : Act → Option (Agent × Option (Nat × Row))
  | .send e =>
    if a.spool.cfg.enabled then
      some ({ a with spool := a.spool.queue e,
                     jobs := if (a.spool.queue e).overMemory then a.jobs ++ [.flush]
                       else a.jobs }, none)
    else none
  -- the ticker of `flushLoop`, or a `Send` that found the buffer full
  | .startFlush =>
    if a.spool.cfg.enabled then some ({ a with jobs := a.jobs ++ [.flush] }, none) else none
  | .startPurge => some ({ a with jobs := a.jobs ++ [.purgeExpired] }, none)
  | .job i r => (a.jobStep i r).map fun a' => (a', none)
  | .drain r => a.drainStep readable r
  | .cancel => a.cancelStep.map fun a' => (a', none)
  | .acked seq => if a.purging = none then some (a.acked seq, none) else none
  | .purge r => (a.purgeStep r).map fun a' => (a', none)
  | .attach sink => some ({ a with spool := a.spool.attach sink }, none)
  | .rewind => some ({ a with spool := a.spool.rewind }, none)
  | .rateLimited d =>
    if a.purging = none then some ({ a with spool := a.spool.rateLimited a.now d }, none) else none
  | .detach => some ({ a with spool := a.spool.detach }, none)
  | .resetDropped => some ({ a with spool := a.spool.resetDropped }, none)
  | .resetDroppedSinceConnect =>
    if a.spool.store then some ({ a with store := a.store.resetDroppedSinceConnect }, none) else none
  | .tick d => some ({ a with now := a.now + d }, none)

end Maintenant.Push
