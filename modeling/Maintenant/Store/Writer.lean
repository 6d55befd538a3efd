/-
  File:      Maintenant/Store/Writer.lean
  Subject:   THE WRITER OF THE SQLITE STORE (internal/store/writer.go: `Start`, `submit`, `runTx`). Every call of `Exec`
             or `Tx` is a goroutine that puts its operation on a queue and waits for the result; one goroutine takes the
             operations from the queue.

  A move lets one goroutine do its next atomic action, or is the environment's: a new call, the end of a context. A move
  that is not enabled (`none`) is one that blocks. What the database answers while an operation runs comes with the
  move.

  * `State.step` -- the machine; `callStep`, `writeStep` -- what the two kinds of goroutines do; `stepped` -- everything
    a move can do;
  * `Sane` -- the wait group counts the calls between `Add` and `Done`, the queue holds each operation once, and is
    closed only when no call can reach it; `sane_of_reach` -- in every state that is reached.
-/
import Maintenant.Lib.GoChan

namespace Maintenant.Writing

open GoChan

/-! ## 1. Operations and results -/

inductive WriteError where
  /-- "writer is stopped" -/
  | stopped
  /-- `ctx.Err()` of the caller. -/
  | callerDone
  /-- `ctx.Err()` of the writer. -/
  | writerDone
  | engine (text : String)
deriving DecidableEq, Repr

structure WriteResult where
  rowsAffected : Int
  err : Option WriteError
deriving DecidableEq, Repr

inductive WriteOp where
  | query (text : String)
  | fn (name : String)
deriving DecidableEq, Repr

/-- What the database and the callback answer while an operation runs. -/
structure Engine where
  exec : Except String Int
  beginTx : Option String
  fn : Option String
  commit : Option String

/-- A database that runs every operation. -/
def willing : Engine := ⟨.ok 1, none, none, none⟩

def runTx (e : Engine) : WriteResult :=
  match e.beginTx with
  | some text => ⟨0, some (.engine text)⟩
  | none =>
    match e.fn with
    | some text => ⟨0, some (.engine text)⟩
    | none =>
      match e.commit with
      | some text => ⟨0, some (.engine text)⟩
      | none => ⟨0, none⟩

def execute (e : Engine) : WriteOp → WriteResult
  | .fn _ => runTx e
  | .query _ =>
    match e.exec with
    | .ok rows => ⟨rows, none⟩
    | .error text => ⟨0, some (.engine text)⟩

/-- The database has applied the operation: a statement that succeeds, a transaction that is committed. -/
def Engine.applies (e : Engine) : WriteOp → Bool
  | .fn _ => e.beginTx.isNone && e.fn.isNone && e.commit.isNone
  | .query _ => e.exec.isOk

/-- The writer reports an error exactly for what was not applied. -/
theorem execute_err (e : Engine) (op : WriteOp) : (execute e op).err = none ↔ e.applies op = true := by
  cases op with
  | query =>
    unfold execute Engine.applies
    cases e.exec <;> simp [Except.isOk, Except.toBool]
  | fn =>
    unfold execute Engine.applies runTx
    cases e.beginTx <;> cases e.fn <;> cases e.commit <;> simp

/-! ## 2. The goroutines -/

/-- Where a call of `submit` stands: its next action. -/
inductive Stage where
  /-- The first look at `stopped`. -/
  | check
  /-- `wg.Add(1)` -/
  | add
  /-- The second look at `stopped`. -/
  | recheck
  /-- `wg.Done()` of a call that is refused. -/
  | undo
  /-- The first select: put the operation on the queue, or give up. -/
  | offer
  /-- The second select: take the result, or give up. -/
  | await
  /-- The deferred `wg.Done()`. -/
  | leave (res : WriteResult) (err : Option WriteError)
  | returned (res : WriteResult) (err : Option WriteError)
deriving DecidableEq, Repr

/-- The wait group counts the call. -/
def Stage.counted : Stage → Bool
  | .recheck | .undo | .offer | .await | .leave .. => true
  | .check | .add | .returned .. => false

/-- Past the second look at `stopped`, and without an end yet. -/
def Stage.inside : Stage → Bool
  | .offer | .await => true
  | _ => false

structure Call where
  op : WriteOp
  /-- The context of the call has ended. -/
  ctxDone : Bool
  stage : Stage
  /-- What was sent on `op.Done`; only this call receives it. -/
  done : Option WriteResult
deriving DecidableEq, Repr

/-- Where the writer stands: its next action. -/
inductive Phase where
  /-- The select of the loop. -/
  | select
  | run (k : Nat)
  /-- `op.Done <- …` -/
  | answer (k : Nat) (res : WriteResult)
  /-- `stopped.Store(true)` -/
  | stop
  /-- `wg.Wait()` -/
  | wait
  /-- `close(w.ch)` -/
  | close
  /-- The range over the closed queue. -/
  | drain
  | refuse (k : Nat)
  | returned
deriving DecidableEq, Repr

/-- The operation that the writer has taken and not answered. -/
def Phase.hand : Phase → Option Nat
  | .run k | .answer k _ | .refuse k => some k
  | _ => none

/-- The writer has left its loop for the end of its context. -/
def Phase.over : Phase → Bool
  | .select | .run _ | .answer .. => false
  | _ => true

/-- The flag is set. -/
def Phase.stopping : Phase → Bool
  | .select | .run _ | .answer .. | .stop => false
  | _ => true

/-- The wait is over. -/
def Phase.waited : Phase → Bool
  | .close | .drain | .refuse _ | .returned => true
  | _ => false

/-- The queue is closed. -/
def Phase.closed : Phase → Bool
  | .drain | .refuse _ | .returned => true
  | _ => false

structure State where
  stopped : Bool
  /-- The counter of the wait group. That sync.WaitGroup panics when an `Add` comes between the last `Done`
      and the return of `Wait` is left out: here the wait goes on. -/
  wg : Nat
  ch : Chan Nat
  /-- The context of the writer has ended. -/
  ctxDone : Bool
  phase : Phase
  calls : List Call
  /-- The calls whose operation was put on the queue. -/
  queued : List Nat
  /-- The calls whose operation the database has applied. -/
  applied : List Nat
  /-- A value was sent on the closed queue, or the queue closed twice; no other panic is noted. -/
  panicked : Bool
deriving DecidableEq, Repr

def State.init : State := ⟨false, 0, ⟨[], false⟩, false, .select, [], [], [], false⟩

def writerBufferSize : Nat := 256

inductive Move where
  | submit (op : WriteOp)
  | endCall (k : Nat)
  | endWriter
  /-- The next action of a call; in a select, whether it is the end of the context that is chosen. -/
  | call (k : Nat) (giveUp : Bool)
  /-- The next action of the writer; in the select, whether it is the end of the context that is chosen. -/
  | write (stop : Bool) (e : Engine)

def stoppedError : Option WriteError := some .stopped

/-- `WriteResult{}` -/
def noResult : WriteResult := ⟨0, none⟩

def State.setCall (s : State) (k : Nat) (c : Call) : State := { s with calls := s.calls.set k c }

def State.setStage (s : State) (k : Nat) (c : Call) (stage : Stage) : State := s.setCall k { c with stage := stage }

/-- The next action of a call. -/
def State.callStep (s : State) (k : Nat) (c : Call) (giveUp : Bool) : Option State :=
  match c.stage with
  | .check => some (s.setStage k c (if s.stopped then .returned noResult stoppedError else .add))
  | .add => some ({ s with wg := s.wg + 1 }.setStage k c .recheck)
  | .recheck => some (s.setStage k c (if s.stopped then .undo else .offer))
  | .undo => some ({ s with wg := s.wg - 1 }.setStage k c (.returned noResult stoppedError))
  | .offer =>
    if giveUp then
      if c.ctxDone then some (s.setStage k c (.leave noResult (some .callerDone))) else none
    else if s.ch.closed then some { s with panicked := true }
    else if s.ch.buf.length < writerBufferSize then
      some ({ s with ch := { s.ch with buf := s.ch.buf ++ [k] }, queued := s.queued ++ [k] }.setStage k c .await)
    else none
  | .await =>
    if giveUp then
      if c.ctxDone then some (s.setStage k c (.leave noResult (some .callerDone))) else none
    else
      match c.done with
      | some res => some (s.setStage k c (.leave res res.err))
      | none => none
  | .leave res err => some ({ s with wg := s.wg - 1 }.setStage k c (.returned res err))
  | .returned .. => none

/-- Send the result of an operation. -/
def State.reply (s : State) (k : Nat) (res : WriteResult) : State :=
  match s.calls[k]? with
  | some c => s.setCall k { c with done := some res }
  | none => s

/-- Run an operation. -/
def State.run (s : State) (k : Nat) (e : Engine) : State :=
  match s.calls[k]? with
  | some c =>
    { s with
      phase := .answer k (execute e c.op)
      applied := if e.applies c.op then s.applied ++ [k] else s.applied }
  | none => s

/-- The next action of the writer. -/
def State.writeStep (s : State) (stop : Bool) (e : Engine) : Option State :=
  match s.phase with
  | .select =>
    if stop then
      if s.ctxDone then some { s with phase := .stop } else none
    else
      match s.ch.buf with
      | k :: rest => some { s with ch := { s.ch with buf := rest }, phase := .run k }
      | [] => if s.ch.closed then some { s with phase := .returned } else none
  | .run k => some (s.run k e)
  | .answer k res => some { s.reply k res with phase := .select }
  | .stop => some { s with stopped := true, phase := .wait }
  | .wait => if s.wg = 0 then some { s with phase := .close } else none
  | .close =>
    if s.ch.closed then some { s with panicked := true }
    else some { s with ch := { s.ch with closed := true }, phase := .drain }
  | .drain =>
    match s.ch.buf with
    | k :: rest => some { s with ch := { s.ch with buf := rest }, phase := .refuse k }
    | [] => if s.ch.closed then some { s with phase := .returned } else none
  | .refuse k => some { s.reply k ⟨0, some .writerDone⟩ with phase := .drain }
  | .returned => none

def State.step (s : State) : Move → Option State
  | .submit op => if s.panicked then none else some { s with calls := s.calls ++ [⟨op, false, .check, none⟩] }
  | .endCall k =>
    if s.panicked then none
    else
      match s.calls[k]? with
      | some c => some (s.setCall k { c with ctxDone := true })
      | none => none
  | .endWriter => if s.panicked then none else some { s with ctxDone := true }
  | .call k giveUp =>
    if s.panicked then none
    else
      match s.calls[k]? with
      | some c => s.callStep k c giveUp
      | none => none
  | .write stop e => if s.panicked then none else s.writeStep stop e

/-! ## 3. Everything a move can do -/

variable {k j : Nat} {c c' d d' : Call} {giveUp : Bool} {e : Engine} {m : Move} {res : WriteResult} {stage : Stage}
    {p q : Phase}

/-- A call goes from one stage to the next, and the wait group with it. -/
inductive Goes (s : State) (c : Call) (giveUp : Bool) : Stage → Nat → Prop where
  | refused (hstage : c.stage = .check) (hstopped : s.stopped = true) :
      Goes s c giveUp (.returned noResult stoppedError) s.wg
  | admitted (hstage : c.stage = .check) (hstopped : s.stopped = false) : Goes s c giveUp .add s.wg
  | counted (hstage : c.stage = .add) : Goes s c giveUp .recheck (s.wg + 1)
  | late (hstage : c.stage = .recheck) (hstopped : s.stopped = true) : Goes s c giveUp .undo s.wg
  | entered (hstage : c.stage = .recheck) (hstopped : s.stopped = false) : Goes s c giveUp .offer s.wg
  | undone (hstage : c.stage = .undo) : Goes s c giveUp (.returned noResult stoppedError) (s.wg - 1)
  | gaveUp (hgive : giveUp = true) (hstage : c.stage.inside = true) (hctx : c.ctxDone = true) :
      Goes s c giveUp (.leave noResult (some .callerDone)) s.wg
  | received (res : WriteResult) (hstage : c.stage = .await) (hdone : c.done = some res) :
      Goes s c giveUp (.leave res res.err) s.wg
  | left (res : WriteResult) (err : Option WriteError) (hstage : c.stage = .leave res err) :
      Goes s c giveUp (.returned res err) (s.wg - 1)

/-- What the writer does. -/
inductive Writes (s : State) (e : Engine) : State → Prop where
  | cancelled (hphase : s.phase = .select) (hctx : s.ctxDone = true) : Writes s e { s with phase := .stop }
  | took (k : Nat) (rest : List Nat) (hphase : s.phase = .select) (hbuf : s.ch.buf = k :: rest) :
      Writes s e { s with ch := { s.ch with buf := rest }, phase := .run k }
  | ended (hphase : s.phase = .select ∨ s.phase = .drain) (hbuf : s.ch.buf = []) (hclosed : s.ch.closed = true) :
      Writes s e { s with phase := .returned }
  | ran (k : Nat) (hphase : s.phase = .run k) : Writes s e (s.run k e)
  | answered (k : Nat) (res : WriteResult) (hphase : s.phase = .answer k res) :
      Writes s e { s.reply k res with phase := .select }
  | flagged (hphase : s.phase = .stop) : Writes s e { s with stopped := true, phase := .wait }
  | waited (hphase : s.phase = .wait) (hwg : s.wg = 0) : Writes s e { s with phase := .close }
  | closedTwice (hphase : s.phase = .close) (hclosed : s.ch.closed = true) : Writes s e { s with panicked := true }
  | closed (hphase : s.phase = .close) (hopen : s.ch.closed = false) :
      Writes s e { s with ch := { s.ch with closed := true }, phase := .drain }
  | drained (k : Nat) (rest : List Nat) (hphase : s.phase = .drain) (hbuf : s.ch.buf = k :: rest) :
      Writes s e { s with ch := { s.ch with buf := rest }, phase := .refuse k }
  | refused (k : Nat) (hphase : s.phase = .refuse k) :
      Writes s e { s.reply k ⟨0, some .writerDone⟩ with phase := .drain }

inductive Stepped (s : State) : Move → State → Prop where
  | submitted (op : WriteOp) : Stepped s (.submit op) { s with calls := s.calls ++ [⟨op, false, .check, none⟩] }
  | callEnded (k : Nat) (c : Call) (hc : s.calls[k]? = some c) :
      Stepped s (.endCall k) (s.setCall k { c with ctxDone := true })
  | writerEnded : Stepped s .endWriter { s with ctxDone := true }
  | went (k : Nat) (c : Call) (giveUp : Bool) (stage : Stage) (wg : Nat) (hc : s.calls[k]? = some c)
      (hgoes : Goes s c giveUp stage wg) : Stepped s (.call k giveUp) ({ s with wg := wg }.setStage k c stage)
  | sent (k : Nat) (c : Call) (hc : s.calls[k]? = some c) (hstage : c.stage = .offer) (hopen : s.ch.closed = false) :
      Stepped s (.call k false)
        ({ s with ch := { s.ch with buf := s.ch.buf ++ [k] }, queued := s.queued ++ [k] }.setStage k c .await)
  | sentClosed (k : Nat) (c : Call) (hc : s.calls[k]? = some c) (hstage : c.stage = .offer)
      (hclosed : s.ch.closed = true) : Stepped s (.call k false) { s with panicked := true }
  | wrote (stop : Bool) (e : Engine) (s' : State) (h : Writes s e s') : Stepped s (.write stop e) s'

variable {s s' : State}

theorem stepped_call (hc : s.calls[k]? = some c)
    (h : s.callStep k c giveUp = some s') : Stepped s (.call k giveUp) s' := by
  have hwent : ∀ {stage wg}, Goes s c giveUp stage wg → Stepped s (.call k giveUp)
    ({ s with wg := wg }.setStage k c stage) :=
    fun hgoes => .went k c giveUp _ _ hc hgoes
  unfold State.callStep at h
  split at h <;> rename_i hstage
  · cases h
    split <;> rename_i hstopped
    · exact hwent (.refused hstage hstopped)
    · exact hwent (.admitted hstage (Bool.eq_false_iff.mpr hstopped))
  · cases h
    exact hwent (.counted hstage)
  · cases h
    split <;> rename_i hstopped
    · exact hwent (.late hstage hstopped)
    · exact hwent (.entered hstage (Bool.eq_false_iff.mpr hstopped))
  · cases h
    exact hwent (.undone hstage)
  · split_ifs at h with hgive hctx hclosed hroom <;> cases h
    · exact hwent (.gaveUp hgive (by simp [hstage, Stage.inside]) hctx)
    · exact Bool.eq_false_iff.mpr hgive ▸ .sentClosed k c hc hstage hclosed
    · exact Bool.eq_false_iff.mpr hgive ▸ .sent k c hc hstage (Bool.eq_false_iff.mpr hclosed)
  · split_ifs at h with hgive hctx
    · cases h
      exact hwent (.gaveUp hgive (by simp [hstage, Stage.inside]) hctx)
    · split at h <;> cases h
      next res hdone => exact hwent (.received res hstage hdone)
  · cases h
    exact hwent (.left _ _ hstage)
  · cases h

theorem writes_writeStep {stop : Bool} (h : s.writeStep stop e = some s') : Writes s e s' := by
  unfold State.writeStep at h
  split at h <;> rename_i hphase
  · split at h
    · split_ifs at h with hctx
      cases h
      exact .cancelled hphase hctx
    · split at h <;> rename_i hbuf
      · cases h
        exact .took _ _ hphase hbuf
      · split_ifs at h with hclosed
        cases h
        exact .ended (Or.inl hphase) hbuf hclosed
  · cases h
    exact .ran _ hphase
  · cases h
    exact .answered _ _ hphase
  · cases h
    exact .flagged hphase
  · split_ifs at h with hwg
    cases h
    exact .waited hphase hwg
  · split_ifs at h with hclosed <;> cases h
    · exact .closedTwice hphase hclosed
    · exact .closed hphase (Bool.eq_false_iff.mpr hclosed)
  · split at h <;> rename_i hbuf
    · cases h
      exact .drained _ _ hphase hbuf
    · split_ifs at h with hclosed
      cases h
      exact .ended (Or.inr hphase) hbuf hclosed
  · cases h
    exact .refused _ hphase
  · cases h

/-- **The inversion of a move.** -/
theorem stepped (h : s.step m = some s') : Stepped s m s' := by
  cases m <;> simp only [State.step, Option.ite_none_left_eq_some, Option.some.injEq] at h
  case submit op => exact h.2 ▸ .submitted op
  case endCall k =>
    split at h <;> rename_i hc
    · exact Option.some.inj h.2 ▸ .callEnded k _ hc
    · cases h.2
  case endWriter => exact h.2 ▸ .writerEnded
  case call k giveUp =>
    split at h <;> rename_i hc
    · exact stepped_call hc h.2
    · cases h.2
  case write stop e => exact .wrote stop e s' (writes_writeStep h.2)

/-- What a move can do to one call. -/
inductive Turned (s : State) (m : Move) (k : Nat) (c : Call) : Call → Prop where
  | same : Turned s m k c c
  | ended : Turned s m k c { c with ctxDone := true }
  | went (giveUp : Bool) (stage : Stage) (wg : Nat) (hm : m = .call k giveUp) (h : Goes s c giveUp stage wg) :
      Turned s m k c { c with stage := stage }
  | sent (hm : m = .call k false) (hstage : c.stage = .offer) : Turned s m k c { c with stage := .await }
  | replied (res : WriteResult) (hhand : s.phase.hand = some k) : Turned s m k c { c with done := some res }

variable {cs : List Call}

/-- The cs after one of them changed. -/
theorem get_set (hc : cs[k]? = some c) :
    (cs.set k c')[j]? = if j = k then some c' else cs[j]? := by
  obtain ⟨hk, _⟩ := List.getElem?_eq_some_iff.mp hc
  by_cases hjk : j = k
  · simp [hjk, hk]
  · simp [hjk, Ne.symm hjk]

/-- What holds of the others, and of the changed call, holds of all. -/
theorem forall_set {P : Nat → Call → Prop} (hc : cs[k]? = some c)
    (hothers : ∀ (j : Nat) d, j ≠ k → cs[j]? = some d → P j d) (hnew : P k c') (j : Nat) (d : Call)
    (hd : (cs.set k c')[j]? = some d) : P j d := by
  rw [get_set hc] at hd
  split_ifs at hd with hjk
  · cases hd
    exact hjk ▸ hnew
  · exact hothers j d hjk hd

/-- One call changes. -/
theorem turned_set (hc : cs[k]? = some c)
    (hd : cs[j]? = some d) (hd' : (cs.set k c')[j]? = some d') (hturn : Turned s m k c c') : Turned s m j d d' := by
  rw [get_set hc] at hd'
  split_ifs at hd' with hjk
  · subst hjk
    rw [hc] at hd
    cases hd
    cases hd'
    exact hturn
  · rw [hd] at hd'
    cases hd'
    exact .same

theorem turned_reply (hhand : s.phase.hand = some k)
    (hd : s.calls[j]? = some d) (hd' : (s.reply k res).calls[j]? = some d') : Turned s m j d d' := by
  unfold State.reply at hd'
  split at hd'
  · next c hc => exact turned_set hc hd hd' (.replied res hhand)
  · rw [hd] at hd'
    cases hd'
    exact .same

section Reply

variable (s : State) (k : Nat) (res : WriteResult)

/-- An answer changes nothing but a call. -/
theorem reply_eq : s.reply k res = { s with calls := (s.reply k res).calls } := by
  unfold State.reply
  split <;> rfl

@[simp] theorem reply_ch : (s.reply k res).ch = s.ch := by rw [reply_eq]

@[simp] theorem reply_queued : (s.reply k res).queued = s.queued := by rw [reply_eq]

@[simp] theorem reply_applied : (s.reply k res).applied = s.applied := by rw [reply_eq]

@[simp] theorem reply_length : (s.reply k res).calls.length = s.calls.length := by
  unfold State.reply
  split
  · exact List.length_set
  · rfl

end Reply

/-- The operations that wait for their answer, the writer's own first. -/
def State.pending (s : State) : List Nat := s.phase.hand.toList ++ s.ch.buf

/-- The writer answers the operation it has, or leaves the calls and what is pending alone. -/
theorem Writes.answers (hw : Writes s e s') :
    (s'.pending = s.pending ∧ s'.queued = s.queued ∧ s'.calls = s.calls) ∨
      ∃ k res p, s.phase.hand = some k ∧ p.hand = none ∧ s' = { s.reply k res with phase := p } := by
  unfold State.pending
  cases hw with
  | cancelled hphase | flagged hphase | waited hphase | closed hphase =>
    rw [hphase]
    exact Or.inl ⟨rfl, rfl, rfl⟩
  | took _ _ hphase hbuf | drained _ _ hphase hbuf =>
    rw [hphase, hbuf]
    exact Or.inl ⟨rfl, rfl, rfl⟩
  | ended hphase => rcases hphase with hphase | hphase <;> (rw [hphase]; exact Or.inl ⟨rfl, rfl, rfl⟩)
  | closedTwice => exact Or.inl ⟨rfl, rfl, rfl⟩
  | ran _ hphase =>
    unfold State.run
    split
    · rw [hphase]
      exact Or.inl ⟨rfl, rfl, rfl⟩
    · exact Or.inl ⟨rfl, rfl, rfl⟩
  | answered k res hphase => exact Or.inr ⟨k, res, .select, by rw [hphase]; rfl, rfl, rfl⟩
  | refused k hphase => exact Or.inr ⟨k, _, .drain, by rw [hphase]; rfl, rfl, rfl⟩

section Step

variable (h : Stepped s m s')

include h

/-- **The inversion for one call.** -/
theorem Stepped.turned (hd : s.calls[j]? = some d)
    (hd' : s'.calls[j]? = some d') : Turned s m j d d' := by
  have hsame : s.calls[j]? = some d' → Turned s m j d d' := by
    intro hd'
    rw [hd] at hd'
    cases hd'
    exact .same
  cases h with
  | submitted => exact hsame ((Runs.get_concat.mp hd').resolve_right fun h => by simp [h.1] at hd)
  | callEnded _ _ hc => exact turned_set hc hd hd' .ended
  | writerEnded | sentClosed => exact hsame hd'
  | went _ _ giveUp stage wg hc hgoes => exact turned_set hc hd hd' (.went giveUp stage wg rfl hgoes)
  | sent _ _ hc hstage => exact turned_set hc hd hd' (.sent rfl hstage)
  | wrote _ _ _ hw =>
    rcases hw.answers with ⟨-, -, hcalls⟩ | ⟨_, _, _, hhand, -, rfl⟩
    · exact hsame (hcalls ▸ hd')
    · exact turned_reply hhand hd hd'

/-- The calls stay, and at most one comes, at its first stage. -/
theorem Stepped.calls :
    s'.calls.length = s.calls.length ∨ ∃ op, s'.calls = s.calls ++ [⟨op, false, .check, none⟩] := by
  cases h with
  | submitted op => exact Or.inr ⟨op, rfl⟩
  | callEnded | went | sent => exact Or.inl List.length_set
  | writerEnded | sentClosed => exact Or.inl rfl
  | wrote _ _ _ hw =>
    rcases hw.answers with ⟨-, -, hcalls⟩ | ⟨_, _, _, -, -, rfl⟩
    · exact Or.inl (congrArg _ hcalls)
    · exact Or.inl (reply_length s _ _)

/-- Where a call was before the move. -/
theorem Stepped.before (hd' : s'.calls[j]? = some d') :
    (∃ d, s.calls[j]? = some d ∧ Turned s m j d d') ∨
      s.calls[j]? = none ∧ ∃ op, d' = ⟨op, false, .check, none⟩ := by
  cases hd : s.calls[j]? with
  | some d => exact Or.inl ⟨d, rfl, h.turned hd hd'⟩
  | none =>
    have hle : s.calls.length ≤ j := List.getElem?_eq_none_iff.mp hd
    have hlt : j < s'.calls.length := (List.getElem?_eq_some_iff.mp hd').1
    rcases h.calls with hlen | ⟨op, hnew⟩
    · omega
    · rw [hnew] at hd'
      rcases Runs.get_concat.mp hd' with hold | ⟨-, rfl⟩
      · exact nomatch hd.symm.trans hold
      · exact Or.inr ⟨rfl, op, rfl⟩

/-- Where a call is after the move. -/
theorem Stepped.after (hd : s.calls[j]? = some d) :
    ∃ d', s'.calls[j]? = some d' ∧ Turned s m j d d' := by
  have hlt : j < s.calls.length := (List.getElem?_eq_some_iff.mp hd).1
  have hlen : j < s'.calls.length := by
    rcases h.calls with hlen | ⟨op, hnew⟩
    · omega
    · rw [hnew, List.length_append]
      omega
  obtain ⟨d', hd'⟩ : ∃ d', s'.calls[j]? = some d' := ⟨_, List.getElem?_eq_getElem hlen⟩
  exact ⟨d', hd', h.turned hd hd'⟩

/-- Operations are put on the queue by the calls that offer them. -/
theorem Stepped.queues :
    s'.queued = s.queued ∨ ∃ k c, s.calls[k]? = some c ∧ c.stage = .offer ∧ s'.queued = s.queued ++ [k] := by
  cases h with
  | submitted | callEnded | writerEnded | went | sentClosed => exact Or.inl rfl
  | sent k c hc hstage => exact Or.inr ⟨k, c, hc, hstage, rfl⟩
  | wrote _ _ _ hw =>
    rcases hw.answers with ⟨-, hqueued, -⟩ | ⟨_, _, _, -, -, rfl⟩
    · exact Or.inl hqueued
    · exact Or.inl (reply_queued s _ _)

end Step

/-! ## 4. The wait group and the flag -/

/-- The wait group counts, the flag and the queue follow the writer, and the queue is closed only when nobody is
    inside. -/
structure Guarded (s : State) : Prop where
  calm : s.panicked = false
  wg : s.wg = s.calls.countP fun c => c.stage.counted
  stopped : s.stopped = s.phase.stopping
  closed : s.ch.closed = s.phase.closed
  waited : s.phase.waited = true → ∀ c ∈ s.calls, c.stage.inside = false

theorem inside_cases {st : Stage} (h : st.inside = true) : st = .offer ∨ st = .await := by
  cases st <;> simp_all [Stage.inside]

theorem counted_of_inside {st : Stage} (h : st.inside = true) : st.counted = true := by
  rcases inside_cases h with rfl | rfl <;> rfl

theorem Goes.wg {wg : Nat} (h : Goes s c giveUp stage wg) (hpos : c.stage.counted = true → 0 < s.wg) :
    wg + (if c.stage.counted then 1 else 0) = s.wg + if stage.counted then 1 else 0 := by
  cases h with
  | refused hstage | admitted hstage | late hstage | entered hstage | counted hstage | received _ hstage =>
    simp [hstage, Stage.counted]
  | gaveUp _ hstage =>
    rw [counted_of_inside hstage]
    rfl
  | undone hstage | left _ _ hstage =>
    have := hpos (by rw [hstage]; rfl)
    simp only [hstage, Stage.counted, if_true, Bool.false_eq_true, if_false]
    omega

/-- Nobody gets inside once the flag is set. -/
theorem Goes.inside {wg : Nat} (h : Goes s c giveUp stage wg) (hin : stage.inside = true) : s.stopped = false := by
  cases h with
  | entered _ hstopped => exact hstopped
  | refused | admitted | counted | late | undone | gaveUp | received | left => cases hin

theorem stopping_of_waited (h : p.waited = true) : p.stopping = true := by
  cases p <;> first | rfl | cases h

theorem closed_waited (h : p.closed = true) : p.waited = true := by
  cases p <;> first | rfl | cases h

section Guard

variable (h : Guarded s)

include h

/-- One call changes, and the wait group with it. -/
theorem Guarded.set {wg : Nat} {ch : Chan Nat} {queued : List Nat} (hc : s.calls[k]? = some c) (c' : Call)
    (hwg : wg + (if c.stage.counted then 1 else 0) = s.wg + if c'.stage.counted then 1 else 0)
    (hch : ch.closed = s.ch.closed) (hin : s.phase.waited = true → c'.stage.inside = false) :
    Guarded { s with wg := wg, ch := ch, queued := queued, calls := s.calls.set k c' } := by
  refine ⟨h.calm, ?_, h.stopped, hch.trans h.closed, fun hwaited d hd => ?_⟩
  · have hcount := Runs.countP_set (fun c => c.stage.counted) hc c'
    rw [← h.wg] at hcount
    show wg = (s.calls.set k c').countP fun c => c.stage.counted
    omega
  · rcases List.mem_or_eq_of_mem_set hd with hd | rfl
    · exact h.waited hwaited d hd
    · exact hin hwaited

/-- A call that goes on. -/
theorem Guarded.went {wg : Nat} (hc : s.calls[k]? = some c)
    (hgoes : Goes s c giveUp stage wg) : Guarded ({ s with wg := wg }.setStage k c stage) := by
  refine h.set hc { c with stage := stage } (hgoes.wg fun hcounted => ?_) rfl fun hwaited => ?_
  · rw [h.wg]
    exact List.countP_pos_iff.mpr ⟨c, List.mem_of_getElem? hc, hcounted⟩
  · by_contra hin
    have hrunning := hgoes.inside (Bool.not_eq_false _ ▸ hin)
    rw [h.stopped, stopping_of_waited hwaited] at hrunning
    cases hrunning

theorem Guarded.sent (hc : s.calls[k]? = some c) (hstage : c.stage = .offer) :
    Guarded ({ s with ch := { s.ch with buf := s.ch.buf ++ [k] }, queued := s.queued ++ [k] }.setStage k c .await) := by
  refine h.set hc { c with stage := .await } (by rw [hstage]; rfl) rfl fun hwaited => ?_
  have hout := h.waited hwaited c (List.mem_of_getElem? hc)
  rw [hstage] at hout
  cases hout

/-- An answer changes neither stages nor the count. -/
theorem Guarded.reply (k : Nat) (res : WriteResult) : Guarded (s.reply k res) := by
  unfold State.reply
  split
  · next c hc => exact h.set hc _ rfl rfl fun hwaited => h.waited hwaited c (List.mem_of_getElem? hc)
  · exact h

/-- The writer goes on to a phase that has the same flags, and changes no call. -/
theorem Guarded.phase (hphase : s.phase = q) (p : Phase) (ch : Chan Nat) (hch : ch.closed = p.closed)
    (hstopping : p.stopping = q.stopping) (hwaited : p.waited = true → q.waited = true) (applied : List Nat) :
    Guarded { s with ch := ch, phase := p, applied := applied } := by
  subst hphase
  exact ⟨h.calm, h.wg, h.stopped.trans hstopping.symm, hch, fun hp => h.waited (hwaited hp)⟩

theorem Guarded.answered (hphase : s.phase = q) (hclosed : p.closed = q.closed)
    (hstopping : p.stopping = q.stopping) (hwaited : p.waited = true → q.waited = true) :
    Guarded { s.reply k res with phase := p } := by
  have hkept : (s.reply k res).phase = s.phase := by rw [reply_eq]
  refine (h.reply k res).phase (hkept.trans hphase) p _ ?_ hstopping hwaited _
  rw [reply_ch, h.closed, hphase, hclosed]

theorem Guarded.wrote (hw : Writes s e s') : Guarded s' := by
  have hclosed := h.closed
  cases hw with
  | cancelled hphase =>
    rw [hphase] at hclosed
    exact h.phase hphase .stop s.ch hclosed rfl nofun _
  | took k rest hphase =>
    rw [hphase] at hclosed
    exact h.phase hphase (.run k) ⟨rest, s.ch.closed⟩ hclosed rfl nofun _
  | ended hphase _ hch =>
    rcases hphase with hphase | hphase
    · rw [hclosed, hphase] at hch
      cases hch
    · exact h.phase hphase .returned s.ch hch rfl (fun _ => rfl) _
  | ran k hphase =>
    unfold State.run
    split
    · rw [hphase] at hclosed
      exact h.phase hphase (.answer k _) s.ch hclosed rfl nofun _
    · exact h
  | answered _ _ hphase => exact h.answered hphase rfl rfl nofun
  | flagged hphase =>
    rw [hphase] at hclosed
    exact ⟨h.calm, h.wg, rfl, hclosed, nofun⟩
  | waited hphase hwg =>
    rw [hphase] at hclosed
    refine ⟨h.calm, h.wg, by rw [h.stopped, hphase]; rfl, hclosed, fun _ c hc => ?_⟩
    -- nobody is counted, so nobody is inside
    by_contra hin
    have hnone := List.countP_eq_zero.mp (h.wg.symm.trans hwg) c hc
    exact hnone (counted_of_inside (Bool.not_eq_false _ ▸ hin))
  | closedTwice hphase hch =>
    rw [hclosed, hphase] at hch
    cases hch
  | closed hphase => exact h.phase hphase .drain ⟨s.ch.buf, true⟩ rfl rfl (fun _ => rfl) _
  | drained k rest hphase =>
    rw [hphase] at hclosed
    exact h.phase hphase (.refuse k) ⟨rest, s.ch.closed⟩ hclosed rfl (fun _ => rfl) _
  | refused _ hphase => exact h.answered hphase rfl rfl fun _ => rfl

theorem guarded_step (hstep : Stepped s m s') : Guarded s' := by
  cases hstep with
  | submitted =>
    refine ⟨h.calm, ?_, h.stopped, h.closed, fun hwaited c hc => ?_⟩
    · show s.wg = _
      rw [List.countP_append, h.wg]
      rfl
    · rcases List.mem_append.mp hc with hc | hc
      · exact h.waited hwaited c hc
      · rw [List.mem_singleton.mp hc]
        rfl
  | callEnded _ c hc =>
    exact h.set hc { c with ctxDone := true } rfl rfl fun hwaited => h.waited hwaited c (List.mem_of_getElem? hc)
  | writerEnded => exact ⟨h.calm, h.wg, h.stopped, h.closed, h.waited⟩
  | went _ _ _ _ _ hc hgoes => exact h.went hc hgoes
  | sent _ _ hc hstage => exact h.sent hc hstage
  | sentClosed _ c hc hstage hclosed =>
    -- who offers is inside, and the queue is closed only when nobody is
    rw [h.closed] at hclosed
    have hout := h.waited (closed_waited hclosed) c (List.mem_of_getElem? hc)
    rw [hstage] at hout
    cases hout
  | wrote _ _ _ hw => exact h.wrote hw

end Guard

/-! ## 5. The queue -/

/-- Nothing was put on the queue yet. -/
def Stage.early : Stage → Bool
  | .check | .add | .recheck | .undo | .offer => true
  | .await | .leave .. | .returned .. => false

/-- Every operation that was queued is pending, once, or answered. -/
structure Lined (pending queued : List Nat) (calls : List Call) : Prop where
  once : pending.Nodup
  unanswered : ∀ k ∈ pending, ∃ c, calls[k]? = some c ∧ c.done = none
  known : ∀ k, k ∈ queued ↔ k ∈ pending ∨ ∃ c, calls[k]? = some c ∧ c.done ≠ none
  early : ∀ (k : Nat) c, calls[k]? = some c → c.stage.early = true → k ∉ queued
  await : ∀ (k : Nat) c, calls[k]? = some c → c.stage = .await → k ∈ queued

namespace Lined

variable {pending queued : List Nat}

/-- The first operation is answered. -/
theorem reply (h : Lined (k :: pending) queued cs) (hc : cs[k]? = some c) :
    Lined pending queued (cs.set k { c with done := some res }) := by
  obtain ⟨hk, honce⟩ := List.nodup_cons.mp h.once
  refine ⟨honce, fun j hj => ?_, fun j => ?_, ?_, ?_⟩
  · rw [get_set hc]
    split
    · next hjk => exact absurd (hjk ▸ hj) hk
    · exact h.unanswered j (List.mem_cons_of_mem k hj)
  · rw [h.known j, get_set hc, List.mem_cons]
    split
    · next hjk => simp [hjk]
    · next hjk => simp [hjk]
  · exact forall_set hc (fun j d _ hd => h.early j d hd) (h.early k c hc)
  · exact forall_set hc (fun j d _ hd => h.await j d hd) (h.await k c hc)

variable (h : Lined pending queued cs)
include h

theorem lt (hk : k ∈ queued) : ∃ c, cs[k]? = some c := by
  rcases (h.known k).mp hk with hk | ⟨c, hc, _⟩
  · obtain ⟨c, hc, _⟩ := h.unanswered k hk
    exact ⟨c, hc⟩
  · exact ⟨c, hc⟩

/-- One call changes, but not its answer. -/
theorem set (hc : cs[k]? = some c) (hdone : c'.done = c.done)
    (hearly : c'.stage.early = true → c.stage.early = true) (hawait : c'.stage = .await → c.stage = .await) :
    Lined pending queued (cs.set k c') := by
  refine ⟨h.once, fun j hj => ?_, fun j => ?_, ?_, ?_⟩
  · obtain ⟨d, hd, hnone⟩ := h.unanswered j hj
    rw [get_set hc]
    split
    · next hjk =>
      rw [hjk, hc] at hd
      cases hd
      exact ⟨c', rfl, hdone.trans hnone⟩
    · exact ⟨d, hd, hnone⟩
  · rw [h.known j, get_set hc]
    split
    · next hjk =>
      rw [hjk, hc]
      simp only [Option.some.injEq, exists_eq_left', hdone]
    · exact Iff.rfl
  · exact forall_set hc (fun j d _ hd => h.early j d hd) fun hstage => h.early k c hc (hearly hstage)
  · exact forall_set hc (fun j d _ hd => h.await j d hd) fun hstage => h.await k c hc (hawait hstage)

theorem submit (op : WriteOp) :
    Lined pending queued (cs ++ [⟨op, false, .check, none⟩]) := by
  refine ⟨h.once, fun j hj => ?_, fun j => ?_, fun j d hd hstage hj => ?_, fun j d hd hstage => ?_⟩
  · obtain ⟨d, hd, hnone⟩ := h.unanswered j hj
    exact ⟨d, Runs.get_concat.mpr (Or.inl hd), hnone⟩
  · -- the new call has no answer
    rw [h.known j]
    simp [Runs.get_concat, or_and_right, exists_or]
  · rcases Runs.get_concat.mp hd with hd | ⟨rfl, _⟩
    · exact h.early j d hd hstage hj
    · obtain ⟨d', hd'⟩ := h.lt hj
      simp at hd'
  · rcases Runs.get_concat.mp hd with hd | ⟨_, rfl⟩
    · exact h.await j d hd hstage
    · cases hstage

theorem send (hc : cs[k]? = some c) (hstage : c.stage = .offer) :
    Lined (pending ++ [k]) (queued ++ [k]) (cs.set k { c with stage := .await }) := by
  have hnew : k ∉ queued := h.early k c hc (by rw [hstage]; rfl)
  have hpending : k ∉ pending := fun hk => hnew ((h.known k).mpr (Or.inl hk))
  have hdone : c.done = none := by
    by_contra hdone
    exact hnew ((h.known k).mpr (Or.inr ⟨c, hc, hdone⟩))
  refine ⟨List.Nodup.append h.once (List.nodup_singleton k) (List.disjoint_singleton.mpr hpending), fun j hj => ?_,
    fun j => ?_, ?_, ?_⟩
  · rw [get_set hc]
    split
    · exact ⟨_, rfl, hdone⟩
    · next hjk =>
      rcases List.mem_append.mp hj with hj | hj
      · exact h.unanswered j hj
      · exact absurd (List.mem_singleton.mp hj) hjk
  · rw [List.mem_append, List.mem_append, h.known j, get_set hc, List.mem_singleton]
    split
    · next hjk => simp [hjk]
    · next hjk => simp [hjk]
  · refine forall_set hc (fun j d hjk hd hearly hj => ?_) nofun
    rcases List.mem_append.mp hj with hj | hj
    · exact h.early j d hd hearly hj
    · exact hjk (List.mem_singleton.mp hj)
  · exact forall_set hc (fun j d _ hd hstage => List.mem_append_left _ (h.await j d hd hstage))
      fun _ => List.mem_append_right _ (List.mem_singleton_self k)

end Lined

theorem Goes.early {wg : Nat} (h : Goes s c giveUp stage wg) :
    (stage.early = true → c.stage.early = true) ∧ stage ≠ .await := by
  cases h with
  | admitted hstage | counted hstage | late hstage | entered hstage =>
    rw [hstage]
    exact ⟨fun _ => rfl, by simp⟩
  | refused | undone | gaveUp | received | left => exact ⟨fun hearly => (by cases hearly), by simp⟩

theorem lined_wrote (h : Lined s.pending s.queued s.calls) (hw : Writes s e s') :
    Lined s'.pending s'.queued s'.calls := by
  rcases hw.answers with ⟨hpending, hqueued, hcalls⟩ | ⟨_, _, _, hhand, hp, rfl⟩
  · rwa [hpending, hqueued, hcalls]
  · unfold State.pending at h ⊢
    rw [hhand] at h
    obtain ⟨c, hc, _⟩ := h.unanswered _ List.mem_cons_self
    rw [hp]
    unfold State.reply
    rw [hc]
    exact h.reply hc

theorem lined_step (h : Lined s.pending s.queued s.calls) (hstep : Stepped s m s') :
    Lined s'.pending s'.queued s'.calls := by
  cases hstep with
  | submitted op => exact h.submit op
  | callEnded _ _ hc => exact h.set hc rfl id id
  | writerEnded | sentClosed => exact h
  | went _ _ _ _ _ hc hgoes => exact h.set hc rfl hgoes.early.1 fun hawait => absurd hawait hgoes.early.2
  | sent _ _ hc hstage =>
    have hsent := h.send hc hstage
    unfold State.pending at hsent
    rw [List.append_assoc] at hsent
    exact hsent
  | wrote _ _ _ hw => exact lined_wrote h hw

/-- What holds in every state. -/
structure Sane (s : State) : Prop where
  guarded : Guarded s
  lined : Lined s.pending s.queued s.calls

theorem sane_init : Sane .init := by
  have hnone : ∀ (k : Nat) c, State.init.calls[k]? ≠ some c := by
    intro k c hc
    cases hc
  refine ⟨⟨rfl, rfl, rfl, rfl, nofun⟩, List.nodup_nil, List.forall_mem_nil _,
    fun k => ⟨fun hk => absurd hk List.not_mem_nil, fun hk => ?_⟩, fun k c hc => absurd hc (hnone k c),
    fun k c hc => absurd hc (hnone k c)⟩
  rcases hk with hk | ⟨c, hc, _⟩
  · exact absurd hk List.not_mem_nil
  · exact absurd hc (hnone k c)

theorem Sane.step (h : Sane s) (hstep : s.step m = some s') : Sane s' :=
  ⟨guarded_step h.guarded (stepped hstep), lined_step h.lined (stepped hstep)⟩

theorem sane_of_reach {ok : State → Move → Prop} (h : Runs.Reach State.step ok .init s) : Sane s :=
  h.inv sane_init fun _ _ _ hs _ hstep => hs.step hstep

/-- **Every run of the writer**, whoever moves, gives up or fails: nothing is sent on the closed queue, which is
    not closed twice, and nothing on it is lost. -/
theorem every_run_sane (ms : List Move) : Sane (Runs.runList State.step State.init ms) :=
  sane_of_reach (Runs.reach_of_runList ms _)

end Maintenant.Writing
