/-
  File:      Maintenant/Push/Close.lean
  Subject:   CLOSING THE SPOOL. `Close` flushes, clears `s.store` and closes the database, while
             other flushes go on.

  `flush` reads `s.store` a second time after it let go of the lock. A flush with a batch in hand
  when `Close` clears the pointer has read it before (then it calls `Append` on the database, open
  or closed) or reads it after (then it calls `Append` on nil and the agent panics).

  * `Shutdown.step` -- the agent with a `Close` in progress;
  * `close_keeps_events` -- no such call, and nothing lost, in the runs where no flush has a batch
    in hand when `Close` clears the pointer (`Clear`);
  * `close_loses_batch` -- the two runs where one has.
-/
import Maintenant.Lib.Runs
import Maintenant.Push.Flow

namespace Maintenant.Push

open Runs

/-! ## 1. The agent with a `Close` in progress -/

/-- Where `Close` stands. `swap`: it clears the pointer next; `release`: it closes the database. -/
inductive Closing where
  | running
  | flushing (j : Job)
  | swap
  | release
  | returned
deriving DecidableEq, Repr

namespace Closing

/-- The pointer is cleared. -/
def swapped : Closing → Bool
  | .release | .returned => true
  | _ => false

/-- The flush of `Close` has taken the buffer, or found it empty. -/
def took : Closing → Bool
  | .running | .flushing .flush => false
  | _ => true

/-- The call of `flush` that `Close` makes. -/
def jobs : Closing → List Job
  | .flushing j => [j]
  | _ => []

end Closing

structure Shutdown where
  agent : Agent
  ledger : Ledger
  closing : Closing
  /-- The database handle is open. -/
  db : Bool
  /-- What was queued when `Close` began. -/
  before : List PendingEvent
  nilAppend : Bool
  closedAppend : Bool

def Shutdown.start (a : Agent) : Shutdown := ⟨a, .empty, .running, true, [], false, false⟩

/-- The store call of the action fails; a row handed to the sink is none. -/
def Agent.failing (a : Agent) : Act → Act
  | .job i _ => .job i .failed
  | .purge _ => .purge .failed
  | .drain r => match a.drain with
      | .rows _ _ => .drain r
      | _ => .drain .failed
  | x => x

/-- The action calls `Append`. -/
def Agent.appends (a : Agent) (x : Act) : Bool := (a.running x).any fun j => !j.batch.isEmpty

inductive ShutdownOp where
  /-- A step of the agent. `held`: a flush about to append has read `s.store` before it was
      cleared. -/
  | act (x : Act) (held : Bool)
  | close
  | closeStep (r : Reply)
deriving DecidableEq, Repr

/-- What the agent's step is when the database may be closed. -/
def Shutdown.actual (s : Shutdown) (x : Act) : Act := if s.db then x else s.agent.failing x

/-- `Close` takes its next step. -/
def Shutdown.closeStep (s : Shutdown) (r : Reply) : Option Shutdown :=
  match s.closing with
  | .flushing j =>
    let out := s.agent.runJob r j
    some { s with agent := out.1, ledger := s.ledger.job s.agent out.1 j,
                  closing := match out.2 with
                    | .returned _ => .swap
                    | .goesOn j' => .flushing j' }
  | .swap =>
    some { s with agent := { s.agent with spool := { s.agent.spool with store := false } },
                  closing := .release }
  | .release => some { s with db := false, closing := .returned }
  | _ => none

/-- What an operation does while the process is up. -/
def Shutdown.move (readable : List UInt8 → Bool) (s : Shutdown) : ShutdownOp → Option Shutdown
  | .act x held =>
    if s.agent.appends x && !s.agent.spool.store && !held then some { s with nilAppend := true }
    else (s.agent.step readable (s.actual x)).map fun y =>
      { s with agent := y.1, ledger := s.ledger.record s.agent y.1 (s.actual x),
               closedAppend := s.closedAppend || (s.agent.appends x && !s.db) }
  | .close =>
    if s.closing = .running then
      some { s with closing := .flushing .flush, before := s.ledger.queued }
    else none
  | .closeStep r => s.closeStep r

/-- **One step.** After a call on nil the process is down. -/
def Shutdown.step (readable : List UInt8 → Bool) (s : Shutdown) (op : ShutdownOp) : Option Shutdown :=
  if s.nilAppend then none else s.move readable op

/-- Writes on the open database succeed. -/
def WritesSucceed (s : Shutdown) : ShutdownOp → Prop
  | .act x _ => s.agent.appends x = true → s.db = true → x.reply.isOk = true
  | .close => True
  | .closeStep r => s.closing.jobs.flatMap Job.batch ≠ [] → r.isOk = true

/-- No flush has a batch in hand when `Close` clears the pointer. -/
def Clear (s : Shutdown) : ShutdownOp → Prop
  | .closeStep _ => s.closing = .swap → s.agent.tasks.flatMap Job.batch = []
  | _ => True

/-! ## 2. What was queued before -/

def Shutdown.stock (s : Shutdown) : Stock := s.agent.beside s.ledger s.closing.jobs s.agent.hand

/-- The invariant of the orderly runs. `later`: from the moment the flush of `Close` has taken the
    buffer, only events queued after `Close` began are in memory or trimmed from it. -/
structure Orderly (start : List PendingEvent) (s : Shutdown) : Prop where
  nilAppend : s.nilAppend = false
  closedAppend : s.closedAppend = false
  opened : s.agent.spool.store = !s.closing.swapped
  hand : s.closing.swapped = true → s.agent.tasks.flatMap Job.batch = []
  db : s.db = true ∨ s.closing = .returned
  balanced : s.stock.Balanced start
  untrimmed : s.closing.swapped = false → s.ledger.trimmed = []
  later : s.closing ≠ .running → ∃ after, s.ledger.queued = s.before ++ after ∧
    (s.closing.took = true →
      (s.agent.spool.buf : Multiset PendingEvent) + s.ledger.trimmed ≤ after)

section Steps

variable {readable : List UInt8 → Bool} {a a' : Agent} {s s' : Shutdown} {start : List PendingEvent}
  {r : Reply} {j : Job} {o : Outcome}

variable {x : Act}

theorem mem_tasks_of_running (h : a.running x = some j) : j ∈ a.tasks := by
  cases x with
  | job => exact List.mem_append_right _ (List.mem_of_getElem? h)
  | drain => exact List.mem_append_left _ (List.mem_of_head? h)
  | _ => cases h

/-- A call that is about to append has a batch in hand. -/
theorem not_appends (hnil : a.tasks.flatMap Job.batch = []) : a.appends x = false := by
  unfold Agent.appends
  cases hx : a.running x with
  | none => rfl
  | some j =>
    have hbatch : j.batch = [] := List.flatMap_eq_nil_iff.mp hnil j (mem_tasks_of_running hx)
    show (!j.batch.isEmpty) = false
    rw [hbatch]
    rfl

theorem job_trimmed {l : Ledger} (h : a.spool.store = true) : (l.job a a' j).trimmed = l.trimmed := by
  cases j with
  | flush =>
    dsimp only [Ledger.job]
    rw [if_pos h]
  | _ => rfl

theorem job_queued (l : Ledger) (a a' : Agent) (j : Job) : (l.job a a' j).queued = l.queued := by
  cases j with
  | flush =>
    dsimp only [Ledger.job]
    split <;> rfl
  | _ => rfl

/-- Memory, and what was trimmed from it. -/
def Agent.memory (a : Agent) (l : Ledger) : Multiset PendingEvent := a.spool.buf + l.trimmed

/-- A call that does not put a batch back brings nothing into memory. -/
theorem Ran.memory {sp : Spool} {st : SpoolStore} (l : Ledger) (h : Ran a r j sp st o)
    (hspool : a'.spool = sp) (hstore : a'.store = st) (hok : j.batch ≠ [] → r.isOk = true) :
    a'.memory (l.job a a' j) ≤ a.memory l := by
  have hsame (hbuf : sp.buf = a.spool.buf) (hl : (l.job a a' j).trimmed = l.trimmed) :
      a'.memory (l.job a a' j) ≤ a.memory l := by
    rw [Agent.memory, Agent.memory, hspool, hbuf, hl]
  cases h with
  | rests _ _ _ hflush => exact hsame rfl (by rw [job_same hflush hstore])
  | takes _ hs =>
    rw [Agent.memory, Agent.memory, hspool, job_trimmed hs]
    exact add_le_add (Multiset.zero_le _) le_rfl
  | trims _ hs =>
    obtain ⟨dropped, hsplit, -, -, hl⟩ := trim_split a.spool
    have hjob : l.job a a' .flush = { l with trimmed := l.trimmed ++ dropped } := by
      dsimp only [Ledger.job]
      rw [if_neg (Bool.eq_false_iff.mp hs), hspool, hl]
    rw [Agent.memory, Agent.memory, hspool, hjob, hsplit]
    simp only [← Multiset.coe_add]
    refine le_of_eq ?_
    abel
  | stores | evicts | counts | expires => exact hsame rfl rfl
  | putsBack _ hr =>
    simp [hok (List.cons_ne_nil _ _)] at hr

/-- A flush that finds the store leaves an empty buffer behind. -/
theorem Ran.empties {sp : Spool} {st : SpoolStore} (h : Ran a r j sp st o) (hj : j = .flush)
    (hs : a.spool.store = true) : sp.buf = [] := by
  cases h with
  | rests _ _ _ hflush => exact hflush hj
  | takes => rfl
  | trims _ hnil =>
    simp [hs] at hnil
  | _ => cases hj

theorem took_of_ne_flush (h : j ≠ .flush) : (Closing.flushing j).took = true := by
  cases j with
  | flush => exact absurd rfl h
  | _ => rfl

/-- What the action queues. -/
def Act.sent : Act → List PendingEvent
  | .send e => [e]
  | _ => []

theorem record_queued (l : Ledger) (a a' : Agent) (x : Act) : (l.record a a' x).queued = l.queued ++ x.sent := by
  have hjob : ∀ running : Option Job, (running.elim l (l.job a a')).queued = l.queued := by
    intro running
    cases running with
    | none => rfl
    | some j => exact job_queued l a a' j
  cases x with
  | send => rfl
  | job | drain => exact (hjob _).trans (List.append_nil _).symm
  | _ => exact (List.append_nil _).symm

/-- What a step of the agent means for memory and for the pointer. -/
theorem step_memory {out : Option (Nat × Row)} (l : Ledger)
    (hok : a.appends x = true → x.reply.isOk = true) (h : a.step readable x = some (a', out)) :
    a'.memory (l.record a a' x) ≤ a.memory l + x.sent ∧ a'.spool.store = a.spool.store ∧
      (a.spool.store = true → (l.record a a' x).trimmed = l.trimmed) := by
  have hgrow (m : Multiset PendingEvent) : m ≤ m + x.sent := Multiset.le_add_right _ _
  cases step_works h with
  | calls _ _ _ _ hx hcalls =>
    rw [record_of_running hx]
    refine ⟨(hcalls.ran.memory l rfl rfl fun hj => hok ?_).trans (hgrow _), hcalls.ran.opened,
      job_trimmed⟩
    rw [Agent.appends, hx]
    simpa using hj
  | keeps _ _ hx hsend hkeeps =>
    rw [record_same hx hsend hkeeps.store, Agent.memory, hkeeps.buf]
    exact ⟨hgrow _, hkeeps.opened, fun _ => rfl⟩
  | sends e _ hspool =>
    rw [Agent.memory, Agent.memory, hspool]
    refine ⟨le_of_eq ?_, rfl, fun _ => rfl⟩
    show ((a.spool.buf ++ [e] : List PendingEvent) : Multiset PendingEvent) + l.trimmed =
      a.spool.buf + l.trimmed + [e]
    rw [← Multiset.coe_add]
    abel
  | purges | resets | resetsStored => exact ⟨hgrow _, rfl, fun _ => rfl⟩

variable (hs : Orderly start s)

include hs

/-- In an orderly run no flush calls `Append` once the pointer is cleared. -/
theorem Orderly.not_appends (hptr : s.agent.spool.store = false) (x : Act) :
    s.agent.appends x = false := by
  refine Push.not_appends (hs.hand ?_)
  have := hs.opened
  rw [hptr] at this
  exact (Bool.not_eq_false' _).mp this.symm

theorem Orderly.closed (hdb : s.db = false) : s.agent.spool.store = false := by
  rcases hs.db with hopen | hret
  · simp [hopen] at hdb
  · rw [hs.opened, hret]
    rfl

theorem Orderly.step_eq {op : ShutdownOp} (h : s.step readable op = some s') :
    s.move readable op = some s' := by
  rwa [Shutdown.step, hs.nilAppend, if_neg Bool.false_ne_true] at h

theorem Orderly.act {held : Bool}
    (hw : WritesSucceed s (.act x held)) (h : s.move readable (.act x held) = some s') : Orderly start s' := by
  have hreply : s.agent.appends (s.actual x) = true → (s.actual x).reply.isOk = true := by
    intro happ
    cases hdb : s.db with
    | true =>
      rw [Shutdown.actual, hdb, if_pos rfl] at happ ⊢
      exact hw happ hdb
    | false =>
      simp [hs.not_appends (hs.closed hdb)] at happ
  dsimp only [Shutdown.move] at h
  split at h
  · -- the pointer is cleared, so no flush is about to append
    next hnil =>
      simp only [Bool.and_eq_true, Bool.not_eq_true'] at hnil
      rw [hs.not_appends hnil.1.2] at hnil
      exact absurd hnil.1.1 Bool.false_ne_true
  · obtain ⟨⟨a', out⟩, hact, rfl⟩ := Option.map_eq_some_iff.mp h
    obtain ⟨hmem, hptr, htrim⟩ := step_memory s.ledger hreply hact
    have hclosed : (s.closedAppend || (s.agent.appends x && !s.db)) = false := by
      rw [hs.closedAppend]
      cases hdb : s.db with
      | true => simp
      | false => rw [hs.not_appends (hs.closed hdb)]; rfl
    have hhand (hsw : s.closing.swapped = true) : a'.tasks.flatMap Job.batch = [] := by
      -- without the pointer no flush takes the buffer
      have hstore : s.agent.spool.store = false := by rw [hs.opened, hsw]; rfl
      rcases step_hand hact with hcard | ⟨-, -, hset⟩
      · have hzero : Multiset.card s.agent.hand = 0 := by
          rw [Agent.hand, hs.hand hsw]
          rfl
        have hempty : a'.hand = 0 := Multiset.card_eq_zero.mp (by omega)
        exact (Multiset.coe_eq_zero _).mp hempty
      · simp [hstore] at hset
    have huntrimmed (hsw : s.closing.swapped = false) :
        (s.ledger.record s.agent a' (s.actual x)).trimmed = [] := by
      have hstore : s.agent.spool.store = true := by rw [hs.opened, hsw]; rfl
      exact (htrim hstore).trans (hs.untrimmed hsw)
    refine { nilAppend := hs.nilAppend, closedAppend := hclosed, opened := hptr.trans hs.opened,
             hand := hhand, db := hs.db, untrimmed := huntrimmed,
             balanced := ((step_flows s.ledger hact).beside _).balanced hs.balanced,
             later := fun hrun => ?_ }
    obtain ⟨after, hqueued, hlater⟩ := hs.later hrun
    refine ⟨after ++ (s.actual x).sent, ?_, fun htook => ?_⟩
    · show (s.ledger.record s.agent a' (s.actual x)).queued = _
      rw [record_queued, hqueued, List.append_assoc]
    · rw [← Multiset.coe_add]
      exact hmem.trans (add_le_add (hlater htook) le_rfl)

theorem Orderly.close (h : s.move readable .close = some s') : Orderly start s' := by
  obtain ⟨hrun, ⟨⟩⟩ := Option.ite_none_right_eq_some.mp h
  have hbalanced := hs.balanced
  have hopened := hs.opened
  rw [Shutdown.stock, hrun] at hbalanced
  rw [hrun] at hopened
  have hdb : s.db = true := hs.db.resolve_right (by rw [hrun]; exact nofun)
  exact { hs with
    opened := hopened
    hand := nofun
    db := Or.inl hdb
    balanced := hbalanced
    untrimmed := fun _ => hs.untrimmed (by rw [hrun]; rfl)
    later := fun _ => ⟨[], (List.append_nil _).symm, nofun⟩ }

/-- The flush of `Close` takes a step. -/
theorem Orderly.flushStep {next : Closing} (hcl : s.closing = .flushing j)
    (hw : j.batch ≠ [] → r.isOk = true) (hnext : next.swapped = false)
    (hjobs : next.jobs = (s.agent.runJob r j).2.jobs) :
    Orderly start { s with agent := (s.agent.runJob r j).1,
                           ledger := s.ledger.job s.agent (s.agent.runJob r j).1 j,
                           closing := next } := by
  have hran := runJob_ran s.agent r j
  have hframe := runJob_frame s.agent r j
  have hptr : s.agent.spool.store = true := by rw [hs.opened, hcl]; rfl
  have hdb : s.db = true := hs.db.resolve_right (by rw [hcl]; exact fun h => by cases h)
  have htrimmed : s.ledger.trimmed = [] := hs.untrimmed (by rw [hcl]; rfl)
  have hhand : (s.agent.runJob r j).1.hand = s.agent.hand := by
    rw [Agent.hand, Agent.hand, Agent.tasks, Agent.tasks, hframe.1, hframe.2.1]
  have hbalanced := hs.balanced
  rw [Shutdown.stock, hcl] at hbalanced
  have hflow := hran.flows s.ledger rfl rfl s.agent.hand
  obtain ⟨after, hqueued, hlater⟩ := hs.later (by rw [hcl]; exact fun h => by cases h)
  refine { hs with
    opened := (hran.opened.trans hptr).trans (by rw [hnext]; rfl)
    hand := fun hsw => absurd hsw (by rw [hnext]; exact Bool.false_ne_true)
    db := Or.inl hdb
    untrimmed := fun _ => (job_trimmed hptr).trans htrimmed
    balanced := ?_
    later := fun _ => ⟨after, (job_queued _ _ _ _).trans hqueued, fun _ => ?_⟩ }
  · rw [Shutdown.stock, hjobs, hhand]
    exact hflow.balanced hbalanced
  · -- at its first step it empties the buffer; later nothing comes back
    by_cases hj : j = .flush
    · have hempty := hran.empties hj hptr
      rw [hempty, job_trimmed hptr, htrimmed]
      exact Multiset.zero_le _
    · refine (hran.memory s.ledger rfl rfl hw).trans (hlater ?_)
      rw [hcl]
      exact took_of_ne_flush hj

theorem Orderly.closeStep (hw : WritesSucceed s (.closeStep r))
    (hc : Clear s (.closeStep r)) (h : s.closeStep r = some s') : Orderly start s' := by
  unfold Shutdown.closeStep at h
  split at h
  · next j hcl =>
    have hok : j.batch ≠ [] → r.isOk = true := by
      intro hj
      refine hw ?_
      rw [hcl]
      simpa [Closing.jobs] using hj
    cases h
    cases ho : (s.agent.runJob r j).2 with
    | returned | goesOn => exact hs.flushStep hcl hok rfl (by rw [ho]; rfl)
  · -- the pointer is cleared
    next hswap =>
      cases h
      have hbalanced := hs.balanced
      have hlater := hs.later
      rw [Shutdown.stock, hswap] at hbalanced
      rw [hswap] at hlater
      have hdb : s.db = true := hs.db.resolve_right (by rw [hswap]; exact nofun)
      exact { hs with
        opened := rfl
        hand := fun _ => hc hswap
        db := Or.inl hdb
        balanced := hbalanced
        untrimmed := nofun
        later := fun _ => hlater fun h => by cases h }
  · -- the database is closed
    next hrel =>
      cases h
      have hbalanced := hs.balanced
      have hlater := hs.later
      have hopened := hs.opened
      have hhand := hs.hand
      rw [Shutdown.stock, hrel] at hbalanced
      rw [hrel] at hlater hopened hhand
      exact { hs with
        opened := hopened
        hand := hhand
        db := Or.inr rfl
        balanced := hbalanced
        untrimmed := nofun
        later := fun _ => hlater fun h => by cases h }
  · cases h

end Steps

/-! ## 3. What `Close` keeps -/

/-- **A clean close loses nothing**: no flush calls `Append` on nil or on the closed database, and
    when `Close` has returned, every event queued before it began is a row or was purged by an ack,
    by its age or by the disk budget. (An event whose `Send` returned was queued before.) -/
theorem close_keeps_events {readable : List UInt8 → Bool} {cfg : SpoolConfig} {store : SpoolStore}
    {now : GoTime.Time} {s : Shutdown} (hcfg : cfg.enabled = true)
    (h : Reach (Shutdown.step readable) (fun s op => WritesSucceed s op ∧ Clear s op)
      (Shutdown.start (newAgent cfg true store now)) s) :
    s.nilAppend = false ∧ s.closedAppend = false ∧
      (s.closing = .returned → (s.before : Multiset PendingEvent) ≤
        s.agent.store.events.contents + s.ledger.acked + s.ledger.expired + s.ledger.evicted) := by
  have hopened : (newAgent cfg true store now).spool.store = true := by
    show (cfg.enabled && true) = true
    rw [hcfg]
    rfl
  have hstart : Orderly store.events.contents (Shutdown.start (newAgent cfg true store now)) :=
    { nilAppend := rfl, closedAppend := rfl, opened := hopened, hand := fun h => (by cases h), db := Or.inl rfl,
      balanced := by
        simp [Stock.Balanced, Shutdown.stock, Agent.beside, Shutdown.start, newAgent, newSpool,
          Closing.jobs, Ledger.empty, Ledger.left, Ledger.abandoned, Agent.hand, Agent.tasks,
          Drain.jobs]
      untrimmed := fun _ => rfl, later := fun hrun => absurd rfl hrun }
  have hs : Orderly store.events.contents s := by
    refine Reach.inv hstart ?_ h
    intro s op s' hs hok hstep
    have hmove := hs.step_eq hstep
    cases op with
    | act => exact hs.act hok.1 hmove
    | close => exact hs.close hmove
    | closeStep => exact hs.closeStep hok.1 hok.2 hmove
  refine ⟨hs.nilAppend, hs.closedAppend, fun hret => ?_⟩
  obtain ⟨after, hqueued, hlater⟩ := hs.later (by rw [hret]; exact fun h => by cases h)
  obtain ⟨rest, hrest⟩ := Multiset.le_iff_exists_add.mp (hlater (by rw [hret]; rfl))
  have hhand : s.agent.hand = 0 := by
    rw [Agent.hand, hs.hand (by rw [hret]; rfl)]
    rfl
  have hbalanced := hs.balanced
  rw [Stock.Balanced, Shutdown.stock, hret] at hbalanced
  simp only [Agent.beside, Closing.jobs, List.flatMap_nil, List.foldr_nil, hhand, hqueued,
    Ledger.left, Ledger.abandoned, ← Multiset.coe_add, Multiset.map_zero, Multiset.sum_zero,
    hrest] at hbalanced
  -- take what is in memory or was trimmed from it off both sides
  have hcancel : (store.events.contents : Multiset PendingEvent) + s.before + rest =
      s.agent.store.events.contents + s.ledger.acked + s.ledger.expired + s.ledger.evicted := by
    refine (Multiset.add_right_inj (s := s.agent.memory s.ledger)).mp ?_
    calc s.agent.memory s.ledger + (store.events.contents + s.before + rest)
        = store.events.contents + (s.before + (s.agent.memory s.ledger + rest)) := by abel
      _ = s.agent.spool.buf + 0 + s.agent.store.events.contents +
            (s.ledger.acked + s.ledger.expired + (s.ledger.evicted + s.ledger.trimmed)) := hbalanced
      _ = _ := by
        rw [Agent.memory]
        abel
  rw [← hcancel, add_comm (store.events.contents : Multiset PendingEvent), add_assoc]
  exact Multiset.le_add_right _ _

/-! ## 4. Three runs -/

/-- An enabled spool with an open, empty store. -/
def freshSpool : Shutdown := .start (newAgent ⟨100, 1000, 0⟩ true ⟨Journal.empty, 0⟩ 0)

def sentEvent : PendingEvent := ⟨"a", 0, [1]⟩

/-- The event is sent, and `Close` flushes it. -/
def cleanClose : List ShutdownOp :=
  [.act (.send sentEvent) false, .close] ++ List.replicate 6 (.closeStep (.ok 0))

instance (s : Shutdown) : (op : ShutdownOp) → Decidable (WritesSucceed s op)
  | .act _ _ => inferInstanceAs (Decidable (_ = true → _ = true → _ = true))
  | .close => .isTrue trivial
  | .closeStep _ => inferInstanceAs (Decidable (¬_ = _ → _ = true))

instance (s : Shutdown) : (op : ShutdownOp) → Decidable (Clear s op)
  | .closeStep _ => inferInstanceAs (Decidable (_ = _ → _ = _))
  | .act _ _ | .close => .isTrue trivial

/-- The event is sent and the ticker's flush takes it; then `Close` comes. -/
def batchInHand : List ShutdownOp :=
  [.act (.send sentEvent) false, .act .startFlush false, .act (.job 0 (.ok 0)) false, .close,
    .closeStep (.ok 0), .closeStep (.ok 0)]

/-- The flush had read the pointer: it appends to the closed database and puts the batch back. -/
def appendsClosed : List ShutdownOp :=
  batchInHand ++ [.closeStep (.ok 0), .act (.job 0 (.ok 0)) true]

/-- The flush had not: it calls `Append` on nil. -/
def appendsNil : List ShutdownOp := batchInHand ++ [.act (.job 0 (.ok 0)) false]

/-- With no other flush under way the event is a row when `Close` has returned. -/
theorem clean_close_keeps_event :
    let s := runList (Shutdown.step fun _ => true) freshSpool cleanClose
    s.closing = .returned ∧ s.before = [sentEvent] ∧
      (s.before : Multiset PendingEvent) ≤
        s.agent.store.events.contents + s.ledger.acked + s.ledger.expired + s.ledger.evicted := by
  have hrun : Reach (Shutdown.step fun _ => true) (fun s op => WritesSucceed s op ∧ Clear s op) freshSpool _ :=
    reach_of_decide cleanClose _ (by decide)
  exact ⟨by decide, by decide, (close_keeps_events rfl hrun).2.2 (by decide)⟩

/-- **A batch in hand when `Close` clears the pointer**: the event was sent before `Close` began,
    and when `Close` has returned it is no row and was not purged; the flush then appends to the
    closed database. Or it calls `Append` on nil. -/
theorem close_loses_batch :
    (∃ s : Shutdown, Reach (Shutdown.step fun _ => true) WritesSucceed freshSpool s ∧
      s.closing = .returned ∧ s.before = [sentEvent] ∧ s.agent.store.events.contents = [] ∧
      s.ledger.acked = [] ∧ s.ledger.expired = [] ∧ s.ledger.evicted = [] ∧
      s.closedAppend = true) ∧
    ∃ s : Shutdown, Reach (Shutdown.step fun _ => true) WritesSucceed freshSpool s ∧
      s.nilAppend = true :=
  ⟨⟨runList (Shutdown.step fun _ => true) freshSpool appendsClosed,
      reach_of_decide _ _ (by decide),
      by decide, by decide, by decide, by decide, by decide, by decide, by decide⟩,
    ⟨runList (Shutdown.step fun _ => true) freshSpool appendsNil,
      reach_of_decide _ _ (by decide), by decide⟩⟩

end Maintenant.Push
