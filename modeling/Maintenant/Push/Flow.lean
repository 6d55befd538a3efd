/-
  File:      Maintenant/Push/Flow.lean
  Subject:   WHERE A QUEUED EVENT IS. A queued event lies in the memory buffer, in the batch of a
             flush that has taken it and not written it yet, or in a row; or it has left the spool:
             acknowledged, expired, evicted from the disk, trimmed from memory.

  * `Ledger` -- what `Send` queued and what has left, by cause, read off the state before and
    after each step;
  * `Stock`, `Flow` -- the abstract queue: its places and the moves between them;
  * `Flow.balanced` -- a move neither makes an event nor loses one;
  * `step_flows` -- **every step of the agent is one such move**;
  * `record_causes` -- what is entered as acknowledged or as expired is;
  * `step_hand` -- a batch gets in hand by a flush that finds a buffer and a store, no other way.
-/
import Mathlib.Algebra.BigOperators.Group.Multiset.Basic
import Mathlib.Tactic.Abel
import Maintenant.Push.Work

namespace Maintenant.Push

/-! ## 1. The ledger -/

/-- The batches in hand, in no order. -/
def Agent.hand (a : Agent) : Multiset (List PendingEvent) := ↑(a.tasks.flatMap Job.batch)

/-- What was queued, and what has left the spool since. -/
structure Ledger where
  queued : List PendingEvent
  acked : List PendingEvent
  expired : List PendingEvent
  evicted : List PendingEvent
  trimmed : List PendingEvent

namespace Ledger

def empty : Ledger := ⟨[], [], [], [], []⟩

/-- What a trim took from the front of the buffer. -/
def trim (l : Ledger) (buf buf' : List PendingEvent) : Ledger :=
  { l with trimmed := l.trimmed ++ buf.take (buf.length - buf'.length) }

/-- The entries for a step of a flush or a retention purge, from `a` to `a'`. -/
def job (l : Ledger) (a a' : Agent) : Job → Ledger
  | .flush => if a.spool.store then l else l.trim a.spool.buf a'.spool.buf
  | .deleteOldestBytes _ => { l with evicted := l.evicted ++ a.store.events.gone a'.store.events }
  | .deleteOlderThan _ => { l with expired := l.expired ++ a.store.events.gone a'.store.events }
  | _ => l

/-- The entries for a step of the agent. -/
def record (l : Ledger) (a a' : Agent) (x : Act) : Ledger :=
  match x with
  | .send e => { l with queued := l.queued ++ [e] }
  | .purge _ => { l with acked := l.acked ++ a.store.events.gone a'.store.events }
  | x => (a.running x).elim l (l.job a a')

/-- What was given up for lack of room. -/
def abandoned (l : Ledger) : List PendingEvent := l.evicted ++ l.trimmed

/-- Everything that has left the spool. -/
def left (l : Ledger) : Multiset PendingEvent := ↑(l.acked ++ l.expired ++ l.abandoned)

end Ledger

/-! ## 2. The abstract queue -/

/-- The places an event can be in. -/
structure Stock where
  buf : List PendingEvent
  hand : Multiset (List PendingEvent)
  events : Journal PendingEvent
  ledger : Ledger

def Agent.stock (a : Agent) (l : Ledger) : Stock := ⟨a.spool.buf, a.hand, a.store.events, l⟩

/-- **What can happen to events.** -/
inductive Flow (v : Stock) : Stock → Prop where
  | rests : Flow v v
  | queues (e : PendingEvent) :
      Flow v { v with buf := v.buf ++ [e], ledger := { v.ledger with queued := v.ledger.queued ++ [e] } }
  | takes : Flow v { v with buf := [], hand := v.buf ::ₘ v.hand }
  | stores (batch : List PendingEvent) (rest : Multiset (List PendingEvent))
      (h : v.hand = batch ::ₘ rest) :
      Flow v { v with hand := rest, events := v.events.append batch }
  | putsBack (batch : List PendingEvent) (rest : Multiset (List PendingEvent))
      (h : v.hand = batch ::ₘ rest) : Flow v { v with hand := rest, buf := batch ++ v.buf }
  | trims (dropped rest : List PendingEvent) (h : v.buf = dropped ++ rest) :
      Flow v { v with buf := rest,
                      ledger := { v.ledger with trimmed := v.ledger.trimmed ++ dropped } }
  | purges (p : Row → Bool) : Flow v
      { v with events := v.events.keep p,
               ledger := { v.ledger with
                 acked := v.ledger.acked ++ v.events.gone (v.events.keep p) } }
  | expires (p : Row → Bool) : Flow v
      { v with events := v.events.keep p,
               ledger := { v.ledger with
                 expired := v.ledger.expired ++ v.events.gone (v.events.keep p) } }
  | evicts (p : Row → Bool) : Flow v
      { v with events := v.events.keep p,
               ledger := { v.ledger with
                 evicted := v.ledger.evicted ++ v.events.gone (v.events.keep p) } }

/-- What is queued or has been at the start, and where it is now. -/
def Stock.Balanced (start : List PendingEvent) (v : Stock) : Prop :=
  (start : Multiset PendingEvent) + v.ledger.queued =
    v.buf + (v.hand.map fun b : List PendingEvent => (b : Multiset PendingEvent)).sum +
      v.events.contents + v.ledger.left

/-- **No move makes an event or loses one.** -/
theorem Flow.balanced {start : List PendingEvent} {v v' : Stock} (h : Flow v v')
    (hv : v.Balanced start) : v'.Balanced start := by
  unfold Stock.Balanced Ledger.left Ledger.abandoned at hv ⊢
  simp only [← Multiset.coe_add] at hv ⊢
  cases h with
  | rests => exact hv
  | queues =>
    simp only [← Multiset.coe_add]
    rw [← add_assoc, hv]
    abel
  | takes =>
    rw [hv]
    simp only [Multiset.map_cons, Multiset.sum_cons, Multiset.coe_nil]
    abel
  | stores _ _ hb =>
    simp only [Journal.contents_append, ← Multiset.coe_add]
    rw [hv, hb, Multiset.map_cons, Multiset.sum_cons]
    abel
  | putsBack _ _ hb =>
    simp only [← Multiset.coe_add]
    rw [hv, hb, Multiset.map_cons, Multiset.sum_cons]
    abel
  | trims _ _ hb =>
    simp only [← Multiset.coe_add]
    rw [hv, hb, ← Multiset.coe_add]
    abel
  | purges p | expires p | evicts p =>
    simp only [← Multiset.coe_add]
    rw [hv, ← Journal.contents_keep_add_gone v.events p]
    abel

theorem foldr_cons_eq_add (own : List (List PendingEvent)) (m : Multiset (List PendingEvent)) :
    own.foldr Multiset.cons m = ↑own + m := by
  induction own with
  | nil => rw [List.foldr_nil, Multiset.coe_nil, zero_add]
  | cons _ _ ih => rw [List.foldr_cons, ih, ← Multiset.cons_coe, Multiset.cons_add]

/-- A move beside batches it has nothing to do with. -/
theorem Flow.beside (own : List (List PendingEvent)) {v v' : Stock} (h : Flow v v') :
    Flow { v with hand := own.foldr Multiset.cons v.hand }
      { v' with hand := own.foldr Multiset.cons v'.hand } := by
  simp only [foldr_cons_eq_add]
  cases h with
  | rests => exact .rests
  | queues e => exact .queues e
  | takes =>
    rw [Multiset.add_cons]
    exact .takes
  | stores batch _ hb => exact .stores batch _ (by rw [hb, Multiset.add_cons])
  | putsBack batch _ hb => exact .putsBack batch _ (by rw [hb, Multiset.add_cons])
  | trims dropped rest hb => exact .trims dropped rest hb
  | purges p => exact .purges p
  | expires p => exact .expires p
  | evicts p => exact .evicts p

/-! ## 3. The agent's steps are moves of the queue -/

theorem totalBytes_append (xs ys : List PendingEvent) : totalBytes (xs ++ ys) = totalBytes xs + totalBytes ys := by
  rw [totalBytes, totalBytes, totalBytes, List.map_append, List.sum_append]

/-- The loop takes the oldest events, their bytes and their number. -/
theorem trimLoop_spec (budget : Int) (buf : List PendingEvent) (bytes : Int) (n : Nat) :
    ∃ dropped, buf = dropped ++ (Spool.trimLoop budget buf bytes n).1 ∧
      (Spool.trimLoop budget buf bytes n).2.1 = bytes - totalBytes dropped ∧
      (Spool.trimLoop budget buf bytes n).2.2 = n + dropped.length := by
  induction buf generalizing bytes n with
  | nil => exact ⟨[], rfl, by simp [Spool.trimLoop, totalBytes], rfl⟩
  | cons e _ ih =>
    by_cases hover : budget < bytes
    · obtain ⟨dropped, hbuf, hbytes, hn⟩ := ih (bytes - e.payload.length) (n + 1)
      rw [Spool.trimLoop, if_pos hover]
      refine ⟨e :: dropped, ?_, ?_, ?_⟩
      · rw [List.cons_append, ← hbuf]
      · rw [hbytes, totalBytes, totalBytes, List.map_cons, List.sum_cons]
        omega
      · rw [hn, List.length_cons]
        omega
    · rw [Spool.trimLoop, if_neg hover]
      exact ⟨[], rfl, by simp [totalBytes], rfl⟩

/-- What a trim takes, counts, and what the ledger reads off the buffer before and after. -/
theorem trim_split (s : Spool) : ∃ dropped, s.buf = dropped ++ s.trimMemoryLocked.buf ∧
      s.trimMemoryLocked.bufBytes = s.bufBytes - totalBytes dropped ∧
      s.trimMemoryLocked.dropped = s.dropped + dropped.length ∧ ∀ l : Ledger, l.trim s.buf s.trimMemoryLocked.buf =
        { l with trimmed := l.trimmed ++ dropped } := by
  obtain ⟨dropped, hbuf, hbytes, hn⟩ := trimLoop_spec s.cfg.maxMemoryBytes s.buf s.bufBytes 0
  have hrest : s.buf = dropped ++ s.trimMemoryLocked.buf := hbuf
  refine ⟨dropped, hrest, hbytes, ?_, fun l => ?_⟩
  · show s.dropped + (Spool.trimLoop _ _ _ _).2.2 = _
    rw [hn, Nat.zero_add]
  · have hlen := congrArg List.length hrest
    rw [List.length_append] at hlen
    have htaken : s.buf.take (s.buf.length - s.trimMemoryLocked.buf.length) = dropped := by
      rw [show s.buf.length - s.trimMemoryLocked.buf.length = dropped.length by omega]
      conv_lhs => rw [hrest]
      exact List.take_left
    rw [Ledger.trim, htaken]

theorem flow_of_trim (v : Stock) (s : Spool) (hs : v.buf = s.buf) :
    Flow v { v with buf := s.trimMemoryLocked.buf,
                    ledger := v.ledger.trim s.buf s.trimMemoryLocked.buf } := by
  obtain ⟨dropped, hbuf, -, -, hl⟩ := trim_split s
  rw [hl]
  exact .trims dropped _ (hs.trans hbuf)

section Steps

variable {readable : List UInt8 → Bool} {a a' : Agent} {out : Option (Nat × Row)} {r : Reply}
  {j : Job} {o : Outcome}

/-- A call's own part of the stock, beside the batches of the others. -/
def Agent.beside (a : Agent) (l : Ledger) (own : List Job)
    (others : Multiset (List PendingEvent)) : Stock :=
  ⟨a.spool.buf, (own.flatMap Job.batch).foldr Multiset.cons others, a.store.events, l⟩

variable {l : Ledger} {x : Act}

/-- A call that leaves buffer and rows alone has nothing to enter. -/
theorem job_same (hflush : j = .flush → a.spool.buf = []) (hstore : a'.store = a.store) : l.job a a' j = l := by
  cases j with
  | flush =>
    dsimp only [Ledger.job, Ledger.trim]
    rw [hflush rfl, List.take_nil, List.append_nil]
    split <;> rfl
  | deleteOldestBytes | deleteOlderThan =>
    dsimp only [Ledger.job]
    rw [hstore, Journal.gone_self, List.append_nil]
  | _ => rfl

/-- **One step of a call is one move.** -/
theorem Ran.flows {s : Spool} {st : SpoolStore} (l : Ledger) (h : Ran a r j s st o)
    (hspool : a'.spool = s) (hstore : a'.store = st) (others : Multiset (List PendingEvent)) :
    Flow (a.beside l [j] others) (a'.beside (l.job a a' j) o.jobs others) := by
  unfold Agent.beside
  rw [hspool, hstore]
  cases h with
  | rests _ o hj hflush _ ho =>
    have hnone : o.jobs.flatMap Job.batch = [] :=
      List.flatMap_eq_nil_iff.mpr fun j' hj' => (ho j' hj').1
    rw [job_same hflush hstore, List.flatMap_singleton, hj, hnone]
    exact .rests
  | takes _ hs =>
    dsimp only [Ledger.job]
    rw [if_pos hs]
    exact .takes
  | trims _ hs =>
    dsimp only [Ledger.job]
    rw [if_neg (Bool.eq_false_iff.mp hs), hspool]
    exact flow_of_trim (a.beside l [] others) a.spool rfl
  | stores batch => exact .stores batch others rfl
  | putsBack batch => exact .putsBack batch others rfl
  | evicts _ _ o _ ho =>
    have hnone : o.jobs.flatMap Job.batch = [] := by
      rcases ho with ⟨-, rfl⟩ | ⟨-, rfl⟩ | rfl <;> rfl
    dsimp only [Ledger.job]
    rw [hnone, hstore]
    exact .evicts _
  | counts => exact .rests
  | expires =>
    dsimp only [Ledger.job]
    rw [hstore]
    exact .expires _

/-- The batches in hand, those of some calls first. -/
theorem hand_split (own others : List Job) (h : a.tasks.Perm (own ++ others)) :
    a.hand = (own.flatMap Job.batch).foldr Multiset.cons ↑(others.flatMap Job.batch) := by
  rw [foldr_cons_eq_add, Multiset.coe_add, ← List.flatMap_append]
  exact Multiset.coe_eq_coe.mpr (h.flatMap_right _)

theorem Calls.flows (h : Calls a r j o a') : Flow (a.stock l) (a'.stock (l.job a a' j)) := by
  obtain ⟨others, hbefore, hafter⟩ := h.others
  rw [Agent.stock, Agent.stock, hand_split [j] others hbefore, hand_split o.jobs others hafter]
  exact h.ran.flows l rfl rfl _

/-- A call that starts has no batch in hand. -/
theorem Starts.hand (h : Starts a a') : a'.hand = a.hand := by
  obtain ⟨started, hperm, hnew⟩ := h
  have hnone : started.flatMap Job.batch = [] := by
    refine List.flatMap_eq_nil_iff.mpr fun j hj => ?_
    rcases hnew j hj with rfl | rfl <;> rfl
  have hhand := hand_split started _ hperm
  rw [hnone] at hhand
  exact hhand

theorem record_of_running (hx : a.running x = some j) : l.record a a' x = l.job a a' j := by
  cases x with
  | job | drain =>
    show (a.running _).elim l (l.job a a') = _
    rw [hx]
    rfl
  | _ => cases hx

/-- A step outside the calls that leaves the rows alone has nothing to enter. -/
theorem record_same (hx : a.running x = none) (hsend : ∀ e, x ≠ .send e)
    (hstore : a'.store = a.store) : l.record a a' x = l := by
  cases x with
  | send e => exact absurd rfl (hsend e)
  | purge =>
    dsimp only [Ledger.record]
    rw [hstore, Journal.gone_self, List.append_nil]
  | job | drain =>
    show (a.running _).elim l (l.job a a') = _
    rw [hx]
    rfl
  | _ => rfl

/-- **Every step of the agent is one move of the queue.** -/
theorem step_flows (l : Ledger) (h : a.step readable x = some (a', out)) :
    Flow (a.stock l) (a'.stock (l.record a a' x)) := by
  cases step_works h with
  | calls _ _ _ _ hx hcalls =>
    rw [record_of_running hx]
    exact hcalls.flows
  | keeps _ _ hx hsend hkeeps =>
    rw [record_same hx hsend hkeeps.store, Agent.stock, Agent.stock, hkeeps.buf, hkeeps.store,
      hkeeps.tasks.hand]
    exact .rests
  | sends e _ hspool hstore htasks =>
    rw [Agent.stock, Agent.stock, hspool, hstore, htasks.hand]
    exact .queues e
  | purges => exact .purges _
  | resets | resetsStored => exact .rests

/-- **What is entered as acknowledged** was in a row up to the acknowledged one, and what is entered as
    expired is older than the cutoff. -/
theorem record_causes (l : Ledger) (h : a.step readable x = some (a', out)) :
    (∀ e ∈ (l.record a a' x).acked, e ∈ l.acked ∨
        ∃ p ∈ a.purging, ∃ seq ≤ p, (seq, e) ∈ a.store.events.rows) ∧
      ∀ e ∈ (l.record a a' x).expired, e ∈ l.expired ∨
        ∃ cutoff, a.running x = some (.deleteOlderThan cutoff) ∧ e.observedAt < cutoff := by
  have hgone : ∀ {p : Row → Bool} {e}, e ∈ a.store.events.gone (a.store.delete p).events →
      ∃ seq, (seq, e) ∈ a.store.events.rows ∧ p (seq, e) = true := by
    intro p e he
    obtain ⟨⟨seq, e⟩, hrow, rfl⟩ := List.mem_map.mp he
    obtain ⟨hmem, hnot⟩ := List.mem_filter.mp hrow
    exact ⟨seq, hmem, by simpa [SpoolStore.delete, Journal.keep, hmem] using hnot⟩
  cases step_works h with
  | calls _ j o _ hx hcalls =>
    rw [record_of_running hx, hx]
    cases j with
    | deleteOlderThan cutoff =>
      have hstore : a'.store = a.store ∨ a'.store = a.store.deleteOlderThan cutoff := by
        have hran := hcalls.ran
        generalize a'.store = st at hran ⊢
        generalize a'.spool = s at hran
        cases hran with
        | rests => exact Or.inl rfl
        | expires => exact Or.inr rfl
      refine ⟨fun _ => Or.inl, fun e he => (List.mem_append.mp he).imp_right fun he => ⟨cutoff, rfl, ?_⟩⟩
      rcases hstore with hsame | hdeleted
      · simp [hsame] at he
      · rw [hdeleted] at he
        obtain ⟨seq, -, hold⟩ := hgone he
        exact of_decide_eq_true hold
    | flush =>
      dsimp only [Ledger.job]
      split <;> exact ⟨fun _ => Or.inl, fun _ => Or.inl⟩
    | _ => exact ⟨fun _ => Or.inl, fun _ => Or.inl⟩
  | keeps _ _ hx hsend hkeeps =>
    rw [record_same hx hsend hkeeps.store]
    exact ⟨fun _ => Or.inl, fun _ => Or.inl⟩
  | purges _ p hp =>
    refine ⟨fun e he => (List.mem_append.mp he).imp_right fun he => ?_, fun _ => Or.inl⟩
    obtain ⟨seq, hmem, hle⟩ := hgone he
    exact ⟨p, hp, seq, of_decide_eq_true hle, hmem⟩
  | sends | resets | resetsStored => exact ⟨fun _ => Or.inl, fun _ => Or.inl⟩

/-! ## 4. Batches in hand -/

theorem Ran.batch {s : Spool} {st : SpoolStore} (h : Ran a r j s st o) :
    o.jobs.flatMap Job.batch = [] ∨ j = .flush ∧ a.spool.buf ≠ [] ∧ a.spool.store = true := by
  cases h with
  | takes hbuf hs => exact Or.inr ⟨rfl, hbuf, hs⟩
  | rests _ _ _ _ _ ho =>
    exact Or.inl (List.flatMap_eq_nil_iff.mpr fun j' hj' => (ho j' hj').1)
  | evicts _ _ _ _ ho =>
    refine Or.inl ?_
    rcases ho with ⟨-, rfl⟩ | ⟨-, rfl⟩ | rfl <;> rfl
  | _ => exact Or.inl rfl

/-- The action makes a flush take the buffer. -/
def Agent.Takes (a : Agent) (x : Act) : Prop :=
  a.running x = some .flush ∧ a.spool.buf ≠ [] ∧ a.spool.store = true
deriving Decidable

/-- The batches in hand grow by no other step. -/
theorem step_hand (h : a.step readable x = some (a', out)) :
    Multiset.card a'.hand ≤ Multiset.card a.hand ∨ a.Takes x := by
  cases step_works h with
  | calls _ j o _ hx hcalls =>
    obtain ⟨others, hbefore, hafter⟩ := hcalls.others
    rcases hcalls.ran.batch with hnone | ⟨rfl, hbuf, hs⟩
    · refine Or.inl ?_
      rw [hand_split [j] others hbefore, hand_split o.jobs others hafter, hnone,
        foldr_cons_eq_add, foldr_cons_eq_add, Multiset.card_add, Multiset.card_add]
      exact Nat.add_le_add_right (Nat.zero_le _) _
    · exact Or.inr ⟨hx, hbuf, hs⟩
  | keeps _ _ _ _ hkeeps => exact Or.inl (hkeeps.tasks.hand ▸ Nat.le_refl _)
  | sends _ _ _ _ htasks => exact Or.inl (htasks.hand ▸ Nat.le_refl _)
  | purges | resets | resetsStored => exact Or.inl (Nat.le_refl _)

end Steps

end Maintenant.Push
