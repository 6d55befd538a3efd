/-
  File:      Maintenant/Push/Accounting.lean
  Subject:   WHAT `Dropped()` REPORTS. One operation of the spool at a time, each with any of its
             store calls failing.

  * `books_balance` -- in any interleaving and under any failure, an event that was queued is in one
    place (buffer, batch in hand, row, or one of the ways out), and `bufBytes` is the buffer's size;
  * `drops_counted` -- `Dropped()` is what was given up for lack of room since the last
    `ResetDropped`, in the runs whose store calls all tell what they did (`Counted`);
  * `failed_reclaim_uncounted` -- the rows are deleted, giving the pages back fails, and
    `enforceDiskBudget` returns before it counts them.
-/
import Maintenant.Lib.Runs
import Maintenant.Push.Flow

namespace Maintenant.Push

open Runs

/-! ## 1. Operations one at a time -/

/-- What `Dropped()` returns when it can read the counter. -/
def Agent.dropped (a : Agent) : Nat :=
  if a.spool.store then a.spool.dropped + a.store.droppedSinceConnect else a.spool.dropped

/-- `ResetDropped`, whose UPDATE may fail; the error is only logged. -/
def Agent.resetDropped (a : Agent) (r : Reply) : Agent :=
  match r with
  | .ok _ =>
    { a with spool := a.spool.resetDropped,
             store := if a.spool.store then a.store.resetDroppedSinceConnect else a.store }
  | _ => { a with spool := a.spool.resetDropped }

/-- No call is in progress. -/
def Agent.AtRest (a : Agent) : Prop :=
  a.jobs = [] ∧ (a.drain = .idle ∨ a.drain = .failed) ∧ a.purging = none

instance (a : Agent) : Decidable a.AtRest :=
  inferInstanceAs (Decidable (a.jobs = [] ∧ (a.drain = .idle ∨ a.drain = .failed) ∧ a.purging = none))

/-- An agent, its ledger, and how many events were given up for lack of room since the last
    `ResetDropped`. -/
structure Books where
  agent : Agent
  ledger : Ledger
  sinceReset : Nat

/-- What a former run counted still counts. -/
def Books.start (a : Agent) : Books := ⟨a, .empty, a.dropped⟩

def Books.enter (b : Books) (a' : Agent) (l' : Ledger) : Books :=
  ⟨a', l', b.sinceReset + (l'.abandoned.length - b.ledger.abandoned.length)⟩

/-- A step of the agent, or a method called on its own. -/
inductive Move where
  | act (x : Act)
  | enforceDiskBudget
  | trimMemoryLocked
  | resetDropped (r : Reply)
deriving DecidableEq, Repr

def Books.step (readable : List UInt8 → Bool) (b : Books) : Move → Option Books
  -- the two halves of `ResetDropped` are one operation here
  | .act .resetDropped | .act .resetDroppedSinceConnect => none
  | .act x => (b.agent.step readable x).map fun y => b.enter y.1 (b.ledger.record b.agent y.1 x)
  | .enforceDiskBudget =>
    some { b with agent := { b.agent with jobs := b.agent.jobs ++ [.enforceDiskBudget] } }
  | .trimMemoryLocked =>
    some (b.enter { b.agent with spool := b.agent.spool.trimMemoryLocked }
      (b.ledger.trim b.agent.spool.buf b.agent.spool.trimMemoryLocked.buf))
  | .resetDropped r => some ⟨b.agent.resetDropped r, b.ledger, 0⟩

/-- The move starts an operation. -/
def Move.starts (a : Agent) : Move → Bool
  | .act (.send _) | .act .startFlush | .act .startPurge | .act (.acked _)
  | .enforceDiskBudget | .trimMemoryLocked | .resetDropped _ => true
  | .act (.drain _) => decide (a.drain = .idle)
  | .act _ => false

/-- An operation starts when none is in progress. -/
def Sequential (b : Books) (m : Move) : Prop := m.starts b.agent = true → b.agent.AtRest
deriving Decidable

/-- The call tells what it deleted for lack of room, and the count is written. -/
def Job.Counts (a : Agent) (r : Reply) : Job → Prop
  | .deleteOldestBytes target =>
    r = .halfway → (a.store.deleteOldestBytes target).depth = a.store.depth
  | .addDropped _ => r.isOk = true
  | _ => True

/-- A reset succeeds, or there was nothing to reset in the store. -/
def Agent.Resets (a : Agent) (r : Reply) : Prop :=
  a.spool.store = true → a.store.droppedSinceConnect ≠ 0 → r.isOk = true

/-- Every deletion for lack of room is counted, and a reset resets. -/
def Counted (b : Books) : Move → Prop
  | .act x => ∀ j ∈ b.agent.running x, j.Counts b.agent x.reply
  | .resetDropped r => b.agent.Resets r
  | _ => True

instance (a : Agent) (r : Reply) : (j : Job) → Decidable (j.Counts a r)
  | .deleteOldestBytes target =>
    inferInstanceAs (Decidable (r = .halfway →
      (a.store.deleteOldestBytes target).depth = a.store.depth))
  | .addDropped _ => inferInstanceAs (Decidable (r.isOk = true))
  | .flush | .append _ | .enforceDiskBudget | .sizeBytes | .purgeExpired
  | .deleteOlderThan _ => .isTrue trivial

instance (b : Books) : (m : Move) → Decidable (Counted b m)
  | .act x => inferInstanceAs (Decidable (∀ j ∈ b.agent.running x, j.Counts b.agent x.reply))
  | .resetDropped r => inferInstanceAs (Decidable (b.agent.spool.store = true →
      b.agent.store.droppedSinceConnect ≠ 0 → r.isOk = true))
  | .enforceDiskBudget | .trimMemoryLocked => .isTrue trivial

/-! ## 2. Places and bytes -/

section Places

variable {readable : List UInt8 → Bool} {a a' : Agent} {b b' : Books}

theorem Books.step_act {x : Act} (h : b.step readable (.act x) = some b') :
    (∃ a' out, b.agent.step readable x = some (a', out) ∧ b' = b.enter a' (b.ledger.record b.agent a' x)) ∧
      x ≠ .resetDropped ∧ x ≠ .resetDroppedSinceConnect := by
  have hx : x ≠ .resetDropped ∧ x ≠ .resetDroppedSinceConnect := by
    constructor <;> rintro rfl <;> cases h
  have hmap : (b.agent.step readable x).map (fun y =>
      b.enter y.1 (b.ledger.record b.agent y.1 x)) = some b' := by
    cases x <;> first | exact h | cases h
  obtain ⟨⟨a', out⟩, hstep, rfl⟩ := Option.map_eq_some_iff.mp hmap
  exact ⟨⟨a', out, hstep, rfl⟩, hx⟩

/-- Every operation moves events between their places. -/
theorem Books.step_flows {m : Move} (h : b.step readable m = some b') :
    Flow (b.agent.stock b.ledger) (b'.agent.stock b'.ledger) := by
  cases m with
  | act =>
    obtain ⟨⟨a', out, hstep, rfl⟩, -⟩ := Books.step_act h
    exact Push.step_flows b.ledger hstep
  | enforceDiskBudget =>
    cases h
    have hhand : { b.agent with jobs := b.agent.jobs ++ [Job.enforceDiskBudget] }.hand =
        b.agent.hand := by
      rw [Agent.hand, Agent.hand, Agent.tasks, Agent.tasks, ← List.append_assoc,
        List.flatMap_append]
      exact congrArg _ (List.append_nil _)
    rw [Agent.stock, Agent.stock, hhand]
    exact .rests
  | trimMemoryLocked =>
    cases h
    exact flow_of_trim (b.agent.stock b.ledger) b.agent.spool rfl
  | resetDropped r =>
    cases h
    cases r with
    | ok =>
      dsimp only [Agent.resetDropped]
      split <;> exact .rests
    | halfway | failed => exact .rests

/-- **An event that was queued is in one place**, whatever fails and however calls interleave. -/
theorem events_partitioned {start : Agent} (hhand : start.hand = 0) (hbuf : start.spool.buf = [])
    (h : Reach (Books.step readable) anyStep (Books.start start) b) :
    (b.agent.stock b.ledger).Balanced start.store.events.contents := by
  refine Reach.inv (I := fun b => (b.agent.stock b.ledger).Balanced start.store.events.contents)
    ?_ (fun s m s' hs _ hstep => (Books.step_flows hstep).balanced hs) h
  simp [Stock.Balanced, Agent.stock, Books.start, hhand, hbuf, Ledger.empty, Ledger.left,
    Ledger.abandoned]

/-- `bufBytes` is the size of the buffer. -/
def Spool.Sized (s : Spool) : Prop := s.bufBytes = totalBytes s.buf

theorem sized_trim {s : Spool} (h : s.Sized) : s.trimMemoryLocked.Sized := by
  obtain ⟨dropped, hbuf, hbytes, -, -⟩ := trim_split s
  have hsum := congrArg totalBytes hbuf
  rw [totalBytes_append] at hsum
  unfold Spool.Sized at h ⊢
  omega

theorem Ran.sized {r : Reply} {j : Job} {s : Spool} {st : SpoolStore} {o : Outcome}
    (h : Ran a r j s st o) (hs : a.spool.Sized) : s.Sized := by
  cases h with
  | takes => rfl
  | trims => exact sized_trim hs
  | putsBack batch =>
    show a.spool.bufBytes + totalBytes batch = totalBytes (batch ++ a.spool.buf)
    rw [totalBytes_append, hs, Int.add_comm]
  | _ => exact hs

theorem sized_step {x : Act} {out : Option (Nat × Row)} (hs : a.spool.Sized)
    (h : a.step readable x = some (a', out)) : a'.spool.Sized := by
  cases step_works h with
  | calls _ _ _ _ _ hcalls => exact hcalls.ran.sized hs
  | keeps _ _ _ _ hkeeps =>
    unfold Spool.Sized at hs ⊢
    rw [hkeeps.bufBytes, hkeeps.buf, hs]
  | sends e _ hspool =>
    rw [hspool]
    show a.spool.bufBytes + e.payload.length = totalBytes (a.spool.buf ++ [e])
    rw [totalBytes_append, hs]
    simp [totalBytes]
  | purges | resets | resetsStored => exact hs

/-- **The byte counter is exact**, whatever fails and however calls interleave. -/
theorem bytes_counted {start : Agent} (hstart : start.spool.Sized)
    (h : Reach (Books.step readable) anyStep (Books.start start) b) : b.agent.spool.Sized := by
  refine Reach.inv (I := fun b => b.agent.spool.Sized) hstart (fun s m s' hs _ hstep => ?_) h
  cases m with
  | act =>
    obtain ⟨⟨a', out, hact, rfl⟩, -⟩ := Books.step_act hstep
    exact sized_step hs hact
  | enforceDiskBudget =>
    cases hstep
    exact hs
  | trimMemoryLocked =>
    cases hstep
    exact sized_trim hs
  | resetDropped r =>
    cases hstep
    cases r <;> exact hs

end Places

/-! ## 3. The drop counters -/

def uncountedOf (jobs : List Job) : Nat := (jobs.map Job.uncounted).sum

/-- The counters lag behind what was given up by what the flushes in progress have to count. -/
structure Tallied (b : Books) : Prop where
  onStore : ∀ j ∈ b.agent.tasks, j.onStore = true → b.agent.spool.store = true
  dropped : b.agent.dropped + uncountedOf b.agent.tasks = b.sinceReset

section Counters

variable {readable : List UInt8 → Bool} {a a' : Agent} {b b' : Books} {r : Reply} {j : Job}
  {o : Outcome}

/-- A call goes on with the store only if the pointer is set. -/
theorem Ran.onStore {s : Spool} {st : SpoolStore} (h : Ran a r j s st o)
    (hj : j.onStore = true → a.spool.store = true) : ∀ j' ∈ o.jobs, j'.onStore = true →
    a.spool.store = true := by
  intro j' hj' hon
  cases h with
  | rests _ _ _ _ _ _ hs => exact (hs (List.ne_nil_of_mem hj')).elim hj id
  | takes _ hs => exact hs
  | trims => cases hj'
  | _ => exact hj rfl

theorem dropped_trim (a : Agent) (l : Ledger) :
    { a with spool := a.spool.trimMemoryLocked }.dropped =
      a.dropped + ((l.trim a.spool.buf a.spool.trimMemoryLocked.buf).abandoned.length -
        l.abandoned.length) := by
  obtain ⟨dropped, -, -, hcount, hl⟩ := trim_split a.spool
  have hstore : a.spool.trimMemoryLocked.store = a.spool.store := rfl
  simp only [Agent.dropped, hstore, hcount, hl, Ledger.abandoned, List.length_append]
  split <;> omega

theorem dropped_evict (l : Ledger) (st : SpoolStore) (p : Row → Bool) :
    { l with evicted := l.evicted ++ st.events.gone (st.delete p).events }.abandoned.length -
      l.abandoned.length = st.depth - (st.delete p).depth := by
  have hgone : (st.events.gone (st.delete p).events).length = st.depth - (st.delete p).depth :=
    Journal.length_gone_keep st.events fun r => !p r
  simp only [Ledger.abandoned, List.length_append]
  omega

/-- One step of a call that counts: what it gives up it counts at once or has still to count. -/
theorem Ran.tallied {s : Spool} {st : SpoolStore} (l : Ledger) (h : Ran a r j s st o)
    (hspool : a'.spool = s) (hstore : a'.store = st)
    (hj : j.onStore = true → a.spool.store = true) (hc : j.Counts a r) : a'.dropped + uncountedOf o.jobs =
      a.dropped + j.uncounted + ((l.job a a' j).abandoned.length - l.abandoned.length) := by
  have hdropped : a'.dropped = { a with spool := s, store := st }.dropped := by
    rw [Agent.dropped, Agent.dropped, hspool, hstore]
  rw [hdropped]
  cases h with
  | rests j o _ hflush hcount ho =>
    have hown : j.uncounted = 0 := by
      cases j with
      | addDropped => exact hcount hc
      | _ => rfl
    have hnext : uncountedOf o.jobs = 0 := by
      refine List.sum_eq_zero fun n hn => ?_
      obtain ⟨j', hj', rfl⟩ := List.mem_map.mp hn
      exact (ho j' hj').2
    rw [job_same hflush hstore, hown, hnext, Nat.sub_self]
  | takes _ hs =>
    dsimp only [Ledger.job]
    rw [if_pos hs, Nat.sub_self]
    rfl
  | trims _ hs =>
    dsimp only [Ledger.job]
    rw [if_neg (Bool.eq_false_iff.mp hs), hspool]
    exact dropped_trim a l
  | evicts target n o hn ho =>
    have hcount : (l.job a a' (.deleteOldestBytes target)).abandoned.length -
        l.abandoned.length = n := by
      dsimp only [Ledger.job]
      rw [hn, hstore]
      exact dropped_evict l a.store _
    rw [hcount]
    show a.dropped + uncountedOf o.jobs = a.dropped + 0 + n
    rcases ho with ⟨rfl, rfl⟩ | ⟨rfl, rfl⟩ | rfl
    · have hsame : (a.store.deleteOldestBytes target).depth = a.store.depth := hc rfl
      rw [hsame, Nat.sub_self] at hn
      rw [hn]
      rfl
    · rfl
    · rfl
  | counts =>
    have hs : a.spool.store = true := hj rfl
    simp only [Agent.dropped, hs, if_true, Ledger.job, SpoolStore.addDropped, Job.uncounted,
      uncountedOf, Outcome.jobs, List.map_nil, List.sum_nil]
    omega
  | stores | putsBack | expires =>
    show a.dropped + 0 = a.dropped + 0 + (l.abandoned.length - l.abandoned.length)
    omega

theorem uncountedOf_append (xs ys : List Job) : uncountedOf (xs ++ ys) = uncountedOf xs + uncountedOf ys := by
  rw [uncountedOf, uncountedOf, uncountedOf, List.map_append, List.sum_append]

theorem uncountedOf_perm {xs ys : List Job} (h : xs.Perm ys) : uncountedOf xs = uncountedOf ys :=
  (h.map _).sum_eq

theorem dropped_congr (hs : a'.spool.store = a.spool.store) (hd : a'.spool.dropped = a.spool.dropped)
    (hc : a'.store.droppedSinceConnect = a.store.droppedSinceConnect) : a'.dropped = a.dropped := by
  rw [Agent.dropped, Agent.dropped, hs, hd, hc]

/-- Calls that start have nothing to count. -/
theorem Starts.tallied (h : Starts a a') (hstore : a'.spool.store = a.spool.store)
    (hon : ∀ j ∈ a.tasks, j.onStore = true → a.spool.store = true) :
    (∀ j ∈ a'.tasks, j.onStore = true → a'.spool.store = true) ∧
    uncountedOf a'.tasks = uncountedOf a.tasks := by
  obtain ⟨started, hperm, hnew⟩ := h
  constructor
  · intro j hj hjs
    rw [hstore]
    rcases List.mem_append.mp (hperm.mem_iff.mp hj) with hj | hj
    · rcases hnew j hj with rfl | rfl <;> cases hjs
    · exact hon j hj hjs
  · rw [uncountedOf_perm hperm, uncountedOf_append]
    have hzero : uncountedOf started = 0 := by
      refine List.sum_eq_zero fun n hn => ?_
      obtain ⟨j, hj, rfl⟩ := List.mem_map.mp hn
      rcases hnew j hj with rfl | rfl <;> rfl
    omega

/-- A step of one call among the others. -/
theorem Calls.tallied {l : Ledger} {n : Nat} (h : Calls a r j o a') (hb : Tallied ⟨a, l, n⟩)
    (hc : j.Counts a r) : Tallied (Books.enter ⟨a, l, n⟩ a' (l.job a a' j)) := by
  obtain ⟨others, hbefore, hafter⟩ := h.others
  have hj : j.onStore = true → a.spool.store = true :=
    hb.onStore j (hbefore.mem_iff.mpr List.mem_cons_self)
  have hstep := h.ran.tallied l rfl rfl hj hc
  have hsum : a.dropped + uncountedOf a.tasks = n := hb.dropped
  rw [uncountedOf_perm hbefore, ← List.singleton_append, uncountedOf_append] at hsum
  have hown : uncountedOf [j] = j.uncounted := Nat.add_zero _
  constructor
  · intro j' hj' hs
    show a'.spool.store = true
    rw [h.ran.opened]
    rcases List.mem_append.mp (hafter.mem_iff.mp hj') with hj' | hj'
    · exact h.ran.onStore hj j' hj' hs
    · exact hb.onStore j' (hbefore.mem_iff.mpr (List.mem_cons_of_mem _ hj')) hs
  · show a'.dropped + uncountedOf a'.tasks =
      n + ((l.job a a' j).abandoned.length - l.abandoned.length)
    rw [uncountedOf_perm hafter, uncountedOf_append]
    omega

theorem Tallied.act {x : Act} {out : Option (Nat × Row)} (hb : Tallied b)
    (hc : Counted b (.act x)) (hx : x ≠ .resetDropped ∧ x ≠ .resetDroppedSinceConnect)
    (h : b.agent.step readable x = some (a', out)) : Tallied (b.enter a' (b.ledger.record b.agent a' x)) := by
  -- nothing given up, nothing counted
  have hsame {a' : Agent} {l' : Ledger} (hl : l'.abandoned = b.ledger.abandoned)
      (ht : Starts b.agent a') (hptr : a'.spool.store = b.agent.spool.store)
      (hdropped : a'.dropped = b.agent.dropped) : Tallied (b.enter a' l') := by
    obtain ⟨hon, hsum⟩ := ht.tallied hptr hb.onStore
    refine ⟨hon, ?_⟩
    show a'.dropped + uncountedOf a'.tasks =
      b.sinceReset + (l'.abandoned.length - b.ledger.abandoned.length)
    rw [hdropped, hsum, hl, Nat.sub_self, Nat.add_zero]
    exact hb.dropped
  cases step_works h with
  | calls _ j _ _ hrun hcalls =>
    rw [record_of_running hrun]
    exact hcalls.tallied hb (hc j hrun)
  | keeps _ _ hrun hsend hkeeps =>
    refine hsame (by rw [record_same hrun hsend hkeeps.store]) hkeeps.tasks hkeeps.opened ?_
    exact dropped_congr hkeeps.opened hkeeps.dropped (by rw [hkeeps.store])
  | sends _ a' hspool hstore htasks =>
    have hptr : a'.spool.store = b.agent.spool.store := by rw [hspool]; rfl
    exact hsame rfl htasks hptr (dropped_congr hptr (by rw [hspool]; rfl) (by rw [hstore]))
  | purges => exact hsame rfl (.none rfl) rfl rfl
  | resets => exact absurd rfl hx.1
  | resetsStored => exact absurd rfl hx.2

theorem tasks_of_atRest (h : a.AtRest) : a.tasks = [] := by
  obtain ⟨hjobs, hdrain, -⟩ := h
  rw [Agent.tasks, hjobs, List.append_nil]
  rcases hdrain with hd | hd <;> rw [hd] <;> rfl

theorem dropped_reset (h : a.Resets r) : (a.resetDropped r).dropped = 0 := by
  have hfails (hr : r.isOk = false) :
      { a with spool := a.spool.resetDropped }.dropped = 0 := by
    by_cases hs : a.spool.store = true
    · have hzero : a.store.droppedSinceConnect = 0 :=
        Classical.byContradiction fun hne => Bool.eq_false_iff.mp hr (h hs hne)
      simp [Agent.dropped, Spool.resetDropped, hzero]
    · simp [Agent.dropped, Spool.resetDropped, hs]
  cases r with
  | ok =>
    by_cases hs : a.spool.store = true
    · simp [Agent.resetDropped, Agent.dropped, Spool.resetDropped,
        SpoolStore.resetDroppedSinceConnect, hs]
    · simp [Agent.resetDropped, Agent.dropped, Spool.resetDropped, hs]
  | halfway | failed => exact hfails rfl

theorem Tallied.step {m : Move} (hb : Tallied b) (hq : Sequential b m) (hc : Counted b m)
    (h : b.step readable m = some b') : Tallied b' := by
  cases m with
  | act =>
    obtain ⟨⟨a', out, hstep, rfl⟩, hx⟩ := Books.step_act h
    exact hb.act hc hx hstep
  | enforceDiskBudget =>
    cases h
    have htasks : { b.agent with jobs := b.agent.jobs ++ [Job.enforceDiskBudget] }.tasks =
        b.agent.tasks ++ [.enforceDiskBudget] := (List.append_assoc ..).symm
    refine ⟨fun j hj hs => ?_, ?_⟩
    · rw [htasks] at hj
      rcases List.mem_append.mp hj with hj | hj
      · exact hb.onStore j hj hs
      · rw [List.mem_singleton.mp hj] at hs
        cases hs
    · rw [htasks, uncountedOf_append]
      exact hb.dropped
  | trimMemoryLocked =>
    cases h
    refine ⟨hb.onStore, ?_⟩
    show { b.agent with spool := b.agent.spool.trimMemoryLocked }.dropped +
      uncountedOf b.agent.tasks = b.sinceReset + _
    rw [dropped_trim b.agent b.ledger, ← hb.dropped]
    omega
  | resetDropped r =>
    cases h
    -- nothing is left to count when the counters are reset
    have htasks : (b.agent.resetDropped r).tasks = [] := by
      rw [← tasks_of_atRest (hq rfl)]
      cases r <;> rfl
    refine ⟨fun j hj => ?_, ?_⟩
    · rw [htasks] at hj
      exact absurd hj List.not_mem_nil
    · rw [htasks, dropped_reset hc]
      rfl

end Counters

/-! ## 4. The accounts -/

/-- **The books balance** in every interleaving, whatever fails: no event is lost or there twice. -/
theorem books_balance (readable : List UInt8 → Bool) (cfg : SpoolConfig) (opened : Bool) (store : SpoolStore)
    (now : GoTime.Time) (ms : List Move) :
    let b := runList (Books.step readable) (Books.start (newAgent cfg opened store now)) ms
    (b.agent.stock b.ledger).Balanced store.events.contents ∧ b.agent.spool.Sized :=
  ⟨events_partitioned rfl rfl (reach_of_runList ms _), bytes_counted (by rfl) (reach_of_runList ms _)⟩

/-- **The accounts of the spool**, between two operations: every event queued, or left by a former
    run, is in one place; the byte counter is the size of the buffer; and `Dropped()` is what was
    given up for lack of room since the last `ResetDropped`. -/
theorem drops_counted {readable : List UInt8 → Bool} {cfg : SpoolConfig} {opened : Bool}
    {store : SpoolStore} {now : GoTime.Time} {b : Books}
    (h : Reach (Books.step readable) (fun b m => Sequential b m ∧ Counted b m)
      (Books.start (newAgent cfg opened store now)) b) (hrest : b.agent.AtRest) :
    (store.events.contents : Multiset PendingEvent) + b.ledger.queued =
        b.agent.spool.buf + b.agent.store.events.contents + b.ledger.acked + b.ledger.expired +
          b.ledger.abandoned ∧
      b.agent.spool.bufBytes = totalBytes b.agent.spool.buf ∧
      b.agent.dropped = b.sinceReset := by
  have hany := h.mono fun _ _ _ => trivial
  have hsized : (newAgent cfg opened store now).spool.Sized := rfl
  have htasks := tasks_of_atRest hrest
  refine ⟨?_, bytes_counted hsized hany, ?_⟩
  · have hplaces := events_partitioned rfl rfl hany
    rw [Stock.Balanced] at hplaces
    have hhand : b.agent.hand = 0 := by rw [Agent.hand, htasks]; rfl
    simp only [Agent.stock, hhand, Ledger.left, ← Multiset.coe_add] at hplaces
    rw [show (store.events.contents : Multiset PendingEvent) + b.ledger.queued = _ from hplaces]
    simp only [Multiset.map_zero, Multiset.sum_zero, add_zero]
    abel
  · have htally : Tallied b := by
      refine Reach.inv ⟨List.forall_mem_nil _, rfl⟩ ?_ h
      intro s m s' hs hok hstep
      exact hs.step hok.1 hok.2 hstep
    have := htally.dropped
    rw [htasks] at this
    exact this

/-! ## 5. Two runs -/

/-- A spool with room for ten bytes on disk. -/
def smallDisk : Books := .start (newAgent ⟨100, 10, 0⟩ true ⟨Journal.empty, 0⟩ 0)

/-- One event is sent and flushed, the database is found at a hundred bytes, and the oldest rows
    go; `r` is what that deletion answers. -/
def sendAndFlush (r : Reply) : List Move :=
  [.act (.send ⟨"a", 0, [1]⟩), .act .startFlush, .act (.job 0 (.ok 0)), .act (.job 0 (.ok 0)),
    .act (.job 0 (.ok 0)), .act (.job 0 (.ok 100)), .act (.job 0 r)]

/-- The deletion succeeds and its count is written. -/
def dropCounted : List Move := sendAndFlush (.ok 1) ++ [.act (.job 0 (.ok 0))]

/-- Giving the pages back fails: `DeleteOldestBytes` returns an error after its DELETE. -/
def reclaimFails : List Move := sendAndFlush .halfway

/-- The one event is given up for lack of room, and `Dropped()` is one. -/
theorem dropped_row_counted :
    let b := runList (Books.step fun _ => true) smallDisk dropCounted
    b.agent.AtRest ∧ b.ledger.abandoned = [⟨"a", 0, [1]⟩] ∧ b.agent.dropped = b.sinceReset := by
  have hrun : Reach (Books.step fun _ => true) (fun b m => Sequential b m ∧ Counted b m) smallDisk _ :=
    reach_of_decide dropCounted _ (by decide)
  exact ⟨by decide, by decide, (drops_counted hrun (by decide)).2.2⟩

/-- **The row is deleted and never counted**: `DeleteOldestBytes` fails after its DELETE, and
    `Dropped()` stays at zero. -/
theorem failed_reclaim_uncounted :
    ∃ b : Books, Reach (Books.step fun _ => true) Sequential smallDisk b ∧ b.agent.AtRest ∧
      b.agent.spool.cfg.enabled = true ∧ b.ledger.queued = [⟨"a", 0, [1]⟩] ∧
      b.ledger.abandoned = [⟨"a", 0, [1]⟩] ∧ b.sinceReset = 1 ∧ b.agent.dropped = 0 :=
  ⟨runList (Books.step fun _ => true) smallDisk reclaimFails,
    reach_of_decide _ _ (by decide),
    by decide, by decide, by decide, by decide, by decide, by decide⟩

end Maintenant.Push
