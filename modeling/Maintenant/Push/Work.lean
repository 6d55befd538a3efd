/-
  File:      Maintenant/Push/Work.lean
  Subject:   WHAT A STEP OF THE AGENT DOES to the buffer, the rows and the counters, told once for
             every proof about them.

  * `Ran`, `runJob_ran` -- all that one step of `flush` or `purgeExpired` can do;
  * `Calls` -- the same, among the other calls in progress;
  * `Works`, `step_works` -- all that a step of the agent can do.
-/
import Maintenant.Push.Spool

namespace Maintenant.Push

/-! ## 1. The calls in progress -/

namespace Job

/-- The batch a flush has taken out of the buffer and not written yet. -/
def batch : Job → List (List PendingEvent)
  | .append batch => [batch]
  | _ => []

/-- What a flush has deleted and not counted yet. -/
def uncounted : Job → Nat
  | .addDropped n => n
  | _ => 0

/-- The call is one of the store. -/
def onStore : Job → Bool
  | .append _ | .sizeBytes | .deleteOldestBytes _ | .addDropped _ | .deleteOlderThan _ => true
  | _ => false

end Job

def Reply.isOk : Reply → Bool
  | .ok _ => true
  | _ => false

/-- What a call has still to do. -/
def Outcome.jobs : Outcome → List Job
  | .goesOn j => [j]
  | .returned _ => []

def Drain.jobs : Drain → List Job
  | .flushing j => [j]
  | _ => []

/-- The calls of `flush` and `purgeExpired` in progress, the one of `drainOnce` among them. -/
def Agent.tasks (a : Agent) : List Job := a.drain.jobs ++ a.jobs

/-- The call that an action takes a step of. -/
def Agent.running (a : Agent) : Act → Option Job
  | .job i _ => a.jobs[i]?
  | .drain _ => a.drain.jobs.head?
  | _ => none

/-- The outcome of the store call an action makes. -/
def Act.reply : Act → Reply
  | .job _ r | .drain r | .purge r => r
  | _ => .failed

/-! ## 2. One step of a call -/

/-- **What one step of a call can do**: from the agent `a`, on the reply `r`, to a spool, a store
    and what comes next. -/
inductive Ran (a : Agent) (r : Reply) : Job → Spool → SpoolStore → Outcome → Prop where
  | rests (j : Job) (o : Outcome) (hj : j.batch = []) (hflush : j = .flush → a.spool.buf = [])
      (hcount : r.isOk = true → j.uncounted = 0)
      (ho : ∀ j' ∈ o.jobs, j'.batch = [] ∧ j'.uncounted = 0)
      (hstore : o.jobs ≠ [] → j.onStore = true ∨ a.spool.store = true) :
      Ran a r j a.spool a.store o
  | takes (hbuf : a.spool.buf ≠ []) (hs : a.spool.store = true) :
      Ran a r .flush a.spool.takeBuffer a.store (.goesOn (.append a.spool.buf))
  | trims (hbuf : a.spool.buf ≠ []) (hs : a.spool.store = false) :
      Ran a r .flush a.spool.trimMemoryLocked a.store (.returned true)
  | stores (batch : List PendingEvent) (hr : r.isOk = true) :
      Ran a r (.append batch) a.spool (a.store.append batch) (.goesOn .enforceDiskBudget)
  | putsBack (batch : List PendingEvent) (hr : r.isOk = false) :
      Ran a r (.append batch) (a.spool.putBack batch) a.store (.returned false)
  | evicts (target : Int) (n : Nat) (o : Outcome)
      (hn : n = a.store.depth - (a.store.deleteOldestBytes target).depth)
      (ho : r = .halfway ∧ o = .returned false ∨ n = 0 ∧ o = .returned true ∨ o = .goesOn (.addDropped n)) :
      Ran a r (.deleteOldestBytes target) a.spool (a.store.deleteOldestBytes target) o
  | counts (n : Nat) (hr : r.isOk = true) :
      Ran a r (.addDropped n) a.spool (a.store.addDropped n) (.returned true)
  | expires (cutoff : Int) (ok : Bool) :
      Ran a r (.deleteOlderThan cutoff) a.spool (a.store.deleteOlderThan cutoff) (.returned ok)

section Steps

variable {readable : List UInt8 → Bool} {a a' : Agent} {out : Option (Nat × Row)} {r : Reply}
  {j : Job} {s : Spool} {st : SpoolStore} {o : Outcome}

/-- A call that has nothing to write or to count comes to its end. -/
theorem Ran.returned (ok : Bool) (hj : j.batch = []) (hflush : j = .flush → a.spool.buf = [])
    (hcount : r.isOk = true → j.uncounted = 0) : Ran a r j a.spool a.store (.returned ok) :=
  .rests j _ hj hflush hcount (List.forall_mem_nil _) (fun h => absurd rfl h)

/-- A call goes on with the store it found or has. -/
theorem Ran.goesOn (j' : Job) (hj : j.batch = []) (hflush : j ≠ .flush) (hcount : j.uncounted = 0)
    (hj' : j'.batch = [] ∧ j'.uncounted = 0) (hs : j.onStore = true ∨ a.spool.store = true) :
    Ran a r j a.spool a.store (.goesOn j') :=
  .rests j _ hj (fun h => absurd h hflush) (fun _ => hcount)
    (fun _ h => List.mem_singleton.mp h ▸ hj') (fun _ => hs)

theorem runJob_ran (a : Agent) (r : Reply) (j : Job) :
    Ran a r j (a.runJob r j).1.spool (a.runJob r j).1.store (a.runJob r j).2 := by
  cases j with
  | flush =>
    dsimp only [Agent.runJob]
    split
    · next hnil => exact .returned true rfl (fun _ => hnil) (fun _ => rfl)
    · next hbuf =>
      split
      · next hs => exact .takes hbuf hs
      · next hs => exact .trims hbuf (Bool.eq_false_iff.mpr hs)
  | append batch =>
    cases r with
    | ok => exact .stores batch rfl
    | halfway | failed => exact .putsBack batch rfl
  | enforceDiskBudget | purgeExpired =>
    dsimp only [Agent.runJob]
    split
    · exact .returned true rfl nofun (fun _ => rfl)
    · split
      · next hs => exact .goesOn _ rfl nofun rfl ⟨rfl, rfl⟩ (Or.inr hs)
      · exact .returned true rfl nofun (fun _ => rfl)
  | sizeBytes =>
    cases r with
    | ok =>
      dsimp only [Agent.runJob]
      split
      · exact .returned true rfl nofun (fun _ => rfl)
      · exact .goesOn _ rfl nofun rfl ⟨rfl, rfl⟩ (Or.inl rfl)
    | halfway | failed => exact .returned false rfl nofun (fun _ => rfl)
  | deleteOldestBytes target =>
    cases r with
    | ok =>
      refine .evicts target _ _ rfl (Or.inr ?_)
      dsimp only [Agent.runJob, Agent.deleting]
      split
      · next hzero => exact Or.inl ⟨hzero, rfl⟩
      · exact Or.inr rfl
    | halfway => exact .evicts target _ _ rfl (Or.inl ⟨rfl, rfl⟩)
    | failed => exact .returned false rfl nofun (fun _ => rfl)
  | addDropped n =>
    cases r with
    | ok => exact .counts n rfl
    | halfway | failed => exact .returned false rfl nofun nofun
  | deleteOlderThan cutoff =>
    cases r with
    | ok => exact .expires cutoff true
    | halfway => exact .expires cutoff false
    | failed => exact .returned false rfl nofun (fun _ => rfl)

/-- A call has nothing to do with the other calls, nor with a purge. -/
theorem runJob_frame (a : Agent) (r : Reply) (j : Job) :
    (a.runJob r j).1.jobs = a.jobs ∧ (a.runJob r j).1.drain = a.drain ∧ (a.runJob r j).1.purging = a.purging := by
  cases j with
  | flush | enforceDiskBudget | purgeExpired =>
    dsimp only [Agent.runJob]
    split
    · exact ⟨rfl, rfl, rfl⟩
    · split <;> exact ⟨rfl, rfl, rfl⟩
  | sizeBytes =>
    cases r with
    | ok =>
      dsimp only [Agent.runJob]
      split <;> exact ⟨rfl, rfl, rfl⟩
    | _ => exact ⟨rfl, rfl, rfl⟩
  | _ => cases r <;> exact ⟨rfl, rfl, rfl⟩

/-- No call sets or clears the pointer. -/
theorem Ran.opened (h : Ran a r j s st o) : s.store = a.spool.store := by
  cases h <;> rfl

/-! ## 3. One call among the others -/

/-- The call `j` takes a step, the others stand still. -/
structure Calls (a : Agent) (r : Reply) (j : Job) (o : Outcome) (a' : Agent) : Prop where
  ran : Ran a r j a'.spool a'.store o
  others : ∃ others, a.tasks.Perm (j :: others) ∧ a'.tasks.Perm (o.jobs ++ others)

theorem jobStep_calls {i : Nat} (h : a.jobStep i r = some a') : ∃ j o, a.jobs[i]? = some j ∧ Calls a r j o a' := by
  unfold Agent.jobStep at h
  split at h
  · cases h
  · next j hj =>
    have hran := runJob_ran a r j
    have hframe := runJob_frame a r j
    obtain ⟨hi, hget⟩ := List.getElem?_eq_some_iff.mp hj
    have hfront : a.tasks.Perm (j :: (a.drain.jobs ++ a.jobs.eraseIdx i)) := by
      have hjobs := List.getElem_cons_eraseIdx_perm hi
      rw [hget] at hjobs
      exact (hjobs.symm.append_left a.drain.jobs).trans List.perm_middle
    split at h
    · next a₁ ok hrun =>
      rw [hrun] at hran hframe
      cases h
      refine ⟨j, .returned ok, hj, hran, _, hfront, ?_⟩
      show (a₁.drain.jobs ++ a₁.jobs.eraseIdx i).Perm _
      rw [hframe.1, hframe.2.1]
      exact List.Perm.refl _
    · next a₁ j' hrun =>
      rw [hrun] at hran hframe
      cases h
      refine ⟨j, .goesOn j', hj, hran, _, hfront, ?_⟩
      show (a₁.drain.jobs ++ a₁.jobs.set i j').Perm _
      rw [hframe.1, hframe.2.1]
      have hset := List.getElem_cons_eraseIdx_perm (l := a.jobs.set i j')
        (by rwa [List.length_set])
      rw [List.getElem_set_self, List.eraseIdx_set_eq] at hset
      exact (hset.symm.append_left a.drain.jobs).trans List.perm_middle

/-- The calls in progress go on; one may have been started. -/
def Starts (a a' : Agent) : Prop :=
  ∃ started, a'.tasks.Perm (started ++ a.tasks) ∧ ∀ j ∈ started, j = .flush ∨ j = .purgeExpired

theorem Starts.none (h : a'.tasks = a.tasks) : Starts a a' :=
  ⟨[], by rw [h]; exact List.Perm.refl _, List.forall_mem_nil _⟩

/-- Buffer, rows and counters are left alone. -/
structure Keeps (a a' : Agent) : Prop where
  opened : a'.spool.store = a.spool.store
  buf : a'.spool.buf = a.spool.buf
  bufBytes : a'.spool.bufBytes = a.spool.bufBytes
  dropped : a'.spool.dropped = a.spool.dropped
  store : a'.store = a.store
  tasks : Starts a a'

theorem Keeps.of_same (hspool : a'.spool = a.spool) (hstore : a'.store = a.store)
    (htasks : a'.tasks = a.tasks) : Keeps a a' :=
  ⟨by rw [hspool], by rw [hspool], by rw [hspool], by rw [hspool], hstore, .none htasks⟩

theorem calls_of_drain {a₁ : Agent} {d : Drain} (hd : a.drain = .flushing j)
    (hrun : a.runJob r j = (a₁, o)) (hjobs : d.jobs = o.jobs) : Calls a r j o { a₁ with drain := d } := by
  have hran := runJob_ran a r j
  have hframe := runJob_frame a r j
  rw [hrun] at hran hframe
  refine ⟨hran, a.jobs, ?_, ?_⟩
  · rw [Agent.tasks, hd]
    exact List.Perm.refl _
  · show (d.jobs ++ a₁.jobs).Perm _
    rw [hframe.1, hjobs]

/-- `drainOnce` takes a step of its flush, or leaves the events alone. -/
theorem drainStep_works (h : a.drainStep readable r = some (a', out)) :
    (∃ j o, a.drain.jobs = [j] ∧ Calls a r j o a') ∨ a.drain.jobs = [] ∧ Keeps a a' := by
  -- outside its flush it writes the cursor at most
  have hrest {s : Spool} {d₀ d : Drain} (hdrain : a.drain = d₀) (hd₀ : d₀.jobs = []) (hd' : d.jobs = [])
      (hs : ∃ seq, s = a.spool.writeCursor seq ∨ s = a.spool) :
      a.drain.jobs = [] ∧ Keeps a { a with spool := s, drain := d } := by
    have hd : a.drain.jobs = [] := hdrain ▸ hd₀
    have htasks : { a with spool := s, drain := d }.tasks = a.tasks := by
      rw [Agent.tasks, Agent.tasks, hd, hd']
    obtain ⟨seq, rfl | rfl⟩ := hs
    · exact ⟨hd, rfl, rfl, rfl, rfl, rfl, .none htasks⟩
    · exact ⟨hd, .of_same rfl rfl htasks⟩
  have hsame : ∃ seq, a.spool = a.spool.writeCursor seq ∨ a.spool = a.spool := ⟨0, Or.inr rfl⟩
  have hwrite (seq : Nat) : ∃ n, a.spool.writeCursor seq = a.spool.writeCursor n ∨
      a.spool.writeCursor seq = a.spool := ⟨seq, Or.inl rfl⟩
  unfold Agent.drainStep at h
  split at h
  · -- idle: the flush starts
    next hd =>
      obtain ⟨_, ⟨⟩⟩ := Option.ite_none_right_eq_some.mp h
      refine Or.inr ⟨by rw [hd]; rfl, rfl, rfl, rfl, rfl, rfl, [.flush], ?_, by simp⟩
      rw [Agent.tasks, Agent.tasks, hd]
      exact List.Perm.refl _
  · cases h
  · -- its flush
    next j hd =>
      refine Or.inl ⟨j, (a.runJob r j).2, by rw [hd]; rfl, ?_⟩
      split at h
      all_goals
        next hrun =>
          cases h
          rw [hrun]
          exact calls_of_drain hd hrun rfl
  · -- the loop head
    next hd =>
      split at h
      · cases h
        exact Or.inr (hrest hd rfl rfl hsame)
      · split at h <;> cases h <;> exact Or.inr (hrest hd rfl rfl hsame)
  · -- the read
    next hd =>
      split at h
      · split at h <;> cases h <;> exact Or.inr (hrest hd rfl rfl hsame)
      · cases h
        exact Or.inr (hrest hd rfl rfl hsame)
  · next hd =>
    cases h
    exact Or.inr (hrest hd rfl rfl hsame)
  · -- a row
    next hd =>
      split at h
      · split at h <;> cases h <;> exact Or.inr (hrest hd rfl rfl hsame)
      · cases h
        exact Or.inr (hrest hd rfl rfl (hwrite _))
  · next hd =>
    cases h
    exact Or.inr (hrest hd rfl rfl (hwrite _))

theorem cancelStep_keeps (h : a.cancelStep = some a') : Keeps a a' := by
  unfold Agent.cancelStep at h
  split at h
  · next hd =>
    cases h
    refine .of_same rfl rfl ?_
    rw [Agent.tasks, Agent.tasks, hd]
    rfl
  · cases h

/-! ## 4. Every step -/

/-- **What a step of the agent can do to events and counters.** -/
inductive Works (a : Agent) : Act → Agent → Prop where
  | calls (x : Act) (j : Job) (o : Outcome) (a' : Agent) (hx : a.running x = some j)
      (h : Calls a x.reply j o a') : Works a x a'
  | keeps (x : Act) (a' : Agent) (hx : a.running x = none) (hsend : ∀ e, x ≠ .send e)
      (h : Keeps a a') : Works a x a'
  | sends (e : PendingEvent) (a' : Agent) (hspool : a'.spool = a.spool.queue e)
      (hstore : a'.store = a.store) (htasks : Starts a a') : Works a (.send e) a'
  | purges (r : Reply) (p : Nat) (hp : a.purging = some p) :
      Works a (.purge r) { a with store := a.store.deleteUpTo p, purging := none }
  | resets : Works a .resetDropped { a with spool := a.spool.resetDropped }
  | resetsStored : Works a .resetDroppedSinceConnect
      { a with store := a.store.resetDroppedSinceConnect }

theorem step_works {x : Act} (h : a.step readable x = some (a', out)) : Works a x a' := by
  have hstarts (job : Job) (hjob : job = .flush ∨ job = .purgeExpired) :
      Keeps a { a with jobs := a.jobs ++ [job] } := by
    refine ⟨rfl, rfl, rfl, rfl, rfl, [job], ?_, by simpa using hjob⟩
    rw [Agent.tasks, Agent.tasks, ← List.append_assoc]
    exact List.perm_append_comm
  cases x with
  | send e =>
    obtain ⟨_, ⟨⟩⟩ := Option.ite_none_right_eq_some.mp h
    refine .sends _ _ rfl rfl ?_
    unfold Starts
    by_cases hover : (a.spool.queue e).overMemory
    · rw [Agent.tasks, if_pos hover, ← List.append_assoc]
      exact ⟨[.flush], List.perm_append_comm, by simp⟩
    · rw [Agent.tasks, if_neg hover]
      exact ⟨[], List.Perm.refl _, by simp⟩
  | startFlush =>
    obtain ⟨_, ⟨⟩⟩ := Option.ite_none_right_eq_some.mp h
    exact .keeps _ _ rfl nofun (hstarts .flush (Or.inl rfl))
  | startPurge =>
    cases h
    exact .keeps _ _ rfl nofun (hstarts .purgeExpired (Or.inr rfl))
  | job =>
    obtain ⟨a₁, h₁, ⟨⟩⟩ := Option.map_eq_some_iff.mp h
    obtain ⟨j, o, hj, hcalls⟩ := jobStep_calls h₁
    exact .calls _ j o _ hj hcalls
  | drain =>
    rcases drainStep_works h with ⟨j, o, hj, hcalls⟩ | ⟨hnone, hkeeps⟩
    · exact .calls _ j o _ (by rw [Agent.running, hj]; rfl) hcalls
    · exact .keeps _ _ (by rw [Agent.running, hnone]; rfl) nofun hkeeps
  | cancel =>
    obtain ⟨a₁, h₁, ⟨⟩⟩ := Option.map_eq_some_iff.mp h
    exact .keeps _ _ rfl nofun (cancelStep_keeps h₁)
  | acked =>
    obtain ⟨_, ⟨⟩⟩ := Option.ite_none_right_eq_some.mp h
    refine .keeps _ _ rfl nofun ?_
    unfold Agent.acked
    split
    · exact .of_same rfl rfl rfl
    · exact ⟨rfl, rfl, rfl, rfl, rfl, .none rfl⟩
  | purge r =>
    obtain ⟨a₁, h₁, ⟨⟩⟩ := Option.map_eq_some_iff.mp h
    unfold Agent.purgeStep at h₁
    split at h₁
    · cases h₁
    · next p hp =>
      split at h₁
      · cases h₁
        exact .keeps _ _ rfl nofun (.of_same rfl rfl rfl)
      · cases h₁
        exact .purges r p hp
  | attach | rewind | detach =>
    cases h
    exact .keeps _ _ rfl nofun ⟨rfl, rfl, rfl, rfl, rfl, .none rfl⟩
  | rateLimited =>
    obtain ⟨_, ⟨⟩⟩ := Option.ite_none_right_eq_some.mp h
    exact .keeps _ _ rfl nofun ⟨rfl, rfl, rfl, rfl, rfl, .none rfl⟩
  | resetDropped =>
    cases h
    exact .resets
  | resetDroppedSinceConnect =>
    obtain ⟨_, ⟨⟩⟩ := Option.ite_none_right_eq_some.mp h
    exact .resetsStored
  | tick =>
    cases h
    exact .keeps _ _ rfl nofun (.of_same rfl rfl rfl)

end Steps

end Maintenant.Push
