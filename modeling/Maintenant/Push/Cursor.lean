/-
  File:      Maintenant/Push/Cursor.lean
  Subject:   THE SEND CURSOR. What lies behind `sendSeq` has gone out, in which runs.

  `drainOnce` writes the cursor after each row of a batch it read earlier, and the cursor goes
  back to the last ack (`Rewind`, `RateLimited`) at any time in between.

  * `Moves`, `step_moves` -- all that a step of the agent can do to the cursors, the batch in
    hand and the rows;
  * `Sweep`, `Sweep.moves` -- for a property of rows that is never taken back ("sent on this
    stream"), it holds of every stored readable row behind the cursor, whenever rewinds come:
    a batch has no gap;
  * `rows_behind_cursor_passed` -- for the property a rewind does take back ("sent since the last
    rewind"), the same holds if every rewind is `Timely`;
  * `rewind_skips_row` -- and fails otherwise: the batch goes on after the rewind, and its next
    cursor write jumps over what was sent before it.
-/
import Maintenant.Lib.Runs
import Maintenant.Push.Work

namespace Maintenant.Push

open Runs

/-! ## 1. What a step does to the cursors -/

namespace Drain

/-- The rows in hand, the one being sent first. -/
def batch : Drain → List Row
  | .rows _ batch => batch
  | .sent _ row rest => row :: rest
  | _ => []

/-- The next cursor write takes for granted that every row numbered below has gone out. -/
def front : Drain → Option Nat
  | .read _ after => some (after + 1)
  | .rows _ (row :: _) => some row.1
  | .sent _ row _ => some (row.1 + 1)
  | _ => none

/-- The sink a batch is read for and sent on. -/
def sink : Drain → Option Nat
  | .read sink _ => some sink
  | .rows sink _ => some sink
  | .sent sink _ _ => some sink
  | _ => none

/-- No batch is in hand or being read. -/
structure Resting (d : Drain) : Prop where
  batch : d.batch = []
  front : d.front = none
  sink : d.sink = none

end Drain

/-- The part of the agent the cursors depend on, and what an ack leaves to purge. -/
structure Cursor where
  sink : Option Nat
  sendSeq : Nat
  ackSeq : Nat
  drain : Drain
  events : Journal PendingEvent
  purging : Option Nat

def Agent.cursor (a : Agent) : Cursor :=
  ⟨a.spool.sink, a.spool.sendSeq, a.spool.ackSeq, a.drain, a.store.events, a.purging⟩

/-- What the receive loop and the streams have to do with stays; rows come and go. -/
structure Beside (v v' : Cursor) : Prop where
  sink : v'.sink = v.sink
  ackSeq : v'.ackSeq = v.ackSeq
  events : Journal.Later v.events v'.events
  purging : v'.purging = v.purging ∨ v'.purging = none

/-- The drain is left alone, too. -/
structure Aside (v v' : Cursor) : Prop extends Beside v v' where
  sendSeq : v'.sendSeq = v.sendSeq
  drain : v'.drain = v.drain

/-- What `drainOnce` does, and the row it hands to a sink. -/
inductive Drains (readable : List UInt8 → Bool) (v : Cursor) : Option (Nat × Row) → Cursor → Prop where
  | rests (d : Drain) (v' : Cursor) (hd : d.Resting) (h : Aside v v') :
      Drains readable v none { v' with drain := d }
  | reads (sink : Nat) (hv : v.drain = .top) (hs : v.sink = some sink) :
      Drains readable v none { v with drain := .read sink v.sendSeq }
  | fetches (sink after : Nat) (row : Row) (rest : List Row) (hv : v.drain = .read sink after)
      (hb : v.events.readFrom after spoolDrainBatch = row :: rest) :
      Drains readable v none { v with drain := .rows sink (row :: rest) }
  | hands (sink : Nat) (row : Row) (rest : List Row) (hv : v.drain = .rows sink (row :: rest)) :
      Drains readable v (some (sink, row)) { v with drain := .sent sink row rest }
  | skips (sink : Nat) (row : Row) (rest : List Row) (hv : v.drain = .rows sink (row :: rest))
      (hr : readable row.2.payload = false) :
      Drains readable v none { v with sendSeq := row.1, drain := .rows sink rest }
  | writes (sink : Nat) (row : Row) (rest : List Row) (hv : v.drain = .sent sink row rest) :
      Drains readable v none { v with sendSeq := row.1, drain := .rows sink rest }

/-- **What a step can do.** -/
inductive Moves (readable : List UInt8 → Bool) (v : Cursor) : Option (Nat × Row) → Cursor → Prop where
  | aside (v' : Cursor) (h : Aside v v') : Moves readable v none v'
  | drains (out : Option (Nat × Row)) (v' : Cursor) (h : Drains readable v out v') :
      Moves readable v out v'
  | acks (p : Nat) (q : Option Nat) (hlow : v.ackSeq < p) (hup : p ≤ v.sendSeq)
      (hq : ∀ x ∈ q, x = p) : Moves readable v none { v with ackSeq := p, purging := q }
  | rewinds : Moves readable v none { v with sendSeq := v.ackSeq }
  | binds (sink : Option Nat) : Moves readable v none { v with sink := sink }

section Steps

variable {readable : List UInt8 → Bool} {a a' : Agent} {out : Option (Nat × Row)}

theorem Beside.refl (v : Cursor) : Beside v v := ⟨rfl, rfl, Journal.Later.refl _, Or.inl rfl⟩

theorem Aside.refl (v : Cursor) : Aside v v := ⟨Beside.refl v, rfl, rfl⟩

theorem aside_of_store (st : SpoolStore) (h : Journal.Later a.store.events st.events) :
    Aside a.cursor { a with store := st }.cursor := ⟨⟨rfl, rfl, h, Or.inl rfl⟩, rfl, rfl⟩

theorem later_delete (st : SpoolStore) (p : Row → Bool) :
    Journal.Later st.events (st.delete p).events := Journal.later_keep _ _

/-- What a call does to the rows, and nothing to the cursors. -/
theorem Ran.cursor {r : Reply} {j : Job} {s : Spool} {st : SpoolStore} {o : Outcome} (h : Ran a r j s st o) :
    s.sink = a.spool.sink ∧ s.ackSeq = a.spool.ackSeq ∧ s.sendSeq = a.spool.sendSeq ∧
      Journal.Later a.store.events st.events := by
  cases h with
  | stores => exact ⟨rfl, rfl, rfl, Journal.later_append _ _⟩
  | evicts | expires => exact ⟨rfl, rfl, rfl, later_delete _ _⟩
  | rests | takes | trims | putsBack | counts => exact ⟨rfl, rfl, rfl, Journal.Later.refl _⟩

/-- A flush or a retention purge moves no cursor. -/
theorem runJob_aside (a : Agent) (r : Reply) (j : Job) : Aside a.cursor (a.runJob r j).1.cursor := by
  obtain ⟨-, hdrain, hpurging⟩ := runJob_frame a r j
  obtain ⟨hsink, hack, hsend, hevents⟩ := (runJob_ran a r j).cursor
  exact ⟨⟨hsink, hack, hevents, Or.inl hpurging⟩, hsend, hdrain⟩

variable {r : Reply}

theorem jobStep_aside {i : Nat} (h : a.jobStep i r = some a') : Aside a.cursor a'.cursor := by
  unfold Agent.jobStep at h
  split at h
  · cases h
  · next j _ =>
    have hjob := runJob_aside a r j
    split at h
    all_goals
      next e =>
        rw [e] at hjob
        cases h
        exact hjob

theorem purgeStep_aside (h : a.purgeStep r = some a') : Aside a.cursor a'.cursor := by
  unfold Agent.purgeStep at h
  split at h
  · cases h
  · split at h
    · cases h
      exact ⟨⟨rfl, rfl, Journal.Later.refl _, Or.inr rfl⟩, rfl, rfl⟩
    · cases h
      exact ⟨⟨rfl, rfl, later_delete _ _, Or.inr rfl⟩, rfl, rfl⟩

/-- `Acked` purges above the last ack, up to the number and the cursor. -/
theorem purgeTo_some {s : Spool} {seq p : Nat} (h : s.purgeTo seq = some p) :
    s.ackSeq < p ∧ p ≤ seq ∧ p ≤ s.sendSeq := by
  unfold Spool.purgeTo at h
  split at h
  · cases h
  · split at h
    · cases h
    · next hlow =>
      cases h
      exact ⟨Nat.lt_of_not_le hlow, Nat.min_le_left _ _, Nat.min_le_right _ _⟩

theorem acked_moves (seq : Nat) : Moves readable a.cursor none (a.acked seq).cursor := by
  unfold Agent.acked
  split
  · exact .aside _ (Aside.refl _)
  · next p hp =>
    obtain ⟨hlow, _, hup⟩ := purgeTo_some hp
    refine .acks p _ hlow hup fun x hx => ?_
    split at hx
    · cases hx
      rfl
    · cases hx

theorem drainStep_drains (h : a.drainStep readable r = some (a', out)) : Drains readable a.cursor out a'.cursor := by
  have hrest {d : Drain} (hd : d.Resting) :
      Drains readable a.cursor none { a with drain := d }.cursor := .rests d _ hd (Aside.refl _)
  unfold Agent.drainStep at h
  split at h
  · -- idle
    obtain ⟨_, ⟨⟩⟩ := Option.ite_none_right_eq_some.mp h
    exact hrest ⟨rfl, rfl, rfl⟩
  · cases h
  · -- its flush
    next j _ =>
      have hjob := runJob_aside a r j
      split at h
      all_goals
        next e =>
          rw [e] at hjob
          cases h
          exact .rests _ _ ⟨rfl, rfl, rfl⟩ hjob
  · -- the loop head
    next hd =>
      split at h
      · cases h
        exact hrest ⟨rfl, rfl, rfl⟩
      · next sink hsink =>
        split at h
        · cases h
          exact .reads sink hd hsink
        · cases h
          exact hrest ⟨rfl, rfl, rfl⟩
  · -- the read
    next sink after hd =>
      split at h
      · split at h
        · cases h
          exact hrest ⟨rfl, rfl, rfl⟩
        · next row rest hb =>
          cases h
          exact .fetches sink after row rest hd hb
      · cases h
        exact hrest ⟨rfl, rfl, rfl⟩
  · cases h
    exact hrest ⟨rfl, rfl, rfl⟩
  · -- a row
    next sink row rest hd =>
      split at h
      · split at h
        · cases h
          exact .hands sink row rest hd
        · cases h
          exact hrest ⟨rfl, rfl, rfl⟩
      · next hr =>
        cases h
        exact .skips sink row rest hd (Bool.eq_false_iff.mpr hr)
  · next sink row rest hd =>
    cases h
    exact .writes sink row rest hd

theorem cancelStep_drains (h : a.cancelStep = some a') : Drains readable a.cursor none a'.cursor := by
  unfold Agent.cancelStep at h
  split at h
  · cases h
    exact .rests .idle _ ⟨rfl, rfl, rfl⟩ (Aside.refl _)
  · cases h

theorem background_aside {act : Act} (hact : act.background = true)
    (h : a.step readable act = some (a', out)) : Aside a.cursor a'.cursor ∧ out = none := by
  cases act with
  | send | startFlush =>
    obtain ⟨_, ⟨⟩⟩ := Option.ite_none_right_eq_some.mp h
    exact ⟨Aside.refl _, rfl⟩
  | startPurge | resetDropped | tick =>
    cases h
    exact ⟨Aside.refl _, rfl⟩
  | job =>
    obtain ⟨a₁, h₁, ⟨⟩⟩ := Option.map_eq_some_iff.mp h
    exact ⟨jobStep_aside h₁, rfl⟩
  | purge =>
    obtain ⟨a₁, h₁, ⟨⟩⟩ := Option.map_eq_some_iff.mp h
    exact ⟨purgeStep_aside h₁, rfl⟩
  | resetDroppedSinceConnect =>
    obtain ⟨_, ⟨⟩⟩ := Option.ite_none_right_eq_some.mp h
    exact ⟨aside_of_store _ (Journal.Later.refl _), rfl⟩
  | _ => cases hact

/-- **Every step is one of the moves.** -/
theorem step_moves {act : Act} (h : a.step readable act = some (a', out)) : Moves readable a.cursor out a'.cursor := by
  cases hact : act.background with
  | true =>
    obtain ⟨haside, rfl⟩ := background_aside hact h
    exact .aside _ haside
  | false =>
    cases act with
    | drain => exact .drains _ _ (drainStep_drains h)
    | cancel =>
      obtain ⟨a₁, h₁, ⟨⟩⟩ := Option.map_eq_some_iff.mp h
      exact .drains _ _ (cancelStep_drains h₁)
    | acked seq =>
      obtain ⟨_, ⟨⟩⟩ := Option.ite_none_right_eq_some.mp h
      exact acked_moves seq
    | attach | detach =>
      cases h
      exact .binds _
    | rewind =>
      cases h
      exact .rewinds
    | rateLimited =>
      obtain ⟨_, ⟨⟩⟩ := Option.ite_none_right_eq_some.mp h
      exact .rewinds
    | _ => cases hact

theorem Drains.beside {v v' : Cursor} (h : Drains readable v out v') : Beside v v' := by
  cases h with
  | rests _ _ _ ha => exact { ha.toBeside with }
  | _ => exact { Beside.refl v with }

end Steps

/-! ## 2. Behind the cursor -/

section Sweep

variable {readable : List UInt8 → Bool} {D D' : Row → Prop} {j j' : Journal PendingEvent}
  {n : Nat} {row : Row} {rest : List Row}

/-- Every stored readable row numbered below `n` has the property. -/
def Covered (readable : List UInt8 → Bool) (D : Row → Prop) (j : Journal PendingEvent) (n : Nat) :
    Prop := ∀ r ∈ j, readable r.2.payload = true → r.1 < n → D r

/-- A batch read from the rows: each is the stored row of its number, if that is still there,
    and no stored row lies between two of them. -/
structure Solid (j : Journal PendingEvent) (batch : List Row) : Prop where
  same : ∀ row ∈ batch, row.1 ≤ j.last ∧ ∀ r ∈ j, r.1 = row.1 → r = row
  chain : batch.IsChain j.Adjacent

theorem Covered.mono (h : Covered readable D j n) (hD : ∀ r, D r → D' r) :
    Covered readable D' j n := fun r hr hread hlt => hD r (h r hr hread hlt)

theorem Covered.later (h : Covered readable D j n) (hj : Journal.Later j j') (hn : n ≤ j.last + 1) :
    Covered readable D j' n := by
  intro r hr hread hlt
  have hold : r ∈ j := hj.mem hr (by omega)
  exact h r hold hread hlt

/-- One row further. -/
theorem Covered.succ (h : Covered readable D j row.1) (hs : Solid j (row :: rest))
    (hrow : readable row.2.payload = true → D row) : Covered readable D j (row.1 + 1) := by
  intro r hr hread hlt
  rcases Nat.lt_or_eq_of_le (Nat.le_of_lt_succ hlt) with hlt | heq
  · exact h r hr hread hlt
  · obtain rfl := (hs.same row List.mem_cons_self).2 r hr heq
    exact hrow hread

/-- The next row of the batch: nothing lies between. -/
theorem Covered.next {row' : Row} (h : Covered readable D j (row.1 + 1))
    (hs : Solid j (row :: row' :: rest)) : Covered readable D j row'.1 := by
  intro r hr hread hlt
  rcases (List.isChain_cons_cons.mp hs.chain).1 r hr with hle | hge
  · exact h r hr hread (Nat.lt_succ_of_le hle)
  · omega

theorem solid_nil (j : Journal PendingEvent) : Solid j [] :=
  ⟨List.forall_mem_nil _, .nil⟩

theorem Solid.tail (h : Solid j (row :: rest)) : Solid j rest :=
  ⟨fun x hx => h.same x (List.mem_cons_of_mem _ hx), h.chain.tail⟩

theorem Solid.later (h : Solid j rest) (hj : Journal.Later j j') : Solid j' rest where
  same row hrow := by
    obtain ⟨hle, hsame⟩ := h.same row hrow
    refine ⟨Nat.le_trans hle hj.last, fun r hr e => hsame r (hj.mem hr (by omega)) e⟩
  chain := by
    -- a new row is numbered above both neighbours
    refine h.chain.imp_of_mem_imp fun x y hx hy hadj r hr => ?_
    have hle := (h.same y hy).1
    rcases hj.rows r hr with hold | hnew
    · exact hadj r hold
    · exact Or.inr (by omega)

theorem solid_readFrom (j : Journal PendingEvent) (after limit : Nat) :
    Solid j (j.readFrom after limit) where
  same row hrow := by
    obtain ⟨hmem, _⟩ := Journal.mem_readFrom hrow
    exact ⟨(j.bounded row hmem).2, fun r hr e => Journal.eq_of_number hr hmem e⟩
  chain := j.readFrom_chain after limit

/-- **What lies behind the cursors has the property**: behind `sendSeq`, behind `ackSeq` (where a
    rewind goes) and below the row in hand (where the next write goes). -/
structure Sweep (readable : List UInt8 → Bool) (D : Row → Prop) (v : Cursor) : Prop where
  sendSeq_le : v.sendSeq ≤ v.events.last
  ackSeq_le : v.ackSeq ≤ v.events.last
  front_le : ∀ n ∈ v.drain.front, n ≤ v.events.last + 1
  cursor : Covered readable D v.events (v.sendSeq + 1)
  acked : Covered readable D v.events (v.ackSeq + 1)
  front : ∀ n ∈ v.drain.front, Covered readable D v.events n
  batch : Solid v.events v.drain.batch

variable {v v' : Cursor} {out : Option (Nat × Row)}

variable (h : Sweep readable D v)

include h

theorem Sweep.mono (hD : ∀ r, D r → D' r) : Sweep readable D' v :=
  { h with
    cursor := h.cursor.mono hD
    acked := h.acked.mono hD
    front := fun n hn => (h.front n hn).mono hD }

theorem Sweep.later (hj : Journal.Later v.events j') :
    Sweep readable D { v with events := j' } where
  sendSeq_le := Nat.le_trans h.sendSeq_le hj.last
  ackSeq_le := Nat.le_trans h.ackSeq_le hj.last
  front_le n hn := Nat.le_trans (h.front_le n hn) (Nat.succ_le_succ hj.last)
  cursor := h.cursor.later hj (Nat.succ_le_succ h.sendSeq_le)
  acked := h.acked.later hj (Nat.succ_le_succ h.ackSeq_le)
  front n hn := (h.front n hn).later hj (h.front_le n hn)
  batch := h.batch.later hj

/-- The drain rests: nothing is taken for granted. -/
theorem Sweep.resting {d : Drain} (hd : d.Resting) : Sweep readable D { v with drain := d } :=
  { h with
    front_le := fun n hn => by
      simp [show d.front = none from hd.front] at hn
    front := fun n hn => by
      simp [show d.front = none from hd.front] at hn
    batch := by
      show Solid v.events d.batch
      rw [hd.batch]
      exact solid_nil _ }

/-- A row in hand: the batch is solid, and what lies below the row has the property. -/
theorem Sweep.in_hand {sink : Nat} (hv : v.drain = .rows sink (row :: rest)) :
    Solid v.events (row :: rest) ∧ Covered readable D v.events row.1 := by
  have hbatch := h.batch
  have hfront := h.front
  rw [hv] at hbatch hfront
  exact ⟨hbatch, hfront row.1 rfl⟩

/-- The cursor is written to the row just dealt with, and the batch goes on behind it. -/
theorem Sweep.write {sink : Nat} (hs : Solid v.events (row :: rest))
    (hc : Covered readable D v.events (row.1 + 1)) :
    Sweep readable D { v with sendSeq := row.1, drain := .rows sink rest } where
  sendSeq_le := (hs.same row List.mem_cons_self).1
  ackSeq_le := h.ackSeq_le
  front_le n hn := by
    cases rest with
    | nil => cases hn
    | cons row' =>
      cases hn
      exact Nat.le_succ_of_le (hs.tail.same row' List.mem_cons_self).1
  cursor := hc
  acked := h.acked
  front n hn := by
    cases rest with
    | nil => cases hn
    | cons =>
      cases hn
      exact hc.next hs
  batch := hs.tail

theorem Sweep.aside (ha : Aside v v') : Sweep readable D v' := by
  obtain ⟨sink', sendSeq', ackSeq', drain', events', purging'⟩ := v'
  obtain ⟨⟨_, rfl, hj, _⟩, rfl, rfl⟩ := ha
  exact { h.later hj with }

/-- The drain keeps it, once the row it hands out counts. -/
theorem Sweep.drains (hm : Drains readable v out v')
    (hout : ∀ sink row, out = some (sink, row) → D row) : Sweep readable D v' := by
  cases hm with
  | rests _ _ hd ha => exact (h.aside ha).resting hd
  | reads =>
    exact { h with
      front_le := fun n hn => by
        cases hn
        exact Nat.succ_le_succ h.sendSeq_le
      front := fun n hn => by
        cases hn
        exact h.cursor
      batch := solid_nil _ }
  | fetches _ after row rest hv hb =>
    have hs : Solid v.events (row :: rest) := hb ▸ solid_readFrom v.events after spoolDrainBatch
    have hafter : Covered readable D v.events (after + 1) := h.front _ (by rw [hv]; rfl)
    exact { h with
      front_le := fun n hn => by
        cases hn
        exact Nat.le_succ_of_le (hs.same row List.mem_cons_self).1
      front := fun n hn => by
        cases hn
        intro r hr hread hlt
        rcases Journal.readFrom_head hb hr with hle | hge
        · exact hafter r hr hread (Nat.lt_succ_of_le hle)
        · omega
      batch := hs }
  | hands sink row _ hv =>
    obtain ⟨hs, hlow⟩ := h.in_hand hv
    exact { h with
      front_le := fun n hn => by
        cases hn
        exact Nat.succ_le_succ (hs.same row List.mem_cons_self).1
      front := fun n hn => by
        cases hn
        exact hlow.succ hs fun _ => hout sink row rfl
      batch := hs }
  | skips _ _ _ hv hr =>
    obtain ⟨hs, hlow⟩ := h.in_hand hv
    refine h.write hs (hlow.succ hs fun hread => ?_)
    simp [hr] at hread
  | writes _ row _ hv =>
    have hbatch := h.batch
    have hfront := h.front
    rw [hv] at hbatch hfront
    exact h.write hbatch (hfront (row.1 + 1) rfl)

/-- **Every step keeps it**, rewinds included. -/
theorem Sweep.moves (hm : Moves readable v out v')
    (hout : ∀ sink row, out = some (sink, row) → D row) : Sweep readable D v' := by
  cases hm with
  | aside _ ha => exact h.aside ha
  | drains _ _ hd => exact h.drains hd hout
  | acks p _ _ hup =>
    exact { h with
      ackSeq_le := Nat.le_trans hup h.sendSeq_le
      acked := fun r hr hread hlt => h.cursor r hr hread (by
        have : r.1 < p + 1 := hlt
        omega) }
  | rewinds =>
    exact { h with
      sendSeq_le := h.ackSeq_le
      cursor := h.acked }
  | binds => exact { h with }

omit h

/-- Nothing is behind the cursors of a started agent. -/
theorem sweep_newAgent (cfg : SpoolConfig) (opened : Bool) (store : SpoolStore) (now : GoTime.Time) :
    Sweep readable D (newAgent cfg opened store now).cursor := by
  have hnone : Covered readable D store.events 1 := by
    intro r hr _ hlt
    have := (store.events.bounded r hr).1
    omega
  exact ⟨Nat.zero_le _, Nat.zero_le _, fun _ hn => (by cases hn), hnone, hnone,
    fun _ hn => (by cases hn), solid_nil _⟩

end Sweep

/-! ## 3. Since the last rewind -/

/-- The agent and the rows handed to a sink since the last rewind. -/
structure Watch where
  agent : Agent
  passed : List Row

/-- The steps that put the cursor back: `Rewind` (also the second half of `Attach`) and
    `RateLimited`. -/
def Act.rewinds : Act → Bool
  | .rewind => true
  | .rateLimited _ => true
  | _ => false

def Watch.step (readable : List UInt8 → Bool) (s : Watch) (act : Act) : Option Watch :=
  (s.agent.step readable act).map fun x =>
    ⟨x.1, if act.rewinds then [] else s.passed ++ x.2.toList.map Prod.snd⟩

def Watch.start (a : Agent) : Watch := ⟨a, []⟩

/-- **A rewind in time**: of the rows the drain is about to jump over, none is unacknowledged. It
    is, when no batch is in hand; in the middle of a batch, when the rows of it that went out were
    acknowledged. -/
def Timely (readable : List UInt8 → Bool) (s : Watch) (act : Act) : Prop :=
  act.rewinds = true → ∀ n ∈ s.agent.drain.front, ∀ r ∈ s.agent.store.events.rows,
    readable r.2.payload = true → r.1 < n → r.1 ≤ s.agent.spool.ackSeq

instance (readable : List UInt8 → Bool) (s : Watch) (act : Act) :
    Decidable (Timely readable s act) :=
  inferInstanceAs (Decidable (_ → ∀ n ∈ _, ∀ r ∈ _, _ → _ → _))

section Watch

variable {readable : List UInt8 → Bool} {v v' : Cursor} {out : Option (Nat × Row)}

theorem Moves.ackSeq_mono (h : Moves readable v out v') : v.ackSeq ≤ v'.ackSeq := by
  cases h with
  | aside _ ha => exact Nat.le_of_eq ha.ackSeq.symm
  | drains _ _ hd => exact Nat.le_of_eq hd.beside.ackSeq.symm
  | acks _ _ hlow => exact Nat.le_of_lt hlow
  | rewinds | binds => exact Nat.le_refl _

theorem rewinds_cursor {a a' : Agent} {act : Act} (hact : act.rewinds = true)
    (h : a.step readable act = some (a', out)) : a'.cursor = { a.cursor with sendSeq := a.spool.ackSeq } := by
  cases act with
  | rewind =>
    cases h
    rfl
  | rateLimited =>
    obtain ⟨_, ⟨⟩⟩ := Option.ite_none_right_eq_some.mp h
    rfl
  | _ => cases hact

/-- Sent since the last rewind, or acknowledged. -/
def Settled (s : Watch) (r : Row) : Prop := r.1 ≤ s.agent.spool.ackSeq ∨ r ∈ s.passed

/-- A timely rewind starts over: what it takes back was acknowledged. -/
theorem Sweep.rewound {D : Row → Prop} (h : Sweep readable D v)
    (ht : ∀ n ∈ v.drain.front, ∀ r ∈ v.events, readable r.2.payload = true → r.1 < n → r.1 ≤ v.ackSeq) :
    Sweep readable (fun r => r.1 ≤ v.ackSeq) { v with sendSeq := v.ackSeq } :=
  { h with
    sendSeq_le := h.ackSeq_le
    cursor := fun _ _ _ hlt => Nat.le_of_lt_succ hlt
    acked := fun _ _ _ hlt => Nat.le_of_lt_succ hlt
    front := ht }

theorem watch_step {s s' : Watch} {act : Act} (h : Sweep readable (Settled s) s.agent.cursor)
    (ht : Timely readable s act) (hs : s.step readable act = some s') :
    Sweep readable (Settled s') s'.agent.cursor := by
  obtain ⟨⟨a', out⟩, hstep, rfl⟩ := Option.map_eq_some_iff.mp hs
  cases hact : act.rewinds with
  | true =>
    have hcursor := rewinds_cursor hact hstep
    have hfresh := h.rewound (ht hact)
    show Sweep readable _ a'.cursor
    have hack : a'.spool.ackSeq = s.agent.spool.ackSeq := congrArg Cursor.ackSeq hcursor
    rw [hcursor]
    refine hfresh.mono fun r hr => Or.inl ?_
    rw [hack]
    exact hr
  | false =>
    have hm := step_moves hstep
    refine Sweep.moves (h.mono fun r hr => ?_) hm fun sink row e => ?_
    · rcases hr with hack | hpassed
      · exact Or.inl (Nat.le_trans hack hm.ackSeq_mono)
      · refine Or.inr ?_
        simp [hpassed]
    · refine Or.inr ?_
      simp [e]

/-- **Behind the cursor every unacknowledged row has gone out since the last rewind**, in every
    run whose rewinds are timely; and once the drain finds nothing left to read, every
    unacknowledged row has. -/
theorem rows_behind_cursor_passed {cfg : SpoolConfig} {opened : Bool} {store : SpoolStore}
    {now : GoTime.Time} {s : Watch}
    (h : Reach (Watch.step readable) (Timely readable)
      (Watch.start (newAgent cfg opened store now)) s) :
    (∀ r ∈ s.agent.store.events, readable r.2.payload = true → s.agent.spool.ackSeq < r.1 →
      r.1 ≤ s.agent.spool.sendSeq → r ∈ s.passed) ∧
    (∀ sink after, s.agent.drain = .read sink after →
      s.agent.store.readFrom after spoolDrainBatch = [] →
      ∀ r ∈ s.agent.store.events, readable r.2.payload = true → s.agent.spool.ackSeq < r.1 →
        r ∈ s.passed) := by
  have hsweep : Sweep readable (Settled s) s.agent.cursor :=
    Reach.inv (I := fun s => Sweep readable (Settled s) s.agent.cursor)
      (sweep_newAgent cfg opened store now) (fun _ _ _ hI hok hs => watch_step hI hok hs) h
  refine ⟨fun r hr hread hlow hup => ?_, fun sink after hd hnil r hr hread hlow => ?_⟩
  · rcases hsweep.cursor r hr hread (Nat.lt_succ_of_le hup) with hack | hpassed
    · omega
    · exact hpassed
  · have hup : r.1 ≤ after := Journal.le_of_readFrom_nil (by decide) hnil hr
    rcases hsweep.front (after + 1) (by rw [show s.agent.cursor.drain = _ from hd]; rfl) r hr hread
      (Nat.lt_succ_of_le hup) with hack | hpassed
    · omega
    · exact hpassed

end Watch

/-! ## 4. Two runs -/

def leftEvent (id : String) : PendingEvent := ⟨id, 0, []⟩

/-- Two events a former run left in the store. -/
def twoLeft : Watch :=
  .start (newAgent ⟨0, 1000, 0⟩ true ⟨Journal.empty.append [leftEvent "a", leftEvent "b"], 0⟩ 0)

/-- A stream comes up and the drain reads both rows. -/
def bothRead : List Act := [.attach 1, .rewind] ++ List.replicate 4 (.drain (.ok 0))

/-- Both rows go out, the server refuses, and they go out again. -/
def refusedBetween : List Act :=
  bothRead ++ List.replicate 4 (.drain (.ok 0)) ++ [.rateLimited 0, .tick 1000000000] ++
    List.replicate 9 (.drain (.ok 0))

/-- The server's refusal arrives after the first of the two rows. -/
def refusedWithin : List Act :=
  bothRead ++ List.replicate 2 (.drain (.ok 0)) ++ [.rateLimited 0] ++
    List.replicate 2 (.drain (.ok 0)) ++ [.tick 1000000000] ++ List.replicate 2 (.drain (.ok 0))

/-- A refusal between two batches: both rows have gone out again when the drain is through. -/
theorem refused_rows_sent_again :
    let s := runList (Watch.step fun _ => true) twoLeft refusedBetween
    s.agent.drain = .read 1 2 ∧ s.agent.store.readFrom 2 spoolDrainBatch = [] ∧
      ∀ r ∈ s.agent.store.events, s.agent.spool.ackSeq < r.1 → r ∈ s.passed := by
  have hrun : Reach (Watch.step fun _ => true) (Timely fun _ => true) twoLeft _ :=
    reach_of_decide refusedBetween _ (by decide)
  exact ⟨rfl, rfl, fun r hr => (rows_behind_cursor_passed hrun).2 1 2 rfl rfl r hr rfl⟩

/-- **A refusal within a batch**: the first row was sent before it and is skipped after it; the
    drain finds nothing left to read, and the row is still unacknowledged. -/
theorem rewind_skips_row :
    ∃ s : Watch, Reach (Watch.step fun _ => true) anyStep twoLeft s ∧
      s.agent.drain = .read 1 2 ∧ s.agent.store.readFrom 2 spoolDrainBatch = [] ∧
      ∃ r ∈ s.agent.store.events.rows, s.agent.spool.ackSeq < r.1 ∧ r.1 ≤ s.agent.spool.sendSeq ∧
        r ∉ s.passed :=
  ⟨runList (Watch.step fun _ => true) twoLeft refusedWithin, reach_of_runList _ _, rfl, rfl,
    (1, leftEvent "a"), by decide, by decide, by decide, by decide⟩

end Maintenant.Push
