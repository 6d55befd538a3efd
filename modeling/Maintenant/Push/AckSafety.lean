/-
  File:      Maintenant/Push/AckSafety.lean
  Subject:   WHAT AN ACK MAY DELETE. A row goes only after the server took its event, in which runs.

  The server answers with ONE number, the seq of the event it accepted last, and the agent deletes
  every row up to it (and up to the cursor). Two things can be wrong with the number: it may be a
  snapshot's, from the counter of the stream and not from the rows, and rows below it may have been
  refused.

  * `Lane` -- what holds of a stream whatever happens: the rows go out in such an order that before
    a row every older stored row went out on the same stream (or had been acknowledged when it was
    attached), and the server's loop has received a first part of them;
  * `AckSound` -- the number sent is not above the rows received on the stream, and of these none
    up to it is still refused; or it says nothing new;
  * `purged_rows_accepted` -- in every run whose acks are sound, a row is deleted only after its
    event was accepted;
  * `snapshot_ack_purges_row`, `refused_row_purged` -- the two ways it fails otherwise.
-/
import Maintenant.Push.Cursor
import Maintenant.Push.Stream

namespace Maintenant.Push

open Runs

/-! ## 1. The rows on a stream -/

section Lane

variable {readable : List UInt8 → Bool} {j j' : Journal PendingEvent} {base : Nat}
  {st st' : Stream} {row : Row}

/-- The rows of the events under way to the server. -/
def Stream.inFlight (st : Stream) : List Row := st.toServer.filterMap Envelope.row

/-- **A stream as seen from the rows still stored.** -/
structure Lane (readable : List UInt8 → Bool) (j : Journal PendingEvent) (base : Nat) (st : Stream) :
    Prop where
  fifo : st.seen ++ st.inFlight <+: st.sent
  whole : st.up = true → st.seen ++ st.inFlight = st.sent
  known : ∀ t ∈ st.sent, t.1 ≤ j.last ∧ ∀ r ∈ j, r.1 = t.1 → r = t
  order : ∀ pre t post, st.sent = pre ++ t :: post →
    Covered readable (fun r => r.1 ≤ base ∨ r ∈ pre) j t.1

theorem lane_fresh (now : GoTime.Time) : Lane readable j base (Stream.fresh now) where
  fifo := List.nil_prefix
  whole _ := rfl
  known t ht := absurd ht List.not_mem_nil
  order pre t post e := by
    have := congrArg List.length e
    simp [Stream.fresh] at this

theorem Lane.later (h : Lane readable j base st) (hj : Journal.Later j j') :
    Lane readable j' base st where
  fifo := h.fifo
  whole := h.whole
  known t ht := by
    obtain ⟨hle, hsame⟩ := h.known t ht
    exact ⟨Nat.le_trans hle hj.last, fun r hr e => hsame r (hj.mem hr (by omega)) e⟩
  order pre t post e := by
    have ht : t ∈ st.sent := by
      rw [e]
      exact List.mem_append_right _ List.mem_cons_self
    exact (h.order pre t post e).later hj (Nat.le_succ_of_le (h.known t ht).1)

theorem inFlight_push (st : Stream) (e : Envelope) : (st.push e).inFlight = st.inFlight ++ e.row.toList := by
  unfold Stream.push Stream.inFlight
  rw [List.filterMap_append]
  cases h : e.row <;> simp [h]

/-- A row is sent: every older stored row went before it. -/
theorem Lane.push (h : Lane readable j base st) (hup : st.up = true)
    (hknown : row.1 ≤ j.last ∧ ∀ r ∈ j, r.1 = row.1 → r = row)
    (hlow : Covered readable (fun r => r.1 ≤ base ∨ r ∈ st.sent) j row.1) :
    Lane readable j base (st.push ⟨row.1, some row⟩) := by
  have hwhole : st.seen ++ (st.push ⟨row.1, some row⟩).inFlight = st.sent ++ [row] := by
    rw [inFlight_push, ← List.append_assoc, h.whole hup]
    rfl
  refine ⟨?_, fun _ => hwhole, fun t ht => ?_, fun pre t post e => ?_⟩
  · show st.seen ++ _ <+: st.sent ++ [row]
    exact hwhole ▸ List.prefix_rfl
  · rcases List.mem_append.mp ht with ht | ht
    · exact h.known t ht
    · obtain rfl := List.mem_singleton.mp ht
      exact hknown
  · -- the split is at the new row or before it
    have e' : st.sent ++ [row] = pre ++ t :: post := e
    rcases List.eq_nil_or_concat post with rfl | ⟨post', x, rfl⟩
    · obtain ⟨rfl, e₁⟩ := List.append_inj' e' rfl
      cases e₁
      exact hlow
    · rw [List.concat_eq_append, ← List.cons_append, ← List.append_assoc] at e'
      obtain ⟨e₁, _⟩ := List.append_inj' e' rfl
      exact h.order pre t post' e₁

/-- No row is sent, and those under way keep their places or are lost. -/
structure Tame (st st' : Stream) : Prop where
  sent : st'.sent = st.sent
  fifo : st'.seen ++ st'.inFlight <+: st.seen ++ st.inFlight
  whole : st'.up = true → st.up = true ∧ st'.seen ++ st'.inFlight = st.seen ++ st.inFlight

theorem Lane.tame (h : Lane readable j base st) (ht : Tame st st') : Lane readable j base st' where
  fifo := by
    rw [ht.sent]
    exact ht.fifo.trans h.fifo
  whole hup := by
    obtain ⟨hold, e⟩ := ht.whole hup
    rw [ht.sent, e]
    exact h.whole hold
  known := by
    rw [ht.sent]
    exact h.known
  order := by
    rw [ht.sent]
    exact h.order

theorem Tame.trans {st₁ : Stream} (h : Tame st st₁) (h' : Tame st₁ st') : Tame st st' where
  sent := h'.sent.trans h.sent
  fifo := h'.fifo.trans h.fifo
  whole hup := by
    obtain ⟨hup₁, e₁⟩ := h'.whole hup
    obtain ⟨hup₀, e₀⟩ := h.whole hup₁
    exact ⟨hup₀, e₁.trans e₀⟩

theorem tame_of_eq (hup : st'.up = st.up) (hsent : st'.sent = st.sent)
    (hrows : st'.seen ++ st'.inFlight = st.seen ++ st.inFlight) : Tame st st' :=
  ⟨hsent, hrows ▸ List.prefix_rfl, fun h => ⟨hup ▸ h, hrows⟩⟩

theorem tame_push (st : Stream) (n : Nat) : Tame st (st.push ⟨n, none⟩) := by
  have e : (st.push ⟨n, none⟩).inFlight = st.inFlight := by
    rw [inFlight_push]
    exact List.append_nil _
  exact tame_of_eq rfl (List.append_nil _) (by rw [e]; rfl)

theorem tame_reply (st : Stream) (m : ServerMessage) : Tame st (st.reply m) := by
  unfold Stream.reply
  split <;> exact tame_of_eq rfl rfl rfl

/-- The loop takes an event: its row moves from the channel to the rows received. -/
theorem tame_take {e : Envelope} {rest : List Envelope} (h : st.toServer = e :: rest) : Tame st (st.take e rest) := by
  refine tame_of_eq rfl rfl ?_
  have hrows : st.inFlight = e.row.toList ++ (st.take e rest).inFlight := by
    unfold Stream.inFlight
    rw [h]
    cases he : e.row <;> simp [he, Stream.take]
  rw [hrows, ← List.append_assoc]
  rfl

theorem tame_maybeAck (st : Stream) (now : GoTime.Time) : Tame st (st.maybeAck now) := by
  unfold Stream.maybeAck
  split
  · split
    · exact (tame_reply st _).trans (tame_of_eq rfl rfl rfl)
    · next hdown =>
      refine ⟨rfl, ?_, fun hup => absurd hup hdown⟩
      show st.seen ++ [] <+: _
      rw [List.append_nil]
      exact List.prefix_append _ _
  · exact tame_of_eq rfl rfl rfl

end Lane

/-! ## 2. The acks that are sound -/

/-- **An ack that says what it means**: nothing new; or no more than the rows received on the stream,
    of which every one it covers has been accepted. -/
def Sound (ackSeq : Nat) (accepted : List Row) (st : Stream) : Prop :=
  st.lastSeenSeq ≤ ackSeq ∨
    (∃ t ∈ st.seen, st.lastSeenSeq ≤ t.1) ∧ ∀ r ∈ st.seen, r.1 ≤ st.lastSeenSeq → r ∈ accepted
deriving Decidable

/-- The event that makes the server send an ack on the newest stream makes a sound one. -/
def AckSound (s : System) : Op → Prop
  | .serverRecv k true _ => ∀ e ∈ (s.streams k).toServer.head?,
      let st := ((s.streams k).take e (s.streams k).toServer.tail).accept e
      k = s.cur → st.ackDue s.agent.now = true →
        Sound s.agent.spool.ackSeq (s.accepted ++ e.row.toList) st
  | _ => True

instance (s : System) : (op : Op) → Decidable (AckSound s op)
  | .serverRecv _ true _ => inferInstanceAs (Decidable (∀ e ∈ _, _ → _ → Sound _ _ _))
  | .serverRecv _ false _ => inferInstanceAs (Decidable True)
  | .send _ | .call _ | .background _ | .attach | .rewind | .resendSnapshots _ | .resend
  | .drain _ | .cancel | .detach | .recv | .lose _ _ _ => inferInstanceAs (Decidable True)

/-! ## 3. The invariant -/

/-- The stream's goroutine is between `Attach` and `Detach`. -/
def Main.live : Main → Bool
  | .attached | .resending _ | .draining => true
  | _ => false

/-- Acknowledged when the newest stream was attached, or sent on it. -/
def Went (s : System) (r : Row) : Prop :=
  s.main.live = false ∨ r.1 ≤ s.base ∨ r ∈ (s.streams s.cur).sent

/-- Every stored row up to `n` was accepted, and no row will get such a number. -/
structure Taken (readable : List UInt8 → Bool) (j : Journal PendingEvent) (accepted : List Row)
    (n : Nat) : Prop where
  bound : n ≤ j.last
  accepted : Covered readable (· ∈ accepted) j (n + 1)

structure Safe (readable : List UInt8 → Bool) (s : System) : Prop where
  sweep : Sweep readable (Went s) s.agent.cursor
  base_le : s.base ≤ s.agent.spool.ackSeq
  sink : s.main ≠ .detached → s.agent.spool.sink = some s.cur
  hand : ∀ k ∈ s.agent.drain.sink, k = s.cur
  parked : s.main ≠ .draining → s.agent.drain = .idle ∨ s.agent.drain = .failed
  unsent : s.main = .attaching → (s.streams s.cur).sent = []
  lane : Lane readable s.agent.store.events s.base (s.streams s.cur)
  taken : Taken readable s.agent.store.events s.accepted s.agent.spool.ackSeq
  acks : ∀ n, ServerMessage.ack n ∈ (s.streams s.cur).toAgent →
    Taken readable s.agent.store.events s.accepted n
  purging : ∀ p ∈ s.agent.purging, p ≤ s.agent.spool.ackSeq

variable {a : Agent}

section Steps

variable {readable : List UInt8 → Bool} {s s' : System} {j j' : Journal PendingEvent}
  {accepted accepted' : List Row} {n : Nat}

theorem Taken.le {m : Nat} (h : Taken readable j accepted n) (hm : m ≤ n) : Taken readable j accepted m :=
  ⟨Nat.le_trans hm h.bound, fun r hr hread hlt => h.accepted r hr hread (by omega)⟩

/-- Rows come and go, and more are accepted. -/
theorem Taken.later (h : Taken readable j accepted n) (hj : Journal.Later j j')
    (hacc : accepted ⊆ accepted') : Taken readable j' accepted' n :=
  ⟨Nat.le_trans h.bound hj.last,
    (h.accepted.later hj (Nat.succ_le_succ h.bound)).mono fun _ hr => hacc hr⟩

theorem safe_start (cfg : SpoolConfig) (opened : Bool) (store : SpoolStore) (now : GoTime.Time) :
    Safe readable (System.start (newAgent cfg opened store now)) where
  sweep := sweep_newAgent cfg opened store now
  base_le := Nat.le_refl _
  sink h := absurd rfl h
  hand k hk := by cases hk
  parked _ := Or.inl rfl
  unsent h := by cases h
  lane := (lane_fresh now).tame ⟨rfl, List.prefix_rfl, nofun⟩
  taken := ⟨Nat.zero_le _, (sweep_newAgent (D := (· ∈ [])) cfg opened store now).acked⟩
  acks n hn := by cases hn
  purging p hp := by cases hp

/-- The agent works on, without the receive loop. -/
theorem Safe.beside (h : Safe readable s) (hb : Beside s.agent.cursor a.cursor)
    (hsweep : Sweep readable (Went s) a.cursor) (hhand : ∀ k ∈ a.drain.sink, k = s.cur)
    (hparked : s.main ≠ .draining → a.drain = .idle ∨ a.drain = .failed) :
    Safe readable { s with agent := a } := by
  have hack : a.spool.ackSeq = s.agent.spool.ackSeq := hb.ackSeq
  have hj : Journal.Later s.agent.store.events a.store.events := hb.events
  refine ⟨hsweep, hack ▸ h.base_le, fun hm => hb.sink.trans (h.sink hm), hhand, hparked, h.unsent,
    h.lane.later hj, hack ▸ h.taken.later hj (List.Subset.refl _),
    fun n hn => (h.acks n hn).later hj (List.Subset.refl _), fun p hp => ?_⟩
  rcases hb.purging with he | he
  · have hp' : p ∈ s.agent.purging := by rwa [← show a.purging = s.agent.purging from he]
    exact hack ▸ h.purging p hp'
  · rw [show a.purging = none from he] at hp
    cases hp

theorem Safe.aside (h : Safe readable s) (ha : Aside s.agent.cursor a.cursor) :
    Safe readable { s with agent := a } := by
  have hdrain : a.drain = s.agent.drain := ha.drain
  refine h.beside ha.toBeside (h.sweep.aside ha) ?_ ?_
  · rw [hdrain]
    exact h.hand
  · rw [hdrain]
    exact h.parked

/-- The streams change; what the invariant says about the newest one is shown anew. -/
theorem Safe.streams {streams : Nat → Stream} (h : Safe readable s)
    (hsent : (s.streams s.cur).sent ⊆ (streams s.cur).sent)
    (hunsent : s.main = .attaching → (streams s.cur).sent = [])
    (hlane : Lane readable s.agent.store.events s.base (streams s.cur))
    (hacks : ∀ n, ServerMessage.ack n ∈ (streams s.cur).toAgent →
      Taken readable s.agent.store.events s.accepted n) :
    Safe readable { s with streams := streams } :=
  { h with
    sweep := h.sweep.mono fun _ hr => hr.imp_right fun hr => hr.imp_right fun hr => hsent hr
    unsent := hunsent
    lane := hlane
    acks := hacks }

theorem setStream_self (s : System) (k : Nat) (st : Stream) : (s.setStream k st).streams k = st :=
  if_pos rfl

variable {i k : Nat} {st : Stream}

theorem setStream_ne (h : i ≠ k) (st : Stream) : (s.setStream k st).streams i = s.streams i := if_neg h

section

variable (h : Safe readable s)

include h

/-- A stream changes, and no row is sent on it; an ack put on the newest one covers rows taken. -/
theorem Safe.setStream (ht : Tame (s.streams k) st)
    (hacks : k = s.cur → ∀ n, ServerMessage.ack n ∈ st.toAgent →
      ServerMessage.ack n ∈ (s.streams k).toAgent ∨
        Taken readable s.agent.store.events s.accepted n) : Safe readable (s.setStream k st) := by
  show Safe readable { s with streams := (s.setStream k st).streams }
  by_cases hk : k = s.cur
  · subst hk
    refine h.streams ?_ ?_ ?_ ?_ <;> rw [setStream_self]
    · rw [ht.sent]
      exact List.Subset.refl _
    · exact fun hm => ht.sent.trans (h.unsent hm)
    · exact h.lane.tame ht
    · intro n hn
      rcases hacks rfl n hn with hold | hnew
      · exact h.acks n hold
      · exact hnew
  · have hne : s.cur ≠ k := Ne.symm hk
    refine h.streams ?_ ?_ ?_ ?_ <;> rw [setStream_ne hne]
    · exact List.Subset.refl _
    · exact h.unsent
    · exact h.lane
    · exact h.acks

/-! ### The agent's side -/

theorem safe_number (c : SendCall) : Safe readable (s.number c) := by
  unfold System.number
  split
  · have htame : Tame (s.streams c.stream)
        { s.streams c.stream with seq := (s.streams c.stream).seq + 1 } := tame_of_eq rfl rfl rfl
    exact { h.setStream htame fun _ n hn => Or.inl hn with }
  · exact h

theorem safe_deliver (c : SendCall) : Safe readable (s.deliver c) := by
  unfold System.deliver
  split
  · exact h.setStream (tame_push _ _) fun _ n hn => Or.inl hn
  · exact h

theorem safe_callStep (hs : s.callStep i = some s') : Safe readable s' := by
  unfold System.callStep at hs
  split at hs
  · cases hs
  · next c _ =>
    split at hs
    · cases hs
      exact { safe_deliver h c with }
    · cases hs
      exact { safe_number h c with }

/-- The goroutine goes on from one phase of a live stream to the next, the drain at rest. -/
theorem Safe.phase {m : Main} (hlive : s.main.live = true)
    (hrest : s.main ≠ .draining) (hm : m.live = true) : Safe readable { s with main := m } :=
  { h with
    sweep := h.sweep.mono fun r hr => by
      rcases hr with hl | hr
      · rw [hlive] at hl
        cases hl
      · exact Or.inr hr
    sink := fun _ => h.sink fun e => by
      rw [e] at hlive
      cases hlive
    parked := fun _ => h.parked hrest
    unsent := fun e => by
      have e' : m = .attaching := e
      rw [e'] at hm
      cases hm }

end

theorem deliver_main (s : System) (c : SendCall) : (s.deliver c).main = s.main := by
  unfold System.deliver
  split <;> rfl

theorem number_main (s : System) (c : SendCall) : (s.number c).main = s.main := by
  unfold System.number
  split <;> rfl

theorem safe_resendStep (h : Safe readable s) (hs : s.resendStep = some s') : Safe readable s' := by
  unfold System.resendStep at hs
  split at hs
  · next hm =>
    cases hs
    exact h.phase (by rw [hm]; rfl) (by rw [hm]; exact nofun) rfl
  · next c cs hm =>
    split at hs
    · cases hs
      have hd := safe_deliver h c
      refine hd.phase ?_ ?_ ?_
      · rw [deliver_main, hm]
        rfl
      · rw [deliver_main, hm]
        exact nofun
      · split <;> rfl
    · cases hs
      have hd := safe_number h c
      refine hd.phase ?_ ?_ rfl
      · rw [number_main, hm]
        rfl
      · rw [number_main, hm]
        exact nofun
  · cases hs

theorem safe_resendSnapshots {order : List Nat} (h : Safe readable s)
    (hs : s.resendSnapshots order = some s') : Safe readable s' := by
  obtain ⟨⟨hm, _⟩, e⟩ := Option.ite_none_right_eq_some.mp hs
  cases e
  exact h.phase (by rw [hm]; rfl) (by rw [hm]; exact nofun) rfl

theorem safe_send {evt : AgentEvent} (h : Safe readable s) (hs : s.send readable evt = some s') : Safe readable s' := by
  unfold System.send at hs
  split at hs
  · split at hs
    · cases hs
      exact { h with }
    · split at hs
      · cases hs
      · obtain ⟨⟨a, out⟩, hstep, rfl⟩ := Option.map_eq_some_iff.mp hs
        exact h.aside (background_aside rfl hstep).1
  · cases hs
    exact { h with }

/-- The batch is for the stream that is attached. -/
theorem Drains.hand {v v' : Cursor} {out : Option (Nat × Row)}
    (h : Drains readable v out v') (hsink : v.sink = some k) (hv : ∀ i ∈ v.drain.sink, i = k) :
    ∀ i ∈ v'.drain.sink, i = k := by
  cases h with
  | rests d _ hd =>
    intro i hi
    rw [show d.sink = none from hd.sink] at hi
    cases hi
  | reads _ _ hs =>
    rw [hsink] at hs
    cases hs
    exact fun i hi => (Option.some_inj.mp hi).symm
  | fetches _ _ _ _ hd | hands _ _ _ hd | skips _ _ _ hd | writes _ _ _ hd =>
    rw [hd] at hv
    exact hv

theorem Drains.row_in_hand {v v' : Cursor} {row : Row}
    (h : Drains readable v (some (k, row)) v') : ∃ rest, v.drain = .rows k (row :: rest) := by
  cases h with
  | hands _ _ rest hd => exact ⟨rest, hd⟩

section

variable (h : Safe readable s)

include h

theorem Safe.drains {out : Option (Nat × Row)}
    (hm : s.main = .draining) (hd : Drains readable s.agent.cursor out a.cursor)
    (hout : ∀ k row, out = some (k, row) → Went s row) : Safe readable { s with agent := a } := by
  have hsink := h.sink (by rw [hm]; exact nofun)
  exact h.beside hd.beside (h.sweep.drains hd hout) (hd.hand hsink h.hand) fun hne => absurd hm hne

/-- The row in hand goes out on the stream: all older stored rows went before it. -/
theorem Safe.push {row : Row} {rest : List Row}
    (hm : s.main = .draining) (hup : (s.streams k).up = true) (hd : s.agent.drain = .rows k (row :: rest)) :
    Safe readable (s.setStream k ((s.streams k).push ⟨row.1, some row⟩)) ∧
      Went (s.setStream k ((s.streams k).push ⟨row.1, some row⟩)) row := by
  have hk : k = s.cur := h.hand k (by rw [hd]; rfl)
  subst hk
  obtain ⟨hsolid, hcovered⟩ := h.sweep.in_hand hd
  have hlow : Covered readable (fun r => r.1 ≤ s.base ∨ r ∈ (s.streams s.cur).sent)
      s.agent.store.events row.1 := by
    refine hcovered.mono fun r hr => ?_
    rcases hr with hl | hr
    · rw [hm] at hl
      cases hl
    · exact hr
  have hlane := h.lane.push hup (hsolid.same row List.mem_cons_self) hlow
  constructor
  · show Safe readable { s with streams := (s.setStream s.cur _).streams }
    refine h.streams ?_ ?_ ?_ ?_ <;> rw [setStream_self]
    · exact List.subset_append_left _ _
    · intro hm'
      rw [hm'] at hm
      cases hm
    · exact hlane
    · exact h.acks
  · refine Or.inr (Or.inr ?_)
    show row ∈ ((s.setStream s.cur _).streams s.cur).sent
    rw [setStream_self]
    exact List.mem_append_right _ (List.mem_singleton_self _)

theorem safe_drainStep {act : Act} (hact : ∀ a out, s.agent.step readable act = some (a, out) →
      Drains readable s.agent.cursor out a.cursor) (hs : s.drainStep readable act = some s') : Safe readable s' := by
  obtain ⟨hm, hs⟩ := Option.ite_none_right_eq_some.mp hs
  split at hs
  · cases hs
  · next a hstep =>
    cases hs
    exact h.drains hm (hact _ _ hstep) nofun
  · next a k row hstep =>
    obtain ⟨hup, ⟨⟩⟩ := Option.ite_none_right_eq_some.mp hs
    have hd := hact _ _ hstep
    obtain ⟨rest, hrow⟩ := hd.row_in_hand
    obtain ⟨hpush, hwent⟩ := h.push hm hup hrow
    refine hpush.drains hm hd fun k' row' e => ?_
    cases e
    exact hwent

/-! ### Attach, detach and the receive loop -/

theorem safe_attach (hs : s.attach = some s') : Safe readable s' := by
  obtain ⟨⟨hm, hp⟩, e⟩ := Option.ite_none_right_eq_some.mp hs
  cases e
  have hrest : Drain.idle.Resting := ⟨rfl, rfl, rfl⟩
  have hfresh : (s.setStream (s.cur + 1) (Stream.fresh s.agent.now)).streams (s.cur + 1) =
      Stream.fresh s.agent.now := setStream_self s _ _
  refine ⟨{ (h.sweep.mono fun _ _ => Or.inl rfl).resting hrest with }, h.base_le, fun _ => rfl,
    nofun, fun _ => Or.inl rfl, fun _ => congrArg Stream.sent hfresh, ?_, h.taken, ?_, h.purging⟩
  · show Lane readable s.agent.store.events s.base
      ((s.setStream (s.cur + 1) (Stream.fresh s.agent.now)).streams (s.cur + 1))
    rw [hfresh]
    exact lane_fresh _
  · intro n hn
    rw [hfresh] at hn
    cases hn

theorem safe_rewind (hs : s.rewind = some s') : Safe readable s' := by
  obtain ⟨hm, ⟨⟩⟩ := Option.ite_none_right_eq_some.mp hs
  have hparked : s.agent.drain = .idle ∨ s.agent.drain = .failed :=
    h.parked (by rw [hm]; exact nofun)
  have hfront : s.agent.drain.front = none := by
    rcases hparked with hd | hd <;> rw [hd] <;> rfl
  have hrewound := h.sweep.rewound fun n hn => by
    rw [show s.agent.cursor.drain.front = none from hfront] at hn
    cases hn
  exact { h with
    sweep := hrewound.mono fun _ hr => Or.inr (Or.inl hr)
    base_le := Nat.le_refl _
    sink := fun _ => h.sink (by rw [hm]; exact nofun)
    parked := fun _ => hparked
    unsent := nofun
    lane := { h.lane with
      -- before the first row the base is free
      order := fun pre t post e => by
        rw [h.unsent hm] at e
        exact absurd e (by simp) } }

theorem safe_detach (hs : s.detach = some s') : Safe readable s' := by
  obtain ⟨⟨hm, hd⟩, e⟩ := Option.ite_none_right_eq_some.mp hs
  cases e
  exact { h with
    sweep := { h.sweep.mono fun _ _ => Or.inl rfl with }
    sink := fun hne => absurd rfl hne
    parked := fun _ => hd
    unsent := nofun }

end

/-- An ack for rows that were taken. -/
theorem Safe.acked {n : Nat} (h : Safe readable s) (ht : Taken readable s.agent.store.events s.accepted n) :
    Safe readable { s with agent := s.agent.acked n } := by
  have hsweep := h.sweep.moves (acked_moves n) nofun
  unfold Agent.acked at hsweep ⊢
  split
  · exact h
  · next p hp =>
    obtain ⟨hlow, hle, _⟩ := purgeTo_some hp
    rw [hp] at hsweep
    refine { h with
      sweep := hsweep
      base_le := Nat.le_trans h.base_le (Nat.le_of_lt hlow)
      taken := ht.le hle
      purging := fun q hq => ?_ }
    split at hq
    · cases hq
      exact Nat.le_refl _
    · cases hq

theorem safe_recv (h : Safe readable s) (hs : s.recv readable = some s') : Safe readable s' := by
  unfold System.recv at hs
  split at hs
  · cases hs
  · next m rest hrecv =>
    obtain ⟨⟨a, out⟩, hstep, rfl⟩ := Option.map_eq_some_iff.mp hs
    have hpop : Safe readable
        (s.setStream s.cur { s.streams s.cur with toAgent := rest }) :=
      h.setStream (tame_of_eq rfl rfl rfl) fun _ n hn => Or.inl (by
        rw [hrecv]
        exact List.mem_cons_of_mem _ hn)
    cases m with
    | ack n =>
      obtain ⟨_, ⟨⟩⟩ := Option.ite_none_right_eq_some.mp hstep
      have ht := h.acks n (by rw [hrecv]; exact List.mem_cons_self)
      exact hpop.acked ht
    | rateLimited =>
      obtain ⟨_, ⟨⟩⟩ := Option.ite_none_right_eq_some.mp hstep
      exact { hpop with sweep := hpop.sweep.moves .rewinds nofun }

/-! ### The server's side -/

theorem ack_of_reply {m : ServerMessage} {n : Nat} (h : ServerMessage.ack n ∈ (st.reply m).toAgent) :
    ServerMessage.ack n ∈ st.toAgent ∨ m = .ack n := by
  unfold Stream.reply at h
  split at h
  · rcases List.mem_append.mp h with h | h
    · exact Or.inl h
    · exact Or.inr (List.mem_singleton.mp h).symm
  · exact Or.inl h

theorem ack_of_maybeAck {now : GoTime.Time} {n : Nat} (h : ServerMessage.ack n ∈ (st.maybeAck now).toAgent) :
    ServerMessage.ack n ∈ st.toAgent ∨ st.ackDue now = true ∧ n = st.lastSeenSeq := by
  unfold Stream.maybeAck at h
  split at h
  · next hdue =>
    split at h
    · rcases ack_of_reply h with h | e
      · exact Or.inl h
      · cases e
        exact Or.inr ⟨hdue, rfl⟩
    · exact Or.inl h
  · exact Or.inl h

/-- **A sound ack covers only rows taken**: of the rows up to it, each was acknowledged before or
    went out before a row received, and so was received itself. -/
theorem Lane.taken {base : Nat} {t : Row} (h : Lane readable j base st)
    (hbase : Covered readable (· ∈ accepted) j (base + 1)) (ht : t ∈ st.seen) (hn : n ≤ t.1)
    (hall : ∀ r ∈ st.seen, r.1 ≤ n → r ∈ accepted) : Taken readable j accepted n := by
  obtain ⟨pre, post, hsplit⟩ := List.append_of_mem ht
  obtain ⟨lost, hlost⟩ := h.fifo
  have hsent : st.sent = pre ++ t :: (post ++ st.inFlight ++ lost) := by
    rw [← hlost, hsplit]
    simp only [List.append_assoc, List.cons_append]
  obtain ⟨hlast, hsame⟩ := h.known t (by rw [hsent]; exact List.mem_append_right _ List.mem_cons_self)
  refine ⟨Nat.le_trans hn hlast, fun r hr hread hlt => ?_⟩
  have hle : r.1 ≤ n := Nat.le_of_lt_succ hlt
  rcases Nat.lt_or_eq_of_le (Nat.le_trans hle hn) with hbefore | heq
  · rcases h.order pre t _ hsent r hr hread hbefore with hb | hpre
    · exact hbase r hr hread (Nat.lt_succ_of_le hb)
    · exact hall r (hsplit ▸ List.mem_append_left _ hpre) hle
  · obtain rfl := hsame r hr heq
    exact hall r ht hle

variable (h : Safe readable s)

include h

theorem Safe.accept (rows : List Row) : Safe readable { s with accepted := s.accepted ++ rows } :=
  { h with
    taken := h.taken.later (Journal.Later.refl _) (List.subset_append_left _ _)
    acks := fun n hn => (h.acks n hn).later (Journal.Later.refl _) (List.subset_append_left _ _) }

theorem safe_serverRecv {allowed : Bool} {ms : Nat} (hok : AckSound s (.serverRecv k allowed ms))
    (hs : s.serverRecv k allowed ms = some s') : Safe readable s' := by
  unfold System.serverRecv at hs
  split at hs
  · cases hs
  · next e rest hrecv =>
    have htake : Tame (s.streams k) ((s.streams k).take e rest) := tame_take hrecv
    split at hs
    · next hallowed =>
      subst hallowed
      cases hs
      have hacc := h.accept e.row.toList
      have haccept : Tame (s.streams k) (((s.streams k).take e rest).accept e) :=
        htake.trans (tame_of_eq rfl rfl rfl)
      refine hacc.setStream (haccept.trans (tame_maybeAck _ _)) fun hk n hn => ?_
      rcases ack_of_maybeAck hn with hold | ⟨hdue, rfl⟩
      · exact Or.inl hold
      · subst hk
        have hsound := hok e (by rw [hrecv]; rfl)
        rw [hrecv] at hsound
        rcases hsound rfl hdue with hold | ⟨⟨t, ht, hn⟩, hall⟩
        · exact Or.inr (hacc.taken.le hold)
        · exact Or.inr ((hacc.lane.tame haccept).taken (hacc.taken.le hacc.base_le).accepted ht
            hn hall)
    · cases hs
      refine h.setStream (htake.trans (tame_reply _ _)) fun _ n hn => ?_
      rcases ack_of_reply hn with hold | e
      · exact Or.inl hold
      · cases e

theorem safe_lose {m : Nat} (hs : s.lose k i m = some s') : Safe readable s' := by
  obtain ⟨_, ⟨⟩⟩ := Option.ite_none_right_eq_some.mp hs
  refine h.setStream ⟨rfl, ?_, nofun⟩ fun _ n hn => Or.inl (List.mem_of_mem_take hn)
  exact (List.prefix_append_right_inj _).mpr ((List.take_prefix i _).filterMap _)

/-- **Every step with a sound ack keeps the invariant.** -/
theorem safe_step {op : Op} (hok : AckSound s op)
    (hs : s.step readable op = some s') : Safe readable s' := by
  cases op with
  | send => exact safe_send h hs
  | call => exact safe_callStep h hs
  | background =>
    obtain ⟨hact, hs⟩ := Option.ite_none_right_eq_some.mp hs
    obtain ⟨⟨a, out⟩, hstep, rfl⟩ := Option.map_eq_some_iff.mp hs
    exact h.aside (background_aside hact hstep).1
  | attach => exact safe_attach h hs
  | rewind => exact safe_rewind h hs
  | resendSnapshots => exact safe_resendSnapshots h hs
  | resend => exact safe_resendStep h hs
  | drain =>
    refine safe_drainStep h (fun a out hstep => ?_) hs
    exact drainStep_drains hstep
  | cancel =>
    refine safe_drainStep h (fun a out hstep => ?_) hs
    obtain ⟨a₁, h₁, ⟨⟩⟩ := Option.map_eq_some_iff.mp hstep
    exact cancelStep_drains h₁
  | detach => exact safe_detach h hs
  | recv => exact safe_recv h hs
  | serverRecv => exact safe_serverRecv h hok hs
  | lose => exact safe_lose h hs

end Steps

/-! ## 4. What a purge deletes -/

theorem purged_up_to {a' : Agent} {reply : Reply} {r : Row} (h : a.purgeStep reply = some a')
    (hr : r ∈ a.store.events) (hgone : r ∉ a'.store.events) : ∃ p ∈ a.purging, r.1 ≤ p := by
  unfold Agent.purgeStep at h
  split at h
  · cases h
  · next p hp =>
    split at h
    · cases h
      exact absurd hr hgone
    · cases h
      refine ⟨p, hp, Nat.le_of_not_lt fun hlt => hgone (Journal.mem_keep.mpr ⟨hr, ?_⟩)⟩
      simpa using hlt

/-- **An acknowledged row was accepted.** In every run whose acks are sound, the DELETE of `Acked`
    takes away a row only if the server's loop had accepted its event. (A row whose payload no
    longer decodes has no event.) -/
theorem purged_rows_accepted {readable : List UInt8 → Bool} {cfg : SpoolConfig} {opened : Bool}
    {store : SpoolStore} {now : GoTime.Time} {s s' : System} {reply : Reply} {r : Row}
    (h : Reach (System.step readable) AckSound (System.start (newAgent cfg opened store now)) s)
    (hs : s.step readable (.background (.purge reply)) = some s')
    (hr : r ∈ s.agent.store.events) (hgone : r ∉ s'.agent.store.events)
    (hread : readable r.2.payload = true) : r ∈ s.accepted := by
  have hsafe : Safe readable s :=
    Reach.inv (safe_start cfg opened store now) (fun _ _ _ hI hok hstep => safe_step hI hok hstep) h
  obtain ⟨⟨a, out⟩, hstep, rfl⟩ := Option.map_eq_some_iff.mp hs
  obtain ⟨a₁, hpurge, ⟨⟩⟩ := Option.map_eq_some_iff.mp hstep
  obtain ⟨p, hp, hle⟩ := purged_up_to hpurge hr hgone
  have hack := hsafe.purging p hp
  exact hsafe.taken.accepted r hr hread (by omega)

/-! ## 5. Three runs -/

/-- An agent whose store holds the events a former run left. -/
def leftWith (ids : List String) : System :=
  .start (newAgent ⟨0, 1000, 0⟩ true ⟨Journal.empty.append (ids.map leftEvent), 0⟩ 0)

/-- A stream comes up and the drain reads its batch. -/
def comesUp : List Op :=
  [.attach, .rewind, .resendSnapshots [], .resend] ++ List.replicate 4 (.drain (.ok 0))

/-- The row in hand goes out and the cursor follows. -/
def rowOut : List Op := [.drain (.ok 0), .drain (.ok 0)]

def fiveSeconds : Op := .background (.tick 5000000000)

/-- The server takes the row and acknowledges it. -/
def rowTaken : List Op := comesUp ++ rowOut ++ [fiveSeconds, .serverRecv 1 true 0, .recv]

/-- The host's inventory goes out before the row; the server has only taken the inventory. -/
def snapshotTaken : List Op :=
  comesUp ++ [.send ⟨.inventory, "inv", none, some []⟩, .call 0, .call 0] ++ rowOut ++
    [fiveSeconds, .serverRecv 1 true 0, .recv]

/-- The server refuses the first row; the refusal arrives within the batch. -/
def firstRefused : List Op :=
  comesUp ++ rowOut ++ [.serverRecv 1 false 0, .recv] ++ rowOut ++
    [fiveSeconds, .serverRecv 1 true 0, .recv]

/-- The row the server took is deleted. -/
theorem taken_row_purged :
    ∃ s s' : System, Reach (System.step fun _ => true) AckSound (leftWith ["a"]) s ∧
      s.step (fun _ => true) (.background (.purge (.ok 0))) = some s' ∧
      (1, leftEvent "a") ∈ s.agent.store.events ∧ (1, leftEvent "a") ∉ s'.agent.store.events.rows ∧
      (1, leftEvent "a") ∈ s.accepted := by
  have hrun : Reach (System.step fun _ => true) AckSound (leftWith ["a"]) _ :=
    reach_of_decide rowTaken _ (by decide)
  have hmem : (1, leftEvent "a") ∈
      (runList (System.step fun _ => true) (leftWith ["a"]) rowTaken).agent.store.events.rows := by
    decide
  have hpurge : ∃ s', (runList (System.step fun _ => true) (leftWith ["a"]) rowTaken).step
      (fun _ => true) (.background (.purge (.ok 0))) = some s' ∧
      (1, leftEvent "a") ∉ s'.agent.store.events.rows := ⟨_, rfl, by decide⟩
  obtain ⟨s', hs, hgone⟩ := hpurge
  exact ⟨_, s', hrun, hs, hmem, hgone, purged_rows_accepted hrun hs hmem hgone rfl⟩

/-- **A snapshot's number deletes a row.** The inventory is number 1 of the stream, the ack for it
    names row 1, and row 1 is behind the cursor but not yet with the server. -/
theorem snapshot_ack_purges_row :
    ∃ s s' : System, Reach (System.step fun _ => true) anyStep (leftWith ["a"]) s ∧
      s.step (fun _ => true) (.background (.purge (.ok 0))) = some s' ∧
      (1, leftEvent "a") ∈ s.agent.store.events.rows ∧
      (1, leftEvent "a") ∉ s'.agent.store.events.rows ∧ (1, leftEvent "a") ∉ s.accepted :=
  ⟨runList _ _ snapshotTaken, _, reach_of_runList _ _, rfl, by decide, by decide, by decide⟩

/-- **A row that was refused is deleted**, without any snapshot: the batch goes on over the rewind,
    and the ack for the second row covers the first. No copy of it is under way. -/
theorem refused_row_purged : ∃ s s' : System, Reach (System.step fun _ => true) anyStep (leftWith ["a", "b"]) s ∧
      s.step (fun _ => true) (.background (.purge (.ok 0))) = some s' ∧
      (1, leftEvent "a") ∈ s.agent.store.events.rows ∧
      (1, leftEvent "a") ∉ s'.agent.store.events.rows ∧ (1, leftEvent "a") ∉ s.accepted ∧
      (s.streams s.cur).toServer = [] :=
  ⟨runList _ _ firstRefused, _, reach_of_runList _ _, rfl, by decide, by decide, by decide, rfl⟩

end Maintenant.Push
