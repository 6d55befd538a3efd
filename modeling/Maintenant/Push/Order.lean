/-
  File:      Maintenant/Push/Order.lean
  Subject:   THE ORDER OF THE ROWS. `flush` takes the whole buffer, lets go of the lock and writes
             the batch; the rows are numbered in the order the batches are written.

  * `Flow.inOrder` -- rows, then the batch in hand, then the buffer: while one batch at most is in
    hand, this is the order of production with some events missing;
  * `rows_in_order` -- so the rows are in the order of production, in the runs where a flush takes
    the buffer only while no batch is in hand (`OneBatch`), whichever writes fail;
  * `later_batch_first` -- two flushes with a batch each: the later batch is written first.
-/
import Maintenant.Lib.Runs
import Maintenant.Push.Flow

namespace Maintenant.Push

open Runs

/-! ## 1. Order, place by place -/

/-- Rows, the batch in hand and the buffer follow the order of production. -/
def Stock.InOrder (start : List PendingEvent) (v : Stock) : Prop :=
  ∃ batches : List (List PendingEvent), batches.length ≤ 1 ∧ v.hand = ↑batches ∧
    (v.events.contents ++ batches.flatten ++ v.buf).Sublist (start ++ v.ledger.queued)

/-- The one batch in hand. -/
theorem batches_eq {batches : List (List PendingEvent)} {batch : List PendingEvent}
    {rest : Multiset (List PendingEvent)} (hlen : batches.length ≤ 1)
    (h : (batches : Multiset (List PendingEvent)) = batch ::ₘ rest) : batches = [batch] ∧ rest = 0 := by
  have hcard := congrArg Multiset.card h
  rw [Multiset.coe_card, Multiset.card_cons] at hcard
  have hrest : rest = 0 := Multiset.card_eq_zero.mp (by omega)
  subst hrest
  exact ⟨Multiset.coe_eq_singleton.mp h, rfl⟩

/-- **A move keeps the order**, a flush that takes the buffer beside another batch apart. -/
theorem Flow.inOrder {start : List PendingEvent} {v v' : Stock} (h : Flow v v')
    (hone : Multiset.card v'.hand ≤ Multiset.card v.hand ∨ v.hand = 0) (hv : v.InOrder start) :
    v'.InOrder start := by
  obtain ⟨batches, hlen, hhand, hsub⟩ := hv
  -- deletes leave a sublist of the rows
  have hdelete (p : Row → Bool) : ((v.events.keep p).contents ++ batches.flatten ++ v.buf).Sublist
      (start ++ v.ledger.queued) :=
    (((List.filter_sublist.map _).append_right _).append_right _).trans hsub
  cases h with
  | rests => exact ⟨batches, hlen, hhand, hsub⟩
  | queues e =>
    refine ⟨batches, hlen, hhand, ?_⟩
    show (v.events.contents ++ batches.flatten ++ (v.buf ++ [e])).Sublist
      (start ++ (v.ledger.queued ++ [e]))
    rw [← List.append_assoc, ← List.append_assoc]
    exact hsub.append_right _
  | takes =>
    have hzero : v.hand = 0 := by
      rcases hone with hcard | hzero
      · rw [Multiset.card_cons] at hcard
        omega
      · exact hzero
    have hnil : batches = [] := Multiset.coe_eq_zero _ |>.mp (hhand ▸ hzero)
    subst hnil
    refine ⟨[v.buf], Nat.le_refl _, ?_, ?_⟩
    · show v.buf ::ₘ v.hand = _
      rw [hzero]
      rfl
    · simpa using hsub
  | stores _ _ hb | putsBack _ _ hb =>
    obtain ⟨rfl, rfl⟩ := batches_eq hlen (hhand ▸ hb)
    exact ⟨[], Nat.zero_le _, rfl, by simpa using hsub⟩
  | trims dropped rest hb =>
    refine ⟨batches, hlen, hhand, ?_⟩
    rw [hb] at hsub
    exact ((List.sublist_append_right dropped rest).append_left _).trans hsub
  | purges p | expires p | evicts p => exact ⟨batches, hlen, hhand, hdelete p⟩

/-! ## 2. Whole runs -/

/-- An agent and its ledger. -/
structure Track where
  agent : Agent
  ledger : Ledger

def Track.start (a : Agent) : Track := ⟨a, .empty⟩

def Track.step (readable : List UInt8 → Bool) (t : Track) (x : Act) : Option Track :=
  (t.agent.step readable x).map fun y => ⟨y.1, t.ledger.record t.agent y.1 x⟩

/-- A flush takes the buffer only while no batch is in hand. -/
def OneBatch (t : Track) (x : Act) : Prop :=
  t.agent.Takes x → t.agent.tasks.flatMap Job.batch = []

instance (t : Track) (x : Act) : Decidable (OneBatch t x) :=
  inferInstanceAs (Decidable (t.agent.Takes x → t.agent.tasks.flatMap Job.batch = []))

/-- **The rows are in the order of production**: what they hold is what was there at the start and
    what was queued since, with some events missing, in that order. With no event queued twice, an
    event queued before another one has the smaller `seq`. -/
theorem rows_in_order {readable : List UInt8 → Bool} {cfg : SpoolConfig} {opened : Bool}
    {store : SpoolStore} {now : GoTime.Time} {t : Track}
    (h : Reach (Track.step readable) OneBatch (Track.start (newAgent cfg opened store now)) t) :
    t.agent.store.events.contents.Sublist (store.events.contents ++ t.ledger.queued) ∧
      ((store.events.contents ++ t.ledger.queued).Nodup →
        ∀ r₁ ∈ t.agent.store.events, ∀ r₂ ∈ t.agent.store.events,
          (store.events.contents ++ t.ledger.queued).idxOf r₁.2 <
            (store.events.contents ++ t.ledger.queued).idxOf r₂.2 → r₁.1 < r₂.1) := by
  have hstart : ((newAgent cfg opened store now).stock .empty).InOrder store.events.contents := by
    refine ⟨[], Nat.zero_le _, rfl, ?_⟩
    show (store.events.contents ++ [] ++ []).Sublist (store.events.contents ++ [])
    rw [List.append_nil, List.append_nil]
  have horder : (t.agent.stock t.ledger).InOrder store.events.contents := by
    refine Reach.inv (I := fun t => (t.agent.stock t.ledger).InOrder store.events.contents)
      hstart (fun s x s' hs hok hstep => ?_) h
    obtain ⟨⟨a', out⟩, hact, rfl⟩ := Option.map_eq_some_iff.mp hstep
    refine (step_flows s.ledger hact).inOrder ?_ hs
    rcases step_hand hact with hcard | htakes
    · exact Or.inl hcard
    · exact Or.inr (Multiset.coe_eq_zero _ |>.mpr (hok htakes))
  obtain ⟨batches, -, -, hsub⟩ := horder
  have hrows : t.agent.store.events.contents.Sublist (store.events.contents ++ t.ledger.queued) := by
    refine List.Sublist.trans ?_ hsub
    rw [List.append_assoc]
    exact List.sublist_append_left _ _
  exact ⟨hrows, fun hnodup r₁ h₁ r₂ h₂ hlt => Journal.number_lt_of_idxOf_lt hrows hnodup h₁ h₂ hlt⟩

/-! ## 3. Two runs -/

def firstEvent : PendingEvent := ⟨"first", 0, [1]⟩

def secondEvent : PendingEvent := ⟨"second", 0, [2]⟩

def freshTrack : Track := .start (newAgent ⟨100, 1000, 0⟩ true ⟨Journal.empty, 0⟩ 0)

/-- A first event is sent and the ticker's flush takes it; a second one is sent. -/
def batchTaken : List Act :=
  [.send firstEvent, .startFlush, .job 0 (.ok 0), .send secondEvent]

/-- The write fails, the batch goes back in front, and the drain's flush takes both. -/
def flushFails : List Act :=
  batchTaken ++ [.job 0 .failed, .drain (.ok 0), .drain (.ok 0), .drain (.ok 0)]

/-- The drain's flush takes the second event and writes it before the first one is written. -/
def flushesOverlap : List Act :=
  batchTaken ++ [.drain (.ok 0), .drain (.ok 0), .drain (.ok 0), .job 0 (.ok 0)]

/-- One batch at a time: the events are numbered in order, although the first write failed. -/
theorem failed_batch_first :
    let t := runList (Track.step fun _ => true) freshTrack flushFails
    t.agent.store.events.rows = [(1, firstEvent), (2, secondEvent)] ∧
      t.agent.store.events.contents.Sublist ([] ++ t.ledger.queued) := by
  have hrun : Reach (Track.step fun _ => true) OneBatch freshTrack _ :=
    reach_of_decide flushFails _ (by decide)
  exact ⟨by decide, (rows_in_order hrun).1⟩

/-- **The later batch is written first**: the second event gets the smaller number. -/
theorem later_batch_first :
    ∃ t : Track, Reach (Track.step fun _ => true) anyStep freshTrack t ∧
      t.agent.spool.cfg.enabled = true ∧ t.ledger.queued = [firstEvent, secondEvent] ∧
      t.agent.store.events.rows = [(1, secondEvent), (2, firstEvent)] :=
  ⟨runList (Track.step fun _ => true) freshTrack flushesOverlap, reach_of_runList _ _,
    by decide, by decide, by decide⟩

end Maintenant.Push
