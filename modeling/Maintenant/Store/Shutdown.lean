/-
  File:      Maintenant/Store/Shutdown.lean
  Subject:   THE WRITER STOPS (internal/store/writer.go: `Start`). The writer sets the flag, waits for the calls that
             got in, closes the queue and refuses what is left on it. It waits before it refuses: a call whose operation
             is on the queue at that moment, and whose context does not end, waits for the writer, and the writer for
             the call (`stopped_while_queued`).

  * `Settled` -- the flag is set only when every call that got in has its answer, or an ended context;
  * `Free` -- then whoever is inside can leave, in every state of the wait;
  * `loop_way`, `end_way`, `call_way` -- three ways for the progress rule: the loop answers an operation or ends, the
    end answers what is left, and an answered call returns;
  * `stopping_is_safe` -- the three together, with no send on the closed queue in any run.
-/
import Maintenant.Lib.Fair
import Maintenant.Store.Applied
import Mathlib.Algebra.Ring.Nat

namespace Maintenant.Writing

open GoChan Runs

variable {s s' : State}

/-! ## 1. The calls inside at the end -/

variable {m : Move} {k : Nat} {c c' : Call} {e : Engine}

/-- Inside without an answer, and the context goes on. -/
def Call.unserved (c : Call) : Bool := c.stage.inside && c.done.isNone && !c.ctxDone

/-- The writer waits for the calls that got in, and one of them waits for the answer to an operation on the queue. -/
def Deadlocked (s : State) : Prop :=
  s.phase = .wait ∧ ∃ k ∈ s.ch.buf, ∃ c, s.calls[k]? = some c ∧ c.stage = .await ∧ c.done = none ∧
    c.ctxDone = false

/-- The flag is set when nobody inside is unserved. -/
def Settled (s : State) : Move → Prop
  | .write .. => s.phase = .stop → ∀ c ∈ s.calls, c.unserved = false
  | _ => True

instance (s : State) : (m : Move) → Decidable (Settled s m)
  | .write .. => inferInstanceAs (Decidable (_ → _))
  | .submit _ | .endCall _ | .endWriter | .call .. => inferInstanceAs (Decidable True)

/-- Whoever is inside during the wait can leave. -/
def Free (s : State) : Prop := s.phase = .wait → ∀ c ∈ s.calls, c.unserved = false

theorem Free.not_deadlocked (h : Free s) : ¬ Deadlocked s := by
  intro hdead
  obtain ⟨hwait, k, _, c, hc, hstage, hdone, hctx⟩ := hdead
  have hserved := h hwait c (List.mem_of_getElem? hc)
  unfold Call.unserved at hserved
  rw [hstage, hdone, hctx] at hserved
  cases hserved

/-- With the flag set, no move makes a call unserved. -/
theorem Turned.unserved (h : Turned s m k c c') (hstopped : s.stopped = true)
    (hserved : c.unserved = false) : c'.unserved = false := by
  cases h with
  | same => exact hserved
  | ended | replied => simp [Call.unserved]
  | went _ stage _ _ hgoes =>
    have hout : stage.inside = false := by
      by_contra hin
      rw [hgoes.inside (Bool.not_eq_false _ ▸ hin)] at hstopped
      cases hstopped
    simp [Call.unserved, hout]
  | sent _ hstage =>
    unfold Call.unserved at hserved ⊢
    rw [hstage] at hserved
    exact hserved

/-- A move that is not the writer's. -/
theorem Stepped.others (h : Stepped s m s') (hm : ∀ stop e, m ≠ .write stop e) :
    s'.phase = s.phase ∧ s'.stopped = s.stopped ∧ ∃ l, s'.ch.buf = s.ch.buf ++ l := by
  cases h with
  | submitted | callEnded | writerEnded | went | sentClosed => exact ⟨rfl, rfl, [], (List.append_nil _).symm⟩
  | sent k => exact ⟨rfl, rfl, [k], rfl⟩
  | wrote stop e => exact absurd rfl (hm stop e)

theorem Stepped.others_pending (h : Stepped s m s') (hm : ∀ stop e, m ≠ .write stop e) :
    ∃ l, s'.pending = s.pending ++ l := by
  obtain ⟨hphase, _, l, hbuf⟩ := h.others hm
  refine ⟨l, ?_⟩
  unfold State.pending
  rw [hphase, hbuf, List.append_assoc]

/-- How the wait begins, and goes on. -/
theorem Stepped.waits (h : Stepped s m s') (hwait : s'.phase = .wait) :
    s.phase = .wait ∨ s.phase = .stop ∧ s'.calls = s.calls ∧ ∃ stop e, m = .write stop e := by
  by_cases hm : ∃ stop e, m = .write stop e
  · obtain ⟨stop, e, rfl⟩ := hm
    cases h with
    | wrote stop e _ hw =>
      cases hw with
      | flagged hphase => exact Or.inr ⟨hphase, rfl, stop, e, rfl⟩
      | closedTwice hphase => rw [hphase] at hwait; cases hwait
      | ran _ hphase =>
        unfold State.run at hwait
        split at hwait
        · cases hwait
        · rw [hphase] at hwait
          cases hwait
      | cancelled | took | ended | answered | waited | closed | drained | refused => cases hwait
  · exact Or.inl ((h.others fun stop e hs => hm ⟨stop, e, hs⟩).1.symm.trans hwait)

theorem Free.step (h : Free s) (hs : Sane s) (hok : Settled s m) (hstep : Stepped s m s') : Free s' := by
  intro hwait d hd
  rcases hstep.waits hwait with hwaits | ⟨hstop, hcalls, stop, e, rfl⟩
  · have hstopped : s.stopped = true := by
      rw [hs.guarded.stopped, hwaits]
      rfl
    obtain ⟨j, hj⟩ := List.mem_iff_getElem?.mp hd
    rcases hstep.before hj with ⟨c, hc, hturn⟩ | ⟨_, op, rfl⟩
    · exact hturn.unserved hstopped (h hwaits c (List.mem_of_getElem? hc))
    · rfl
  · rw [hcalls] at hd
    exact hok hstop d hd

/-! ## 2. The loop answers an operation, or ends -/

/-- Whose move it is. -/
inductive Proc where
  | writer
  | call (k : Nat)

def Move.who : Move → Option Proc
  | .call k _ => some (.call k)
  | .write .. => some .writer
  | .submit _ | .endCall _ | .endWriter => none

theorem who_writer (h : m.who ≠ some .writer) : ∀ stop e, m ≠ .write stop e := by
  intro stop e hm
  rw [hm] at h
  exact h rfl

/-- What was queued stays known. -/
theorem Stepped.queued (h : Stepped s m s') (hk : k ∈ s.queued) : k ∈ s'.queued := by
  rcases h.queues with hsame | ⟨j, c, _, _, hnew⟩
  · exact hsame ▸ hk
  · rw [hnew]
    exact List.mem_append_left _ hk

/-- The operation was put on the queue. -/
structure Queued (k : Nat) (s : State) : Prop where
  sane : Sane s
  queued : k ∈ s.queued

/-- The operation has its answer. -/
def Answered (k : Nat) (s : State) : Prop := answerOf s.calls k ≠ none

theorem Queued.pending (h : Queued k s) (hnot : ¬ Answered k s) : k ∈ s.pending := by
  refine ((h.sane.lined.known k).mp h.queued).resolve_right fun hdone => ?_
  obtain ⟨c, hc, hdone⟩ := hdone
  exact hnot (show answerOf s.calls k ≠ none by rw [answerOf_get hc]; exact hdone)

theorem Queued.step (h : Queued k s) (hstep : s.step m = some s') : Queued k s' :=
  ⟨h.sane.step hstep, (stepped hstep).queued h.queued⟩

/-- The place of an operation that is pending. -/
def State.place (s : State) (k : Nat) : Nat := s.pending.idxOf k

/-- New operations come after it. -/
theorem place_others (hstep : Stepped s m s') (hm : m.who ≠ some .writer) (hk : k ∈ s.pending) :
    s'.place k = s.place k := by
  obtain ⟨l, hl⟩ := hstep.others_pending (who_writer hm)
  unfold State.place
  rw [hl, List.idxOf_append_of_mem hk]

/-- The operation in front is answered. -/
theorem place_reply {j : Nat} (hs : Sane s) (hhand : s.phase.hand = some j) (k : Nat) (res : WriteResult) (p : Phase)
    (hp : p.hand = none) :
    Answered k { s.reply j res with phase := p } ∨
      s.place k = State.place { s.reply j res with phase := p } k + 1 := by
  by_cases hjk : k = j
  · refine Or.inl ?_
    show answerOf (s.reply j res).calls k ≠ none
    rw [hs.answerOf_reply hhand, if_pos hjk]
    exact Option.some_ne_none res
  · refine Or.inr ?_
    have hpending : s.pending = j :: s.ch.buf := by
      unfold State.pending
      rw [hhand]
      rfl
    have hpending' : State.pending { s.reply j res with phase := p } = s.ch.buf := by
      show p.hand.toList ++ (s.reply j res).ch.buf = _
      rw [hp, reply_ch]
      rfl
    unfold State.place
    rw [hpending, hpending', List.idxOf_cons_ne _ (Ne.symm hjk)]

/-- The writer takes an operation, runs the one it has, or goes on to its end. -/
theorem place_writes (hw : Writes s e s')
    (hhand : s.phase.hand = none ∨ s'.phase.hand = s.phase.hand) : s'.place k = s.place k := by
  rcases hw.answers with ⟨hpending, -, -⟩ | ⟨_, _, _, hj, hp, rfl⟩
  · unfold State.place
    rw [hpending]
  · rw [hj] at hhand
    rcases hhand with h | h
    · cases h
    · exact nomatch hp.symm.trans h

/-- The way to the answer through the loop. -/
def loopRank (k : Nat) (s : State) : Nat :=
  match s.phase with
  | .select => 3 * s.place k + 2
  | .run _ => 3 * s.place k + 1
  | .answer .. => 3 * s.place k
  | _ => 0

/-- In the loop, every action of the writer brings an operation nearer to its answer. -/
theorem loop_writes (hs : Sane s) (hw : Writes s e s') (hloop : s.phase.stopping = false) :
    Answered k s' ∨ s'.phase.stopping = true ∨ loopRank k s' < loopRank k s := by
  have hplace := place_writes (k := k) hw
  cases hw with
  | cancelled hphase =>
    refine Or.inr (Or.inr ?_)
    unfold loopRank
    rw [hphase]
    exact Nat.succ_pos _
  | took _ _ hphase =>
    have hsame := hplace (Or.inl (by rw [hphase]; rfl))
    refine Or.inr (Or.inr ?_)
    unfold loopRank
    rw [hphase, hsame]
    exact Nat.lt_succ_self _
  | ran j hphase =>
    obtain ⟨_, c, hc, _⟩ := hs.hand (by rw [hphase]; rfl)
    have hnext : (s.run j e).phase = .answer j (execute e c.op) := by
      unfold State.run
      rw [hc]
    have hsame := hplace (Or.inr (by rw [hnext, hphase]; rfl))
    refine Or.inr (Or.inr ?_)
    unfold loopRank
    rw [hphase, hnext, hsame]
    exact Nat.lt_succ_self _
  | answered j res hphase =>
    rcases place_reply hs (by rw [hphase]; rfl) k res .select rfl with hanswered | hfirst
    · exact Or.inl hanswered
    · refine Or.inr (Or.inr ?_)
      unfold loopRank
      rw [hphase]
      dsimp only at hfirst ⊢
      omega
  | flagged => exact Or.inr (Or.inl rfl)
  | ended _ _ hclosed =>
    rw [hs.guarded.closed] at hclosed
    rw [stopping_of_waited (closed_waited hclosed)] at hloop
    cases hloop
  | waited hphase | closedTwice hphase | closed hphase | drained _ _ hphase | refused _ hphase =>
    rw [hphase] at hloop
    cases hloop

theorem Sane.canWrite (hs : Sane s) (h : ∃ s', s.writeStep false willing = some s') :
    CanMove State.step Move.who Proc.writer s := by
  obtain ⟨s', hs'⟩ := h
  refine ⟨.write false willing, s', rfl, ?_⟩
  simp only [State.step, hs.guarded.calm, Bool.false_eq_true, if_false]
  exact hs'

theorem Sane.canCall (hs : Sane s) (hc : s.calls[k]? = some c) (giveUp : Bool)
    (h : ∃ s', s.callStep k c giveUp = some s') : CanMove State.step Move.who (.call k) s := by
  obtain ⟨s', hs'⟩ := h
  refine ⟨.call k giveUp, s', rfl, ?_⟩
  simp only [State.step, hs.guarded.calm, Bool.false_eq_true, if_false, hc]
  exact hs'

/-- The writer can go on as long as there is something for it to do. -/
theorem loop_canMove (hs : Sane s) (hk : k ∈ s.pending) (hloop : s.phase.stopping = false) :
    CanMove State.step Move.who Proc.writer s := by
  refine hs.canWrite ?_
  unfold State.writeStep
  cases hphase : s.phase with
  | select =>
    unfold State.pending at hk
    rw [hphase] at hk
    obtain ⟨j, rest, hbuf⟩ : ∃ j rest, s.ch.buf = j :: rest := List.exists_cons_of_ne_nil (List.ne_nil_of_mem hk)
    rw [hbuf]
    exact ⟨_, rfl⟩
  | run | answer | stop => exact ⟨_, rfl⟩
  | wait | close | drain | refuse | returned =>
    rw [hphase] at hloop
    cases hloop

/-- **The loop answers an operation, or ends.** -/
theorem loop_way (k : Nat) :
    Path.Way State.step Settled Move.who (Queued k) (fun s => Answered k s ∨ s.phase.stopping = true) (loopRank k)
      (fun p _ => p = Proc.writer) := by
  refine ⟨fun s _ _ => ⟨.writer, rfl⟩, fun p s h hgoal hp => ?_, fun s m s' h hgoal _ hstep => ?_⟩
  · obtain ⟨hnot, hloop⟩ := not_or.mp hgoal
    rw [hp]
    exact loop_canMove h.sane (h.pending hnot) (Bool.eq_false_iff.mpr hloop)
  · obtain ⟨hnot, hloop⟩ := not_or.mp hgoal
    by_cases hm : m.who = some .writer
    · cases stepped hstep with
      | submitted | callEnded | writerEnded | went | sent | sentClosed => cases hm
      | wrote _ _ _ hw =>
        rcases loop_writes h.sane hw (Bool.eq_false_iff.mpr hloop) with hanswered | hstopping | hlower
        · exact Or.inl (Or.inl hanswered)
        · exact Or.inl (Or.inr hstopping)
        · exact Or.inr ⟨h.step hstep, Or.inl hlower⟩
    · refine Or.inr ⟨h.step hstep, Or.inr ⟨?_, fun p hp => ⟨hp ▸ hm, hp⟩⟩⟩
      unfold loopRank
      rw [((stepped hstep).others (who_writer hm)).1, place_others (stepped hstep) hm (h.pending hnot)]

/-! ## 3. The end answers what is left -/

/-- The actions a call has still to make, once the flag is set. -/
def Stage.weight : Stage → Nat
  | .add => 5
  | .recheck => 4
  | .offer => 3
  | .await => 2
  | .undo | .leave .. => 1
  | .check | .returned .. => 0

def weights (calls : List Call) : Nat := (calls.map fun c => c.stage.weight).sum

theorem weights_set {calls : List Call} (c' : Call) (hc : calls[k]? = some c) :
    weights (calls.set k c') + c.stage.weight = weights calls + c'.stage.weight := by
  induction calls generalizing k with
  | nil => cases hc
  | cons _ _ ih =>
    cases k with
    | zero =>
      cases hc
      simp only [weights, List.set_cons_zero, List.map_cons, List.sum_cons]
      omega
    | succ =>
      have hrest := ih hc
      simp only [weights, List.set_cons_succ, List.map_cons, List.sum_cons] at hrest ⊢
      omega

/-- A call that goes on when the flag is set: it has one action less to make, or it was not let in. -/
theorem Goes.weight {giveUp : Bool} {stage : Stage} {wg : Nat} (h : Goes s c giveUp stage wg)
    (hstopped : s.stopped = true) :
    stage.weight < c.stage.weight ∨ stage.weight = c.stage.weight ∧ wg = s.wg ∧ c.stage = .check := by
  cases h with
  | refused hstage =>
    rw [hstage]
    exact Or.inr ⟨rfl, rfl, rfl⟩
  | admitted _ hrunning | entered _ hrunning =>
    rw [hstopped] at hrunning
    cases hrunning
  | counted hstage | late hstage | undone hstage | received _ hstage | left _ _ hstage =>
    rw [hstage]
    exact Or.inl (by simp [Stage.weight])
  | gaveUp _ hstage =>
    refine Or.inl ?_
    rcases inside_cases hstage with hst | hst <;> (rw [hst]; decide)

/-- A call the wait group counts. -/
def Counted (s : State) (j : Nat) : Prop := ∃ c, s.calls[j]? = some c ∧ c.stage.counted = true

/-- The moves of the others during the wait: one has less to do, or everyone counted still is. -/
theorem wait_others (hstopped : s.stopped = true) (hm : m.who ≠ some .writer)
    (hstep : Stepped s m s') (hcalm : s'.panicked = false) : weights s'.calls < weights s.calls ∨
      weights s'.calls = weights s.calls ∧ s'.wg = s.wg ∧ ∀ j, Counted s j → m.who ≠ some (.call j) ∧
      Counted s' j := by
  have hkeep : ∀ {k : Nat} {c c' : Call}, s.calls[k]? = some c → s'.calls = s.calls.set k c' →
      c'.stage.weight = c.stage.weight → (c.stage.counted = true → c'.stage.counted = true) →
      weights s'.calls = weights s.calls ∧ ∀ j, Counted s j → Counted s' j := by
    intro k c c' hc hcalls hweight hcounted
    have hsum := weights_set c' hc
    rw [hcalls]
    refine ⟨by omega, fun j hj => ?_⟩
    obtain ⟨d, hd, hdc⟩ := hj
    unfold Counted
    rw [hcalls, get_set hc]
    split
    · next hjk =>
      rw [hjk, hc] at hd
      cases hd
      exact ⟨c', rfl, hcounted hdc⟩
    · exact ⟨d, hd, hdc⟩
  cases hstep with
  | submitted =>
    refine Or.inr ⟨?_, rfl, fun j hj => ⟨by simp [Move.who], ?_⟩⟩
    · simp [weights, Stage.weight]
    · obtain ⟨d, hd, hdc⟩ := hj
      exact ⟨d, get_concat.mpr (Or.inl hd), hdc⟩
  | callEnded _ _ hc =>
    obtain ⟨hsum, hcounted⟩ := hkeep hc rfl rfl id
    exact Or.inr ⟨hsum, rfl, fun j hj => ⟨by simp [Move.who], hcounted j hj⟩⟩
  | writerEnded => exact Or.inr ⟨rfl, rfl, fun j hj => ⟨by simp [Move.who], hj⟩⟩
  | went k c _ stage _ hc hgoes =>
    rcases hgoes.weight hstopped with hless | ⟨hsame, hwg, hcheck⟩
    · have hsum := weights_set { c with stage := stage } hc
      refine Or.inl ?_
      show weights (s.calls.set k { c with stage := stage }) < _
      dsimp only at hsum
      omega
    · have hout : c.stage.counted = false := by
        rw [hcheck]
        rfl
      obtain ⟨hsum, hcounted⟩ := hkeep hc rfl hsame fun hc => by rw [hout] at hc; cases hc
      refine Or.inr ⟨hsum, hwg, fun j hj => ⟨fun hjk => ?_, hcounted j hj⟩⟩
      cases hjk
      obtain ⟨d, hd, hdc⟩ := hj
      rw [hc] at hd
      cases hd
      rw [hout] at hdc
      cases hdc
  | sent k c hc hstage =>
    have hsum := weights_set { c with stage := .await } hc
    rw [hstage] at hsum
    refine Or.inl ?_
    show weights (s.calls.set k { c with stage := .await }) < _
    simp only [Stage.weight] at hsum
    omega
  | sentClosed => cases hcalm
  | wrote => exact absurd rfl hm

/-- The writer does not return before the queue is empty. -/
def Emptied (s : State) : Prop := s.phase = .returned → s.ch.buf = []

theorem Emptied.step (h : Emptied s) (hs : Sane s) (hstep : Stepped s m s') : Emptied s' := by
  intro hret
  cases hstep with
  | submitted | callEnded | writerEnded | went | sentClosed => exact h hret
  | sent _ _ _ _ hopen =>
    -- nothing is sent on the closed queue
    have hphase : s.phase = .returned := hret
    rw [hs.guarded.closed, hphase] at hopen
    cases hopen
  | wrote _ _ _ hw =>
    cases hw with
    | ended _ hbuf => exact hbuf
    | ran _ hphase =>
      unfold State.run at hret
      split at hret
      · cases hret
      · rw [hphase] at hret
        cases hret
    | closedTwice hphase =>
      rw [hphase] at hret
      cases hret
    | cancelled | took | answered | flagged | waited | closed | drained | refused => cases hret

/-- The writer is past its loop. -/
structure Ending (k : Nat) (s : State) : Prop where
  queued : Queued k s
  stopping : s.phase.stopping = true
  free : Free s
  empty : Emptied s

/-- The way to the answer through the end. -/
def endRank (k : Nat) (s : State) : Nat :=
  match s.phase with
  | .wait => weights s.calls + 2 * s.place k + 3
  | .close => 2 * s.place k + 2
  | .drain => 2 * s.place k + 1
  | .refuse _ => 2 * s.place k
  | _ => 0

/-- The writer, except while it waits for somebody; then everyone it waits for. -/
def EndHelps (p : Proc) (s : State) : Prop :=
  match p with
  | .writer => s.phase ≠ .wait ∨ s.wg = 0
  | .call j => s.phase = .wait ∧ Counted s j

theorem end_helper (hs : Sane s) : ∃ p, EndHelps p s := by
  by_cases hwait : s.phase = .wait ∧ s.wg ≠ 0
  · obtain ⟨hphase, hwg⟩ := hwait
    obtain ⟨c, hc, hcounted⟩ := List.countP_pos_iff.mp (Nat.pos_of_ne_zero (hs.guarded.wg ▸ hwg))
    obtain ⟨j, hj⟩ := List.mem_iff_getElem?.mp hc
    exact ⟨.call j, hphase, c, hj, hcounted⟩
  · refine ⟨.writer, ?_⟩
    by_cases hphase : s.phase = .wait
    · exact Or.inr (by_contra fun hwg => hwait ⟨hphase, hwg⟩)
    · exact Or.inl hphase

/-- A call that is counted during the wait can go on. -/
theorem counted_canMove {j : Nat} (hs : Sane s) (hfree : Free s) (hwait : s.phase = .wait) (hj : Counted s j) :
    CanMove State.step Move.who (.call j) s := by
  obtain ⟨c, hc, hcounted⟩ := hj
  have hserved := hfree hwait c (List.mem_of_getElem? hc)
  -- without an answer its context has ended
  have hgive : c.stage.inside = true → c.done = none → CanMove State.step Move.who (.call j) s := by
    intro hin hnone
    have hctx : c.ctxDone = true := by simpa [Call.unserved, hin, hnone] using hserved
    refine hs.canCall hc true ?_
    unfold State.callStep
    rcases inside_cases hin with hstage | hstage <;> simp [hstage, hctx]
  cases hstage : c.stage with
  | check | add | returned =>
    rw [hstage] at hcounted
    cases hcounted
  | recheck | undo | leave =>
    refine hs.canCall hc false ?_
    unfold State.callStep
    rw [hstage]
    exact ⟨_, rfl⟩
  | offer =>
    refine hgive (by rw [hstage]; rfl) ?_
    by_contra hdone
    exact hs.lined.early j c hc (by rw [hstage]; rfl) ((hs.lined.known j).mpr (Or.inr ⟨c, hc, hdone⟩))
  | await =>
    cases hdone : c.done with
    | some =>
      refine hs.canCall hc false ?_
      unfold State.callStep
      rw [hstage]
      simp only [Bool.false_eq_true, if_false, hdone]
      exact ⟨_, rfl⟩
    | none => exact hgive (by rw [hstage]; rfl) hdone

theorem end_canMove {p : Proc} (h : Ending k s) (hk : k ∈ s.pending) (hp : EndHelps p s) :
    CanMove State.step Move.who p s := by
  have hs := h.queued.sane
  cases p with
  | call => exact counted_canMove hs h.free hp.1 hp.2
  | writer =>
    have hstopping := h.stopping
    have hclosed := hs.guarded.closed
    refine hs.canWrite ?_
    unfold State.writeStep
    unfold State.pending at hk
    cases hphase : s.phase with
    | select | run | answer | stop =>
      rw [hphase] at hstopping
      cases hstopping
    | wait =>
      have hwg : s.wg = 0 := hp.resolve_left fun hne => hne hphase
      exact ⟨_, if_pos hwg⟩
    | close =>
      rw [hphase] at hclosed
      rw [hclosed]
      exact ⟨_, rfl⟩
    | drain =>
      rw [hphase] at hk
      obtain ⟨j, rest, hbuf⟩ :
        ∃ j rest, s.ch.buf = j :: rest := List.exists_cons_of_ne_nil (List.ne_nil_of_mem hk)
      rw [hbuf]
      exact ⟨_, rfl⟩
    | refuse => exact ⟨_, rfl⟩
    | returned =>
      rw [hphase, h.empty hphase] at hk
      cases hk

/-- At the end, every action of the writer brings an operation nearer to its answer. -/
theorem end_writes (h : Ending k s) (hk : k ∈ s.pending) (hw : Writes s e s') :
    Answered k s' ∨ s'.phase.stopping = true ∧ endRank k s' < endRank k s := by
  have hs := h.queued.sane
  have hstopping := h.stopping
  have hplace := place_writes (k := k) hw
  cases hw with
  | cancelled hphase | took _ _ hphase | ran _ hphase | answered _ _ hphase | flagged hphase =>
    rw [hphase] at hstopping
    cases hstopping
  | ended hphase hbuf =>
    -- the operation is still on the queue
    unfold State.pending at hk
    rcases hphase with hphase | hphase <;> (rw [hphase, hbuf] at hk; cases hk)
  | closedTwice hphase hclosed =>
    rw [hs.guarded.closed, hphase] at hclosed
    cases hclosed
  | waited hphase | closed hphase | drained _ _ hphase =>
    have hsame := hplace (Or.inl (by rw [hphase]; rfl))
    refine Or.inr ⟨rfl, ?_⟩
    unfold endRank
    rw [hphase, hsame]
    dsimp only
    omega
  | refused j hphase =>
    rcases place_reply hs (by rw [hphase]; rfl) k ⟨0, some .writerDone⟩ .drain rfl with hanswered | hfirst
    · exact Or.inl hanswered
    · refine Or.inr ⟨rfl, ?_⟩
      unfold endRank
      rw [hphase]
      dsimp only at hfirst ⊢
      omega

/-- **The end answers what is left.** -/
theorem end_way (k : Nat) : Path.Way State.step Settled Move.who (Ending k) (Answered k) (endRank k) EndHelps := by
  refine ⟨fun s h _ => end_helper h.queued.sane, fun p s h hnot hp => end_canMove h (h.queued.pending hnot) hp,
    fun s m s' h hnot hok hstep => ?_⟩
  have hk := h.queued.pending hnot
  have hst := stepped hstep
  have hnext : s'.phase.stopping = true → Ending k s' := fun hstopping =>
    ⟨h.queued.step hstep, hstopping, h.free.step h.queued.sane hok hst, h.empty.step h.queued.sane hst⟩
  by_cases hm : m.who = some .writer
  · cases hst with
    | submitted | callEnded | writerEnded | went | sent | sentClosed => cases hm
    | wrote _ _ _ hw =>
      rcases end_writes h hk hw with hanswered | ⟨hstopping, hlower⟩
      · exact Or.inl hanswered
      · exact Or.inr ⟨hnext hstopping, Or.inl hlower⟩
  · have hplace := place_others hst hm hk
    have hphase := (hst.others (who_writer hm)).1
    have hending := hnext (hphase ▸ h.stopping)
    refine Or.inr ⟨hending, ?_⟩
    by_cases hwait : s.phase = .wait
    · have hstopped : s.stopped = true := by
        rw [h.queued.sane.guarded.stopped, hwait]
        rfl
      have hrank : ∀ t : State, t.phase = .wait → endRank k t = weights t.calls + 2 * t.place k + 3 := by
        intro t ht
        unfold endRank
        rw [ht]
      rw [hrank s hwait, hrank s' (hphase.trans hwait), hplace]
      rcases wait_others hstopped hm hst hending.queued.sane.guarded.calm with hless | ⟨hsame, hwg, hcounted⟩
      · exact Or.inl (by omega)
      · refine Or.inr ⟨by rw [hsame], fun p hp => ?_⟩
        cases p with
        | writer => exact ⟨hm, Or.inr (hwg.trans (hp.resolve_left fun hne => hne hwait))⟩
        | call j => exact ⟨(hcounted j hp.2).1, hphase.trans hwait, (hcounted j hp.2).2⟩
    · refine Or.inr ⟨?_, fun p hp => ?_⟩
      · unfold endRank
        rw [hphase, hplace]
        split <;> first | rfl | exact absurd ‹s.phase = .wait› hwait
      · cases p with
        | writer => exact ⟨hm, Or.inl (hphase ▸ hwait)⟩
        | call => exact absurd hp.1 hwait

/-! ## 4. A call that is answered returns -/

/-- The operation has its answer. -/
structure Served (k : Nat) (s : State) : Prop where
  queued : Queued k s
  answered : Answered k s

/-- The call has returned. -/
def Back (k : Nat) (s : State) : Prop := ∃ c res err, s.calls[k]? = some c ∧ c.stage = .returned res err

def callRank (k : Nat) (s : State) : Nat := (s.calls[k]?).elim 0 fun c => c.stage.weight

theorem callRank_get (hc : s.calls[k]? = some c) : callRank k s = c.stage.weight := by
  unfold callRank
  rw [hc]
  rfl

/-- A call that has its answer waits for it, leaves, or is back. -/
theorem Served.call (h : Served k s) : ∃ c, s.calls[k]? = some c ∧ c.stage.early = false ∧ c.done ≠ none := by
  obtain ⟨c, hc⟩ := h.queued.sane.lined.lt h.queued.queued
  refine ⟨c, hc, ?_, fun hnone => h.answered ((answerOf_get hc).trans hnone)⟩
  by_contra hearly
  exact h.queued.sane.lined.early k c hc (Bool.not_eq_false _ ▸ hearly) h.queued.queued

theorem Turned.done (h : Turned s m k c c') (hdone : c.done ≠ none) : c'.done ≠ none := by
  cases h with
  | same | ended | went | sent => exact hdone
  | replied => exact Option.some_ne_none _

/-- Only its own move takes a call further. -/
theorem Turned.stage (h : Turned s m k c c') (hm : m.who ≠ some (.call k)) : c'.stage = c.stage := by
  cases h with
  | same | ended | replied => rfl
  | went _ _ _ hcall | sent hcall =>
    rw [hcall] at hm
    exact absurd rfl hm

theorem Served.step (h : Served k s) (hstep : s.step m = some s') : Served k s' := by
  refine ⟨h.queued.step hstep, ?_⟩
  obtain ⟨c, hc, -, hdone⟩ := h.call
  obtain ⟨c', hc', hturn⟩ := (stepped hstep).after hc
  unfold Answered
  rw [answerOf_get hc']
  exact hturn.done hdone

theorem call_canMove (h : Served k s) (hback : ¬ Back k s) : CanMove State.step Move.who (.call k) s := by
  obtain ⟨c, hc, hlate, hdone⟩ := h.call
  refine h.queued.sane.canCall hc false ?_
  unfold State.callStep
  cases hstage : c.stage with
  | check | add | recheck | undo | offer =>
    rw [hstage] at hlate
    cases hlate
  | await =>
    obtain ⟨res, hres⟩ := Option.ne_none_iff_exists'.mp hdone
    simp only [Bool.false_eq_true, if_false, hres]
    exact ⟨_, rfl⟩
  | leave => exact ⟨_, rfl⟩
  | returned res err => exact absurd ⟨c, res, err, hc, hstage⟩ hback

/-- The call's own move takes it nearer to its return. -/
theorem call_moves (h : Served k s) (hm : m.who = some (.call k)) (hstep : s.step m = some s') :
    callRank k s' < callRank k s := by
  obtain ⟨c, hc, hlate, -⟩ := h.call
  have hcalm := (h.step hstep).queued.sane.guarded.calm
  rw [callRank_get hc]
  cases stepped hstep with
  | submitted | callEnded | writerEnded | wrote => cases hm
  | sentClosed => cases hcalm
  | sent _ _ hd hstage =>
    cases hm
    rw [hc] at hd
    cases hd
    rw [hstage] at hlate
    cases hlate
  | went _ _ _ stage _ hd hgoes =>
    cases hm
    rw [hc] at hd
    cases hd
    have hnext : (s.calls.set k { c with stage := stage })[k]? = some { c with stage := stage } := by
      rw [get_set hc, if_pos rfl]
    rw [callRank_get hnext]
    cases hgoes with
    | refused hstage | admitted hstage | counted hstage | late hstage | entered hstage | undone hstage =>
      rw [hstage] at hlate
      cases hlate
    | received _ hstage | left _ _ hstage =>
      rw [hstage]
      simp [Stage.weight]
    | gaveUp _ hstage => rcases inside_cases hstage with hst | hst <;> (rw [hst]; simp [Stage.weight])

/-- **A call that is answered returns.** -/
theorem call_way (k : Nat) :
    Path.Way State.step Settled Move.who (Served k) (Back k) (callRank k) (fun p _ => p = Proc.call k) := by
  refine ⟨fun s _ _ => ⟨.call k, rfl⟩, fun p s h hback hp => ?_, fun s m s' h _ _ hstep =>
    Or.inr ⟨h.step hstep, ?_⟩⟩
  · rw [hp]
    exact call_canMove h hback
  · by_cases hm : m.who = some (.call k)
    · exact Or.inl (call_moves h hm hstep)
    · refine Or.inr ⟨?_, fun p hp => ⟨hp ▸ hm, hp⟩⟩
      obtain ⟨c, hc, -⟩ := h.call
      obtain ⟨c', hc', hturn⟩ := (stepped hstep).after hc
      rw [callRank_get hc, callRank_get hc', hturn.stage hm]

/-! ## 5. What a call returns -/

/-- The call leaves with this. -/
def Stage.leaves (res : WriteResult) (err : Option WriteError) : Stage → Prop
  | .leave r e | .returned r e => r = res ∧ e = err
  | _ => False

/-- A call whose operation was queued returns what it was answered, or its context has ended. -/
def Fetched (s : State) : Prop :=
  ∀ (k : Nat) c res err, s.calls[k]? = some c → k ∈ s.queued → c.stage.leaves res err →
    c.done = some res ∧ err = res.err ∨ c.ctxDone = true

/-- Who is queued was queued before, or offered its operation. -/
theorem Stepped.queued_before (h : Stepped s m s') (hk : k ∈ s'.queued) :
    k ∈ s.queued ∨ ∃ c, s.calls[k]? = some c ∧ c.stage = .offer := by
  rcases h.queues with hsame | ⟨j, c, hc, hstage, hnew⟩
  · exact Or.inl (hsame ▸ hk)
  · rw [hnew] at hk
    rcases List.mem_append.mp hk with hk | hk
    · exact Or.inl hk
    · rw [List.mem_singleton.mp hk]
      exact Or.inr ⟨c, hc, hstage⟩

theorem Fetched.step (h : Fetched s) (hs : Sane s) (hstep : Stepped s m s') : Fetched s' := by
  intro k d res err hd hk hleaves
  rcases hstep.before hd with ⟨c, hc, hturn⟩ | ⟨_, op, rfl⟩
  · have hqueued : c.stage.leaves res err → k ∈ s.queued := by
      intro hl
      refine (hstep.queued_before hk).resolve_right fun hoffer => ?_
      obtain ⟨c', hc', hstage⟩ := hoffer
      rw [hc] at hc'
      cases hc'
      rw [hstage] at hl
      exact hl
    cases hturn with
    | same => exact h k _ res err hc (hqueued hleaves) hleaves
    | ended => exact Or.inr rfl
    | sent => exact absurd hleaves id
    | replied _ hhand =>
      -- it had no answer so far
      obtain ⟨_, c', hc', hnone⟩ := hs.hand hhand
      rw [hc] at hc'
      cases hc'
      rcases h k c res err hc (hqueued hleaves) hleaves with ⟨hdone, _⟩ | hctx
      · rw [hnone] at hdone
        cases hdone
      · exact Or.inr hctx
    | went _ _ _ _ hgoes =>
      cases hgoes with
      | admitted | counted | late | entered => exact absurd hleaves id
      | refused hstage | undone hstage =>
        rcases hstep.queued_before hk with hk | ⟨c', hc', hoffer⟩
        · exact absurd hk (hs.lined.early k c hc (by rw [hstage]; rfl))
        · rw [hc] at hc'
          cases hc'
          rw [hstage] at hoffer
          cases hoffer
      | gaveUp _ _ hctx => exact Or.inr hctx
      | received _ _ hdone =>
        obtain ⟨rfl, rfl⟩ := hleaves
        exact Or.inl ⟨hdone, rfl⟩
      | left _ _ hstage =>
        have hl : c.stage.leaves res err := by
          rw [hstage]
          exact hleaves
        exact h k c res err hc (hqueued hl) hl
  · exact absurd hleaves id

/-! ## 6. The result -/

/-- What holds in every state, when the flag is set with everyone served. -/
structure Steady (s : State) : Prop where
  sane : Sane s
  free : Free s
  empty : Emptied s
  fetched : Fetched s

theorem steady_of_reach (h : Reach State.step Settled .init s) : Steady s := by
  refine h.inv ⟨sane_init, fun hp => (by cases hp), fun hp => (by cases hp), fun k c res err hc => (by cases hc)⟩ ?_
  intro s m s' hs hok hstep
  have hst := stepped hstep
  exact ⟨hs.sane.step hstep, hs.free.step hs.sane hok hst, hs.empty.step hs.sane hst, hs.fetched.step hs.sane hst⟩

/-- The operation is answered, and its call is back with the answer, or its context has ended. -/
def Delivered (k : Nat) (s : State) : Prop :=
  ∃ c answer res err, s.calls[k]? = some c ∧ c.done = some answer ∧ c.stage = .returned res err ∧
    (res = answer ∧ err = answer.err ∨ c.ctxDone = true)

theorem Steady.delivered (h : Steady s) (hanswered : Answered k s) (hqueued : k ∈ s.queued) (hback : Back k s) :
    Delivered k s := by
  obtain ⟨c, res, err, hc, hstage⟩ := hback
  unfold Answered at hanswered
  rw [answerOf_get hc] at hanswered
  obtain ⟨answer, hanswer⟩ := Option.ne_none_iff_exists'.mp hanswered
  refine ⟨c, answer, res, err, hc, hanswer, hstage, ?_⟩
  have hleaves : c.stage.leaves res err := by
    rw [hstage]
    exact ⟨rfl, rfl⟩
  rcases h.fetched k c res err hc hqueued hleaves with ⟨hdone, herr⟩ | hctx
  · rw [hanswer] at hdone
    cases hdone
    exact Or.inl ⟨rfl, herr⟩
  · exact Or.inr hctx

/-- **Stopping the writer:** in no run is a value sent on the closed queue. When the flag is set with everyone served,
    no state is reached in which the writer and a call wait for each other, and in a fair run every operation that was
    queued is answered and its call returns. -/
theorem stopping_is_safe (s t : State) (P : Path State.step Settled) (hs : Reach State.step anyStep .init s)
    (ht : Reach State.step Settled .init t) (hinit : P.state 0 = .init) (hfair : P.Fair Move.who) :
    s.panicked = false ∧ ¬ Deadlocked t ∧ ∀ n k, k ∈ (P.state n).queued → ∃ m, n ≤ m ∧
    Delivered k (P.state m) := by
  refine ⟨(sane_of_reach hs).guarded.calm, (steady_of_reach ht).free.not_deadlocked, fun n k hk => ?_⟩
  have hsteady : ∀ m, Steady (P.state m) := fun m => steady_of_reach (hinit ▸ P.reach m)
  have hqueued : Queued k (P.state n) := ⟨(hsteady n).sane, hk⟩
  obtain ⟨m₁, hm₁, hserved⟩ : ∃ m, n ≤ m ∧ Served k (P.state m) := by
    have hkeep : ∀ {i j}, i ≤ j → Queued k (P.state i) → Queued k (P.state j) := fun hij hi =>
      P.keeps (fun _ _ _ h _ hstep => h.step hstep) hij hi
    obtain ⟨m, hm, hanswered | hstopping⟩ := P.leadsTo hfair (loop_way k) hqueued
    · exact ⟨m, hm, hkeep hm hqueued, hanswered⟩
    · -- the loop has ended before the answer
      have hending : Ending k (P.state m) := ⟨hkeep hm hqueued, hstopping, (hsteady m).free, (hsteady m).empty⟩
      obtain ⟨m', hm', hanswered⟩ := P.leadsTo hfair (end_way k) hending
      exact ⟨m', Nat.le_trans hm hm', hkeep hm' hending.queued, hanswered⟩
  obtain ⟨m₂, hm₂, hback⟩ := P.leadsTo hfair (call_way k) hserved
  have hstill : Served k (P.state m₂) := P.keeps (fun _ _ _ h _ hstep => h.step hstep) hm₂ hserved
  exact ⟨m₂, Nat.le_trans hm₁ hm₂, (hsteady m₂).delivered hstill.answered hstill.queued.queued hback⟩

/-- A call puts its operation on the queue. -/
def puts : List Move := [.submit (.query "DELETE"), .call 0 false, .call 0 false, .call 0 false, .call 0 false]

/-- The context of the writer ends, and the writer sets the flag. -/
def stops : List Move := [.endWriter, .write true willing, .write false willing]

/-- Neither the writer nor the only call can move. -/
theorem nobody_moves (hcalls : s.calls = [c]) (hwrite : ∀ stop e, s.step (.write stop e) = none)
    (hcall : ∀ giveUp, s.step (.call 0 giveUp) = none) (p : Proc) : ¬ CanMove State.step Move.who p s := by
  intro hcan
  obtain ⟨m, s', hm, hs'⟩ := hcan
  cases m with
  | submit | endCall | endWriter => cases hm
  | write =>
    rw [hwrite] at hs'
    cases hs'
  | call k =>
    cases k with
    | zero =>
      rw [hcall] at hs'
      cases hs'
    | succ =>
      simp only [State.step, hcalls, List.getElem?_cons_succ, List.getElem?_nil, ite_self] at hs'
      cases hs'

/-- The writer stops while the operation is on the queue: from then on nobody can move. -/
theorem stopped_while_queued :
    Reach State.step anyStep .init (runList State.step .init (puts ++ stops)) ∧
    Deadlocked (runList State.step .init (puts ++ stops)) ∧
    ∀ p, ¬ CanMove State.step Move.who p (runList State.step .init (puts ++ stops)) := by
  refine ⟨reach_of_runList _ _, ⟨by decide, 0, by decide, ⟨.query "DELETE", false, .await, none⟩, by decide⟩,
    ?_⟩
  exact nobody_moves rfl (fun _ _ => rfl) (by decide)

/-- The call takes its answer and returns; then the writer stops, and returns as well. -/
def servesThenStops : List Move :=
  puts ++ [.write false willing, .write false willing, .write false willing, .call 0 false, .call 0 false] ++ stops ++
    List.replicate 3 (.write false willing)

def servingPath : Path State.step Settled :=
  .ofList (fun s m => decide (Settled s m)) (fun _ _ => of_decide_eq_true) .init servesThenStops (by decide)

theorem served_then_stopped :
    (runList State.step .init (puts ++ stops)).panicked = false ∧ ¬ Deadlocked (servingPath.state 16) ∧
      (servingPath.state 16).phase = .returned ∧ 0 ∈ (servingPath.state 5).queued ∧
      ∃ m, 5 ≤ m ∧ Delivered 0 (servingPath.state m) := by
  have hqueued : 0 ∈ (servingPath.state 5).queued := by decide
  have hend : ∀ p, ¬ CanMove State.step Move.who p (runList State.step .init servesThenStops) :=
    nobody_moves rfl (fun _ _ => rfl) (by decide)
  obtain ⟨hcalm, hfree, hdelivered⟩ :=
    stopping_is_safe _ _ servingPath (reach_of_runList (puts ++ stops) State.init)
    (servingPath.reach 16) rfl (Path.fair_ofList hend)
  exact ⟨hcalm, hfree, by decide, hqueued, hdelivered 5 0 hqueued⟩

end Maintenant.Writing
