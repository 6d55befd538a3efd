/-
  File:      Maintenant/Escalation/InFlight.lean
  Subject:   ONE SEND AT A TIME? `deliverAndUpdate` sends in its own goroutine and records the
             outcome; orphan recovery re-sends every row still 'pending' past the timeout.

  A thread has a delivery IN HAND while a `go` statement, a `SendNow` or an `UpdateDelivery` of
  the row may still come before it reads or inserts rows again. If no other thread has a row in
  hand when a cycle selects it as an orphan, and the outcome of a successful send is recorded,
  rows are in one hand at a time and a sent one is never sent again (`single_send`). Otherwise
  a slow send is repeated beside itself (`slow_send_doubled`).
-/
import Maintenant.Escalation.Calls

namespace Maintenant.Escalation

open GoTime Runs Prog
open Alerting (Alert NotificationChannel)

/-! ## 1. Rows in hand -/

variable {d : String} {p : Code} {i : Request} {s : State}

/-- The request is about the delivery. -/
def Request.touches : Request → String → Prop
  | .goDeliver id _ _, d => id = d
  | .sendStart id _ _, d => id = d
  | .sendReturn id, d => id = d
  | .updateDelivery id _ _, d => id = d
  | _, _ => False

/-- The request leads to a send of the delivery. -/
def Request.launches : Request → String → Prop
  | .goDeliver id _ _, d => id = d
  | .sendStart id _ _, d => id = d
  | _, _ => False

/-- The request hands the delivery to a goroutine of its own. -/
def Request.handsOver : Request → String → Prop
  | .goDeliver id _ _, d => id = d
  | _, _ => False

/-- The request brings rows into hand. -/
def Request.introduces : Request → Prop
  | .selectOrphanPendingDeliveries _ | .insertDelivery .. => True
  | _ => False

/-- The rows an answer brings into hand. -/
def givesRow : (i : Request) → Answer i → String → Prop
  | .selectOrphanPendingDeliveries _, some rows, d => ∃ row ∈ rows.val, row.id = d
  | .insertDelivery .., some id, d => id = d
  | _, _, _ => False

def InHand (d : String) (p : Code) : Prop := p.Ahead Request.introduces (Request.touches · d)

def MayStart (d : String) (p : Code) : Prop := p.Ahead Request.introduces (Request.launches · d)

theorem MayStart.inHand (h : MayStart d p) : InHand d p :=
  h.mono (fun _ => id) fun i hi => by cases i <;> first | exact hi | exact hi.elim

/-- No other thread has a row in hand that a cycle selects as an orphan, and the outcome of a
    successful send is recorded. -/
def Careful (s : State) : Move → Prop
  | .start _ => True
  | .run n x => ∀ op i k, s.threads[n]? = some (op, .call i k) →
      (∀ before, i = .selectOrphanPendingDeliveries before →
        ∀ d ∈ (s.world.deliveries.selectOrphanPending before).val,
          ∀ m t, m ≠ n → s.threads[m]? = some t → ¬ InHand d.id t.2) ∧
      ∀ d t, i = .updateDelivery d .sent t → x.fails = false

/-! ## 2. The discipline of the code -/

/-- The request is no send and records neither 'pending' nor 'sent'. -/
def NoSend : Request → Prop
  | .sendStart .. | .sendReturn _ => False
  | .updateDelivery _ status _ => status ≠ .pending ∧ status ≠ .sent
  | _ => True

/-- Rows in hand are those last brought in, and one handed over is let go. -/
abbrev RowDisciplined (p : Code) : Prop :=
  p.Disciplined Request.introduces Request.touches givesRow Request.handsOver

/-- Disciplined code without a send of its own that starts with empty hands. -/
structure Tidy (p : Code) : Prop
    extends p.Unburdened Request.introduces Request.touches givesRow Request.handsOver where
  noSend : p.Always NoSend

def Request.rowFree : Request → Bool
  | .goDeliver .. | .sendStart .. | .sendReturn _ | .updateDelivery .. | .selectOrphanPendingDeliveries _
  | .insertDelivery .. => false
  | _ => true

theorem noRow_of_rowFree (h : i.rowFree = true) : (∀ d, ¬ i.touches d) ∧ NoSend i := by
  cases i <;> first | exact ⟨fun _ => id, trivial⟩ | cases h

/-- Code that has nothing to do with deliveries. -/
theorem tidy_of_rowFree (h : p.Always fun i => i.rowFree = true) : Tidy p :=
  ⟨unburdened_of_no_use (h.mono fun _ hi => (noRow_of_rowFree hi).1), h.mono fun _ hi => (noRow_of_rowFree hi).2⟩

theorem tidy_done : Tidy (.done ()) := tidy_of_rowFree trivial

theorem tidy_ask {f : Answer i → Code} (hfree : i.rowFree = true) (hf : ∀ b, Tidy (f b)) : Tidy (ask i >>= f) :=
  ⟨unburdened_ask (noRow_of_rowFree hfree).1 fun b => (hf b).toUnburdened,
    always_ask (noRow_of_rowFree hfree).2 fun b => (hf b).noSend⟩

theorem tidy_tell (hi : i.rowFree = true) : Tidy (tell i) :=
  tidy_ask hi fun _ => tidy_done

theorem tidy_bind {f : Unit → Code} (hp : Tidy p) (hf : ∀ a, Tidy (f a)) : Tidy (p >>= f) :=
  ⟨unburdened_bind hp.toUnburdened fun a => (hf a).toUnburdened, always_bind hp.noSend fun a => (hf a).noSend⟩

theorem tidy_forEach {δ : Type} {body : δ → Code} (hb : ∀ x, Tidy (body x)) (xs : List δ) :
    Tidy (forEach body xs) :=
  ⟨unburdened_forEach fun x => (hb x).toUnburdened, always_forEach fun x => (hb x).noSend⟩

/-- A row in hand for its last request. -/
theorem rowDisciplined_tell (i : Request) : RowDisciplined (tell i) :=
  ⟨⟨fun _ _ _ h => h.elim, fun _ => trivial⟩, ⟨fun _ _ _ h => h.elim, fun _ => trivial⟩⟩

/-- A request that brings rows into hand: what follows is about those rows only. -/
theorem tidy_introduce {f : Answer i → Code} (hi : i.introduces) (hf : ∀ b, RowDisciplined (f b) ∧
    (f b).Always NoSend ∧ ∀ d, InHand d (f b) → givesRow i b d) : Tidy (ask i >>= f) := by
  have hnone : (∀ d, ¬ i.touches d) ∧ (∀ d, ¬ i.handsOver d) ∧ NoSend i := by
    cases i <;> first | exact ⟨fun _ => id, fun _ => id, trivial⟩ | exact hi.elim
  exact ⟨unburdened_stop hi hnone.1 hnone.2.1 (fun b => (hf b).1) fun b => (hf b).2.2,
    always_ask hnone.2.2 fun b => (hf b).2.1⟩

theorem dispatchToChannel_tidy (runID : String) (levelIndex : Int) (a : Alert) (now : Time)
    (chID : String) : Tidy (dispatchToChannel runID levelIndex a now chID) := by
  refine tidy_ask rfl fun ch => ?_
  cases ch with
  | none => exact tidy_done
  | some =>
    refine tidy_introduce trivial fun id => ?_
    cases id with
    | none => exact ⟨tidy_done.toDisciplined, trivial, fun _ h => h⟩
    | some =>
      dsimp only
      split
      · exact ⟨rowDisciplined_tell _, always_tell trivial, fun d h => h.resolve_right fun ⟨_, _, h⟩ => h⟩
      · exact ⟨rowDisciplined_tell _, always_tell ⟨by decide, by decide⟩, fun d h =>
          h.resolve_right fun ⟨_, _, h⟩ => h⟩

theorem dispatchSpecial_tidy (runID : String) (levelIndex : Int) (chIDs : List String)
    (a : Alert) : Tidy (dispatchSpecial runID levelIndex chIDs a) :=
  tidy_ask rfl fun now =>
    tidy_forEach (dispatchToChannel_tidy runID levelIndex a now) chIDs

theorem processRun_tidy (now : Time) (run : Run) : Tidy (processRun now run) := by
  have hterm : ∀ st t, Tidy (tell (.terminateRun run.id st t)) := fun _ _ =>
    tidy_tell rfl
  have hadvance : ∀ policy a, Tidy (advance run policy a now) := by
    intro policy a
    unfold advance
    dsimp only
    split
    · refine tidy_bind ?_ fun _ => hterm _ _
      unfold notifyExhausted
      split
      · exact tidy_done
      · exact dispatchSpecial_tidy _ _ _ _
    · split
      · exact tidy_done
      · refine tidy_bind (tidy_ask rfl fun now => ?_) fun _ => tidy_tell rfl
        exact tidy_forEach (dispatchToChannel_tidy _ _ _ now) _
  refine tidy_ask rfl fun r => ?_
  rcases r with _ | _ | a
  · exact tidy_done
  · exact hterm _ _
  · dsimp only
    split
    · refine tidy_ask rfl fun suppressed => ?_
      split
      · exact tidy_tell rfl
      · split
        · exact tidy_tell rfl
        · split
          · exact hterm _ _
          · exact hadvance _ a
    · exact hterm _ _

/-- What recovering an orphan asks is about its own row. -/
structure OnlyRow (id : String) (i : Request) : Prop where
  introduces : ¬ i.introduces
  touches : ∀ d, i.touches d → d = id
  handsOver : ∀ d, i.handsOver d → d = id
  noSend : NoSend i

theorem recoverOrphan_only (d : Delivery) : (recoverOrphan d).Always (OnlyRow d.id) :=
  recoverOrphan_always
    { selectRun := fun _ => ⟨id, fun _ h => h.elim, fun _ h => h.elim, trivial⟩
      getAlert := fun _ => ⟨id, fun _ h => h.elim, fun _ h => h.elim, trivial⟩
      getChannel := fun _ => ⟨id, fun _ h => h.elim, fun _ h => h.elim, trivial⟩
      goDeliver := fun _ _ => ⟨id, fun _ h => h.symm, fun _ h => h.symm, trivial⟩
      abandon := ⟨id, fun _ h => h.symm, fun _ h => h.elim, by decide, by decide⟩ }

theorem recoverOrphan_inHand {d : Delivery} {id : String} (h : InHand id (recoverOrphan d)) : id = d.id := by
  obtain ⟨i, hi, ht⟩ := (recoverOrphan_only d).ever h.ever
  exact hi.touches id ht

/-- The row is handed over last. -/
theorem recoverOrphan_releases (d : Delivery) :
    (recoverOrphan d).Releases Request.introduces Request.touches Request.handsOver := by
  have htell : ∀ i, (tell i).Releases Request.introduces Request.touches Request.handsOver :=
    fun i => (rowDisciplined_tell i).releases
  refine releases_ask (fun _ h => h.elim) fun run => ?_
  cases run with
  | none => exact htell _
  | some =>
    dsimp only
    split
    · refine releases_ask (fun _ h => h.elim) fun r => ?_
      rcases r with _ | _ | a
      · exact htell _
      · exact htell _
      · dsimp only
        split
        · split
          · exact htell _
          · refine releases_ask (fun _ h => h.elim) fun ch => ?_
            cases ch <;> exact htell _
        · exact htell _
    · exact htell _

theorem recoverOrphans_tidy (now : Time) : Tidy (recoverOrphans now) := by
  refine tidy_introduce trivial fun rows => ?_
  cases rows with
  | none => exact ⟨tidy_done.toDisciplined, trivial, fun _ h => h⟩
  | some rows =>
    refine ⟨⟨grants_of_always (always_forEach fun d => (recoverOrphan_only d).mono fun _ h => h.introduces), ?_⟩,
      always_forEach fun d => (recoverOrphan_only d).mono fun _ h => h.noSend, fun d h => ?_⟩
    · refine releases_forEach recoverOrphan_releases (fun d id h => ?_)
        (fun d id h => recoverOrphan_inHand h) rows.property
      obtain ⟨i, hi, ht⟩ := (recoverOrphan_only d).ever h
      exact hi.handsOver id ht
    · obtain ⟨row, hrow, h⟩ := ahead_forEach h
      exact ⟨row, hrow, (recoverOrphan_inHand h).symm⟩

theorem evaluateCycle_tidy : Tidy evaluateCycle := by
  refine tidy_ask rfl fun now =>
    tidy_bind (recoverOrphans_tidy now) fun _ =>
      tidy_ask rfl fun rows => ?_
  cases rows with
  | none => exact tidy_done
  | some => exact tidy_forEach (processRun_tidy now) _

theorem onAlertCreated_tidy (a : Alert) : Tidy (onAlertCreated a) :=
  tidy_of_rowFree (onAlertCreated_always rfl rfl rfl fun _ _ _ _ _ => rfl)

theorem onAlertAcknowledged_tidy (alertID : String) (ack : Acknowledgment) :
    Tidy (onAlertAcknowledged alertID ack) := by
  have hstop : ∀ a now run, Tidy (stopByAck a now ack run) := by
    intro a now run
    refine tidy_ask rfl fun ok => ?_
    split
    · unfold notifyAck
      split
      · split
        · exact dispatchSpecial_tidy _ _ _ _
        · exact tidy_done
      · exact tidy_done
    · exact tidy_done
  refine tidy_ask rfl fun rows => ?_
  cases rows with
  | none => exact tidy_done
  | some =>
    dsimp only
    split
    · exact tidy_done
    · exact tidy_ask rfl fun r =>
        tidy_ask rfl fun now =>
          tidy_forEach (hstop _ now) _

theorem onAlertResolved_tidy (alertID : String) (resolvedAt : Time) : Tidy (onAlertResolved alertID resolvedAt) := by
  refine tidy_ask rfl fun rows => ?_
  cases rows with
  | none => exact tidy_done
  | some => exact tidy_forEach (fun _ => tidy_tell rfl) _

theorem deletePolicy_tidy (policyID : String) : Tidy (deletePolicy policyID) :=
  tidy_of_rowFree (by simp [deletePolicy, Option.forall, Request.rowFree])

theorem onEditionDowngraded_tidy : Tidy onEditionDowngraded :=
  tidy_of_rowFree (by simp [onEditionDowngraded, Request.rowFree])

/-! ## 3. The goroutine of a send -/

/-- The send succeeded: the time, then the outcome. -/
def stamp (d : String) : Code :=
  ask .clock >>= fun t => tell (.updateDelivery d .sent (some t))

/-- `SendNow` is running. -/
def awaitSend (d : String) : Code :=
  ask (.sendReturn d) >>= fun ok =>
    if ok then stamp d else tell (.updateDelivery d .failed none)

/-- Where a `deliverAndUpdate` of the row can be. -/
inductive Sending (d : String) : Code → Prop where
  | launched (a : Alert) (ch : NotificationChannel) : Sending d (deliverAndUpdate d a ch)
  | awaiting : Sending d (awaitSend d)
  | stamping : Sending d (stamp d)
  | recordingSent (t : Time) : Sending d (tell (.updateDelivery d .sent (some t)))
  | recordingFailed : Sending d (tell (.updateDelivery d .failed none))
  | finished : Sending d (.done ())

/-- One more request leaves it there. -/
theorem Sending.next {k : Answer i → Code} (h : Sending d (.call i k)) (b : Answer i) : Sending d (k b) := by
  generalize hp : Prog.call i k = p at h
  cases h with
  | awaiting =>
    cases hp
    cases b with
    | true => exact .stamping
    | false => exact .recordingFailed
  | _ => cases hp <;> constructor

/-- The request is one of a send of the row. -/
structure SendOnly (d : String) (i : Request) : Prop where
  introduces : ¬ i.introduces
  touches : ∀ r, i.touches r → r = d
  handsOver : ∀ r, ¬ i.handsOver r
  records : ∀ r st t, i = .updateDelivery r st t → st ≠ .pending

theorem Sending.always (h : Sending d p) : p.Always (SendOnly d) := by
  have hrecord : ∀ st t, st ≠ .pending → (tell (.updateDelivery d st t)).Always (SendOnly d) :=
    fun st t hst => always_tell ⟨id, fun _ h => h.symm, fun _ => id, fun _ _ _ h => by
      cases h
      exact hst⟩
  have hstamp : (stamp d).Always (SendOnly d) :=
    always_ask ⟨id, fun _ h => h.elim, fun _ => id, fun _ _ _ h => by cases h⟩ fun t =>
      hrecord .sent (some t) (by decide)
  have hreturn : (awaitSend d).Always (SendOnly d) := by
    refine always_ask ⟨id, fun _ h => h.symm, fun _ => id, fun _ _ _ h => by cases h⟩
      fun ok => ?_
    split
    · exact hstamp
    · exact hrecord .failed none (by decide)
  cases h with
  | launched =>
    exact always_ask ⟨id, fun _ h => h.symm, fun _ => id, fun _ _ _ h => by cases h⟩
      fun _ => hreturn
  | awaiting => exact hreturn
  | stamping => exact hstamp
  | recordingSent t => exact hrecord .sent (some t) (by decide)
  | recordingFailed => exact hrecord .failed none (by decide)
  | finished => exact trivial

theorem Sending.rowDisciplined (h : Sending d p) : RowDisciplined p :=
  ⟨grants_of_always (h.always.mono fun _ hi => hi.introduces),
    releases_of_always (h.always.mono fun _ hi => hi.handsOver)⟩

/-- The goroutine is about to record a success. -/
def Recording (d : String) (p : Code) : Prop :=
  p = stamp d ∨ ∃ t, p = tell (.updateDelivery d .sent (some t))

theorem Recording.inHand (h : Recording d p) : InHand d p := by
  rcases h with rfl | ⟨t, rfl⟩
  · exact ahead_ask.mpr (Or.inr ⟨id, 0, Or.inl rfl⟩)
  · exact Or.inl rfl

theorem Recording.not_mayStart (h : Recording d p) : ¬ MayStart d p := by
  have hrecord : ∀ t, ¬ MayStart d (tell (.updateDelivery d .sent (some t))) := by
    rintro t (h | ⟨_, _, h⟩) <;> exact h
  intro hm
  rcases h with rfl | ⟨t, rfl⟩
  · rcases ahead_ask.mp hm with h | ⟨_, t, h⟩
    · exact h
    · exact hrecord t h
  · exact hrecord t hm

/-- The body of every operation: tidy, or a send about to begin. -/
theorem body_tidy_or_sending (op : Op) :
    Tidy op.body ∨ ∃ d a ch, op = .deliverAndUpdate d a ch ∧ Sending d op.body := by
  cases op with
  | evaluateCycle => exact Or.inl evaluateCycle_tidy
  | onAlertCreated a => exact Or.inl (onAlertCreated_tidy a)
  | onAlertAcknowledged alertID ack => exact Or.inl (onAlertAcknowledged_tidy alertID ack)
  | onAlertResolved alertID resolvedAt => exact Or.inl (onAlertResolved_tidy alertID resolvedAt)
  | deletePolicy policyID => exact Or.inl (deletePolicy_tidy policyID)
  | onEditionDowngraded => exact Or.inl onEditionDowngraded_tidy
  | deliverAndUpdate d a ch => exact Or.inr ⟨d, a, ch, rfl, .launched a ch⟩
  | writeAlerts => exact Or.inl (tidy_tell rfl)

/-! ## 4. The invariant -/

/-- No row with the id is 'pending'. -/
def NotPending (t : Deliveries) (d : String) : Prop :=
  ∀ row ∈ t, row.id = d → row.status ≠ .pending

structure SendInv (s : State) : Prop where
  exclusive : ∀ (m n : Nat) (t u : Op × Code) (d : String), s.threads[m]? = some t →
    s.threads[n]? = some u → InHand d t.2 → InHand d u.2 → m = n
  known : ∀ (n : Nat) (t : Op × Code) (d : String), s.threads[n]? = some t → InHand d t.2 →
    HasRow s.world.deliveries d
  disciplined : ∀ (n : Nat) (t : Op × Code), s.threads[n]? = some t → RowDisciplined t.2
  kind : ∀ (n : Nat) (t : Op × Code), s.threads[n]? = some t →
    t.2.Always NoSend ∨ ∃ d, Sending d t.2
  sentKnown : ∀ d ∈ s.world.succeeded, HasRow s.world.deliveries d
  unlaunched : ∀ d ∈ s.world.succeeded, ∀ (n : Nat) (t : Op × Code), s.threads[n]? = some t →
    ¬ MayStart d t.2
  settled : ∀ d ∈ s.world.succeeded, NotPending s.world.deliveries d ∨
    ∃ (n : Nat) (op : Op) (p : Code), s.threads[n]? = some (op, p) ∧ Recording d p

theorem idle_sendInv {w : World} (h : w.succeeded = []) : SendInv (State.idle w) := by
  refine ⟨?_, ?_, ?_, ?_, ?_, ?_, ?_⟩ <;> simp [State.idle, h]

/-- Starting a tidy operation brings nothing into hand. -/
theorem sendInv_start {s' : State} {op : Op} (h : SendInv s) (hs : step s (.start op) = some s') : SendInv s' := by
  obtain ⟨hadm, rfl⟩ := Pool.step_start hs
  have htidy : Tidy op.body := by
    rcases body_tidy_or_sending op with ht | ⟨d, a, ch, rfl, _⟩
    · exact ht
    · cases hadm
  have hget : ∀ (n : Nat) (t : Op × Code), (s.threads ++ [(op, machine.body op)])[n]? = some t →
      s.threads[n]? = some t ∨ t.2 = op.body := fun n t ht => by
    rcases Pool.get_start ht with ht | ⟨_, rfl⟩
    · exact Or.inl ht
    · exact Or.inr rfl
  have hhand : ∀ (n : Nat) (t : Op × Code) (d : String),
      (s.threads ++ [(op, machine.body op)])[n]? = some t → InHand d t.2 →
        s.threads[n]? = some t := fun n t d ht hh => by
    rcases hget n t ht with ht | e
    · exact ht
    · exact absurd (e ▸ hh) (htidy.first d)
  refine ⟨fun m n t u d ht hu hm hn => h.exclusive m n t u d (hhand m t d ht hm)
      (hhand n u d hu hn) hm hn, fun n t d ht hh => h.known n t d (hhand n t d ht hh) hh,
    fun n t ht => ?_, fun n t ht => ?_, h.sentKnown, fun d hd n t ht hm => ?_, fun d hd => ?_⟩
  · rcases hget n t ht with ht | e
    · exact h.disciplined n t ht
    · exact e ▸ htidy.toDisciplined
  · rcases hget n t ht with ht | e
    · exact h.kind n t ht
    · exact Or.inl (e ▸ htidy.noSend)
  · exact h.unlaunched d hd n t (hhand n t d ht hm.inHand) hm
  · rcases h.settled d hd with hnp | ⟨n, op', p, hn, hp⟩
    · exact Or.inl hnp
    · exact Or.inr ⟨n, op', p, Runs.get_concat.mpr (Or.inl hn), hp⟩

section Run

variable {s : State} {n : Nat} {x : Choice} {op : Op} {i : Request} {k : Answer i → Code}

/-- The caller after its request has in hand what it had, or what the answer brought. -/
theorem caller_inHand (hd : RowDisciplined (.call i k)) {b : Answer i} (h : InHand d (k b)) :
    (¬ i.introduces ∧ InHand d (.call i k)) ∨ (i.introduces ∧ givesRow i b d) := by
  by_cases hi : i.introduces
  · exact Or.inr ⟨hi, hd.grants.1 hi b d h⟩
  · exact Or.inl ⟨hi, h.before hi⟩

/-- A row in the hand of a goroutine just started is the one it was started for. -/
theorem forked_inHand {child : Op} (hf : forks i = some child) (hh : InHand d child.body) :
    ∃ a ch, i = .goDeliver d a ch := by
  cases i with
  | goDeliver id a ch =>
    cases hf
    obtain ⟨j, hj, ht⟩ := (Sending.launched a ch).always.ever hh.ever
    rw [hj.touches d ht]
    exact ⟨a, ch, rfl⟩
  | _ => cases hf

/-- A row an answer brings is a pending orphan, or was not there before and is now. -/
theorem givesRow_cases {w : World} (h : givesRow i (handle x w i).1 d) :
    (∃ before, i = .selectOrphanPendingDeliveries before ∧
      ∃ row ∈ (w.deliveries.selectOrphanPending before).val, row.id = d) ∨
    (¬ HasRow w.deliveries d ∧ HasRow (deliveriesAfter x w.deliveries i) d) := by
  cases i with
  | selectOrphanPendingDeliveries before =>
    simp only [handle, answer] at h
    split at h
    · exact h.elim
    · exact Or.inl ⟨before, rfl, h⟩
  | insertDelivery runID levelIndex channelID attemptStartedAt =>
    simp only [handle, answer] at h
    unfold deliveriesAfter
    split at h
    · exact h.elim
    · rename_i hx
      rw [if_neg hx]
      cases hins : w.deliveries.insert
          (newDelivery x.newID runID levelIndex channelID attemptStartedAt) with
      | none =>
        rw [hins] at h
        exact h.elim
      | some t =>
        rw [hins] at h
        have hid : x.newID = d := h
        dsimp only
        rw [hins]
        refine Or.inr ⟨?_, newDelivery x.newID runID levelIndex channelID attemptStartedAt,
          (Deliveries.mem_insert hins).mpr (Or.inr rfl), hid⟩
        rintro ⟨row, hrow, hrid⟩
        have hfresh := Table.insert_fresh (Deliveries.insert_table hins)
        exact Table.hasKey_eq_false.mp hfresh row hrow (hrid.trans hid.symm)
  | _ => exact h.elim

/-- A recorded row never goes back to 'pending', and its id is never inserted again. -/
theorem notPending_after {t : Deliveries} (hnp : NotPending t d) (hrow : HasRow t d)
    (hst : ∀ id st t', i = .updateDelivery id st t' → st ≠ .pending) : NotPending (deliveriesAfter x t i) d := by
  intro row hmem hid
  have hstep := delivered x t i
  generalize deliveriesAfter x t i = t' at hmem hstep
  cases hstep with
  | same => exact hnp row hmem hid
  | inserted hins =>
    rcases (Deliveries.mem_insert hins).mp hmem with hmem | rfl
    · exact hnp row hmem hid
    · obtain ⟨old, hold, hoid⟩ := hrow
      have hfresh := Table.insert_fresh (Deliveries.insert_table hins)
      exact absurd (hoid.trans hid.symm) (Table.hasKey_eq_false.mp hfresh old hold)
  | updated id st t' =>
    rcases Deliveries.mem_update.mp hmem with ⟨hmem, _⟩ | ⟨_, _, _, rfl⟩
    · exact hnp row hmem hid
    · exact hst id st t' rfl

/-- The send of `d` returned without an error. -/
def JustSent (x : Choice) (d : String) (i : Request) : Prop := i = .sendReturn d ∧ x.sent = true

theorem mem_succeededAfter {l : List String} (hd : d ∈ succeededAfter x l i) : d ∈ l ∨ JustSent x d i := by
  cases i with
  | sendReturn =>
    simp only [succeededAfter] at hd
    split at hd
    · rename_i hx
      rcases List.mem_cons.mp hd with rfl | hd
      · exact Or.inr ⟨rfl, hx⟩
      · exact Or.inl hd
    · exact Or.inl hd
  | _ => exact Or.inl hd

variable (h : SendInv s) (hc : Careful s (.run n x)) (hn : s.threads[n]? = some (op, .call i k))

include h hc hn

/-- A row the answer brings is in no other hand. -/
theorem given_exclusive (hg : givesRow i (handle x s.world i).1 d) {m : Nat}
    {t : Op × Code} (hmn : m ≠ n) (ht : s.threads[m]? = some t) : ¬ InHand d t.2 := by
  rcases givesRow_cases hg with ⟨before, rfl, row, hrow, rfl⟩ | ⟨hfresh, _⟩
  · exact (hc op _ k hn).1 before rfl row hrow m t hmn ht
  · exact fun hh => hfresh (h.known m t d ht hh)

/-- A row the answer brings was not sent yet. -/
theorem given_unsent (hg : givesRow i (handle x s.world i).1 d) : d ∉ s.world.succeeded := by
  intro hd
  rcases givesRow_cases hg with ⟨before, rfl, row, hrow, rfl⟩ | ⟨hfresh, _⟩
  · obtain ⟨hmem, hp⟩ := Table.mem_select.mp hrow
    rcases h.settled row.id hd with hnp | ⟨m, op', p, hm, hrec⟩
    · exact hnp row hmem rfl (beq_iff_eq.mp (Bool.and_eq_true_iff.mp hp).1)
    · -- the goroutine that would record it has the row in hand, and is not the selecting thread
      by_cases hmn : m = n
      · rw [hmn, hn] at hm
        obtain ⟨-, rfl⟩ := Prod.mk.inj (Option.some.inj hm)
        rcases hrec with e | ⟨t, e⟩ <;> cases e
      · exact (hc op _ k hn).1 before rfl row hrow m _ hmn hm hrec.inHand
  · exact hfresh (h.sentKnown d hd)

theorem exclusive_run : ∀ (m m' : Nat) (t u : Op × Code) (d : String),
    (Pool.after machine s n x op i k).threads[m]? = some t →
    (Pool.after machine s n x op i k).threads[m']? = some u →
    InHand d t.2 → InHand d u.2 → m = m' := by
  have hcaller := h.disciplined n _ hn
  -- the caller and an old thread
  have hold : ∀ (m : Nat) (t : Op × Code) (d : String), m ≠ n → s.threads[m]? = some t →
      InHand d t.2 → ¬ InHand d (k (handle x s.world i).1) := by
    intro m t d hmn ht hh hh'
    rcases caller_inHand hcaller hh' with ⟨_, hb⟩ | ⟨_, hg⟩
    · exact hmn (h.exclusive m n t _ d ht hn hh hb)
    · exact given_exclusive h hc hn hg hmn ht hh
  -- the forked goroutine and any other
  have hfork : ∀ (child : Op) (d : String), forks i = some child → InHand d child.body →
      InHand d (.call i k) ∧ ¬ InHand d (k (handle x s.world i).1) := by
    intro child d hf hh
    obtain ⟨_, _, rfl⟩ := forked_inHand hf hh
    exact ⟨Or.inl rfl, hcaller.releases.1 d rfl _⟩
  intro m m' t u d ht hu hm hm'
  rcases Pool.get_run ht with ⟨e, rfl⟩ | ⟨hmn, ht₀⟩ | ⟨child, hf, hlast, rfl⟩ <;>
    rcases Pool.get_run hu with ⟨e', rfl⟩ | ⟨hmn', hu₀⟩ | ⟨child', hf', hlast', rfl⟩
  · rw [e, e']
  · exact absurd hm (hold m' u d hmn' hu₀ hm')
  · exact absurd hm (hfork child' d hf' hm').2
  · exact absurd hm' (hold m t d hmn ht₀ hm)
  · exact h.exclusive m m' t u d ht₀ hu₀ hm hm'
  · exact absurd (h.exclusive m n t _ d ht₀ hn hm (hfork child' d hf' hm').1) hmn
  · exact absurd hm' (hfork child d hf hm).2
  · exact absurd (h.exclusive m' n u _ d hu₀ hn hm' (hfork child d hf hm).1) hmn'
  · rw [hlast, hlast']

omit hc in
theorem known_run : ∀ (m : Nat) (t : Op × Code) (d : String),
    (Pool.after machine s n x op i k).threads[m]? = some t → InHand d t.2 →
      HasRow (deliveriesAfter x s.world.deliveries i) d := by
  intro m t d ht hh
  rcases Pool.get_run ht with ⟨_, rfl⟩ | ⟨_, ht₀⟩ | ⟨child, hf, _, rfl⟩
  · rcases caller_inHand (h.disciplined n _ hn) hh with ⟨_, hb⟩ | ⟨_, hg⟩
    · exact hasRow_after (h.known n _ d hn hb)
    · rcases givesRow_cases hg with ⟨before, _, row, hrow, hid⟩ | ⟨_, hnew⟩
      · exact hasRow_after ⟨row, (Table.mem_select.mp hrow).1, hid⟩
      · exact hnew
  · exact hasRow_after (h.known m t d ht₀ hh)
  · obtain ⟨_, _, rfl⟩ := forked_inHand hf hh
    exact hasRow_after (h.known n _ d hn (Or.inl rfl))

omit hc in
theorem kind_run : ∀ (m : Nat) (t : Op × Code), (Pool.after machine s n x op i k).threads[m]? = some t →
      RowDisciplined t.2 ∧ (t.2.Always NoSend ∨ ∃ d, Sending d t.2) := by
  intro m t ht
  rcases Pool.get_run ht with ⟨_, rfl⟩ | ⟨_, ht₀⟩ | ⟨child, _, _, rfl⟩
  · have hd := h.disciplined n _ hn
    refine ⟨hd.next _, ?_⟩
    rcases h.kind n _ hn with hk | ⟨d, hk⟩
    · exact Or.inl (hk.2 _)
    · exact Or.inr ⟨d, hk.next _⟩
  · exact ⟨h.disciplined m t ht₀, h.kind m t ht₀⟩
  · rcases body_tidy_or_sending child with hb | ⟨d, _, _, _, hb⟩
    · exact ⟨hb.toDisciplined, Or.inl hb.noSend⟩
    · exact ⟨hb.rowDisciplined, Or.inr ⟨d, hb⟩⟩

/-- A row sent before is started by nobody afterwards. -/
theorem unlaunched_run (hd : d ∈ s.world.succeeded) : ∀ (m : Nat) (t : Op × Code),
    (Pool.after machine s n x op i k).threads[m]? = some t → ¬ MayStart d t.2 := by
  have hcaller : ¬ MayStart d (.call i k) := h.unlaunched d hd n _ hn
  intro m t ht hm
  rcases Pool.get_run ht with ⟨_, rfl⟩ | ⟨_, ht₀⟩ | ⟨child, hf, _, rfl⟩
  · rcases caller_inHand (h.disciplined n _ hn) hm.inHand with ⟨hi, _⟩ | ⟨_, hg⟩
    · exact hcaller (hm.before hi)
    · exact given_unsent h hc hn hg hd
  · exact h.unlaunched d hd m t ht₀ hm
  · obtain ⟨_, _, rfl⟩ := forked_inHand hf hm.inHand
    exact hcaller (Or.inl rfl)

/-- A row sent before is still recorded, or about to be. -/
theorem settled_run (hd : d ∈ s.world.succeeded) : NotPending (deliveriesAfter x s.world.deliveries i) d ∨
      ∃ (m : Nat) (op' : Op) (p : Code),
        (Pool.after machine s n x op i k).threads[m]? = some (op', p) ∧ Recording d p := by
  rcases h.settled d hd with hnp | ⟨m, op', p, hm, hrec⟩
  · refine Or.inl (notPending_after hnp (h.sentKnown d hd) fun id st t e => ?_)
    rcases h.kind n _ hn with hk | ⟨d', hk⟩
    · subst e
      exact hk.1.1
    · exact hk.always.1.records id st t e
  · by_cases hmn : m = n
    · subst hmn
      rw [hn] at hm
      obtain ⟨rfl, rfl⟩ := Prod.mk.inj (Option.some.inj hm)
      rcases hrec with e | ⟨t, e⟩
      · cases e
        exact Or.inr ⟨m, op, _, Pool.get_run_self hn, Or.inr ⟨_, rfl⟩⟩
      · cases e
        left
        have hx := (hc op _ _ hn).2 d _ rfl
        intro row hrow hid
        unfold deliveriesAfter at hrow
        rw [if_neg (by simp [hx])] at hrow
        rcases Deliveries.mem_update.mp hrow with ⟨_, hne⟩ | ⟨_, _, _, rfl⟩
        · exact absurd hid hne
        · simp [Delivery.settled]
    · exact Or.inr ⟨m, op', p, Pool.get_run_other hmn hm, hrec⟩

omit hc in
/-- The thread whose `SendNow` returns without an error goes on to record it. -/
theorem justSent_recording (hj : JustSent x d i) : Recording d (k (handle x s.world i).1) ∧ InHand d (.call i k) := by
  obtain ⟨rfl, hx⟩ := hj
  rcases h.kind n _ hn with hk | ⟨d', hk⟩
  · exact hk.1.elim
  · generalize hp : Prog.call (Request.sendReturn d) k = p at hk
    cases hk with
    | awaiting =>
      cases hp
      refine ⟨Or.inl ?_, Or.inl rfl⟩
      show (if x.sent = true then stamp d else _) = stamp d
      rw [if_pos hx]
    | _ => cases hp

end Run

/-- **A careful move keeps the invariant.** -/
theorem sendInv_step {s' : State} {m : Move} (h : SendInv s) (hc : Careful s m)
    (hs : step s m = some s') : SendInv s' := by
  cases m with
  | start => exact sendInv_start h hs
  | run n x =>
    obtain ⟨op, i, k, hn, rfl⟩ := Pool.step_run hs
    refine ⟨exclusive_run h hc hn, known_run h hn, fun m t ht => (kind_run h hn m t ht).1,
      fun m t ht => (kind_run h hn m t ht).2, fun d hd => ?_, fun d hd m t ht => ?_,
      fun d hd => ?_⟩
    · rcases mem_succeededAfter hd with hd | hj
      · exact hasRow_after (h.sentKnown d hd)
      · exact hasRow_after (h.known n _ d hn (justSent_recording h hn hj).2)
    · rcases mem_succeededAfter hd with hd | hj
      · exact unlaunched_run h hc hn hd m t ht
      · -- only the goroutine that just sent it has the row in hand, and it has begun
        obtain ⟨hrec, _⟩ := justSent_recording h hn hj
        intro hm
        have hself : (Pool.after machine s n x op i k).threads[n]? =
            some (op, k (handle x s.world i).1) := Pool.get_run_self hn
        have hmn := exclusive_run h hc hn m n t _ d ht hself hm.inHand hrec.inHand
        rw [hmn, hself] at ht
        obtain rfl := Option.some.inj ht
        exact hrec.not_mayStart hm
    · rcases mem_succeededAfter hd with hd | hj
      · exact settled_run h hc hn hd
      · exact Or.inr ⟨n, op, _, Pool.get_run_self hn, (justSent_recording h hn hj).1⟩

/-! ## 5. One send at a time -/

/-- The delivery whose `SendNow` the code waits for. -/
def awaits : Code → Option String
  | .call (.sendReturn d) _ => some d
  | _ => none

/-- The delivery whose `SendNow` the code calls next. -/
def aboutToSend : Code → Option String
  | .call (.sendStart d _ _) _ => some d
  | _ => none

/-- A `SendNow` of the delivery is running in thread `n`. -/
def Running (s : State) (n : Nat) (d : String) : Prop :=
  (s.threads[n]?.bind fun t : Op × Code => awaits t.2) = some d
deriving Decidable

/-- Thread `n` calls `SendNow` for the delivery when it next moves. -/
def Starting (s : State) (n : Nat) (d : String) : Prop :=
  (s.threads[n]?.bind fun t : Op × Code => aboutToSend t.2) = some d

theorem Running.inHand {n : Nat} (h : Running s n d) : ∃ t, s.threads[n]? = some t ∧ InHand d t.2 := by
  obtain ⟨⟨op, p⟩, ht, hp⟩ := Option.bind_eq_some_iff.mp h
  refine ⟨(op, p), ht, ?_⟩
  unfold awaits at hp
  split at hp
  · rename_i heq
    cases hp
    subst heq
    exact Or.inl rfl
  · cases hp

theorem Starting.mayStart {n : Nat} (h : Starting s n d) : ∃ t, s.threads[n]? = some t ∧ MayStart d t.2 := by
  obtain ⟨⟨op, p⟩, ht, hp⟩ := Option.bind_eq_some_iff.mp h
  refine ⟨(op, p), ht, ?_⟩
  unfold aboutToSend at hp
  split at hp
  · rename_i heq
    cases hp
    subst heq
    exact Or.inl rfl
  · cases hp

/-- **In a careful run at most one `SendNow` runs for a delivery, and none starts for one whose
    `SendNow` has succeeded.** -/
theorem single_send {w₀ : World} {s : State} (h0 : w₀.succeeded = [])
    (hs : Reach step Careful (State.idle w₀) s) :
    (∀ m n d, Running s m d → Running s n d → m = n) ∧
      ∀ n d, Starting s n d → d ∉ s.world.succeeded := by
  have hinv : SendInv s :=
    hs.inv (idle_sendInv h0) fun _ _ _ hi hok hst => sendInv_step hi hok hst
  refine ⟨fun m n d hm hn => ?_, fun n d hn hd => ?_⟩
  · obtain ⟨t, ht, hht⟩ := hm.inHand
    obtain ⟨u, hu, hhu⟩ := hn.inHand
    exact hinv.exclusive m n t u d ht hu hht hhu
  · obtain ⟨t, ht, hmay⟩ := hn.mayStart
    exact hinv.unlaunched d hd n t ht hmay

/-! ## 6. Two runs -/

/-- A cycle executes level 0: row `d1` is inserted and its goroutine (thread 1) forked. -/
def firstCycle : List Move :=
  [.start .evaluateCycle, .run 0 {}, .run 0 {}, .run 0 {}, .run 0 {}, .run 0 {}, .run 0 {},
    .run 0 channelUp, .run 0 { newID := "d1" }, .run 0 {}, .run 0 {}]

/-- Three minutes later the next cycle looks for orphans and recovers what it finds. -/
def laterCycle : List Move :=
  [.start .evaluateCycle, .run 2 { elapsed := 181000000000 }, .run 2 {}, .run 2 {}, .run 2 {},
    .run 2 channelUp, .run 2 {}]

/-- Nothing fails, and orphans are selected while no other thread has a request left. -/
def carefulCheck (s : State) : Move → Bool
  | .start _ => true
  | .run n x => !x.fails && (sole s (.run n x) ||
      match s.threads[n]? with
      | some (_, .call (.selectOrphanPendingDeliveries _) _) => false
      | _ => true)

theorem careful_of_check {m : Move} (h : carefulCheck s m = true) : Careful s m := by
  cases m with
  | start => exact trivial
  | run =>
    obtain ⟨hx, hs⟩ := Bool.and_eq_true_iff.mp h
    rintro op i k hn
    refine ⟨fun before hi d _ m t hmn ht hh => ?_, fun d t _ => by simpa using hx⟩
    subst hi
    rw [hn] at hs
    obtain ⟨op', rfl⟩ := finished_of_sole (by simpa using hs) hmn ht
    exact hh

/-- A send that ends in time is recorded, and the later cycle leaves its row alone. -/
theorem timely_send_single :
    let s := runList step (State.idle sampleWorld)
      (firstCycle ++ [.run 1 {}, .run 1 {}, .run 1 {}, .run 1 {}] ++ laterCycle)
    s.world.succeeded = ["d1"] ∧ (∀ m n d, Running s m d → Running s n d → m = n) ∧
      ∀ n d, Starting s n d → d ∉ s.world.succeeded :=
  ⟨by decide, single_send rfl (reach_of_runOk (fun _ _ => careful_of_check) _ _ (by decide))⟩

/-- **A send that takes longer than the orphan timeout is doubled**: the later cycle finds its
    row still 'pending' and calls `SendNow` a second time beside the first. -/
theorem slow_send_doubled :
    ∃ s, Reach step anyStep (State.idle sampleWorld) s ∧ Running s 1 "d1" ∧ Running s 3 "d1" :=
  ⟨runList step (State.idle sampleWorld) (firstCycle ++ [.run 1 {}] ++ laterCycle ++ [.run 3 {}]),
    reach_of_runList _ _, by decide, by decide⟩

end Maintenant.Escalation
