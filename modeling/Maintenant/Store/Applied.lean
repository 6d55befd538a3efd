/-
  File:      Maintenant/Store/Applied.lean
  Subject:   AN ERROR OF THE WRITER MEANS THAT NOTHING WAS WRITTEN (internal/store/writer.go: `submit`).

  The operation on the queue does not know the context of its caller. A caller that gives up gets an error, and the
  writer still runs the operation (`gave_up_and_applied`).

  * `Written` -- what was applied is answered without an error;
  * `Hopeless` -- a caller gives up on a queued operation only after it was answered with an error, or when the writer
    has left its loop before it was answered;
  * `error_means_unwritten` -- then no call that returns an error was applied, or ever is.
-/
import Maintenant.Store.Writer

namespace Maintenant.Writing

open GoChan

variable {s s' : State}

/-! ## 1. What was applied -/

/-- What was sent on the `Done` of a call. -/
def answerOf (calls : List Call) (k : Nat) : Option WriteResult := (calls[k]?).bind Call.done

section AnswerOf

variable {calls : List Call} {k j : Nat} {c c' : Call}

variable (hc : calls[k]? = some c)

include hc

theorem answerOf_get : answerOf calls k = c.done := by
  unfold answerOf
  rw [hc]
  rfl

theorem answerOf_set :
    answerOf (calls.set k c') j = if j = k then c'.done else answerOf calls j := by
  unfold answerOf
  rw [get_set hc]
  split <;> rfl

/-- A change that leaves the answer alone. -/
theorem answerOf_set_same (hdone : c'.done = c.done) :
    answerOf (calls.set k c') j = answerOf calls j := by
  rw [answerOf_set hc]
  split
  · next hjk => rw [hjk, answerOf_get hc, hdone]
  · rfl

omit hc

theorem answerOf_submit (op : WriteOp) : answerOf (calls ++ [⟨op, false, .check, none⟩]) j = answerOf calls j := by
  unfold answerOf
  rcases Nat.lt_or_ge j calls.length with hj | hj
  · rw [List.getElem?_append_left hj]
  · rw [List.getElem?_append_right hj, List.getElem?_eq_none hj]
    cases hd : [(⟨op, false, .check, none⟩ : Call)][j - calls.length]? with
    | none => rfl
    | some =>
      rw [List.mem_singleton.mp (List.mem_of_getElem? hd)]
      rfl

end AnswerOf

variable {k : Nat} {c : Call} {m : Move}

/-- The call of a pending operation has no answer. -/
theorem Sane.pending (h : Sane s) (hk : k ∈ s.pending) :
    k ∈ s.queued ∧ ∃ c, s.calls[k]? = some c ∧ c.done = none :=
  ⟨(h.lined.known k).mpr (Or.inl hk), h.lined.unanswered k hk⟩

/-- The operation in hand is pending. -/
theorem Sane.hand (h : Sane s) (hhand : s.phase.hand = some k) :
    k ∈ s.queued ∧ ∃ c, s.calls[k]? = some c ∧ c.done = none := by
  refine h.pending ?_
  unfold State.pending
  rw [hhand]
  exact List.mem_cons_self

/-- What was applied is answered without an error, or is about to be. -/
def Written (s : State) : Prop := ∀ k ∈ s.applied,
  (∃ res, s.phase = .answer k res ∧ res.err = none) ∨ ∃ res, answerOf s.calls k = some res ∧ res.err = none

/-- What was applied was queued. -/
theorem Written.queued (h : Written s) (hs : Sane s) (hk : k ∈ s.applied) : k ∈ s.queued := by
  rcases h k hk with ⟨res, hphase, _⟩ | ⟨res, hanswer, _⟩
  · exact (hs.hand (by rw [hphase]; rfl)).1
  · obtain ⟨c, hc, hdone⟩ := Option.bind_eq_some_iff.mp hanswer
    exact (hs.lined.known k).mpr (Or.inr ⟨c, hc, by rw [hdone]; simp⟩)

/-- The operation in the writer's hand has no answer yet. -/
theorem Sane.answerOf_hand (hs : Sane s) (hhand : s.phase.hand = some k) : answerOf s.calls k = none := by
  obtain ⟨_, c, hc, hnone⟩ := hs.hand hhand
  rw [answerOf_get hc, hnone]

theorem Sane.answerOf_reply (hs : Sane s) (hhand : s.phase.hand = some k) (res : WriteResult) (j : Nat) :
    answerOf (s.reply k res).calls j = if j = k then some res else answerOf s.calls j := by
  obtain ⟨_, c, hc, _⟩ := hs.hand hhand
  unfold State.reply
  rw [hc]
  exact answerOf_set hc

/-- Answers stay, and the writer is not just answering. -/
theorem Written.keep (h : Written s) (hphase : ∀ k res, s.phase ≠ .answer k res) (happlied : s'.applied = s.applied)
    (hanswer : ∀ k ∈ s.applied, answerOf s'.calls k = answerOf s.calls k) : Written s' := by
  intro k hk
  rw [happlied] at hk
  rcases h k hk with ⟨res, hp, _⟩ | ⟨res, hres, herr⟩
  · exact absurd hp (hphase k res)
  · exact Or.inr ⟨res, (hanswer k hk).trans hres, herr⟩

theorem Written.wrote {e : Engine} (h : Written s) (hs : Sane s) (hw : Writes s e s') : Written s' := by
  cases hw with
  | cancelled hphase | took _ _ hphase | flagged hphase | waited hphase | closed hphase | drained _ _ hphase =>
    exact h.keep (fun k res hp => by rw [hphase] at hp; cases hp) rfl fun _ _ => rfl
  | closedTwice => exact h
  | ended hphase =>
    refine h.keep (fun k res hp => ?_) rfl fun _ _ => rfl
    rcases hphase with hphase | hphase <;> (rw [hphase] at hp; cases hp)
  | ran k hphase =>
    obtain ⟨_, c, hc, _⟩ := hs.hand (by rw [hphase]; rfl)
    unfold State.run
    rw [hc]
    intro j hj
    have hold : ∀ j ∈ s.applied, ∃ res, answerOf s.calls j = some res ∧ res.err = none := by
      intro j hj
      rcases h j hj with ⟨res, hp, _⟩ | hanswer
      · rw [hphase] at hp
        cases hp
      · exact hanswer
    dsimp only at hj
    split at hj
    · next happlies =>
      rcases List.mem_append.mp hj with hj | hj
      · exact Or.inr (hold j hj)
      · rw [List.mem_singleton.mp hj]
        exact Or.inl ⟨_, rfl, (execute_err e c.op).mpr happlies⟩
    · exact Or.inr (hold j hj)
  | answered k res hphase =>
    have hhand : s.phase.hand = some k := by rw [hphase]; rfl
    intro j hj
    refine Or.inr ?_
    show ∃ r, answerOf (s.reply k res).calls j = some r ∧ r.err = none
    rw [hs.answerOf_reply hhand]
    rcases h j (reply_applied s k res ▸ hj) with ⟨r, hp, herr⟩ | ⟨r, hanswer, herr⟩
    · rw [hphase] at hp
      cases hp
      exact ⟨res, if_pos rfl, herr⟩
    · have hjk : j ≠ k := fun hjk => by simp [hjk, hs.answerOf_hand hhand] at hanswer
      exact ⟨r, (if_neg hjk).trans hanswer, herr⟩
  | refused k hphase =>
    have hhand : s.phase.hand = some k := by rw [hphase]; rfl
    refine h.keep (fun j res hp => by rw [hphase] at hp; cases hp) (reply_applied s k _) fun j hj => ?_
    show answerOf (s.reply k _).calls j = _
    rw [hs.answerOf_reply hhand]
    refine if_neg fun hjk => ?_
    -- what is refused was not answered before
    rcases h j hj with ⟨r, hp, _⟩ | ⟨r, hanswer, _⟩
    · rw [hphase] at hp
      cases hp
    · simp [hjk, hs.answerOf_hand hhand] at hanswer

theorem written_step (h : Written s) (hs : Sane s) (hstep : Stepped s m s') : Written s' := by
  have hsame : s'.phase = s.phase → s'.applied = s.applied → (∀ k, answerOf s'.calls k = answerOf s.calls k) →
    Written s' := by
    intro hphase happlied hanswer k hk
    rw [hphase, hanswer k]
    exact h k (happlied ▸ hk)
  cases hstep with
  | submitted op => exact hsame rfl rfl fun k => answerOf_submit op
  | callEnded _ _ hc | went _ _ _ _ _ hc | sent _ _ hc => exact hsame rfl rfl fun j => answerOf_set_same hc rfl
  | writerEnded | sentClosed => exact hsame rfl rfl fun _ => rfl
  | wrote _ _ _ hw => exact h.wrote hs hw

/-! ## 2. Who got an error -/

/-- The call ends with an error. -/
def Stage.failed : Stage → Bool
  | .leave _ err | .returned _ err => err.isSome
  | _ => false

/-- The operation was not applied and will not be: it was never queued, the writer has left its loop, or it was answered
    with an error. -/
inductive Unwritten (s : State) (k : Nat) : Prop where
  | unqueued (h : k ∉ s.queued)
  | late (hover : s.phase.over = true) (h : k ∉ s.applied)
  | refused (res : WriteResult) (hanswer : answerOf s.calls k = some res) (herr : res.err ≠ none)

theorem Unwritten.not_applied (h : Unwritten s k) (hw : Written s) (hs : Sane s) : k ∉ s.applied := by
  cases h with
  | unqueued h => exact fun hk => h (hw.queued hs hk)
  | late _ h => exact h
  | refused _ hanswer herr =>
    intro hk
    rcases hw k hk with ⟨r, hphase, _⟩ | ⟨r, hanswer', hnone⟩
    · rw [hs.answerOf_hand (by rw [hphase]; rfl)] at hanswer
      cases hanswer
    · rw [hanswer] at hanswer'
      cases hanswer'
      exact herr hnone

/-- Nothing that matters changes. -/
theorem Unwritten.same (h : Unwritten s k) (hqueued : k ∈ s'.queued → k ∈ s.queued)
    (hover : s.phase.over = true → s'.phase.over = true) (happlied : s'.applied = s.applied)
    (hanswer : ∀ res, answerOf s.calls k = some res → answerOf s'.calls k = some res) : Unwritten s' k := by
  cases h with
  | unqueued h => exact .unqueued fun hk => h (hqueued hk)
  | late ho h => exact .late (hover ho) (happlied ▸ h)
  | refused res ha herr => exact .refused res (hanswer res ha) herr

theorem Unwritten.wrote {e : Engine} (h : Unwritten s k) (hs : Sane s) (hw : Writes s e s') : Unwritten s' k := by
  -- the operation in hand has no answer yet
  have hreply : ∀ {j} res, s.phase.hand = some j → ∀ r, answerOf s.calls k = some r →
      answerOf (s.reply j res).calls k = some r := by
    intro j res hj r hanswer
    rw [hs.answerOf_reply hj, if_neg, hanswer]
    rintro rfl
    cases (hs.answerOf_hand hj).symm.trans hanswer
  cases hw with
  | took _ _ hphase =>
    refine h.same id (fun ho => ?_) rfl fun _ => id
    rw [hphase] at ho
    cases ho
  | cancelled | ended | flagged | waited | closed | drained => exact h.same id (fun _ => rfl) rfl fun _ => id
  | closedTwice => exact h.same id id rfl fun _ => id
  | ran j hphase =>
    obtain ⟨hqueued, c, hc, hdone⟩ := hs.hand (by rw [hphase]; rfl)
    unfold State.run
    rw [hc]
    cases h with
    | unqueued h => exact .unqueued h
    | late ho =>
      rw [hphase] at ho
      cases ho
    | refused res ha herr => exact .refused res ha herr
  | answered j res hphase =>
    refine h.same (reply_queued s j res ▸ id) (fun ho => ?_) (reply_applied s j res) (hreply _ (by rw [hphase]; rfl))
    rw [hphase] at ho
    cases ho
  | refused j hphase =>
    exact h.same (reply_queued s j _ ▸ id) (fun _ => rfl) (reply_applied s j _) (hreply _ (by rw [hphase]; rfl))

/-- The operation of the call was answered with an error, or was not answered and the writer has left its loop. -/
def Call.hopeless (p : Phase) (c : Call) : Bool :=
  match c.done with
  | some res => res.err.isSome
  | none => p.over

/-- A caller gives up on a queued operation only when it is hopeless. -/
def Hopeless (s : State) : Move → Prop
  | .call k true => ∀ c ∈ s.calls[k]?, c.stage = .await → c.hopeless s.phase = true
  | _ => True

instance (s : State) : (m : Move) → Decidable (Hopeless s m)
  | .call _ true => inferInstanceAs (Decidable (∀ c ∈ _, _))
  | .call _ false | .submit _ | .endCall _ | .endWriter | .write .. => inferInstanceAs (Decidable True)

/-- Every call that ends with an error is unwritten. -/
def Truthful (s : State) : Prop := ∀ (k : Nat) c, s.calls[k]? = some c → c.stage.failed = true → Unwritten s k

/-- A call that goes on to an error. -/
theorem Goes.failed {giveUp : Bool} {stage : Stage} {wg : Nat} (hgoes : Goes s c giveUp stage wg)
    (h : Truthful s) (hw : Written s) (hs : Sane s) (hok : Hopeless s (.call k giveUp)) (hc : s.calls[k]? = some c)
    (hfailed : stage.failed = true) : Unwritten s k := by
  have hearly : c.stage.early = true → Unwritten s k := fun he => .unqueued (hs.lined.early k c hc he)
  cases hgoes with
  | refused hstage | undone hstage =>
    apply hearly
    rw [hstage]
    rfl
  | admitted | counted | late | entered => cases hfailed
  | left _ _ hstage =>
    apply h k c hc
    rw [hstage]
    exact hfailed
  | received res _ hdone =>
    refine .refused res ((answerOf_get hc).trans hdone) fun hnone => ?_
    rw [hnone] at hfailed
    cases hfailed
  | gaveUp hgive hstage =>
    by_cases hawait : c.stage = .await
    · rw [hgive] at hok
      have hhopeless := hok c hc hawait
      unfold Call.hopeless at hhopeless
      split at hhopeless
      · next res hdone =>
        refine .refused res ((answerOf_get hc).trans hdone) fun hnone => ?_
        rw [hnone] at hhopeless
        cases hhopeless
      · next hdone =>
        -- what was applied is answered before the writer leaves its loop
        refine .late hhopeless fun hk => ?_
        rcases hw k hk with ⟨res, hphase, _⟩ | ⟨res, hanswer, _⟩
        · rw [hphase] at hhopeless
          cases hhopeless
        · rw [answerOf_get hc, hdone] at hanswer
          cases hanswer
    · apply hearly
      rw [(inside_cases hstage).resolve_right hawait]
      rfl

/-- An operation that is unwritten stays so, unless its call puts it on the queue. -/
theorem Unwritten.step {j : Nat} {d : Call} (h : Unwritten s j) (hs : Sane s) (hstep : Stepped s m s')
    (hd : s'.calls[j]? = some d) (hfailed : d.stage.failed = true) : Unwritten s' j := by
  cases hstep with
  | submitted op => exact h.same id id rfl fun _ => (answerOf_submit op).trans
  | callEnded _ _ hc | went _ _ _ _ _ hc => exact h.same id id rfl fun _ => Eq.trans (answerOf_set_same hc rfl)
  | writerEnded | sentClosed => exact h.same id id rfl fun _ => id
  | sent _ _ hc =>
    refine h.same (fun hj => (List.mem_append.mp hj).resolve_right fun hj => ?_) id rfl
      fun _ => Eq.trans (answerOf_set_same hc rfl)
    dsimp only [State.setStage, State.setCall] at hd
    rw [get_set hc, if_pos (List.mem_singleton.mp hj)] at hd
    cases hd
    cases hfailed
  | wrote _ _ _ hw => exact h.wrote hs hw

theorem truthful_step (h : Truthful s) (hw : Written s) (hs : Sane s) (hok : Hopeless s m)
    (hstep : Stepped s m s') : Truthful s' := by
  intro j d hd hfailed
  have hbefore : Unwritten s j := by
    rcases hstep.before hd with ⟨c, hc, hturn⟩ | ⟨_, op, rfl⟩
    · cases hturn with
      | same | ended | replied => exact h j _ hc hfailed
      | went _ _ _ hm hgoes => exact hgoes.failed h hw hs (hm ▸ hok) hc hfailed
      | sent => cases hfailed
    · cases hfailed
  exact hbefore.step hs hstep hd hfailed

/-- Who has returned stays so. -/
theorem returned_step {res : WriteResult} {err : Option WriteError}
    (hstep : Stepped s m s') (hc : s.calls[k]? = some c) (hret : c.stage = .returned res err) :
    ∃ c', s'.calls[k]? = some c' ∧ c'.stage = .returned res err := by
  obtain ⟨c', hc', hturn⟩ := hstep.after hc
  refine ⟨c', hc', ?_⟩
  cases hturn with
  | same | ended | replied => exact hret
  | sent _ hstage =>
    rw [hret] at hstage
    cases hstage
  | went _ _ _ _ hgoes =>
    cases hgoes with
    | refused hstage | admitted hstage | counted hstage | late hstage | entered hstage | undone hstage
    | received _ hstage | left _ _ hstage | gaveUp _ hstage =>
      rw [hret] at hstage
      cases hstage

/-! ## 3. The result -/

/-- What holds in every state of a run in which callers give up only what is hopeless. -/
structure Honest (s : State) : Prop where
  sane : Sane s
  written : Written s
  truthful : Truthful s

theorem honest_init : Honest .init :=
  ⟨sane_init, List.forall_mem_nil _, fun k c hc => by cases hc⟩

theorem Honest.step (h : Honest s) (hok : Hopeless s m) (hstep : s.step m = some s') : Honest s' :=
  ⟨h.sane.step hstep, written_step h.written h.sane (stepped hstep),
    truthful_step h.truthful h.written h.sane hok (stepped hstep)⟩

/-- **An error means that nothing was written:** when callers give up on a queued operation only if it is hopeless, the
    operation of a call that has returned an error is not applied in any later state. -/
theorem error_means_unwritten (s s' : State) (h : Runs.Reach State.step Hopeless .init s)
    (h' : Runs.Reach State.step Hopeless s s') (k : Nat) (c : Call) (res : WriteResult) (err : WriteError)
    (hc : s.calls[k]? = some c) (hret : c.stage = .returned res (some err)) : k ∉ s'.applied := by
  have hhonest : Honest s' := (h.trans h').inv honest_init fun _ _ _ hs hok hstep => hs.step hok hstep
  obtain ⟨c', hc', hstage⟩ : ∃ c', s'.calls[k]? = some c' ∧ c'.stage = .returned res (some err) := by
    refine h'.inv (I := fun t => ∃ c', t.calls[k]? = some c' ∧ c'.stage = .returned res (some err))
      ⟨c, hc, hret⟩ ?_
    intro t m t' ht _ hstep
    obtain ⟨d, hd, hstage⟩ := ht
    exact returned_step (stepped hstep) hd hstage
  have hfailed : c'.stage.failed = true := by
    rw [hstage]
    rfl
  exact (hhonest.truthful k c' hc' hfailed).not_applied hhonest.written hhonest.sane

/-- A call is on the queue, and its context ends. -/
def queuedAndEnded : List Move :=
  [.submit (.query "DELETE"), .call 0 false, .call 0 false, .call 0 false, .call 0 false, .endCall 0]

/-- It gives up before the writer has come to it, and the writer runs the operation. -/
def givesUpFirst : State := Runs.runList State.step .init (queuedAndEnded ++ [.call 0 true, .call 0 true])

/-- The call has returned an error, and its operation is applied afterwards. -/
theorem gave_up_and_applied :
    Runs.Reach State.step Runs.anyStep .init givesUpFirst ∧
    givesUpFirst.calls[0]? = some ⟨.query "DELETE", true, .returned noResult (some .callerDone), none⟩ ∧
    Runs.Reach State.step Runs.anyStep givesUpFirst
      (Runs.runList State.step givesUpFirst [.write false willing, .write false willing]) ∧
    0 ∈ (Runs.runList State.step givesUpFirst [.write false willing, .write false willing]).applied :=
  ⟨Runs.reach_of_runList _ _, by decide, Runs.reach_of_runList _ _, by decide⟩

/-- It gives up when the writer has left its loop. -/
def givesUpLate : State :=
  Runs.runList State.step .init (queuedAndEnded ++ [.endWriter, .write true willing, .call 0 true, .call 0 true])

/-- The writer then only refuses what is on the queue. -/
def refuses : List Move := List.replicate 6 (.write false willing)

theorem gave_up_and_refused :
    (Runs.runList State.step givesUpLate refuses).phase = .returned ∧
    0 ∉ (Runs.runList State.step givesUpLate refuses).applied := by
  exact ⟨by decide, error_means_unwritten givesUpLate _ (Runs.reach_of_decide _ _ (by decide))
    (Runs.reach_of_decide _ _ (by decide)) 0 ⟨.query "DELETE", true, .returned noResult (some .callerDone), none⟩
    noResult .callerDone (by decide) rfl⟩

end Maintenant.Writing
