/-
  File:      Maintenant/AgentServer/Stream.lean
  Subject:   THE REPLY CHANNELS OF ONE AGENT STREAM (internal/agentserver/sessions.go,
             `activeStream`: deliver, closeAll; `SendCommand` and its release).

  `pending` maps the request id of a command in flight to its reply channel. Sections under the
  stream's `mu` are one step each; `deliver` sends and closes OUTSIDE it, so a call of it that has
  found its channel stands in `delivers` and takes two more steps.

  * `Registered`, `Registered.step` -- in every run: each open channel is pending, or the one a
    final result is about to close, or given up by its reader, and one of these only; so no channel
    is closed twice, and at most eight commands are pending;
  * `replies_safe` -- nothing panics in the runs where no channel is closed while a deliver is
    about to send on it (`Unhurried`);
  * `late_send_panics` -- `closeAll` closes the channel a deliver has looked up.
-/
import Mathlib.Data.List.Perm.Basic
import Maintenant.Lib.GoChan
import Maintenant.Lib.GoMap

namespace Maintenant.AgentServer

open GoChan Runs

/-! ## 1. The stream -/

structure CommandResult where
  requestID : String
  last : Bool
deriving DecidableEq, Repr

/-- A call of `deliver` past its section: about to send, or about to close. -/
inductive Deliver where
  | send (ch : Nat) (res : CommandResult)
  | close (ch : Nat)
deriving DecidableEq, Repr

/-- `used` are the request ids so far, `released` the channels whose reader gave up; after a panic
    the process is down. -/
structure ActiveStream where
  pending : AList fun _ : String => Nat
  closed : Bool
  chans : Heap CommandResult
  delivers : List Deliver
  used : List String
  released : List Nat
  panic : Option Panic

def replyBuffer : Nat := 32

def maxInFlightPerAgent : Nat := 8

namespace ActiveStream

def fresh : ActiveStream := ⟨∅, false, [], [], [], [], none⟩

/-- The channels in `pending`. -/
def channels (st : ActiveStream) : List Nat := GoMap.values st.pending

/-- Go on with the heap, or panic. -/
def withHeap (st : ActiveStream) (r : Except Panic (Heap CommandResult))
    (k : ActiveStream → ActiveStream) : ActiveStream :=
  match r with
  | .ok h => k { st with chans := h }
  | .error p => { st with panic := some p }

/-- The section of `SendCommand` that registers the waiter. -/
def sendCommand (st : ActiveStream) (requestID : String) : ActiveStream :=
  if st.closed then st
  else if maxInFlightPerAgent ≤ st.pending.entries.length then st
  else { st with pending := st.pending.insert requestID st.chans.length,
                 chans := make st.chans, used := requestID :: st.used }

/-- The section of the release func; to delete what is not there does nothing. -/
def release (st : ActiveStream) (requestID : String) : ActiveStream :=
  match st.pending.lookup requestID with
  | none => st
  | some ch =>
    { st with pending := st.pending.erase requestID, released := ch :: st.released }

/-- The section of `deliver`. -/
def deliver (st : ActiveStream) (res : CommandResult) : ActiveStream :=
  match st.pending.lookup res.requestID with
  | none => st
  | some ch =>
    { st with pending := if res.last then st.pending.erase res.requestID else st.pending,
              delivers := st.delivers ++ [.send ch res] }

/-- A call of `deliver` goes on: the send, then for a final result the close. -/
def deliverStep (st : ActiveStream) (i : Nat) : Option ActiveStream :=
  match st.delivers[i]? with
  | none => none
  | some (.send ch res) =>
    some (st.withHeap (trySend replyBuffer st.chans ch res) fun st =>
      { st with delivers := if res.last then st.delivers.set i (.close ch)
                            else st.delivers.eraseIdx i })
  | some (.close ch) =>
    some (st.withHeap (close st.chans ch) fun st =>
      { st with delivers := st.delivers.eraseIdx i })

def closeAll (st : ActiveStream) : ActiveStream :=
  if st.closed then st
  else st.withHeap (closeEach st.chans st.channels) fun st =>
    { st with closed := true, pending := ∅ }

end ActiveStream

inductive StreamOp where
  | sendCommand (requestID : String)
  | release (requestID : String)
  | deliver (res : CommandResult)
  | deliverStep (i : Nat)
  | closeAll
deriving DecidableEq, Repr

/-- **One step on the stream**; request ids are not used twice. -/
def ActiveStream.step (st : ActiveStream) (op : StreamOp) : Option ActiveStream :=
  if st.panic.isSome then none
  else match op with
    | .sendCommand id => if id ∈ st.used then none else some (st.sendCommand id)
    | .release id => some (st.release id)
    | .deliver res => some (st.deliver res)
    | .deliverStep i => st.deliverStep i
    | .closeAll => some st.closeAll

/-- The channel a call of `deliver` is about to send on. -/
def Deliver.sending : Deliver → Option Nat
  | .send ch _ => some ch
  | .close _ => none

/-- The channel a call of `deliver` has the right to close: it took the final result. -/
def Deliver.final : Deliver → Option Nat
  | .send ch res => if res.last then some ch else none
  | .close ch => some ch

/-- The step closes no channel a deliver is about to send on. -/
def Unhurried (st : ActiveStream) : StreamOp → Prop
  | .closeAll => ∀ d ∈ st.delivers, ∀ ch ∈ d.sending, ch ∉ st.channels
  | .deliverStep i => ∀ d ∈ st.delivers, ∀ ch ∈ d.sending, st.delivers[i]? ≠ some (.close ch)
  | _ => True

/-! ## 2. In every run -/

namespace ActiveStream

/-- The channels that final results in progress are to close. -/
def finals (st : ActiveStream) : List Nat := st.delivers.filterMap Deliver.final

end ActiveStream

/-- Who answers for which open channel. -/
structure Registered (st : ActiveStream) : Prop where
  owners : OpenSet st.chans (st.channels ++ (st.finals ++ st.released))
  closed : st.closed = true → st.channels = []
  used : ∀ id ch, st.pending.lookup id = some ch → id ∈ st.used
  bounded : st.channels.length ≤ maxInFlightPerAgent
  panic : ∀ p ∈ st.panic, p = .sendOnClosed

section Steps

variable {st st' : ActiveStream}

theorem registered_fresh : Registered .fresh where
  owners := .nil
  closed _ := rfl
  used _ _ h := by cases h
  bounded := Nat.zero_le _
  panic _ h := absurd h (Option.not_mem_none _)

variable {id : String} {i : Nat}

/-- The delivers in progress, one of them in front. -/
theorem finals_perm {d : Deliver} (hd : st.delivers[i]? = some d) :
    st.finals.Perm (d.final.toList ++ (st.delivers.eraseIdx i).filterMap Deliver.final) := by
  obtain ⟨hi, hget⟩ := List.getElem?_eq_some_iff.mp hd
  have hperm := List.getElem_cons_eraseIdx_perm hi
  rw [hget] at hperm
  refine (hperm.symm.filterMap Deliver.final).trans ?_
  rw [List.filterMap_cons]
  cases d.final <;> exact List.Perm.refl _

theorem finals_set {d d' : Deliver} (hd : st.delivers[i]? = some d)
    (hfinal : d'.final = d.final) : ((st.delivers.set i d').filterMap Deliver.final).Perm st.finals := by
  obtain ⟨hi, -⟩ := List.getElem?_eq_some_iff.mp hd
  have hset : ({ st with delivers := st.delivers.set i d' } : ActiveStream).delivers[i]? = some d' := by
    rw [List.getElem?_set_self hi]
  have hperm := finals_perm hset
  rw [hfinal, List.eraseIdx_set_eq] at hperm
  exact hperm.trans (finals_perm hd).symm

section

variable (h : Registered st)

include h

theorem Registered.sendCommand (hid : id ∉ st.used) : Registered (st.sendCommand id) := by
  unfold ActiveStream.sendCommand
  split
  · exact h
  · next hopen =>
    split
    · exact h
    · next hroom =>
      have hnone : st.pending.lookup id = none := by
        cases hl : st.pending.lookup id with
        | none => rfl
        | some ch => exact absurd (h.used id ch hl) hid
      have hchannels : GoMap.values (st.pending.insert id st.chans.length) =
          st.chans.length :: st.channels := GoMap.values_insert _ hnone
      refine { h with owners := ?_, closed := fun hc => absurd hc hopen, used := ?_, bounded := ?_ }
      · show OpenSet (make st.chans) (GoMap.values _ ++ _)
        rw [hchannels]
        exact h.owners.make
      · intro id' ch hl
        rw [GoMap.lookup_insert] at hl
        split at hl
        · next e => exact e ▸ List.mem_cons_self
        · exact List.mem_cons_of_mem _ (h.used id' ch hl)
      · show (GoMap.values _).length ≤ _
        rw [hchannels, List.length_cons]
        have hlen : st.channels.length = st.pending.entries.length := List.length_map ..
        omega

/-- A waiter leaves `pending`, and somebody else answers for its channel from then on. -/
theorem Registered.leave {ch : Nat} {ds : List Deliver}
    {released : List Nat} (hl : st.pending.lookup id = some ch)
    (hnext : (ch :: (st.finals ++ st.released)).Perm (ds.filterMap Deliver.final ++ released)) :
    Registered { st with pending := st.pending.erase id, delivers := ds, released := released } := by
  have hperm := GoMap.perm_values_erase hl
  refine { h with owners := ?_, closed := fun hc => ?_, used := ?_, bounded := ?_ }
  · refine h.owners.perm ((hperm.append_right _).trans ?_)
    exact List.perm_middle.symm.trans (hnext.append_left _)
  · have := hperm.length_eq
    rw [show GoMap.values st.pending = [] from h.closed hc] at this
    cases this
  · intro id' ch' hl'
    rw [GoMap.lookup_erase] at hl'
    exact h.used id' ch' (Option.ite_none_left_eq_some.mp hl').2
  · have hlen := hperm.length_eq
    have hbound : (GoMap.values st.pending).length ≤ _ := h.bounded
    show (GoMap.values (st.pending.erase id)).length ≤ _
    rw [List.length_cons] at hlen
    omega

theorem Registered.release (id : String) : Registered (st.release id) := by
  unfold ActiveStream.release
  split
  · exact h
  · next ch hl => exact h.leave hl List.perm_middle.symm

theorem Registered.deliver (res : CommandResult) : Registered (st.deliver res) := by
  unfold ActiveStream.deliver
  split
  · exact h
  · next ch hl =>
    have hfinals : (st.delivers ++ [Deliver.send ch res]).filterMap Deliver.final =
        st.finals ++ (Deliver.send ch res).final.toList := by
      rw [List.filterMap_append]
      rfl
    by_cases hlast : res.last = true
    · rw [if_pos hlast]
      refine h.leave hl ?_
      rw [hfinals, show (Deliver.send ch res).final = some ch from if_pos hlast,
        List.append_assoc]
      exact List.perm_middle.symm
    · rw [if_neg hlast]
      refine { h with owners := ?_ }
      show OpenSet st.chans (st.channels ++ (List.filterMap _ _ ++ _))
      rw [hfinals, show (Deliver.send ch res).final = none from if_neg hlast, Option.toList_none,
        List.append_nil]
      exact h.owners

/-- A final result finds its channel open and closes no other. -/
theorem Registered.close_ok {ch : Nat} (hd : st.delivers[i]? = some (.close ch)) :
    ∃ heap, close st.chans ch = .ok heap ∧ OpenSet heap
      (st.channels ++ ((st.delivers.eraseIdx i).filterMap Deliver.final ++ st.released)) ∧
      ∀ m, IsOpen st.chans m → m ≠ ch → IsOpen heap m := by
  have hfinals : st.finals.Perm (ch :: (st.delivers.eraseIdx i).filterMap Deliver.final) :=
    finals_perm hd
  have howners := h.owners.perm (((hfinals.append_right _).append_left _).trans List.perm_middle)
  obtain ⟨heap, hclose, hrest⟩ := howners.close
  refine ⟨heap, hclose, hrest, fun m hm hne => (hrest.opened m).mpr ?_⟩
  exact (List.mem_cons.mp ((howners.opened m).mp hm)).resolve_left hne

/-- The pending channels are open and can all be closed. -/
theorem Registered.closeEach_ok :
    ∃ heap, closeEach st.chans st.channels = .ok heap ∧ OpenSet heap (st.finals ++ st.released) ∧
      ∀ m, IsOpen st.chans m → m ∉ st.channels → IsOpen heap m := by
  obtain ⟨heap, hclose, hrest⟩ := h.owners.closeEach
  refine ⟨heap, hclose, hrest, fun m hm hne => (hrest.opened m).mpr ?_⟩
  exact (List.mem_append.mp ((h.owners.opened m).mp hm)).resolve_left hne

/-- **A deliver goes on.** Its close finds the channel open; its send need not. -/
theorem Registered.deliverStep (hs : st.deliverStep i = some st') : Registered st' := by
  unfold ActiveStream.deliverStep at hs
  split at hs
  · cases hs
  · next ch res hd =>
    cases hs
    unfold ActiveStream.withHeap
    split
    · next heap hsend =>
      have howners := h.owners.send hsend
      refine { h with owners := ?_ }
      refine howners.perm (List.Perm.append_left _ (List.Perm.append_right _ ?_))
      show st.finals.Perm (List.filterMap _ (if res.last then _ else _))
      by_cases hlast : res.last = true
      · rw [if_pos hlast]
        exact (finals_set hd (if_pos hlast).symm).symm
      · rw [if_neg hlast]
        have := finals_perm hd
        rwa [show (Deliver.send ch res).final = none from if_neg hlast] at this
    · next p hsend => exact { h with panic := fun q hq => by cases hq; exact trySend_error hsend }
  · next ch hd =>
    cases hs
    obtain ⟨heap, hclose, hrest, -⟩ := h.close_ok hd
    rw [hclose]
    exact { h with owners := hrest }

/-- **The stream dies**: nobody is pending any more. -/
theorem Registered.closeAll : Registered st.closeAll := by
  unfold ActiveStream.closeAll
  split
  · exact h
  · obtain ⟨heap, hclose, hrest, -⟩ := h.closeEach_ok
    rw [hclose]
    exact { owners := hrest, closed := fun _ => rfl, used := fun _ _ hl => (by cases hl),
            bounded := Nat.zero_le _, panic := h.panic }

theorem Registered.step {op : StreamOp} (hs : st.step op = some st') : Registered st' := by
  obtain ⟨-, hs⟩ := Option.ite_none_left_eq_some.mp hs
  cases op with
  | sendCommand =>
    obtain ⟨hid, ⟨⟩⟩ := Option.ite_none_left_eq_some.mp hs
    exact h.sendCommand hid
  | release id =>
    cases hs
    exact h.release id
  | deliver res =>
    cases hs
    exact h.deliver res
  | deliverStep => exact h.deliverStep hs
  | closeAll =>
    cases hs
    exact h.closeAll

end

/-! ## 3. Runs without a late send -/

/-- Every deliver about to send finds its channel open. -/
structure Sending (st : ActiveStream) : Prop extends Registered st where
  sends : ∀ d ∈ st.delivers, ∀ ch ∈ d.sending, IsOpen st.chans ch
  quiet : st.panic = none

variable (h : Sending st)

include h

theorem Sending.deliver (res : CommandResult) : Sending (st.deliver res) := by
  have hreg := h.toRegistered.deliver res
  unfold ActiveStream.deliver at hreg ⊢
  split at hreg
  · exact h
  · next ch hl =>
    have hopen : IsOpen st.chans ch :=
      (h.owners.opened ch).mpr (List.mem_append_left _ (GoMap.mem_values.mpr ⟨_, hl⟩))
    refine { hreg with sends := fun d hd c hc => ?_, quiet := h.quiet }
    rcases List.mem_append.mp hd with hd | hd
    · exact h.sends d hd c hc
    · rw [List.mem_singleton.mp hd] at hc
      cases hc
      exact hopen

theorem Sending.deliverStep (hok : Unhurried st (.deliverStep i))
    (hs : st.deliverStep i = some st') : Sending st' := by
  have hreg := h.toRegistered.deliverStep hs
  unfold ActiveStream.deliverStep at hs
  split at hs
  · cases hs
  · next ch res hd =>
    obtain ⟨heap, hsend⟩ := trySend_of_open replyBuffer res
      (h.sends _ (List.mem_of_getElem? hd) ch rfl)
    rw [hsend] at hs
    cases hs
    refine { hreg with sends := fun d hd' c hc => ?_, quiet := h.quiet }
    show IsOpen heap c
    rw [isOpen_trySend hsend]
    have hmem : d ∈ if res.last then st.delivers.set i (.close ch) else st.delivers.eraseIdx i := hd'
    split at hmem
    · rcases List.mem_or_eq_of_mem_set hmem with hmem | rfl
      · exact h.sends d hmem c hc
      · cases hc
    · exact h.sends d (List.mem_of_mem_eraseIdx hmem) c hc
  · next ch hd =>
    obtain ⟨heap, hclose, -, hothers⟩ := h.close_ok hd
    rw [hclose] at hs
    cases hs
    refine { hreg with sends := fun d hd' c hc => ?_, quiet := h.quiet }
    have hmem := List.mem_of_mem_eraseIdx hd'
    refine hothers c (h.sends d hmem c hc) ?_
    rintro rfl
    exact hok d hmem c hc hd

theorem Sending.closeAll (hok : Unhurried st .closeAll) : Sending st.closeAll := by
  have hreg := h.toRegistered.closeAll
  by_cases hclosed : st.closed = true
  · rw [ActiveStream.closeAll, if_pos hclosed]
    exact h
  · obtain ⟨heap, hclose, -, hothers⟩ := h.closeEach_ok
    rw [ActiveStream.closeAll, if_neg hclosed, hclose] at hreg ⊢
    exact { hreg with
      sends := fun d hd c hc => hothers c (h.sends d hd c hc) (hok d hd c hc)
      quiet := h.quiet }

/-- A section that leaves the delivers alone and closes nothing. -/
theorem Sending.keep (hreg : Registered st') (hd : st'.delivers = st.delivers)
    (hopen : ∀ m, IsOpen st.chans m → IsOpen st'.chans m) (hp : st'.panic = st.panic) : Sending st' :=
  { hreg with
    sends := fun d hmem ch hch => hopen ch (h.sends d (hd ▸ hmem) ch hch)
    quiet := hp.trans h.quiet }

theorem Sending.sendCommand (hid : id ∉ st.used) : Sending (st.sendCommand id) := by
  refine h.keep (h.toRegistered.sendCommand hid) ?_ (fun m hm => ?_) ?_
  all_goals
    unfold ActiveStream.sendCommand
    split
    · first | rfl | exact hm
    · split
      · first | rfl | exact hm
      · first | rfl | exact isOpen_make.mpr (Or.inl hm)

theorem Sending.release (id : String) : Sending (st.release id) := by
  refine h.keep (h.toRegistered.release id) ?_ (fun m hm => ?_) ?_
  all_goals
    unfold ActiveStream.release
    split <;> first | rfl | exact hm

theorem Sending.step {op : StreamOp} (hok : Unhurried st op)
    (hs : st.step op = some st') : Sending st' := by
  obtain ⟨-, hs⟩ := Option.ite_none_left_eq_some.mp hs
  cases op with
  | sendCommand =>
    obtain ⟨hid, ⟨⟩⟩ := Option.ite_none_left_eq_some.mp hs
    exact h.sendCommand hid
  | release id =>
    cases hs
    exact h.release id
  | deliver res =>
    cases hs
    exact h.deliver res
  | deliverStep => exact h.deliverStep hok hs
  | closeAll =>
    cases hs
    exact h.closeAll hok

end Steps

/-- **The reply channels are used safely**: no value is sent on a closed channel and no channel is
    closed twice (nothing panics), and at most eight commands are pending. -/
theorem replies_safe {st : ActiveStream}
    (h : Reach ActiveStream.step Unhurried ActiveStream.fresh st) :
    st.panic = none ∧ st.pending.entries.length ≤ maxInFlightPerAgent := by
  have hstart : Sending .fresh :=
    { registered_fresh with sends := List.forall_mem_nil _, quiet := rfl }
  have hst : Sending st := by
    refine Reach.inv hstart ?_ h
    intro st op st' hst hok hs
    exact hst.step hok hs
  refine ⟨hst.quiet, ?_⟩
  have hlen : st.channels.length = st.pending.entries.length := List.length_map ..
  rw [← hlen]
  exact hst.bounded

/-! ## 4. Two runs -/

/-- A log line comes back, then the last one, then the stream dies. -/
def answeredInTime : List StreamOp :=
  [.sendCommand "r", .deliver ⟨"r", false⟩, .deliverStep 0, .deliver ⟨"r", true⟩, .closeAll,
    .deliverStep 0, .deliverStep 0]

instance (st : ActiveStream) : (op : StreamOp) → Decidable (Unhurried st op)
  | .closeAll => inferInstanceAs (Decidable (∀ d ∈ st.delivers, ∀ ch ∈ d.sending, ch ∉ st.channels))
  | .deliverStep i => inferInstanceAs (Decidable (∀ d ∈ st.delivers, ∀ ch ∈ d.sending,
      ¬st.delivers[i]? = some (.close ch)))
  | .sendCommand _ | .release _ | .deliver _ => .isTrue trivial

/-- Both values are in the channel, and it is closed once. -/
theorem answered_in_time :
    let st := runList ActiveStream.step .fresh answeredInTime
    st.chans = [⟨[⟨"r", false⟩, ⟨"r", true⟩], true⟩] ∧ st.panic = none := by
  have hrun : Reach ActiveStream.step Unhurried .fresh _ := reach_of_decide answeredInTime _ (by decide)
  exact ⟨by decide, (replies_safe hrun).1⟩

/-- **A value is sent on a closed channel**: the stream dies between the lookup of a deliver and
    its send. -/
theorem late_send_panics :
    ∃ st : ActiveStream, Reach ActiveStream.step anyStep .fresh st ∧ st.panic = some .sendOnClosed :=
  ⟨runList ActiveStream.step .fresh
      [.sendCommand "r", .deliver ⟨"r", false⟩, .closeAll, .deliverStep 0],
    reach_of_runList _ _, by decide⟩

end Maintenant.AgentServer
