/-
  File:      Maintenant/AgentServer/Teardown.lean
  Subject:   NO STREAM IS LEAKED AND NONE IS KILLED WRONGLY, in any interleaving of `Open`, `Close`,
             `CloseStream` and stale sweeps with the commands on the streams.

  * `Later` -- what a section may do to a stream: the first cause stays, the waiters stay served;
  * `Owned`, `Owned.perform` -- a stream that is not the active one of its agent is cancelled, and
    its waiters are released or somebody is about to; a revoked one was removed on purpose;
  * `sessions_torn_down` -- at most one active stream for each agent, the others torn down once the
    calls have returned, and what a token that is not the active one's can do: nothing, unless it
    comes with a reason that revokes;
  * `token_revokes` -- `CloseStream` with such a reason.
-/
import Maintenant.AgentServer.Sessions

namespace Maintenant.AgentServer

open GoChan Runs

/-! ## 1. One stream -/

variable {stream : ActiveStream} {st : Session}

/-- Nobody waits on the stream any more: what is still open is about to be closed by a final result,
    or was given up by its reader. -/
structure Session.TornDown (st : Session) : Prop where
  cancelled : st.cause.isSome = true
  closed : st.stream.closed = true
  empty : st.stream.channels = []
  waiters : ∀ ch, IsOpen st.stream.chans ch → ch ∈ st.stream.finals ∨ ch ∈ st.stream.released

/-- What a section may do to a stream. -/
structure Later (st st' : Session) : Prop where
  agent : st'.agentID = st.agentID
  cause : ∀ c, st.cause = some c → st'.cause = some c
  closed : st.stream.closed = true → st'.stream.closed = true
  registered : Registered st.stream → Registered st'.stream

theorem later_refl (st : Session) : Later st st := ⟨rfl, fun _ h => h, fun h => h, fun h => h⟩

theorem later_cancel (st : Session) (c : Cause) : Later st (st.cancel c) where
  agent := rfl
  cause c' h := by
    unfold Session.cancel
    rw [h]
    rfl
  closed h := h
  registered h := h

/-- `closeAll` does release the waiters: nothing of what it closes is closed already. -/
theorem closed_closeAll (h : Registered stream) : stream.closeAll.closed = true := by
  unfold ActiveStream.closeAll
  split
  · assumption
  · obtain ⟨heap, hclose, -, -⟩ := h.closeEach_ok
    rw [hclose]
    rfl

theorem later_closeAll (st : Session) : Later st st.closeAll where
  agent := rfl
  cause _ h := h
  closed h := by
    unfold Session.closeAll ActiveStream.closeAll
    rw [if_pos h]
    exact h
  registered h := h.closeAll

theorem Later.trans {a b c : Session} (h : Later a b) (h' : Later b c) : Later a c where
  agent := h'.agent.trans h.agent
  cause x hx := h'.cause x (h.cause x hx)
  closed hx := h'.closed (h.closed hx)
  registered hx := h'.registered (h.registered hx)

theorem cause_cancel (st : Session) (c : Cause) : (st.cancel c).cause.isSome = true := by
  unfold Session.cancel
  cases st.cause <;> rfl

/-- A later cancellation does not change the cause. -/
theorem cause_cancel_eq {c c' : Cause} (h : (st.cancel c).cause = some c') : st.cause = some c' ∨ c = c' := by
  unfold Session.cancel at h
  cases hcause : st.cause with
  | none =>
    rw [hcause] at h
    exact Or.inr (Option.some.inj h)
  | some =>
    rw [hcause] at h
    exact Or.inl h

/-- A stream stays closed whatever is done on it. -/
theorem closed_step {stream' : ActiveStream} {op : StreamOp}
    (h : stream.step op = some stream') (hc : stream.closed = true) : stream'.closed = true := by
  obtain ⟨-, h⟩ := Option.ite_none_left_eq_some.mp h
  cases op with
  | sendCommand =>
    obtain ⟨-, ⟨⟩⟩ := Option.ite_none_left_eq_some.mp h
    unfold ActiveStream.sendCommand
    rw [if_pos hc]
    exact hc
  | release =>
    cases h
    unfold ActiveStream.release
    split <;> exact hc
  | deliver =>
    cases h
    unfold ActiveStream.deliver
    split <;> exact hc
  | deliverStep =>
    dsimp only [ActiveStream.deliverStep] at h
    split at h
    · cases h
    all_goals
      cases h
      unfold ActiveStream.withHeap
      split <;> exact hc
  | closeAll =>
    cases h
    unfold ActiveStream.closeAll
    rw [if_pos hc]
    exact hc

theorem later_step {op : StreamOp} (h : st.stream.step op = some stream) : Later st { st with stream := stream } :=
  ⟨rfl, fun _ hc => hc, closed_step h, fun hreg => hreg.step h⟩

/-! ## 2. The registry -/

/-- The stream was removed while it was the active one, by `Close` or by `CloseStream` with its own
    token, and for a reason that revokes. -/
def Sessions.RemovedForGood (s : Sessions) (n : Nat) : Prop :=
  ∃ r ∈ s.removals, r.stream = n ∧ (r.only = none ∨ r.only = some n) ∧ terminal r.reason = true

/-- Of the streams and what the calls have yet to do. -/
structure Owned (s : Sessions) (todo : List Todo) : Prop where
  owner : ∀ id n, s.active.lookup id = some n → ∃ st, s.streams[n]? = some st ∧ st.agentID = id
  torn : ∀ (n : Nat) (st : Session), s.streams[n]? = some st → s.active.lookup st.agentID ≠ some n →
    st.cause.isSome = true ∧ (st.stream.closed = true ∨ .closeAll n ∈ todo)
  registered : ∀ (n : Nat) (st : Session), s.streams[n]? = some st → Registered st.stream
  revoked : ∀ (n : Nat) (st : Session), s.streams[n]? = some st → st.cause = some .revoked →
    s.RemovedForGood n

section Sections

variable {s : Sessions} {todo todo' : List Todo} {id : String} {n : Nat}

theorem Owned.mono (h : Owned s todo) (hsub : ∀ n, .closeAll n ∈ todo → .closeAll n ∈ todo') : Owned s todo' :=
  { h with torn := fun n st hst hne => (h.torn n st hst hne).imp_right (Or.imp_right (hsub n)) }

variable {f : Session → Session}

theorem get_update {m : Nat} {st' : Session} (h : (s.update n f).streams[m]? = some st') :
    ∃ st, s.streams[m]? = some st ∧ (n = m ∧ st' = f st ∨ n ≠ m ∧ st' = st) := by
  unfold Sessions.update at h
  rw [List.getElem?_modify] at h
  obtain ⟨st, hst, rfl⟩ := Option.map_eq_some_iff.mp h
  refine ⟨st, hst, ?_⟩
  by_cases hn : n = m
  · exact Or.inl ⟨hn, if_pos hn⟩
  · exact Or.inr ⟨hn, if_neg hn⟩

theorem get_update_of {m : Nat} (h : s.streams[m]? = some st) :
    (s.update n f).streams[m]? = some (if n = m then f st else st) := by
  unfold Sessions.update
  rw [List.getElem?_modify, h]
  rfl

/-- **A section on one stream.** -/
theorem Owned.update (h : Owned s todo) (hf : ∀ st, s.streams[n]? = some st → Later st (f st))
    (hrev : ∀ st, s.streams[n]? = some st → (f st).cause = some .revoked →
      st.cause = some .revoked ∨ s.RemovedForGood n) : Owned (s.update n f) todo := by
  have hlater : ∀ (m : Nat) (st' : Session), (s.update n f).streams[m]? = some st' →
      ∃ st, s.streams[m]? = some st ∧ Later st st' := by
    intro m st' hst'
    obtain ⟨st, hst, ⟨rfl, rfl⟩ | ⟨-, rfl⟩⟩ := get_update hst'
    · exact ⟨st, hst, hf st hst⟩
    · exact ⟨st', hst, later_refl st'⟩
  constructor
  · intro id m hl
    obtain ⟨st, hst, hid⟩ := h.owner id m hl
    obtain ⟨st₀, hst₀, hl'⟩ := hlater m _ (get_update_of hst)
    obtain rfl : st₀ = st := Option.some.inj (hst₀.symm.trans hst)
    exact ⟨_, get_update_of hst, hl'.agent.trans hid⟩
  · intro m st' hst' hne
    obtain ⟨st, hst, hl⟩ := hlater m st' hst'
    rw [hl.agent] at hne
    obtain ⟨hcause, hclosed⟩ := h.torn m st hst hne
    obtain ⟨c, hc⟩ := Option.isSome_iff_exists.mp hcause
    exact ⟨Option.isSome_iff_exists.mpr ⟨c, hl.cause c hc⟩, hclosed.imp_left hl.closed⟩
  · intro m st' hst'
    obtain ⟨st, hst, hl⟩ := hlater m st' hst'
    exact hl.registered (h.registered m st hst)
  · intro m st' hst' hc
    obtain ⟨st, hst, ⟨rfl, rfl⟩ | ⟨-, rfl⟩⟩ := get_update hst'
    · exact (hrev st hst hc).elim (h.revoked n st hst) fun hr => hr
    · exact h.revoked m st' hst hc

/-- `closeAll` is done, and need not be any more. -/
theorem Owned.closeAll (h : Owned s (.closeAll n :: todo)) : Owned (s.update n Session.closeAll) todo := by
  have hup := h.update (n := n) (fun st _ => later_closeAll st)
    (fun _ _ hc => Or.inl hc)
  refine { hup with torn := fun m st' hst' hne => ?_ }
  obtain ⟨hcause, hclosed⟩ := hup.torn m st' hst' hne
  refine ⟨hcause, ?_⟩
  rcases hclosed with hclosed | hmem
  · exact Or.inl hclosed
  · rcases List.mem_cons.mp hmem with e | hmem
    · cases e
      obtain ⟨st, hst, ⟨-, rfl⟩ | ⟨hne, -⟩⟩ := get_update hst'
      · exact Or.inl (closed_closeAll (h.registered _ st hst))
      · exact absurd rfl hne
    · exact Or.inr hmem

variable (h : Owned s todo)

include h

/-- A stream that is cancelled leaves the map; its waiters are to be released. -/
theorem Owned.erase (hl : s.active.lookup id = some n)
    (hcause : ∀ st, s.streams[n]? = some st → st.cause.isSome = true) :
    Owned { s with active := s.active.erase id } (.closeAll n :: todo) := by
  refine { h with owner := fun id' m hl' => ?_, torn := fun m st hst hne => ?_ }
  · rw [GoMap.lookup_erase] at hl'
    exact h.owner id' m (Option.ite_none_left_eq_some.mp hl').2
  · by_cases e : s.active.lookup st.agentID = some m
    · -- it was the active stream of its agent, and is not any more
      by_cases hid : st.agentID = id
      · rw [hid] at e
        obtain rfl : n = m := Option.some.inj (hl.symm.trans e)
        exact ⟨hcause st hst, Or.inr List.mem_cons_self⟩
      · exact absurd ((AList.lookup_erase_ne hid).trans e) hne
    · obtain ⟨hc, hclosed⟩ := h.torn m st hst e
      exact ⟨hc, hclosed.imp_right (List.mem_cons_of_mem _)⟩

theorem Owned.log (r : Removal) : Owned { s with removals := r :: s.removals } todo := by
  refine { h with revoked := fun m st hst hc => ?_ }
  obtain ⟨r', hr', hrest⟩ := h.revoked m st hst hc
  exact ⟨r', List.mem_cons_of_mem _ hr', hrest⟩

theorem Owned.drop (cause : Cause) (hl : s.active.lookup id = some n)
    (hrev : cause = .revoked → s.RemovedForGood n) : Owned (s.drop id n cause) (.closeAll n :: todo) := by
  have hup := h.update (n := n) (f := (·.cancel cause)) (fun st _ => later_cancel st cause) ?_
  · refine hup.erase hl fun st' hst' => ?_
    obtain ⟨st, -, ⟨-, rfl⟩ | ⟨hne, -⟩⟩ := get_update hst'
    · exact cause_cancel st cause
    · exact absurd rfl hne
  · exact fun st _ hc => (cause_cancel_eq hc).imp_right hrev

/-- A new stream takes the place of one that is out of the way. -/
theorem Owned.add (at' : Nat) (reported : Finset String)
    (hold : ∀ n st, s.active.lookup id = some n → s.streams[n]? = some st →
      st.cause.isSome = true ∧ st.stream.closed = true) :
    Owned { s with offlineReported := reported, streams := s.streams ++ [⟨id, at', none, .fresh⟩],
                   active := s.active.insert id s.streams.length } todo := by
  constructor
  · intro id' m hl
    rw [GoMap.lookup_insert] at hl
    split at hl
    · next e =>
      cases hl
      exact ⟨_, List.getElem?_concat_length, e.symm⟩
    · obtain ⟨st, hst, hid⟩ := h.owner id' m hl
      exact ⟨st, Runs.get_concat.mpr (Or.inl hst), hid⟩
  · intro m st hst hne
    rcases Runs.get_concat.mp hst with hst | ⟨rfl, rfl⟩
    · by_cases hold' : s.active.lookup st.agentID = some m
      · by_cases hid : st.agentID = id
        · obtain ⟨hcause, hclosed⟩ := hold m st (hid ▸ hold') hst
          exact ⟨hcause, Or.inl hclosed⟩
        · exact absurd ((AList.lookup_insert_ne hid).trans hold') hne
      · exact h.torn m st hst hold'
    · exact absurd (AList.lookup_insert _) hne
  · intro m st hst
    rcases Runs.get_concat.mp hst with hst | ⟨-, rfl⟩
    · exact h.registered m st hst
    · exact registered_fresh
  · intro m st hst hc
    rcases Runs.get_concat.mp hst with hst | ⟨-, rfl⟩
    · exact h.revoked m st hst hc
    · cases hc

/-- **`Open`**: the stream it replaces is cancelled and closed on the spot. -/
theorem Owned.register (id : String) (at' : Nat) : Owned (s.register id at') todo := by
  unfold Sessions.register
  cases hl : s.active.lookup id with
  | none => exact h.add at' _ fun n st hl' => by rw [hl] at hl'; cases hl'
  | some n =>
    have hup := h.update (n := n) (f := fun st => (st.cancel .replaced).closeAll)
      (fun st _ => (later_cancel st .replaced).trans (later_closeAll _)) ?_
    · refine hup.add at' _ fun m st' hl' hst' => ?_
      obtain rfl : n = m := Option.some.inj (hl.symm.trans hl')
      obtain ⟨st, hst, ⟨-, rfl⟩ | ⟨hne, -⟩⟩ := get_update hst'
      · exact ⟨cause_cancel st .replaced, closed_closeAll (h.registered n st hst)⟩
      · exact absurd rfl hne
    · intro st _ hc
      have hcancel : (st.cancel .replaced).cause = some .revoked := hc
      exact (cause_cancel_eq hcancel).imp_right nofun

/-- **`remove`**: the stream it takes is cancelled; to be revoked takes a reason that revokes. -/
theorem Owned.remove (id : String) (only : Option Nat) (reason : String) :
    Owned (s.remove id only reason).1 ((s.remove id only reason).2 ++ todo) := by
  unfold Sessions.remove
  cases hl : s.active.lookup id with
  | none => exact h.mono fun n hmem => List.mem_append_right _ hmem
  | some n =>
    dsimp only
    split
    · exact h
    · next hany =>
      have hdrop := (h.log ⟨n, only, reason⟩).drop (causeForReason reason) hl ?_
      · refine hdrop.mono fun m hmem => ?_
        rcases List.mem_cons.mp hmem with e | hmem
        · exact List.mem_append_left _ (e ▸ List.mem_cons_self)
        · exact List.mem_append_right _ hmem
      · intro hcause
        refine ⟨_, List.mem_cons_self, rfl, ?_, ?_⟩
        · cases only with
          | none => exact Or.inl rfl
          | some m =>
            have hmn : m = n := by simpa using hany
            exact Or.inr (congrArg some hmn)
        · unfold causeForReason at hcause
          split at hcause
          · assumption
          · split at hcause <;> cases hcause

theorem Owned.sweep (start : Nat) (settled : Bool) (id : String) :
    Owned (s.sweep start settled id).1 ((s.sweep start settled id).2 ++ todo) := by
  unfold Sessions.sweep
  cases hl : s.active.lookup id with
  | none =>
    dsimp only
    split
    · exact { h.mono (fun n => List.mem_append_right _) with }
    · exact h
  | some n =>
    have hdrop : Owned (s.drop id n .stale) (.closeAll n :: todo) := h.drop .stale hl nofun
    dsimp only
    split
    · exact h
    · split
      · have hmore : Owned (s.drop id n .stale) (.closeAll n :: .hook id "stale" false :: todo) :=
          hdrop.mono fun m hmem => (List.mem_cons.mp hmem).elim (fun e => e ▸ List.mem_cons_self)
            fun hmem => List.mem_cons_of_mem _ (List.mem_cons_of_mem _ hmem)
        exact { hmore with }
      · exact hdrop

omit h

/-- **Every entry of a call.** -/
theorem Owned.perform {t : Todo} (h : Owned s (t :: todo)) : Owned (perform s t).1 ((perform s t).2 ++ todo) := by
  have hrest : (∀ n, t ≠ .closeAll n) → Owned s todo := fun hne =>
    h.mono fun n hmem => (List.mem_cons.mp hmem).resolve_left fun e => hne n e.symm
  cases t with
  | register id at' => exact ((hrest nofun).register id at').mono fun n => List.mem_append_right _
  | remove id only reason => exact (hrest nofun).remove id only reason
  | mark =>
    dsimp only [AgentServer.perform, Sessions.mark]
    split <;> exact { hrest nofun with }
  | closeAll => exact h.closeAll
  | hook => exact { hrest nofun with }
  | sweep start settled id => exact (hrest nofun).sweep start settled id

end Sections

/-! ## 3. The server -/

section Runs

variable {s s' : Server}

theorem Owned.step {op : Op} (h : Owned s.sessions s.calls.flatten) (hs : s.step op = some s') :
    Owned s'.sessions s'.calls.flatten := by
  cases step_works hs with
  | rests => exact h
  | begins _ _ _ =>
    refine h.mono fun n hmem => ?_
    rw [Server.call, List.flatten_append]
    exact List.mem_append_left _ hmem
  | goesOn _ _ _ hi =>
    have hfront := h.mono fun n hmem => (calls_perm hi).mem_iff.mp hmem
    exact hfront.perform.mono fun n hmem => (calls_after_perm hi).mem_iff.mpr hmem
  | moves _ _ st _ hst hstep =>
    refine h.update (fun st' hst' => ?_) (fun _ _ hc => Or.inl hc)
    obtain rfl : st = st' := Option.some.inj (hst.symm.trans hst')
    exact later_step hstep
  | ends =>
    refine h.update (fun st _ => later_cancel st .parent) (fun st _ hc => ?_)
    exact (cause_cancel_eq hc).imp_right nofun

/-- A token of a stream that is not the agent's active one: nothing happens, unless the agent has no
    active stream and the reason revokes. -/
theorem run_remove_superseded {i n : Nat} {id reason : String} {rest : List Todo}
    (hi : s.calls[i]? = some (.remove id (some n) reason :: rest)) (hold : s.sessions.active.lookup id ≠ some n)
    (hreason : terminal reason = false ∨ s.sessions.active.lookup id ≠ none) :
    s.run i = some { s with calls := s.calls.set i rest } := by
  have hperform : s.sessions.remove id (some n) reason = (s.sessions, []) := by
    unfold Sessions.remove
    cases hl : s.sessions.active.lookup id with
    | none =>
      have hterminal := hreason.resolve_right fun hne => hne hl
      rw [hterminal, Bool.and_false]
      rfl
    | some m =>
      have hne : n ≠ m := fun e => hold (hl.trans (congrArg some e.symm))
      exact if_pos (by simpa using hne)
  unfold Server.run
  rw [hi]
  dsimp only [perform]
  rw [hperform]
  rfl

end Runs

/-- **No stream is leaked, and none is killed wrongly.** -/
theorem sessions_torn_down {hook : Bool} {s : Server}
    (h : Reach Server.step anyStep (.fresh hook) s) :
    (∀ (n m : Nat) (st st' : Session) (id id' : String), s.sessions.active.lookup id = some n →
        s.sessions.active.lookup id' = some m → s.sessions.streams[n]? = some st →
        s.sessions.streams[m]? = some st' → st.agentID = st'.agentID → n = m) ∧
      (s.Quiet → ∀ (n : Nat) (st : Session), s.sessions.streams[n]? = some st →
        s.sessions.active.lookup st.agentID ≠ some n → st.TornDown) ∧
      (∀ (i n : Nat) (id reason : String) (rest : List Todo),
        s.calls[i]? = some (.remove id (some n) reason :: rest) →
        s.sessions.active.lookup id ≠ some n →
        terminal reason = false ∨ s.sessions.active.lookup id ≠ none →
        s.run i = some { s with calls := s.calls.set i rest }) ∧
      (∀ (n : Nat) (st : Session), s.sessions.streams[n]? = some st → st.cause = some .revoked →
        s.sessions.RemovedForGood n) := by
  have hstart : Owned (Sessions.fresh hook) [] :=
    ⟨fun _ _ hl => (by cases hl), fun _ _ hst => (by cases hst), fun _ _ hst => (by cases hst),
      fun _ _ hst => (by cases hst)⟩
  have hs : Owned s.sessions s.calls.flatten := by
    refine Reach.inv (I := fun s => Owned s.sessions s.calls.flatten) hstart ?_ h
    intro s op s' hs _ hstep
    exact hs.step hstep
  refine ⟨?_, ?_, fun i n id reason rest => run_remove_superseded, hs.revoked⟩
  · intro n m st st' id id' hn hm hst hst' hid
    obtain ⟨st₁, hst₁, rfl⟩ := hs.owner id n hn
    obtain ⟨st₂, hst₂, rfl⟩ := hs.owner id' m hm
    rw [Option.some.inj (hst₁.symm.trans hst), hid,
      ← Option.some.inj (hst₂.symm.trans hst')] at hn
    exact Option.some.inj (hn.symm.trans hm)
  · intro hquiet n st hst hactive
    obtain ⟨hcause, hclosed⟩ := hs.torn n st hst hactive
    rw [List.flatten_eq_nil_iff.mpr hquiet] at hclosed
    have hreg := hs.registered n st hst
    have hempty := hreg.closed (hclosed.resolve_right List.not_mem_nil)
    refine ⟨hcause, hclosed.resolve_right List.not_mem_nil, hempty, fun ch hch => ?_⟩
    have hmem := (hreg.owners.opened ch).mp hch
    rw [hempty] at hmem
    exact List.mem_append.mp hmem

/-! ## 4. Runs -/

/-- An agent reconnects with a command in flight; the old stream's handler unwinds afterwards. -/
def reconnectInFlight : List Op :=
  [.opens "a", .run 0, .run 0, .onStream 0 (.sendCommand "r"), .opens "a", .run 1, .run 1,
    .closeStream "a" (some 0) "stream_ended", .run 2]

/-- The replaced stream is torn down, and its handler touches nothing. -/
theorem replaced_stream_torn_down :
    let s := runList Server.step (.fresh true) reconnectInFlight
    s.sessions.active.lookup "a" = some 1 ∧ ∃ st, s.sessions.streams[0]? = some st ∧
      st.cause = some .replaced ∧ st.TornDown := by
  have hreach : Reach Server.step anyStep (.fresh true)
      (runList Server.step (.fresh true) reconnectInFlight) := reach_of_runList _ _
  refine ⟨by decide, _, rfl, by decide, ?_⟩
  exact (sessions_torn_down hreach).2.1 (by decide) 0 _ rfl (by decide)

/-- Two streams of one agent, both gone: the first was replaced, the second has ended. -/
def bothGone : List Op :=
  [.opens "a", .run 0, .run 0, .opens "a", .run 1, .run 1, .closeStream "a" (some 1) "stream_ended",
    .run 2, .run 2, .run 2, .run 2]

/-- **`CloseStream` with a reason that revokes**: on the active stream it is a revocation without
    `Close`; with a token superseded long ago it takes back that the agent is reported offline, and
    the hook is called. -/
theorem token_revokes :
    (∃ s : Server, Reach Server.step anyStep (.fresh true) s ∧
      s.sessions.streams.map Session.cause = [some .revoked] ∧
      s.sessions.removals = [⟨0, some 0, "revoked"⟩]) ∧
    ∃ s s' : Server, Reach Server.step anyStep (.fresh true) s ∧ s.Quiet ∧
      s.sessions.streams.map Session.cause = [some .replaced, some .closed] ∧
      Reach Server.step anyStep s s' ∧
      s' = runList Server.step s [.closeStream "a" (some 0) "revoked", .run 3, .run 3, .run 3] ∧
      "a" ∈ s.sessions.offlineReported ∧ "a" ∉ s'.sessions.offlineReported ∧
      s'.sessions.announced = ⟨"a", "revoked", false⟩ :: s.sessions.announced := by
  constructor
  · exact ⟨runList Server.step (.fresh true) [.opens "a", .run 0, .run 0,
      .closeStream "a" (some 0) "revoked", .run 1], reach_of_runList _ _, by decide⟩
  · refine ⟨runList Server.step (.fresh true) bothGone, _, reach_of_runList _ _, by decide, by decide,
      reach_of_runList _ _, rfl, by decide⟩

end Maintenant.AgentServer
