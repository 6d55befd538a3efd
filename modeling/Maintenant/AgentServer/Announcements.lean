/-
  File:      Maintenant/AgentServer/Announcements.lean
  Subject:   WHAT THE ALERT HOOK WAS TOLD OF AN AGENT, AND WHETHER THE AGENT IS CONNECTED.

  * `View`, `Turn` -- what one agent sees of the registry, and the eight things an entry of a call
    can do to that; `perform_turn` -- there are no others;
  * `Agrees`, `Agrees.turn` -- an agent with a stream is not reported offline, and the hook was told
    last that it is connected, or will be;
  * `announcements_agree` -- so it is when all calls have returned, in the runs where no call of the
    hook that fits overtakes one that does not, and nobody is marked offline after reconnecting
    (`Ordered`);
  * `reconnect_reported_offline` -- a reconnect slips between a removal and its announcement.
-/
import Maintenant.AgentServer.Sessions

namespace Maintenant.AgentServer

open Runs

/-! ## 1. One agent's view -/

structure View where
  connected : Bool
  reported : Prop
  opened : Prop
  last : Option Bool

/-- The hook call on this agent that the entry is. -/
def Todo.owes (id : String) : Todo → Option Bool
  | .hook id' _ connected => if id' = id then some connected else none
  | _ => none

/-- The hook calls on an agent that are still to come. -/
def owed (id : String) (todo : List Todo) : List Bool := todo.filterMap (Todo.owes id)

theorem owed_hook (id reason : String) (c : Bool) : owed id [.hook id reason c] = [c] := by
  simp [owed, Todo.owes]

theorem owed_hook_ne {id id' : String} (h : id ≠ id') (reason : String) (c : Bool) :
    owed id [.hook id' reason c] = [] := by
  simp [owed, Todo.owes, Ne.symm h]

@[simp] theorem owed_cons_mark (id id' reason : String) (todo : List Todo) :
    owed id (.mark id' reason :: todo) = owed id todo := rfl

@[simp] theorem owed_cons_closeAll (id : String) (n : Nat) (todo : List Todo) :
    owed id (.closeAll n :: todo) = owed id todo := rfl

def Sessions.view (s : Sessions) (id : String) : View where
  connected := (s.active.lookup id).isSome
  reported := id ∈ s.offlineReported
  opened := id ∈ s.streams.map Session.agentID
  last := s.lastCall id

/-- **What an entry does to the view of an agent**, and the hook calls it adds. -/
inductive Turn (id : String) (v : View) : Todo → View → List Bool → Prop where
  | other (t : Todo) (ht : t.owes id = none) : Turn id v t v []
  | joins (at' : Nat) : Turn id v (.register id at') ⟨true, False, True, v.last⟩ [true]
  | leaves (only : Option Nat) (reason : String) (h : v.connected = true) :
      Turn id v (.remove id only reason) { v with connected := false } [false]
  | recalls (only : Option Nat) (reason : String) (h : v.connected = false) :
      Turn id v (.remove id only reason) v [false]
  | reaped (start : Nat) (settled : Bool) (h : v.connected = true) :
      Turn id v (.sweep start settled id) { v with connected := false, reported := True } [false]
  | missed (start : Nat) (settled : Bool) (h : v.connected = false) :
      Turn id v (.sweep start settled id) { v with reported := True } [false]
  | marked (reason : String) : Turn id v (.mark id reason) { v with reported := terminal reason = false } []
  | told (reason : String) (c : Bool) : Turn id v (.hook id reason c) { v with last := some c } []

section Views

variable {s : Sessions} {id id' : String}

theorem agentIDs_update (s : Sessions) (n : Nat) {f : Session → Session} (hf : ∀ st, (f st).agentID = st.agentID) :
    (s.update n f).streams.map Session.agentID = s.streams.map Session.agentID := by
  refine List.ext_getElem? fun i => ?_
  rw [List.getElem?_map, List.getElem?_map, Sessions.update, List.getElem?_modify]
  cases s.streams[i]? with
  | none => rfl
  | some st =>
    refine congrArg some ?_
    show (if n = i then f st else st).agentID = _
    split
    · exact hf st
    · rfl

/-- What happens to a stream itself, nobody sees. -/
theorem view_update (s : Sessions) (n : Nat) {f : Session → Session}
    (hf : ∀ st, (f st).agentID = st.agentID) (id : String) : (s.update n f).view id = s.view id := by
  unfold Sessions.view
  rw [agentIDs_update s n hf]
  rfl

theorem view_drop (s : Sessions) (id id' : String) (n : Nat) (c : Cause) :
    (s.drop id' n c).view id = if id = id' then { s.view id with connected := false } else s.view id := by
  rw [← view_update s n (f := (·.cancel c)) (fun _ => rfl) id]
  unfold Sessions.view Sessions.drop
  split
  · next h =>
    rw [h, AList.lookup_erase]
    rfl
  · next h =>
    rw [AList.lookup_erase_ne h]
    rfl

/-- `Open` on a registry whose old stream is out of the way. -/
theorem register_eq (s : Sessions) (id : String) (at' : Nat) :
    ∃ n f, (∀ st : Session, (f st).agentID = st.agentID) ∧ s.register id at' =
      { s.update n f with
        offlineReported := s.offlineReported.erase id
        streams := (s.update n f).streams ++ [⟨id, at', none, .fresh⟩]
        active := s.active.insert id s.streams.length } := by
  unfold Sessions.register
  cases s.active.lookup id with
  | some n =>
    refine ⟨n, fun st => (st.cancel .replaced).closeAll, fun _ => rfl, ?_⟩
    simp only [Sessions.update, List.length_modify]
  | none =>
    refine ⟨s.streams.length, fun st => st, fun _ => rfl, ?_⟩
    simp only [Sessions.update, List.modify_eq_self (Nat.le_refl _)]

theorem view_register (s : Sessions) (id : String) (at' : Nat) :
    (s.register id at').view id = ⟨true, False, True, (s.view id).last⟩ := by
  obtain ⟨n, f, -, hreg⟩ := register_eq s id at'
  rw [hreg]
  simp [Sessions.view, Sessions.lastCall, Sessions.update]

theorem view_register_ne (h : id ≠ id') (at' : Nat) : (s.register id' at').view id = s.view id := by
  obtain ⟨n, f, hf, hreg⟩ := register_eq s id' at'
  rw [hreg, ← view_update s n hf id]
  simp [Sessions.view, Sessions.lastCall, Sessions.update, h, AList.lookup_insert_ne h]

theorem connected_of_lookup {n : Nat} (h : s.active.lookup id = some n) : (s.view id).connected = true := by
  rw [Sessions.view, h]
  rfl

theorem not_connected_of_lookup (h : s.active.lookup id = none) : (s.view id).connected = false := by
  rw [Sessions.view, h]
  rfl

theorem remove_turn (hhook : s.alertHook = true) (only : Option Nat) (reason : String) :
    Turn id (s.view id) (.remove id' only reason) ((s.remove id' only reason).1.view id)
      (owed id (s.remove id' only reason).2) := by
  unfold Sessions.remove
  rw [hhook]
  cases hl : s.active.lookup id' with
  | none =>
    dsimp only
    split
    · by_cases h : id = id'
      · subst h
        rw [owed_cons_mark, owed_hook]
        exact .recalls only reason (not_connected_of_lookup hl)
      · rw [owed_cons_mark, owed_hook_ne h]
        exact .other _ rfl
    · exact .other _ rfl
  | some n =>
    dsimp only
    split
    · exact .other _ rfl
    · rw [if_pos rfl, owed_cons_closeAll, owed_cons_mark]
      by_cases h : id = id'
      · subst h
        rw [owed_hook]
        have hview := (view_drop s id id n (causeForReason reason)).trans (if_pos rfl)
        exact hview ▸ .leaves only reason (connected_of_lookup hl)
      · rw [owed_hook_ne h]
        have hview := (view_drop s id id' n (causeForReason reason)).trans (if_neg h)
        exact hview ▸ .other _ rfl

theorem view_report (s : Sessions) (id : String) : (s.report id).view id = { s.view id with reported := True } := by
  simp [Sessions.report, Sessions.view, Sessions.lastCall]

theorem view_report_ne (h : id ≠ id') : (s.report id').view id = s.view id := by
  simp [Sessions.report, Sessions.view, Sessions.lastCall, h]

theorem sweep_turn (hhook : s.alertHook = true) (start : Nat) (settled : Bool) :
    Turn id (s.view id) (.sweep start settled id') ((s.sweep start settled id').1.view id)
      (owed id (s.sweep start settled id').2) := by
  unfold Sessions.sweep
  rw [hhook]
  cases hl : s.active.lookup id' with
  | none =>
    dsimp only
    split
    · by_cases h : id = id'
      · subst h
        rw [view_report, owed_hook]
        exact .missed start settled (not_connected_of_lookup hl)
      · rw [view_report_ne h, owed_hook_ne h]
        exact .other _ rfl
    · exact .other _ rfl
  | some =>
    dsimp only
    split
    · exact .other _ rfl
    · rw [if_pos rfl, owed_cons_closeAll]
      by_cases h : id = id'
      · subst h
        rw [owed_hook]
        rw [view_report, view_drop, if_pos rfl]
        exact .reaped start settled (connected_of_lookup hl)
      · rw [owed_hook_ne h, view_report_ne h, view_drop, if_neg h]
        exact .other _ rfl

theorem mark_turn (reason : String) : Turn id (s.view id) (.mark id' reason) ((s.mark id' reason).view id) [] := by
  by_cases h : id = id'
  · subst h
    have hview : (s.mark id reason).view id =
        { s.view id with reported := terminal reason = false } := by
      cases hr : terminal reason <;>
        simp [Sessions.mark, Sessions.report, Sessions.view, Sessions.lastCall, hr]
    rw [hview]
    exact .marked reason
  · have hview : (s.mark id' reason).view id = s.view id := by
      cases hr : terminal reason <;>
        simp [Sessions.mark, Sessions.report, Sessions.view, Sessions.lastCall, hr, h]
    rw [hview]
    exact .other _ rfl

/-- **An entry does one of the eight things to each agent.** -/
theorem perform_turn (hhook : s.alertHook = true) (t : Todo) :
    Turn id (s.view id) t ((perform s t).1.view id) (owed id (perform s t).2) := by
  cases t with
  | register id' at' =>
    dsimp only [perform]
    rw [if_pos hhook]
    by_cases h : id = id'
    · subst h
      rw [view_register, owed_hook]
      exact .joins at'
    · rw [view_register_ne h, owed_hook_ne h]
      exact .other _ rfl
  | remove _ only reason => exact remove_turn hhook only reason
  | mark _ reason => exact mark_turn reason
  | closeAll n =>
    dsimp only [perform]
    rw [view_update s n (f := Session.closeAll) (fun _ => rfl)]
    exact .other _ rfl
  | hook id' reason c =>
    by_cases h : id' = id
    · subst h
      have hview : (perform s (.hook id' reason c)).1.view id' =
          { s.view id' with last := some c } := by
        simp [perform, Sessions.view, Sessions.lastCall]
      rw [hview]
      exact .told reason c
    · have hview : (perform s (.hook id' reason c)).1.view id = s.view id := by
        simp [perform, Sessions.view, Sessions.lastCall, h]
      rw [hview]
      exact .other _ (if_neg h)
  | sweep start settled => exact sweep_turn hhook start settled

end Views

/-! ## 2. Agreement -/

variable {v : View}

/-- **The hook knows**: it was told last what is the case, or is about to be told. -/
structure Agrees (v : View) (owed : List Bool) : Prop where
  unreported : v.connected = true → ¬v.reported
  known : v.connected = true ∨ v.opened →
    v.connected ∈ owed ∨ v.last = some v.connected ∧ (!v.connected) ∉ owed

/-- An entry comes in time for an agent: a hook call that fits has none of the other kind behind
    it, and whoever is marked offline is offline. -/
structure InTime (id : String) (v : View) (rest : List Bool) (t : Todo) : Prop where
  hook : ∀ reason, t = .hook id reason v.connected → (!v.connected) ∉ rest
  mark : ∀ reason, t = .mark id reason → terminal reason = false → v.connected = false

/-- Whoever has just left is owed a call. -/
theorem agrees_away (rest : List Bool) (hc : v.connected = false) : Agrees v (false :: rest) :=
  ⟨fun h => (by rw [hc] at h; cases h), fun _ => Or.inl (by rw [hc]; exact List.mem_cons_self)⟩

/-- **One entry.** `rest` are the hook calls to come once the entry is taken out. -/
theorem Agrees.turn {id : String} {v' : View} {t : Todo} {next rest : List Bool}
    (h : Agrees v ((t.owes id).toList ++ rest)) (hturn : Turn id v t v' next)
    (hok : InTime id v rest t) : Agrees v' (next ++ rest) := by
  cases hturn with
  | other _ ht =>
    rw [ht] at h
    exact h
  | joins => exact ⟨fun _ hr => hr, fun _ => Or.inl List.mem_cons_self⟩
  | leaves | reaped => exact agrees_away rest rfl
  | recalls _ _ hc | missed _ _ hc => exact agrees_away rest hc
  | marked reason =>
    refine ⟨fun hc hr => ?_, h.known⟩
    have hoff := hok.mark reason rfl hr
    simp [show v.connected = true from hc] at hoff
  | told reason c =>
    rw [show (Todo.hook id reason c).owes id = some c from if_pos rfl] at h
    refine ⟨h.unreported, fun ho => ?_⟩
    by_cases hc : c = v.connected
    · exact Or.inr ⟨congrArg some hc, hok.hook reason (hc ▸ rfl)⟩
    · -- a call that does not fit leaves the one that does still to come
      rcases h.known ho with hmem | ⟨-, hnot⟩
      · exact Or.inl ((List.mem_cons.mp hmem).resolve_left (Ne.symm hc))
      · have hc' : c = !v.connected := by cases c <;> cases v.connected <;> simp_all
        exact absurd (List.mem_cons_self) (hc' ▸ hnot)

/-! ## 3. The server -/

namespace Server

/-- The hook calls on an agent that calls in progress are still to make. -/
def owed (s : Server) (id : String) : List Bool := AgentServer.owed id s.calls.flatten

/-- The call goes on in time: a hook call that says what is the case is made when none that says
    the opposite is still to come for that agent, and an agent is marked offline while it is. -/
def Timely (s : Server) : List Todo → Prop
  | .hook id _ c :: _ => (s.sessions.active.lookup id).isSome = c → (!c) ∉ s.owed id
  | .mark id reason :: _ => terminal reason = false → (s.sessions.active.lookup id).isSome = false
  | _ => True

def Ordered (s : Server) : Op → Prop
  | .run i => ∀ call ∈ s.calls[i]?, s.Timely call
  | _ => True

end Server

section Runs

variable {s s' : Server}

theorem Agrees.perm {l l' : List Bool} (hl : l.Perm l') (h : Agrees v l) : Agrees v l' where
  unreported := h.unreported
  known ho := by
    rw [← hl.mem_iff, ← hl.mem_iff]
    exact h.known ho

/-- The invariant of a run: the hook is set, and every agent agrees. -/
structure Announced (s : Server) : Prop where
  hook : s.sessions.alertHook = true
  agrees : ∀ id, Agrees (s.sessions.view id) (s.owed id)

theorem owed_cons (id : String) (t : Todo) (todo : List Todo) :
    owed id (t :: todo) = (t.owes id).toList ++ owed id todo := by
  unfold owed
  rw [List.filterMap_cons]
  cases t.owes id <;> rfl

theorem Announced.after (h : Announced s) {i : Nat} {t : Todo} {rest : List Todo}
    (hi : s.calls[i]? = some (t :: rest)) (hok : s.Ordered (.run i)) :
    Announced (s.after i t rest) where
  hook := (alertHook_perform ..).trans h.hook
  agrees id := by
    have hnow := (calls_perm hi).filterMap (Todo.owes id)
    have hnext := (calls_after_perm hi).filterMap (Todo.owes id)
    rw [List.filterMap_append] at hnext
    refine Agrees.perm hnext.symm ?_
    have hag := (h.agrees id).perm hnow
    rw [← owed, owed_cons] at hag
    refine hag.turn (perform_turn h.hook t) ⟨?_, ?_⟩
    · rintro reason rfl hmem
      refine hok _ hi rfl (hnow.mem_iff.mpr ?_)
      rw [← owed, owed_cons]
      exact List.mem_append_right _ hmem
    · rintro reason rfl
      exact hok _ hi

/-- A call that begins has no hook call ahead yet. -/
theorem owed_starts (id : String) {todo : List Todo} (h : ∀ t ∈ todo, t.isStart) : owed id todo = [] := by
  refine List.filterMap_eq_nil_iff.mpr fun t ht => ?_
  have := h t ht
  cases t <;> first | rfl | cases this

/-- **Every step keeps the hook in the know.** -/
theorem Announced.step {op : Op} (h : Announced s) (hok : s.Ordered op) (hs : s.step op = some s') : Announced s' := by
  cases step_works hs with
  | rests => exact ⟨h.hook, h.agrees⟩
  | begins _ todo htodo =>
    refine ⟨h.hook, fun id => ?_⟩
    have howed : (s.call todo).owed id = s.owed id := by
      unfold Server.owed Server.call
      rw [List.flatten_append, List.flatten_singleton, owed, List.filterMap_append]
      show _ ++ owed id todo = _
      rw [owed_starts id htodo, List.append_nil]
      rfl
    rw [howed]
    exact h.agrees id
  | goesOn _ _ _ hi => exact h.after hi hok
  | moves n _ st stream =>
    refine ⟨h.hook, fun id => ?_⟩
    rw [view_update s.sessions n (f := fun st => { st with stream := stream }) (fun _ => rfl)]
    exact h.agrees id
  | ends n =>
    refine ⟨h.hook, fun id => ?_⟩
    rw [view_update s.sessions n (f := (·.cancel .parent)) (fun _ => rfl)]
    exact h.agrees id

end Runs

/-- **The announcements agree with connectivity** once all calls have returned: an agent with an
    active stream is not reported offline and the hook was told last that it is connected; of one
    that had a stream and has none, that it is not. -/
theorem announcements_agree {s : Server} (h : Reach Server.step Server.Ordered (.fresh true) s)
    (hquiet : s.Quiet) (id : String) :
    ((s.sessions.active.lookup id).isSome = true →
        id ∉ s.sessions.offlineReported ∧ s.sessions.lastCall id = some true) ∧
      ((s.sessions.active.lookup id).isSome = false → (∃ st ∈ s.sessions.streams, st.agentID = id) →
        s.sessions.lastCall id = some false) := by
  have hstart : Announced (.fresh true) := ⟨rfl, fun _ => ⟨nofun, nofun⟩⟩
  have hs : Announced s := by
    refine Reach.inv hstart ?_ h
    intro s op s' hs hok hstep
    exact hs.step hok hstep
  have hnone : s.owed id = [] := by
    unfold Server.owed
    rw [List.flatten_eq_nil_iff.mpr hquiet]
    rfl
  have hag := hs.agrees id
  rw [hnone] at hag
  constructor
  · intro hc
    rcases hag.known (Or.inl hc) with hmem | ⟨hlast, -⟩
    · cases hmem
    · exact ⟨hag.unreported hc, hlast.trans (congrArg some hc)⟩
  · rintro hc ⟨st, hst, rfl⟩
    rcases hag.known (Or.inr (List.mem_map_of_mem hst)) with hmem | ⟨hlast, -⟩
    · cases hmem
    · exact hlast.trans (congrArg some hc)

/-! ## 4. Two runs -/

instance (s : Server) : (call : List Todo) → Decidable (s.Timely call)
  | .hook id _ c :: _ =>
    inferInstanceAs (Decidable ((s.sessions.active.lookup id).isSome = c → (!c) ∉ s.owed id))
  | .mark id reason :: _ => inferInstanceAs
      (Decidable (terminal reason = false → (s.sessions.active.lookup id).isSome = false))
  | [] | .register .. :: _ | .remove .. :: _ | .closeAll .. :: _ | .sweep .. :: _ => .isTrue trivial

instance (s : Server) : (op : Op) → Decidable (s.Ordered op)
  | .run i => inferInstanceAs (Decidable (∀ call ∈ s.calls[i]?, s.Timely call))
  | .opens _ | .close .. | .closeStream .. | .sweep .. | .onStream .. | .ends _ | .tick _ =>
    .isTrue trivial

/-- The stream of an agent ends and is torn down; then the agent is back. -/
def dropAndReturn : List Op :=
  [.opens "a", .run 0, .run 0, .closeStream "a" (some 0) "stream_ended", .run 1, .run 1, .run 1,
    .run 1, .opens "a", .run 2, .run 2]

theorem return_announced :
    let s := (runList Server.step (.fresh true) dropAndReturn).sessions
    s.active.lookup "a" = some 1 ∧ "a" ∉ s.offlineReported ∧ s.lastCall "a" = some true := by
  have hrun : Reach Server.step Server.Ordered (.fresh true) _ := reach_of_decide dropAndReturn _ (by decide)
  have hagree := announcements_agree hrun (by decide) "a"
  exact ⟨by decide, hagree.1 (by decide)⟩

/-- The same, but the agent is back before the teardown has announced anything. -/
def returnDuringTeardown : List Op :=
  [.opens "a", .run 0, .run 0, .closeStream "a" (some 0) "stream_ended", .run 1, .opens "a", .run 2,
    .run 2, .run 1, .run 1, .run 1]

/-- **A connected agent is reported offline**: all calls have returned, it has an active stream, is
    marked offline, and the hook was told last that it is not connected. -/
theorem reconnect_reported_offline :
    ∃ s : Server, Reach Server.step anyStep (.fresh true) s ∧ s.Quiet ∧
      s.sessions.active.lookup "a" = some 1 ∧ "a" ∈ s.sessions.offlineReported ∧
      s.sessions.lastCall "a" = some false :=
  ⟨runList Server.step (.fresh true) returnDuringTeardown, reach_of_runList _ _, by decide⟩

end Maintenant.AgentServer
