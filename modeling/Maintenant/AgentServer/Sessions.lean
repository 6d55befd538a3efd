/-
  File:      Maintenant/AgentServer/Sessions.lean
  Subject:   THE REGISTRY OF AGENT STREAMS (internal/agentserver/sessions.go: `Sessions.Open`,
             `Close`, `CloseStream`, `remove`, the pass of `StartStaleWatcher`).

  A call is the list of what it has yet to do, one entry for each section under a lock and for each
  call of the alert hook; a section may put entries in front (`perform`). Calls interleave entry by
  entry (`Server.step`), with the sections on the reply channels of every stream
  (AgentServer/Stream.lean) in between. A stream is known by its number, as by its pointer.
-/
import Mathlib.Data.Finset.Erase
import Mathlib.Data.Finset.Insert
import Maintenant.AgentServer.Stream

namespace Maintenant.AgentServer

/-! ## 1. Streams and what is recorded of them -/

/-- What a stream's context was cancelled with; `parent`: the gRPC stream's own context ended. -/
inductive Cause where
  | revoked
  | replaced
  | stale
  | closed
  | parent
deriving DecidableEq, Repr

/-- Intentional removal: the agent is not to come back. -/
def terminal (reason : String) : Bool := reason == "revoked" || reason == "deleted"

def causeForReason (reason : String) : Cause :=
  if terminal reason then .revoked
  else if reason == "stale" then .stale
  else .closed

/-- A stream with its agent; `cause` is the first cancellation's. -/
structure Session where
  agentID : String
  connectedAt : Nat
  cause : Option Cause
  stream : ActiveStream

namespace Session

def cancel (st : Session) (cause : Cause) : Session := { st with cause := st.cause <|> some cause }

def closeAll (st : Session) : Session := { st with stream := st.stream.closeAll }

end Session

/-- One call of the alert hook. -/
structure Announcement where
  agentID : String
  reason : String
  connected : Bool
deriving DecidableEq, Repr

/-- A section of `remove` that found a stream: `Close` has no `only`. -/
structure Removal where
  stream : Nat
  only : Option Nat
  reason : String
deriving DecidableEq, Repr

/-- `streams` are all the streams ever opened, `announced` and `removals` what happened, the newest
    first. -/
structure Sessions where
  alertHook : Bool
  active : AList fun _ : String => Nat
  offlineReported : Finset String
  streams : List Session
  announced : List Announcement
  removals : List Removal

namespace Sessions

def fresh (alertHook : Bool) : Sessions := ⟨alertHook, ∅, ∅, [], [], []⟩

/-- The latest word of the hook on an agent. -/
def lastCall (s : Sessions) (agentID : String) : Option Bool :=
  (s.announced.find? (·.agentID == agentID)).map Announcement.connected

def update (s : Sessions) (n : Nat) (f : Session → Session) : Sessions :=
  { s with streams := s.streams.modify n f }

/-- The section of `Open`. -/
def register (s : Sessions) (agentID : String) (connectedAt : Nat) : Sessions :=
  let s := match s.active.lookup agentID with
    | some existing => s.update existing fun st => (st.cancel .replaced).closeAll
    | none => s
  { s with offlineReported := s.offlineReported.erase agentID,
           streams := s.streams ++ [⟨agentID, connectedAt, none, .fresh⟩],
           active := s.active.insert agentID s.streams.length }

/-- `st.cancel(cause)` and `delete(s.active, agentID)`. -/
def drop (s : Sessions) (agentID : String) (n : Nat) (cause : Cause) : Sessions :=
  { s.update n (·.cancel cause) with active := s.active.erase agentID }

def report (s : Sessions) (agentID : String) : Sessions :=
  { s with offlineReported := insert agentID s.offlineReported }

/-- `st.connectedAt.After(t)`. -/
def connectedAfter (s : Sessions) (n t : Nat) : Bool :=
  s.streams[n]?.any fun st => decide (t < st.connectedAt)

end Sessions

/-! ## 2. Calls -/

/-- What a call does next. -/
inductive Todo where
  /-- `Open`: its section. -/
  | register (agentID : String) (connectedAt : Nat)
  /-- `remove`: its first section, -/
  | remove (agentID : String) (only : Option Nat) (reason : String)
  /-- its second one. -/
  | mark (agentID reason : String)
  | closeAll (n : Nat)
  | hook (agentID reason : String) (connected : Bool)
  /-- The stale watcher: the section for one agent. -/
  | sweep (sweepStart : Nat) (settled : Bool) (agentID : String)
deriving DecidableEq, Repr

/-- The first section of `remove`, and what is left to do. -/
def Sessions.remove (s : Sessions) (id : String) (only : Option Nat) (reason : String) :
    Sessions × List Todo :=
  match s.active.lookup id with
  | none =>
    (s, if s.alertHook && terminal reason then [.mark id reason, .hook id reason false] else [])
  | some n =>
    if only.any (· != n) then (s, [])
    else
      ({ s.drop id n (causeForReason reason) with removals := ⟨n, only, reason⟩ :: s.removals },
        .closeAll n :: if s.alertHook then [.mark id reason, .hook id reason false] else [])

/-- The second one. -/
def Sessions.mark (s : Sessions) (id reason : String) : Sessions :=
  if terminal reason then { s with offlineReported := s.offlineReported.erase id } else s.report id

/-- The section of the stale watcher for one of the agents it was given. -/
def Sessions.sweep (s : Sessions) (sweepStart : Nat) (settled : Bool) (id : String) :
    Sessions × List Todo :=
  match s.active.lookup id with
  | none =>
    if s.alertHook && settled && decide (id ∉ s.offlineReported) then
      (s.report id, [.hook id "stale" false])
    else (s, [])
  | some n =>
    if s.connectedAfter n sweepStart then (s, [])
    else if s.alertHook then
      ((s.drop id n .stale).report id, [.closeAll n, .hook id "stale" false])
    else (s.drop id n .stale, [.closeAll n])

/-- One entry of a call, and what it puts in front of the rest. -/
def perform (s : Sessions) : Todo → Sessions × List Todo
  | .register id connectedAt =>
    (s.register id connectedAt, if s.alertHook then [.hook id "" true] else [])
  | .remove id only reason => s.remove id only reason
  | .mark id reason => (s.mark id reason, [])
  | .closeAll n => (s.update n Session.closeAll, [])
  | .hook id reason connected => ({ s with announced := ⟨id, reason, connected⟩ :: s.announced }, [])
  | .sweep sweepStart settled id => s.sweep sweepStart settled id

/-- The registry, the calls in progress and the clock. -/
structure Server where
  sessions : Sessions
  calls : List (List Todo)
  now : Nat

inductive Op where
  | opens (agentID : String)
  | close (agentID reason : String)
  | closeStream (agentID : String) (tok : Option Nat) (reason : String)
  /-- A tick of the stale watcher, with the answer of `staleAgents`. -/
  | sweep (ids : List String) (settled : Bool)
  /-- A call in progress goes on. -/
  | run (i : Nat)
  /-- Somebody sends, releases or delivers on a stream. -/
  | onStream (n : Nat) (op : StreamOp)
  /-- The gRPC stream ends by itself. -/
  | ends (n : Nat)
  | tick (d : Nat)
deriving DecidableEq, Repr

namespace Server

def fresh (alertHook : Bool) : Server := ⟨.fresh alertHook, [], 0⟩

def call (s : Server) (todo : List Todo) : Server := { s with calls := s.calls ++ [todo] }

/-- A panic takes the process down. -/
def down (s : Server) : Bool := s.sessions.streams.any (·.stream.panic.isSome)

def run (s : Server) (i : Nat) : Option Server :=
  match s.calls[i]? with
  | some (t :: rest) =>
    let (sessions, next) := perform s.sessions t
    some { s with sessions := sessions, calls := s.calls.set i (next ++ rest) }
  | _ => none

def onStream (s : Server) (n : Nat) (op : StreamOp) : Option Server :=
  match s.sessions.streams[n]? with
  | none => none
  | some st => (st.stream.step op).map fun stream =>
    { s with sessions := s.sessions.update n fun st => { st with stream := stream } }

/-- **One step of the server.** A token is one of a stream that was opened; `closeAll` is called by
    the registry alone. -/
def step (s : Server) (op : Op) : Option Server :=
  if s.down then none
  else match op with
    | .opens id => some (s.call [.register id s.now])
    | .close id reason => some (s.call [.remove id none reason])
    | .closeStream _ none _ => some s
    | .closeStream id (some n) reason =>
      if n < s.sessions.streams.length then some (s.call [.remove id (some n) reason]) else none
    | .sweep ids settled => some (s.call (ids.map (.sweep s.now settled)))
    | .run i => s.run i
    | .onStream n op => if op = .closeAll then none else s.onStream n op
    | .ends n => some { s with sessions := s.sessions.update n (·.cancel .parent) }
    | .tick d => some { s with now := s.now + d }

/-- Every call has returned. -/
def Quiet (s : Server) : Prop := ∀ call ∈ s.calls, call = []

instance (s : Server) : Decidable s.Quiet := inferInstanceAs (Decidable (∀ call ∈ s.calls, call = []))

/-! ## 3. What a step can do -/

/-- The server after an entry of a call. -/
def after (s : Server) (i : Nat) (t : Todo) (rest : List Todo) : Server :=
  { s with sessions := (perform s.sessions t).1,
           calls := s.calls.set i ((perform s.sessions t).2 ++ rest) }

end Server

/-- The entries a call begins with. -/
def Todo.isStart : Todo → Bool
  | .register .. | .remove .. | .sweep .. => true
  | .mark .. | .closeAll .. | .hook .. => false

/-- **What a step can do**: nothing but pass time, begin a call, go on with one, or touch one
    stream. -/
inductive Works (s : Server) : Op → Server → Prop where
  | rests (op : Op) (d : Nat) : Works s op { s with now := s.now + d }
  | begins (op : Op) (todo : List Todo) (h : ∀ t ∈ todo, t.isStart) : Works s op (s.call todo)
  | goesOn (i : Nat) (t : Todo) (rest : List Todo) (h : s.calls[i]? = some (t :: rest)) :
      Works s (.run i) (s.after i t rest)
  | moves (n : Nat) (op : StreamOp) (st : Session) (stream : ActiveStream)
      (hst : s.sessions.streams[n]? = some st) (hs : st.stream.step op = some stream)
      (hop : op ≠ .closeAll) :
      Works s (.onStream n op)
        { s with sessions := s.sessions.update n fun st => { st with stream := stream } }
  | ends (n : Nat) : Works s (.ends n) { s with sessions := s.sessions.update n (·.cancel .parent) }

variable {s : Server}

theorem step_works {s' : Server} {op : Op} (h : s.step op = some s') : Works s op s' := by
  obtain ⟨-, h⟩ := Option.ite_none_left_eq_some.mp h
  cases op with
  | opens | close | sweep =>
    cases h
    exact .begins _ _ (by simp [Todo.isStart])
  | closeStream _ tok =>
    cases tok with
    | none =>
      cases h
      exact .rests _ 0
    | some =>
      obtain ⟨-, ⟨⟩⟩ := Option.ite_none_right_eq_some.mp h
      exact .begins _ _ (by simp [Todo.isStart])
  | run i =>
    dsimp only [Server.run] at h
    split at h
    · next t rest hi =>
      cases h
      exact .goesOn i t rest hi
    · cases h
  | onStream n op =>
    obtain ⟨hop, h⟩ := Option.ite_none_left_eq_some.mp h
    unfold Server.onStream at h
    split at h
    · cases h
    · next st hst =>
      obtain ⟨stream, hs, rfl⟩ := Option.map_eq_some_iff.mp h
      exact .moves n op st stream hst hs hop
  | ends n =>
    cases h
    exact .ends n
  | tick d =>
    cases h
    exact .rests _ d

/-- What all calls have yet to do, but for the entry at the front of call `i`. -/
def Server.others (s : Server) (i : Nat) (rest : List Todo) : List Todo :=
  rest ++ (s.calls.eraseIdx i).flatten

theorem calls_perm {i : Nat} {t : Todo} {rest : List Todo} (h : s.calls[i]? = some (t :: rest)) :
    s.calls.flatten.Perm (t :: s.others i rest) := by
  obtain ⟨hi, hget⟩ := List.getElem?_eq_some_iff.mp h
  have hperm := (List.getElem_cons_eraseIdx_perm hi).flatten
  rw [hget] at hperm
  exact hperm.symm

theorem calls_after_perm {i : Nat} {t : Todo} {rest : List Todo} (h : s.calls[i]? = some (t :: rest)) :
    (s.after i t rest).calls.flatten.Perm ((perform s.sessions t).2 ++ s.others i rest) := by
  obtain ⟨hi, -⟩ := List.getElem?_eq_some_iff.mp h
  have hperm := (List.set_perm_cons_eraseIdx hi ((perform s.sessions t).2 ++ rest)).flatten
  rw [List.flatten_cons, List.append_assoc] at hperm
  exact hperm

/-- Nobody takes the hook away. -/
theorem alertHook_perform (s : Sessions) (t : Todo) : (perform s t).1.alertHook = s.alertHook := by
  cases t with
  | register =>
    dsimp only [perform, Sessions.register]
    split <;> rfl
  | remove _ only =>
    dsimp only [perform, Sessions.remove]
    split
    · rfl
    · split <;> rfl
  | mark =>
    dsimp only [perform, Sessions.mark]
    split <;> rfl
  | closeAll | hook => rfl
  | sweep =>
    dsimp only [perform, Sessions.sweep]
    split
    · split <;> rfl
    · split
      · rfl
      · split <;> rfl

end Maintenant.AgentServer
