/-
  File:      Maintenant/Heartbeat/Race.lean
  Subject:   PINGS, PAUSES AND DEADLINE CHECKS SIDE BY SIDE. Each handler is a thread that makes its
             store statements one by one; any number of them interleave, on any heartbeats.

  A missed deadline writes back every column of the row the overdue list had, a start ping the
  last_ping_at of the row it read. What was written in between is lost (`ping_lost_to_check`).

  * `Account` -- what the row of a heartbeat should say, from the record of pings and pauses;
  * `Unspoilt` -- no ping or pause is written between the read of the overdue list and the write of that
    heartbeat, and no success or exit code ping between the read and the write of a start ping;
  * `heartbeat_updates_kept` -- then the row says what it should, in every state that is reached.
-/
import Maintenant.Heartbeat.Alerts

namespace Maintenant.Heartbeats

open GoTime Runs Prog

/-! ## 1. The machine -/

/-- The operations that run side by side. -/
def Op.races : Op → Bool
  | .ping .. | .startPing _ | .exitCodePing .. | .checkDeadlines | .pause => true
  | .create _ | .resume | .delete => false

/-- An operation on a heartbeat; a check is about all of them. -/
abbrev Task := String × Op

def machine (lic : License) : Machine Request Answer World Choice Task where
  handle := handle
  body task := task.2.job lic task.1
  forks _ := none
  admits _ task := task.2.races

abbrev Threads := Pool Request Answer World Task

abbrev Move := Pool.Move Choice Task

def step (lic : License) : Threads → Move → Option Threads := Pool.step (machine lic)

/-- No operation is in progress, and the record is begun. -/
def Threads.begin (w : World) : Threads := ⟨{ w with log := [] }, []⟩

/-! ## 2. What the row should say -/

/-- The latest ping's times, and the status that the latest ping or pause since the last read of the
    overdue list has written. -/
structure Account where
  lastPingAt : Option Int
  nextDeadlineAt : Option Int
  status : Option HeartbeatStatus
  deriving DecidableEq

/-- The account of heartbeat `id` goes on. A start ping sets no last ping, a pause takes the deadline. -/
def Account.note (id : String) (a : Account) : Entry → Account
  | .listed => { a with status := none }
  | .updated (.updateHeartbeatState id' state (.ping type)) =>
    if id' = id then
      ⟨if type = .start then a.lastPingAt else state.lastPingAt, state.nextDeadlineAt, some state.status⟩
    else a
  | .updated (.pauseHeartbeat id') => if id' = id then ⟨a.lastPingAt, none, some .paused⟩ else a
  | .updated _ => a

def account (id : String) (row₀ : Heartbeat) (log : List Entry) : Account :=
  log.foldl (Account.note id) ⟨row₀.lastPingAt, row₀.nextDeadlineAt, none⟩

/-- The row says what it should: the times are those of the latest ping, and what a ping or a pause has
    written since the overdue list was read stands. -/
structure Kept (a : Account) (row : Heartbeat) : Prop where
  lastPingAt : row.lastPingAt = a.lastPingAt
  nextDeadlineAt : row.nextDeadlineAt = a.nextDeadlineAt
  status : ∀ status, a.status = some status → row.status = status ∧ status ≠ .down

/-! ## 3. What is written back -/

/-- The write of a missed deadline. -/
def Statement.isMiss : Statement → Prop
  | .updateHeartbeatState _ _ .deadline => True
  | _ => False

/-- The statement writes columns as they were read. -/
def Statement.isCopy : Statement → Prop
  | .updateHeartbeatState _ _ .deadline | .updateHeartbeatState _ _ (.ping .start) => True
  | _ => False

/-- They are those of the row `h`. -/
def Statement.Copies (h : Heartbeat) : Statement → Prop
  | .updateHeartbeatState id state .deadline =>
    id = h.id ∧ state.lastPingAt = h.lastPingAt ∧ state.nextDeadlineAt = h.nextDeadlineAt
  | .updateHeartbeatState id state (.ping .start) => id = h.id ∧ state.lastPingAt = h.lastPingAt
  | _ => False

/-- The first statement changes what the second one writes back. -/
def Statement.spoils : Statement → Statement → Prop
  | .updateHeartbeatState _ _ (.ping _), .updateHeartbeatState _ _ .deadline => True
  | .updateHeartbeatState _ _ (.ping type), .updateHeartbeatState _ _ (.ping .start) => type ≠ .start
  | .pauseHeartbeat _, .updateHeartbeatState _ _ .deadline => True
  | _, _ => False

/-- The request reads rows that are written back. -/
def Request.fetches : Request → Prop
  | .getHeartbeatByUUID _ | .listOverdueHeartbeats _ => True
  | _ => False

def Request.writesBack (i : Request) (stmt : Statement) : Prop := i = .update stmt ∧ stmt.isCopy

/-- The statement is still to be made, with columns that are read already. -/
def Holds (stmt : Statement) (p : Job Unit) : Prop :=
  p.Ahead Request.fetches (Request.writesBack · stmt)

/-- A row of heartbeat `id` is written while no other thread holds a write-back it spoils. -/
def Unspoilt (id : String) (s : Threads) : Move → Prop
  | .start _ => True
  | .run n x => ∀ task stmt k, s.threads[n]? = some (task, .call (.update stmt) k) → stmt.id = id →
      x.executed = true → ∀ m t stmt', m ≠ n → s.threads[m]? = some t → stmt'.id = id →
        stmt.spoils stmt' → ¬ Holds stmt' t.2

/-! ## 4. The discipline of the code -/

/-- The request is none of those that race, or writes a status a ping writes. -/
def Request.proper : Request → Prop
  | .createHeartbeat .. | .update (.deleteHeartbeat _) | .update (.resumeHeartbeat _ _) => False
  | .update (.updateHeartbeatState _ state (.ping _)) => state.status ≠ .down
  | _ => True

/-- Neither a read that is written back nor a write. -/
def Request.calm (i : Request) : Prop := i.Aside ∨ i.isCallback = true

/-- The write-backs an answer is good for. -/
def gives : (i : Request) → Answer i → Statement → Prop
  | .getHeartbeatByUUID _, .ok (some h), stmt => stmt.Copies h ∧ ¬ stmt.isMiss
  | .listOverdueHeartbeats _, .ok rows, stmt => ∃ h ∈ rows.val, stmt.Copies h
  | _, _, _ => False

def Request.updates (i : Request) (id : String) : Prop := ∃ stmt, i = .update stmt ∧ stmt.id = id

def Request.writesBackTo (i : Request) (id : String) : Prop := ∃ stmt, i.writesBack stmt ∧ stmt.id = id

/-- A thread writes back what its last read gave, and each heartbeat once. -/
structure Disciplined {α : Type} (p : Job α) : Prop where
  proper : p.Always Request.proper
  grants : p.Grants Request.fetches Request.writesBack gives
  releases : p.Releases Request.fetches Request.writesBackTo Request.updates

variable {i : Request}

section Discipline

variable {α β : Type} {i : Request}

theorem Request.calm.proper (h : i.calm) : i.proper := by
  cases i with
  | createHeartbeat | update => exact h.elim (fun h => h.elim) nofun
  | _ => exact trivial

theorem Request.calm.not_fetches (h : i.calm) : ¬ i.fetches := by
  cases i with
  | getHeartbeatByUUID | listOverdueHeartbeats => exact h.elim (fun h => h.elim) nofun
  | _ => exact id

theorem Request.calm.not_update {stmt : Statement} (h : i.calm) : i ≠ .update stmt := by
  rintro rfl
  exact h.elim (fun h => h.elim) nofun

theorem calm_tell {t : Told} {f : Unit → Job α} (hf : (f ()).Always Request.calm) :
    (tell t >>= f).Always Request.calm := always_ask (.inr rfl) fun _ => hf

theorem calm_tellStatus (h : Heartbeat) (newStatus : HeartbeatStatus) (agentID : Option String) :
    (tellStatus h newStatus agentID).Always Request.calm := by
  simp [tellStatus, tell, Request.calm, Request.isCallback]

theorem calm_tellRecovery (h : Heartbeat) (agentID : Option String) : (tellRecovery h agentID).Always Request.calm := by
  simp [tellRecovery, tell, Request.calm, Request.isCallback]

theorem calm_tellExit (h : Heartbeat) (exitCode : Int) : (tellExit h exitCode).Always Request.calm := by
  simp [tellExit, calm_tellRecovery, tell, Request.calm, Request.isCallback]

theorem calm_aside {p : Job α} (hp : p.Always Request.Aside) : p.Always Request.calm :=
  hp.mono fun _ => .inl

/-- Code that makes one statement of this kind. -/
abbrev Makes (P : Statement → Prop) (p : Job α) : Prop :=
  p.Once Request.calm fun i => ∃ stmt, i = .update stmt ∧ P stmt

theorem makes_update {P : Statement → Prop} {stmt : Statement} {fail next : Job α} (hP : P stmt)
    (hfail : fail.Always Request.calm) (hnext : next.Always Request.calm) :
    Makes P (ask (.update stmt) >>= fun ok => if ok = false then fail else next) := by
  refine once_ask ⟨stmt, rfl, hP⟩ fun ok => ?_
  cases ok with
  | true => exact hnext
  | false => exact hfail

theorem makes_calm {P : Statement → Prop} {f : Answer i → Job α} (hi : i.Aside)
    (hf : ∀ b, Makes P (f b)) : Makes P (ask i >>= f) :=
  once_calm ⟨.inl hi, fun _ => trivial⟩ hf

variable (lic : License) (src : PingSource) (h : Heartbeat)

theorem ping_makes (agentID : Option String) :
    Makes (fun stmt => ∃ now, stmt = .updateHeartbeatState h.id (h.pinged now) (.ping .success))
      (ping lic src agentID h) := by
  refine makes_calm trivial fun now => makes_calm trivial fun _ =>
    once_calm (calm_aside recordSuccess_aside) fun _ => makes_update ⟨now, rfl⟩ trivial ?_
  exact calm_tell (always_bind (calm_tellStatus h _ _) fun _ =>
    always_bind (calm_tellRecovery h _) fun _ => trivial)

theorem startPing_makes :
    Makes (fun stmt => ∃ now, stmt = .updateHeartbeatState h.id (h.startPinged now) (.ping .start))
      (startPing src h) := by
  refine makes_calm trivial fun now => makes_calm trivial fun _ =>
    once_calm (calm_aside closeExecution_aside) fun _ => makes_calm trivial fun _ =>
      makes_update ⟨now, rfl⟩ trivial ?_
  exact calm_tell (always_bind (calm_tellStatus h _ _) fun _ => trivial)

theorem exitCodePing_makes (exitCode : Int) :
    Makes (fun stmt => ∃ now, stmt = .updateHeartbeatState h.id (h.exitPinged now exitCode) (.ping .exitCode))
      (exitCodePing lic exitCode src h) := by
  refine makes_calm trivial fun now => makes_calm trivial fun _ =>
    once_calm (calm_aside recordExit_aside) fun _ => makes_update ⟨now, rfl⟩ trivial ?_
  exact calm_tell (always_bind (calm_tellStatus h _ _) fun _ =>
    always_bind (calm_tellExit h _) fun _ => trivial)

theorem missDeadline_makes (now : Time) : Makes (· = missStatement h) (missDeadline now h) :=
  makes_update rfl trivial (always_bind (calm_aside timeoutRun_aside) fun _ =>
    calm_tell (calm_tell ⟨.inr rfl, fun _ => trivial⟩))

theorem pauseHeartbeat_makes (id : String) : Makes (· = .pauseHeartbeat id) (pauseHeartbeat id) := by
  refine makes_calm trivial fun r => ?_
  rcases r with _ | _ | h
  · exact trivial
  · exact trivial
  · exact makes_update rfl trivial (calm_tell (always_ask (.inl trivial) fun r => by cases r <;> exact trivial))

end Discipline

section Makes

variable {α : Type} {P : Statement → Prop} {p : Job α}

variable (hp : Makes P p)

include hp

theorem Makes.not_fetches : p.Always fun i => ¬ i.fetches := by
  refine hp.always.mono fun i hi => ?_
  rcases hi with hi | ⟨stmt, rfl, -⟩
  · exact hi.not_fetches
  · exact id

theorem Makes.proper (hP : ∀ stmt, P stmt → (Request.update stmt).proper) :
    p.Always Request.proper := by
  refine hp.always.mono fun i hi => ?_
  rcases hi with hi | ⟨stmt, rfl, hstmt⟩
  · exact hi.proper
  · exact hP stmt hstmt

theorem Makes.releases : p.Releases Request.fetches Request.writesBackTo Request.updates :=
  Once.releases hp (fun _ _ ⟨_, hi, _⟩ hcalm => hcalm.not_update hi.1)
    fun _ _ ⟨_, hi, _⟩ hcalm => hcalm.not_update hi

theorem Makes.ahead {stmt : Statement}
    (h : p.Ahead Request.fetches (Request.writesBack · stmt)) : P stmt ∧ stmt.isCopy := by
  obtain ⟨i, ⟨stmt', rfl, hP⟩, hback⟩ := Once.ahead hp (fun _ hi hcalm => hcalm.not_update hi.1) h
  exact ⟨Request.update.inj hback.1 ▸ hP, hback.2⟩

theorem Makes.ahead_to {id : String}
    (h : p.Ahead Request.fetches (Request.writesBackTo · id)) : ∃ stmt, P stmt ∧ stmt.id = id := by
  obtain ⟨i, ⟨stmt', rfl, hP⟩, stmt, hback, hid⟩ := Once.ahead hp
    (fun _ ⟨_, hi, _⟩ hcalm => hcalm.not_update hi.1) h
  exact ⟨stmt, Request.update.inj hback.1 ▸ hP, hid⟩

end Makes

section Bodies

/-- Disciplined, and holding nothing yet. -/
abbrev Unburdened (p : Job Unit) : Prop := Disciplined p ∧ ∀ stmt, ¬ Holds stmt p

/-- Code that writes nothing back. -/
theorem disciplined_of_makes {P : Statement → Prop} {p : Job Unit} (hp : Makes P p)
    (hP : ∀ stmt, P stmt → (Request.update stmt).proper ∧ ¬ stmt.isCopy) : Unburdened p :=
  ⟨⟨hp.proper fun stmt h => (hP stmt h).1, grants_of_always hp.not_fetches, hp.releases⟩,
    fun stmt h => (hP stmt (hp.ahead h).1).2 (hp.ahead h).2⟩

/-- Nothing is held before the read. -/
theorem not_holds_fetch {f : Answer i → Job Unit} (hi : i.fetches) (hno : ∀ stmt, i ≠ .update stmt)
    (stmt : Statement) : ¬ Holds stmt (ask i >>= f) := by
  intro h
  rcases ahead_ask.mp h with h | ⟨hs, -⟩
  · exact hno stmt h.1
  · exact hs hi

/-- A ping: it reads its row and makes one statement. -/
theorem disciplined_withRow {α : Type} {token : String} {P : Heartbeat → Statement → Prop}
    {body : Heartbeat → Job (Except HeartbeatError α)} (hbody : ∀ h, Makes (P h) (body h))
    (hP : ∀ h stmt, P h stmt → (Request.update stmt).proper ∧
      (stmt.isCopy → stmt.Copies h ∧ ¬ stmt.isMiss)) :
    Unburdened (withRow (ask (.getHeartbeatByUUID token)) body >>= fun _ => .done ()) := by
  -- what comes after the read, whatever it answers
  have hmakes : ∀ r : Except Unit (Option Heartbeat),
      Makes (fun stmt => ∃ h, r = .ok (some h) ∧ P h stmt)
        (withRow (Prog.done r) body >>= fun _ => .done ()) := by
    intro r
    rcases r with _ | _ | h
    · exact trivial
    · exact trivial
    · refine once_bind ((hbody h).mono (fun _ => id) fun _ hmade => ?_) fun _ => trivial
      obtain ⟨stmt, hi, hstmt⟩ := hmade
      exact ⟨stmt, hi, h, rfl, hstmt⟩
  have hproper : ∀ r, (withRow (Prog.done r) body >>= fun _ => .done ()).Always Request.proper := by
    intro r
    refine (hmakes r).proper fun stmt hmade => ?_
    obtain ⟨h, -, hstmt⟩ := hmade
    exact (hP h stmt hstmt).1
  have hread : ∀ id, ¬ (Request.getHeartbeatByUUID token).updates id := by
    intro id hupdates
    obtain ⟨stmt, hi, -⟩ := hupdates
    cases hi
  refine ⟨⟨⟨trivial, hproper⟩,
    ⟨fun _ r stmt hahead => ?_, fun r => grants_of_always (hmakes r).not_fetches⟩,
    ⟨fun id hupdates => absurd hupdates (hread id), fun r => (hmakes r).releases⟩⟩,
    not_holds_fetch trivial fun _ hi => by cases hi⟩
  obtain ⟨⟨h, rfl, hstmt⟩, hcopy⟩ := (hmakes r).ahead hahead
  exact (hP h stmt hstmt).2 hcopy

theorem processPing_disciplined (lic : License) (token : String) (src : PingSource) (agentID : Option String) :
    Unburdened (processPing lic token src agentID >>= fun _ => .done ()) := by
  refine disciplined_withRow (fun h => ping_makes lic src h agentID) fun h stmt hstmt => ?_
  obtain ⟨now, rfl⟩ := hstmt
  exact ⟨nofun, fun hcopy => hcopy.elim⟩

theorem processStartPing_disciplined (token : String) (src : PingSource) :
    Unburdened (processStartPing token src >>= fun _ => .done ()) := by
  refine disciplined_withRow (fun h => startPing_makes src h) fun h stmt hstmt => ?_
  obtain ⟨now, rfl⟩ := hstmt
  exact ⟨nofun, fun _ => ⟨⟨rfl, rfl⟩, id⟩⟩

theorem processExitCodePing_disciplined (lic : License) (token : String) (exitCode : Int) (src : PingSource) :
    Unburdened (processExitCodePing lic token exitCode src >>= fun _ => .done ()) := by
  unfold processExitCodePing
  split
  · exact ⟨⟨trivial, trivial, trivial⟩, fun _ h => h⟩
  · refine disciplined_withRow (fun h => exitCodePing_makes lic src h exitCode) fun h stmt hstmt => ?_
    obtain ⟨now, rfl⟩ := hstmt
    exact ⟨nofun, fun hcopy => hcopy.elim⟩

theorem pauseHeartbeat_disciplined (id : String) : Unburdened (pauseHeartbeat id >>= fun _ => .done ()) := by
  refine disciplined_of_makes (once_bind (pauseHeartbeat_makes id) fun _ => trivial) fun stmt hstmt => ?_
  subst hstmt
  exact ⟨trivial, fun hcopy => hcopy⟩

/-- A check: the rows it lists have different ids, so each is written at most once. -/
theorem checkDeadlines_disciplined : Unburdened checkDeadlines := by
  have hround : ∀ now (rows : Table.Rows Heartbeat.id),
      (forEach (missDeadline now) rows.val).Always (fun i => ¬ i.fetches) := fun now rows =>
    always_forEach fun h => (missDeadline_makes h now).not_fetches
  refine ⟨⟨⟨trivial, fun now => ⟨trivial, fun r => ?_⟩⟩,
    ⟨fun hs => hs.elim, fun now => ⟨fun _ r stmt hahead => ?_, fun r => ?_⟩⟩,
    ⟨(fun _ ⟨_, hi, _⟩ => nomatch hi), fun now => ⟨(fun _ ⟨_, hi, _⟩ => nomatch hi), fun r => ?_⟩⟩⟩,
      ?_⟩
  · cases r with
    | error => exact trivial
    | ok =>
      exact always_forEach fun h => (missDeadline_makes h now).proper fun _ hstmt => hstmt ▸ trivial
  · cases r with
    | error => exact hahead.elim
    | ok =>
      obtain ⟨h, hmem, hahead⟩ := ahead_forEach hahead
      rw [((missDeadline_makes h now).ahead hahead).1]
      exact ⟨h, hmem, rfl, rfl, rfl⟩
  · cases r with
    | error => exact trivial
    | ok rows => exact grants_of_always (hround now rows)
  · cases r with
    | error => exact trivial
    | ok rows =>
      refine releases_forEach (fun h => (missDeadline_makes h now).releases) (fun h id hever => ?_)
        (fun h id hahead => ?_) rows.property
      · obtain ⟨i, hi, stmt, rfl, rfl⟩ := (missDeadline_makes h now).always.ever hever
        rcases hi with hi | ⟨stmt', heq, rfl⟩
        · exact absurd rfl hi.not_update
        · rw [Request.update.inj heq]
          rfl
      · obtain ⟨stmt, rfl, hid⟩ := (missDeadline_makes h now).ahead_to hahead
        exact hid.symm
  · intro stmt h
    rcases ahead_ask.mp h with h | ⟨-, now, h⟩
    · exact nomatch h.1
    · exact not_holds_fetch (i := .listOverdueHeartbeats now) trivial (fun _ => nofun) stmt h

/-- **Every operation starts disciplined, holding nothing.** -/
theorem body_disciplined (lic : License) {task : Task} (h : task.2.races = true) :
    Unburdened ((machine lic).body task) := by
  obtain ⟨id, op⟩ := task
  cases op with
  | ping src agentID => exact processPing_disciplined lic id src agentID
  | startPing src => exact processStartPing_disciplined id src
  | exitCodePing exitCode src => exact processExitCodePing_disciplined lic id exitCode src
  | checkDeadlines => exact checkDeadlines_disciplined
  | pause => exact pauseHeartbeat_disciplined id
  | create | resume | delete => exact nomatch h

end Bodies

/-! ## 5. The invariant -/

/-- What a request does to the rows and to the record. -/
inductive Stepped (x : Choice) (i : Request) (w w' : World) : Prop where
  | same (hrows : w'.heartbeats = w.heartbeats) (hlog : w'.log = w.log)
      (hlist : ∀ now, i = .listOverdueHeartbeats now → x.ok = false)
  | listed (now : Time) (hi : i = .listOverdueHeartbeats now) (hrows : w'.heartbeats = w.heartbeats)
      (hlog : w'.log = w.log ++ [.listed])
  | wrote (stmt : Statement) (hi : i = .update stmt) (hx : x.executed = true) (hw : w' = w.update stmt)

theorem handle_stepped (hi : i.proper) (x : Choice) (w : World) : Stepped x i w (handle x w i).2 := by
  have haside : i.Aside → Stepped x i w (handle x w i).2 := by
    intro hi
    have hs := handle_aside hi x w
    refine .same hs.heartbeats hs.log fun now h => ?_
    subst h
    exact hi.elim
  cases i with
  | createHeartbeat => exact hi.elim
  | update stmt =>
    cases hx : x.executed with
    | true => exact .wrote stmt rfl hx (by simp [handle, hx, World.after])
    | false =>
      have hw : (handle x w (.update stmt)).2 = w := by simp [handle, hx, Request.isCallback]
      rw [hw]
      exact .same rfl rfl fun now h => by cases h
  | listOverdueHeartbeats now =>
    cases hok : x.ok with
    | true =>
      have hx : x.executed = true := (Bool.and_eq_true_iff.mp hok).1
      refine .listed now rfl ?_ ?_ <;> simp [handle, hx, hok, World.after]
    | false =>
      have hw : (handle x w (.listOverdueHeartbeats now)).2 = w := by
        simp [handle, hok, World.after]
      rw [hw]
      exact .same rfl rfl fun _ _ => hok
  | getHeartbeatByUUID =>
    rw [handle_read fun _ => rfl]
    exact .same rfl rfl fun now h => by cases h
  | tell =>
    rw [handle_tell]
    exact .same rfl rfl fun now h => by cases h
  | now | countActiveHeartbeats | getHeartbeatByID | insertPing | getCurrentExecution | updateExecution
  | insertExecution => exact haside trivial

section Rows

variable {id : String} {row row₀ h : Heartbeat} {stmt stmt' : Statement} {a : Account} {log : List Entry}

theorem account_append (e : Entry) : account id row₀ (log ++ [e]) = (account id row₀ log).note id e :=
  List.foldl_append.trans rfl

/-- A statement about another heartbeat is not in its account. -/
theorem note_other (hid : stmt.id ≠ id) : a.note id (.updated stmt) = a := by
  cases stmt with
  | deleteHeartbeat | resumeHeartbeat => rfl
  | pauseHeartbeat => exact if_neg hid
  | updateHeartbeatState _ _ writer =>
    cases writer with
    | deadline => rfl
    | ping => exact if_neg hid

theorem Statement.isMiss.isCopy : ∀ {stmt : Statement}, stmt.isMiss → stmt.isCopy
  | .updateHeartbeatState _ _ .deadline, _ => trivial

theorem Statement.Copies.id_eq : ∀ {stmt : Statement}, stmt.Copies row → stmt.id = row.id
  | .updateHeartbeatState _ _ .deadline, hcopies => hcopies.1
  | .updateHeartbeatState _ _ (.ping .start), hcopies => hcopies.1

/-- A write-back stays right when what it writes back is not changed. -/
theorem Statement.Copies.set (hcopies : stmt'.Copies row) (hproper : (Request.update stmt).proper)
    (hown : stmt.isCopy → stmt.Copies row) (hspoils : ¬ stmt.spoils stmt') : stmt'.Copies (stmt.set row) := by
  match stmt', hcopies with
  | .updateHeartbeatState _ _ .deadline, ⟨hid, hlast, hdeadline⟩ =>
    match stmt, hproper with
    | .pauseHeartbeat _, _ => exact absurd trivial hspoils
    | .updateHeartbeatState _ _ (.ping _), _ => exact absurd trivial hspoils
    | .updateHeartbeatState _ _ .deadline, _ =>
      obtain ⟨-, hlast', hdeadline'⟩ := hown trivial
      exact ⟨hid, hlast.trans hlast'.symm, hdeadline.trans hdeadline'.symm⟩
  | .updateHeartbeatState _ _ (.ping .start), ⟨hid, hlast⟩ =>
    match stmt, hproper with
    | .pauseHeartbeat _, _ => exact ⟨hid, hlast⟩
    | .updateHeartbeatState _ _ .deadline, _ => exact ⟨hid, hlast.trans (hown trivial).2.1.symm⟩
    | .updateHeartbeatState _ _ (.ping .start), _ => exact ⟨hid, hlast.trans (hown trivial).2.symm⟩
    | .updateHeartbeatState _ _ (.ping .success), _ => exact absurd nofun hspoils
    | .updateHeartbeatState _ _ (.ping .exitCode), _ => exact absurd nofun hspoils

/-- The account of a ping or a pause, and the row. -/
theorem Kept.set (hkept : Kept a row) (hid : stmt.id = id) (hproper : (Request.update stmt).proper)
    (hown : stmt.isCopy → stmt.Copies row) (hmiss : stmt.isMiss → a.status = none) :
    Kept (a.note id (.updated stmt)) (stmt.set row) := by
  cases stmt with
  | deleteHeartbeat | resumeHeartbeat => exact hproper.elim
  | pauseHeartbeat id' =>
    rw [show a.note id (.updated (.pauseHeartbeat id')) = _ from if_pos hid]
    refine ⟨hkept.lastPingAt, rfl, fun status hstatus => ?_⟩
    rw [← Option.some.inj hstatus]
    exact ⟨rfl, nofun⟩
  | updateHeartbeatState id' state writer =>
    cases writer with
    | deadline =>
      obtain ⟨-, hlast, hdeadline⟩ := hown trivial
      refine ⟨hlast.trans hkept.lastPingAt, hdeadline.trans hkept.nextDeadlineAt, fun status hstatus => ?_⟩
      exact nomatch (hmiss trivial).symm.trans hstatus
    | ping type =>
      rw [show a.note id (.updated (.updateHeartbeatState id' state (.ping type))) = _ from if_pos hid]
      refine ⟨?_, rfl, fun status hstatus => ?_⟩
      · cases type with
        | start => exact (hown trivial).2.trans hkept.lastPingAt
        | success | exitCode => rfl
      · rw [← Option.some.inj hstatus]
        exact ⟨rfl, hproper⟩

/-- What spares a missed deadline leaves the account's status alone. -/
theorem status_of_spares (hproper : (Request.update stmt).proper) (hmiss' : stmt'.isMiss)
    (hspoils : ¬ stmt.spoils stmt') : a.note id (.updated stmt) = a := by
  match stmt', hmiss' with
  | .updateHeartbeatState _ _ .deadline, _ =>
    match stmt, hproper with
    | .pauseHeartbeat _, _ => exact absurd trivial hspoils
    | .updateHeartbeatState _ _ (.ping _), _ => exact absurd trivial hspoils
    | .updateHeartbeatState _ _ .deadline, _ => rfl

end Rows

/-- What a thread holds about heartbeat `id` is right, and is no missed deadline once a ping or a pause
    was written. -/
def Right (id : String) (a : Account) (row : Heartbeat) (p : Job Unit) : Prop :=
  ∀ stmt, Holds stmt p → stmt.id = id → stmt.Copies row ∧ (stmt.isMiss → a.status = none)

/-- Threads are disciplined, the row says what it should, and what they hold is right. -/
structure RaceInv (id : String) (row₀ : Heartbeat) (s : Threads) : Prop where
  disciplined : ∀ (n : Nat) (t : Task × Job Unit), s.threads[n]? = some t → Disciplined t.2
  kept : ∃ row, s.world.heartbeats.get id = some row ∧ Kept (account id row₀ s.world.log) row ∧
    ∀ (n : Nat) (t : Task × Job Unit), s.threads[n]? = some t →
      Right id (account id row₀ s.world.log) row t.2

section Step

variable {id : String} {row row₀ : Heartbeat} {a : Account} {x : Choice} {w : World} {i : Request}

variable {stmt : Statement}

/-- A read gives the stored row. -/
theorem gives_copies (hrow : w.heartbeats.get id = some row) (hid : stmt.id = id) (h : gives i (answer x w i) stmt) :
    stmt.Copies row ∧ (stmt.isMiss → x.ok = true ∧ ∃ now, i = .listOverdueHeartbeats now) := by
  have hsame : ∀ h : Heartbeat, h ∈ w.heartbeats → stmt.Copies h → stmt.Copies row := by
    intro h hmem hcopies
    have hget : w.heartbeats.get id = some h := Table.get_eq_some.mpr ⟨hmem, hcopies.id_eq.symm.trans hid⟩
    rw [← Option.some.inj (hget.symm.trans hrow)]
    exact hcopies
  have hok : x.ok = true := by
    by_contra hfails
    cases i <;> simp [answer, gives, hfails] at h
  cases i with
  | getHeartbeatByUUID token =>
    simp only [answer, hok, if_true] at h
    cases hactive : w.activeRow token with
    | none =>
      rw [hactive] at h
      exact h.elim
    | some r =>
      rw [hactive] at h
      have hmem : r ∈ w.heartbeats := (Table.get_eq_some.mp (activeRow_eq_some.mp hactive).1).1
      exact ⟨hsame r hmem h.1, fun hmiss => absurd hmiss h.2⟩
  | listOverdueHeartbeats now =>
    simp only [answer, hok, if_true] at h
    obtain ⟨r, hr, hcopies⟩ := h
    exact ⟨hsame r (Choice.mem_select.mp hr).1 hcopies, fun _ => ⟨hok, now, rfl⟩⟩
  | _ => exact h.elim

variable {k : Answer i → Job Unit} {a' : Account} {p : Job Unit}

theorem Right.mono (hr : Right id a row p) (ha : a.status = none → a'.status = none) : Right id a' row p :=
  fun stmt hholds hid => ⟨(hr stmt hholds hid).1, fun hmiss => ha ((hr stmt hholds hid).2 hmiss)⟩

/-- The caller holds what it was just given, or what it held before. -/
theorem Disciplined.right (hd : Disciplined (.call i k : Job Unit)) (hr : Right id a row (.call i k))
    (hrow : w.heartbeats.get id = some row) (ha : a.status = none → a'.status = none)
    (hlist : ∀ now, i = .listOverdueHeartbeats now → x.ok = true → a'.status = none) :
    Right id a' row (k (answer x w i)) := by
  intro stmt hholds hid
  by_cases hfetches : i.fetches
  · obtain ⟨hcopies, hmiss⟩ := gives_copies hrow hid (hd.grants.1 hfetches _ stmt hholds)
    refine ⟨hcopies, fun h => ?_⟩
    obtain ⟨hok, now, hi⟩ := hmiss h
    exact hlist now hi hok
  · exact (hr.mono ha) stmt (hholds.before hfetches) hid

/-- What another thread holds stays right through a write that does not spoil it. -/
theorem Right.set (hr : Right id a row p) (hproper : (Request.update stmt).proper)
    (hown : stmt.isCopy → stmt.Copies row) (hspares : ∀ stmt', Holds stmt' p → stmt'.id = id →
      ¬ stmt.spoils stmt') :
    Right id (a.note id (.updated stmt)) (stmt.set row) p := by
  intro stmt' hholds hid'
  have hspared : ¬ stmt.spoils stmt' := hspares stmt' hholds hid'
  obtain ⟨hcopies, hnone⟩ := hr stmt' hholds hid'
  refine ⟨hcopies.set hproper hown hspared, fun hmiss' => ?_⟩
  rw [status_of_spares hproper hmiss' hspared]
  exact hnone hmiss'

/-- After a write to the heartbeat the caller holds nothing about it. -/
theorem Right.written {k : Answer (.update stmt) → Job Unit}
    (hd : Disciplined (.call (.update stmt) k : Job Unit)) (hid : stmt.id = id) (b : Bool) : Right id a row (k b) := by
  intro stmt' hholds hid'
  refine absurd ?_ (hd.releases.1 id ⟨stmt, rfl, hid⟩ b)
  exact Ahead.mono (fun _ h => h) (fun _ h => ⟨stmt', h, hid'⟩) hholds

end Step

section Runs

variable {lic : License} {id : String} {row₀ : Heartbeat} {s s' : Threads} {m : Move}

theorem raceInv_begin {w : World} (hrow : w.heartbeats.get id = some row₀) : RaceInv id row₀ (.begin w) :=
  ⟨fun n t ht => by simp [Threads.begin] at ht, row₀, hrow,
    ⟨rfl, rfl, fun status h => nomatch h⟩, fun n t ht => by simp [Threads.begin] at ht⟩

/-- A thread starts with nothing in hand. -/
theorem raceInv_start (h : RaceInv id row₀ s) {task : Task} (hs : step lic s (.start task) = some s') :
    RaceInv id row₀ s' := by
  obtain ⟨row, hrow, hkept, hright⟩ := h.kept
  obtain ⟨hadmits, rfl⟩ := Pool.step_start hs
  obtain ⟨hbody, hholds⟩ := body_disciplined lic hadmits
  refine ⟨fun n t ht => ?_, row, hrow, hkept, fun n t ht => ?_⟩
  · rcases Pool.get_start ht with ht | ⟨-, rfl⟩
    · exact h.disciplined n t ht
    · exact hbody
  · rcases Pool.get_start (M := machine lic) ht with ht | ⟨-, rfl⟩
    · exact hright n t ht
    · exact fun stmt hstmt => absurd hstmt (hholds stmt)

/-- **A move that spoils no write-back keeps the invariant.** -/
theorem raceInv_step (h : RaceInv id row₀ s) (hok : Unspoilt id s m) (hs : step lic s m = some s') :
    RaceInv id row₀ s' := by
  cases m with
  | start => exact raceInv_start h hs
  | run n x =>
    obtain ⟨row, hrow, hkept, hright⟩ := h.kept
    obtain ⟨task, i, k, hn, rfl⟩ := Pool.step_run hs
    have hcaller : Disciplined (.call i k : Job Unit) := h.disciplined n _ hn
    have hthreads : ∀ {Q : Job Unit → Prop} (_ : Q (k (answer x s.world i)))
        (_ : ∀ m t, m ≠ n → s.threads[m]? = some t → Q t.2) (m : Nat) (t : Task × Job Unit),
        (Pool.after (machine lic) s n x task i k).threads[m]? = some t → Q t.2 := by
      intro Q hself hothers m t ht
      rcases Pool.get_run ht with ⟨-, rfl⟩ | ⟨hmn, ht⟩ | ⟨child, hfork, -⟩
      · exact hself
      · exact hothers m t hmn ht
      · cases hfork
    refine ⟨hthreads ⟨hcaller.proper.2 _, hcaller.grants.2 _, hcaller.releases.2 _⟩
      fun m t _ ht => h.disciplined m t ht, ?_⟩
    show ∃ row', (handle x s.world i).2.heartbeats.get id = some row' ∧
      Kept (account id row₀ (handle x s.world i).2.log) row' ∧ ∀ (m : Nat) (t : Task × Job Unit),
        (Pool.after (machine lic) s n x task i k).threads[m]? = some t →
          Right id (account id row₀ (handle x s.world i).2.log) row' t.2
    cases handle_stepped hcaller.proper.1 x s.world with
    | same hrows hlog hlist =>
      rw [hrows, hlog]
      refine ⟨row, hrow, hkept, hthreads (hcaller.right (hright n _ hn) hrow (fun h => h) fun now hi hok => ?_)
        fun m t _ ht => hright m t ht⟩
      simp [hlist now hi] at hok
    | listed _ _ hrows hlog =>
      rw [hrows, hlog, account_append]
      refine ⟨row, hrow, ⟨hkept.lastPingAt, hkept.nextDeadlineAt, fun _ h => nomatch h⟩,
        hthreads (hcaller.right (hright n _ hn) hrow (fun _ => rfl) fun _ _ _ => rfl)
          fun m t _ ht => (hright m t ht).mono fun _ => rfl⟩
    | wrote stmt hi hx hw =>
      subst hi
      rw [hw, show (s.world.update stmt).log = s.world.log ++ [.updated stmt] from rfl, account_append,
        update_get]
      by_cases hid : stmt.id = id
      · -- the caller is about to make the statement, so what it writes back is right
        have hmine : stmt.isCopy → stmt.Copies row ∧
            (stmt.isMiss → (account id row₀ s.world.log).status = none) := fun hcopy =>
          hright n _ hn stmt (Or.inl ⟨rfl, hcopy⟩) hid
        have hown : stmt.isCopy → stmt.Copies row := fun hcopy => (hmine hcopy).1
        rw [if_pos hid.symm, hrow]
        refine ⟨stmt.set row, rfl, hkept.set hid hcaller.proper.1 hown (fun hmiss => (hmine hmiss.isCopy).2 hmiss),
          hthreads (Right.written hcaller hid _) fun m t hmn ht => ?_⟩
        exact (hright m t ht).set hcaller.proper.1 hown fun stmt' hholds hid' hspoils =>
          hok task stmt k hn hid hx m t stmt' hmn ht hid' hspoils hholds
      · rw [if_neg (Ne.symm hid), note_other hid]
        exact ⟨row, hrow, hkept, hthreads (hcaller.right (hright n _ hn) hrow (fun h => h) fun _ h => nomatch h)
          fun m t _ ht => hright m t ht⟩

/-- **No update of a heartbeat is lost in a run that spoils no write-back**: in every state that is reached
    the row has the times of the latest ping, no deadline if a pause came after it, and the status that the
    latest ping or pause since the overdue list was read has written. -/
theorem heartbeat_updates_kept {w : World} (hrow : w.heartbeats.get id = some row₀)
    (hs : Reach (step lic) (Unspoilt id) (.begin w) s) :
    ∃ row, s.world.heartbeats.get id = some row ∧ Kept (account id row₀ s.world.log) row := by
  have hinv : RaceInv id row₀ s := hs.inv (raceInv_begin hrow) fun _ _ _ h hok hstep => raceInv_step h hok hstep
  obtain ⟨row, hget, hkept, -⟩ := hinv.kept
  exact ⟨row, hget, hkept⟩

end Runs

/-! ## 6. Two runs -/

/-- A heartbeat that was pinged at second 100. -/
def pingedWorld : World :=
  (emptyWatch.service.perform (.ofMax 5) "hb" (doing (.create ⟨"backup", 3600, 60⟩) "a").1).perform
    (.ofMax 5) "hb" (doing (.ping sampleSource none) "b").1

def pingedRow : Heartbeat :=
  { freshRow "hb" ⟨"backup", 3600, 60⟩ with
    status := .up
    lastPingAt := some 100
    nextDeadlineAt := some 3760
    consecutiveSuccesses := 1 }

theorem pingedWorld_row : pingedWorld.heartbeats.get "hb" = some pingedRow := by decide

/-- Every statement succeeds, at second 10000. -/
def lateChoice : Choice := { plainChoice "c" with now := 10000 * second }

/-- The overdue list is read, a ping comes in and is done, and the check goes on. -/
def pingDuringCheck : List Move :=
  [.start ("", .checkDeadlines), .run 0 lateChoice, .run 0 lateChoice,
    .start ("hb", .ping sampleSource none)] ++ List.replicate 6 (.run 1 lateChoice) ++
      List.replicate 4 (.run 0 lateChoice)

/-- **A ping is lost to a deadline check**: both are done, the latest ping was at second 10000, and the
    heartbeat is down with the times of the ping before. -/
theorem ping_lost_to_check :
    ∃ s, Reach (step (.ofMax 5)) anyStep (.begin pingedWorld) s ∧ (Pool.inProgress s.threads).length = 0 ∧
      account "hb" pingedRow s.world.log = ⟨some 10000, some 13660, some .up⟩ ∧
      (s.world.heartbeats.get "hb").map (fun h => (h.status, h.lastPingAt, h.nextDeadlineAt)) =
        some (.down, some 100, some 3760) :=
  ⟨_, reach_of_runList pingDuringCheck _, by decide, by decide, by decide⟩

theorem unspoilt_of_sole {id : String} {s : Threads} {m : Move} (h : Pool.sole s m = true) : Unspoilt id s m := by
  cases m with
  | start => exact trivial
  | run =>
    intro _ _ _ _ _ _ m t stmt' hmn ht _ _ hholds
    rw [Pool.done_of_sole h hmn ht] at hholds
    exact hholds

/-- The check is done before the ping comes in. -/
def pingAfterCheck : List Move :=
  .start ("", .checkDeadlines) :: List.replicate 6 (.run 0 lateChoice) ++
    .start ("hb", .ping sampleSource none) :: List.replicate 9 (.run 1 lateChoice)

theorem ping_kept_after_check :
    ∃ row, (runList (step (.ofMax 5)) (.begin pingedWorld) pingAfterCheck).world.heartbeats.get "hb" = some row ∧
      Kept ⟨some 10000, some 13660, some .up⟩ row := by
  have haccount : account "hb" pingedRow
      (runList (step (.ofMax 5)) (.begin pingedWorld) pingAfterCheck).world.log =
        ⟨some 10000, some 13660, some .up⟩ := by decide
  rw [← haccount]
  exact heartbeat_updates_kept pingedWorld_row
    (reach_of_runOk (fun _ _ => unspoilt_of_sole) pingAfterCheck _ (by decide))

end Maintenant.Heartbeats
