/-
  File:      Maintenant/Heartbeat/Effects.lean
  Subject:   WHAT A HANDLER OF THE HEARTBEAT SERVICE DOES WHEN IT IS ALONE.

  Each handler reads a row, writes pings and executions on the side, writes the row back and then
  calls the callbacks. `wp_processPing` … say what is left of that for the row: nothing at all, or one
  write and what is told after it. With `errors` the store may refuse or hide any statement; without,
  each one is executed and reported.
-/
import Maintenant.Heartbeat.Service

namespace Maintenant.Heartbeats

open GoTime Prog

/-! ## 1. Pings and executions on the side -/

variable {w' : World} {i : Request}

/-- The guard on the environment: with `errors` anything goes, without every statement succeeds. -/
def admits (errors : Bool) (x : Choice) (_ : Request) : Bool := errors || x.ok

/-- Heartbeats, callbacks and the record are the same. -/
structure Same (w w' : World) : Prop where
  heartbeats : w'.heartbeats = w.heartbeats
  told : w'.told = w.told
  log : w'.log = w.log

theorem Same.refl (w : World) : Same w w := ⟨rfl, rfl, rfl⟩

theorem Same.trans {w w'' : World} (h : Same w w') (h' : Same w' w'') : Same w w'' :=
  ⟨h'.heartbeats.trans h.heartbeats, h'.told.trans h.told, h'.log.trans h.log⟩

/-- A statement about pings and executions only, or a read of no row to be written back. -/
def Request.Aside : Request → Prop
  | .now | .countActiveHeartbeats | .getHeartbeatByID _ | .insertPing _ | .getCurrentExecution _
  | .updateExecution .. | .insertExecution _ => True
  | _ => False

theorem handle_aside (hi : i.Aside) (x : Choice) (w : World) : Same w (handle x w i).2 := by
  have hafter : Same w (w.after x i) := by
    cases i with
    | insertExecution e =>
      show Same w (w.insertExecution x.newID e)
      unfold World.insertExecution
      split <;> exact ⟨rfl, rfl, rfl⟩
    | now | countActiveHeartbeats | getHeartbeatByID | insertPing | getCurrentExecution
    | updateExecution => exact ⟨rfl, rfl, rfl⟩
    | getHeartbeatByUUID | createHeartbeat | update | listOverdueHeartbeats | tell => exact hi.elim
  unfold handle
  split
  · exact hafter
  · exact Same.refl w

section Aside

variable {h : Heartbeat} {now : Time} {payload : Option Payload}

theorem closeExecution_aside {durationMs exitCode : Option Int} {outcome : ExecutionOutcome} :
    (closeExecution h now durationMs exitCode outcome payload).Always Request.Aside := by
  simp [closeExecution, Option.forall, Request.Aside]

theorem recordSuccess_aside : (recordSuccess h now payload).Always Request.Aside := by
  unfold recordSuccess
  split
  · exact always_bind closeExecution_aside fun _ => trivial
  · simp [Request.Aside]

theorem recordExit_aside {exitCode : Int} : (recordExit h now exitCode payload).Always Request.Aside :=
  always_bind closeExecution_aside fun closed => by cases closed <;> simp [Request.Aside]

theorem timeoutRun_aside : (timeoutRun now h).Always Request.Aside := by
  unfold timeoutRun
  split
  · exact always_bind closeExecution_aside fun _ => trivial
  · exact trivial

end Aside

/-! ## 2. Rules -/

section Rules

variable {errors : Bool} {α β : Type} {w : World} {Q : α → World → Prop}

/-- What is done on the side leaves heartbeats, callbacks and the record alone. -/
theorem wp_aside {p : Job β} {f : β → Job α} (hp : p.Always Request.Aside)
    (hf : ∀ b w', Same w w' → wp handle (admits errors) (f b) Q w') :
    wp handle (admits errors) (p >>= f) Q w := by
  rw [wp_bind]
  refine wp_mono (fun b w' hw => hf b w' hw) ?_
  refine wp_always (fun i hi x s _ hs => hs.trans (handle_aside hi x s)) hp (Same.refl w)

theorem wp_ask_aside {f : Answer i → Job α} (hi : i.Aside)
    (hf : ∀ b w', Same w w' → wp handle (admits errors) (f b) Q w') :
    wp handle (admits errors) (ask i >>= f) Q w :=
  wp_aside ⟨hi, fun _ => trivial⟩ hf

theorem handle_tell (x : Choice) (w : World) (t : Told) :
    handle x w (.tell t) = ((), { w with told := w.told ++ [t] }) := by
  simp [handle, Request.isCallback, answer, World.after]

/-- A callback is told. -/
theorem wp_tell {t : Told} {f : Unit → Job α}
    (hf : wp handle (admits errors) (f ()) Q { w with told := w.told ++ [t] }) :
    wp handle (admits errors) (tell t >>= f) Q w := by
  intro x _
  rw [handle_tell]
  exact hf

theorem wp_tell_last {t : Told} {Q : Unit → World → Prop} (hQ : Q () { w with told := w.told ++ [t] }) :
    wp handle (admits errors) (tell t) Q w := by
  intro x _
  rw [handle_tell]
  exact hQ

end Rules

/-! ## 3. One update -/

/-- One statement is executed, and the callbacks are told `ts` (or nothing, when the caller does not
    learn of it). -/
structure Wrote (errors : Bool) (w : World) (stmt : Statement) (ts : List Told) (w' : World) : Prop where
  heartbeats : w'.heartbeats = (w.update stmt).heartbeats
  log : w'.log = w.log ++ [.updated stmt]
  told : w'.told = w.told ++ ts ∨ errors = true ∧ w'.told = w.told

section Update

variable {errors : Bool} {α : Type} {w : World} {stmt : Statement}

/-- Wherever a program ends that starts in `w`, this holds. -/
abbrev Ensures (errors : Bool) (p : Job α) (w : World) (R : World → Prop) : Prop :=
  wp handle (admits errors) p (fun _ => R) w

/-- Code that tells the callbacks `ts` and leaves heartbeats and the record alone. -/
abbrev Tells (errors : Bool) (p : Job α) (ts : List Told) : Prop :=
  ∀ (Q : α → World → Prop) w,
    (∀ a w', w'.heartbeats = w.heartbeats → w'.log = w.log → w'.told = w.told ++ ts → Q a w') →
    wp handle (admits errors) p Q w

/-- A statement, and what is told after it. -/
theorem wp_update {a : α} {next : Job α} {ts : List Told} (hnext : Tells errors next ts) :
    Ensures errors (ask (.update stmt) >>= fun ok => if ok = false then pure a else next) w
      fun w' => errors = true ∧ Same w w' ∨ Wrote errors w stmt ts w' := by
  intro x hx
  have hw : (handle x w (.update stmt)).2 = if x.executed then w.update stmt else w := by
    simp only [handle, Request.isCallback, Bool.or_false]
    rfl
  show wp handle (admits errors) (if x.ok = false then pure a else next) _ _
  rw [hw]
  cases hok : x.ok with
  | true =>
    have hexec : x.executed = true := (Bool.and_eq_true_iff.mp hok).1
    rw [if_neg (Ne.symm Bool.false_ne_true), if_pos hexec]
    exact hnext _ _ fun a w' hrows hlog htold => .inr ⟨hrows, hlog, .inl htold⟩
  | false =>
    have herrors : errors = true := by
      rw [admits, hok, Bool.or_false] at hx
      exact hx
    rw [if_pos rfl]
    cases x.executed with
    | true => exact .inr ⟨rfl, rfl, .inr ⟨herrors, rfl⟩⟩
    | false => exact .inl ⟨herrors, Same.refl w⟩

/-- An update does not depend on pings and executions. -/
theorem Wrote.of_same {w₀ : World} {ts : List Told} (h : Same w₀ w) (hw : Wrote errors w stmt ts w') :
    Wrote errors w₀ stmt ts w' := by
  refine ⟨?_, ?_, ?_⟩
  · rw [hw.heartbeats]
    unfold World.update
    rw [h.heartbeats]
  · rw [hw.log, h.log]
  · rw [← h.told]
    exact hw.told

end Update

/-! ## 4. The handlers -/

/-- What is told of a status. -/
def statusTold (h : Heartbeat) (newStatus : HeartbeatStatus) (agentID : Option String) : List Told :=
  if newStatus = h.status then [] else [.statusChanged h.id h.status newStatus agentID]

/-- What is told of a recovery. -/
def recoveryTold (h : Heartbeat) (agentID : Option String) : List Told :=
  if h.recovering then [.recovery h.id h.name agentID, .recoveryCallback h.id h.name] else []

/-- What is told after a success ping. -/
def pingTold (h : Heartbeat) (agentID : Option String) : List Told :=
  .pingReceived h.id .success none .up agentID :: (statusTold h .up agentID ++ recoveryTold h agentID)

/-- What is told after a start ping. -/
def startTold (h : Heartbeat) : List Told :=
  .pingReceived h.id .start none .started none :: statusTold h .started none

/-- What is told after an exit code ping. -/
def exitTold (h : Heartbeat) (exitCode : Int) : List Told :=
  .pingReceived h.id .exitCode (some exitCode) .up none :: (statusTold h .up none ++
    if exitCode = 0 then recoveryTold h none
    else [.alert h.id h.name .exitCodeFailure ("exit code " ++ toString exitCode),
      .alertCallback h.id h.name .exitCodeFailure (some exitCode) ("exit code " ++ toString exitCode)])

/-- What is told after a missed deadline. -/
def missedTold (h : Heartbeat) : List Told :=
  [.statusChanged h.id h.status .down none, .alert h.id h.name .deadlineMissed (alertMsg h),
    .alertCallback h.id h.name .deadlineMissed none (alertMsg h)]

section Handlers

variable {errors : Bool} {α : Type} {w : World} {Q : α → World → Prop} {h : Heartbeat}

theorem wp_tellStatus {newStatus : HeartbeatStatus} {agentID : Option String} {f : Unit → Job α}
    (hf : wp handle (admits errors) (f ()) Q
      { w with told := w.told ++ statusTold h newStatus agentID }) :
    wp handle (admits errors) (tellStatus h newStatus agentID >>= f) Q w := by
  unfold statusTold at hf
  unfold tellStatus
  split
  · next hs =>
    rw [if_pos hs, List.append_nil] at hf
    exact hf
  · next hs =>
    rw [if_neg hs] at hf
    exact wp_tell hf

theorem wp_tellRecovery {agentID : Option String} {f : Unit → Job α}
    (hf : wp handle (admits errors) (f ()) Q { w with told := w.told ++ recoveryTold h agentID }) :
    wp handle (admits errors) (tellRecovery h agentID >>= f) Q w := by
  unfold recoveryTold at hf
  unfold tellRecovery
  split
  · next hr =>
    rw [if_pos hr] at hf
    refine wp_tell (wp_tell ?_)
    rw [List.append_assoc]
    exact hf
  · next hr =>
    rw [if_neg hr, List.append_nil] at hf
    exact hf

/-- A handler does nothing, if there are errors or it is `idle`, or it makes one statement. -/
def Handled (errors : Bool) (w : World) (idle : Prop) (P : Statement → List Told → Prop) (w' : World) :
    Prop :=
  (errors = true ∨ idle) ∧ Same w w' ∨ ∃ stmt ts, P stmt ts ∧ Wrote errors w stmt ts w'

/-- The last lines of a handler: a statement, and what is told after it. -/
theorem wp_writes {idle : Prop} {P : Statement → List Told → Prop} {stmt : Statement} {ts : List Told}
    {w₁ : World}
    {next : Job (Except HeartbeatError α)} (hP : P stmt ts) (hs : Same w w₁) (hnext : Tells errors next ts) :
    Ensures errors (ask (.update stmt) >>= fun ok => if ok = false then pure (.error .store) else next) w₁
      (Handled errors w idle P) := by
  refine wp_mono (fun _ _ hw => ?_) (wp_update hnext)
  rcases hw with ⟨he, hw⟩ | hw
  · exact .inl ⟨.inl he, hs.trans hw⟩
  · exact .inr ⟨stmt, ts, hP, hw.of_same hs⟩

/-- The statement a ping of row `h` makes. -/
def PingWrites (h : Heartbeat) (state : Time → HeartbeatState) (type : PingType) (ts : List Told)
    (stmt : Statement) (told : List Told) : Prop :=
  ∃ now, stmt = .updateHeartbeatState h.id (state now) (.ping type) ∧ told = ts

theorem wp_ping (lic : License) (src : PingSource) (agentID : Option String) : Ensures errors (ping lic src agentID h) w
      (Handled errors w False (PingWrites h h.pinged .success (pingTold h agentID))) := by
  refine wp_ask_aside trivial fun now w₁ h₁ => ?_
  refine wp_ask_aside trivial fun _ w₂ h₂ => ?_
  refine wp_aside recordSuccess_aside fun _ w₃ h₃ => ?_
  refine wp_writes ⟨now, rfl, rfl⟩ ((h₁.trans h₂).trans h₃) fun _ _ hQ => ?_
  refine wp_tell (wp_tellStatus (wp_tellRecovery (hQ _ _ rfl rfl ?_)))
  simp only [pingTold, List.append_assoc, List.cons_append, List.nil_append]

theorem wp_startPing (src : PingSource) : Ensures errors (startPing src h) w
      (Handled errors w False (PingWrites h h.startPinged .start (startTold h))) := by
  refine wp_ask_aside trivial fun now w₁ h₁ => ?_
  refine wp_ask_aside trivial fun _ w₂ h₂ => ?_
  refine wp_aside closeExecution_aside fun _ w₃ h₃ => ?_
  refine wp_ask_aside trivial fun _ w₄ h₄ => ?_
  refine wp_writes ⟨now, rfl, rfl⟩ (((h₁.trans h₂).trans h₃).trans h₄) fun _ _ hQ => ?_
  refine wp_tell (wp_tellStatus (hQ _ _ rfl rfl ?_))
  simp only [startTold, List.append_assoc, List.singleton_append]

theorem wp_exitCodePing (lic : License) (exitCode : Int) (src : PingSource) :
    Ensures errors (exitCodePing lic exitCode src h) w
      (Handled errors w False (PingWrites h (h.exitPinged · exitCode) .exitCode (exitTold h exitCode))) := by
  refine wp_ask_aside trivial fun now w₁ h₁ => ?_
  refine wp_ask_aside trivial fun _ w₂ h₂ => ?_
  refine wp_aside recordExit_aside fun _ w₃ h₃ => ?_
  refine wp_writes ⟨now, rfl, rfl⟩ ((h₁.trans h₂).trans h₃) fun _ _ hQ => ?_
  refine wp_tell (wp_tellStatus ?_)
  unfold tellExit
  split
  · next hzero =>
    refine wp_tellRecovery (hQ _ _ rfl rfl ?_)
    simp only [exitTold, if_pos hzero, List.append_assoc, List.cons_append, List.nil_append]
  · next hzero =>
    refine wp_tell (wp_tell (hQ _ _ rfl rfl ?_))
    simp only [exitTold, if_neg hzero, List.append_assoc, List.cons_append, List.nil_append]

/-! ### Handlers that read their row -/

variable {row : Option Heartbeat}

theorem handle_read (hi : ∀ x, World.after w x i = w) (x : Choice) : (handle x w i).2 = w := by
  unfold handle
  rw [hi x]
  exact ite_self w

/-- A read leaves the world alone and answers with the row. -/
def Reads (errors : Bool) (w : World) (row : Option Heartbeat) (r : Except Unit (Option Heartbeat))
    (w' : World) : Prop := w' = w ∧ (errors = true ∧ r = .error () ∨ r = .ok row)

theorem reads_of_ok {x : Choice} (hx : admits errors x i = true) (hw : w' = w) :
    Reads errors w row (if x.ok then .ok row else .error ()) w' := by
  refine ⟨hw, ?_⟩
  cases hok : x.ok with
  | false =>
    rw [admits, hok, Bool.or_false] at hx
    exact .inl ⟨hx, rfl⟩
  | true => exact .inr rfl

theorem wp_getHeartbeatByUUID (token : String) :
    wp handle (admits errors) (ask (.getHeartbeatByUUID token)) (Reads errors w (w.activeRow token)) w :=
  fun x hx => reads_of_ok hx (handle_read (fun _ => rfl) x)

theorem wp_getHeartbeatByID (id : String) :
    wp handle (admits errors) (ask (.getHeartbeatByID id)) (Reads errors w (w.heartbeats.get id)) w :=
  fun x hx => reads_of_ok hx (handle_read (fun _ => rfl) x)

variable {read : Job (Except Unit (Option Heartbeat))} {body : Heartbeat → Job (Except HeartbeatError α)}
  {P : Heartbeat → Statement → List Told → Prop} (hread : wp handle (admits errors) read (Reads errors w row) w)

include hread

/-- **A handler on its row.** -/
theorem wp_withRow {idle : Heartbeat → Prop}
    (hbody : ∀ h, row = some h → Ensures errors (body h) w (Handled errors w (idle h) (P h))) :
    Ensures errors (withRow read body) w
      (Handled errors w (∀ h, row = some h → idle h) fun stmt ts => ∃ h, row = some h ∧ P h stmt ts) := by
  unfold Ensures withRow
  rw [wp_bind]
  refine wp_mono (fun r w₁ hr => ?_) hread
  obtain ⟨rfl, ⟨he, rfl⟩ | rfl⟩ := hr
  · exact .inl ⟨.inl he, Same.refl w₁⟩
  · cases row with
    | none => exact .inl ⟨.inr (fun h hrow => nomatch hrow), Same.refl w₁⟩
    | some h =>
      refine wp_mono (fun _ w' hw => ?_) (hbody h rfl)
      rcases hw with ⟨he, hs⟩ | ⟨stmt, ts, hP, hw⟩
      · exact .inl ⟨he.imp_right fun hi h' hrow => Option.some.inj hrow ▸ hi, hs⟩
      · exact .inr ⟨stmt, ts, ⟨h, rfl, hP⟩, hw⟩

/-- The same, for a body that always acts. -/
theorem wp_withRow_acts
    (hbody : ∀ h, row = some h → Ensures errors (body h) w (Handled errors w False (P h))) :
    Ensures errors (withRow read body) w
      (Handled errors w (row = none) fun stmt ts => ∃ h, row = some h ∧ P h stmt ts) := by
  refine wp_mono (fun _ w' hw => ?_) (wp_withRow hread hbody)
  rcases hw with ⟨he, hs⟩ | hw
  · exact .inl ⟨he.imp_right Option.eq_none_iff_forall_ne_some.mpr, hs⟩
  · exact .inr hw

omit hread

theorem wp_processPing (lic : License) (token : String) (src : PingSource) (agentID : Option String) :
    Ensures errors (processPing lic token src agentID) w (Handled errors w (w.activeRow token = none) fun stmt ts =>
      ∃ h, w.activeRow token = some h ∧ PingWrites h h.pinged .success (pingTold h agentID) stmt ts) :=
  wp_withRow_acts (wp_getHeartbeatByUUID token) fun _ _ => wp_ping lic src agentID

theorem wp_processStartPing (token : String) (src : PingSource) :
    Ensures errors (processStartPing token src) w (Handled errors w (w.activeRow token = none) fun stmt ts =>
      ∃ h, w.activeRow token = some h ∧ PingWrites h h.startPinged .start (startTold h) stmt ts) :=
  wp_withRow_acts (wp_getHeartbeatByUUID token) fun _ _ => wp_startPing src

def validExitCode (exitCode : Int) : Prop := 0 ≤ exitCode ∧ exitCode ≤ 255

theorem wp_processExitCodePing (lic : License) (token : String) (exitCode : Int) (src : PingSource) :
    Ensures errors (processExitCodePing lic token exitCode src) w
      (Handled errors w (validExitCode exitCode → w.activeRow token = none) fun stmt ts =>
        validExitCode exitCode ∧ ∃ h, w.activeRow token = some h ∧
          PingWrites h (h.exitPinged · exitCode) .exitCode (exitTold h exitCode) stmt ts) := by
  unfold Ensures processExitCodePing
  split
  · next hcode =>
    refine .inl ⟨.inr fun hvalid => ?_, Same.refl w⟩
    unfold validExitCode at hvalid
    omega
  · next hcode =>
    have hvalid : validExitCode exitCode := by
      unfold validExitCode
      omega
    refine wp_mono (fun _ w' hw => ?_)
      (wp_withRow_acts (wp_getHeartbeatByUUID token) fun _ _ => wp_exitCodePing lic exitCode src)
    rcases hw with ⟨he, hs⟩ | ⟨stmt, ts, hP, hw⟩
    · exact .inl ⟨he.imp_right fun hi _ => hi, hs⟩
    · exact .inr ⟨stmt, ts, ⟨hvalid, hP⟩, hw⟩

theorem wp_deleteHeartbeat (id : String) : Ensures errors (deleteHeartbeat id) w
      (Handled errors w (w.heartbeats.get id = none) fun stmt ts =>
        ∃ h, w.heartbeats.get id = some h ∧ stmt = .deleteHeartbeat id ∧ ts = [.deleted id]) :=
  wp_withRow_acts (wp_getHeartbeatByID id) fun _ _ =>
    wp_writes ⟨rfl, rfl⟩ (Same.refl w) fun _ _ hQ => wp_tell (hQ _ _ rfl rfl rfl)

theorem wp_readBack {id : String} {Q : Except HeartbeatError (Option Heartbeat) → World → Prop}
    (hQ : ∀ a w', Same w w' → Q a w') : wp handle (admits errors) (readBack id) Q w := by
  refine wp_ask_aside trivial fun r w' hs => ?_
  cases r <;> exact hQ _ _ hs

theorem wp_pauseHeartbeat (id : String) : Ensures errors (pauseHeartbeat id) w
      (Handled errors w (w.heartbeats.get id = none) fun stmt ts => ∃ h, w.heartbeats.get id = some h ∧
        stmt = .pauseHeartbeat id ∧ ts = [.statusChanged id h.status .paused none]) :=
  wp_withRow_acts (wp_getHeartbeatByID id) fun _ _ => wp_writes ⟨rfl, rfl⟩ (Same.refl w) fun _ _ hQ =>
    wp_tell (wp_readBack fun _ _ hs => hQ _ _ hs.heartbeats hs.log hs.told)

theorem wp_resumeHeartbeat (id : String) : Ensures errors (resumeHeartbeat id) w
      (Handled errors w (∀ h, w.heartbeats.get id = some h → h.status ≠ .paused) fun stmt ts =>
        ∃ h, w.heartbeats.get id = some h ∧ h.status = .paused ∧
          ∃ now, stmt = .resumeHeartbeat id (h.deadline now) ∧ ts = [.statusChanged id .paused .up none]) := by
  refine wp_withRow (wp_getHeartbeatByID id) fun h _ => ?_
  unfold Ensures resume
  split
  · next hstatus => exact .inl ⟨.inr hstatus, Same.refl w⟩
  · next hstatus =>
    refine wp_ask_aside trivial fun now w₁ h₁ => ?_
    refine wp_writes ⟨not_not.mp hstatus, now, rfl, rfl⟩ h₁ fun _ _ hQ => ?_
    exact wp_tell (wp_readBack fun _ _ hs => hQ _ _ hs.heartbeats hs.log hs.told)

/-- The row of the token is created or renewed. -/
structure Created (w : World) (token : String) (input : CreateHeartbeatInput) (w' : World) : Prop where
  heartbeats : w'.heartbeats = (w.createHeartbeat token input).heartbeats
  log : w'.log = w.log
  told : ∃ ts, w'.told = w.told ++ ts ∧ ∀ t ∈ ts, ∃ id name status, t = .created id name status

theorem createHeartbeat_frame (w : World) (token : String) (input : CreateHeartbeatInput) :
    (w.createHeartbeat token input).log = w.log ∧ (w.createHeartbeat token input).told = w.told := by
  unfold World.createHeartbeat
  split <;> exact ⟨rfl, rfl⟩

/-- **Creating a heartbeat**: nothing, or one row, of the token if there is one. -/
theorem wp_createHeartbeat (lic : License) (input : CreateHeartbeatInput) (token : String) :
    Ensures errors (createHeartbeat lic input token) w fun w' => Same w w' ∨
      validateCreateInput input = none ∧ ∃ id, (token ≠ "" → id = token) ∧ Created w id input w' := by
  unfold Ensures createHeartbeat
  split
  · exact .inl (Same.refl w)
  · rename_i hvalid
    refine wp_ask_aside trivial fun count w₁ h₁ => ?_
    cases count with
    | error => exact .inl h₁
    | ok =>
      dsimp only
      split
      · exact .inl h₁
      · refine wp_ask.mpr fun x _ => ?_
        have hend : ∀ {w' ts}, Same { w₁.createHeartbeat (x.idFor token) input with told := w₁.told ++ ts } w' →
            (∀ t ∈ ts, ∃ id name status, t = .created id name status) → Same w w' ∨
              validateCreateInput input = none ∧ ∃ id, (token ≠ "" → id = token) ∧ Created w id input w' := by
          intro w' ts hs hts
          refine .inr ⟨hvalid, x.idFor token, fun ht => if_neg ht, ?_, ?_, ts,
            hs.told.trans (by rw [h₁.told]), hts⟩
          · rw [hs.heartbeats]
            unfold World.createHeartbeat
            rw [h₁.heartbeats]
            split <;> rfl
          · exact hs.log.trans ((createHeartbeat_frame w₁ _ input).1.trans h₁.log)
        have hcreated : Same { w₁.createHeartbeat (x.idFor token) input with told := w₁.told ++ [] }
            (w₁.createHeartbeat (x.idFor token) input) := ⟨rfl, by simp [createHeartbeat_frame], rfl⟩
        have hans : (handle x w₁ (.createHeartbeat token input)).1 =
            if x.ok then .ok (x.idFor token) else .error () := rfl
        have hw : (handle x w₁ (.createHeartbeat token input)).2 =
            if x.executed then w₁.createHeartbeat (x.idFor token) input else w₁ := by
          simp only [handle, Request.isCallback, Bool.or_false, World.after]
        rw [hans, hw]
        cases hok : x.ok with
        | false =>
          rw [if_neg Bool.false_ne_true]
          cases x.executed with
          | true => exact hend hcreated nofun
          | false => exact .inl h₁
        | true =>
          rw [if_pos rfl, if_pos (Bool.and_eq_true_iff.mp hok).1]
          refine wp_ask_aside trivial fun r w₂ h₂ => ?_
          rcases r with _ | _ | created
          · exact hend (hcreated.trans h₂) nofun
          · exact hend (hcreated.trans h₂) nofun
          · have htold : w₂.told = w₁.told := h₂.told.trans (createHeartbeat_frame w₁ _ input).2
            refine wp_tell (hend ⟨h₂.heartbeats, by rw [htold], h₂.log⟩ fun t ht => ?_)
            exact ⟨_, _, _, List.mem_singleton.mp ht⟩

end Handlers

/-! ## 5. The deadline check -/

/-- What happens is about other heartbeats. -/
structure Apart (id : String) (w w' : World) : Prop where
  row : w'.heartbeats.get id = w.heartbeats.get id
  told : ∃ ts, w'.told = w.told ++ ts ∧ ∀ t ∈ ts, t.id ≠ id
  log : ∃ es, w'.log = w.log ++ es ∧ ∀ stmt, .updated stmt ∈ es → stmt.id ≠ id

section Deadlines

variable {errors : Bool} {id : String} {w w' : World} {h : Heartbeat}

theorem Same.apart (hs : Same w w') (id : String) : Apart id w w' :=
  ⟨by rw [hs.heartbeats], ⟨[], by rw [hs.told, List.append_nil], List.forall_mem_nil _⟩,
    [], by rw [hs.log, List.append_nil], fun _ hmem => nomatch hmem⟩

theorem Apart.trans {w'' : World} (h : Apart id w w') (h' : Apart id w' w'') : Apart id w w'' := by
  obtain ⟨ts, htold, hts⟩ := h.told
  obtain ⟨ts', htold', hts'⟩ := h'.told
  obtain ⟨es, hlog, hes⟩ := h.log
  obtain ⟨es', hlog', hes'⟩ := h'.log
  refine ⟨h'.row.trans h.row, ⟨ts ++ ts', by rw [htold', htold, List.append_assoc], ?_⟩, es ++ es',
    by rw [hlog', hlog, List.append_assoc], fun stmt hstmt => ?_⟩
  · exact List.forall_mem_append.mpr ⟨hts, hts'⟩
  · exact (List.mem_append.mp hstmt).elim (hes stmt) (hes' stmt)

theorem update_get (w : World) (stmt : Statement) (id : String) : (w.update stmt).heartbeats.get id =
      if id = stmt.id then (w.heartbeats.get id).map stmt.set else w.heartbeats.get id := by
  show (w.heartbeats.update (fun r => r.id == stmt.id) (fun r => stmt.set r) stmt.set_id).get id = _
  rw [Table.get_update]
  cases hrow : w.heartbeats.get id with
  | none => simp
  | some r =>
    have hid : r.id = id := (Table.get_eq_some.mp hrow).2
    rw [Option.map_some, Option.map_some, hid]
    by_cases e : id = stmt.id
    · rw [if_pos e, if_pos (beq_iff_eq.mpr e)]
    · rw [if_neg e, if_neg (mt beq_iff_eq.mp e)]

theorem Wrote.apart {stmt : Statement} {ts : List Told} (hw : Wrote errors w stmt ts w')
    (hid : stmt.id ≠ id) (hts : ∀ t ∈ ts, t.id ≠ id) : Apart id w w' := by
  refine ⟨by rw [hw.heartbeats, update_get, if_neg (Ne.symm hid)], ?_, [.updated stmt], hw.log, ?_⟩
  · rcases hw.told with htold | ⟨-, htold⟩
    · exact ⟨ts, htold, hts⟩
    · exact ⟨[], by rw [htold, List.append_nil], List.forall_mem_nil _⟩
  · intro stmt' hstmt
    rw [Entry.updated.inj (List.mem_singleton.mp hstmt)]
    exact hid

/-- The update of a missed deadline. -/
def missStatement (h : Heartbeat) : Statement := .updateHeartbeatState h.id h.missed .deadline

theorem missedTold_id : ∀ t ∈ missedTold h, t.id = h.id := by
  intro t ht
  simp only [missedTold, List.mem_cons, List.not_mem_nil, or_false] at ht
  rcases ht with rfl | rfl | rfl <;> rfl

theorem wp_missDeadline (now : Time) : Ensures errors (missDeadline now h) w fun w' =>
      errors = true ∧ Same w w' ∨ Wrote errors w (missStatement h) (missedTold h) w' := by
  refine wp_update fun _ _ hQ => ?_
  refine wp_aside timeoutRun_aside fun _ w₁ h₁ => ?_
  refine wp_tell (wp_tell (wp_tell_last (hQ _ _ h₁.heartbeats h₁.log ?_)))
  rw [h₁.told]
  simp only [missedTold, List.append_assoc, List.cons_append, List.nil_append]

/-- Rows of other heartbeats. -/
theorem wp_missOthers (now : Time) {rows : List Heartbeat} (hrows : ∀ r ∈ rows, r.id ≠ id) :
    Ensures errors (forEach (missDeadline now) rows) w (Apart id w) := by
  refine wp_forEach_mem (fun r hr w₁ h₁ => ?_) ((Same.refl w).apart id)
  refine wp_mono (fun _ w' hw => h₁.trans ?_) (wp_missDeadline now)
  rcases hw with ⟨-, hs⟩ | hw
  · exact hs.apart id
  · exact hw.apart (hrows r hr) fun t ht => missedTold_id t ht ▸ hrows r hr

/-- The row of one heartbeat among rows of others: only its own turn is about it. -/
theorem wp_missRow (now : Time) {rows : List Heartbeat} (hnodup : (rows.map Heartbeat.id).Nodup)
    {r : Heartbeat} (hr : r ∈ rows) : Ensures errors (forEach (missDeadline now) rows) w fun w' =>
      ∃ w₁ w₂, Apart r.id w w₁ ∧
        (errors = true ∧ Same w₁ w₂ ∨ Wrote errors w₁ (missStatement r) (missedTold r) w₂) ∧
        Apart r.id w₂ w' := by
  obtain ⟨before, after, rfl⟩ := List.append_of_mem hr
  rw [List.map_append, List.map_cons, List.nodup_append, List.nodup_cons] at hnodup
  obtain ⟨-, ⟨hrAfter, -⟩, hdisjoint⟩ := hnodup
  have hbefore : ∀ y ∈ before, y.id ≠ r.id := fun y hy =>
    hdisjoint y.id (List.mem_map_of_mem hy) r.id List.mem_cons_self
  have hafter : ∀ y ∈ after, y.id ≠ r.id := fun y hy hid =>
    hrAfter (hid ▸ List.mem_map_of_mem hy)
  rw [Ensures, forEach_append, forEach_cons, wp_bind]
  refine wp_mono (fun _ w₁ h₁ => ?_) (wp_missOthers now hbefore)
  rw [wp_bind]
  refine wp_mono (fun _ w₂ h₂ => ?_) (wp_missDeadline now)
  refine wp_mono (fun _ w' h₃ => ?_) (wp_missOthers now hafter)
  exact ⟨w₁, w₂, h₁, h₂, h₃⟩

/-- Reading the overdue list is noted in the log, and changes nothing else. -/
theorem listOverdue_apart (x : Choice) (now : Time) : Apart id w (handle x w (.listOverdueHeartbeats now)).2 := by
  unfold handle
  split
  · show Apart id w (if x.ok then { w with log := w.log ++ [.listed] } else w)
    split
    · exact ⟨rfl, ⟨[], (List.append_nil _).symm, List.forall_mem_nil _⟩, [.listed], rfl,
        fun stmt hstmt => nomatch List.mem_singleton.mp hstmt⟩
    · exact (Same.refl w).apart id
  · exact (Same.refl w).apart id

/-- What a check does to the heartbeat `id`: it misses its deadline, or nothing. -/
inductive Checked (errors : Bool) (id : String) (w w' : World) : Prop where
  | left (now : Time) (hidle : errors = true ∨ ∀ h, w.heartbeats.get id = some h → h.isOverdue now = false)
      (hw : Apart id w w')
  | missed (now : Time) (h : Heartbeat) (w₁ w₂ : World) (hrow : w.heartbeats.get id = some h)
      (hoverdue : h.isOverdue now = true) (hbefore : Apart id w w₁)
      (hw : Wrote errors w₁ (missStatement h) (missedTold h) w₂) (hafter : Apart id w₂ w')

/-- **A check, for one heartbeat.** -/
theorem wp_checkDeadlines (id : String) : Ensures errors checkDeadlines w (Checked errors id w) := by
  refine wp_ask.mpr fun x₀ _ => ?_
  rw [handle_read fun _ => rfl]
  generalize (handle x₀ w .now).1 = now
  refine wp_ask.mpr fun x hx => ?_
  have hans : (handle x w (.listOverdueHeartbeats now)).1 =
      if x.ok then .ok (x.select w.heartbeats (Heartbeat.isOverdue now)) else .error () := rfl
  have hlisted : Apart id w (handle x w (.listOverdueHeartbeats now)).2 := listOverdue_apart x now
  rw [hans]
  generalize (handle x w (.listOverdueHeartbeats now)).2 = w₀ at hlisted
  cases hok : x.ok with
  | false =>
    rw [admits, hok, Bool.or_false] at hx
    exact .left now (.inl hx) hlisted
  | true =>
    rw [if_pos rfl]
    have hmem : ∀ r, r ∈ (x.select w.heartbeats (Heartbeat.isOverdue now)).val ↔
        r ∈ w.heartbeats ∧ r.isOverdue now = true := fun r => Choice.mem_select
    generalize x.select w.heartbeats (Heartbeat.isOverdue now) = overdue at hmem
    obtain ⟨rows, hnodup⟩ := overdue
    by_cases hin : ∃ r ∈ rows, r.id = id
    · obtain ⟨r, hr, rfl⟩ := hin
      have hrow : w.heartbeats.get r.id = some r := Table.get_eq_some.mpr ⟨((hmem r).mp hr).1, rfl⟩
      refine wp_mono (fun _ w' hw => ?_) (wp_missRow now hnodup hr)
      obtain ⟨w₁, w₂, h₁, hturn, h₂⟩ := hw
      rcases hturn with ⟨he, hs⟩ | hwrote
      · exact .left now (.inl he) (((hlisted.trans h₁).trans (hs.apart r.id)).trans h₂)
      · exact .missed now r w₁ w₂ hrow ((hmem r).mp hr).2 (hlisted.trans h₁) hwrote h₂
    · have hothers : ∀ r ∈ rows, r.id ≠ id := fun r hr hid => hin ⟨r, hr, hid⟩
      refine wp_mono (fun _ w' hw => .left now (.inr fun h hrow => ?_) (hlisted.trans hw))
        (wp_missOthers now hothers)
      obtain ⟨hstored, hid⟩ := Table.get_eq_some.mp hrow
      rw [← Bool.not_eq_true]
      exact fun hoverdue => hothers h ((hmem h).mpr ⟨hstored, hoverdue⟩) hid

end Deadlines

end Maintenant.Heartbeats
