/-
  File:      Maintenant/Heartbeat/Alerts.lean
  Subject:   THE ALERT STATE OF A HEARTBEAT AND THE ALERT ENGINE (internal/app/wiring.go:
             `heartbeatAlertEvents` and the two callbacks), over operations done one at a time.

  Two alert types share the column alert_state; a recovery clears both, and so does a pause or a
  delete, which resolve everything about the heartbeat.

  * `performed_turn` -- what one operation does to the two alerts and to the column;
  * `alert_state_agrees` -- the column agrees with the engine as long as no heartbeat is deleted while
    it alerts, and a success leaves neither alert active.
-/
import Maintenant.Heartbeat.Effects
import Maintenant.Alert.Held

namespace Maintenant.Heartbeats

open GoTime Alerting Prog

/-! ## 1. The callbacks -/

/-- What the callbacks look up: the clock, and a map as JSON. -/
structure Texts where
  now : Time
  details : Told → Except Unit String

section Callbacks

variable (x : Texts)

/-- `build`, with the timestamp the callback sets. -/
def alertEvent (t : Told) (id name : String) (type : AlertType) (isRecover : Bool)
    (severity message : String) : Event where
  source := "heartbeat"
  alertType := type.text
  severity := severity
  isRecover := isRecover
  message := message
  entityType := "heartbeat"
  entityID := id
  entityName := name
  details := some (x.details t)
  timestamp := x.now

/-- `heartbeatAlertEvents` of an alert. -/
def alertMessage (name : String) (type : AlertType) (exitCode : Option Int) : String :=
  match type with
  | .deadlineMissed => "Heartbeat '" ++ name ++ "' missed deadline"
  | .exitCodeFailure => "Heartbeat '" ++ name ++ "' failed with exit code " ++
      (exitCode.map toString).getD "<nil>"

/-- What the alert callback and the event callback send the engine. -/
def heartbeatSignals (t : Told) : List Signal :=
  match t with
  | .recoveryCallback id name =>
    let msg := "Heartbeat '" ++ name ++ "' recovered"
    [.event (alertEvent x t id name .deadlineMissed true severityInfo msg),
      .event (alertEvent x t id name .exitCodeFailure true severityInfo msg)]
  | .alertCallback id name type exitCode _ =>
    [.event (alertEvent x t id name type false severityCritical (alertMessage name type exitCode))]
  | .deleted id => [.removed "heartbeat" id]
  | .statusChanged id _ newStatus _ =>
    if newStatus = .paused then [.removed "heartbeat" id] else []
  | .created .. | .pingReceived .. | .alert .. | .recovery .. => []

end Callbacks

/-- The key of a heartbeat's alert. -/
def heartbeatKey (id : String) (type : AlertType) : ActiveAlertKey :=
  ⟨"heartbeat", type.text, "heartbeat", id⟩

theorem heartbeatKey_inj {id : String} {t t' : AlertType} : heartbeatKey id t = heartbeatKey id t' ↔ t = t' :=
  key_inj AlertType.text fun t t' => by cases t <;> cases t' <;> decide

/-! ## 2. Operations -/

/-- The operations on one heartbeat, and the check of all deadlines. -/
inductive Op where
  | create (input : CreateHeartbeatInput)
  | ping (src : PingSource) (agentID : Option String)
  | startPing (src : PingSource)
  | exitCodePing (exitCode : Int) (src : PingSource)
  | checkDeadlines
  | pause
  | resume
  | delete

/-- The program of an operation; its result is dropped. -/
def Op.job (lic : License) (id : String) : Op → Job Unit
  | .create input => createHeartbeat lic input id >>= fun _ => .done ()
  | .ping src agentID => processPing lic id src agentID >>= fun _ => .done ()
  | .startPing src => processStartPing id src >>= fun _ => .done ()
  | .exitCodePing exitCode src => processExitCodePing lic id exitCode src >>= fun _ => .done ()
  | .checkDeadlines => Heartbeats.checkDeadlines
  | .pause => pauseHeartbeat id >>= fun _ => .done ()
  | .resume => resumeHeartbeat id >>= fun _ => .done ()
  | .delete => deleteHeartbeat id >>= fun _ => .done ()

/-- An operation, with what its statements and its callbacks meet. -/
structure Performed where
  op : Op
  choices : Nat → Choice
  texts : Texts

/-- The operation is performed. -/
def World.perform (lic : License) (id : String) (w : World) (i : Performed) : World :=
  (Prog.run handle (i.op.job lic id) i.choices w).2

/-- The operation, and what the engine is sent for it. -/
def performed (lic : License) (id : String) (w : World) (i : Performed) : World × List Signal :=
  (w.perform lic id i,
    ((w.perform lic id i).told.drop w.told.length).flatMap (heartbeatSignals i.texts))

/-- No statement of the operation fails. -/
def Performed.NoErrors (i : Performed) : Prop := ∀ n, (i.choices n).ok = true

/-- The stored alert state is alerting. -/
def alerting (w : World) (id : String) : Bool :=
  (w.heartbeats.get id).any fun h => h.alertState == .alerting

/-- A success: a success ping or an exit code 0. -/
def Op.isSuccess : Op → Bool
  | .ping .. => true
  | .exitCodePing exitCode _ => exitCode == 0
  | _ => false

/-! ## 3. One operation -/

/-- What an operation does to the two alerts. -/
inductive Turn where
  | keep
  | raise (type : AlertType)
  | clear

def Turn.on (type : AlertType) (held : Bool) : Turn → Bool
  | .keep => held
  | .raise type' => if type' = type then true else held
  | .clear => false

/-- The alert state and the row after a turn. -/
inductive Turned (id : String) (op : Op) (w w' : World) : Turn → Prop where
  | keep (hstate : alerting w' id = alerting w id)
      (hactive : (w.activeRow id).isSome = true → (w'.activeRow id).isSome = true)
      (hdelete : op = .delete → alerting w id = false)
      (hsuccess : op.isSuccess = true → w.activeRow id = none ∨ alerting w id = false) :
      Turned id op w w' .keep
  | raise (type : AlertType) (hstate : alerting w' id = true) (hactive : (w'.activeRow id).isSome = true)
      (hdelete : op ≠ .delete) (hsuccess : op.isSuccess = false) : Turned id op w w' (.raise type)
  | clear (hstate : alerting w' id = false) (hdelete : op ≠ .delete) : Turned id op w w' .clear
  | delete (hop : op = .delete) (hstate : alerting w' id = alerting w id) : Turned id op w w' .clear

section Turns

variable {id : String} {x : Texts}

@[simp] theorem on_alertEvent (t : Told) (name : String) (type type' : AlertType) (isRecover : Bool)
    (severity message : String) (held : Bool) : Signal.on (heartbeatKey id type) held
        (.event (alertEvent x t id name type' isRecover severity message)) =
      if type' = type then !isRecover else held := by
  show (if heartbeatKey id type' = heartbeatKey id type then !isRecover else held) = _
  simp only [heartbeatKey_inj]

@[simp] theorem on_removed (type : AlertType) (held : Bool) :
    Signal.on (heartbeatKey id type) held (.removed "heartbeat" id) = false := by
  simp [Signal.on, ofEntity, heartbeatKey]

/-- A signal about another heartbeat. -/
theorem on_other {t : Told} (ht : t.id ≠ id) {sig : Signal} (hsig : sig ∈ heartbeatSignals x t)
    (type : AlertType) (held : Bool) : sig.on (heartbeatKey id type) held = held := by
  have hevent : ∀ name type' isRecover severity message, Signal.on (heartbeatKey id type) held
      (.event (alertEvent x t t.id name type' isRecover severity message)) = held := by
    intro name type' isRecover severity message
    exact if_neg fun h => ht (congrArg ActiveAlertKey.entityID h)
  have hremoved : Signal.on (heartbeatKey id type) held (.removed "heartbeat" t.id) = held := by
    simp [Signal.on, ofEntity, heartbeatKey, Ne.symm ht]
  cases t <;> simp only [heartbeatSignals, List.mem_cons, List.not_mem_nil, or_false] at hsig
  case recoveryCallback => rcases hsig with rfl | rfl <;> exact hevent _ _ _ _ _
  case alertCallback => exact hsig ▸ hevent _ _ _ _ _
  case deleted => exact hsig ▸ hremoved
  case statusChanged =>
    split at hsig
    · exact List.mem_singleton.mp hsig ▸ hremoved
    · cases hsig

/-- What is told of other heartbeats does not touch the alerts of this one. -/
theorem onAll_others {ts : List Told} (hts : ∀ t ∈ ts, t.id ≠ id) (type : AlertType) (held : Bool) :
    Signal.onAll (heartbeatKey id type) held (ts.flatMap (heartbeatSignals x)) = held := by
  have hall : ∀ sig ∈ ts.flatMap (heartbeatSignals x), ∀ held, sig.on (heartbeatKey id type) held = held := by
    intro sig hsig held
    obtain ⟨t, ht, hsig⟩ := List.mem_flatMap.mp hsig
    exact on_other (hts t ht) hsig type held
  generalize ts.flatMap (heartbeatSignals x) = sigs at hall
  induction sigs with
  | nil => rfl
  | cons _ _ ih =>
    obtain ⟨hsig, hsigs⟩ := List.forall_mem_cons.mp hall
    rw [Signal.onAll_cons, hsig]
    exact ih hsigs

end Turns

section Ops

variable {id : String} {x : Texts} {h : Heartbeat}

theorem onAll_pingTold (agentID : Option String) (type : AlertType) (held : Bool) :
    Signal.onAll (heartbeatKey h.id type) held ((pingTold h agentID).flatMap (heartbeatSignals x)) =
      (if h.recovering then Turn.clear else .keep).on type held := by
  unfold pingTold statusTold recoveryTold
  cases h.recovering <;> by_cases hs : HeartbeatStatus.up = h.status <;> cases type <;>
    simp [heartbeatSignals, hs, Turn.on]

theorem onAll_startTold (type : AlertType) (held : Bool) :
    Signal.onAll (heartbeatKey h.id type) held ((startTold h).flatMap (heartbeatSignals x)) = held := by
  unfold startTold statusTold
  by_cases hs : HeartbeatStatus.started = h.status <;> simp [heartbeatSignals, hs]

/-- The turn of an exit code. -/
def exitTurn (h : Heartbeat) (exitCode : Int) : Turn :=
  if exitCode = 0 then if h.recovering then .clear else .keep else .raise .exitCodeFailure

theorem onAll_exitTold (exitCode : Int) (type : AlertType) (held : Bool) :
    Signal.onAll (heartbeatKey h.id type) held ((exitTold h exitCode).flatMap (heartbeatSignals x)) =
      (exitTurn h exitCode).on type held := by
  unfold exitTold statusTold recoveryTold exitTurn
  by_cases hzero : exitCode = 0 <;> by_cases hs : HeartbeatStatus.up = h.status <;>
    cases h.recovering <;> cases type <;> simp [heartbeatSignals, hs, hzero, Turn.on]

/-- One operation: its turn, the alert state after it, and what is told. -/
def Turns (id : String) (op : Op) (x : Texts) (w w' : World) : Prop :=
  ∃ turn, Turned id op w w' turn ∧ ∃ ts, w'.told = w.told ++ ts ∧
    ∀ type held, Signal.onAll (heartbeatKey id type) held (ts.flatMap (heartbeatSignals x)) = turn.on type held

section Rows

variable {w w' : World} {stmt : Statement} {ts : List Told} {op : Op}

theorem Wrote.told_eq (hw : Wrote false w stmt ts w') : w'.told = w.told ++ ts := by
  rcases hw.told with htold | ⟨herr, -⟩
  · exact htold
  · cases herr

theorem Wrote.row {errors : Bool} (hw : Wrote errors w stmt ts w') (hid : stmt.id = id)
    (hrow : w.heartbeats.get id = some h) : w'.heartbeats.get id = some (stmt.set h) := by
  rw [hw.heartbeats, update_get, if_pos hid.symm, hrow, Option.map_some]

theorem alerting_of_row (hrow : w.heartbeats.get id = some h) : alerting w id = (h.alertState == .alerting) := by
  rw [alerting, hrow, Option.any_some]

theorem activeRow_of_row (hrow : w.heartbeats.get id = some h) :
    w.activeRow id = if h.active then some h else none := by
  rw [World.activeRow, hrow]
  rfl

theorem activeRow_eq_some : w.activeRow id = some h ↔ w.heartbeats.get id = some h ∧ h.active = true :=
  Option.filter_eq_some_iff

/-- An operation that does nothing. -/
theorem Turns.of_same (hs : Same w w') (hdelete : op = .delete → alerting w id = false)
    (hsuccess : op.isSuccess = true → w.activeRow id = none) : Turns id op x w w' := by
  refine ⟨.keep, .keep ?_ ?_ hdelete (fun h => .inl (hsuccess h)), [], ?_, fun _ _ => rfl⟩
  · rw [alerting, hs.heartbeats]
    rfl
  · intro hactive
    rw [World.activeRow, hs.heartbeats]
    exact hactive
  · rw [hs.told, List.append_nil]

/-- A ping of an active row. -/
theorem Turns.of_ping (turn : Turn) {state : Time → HeartbeatState} {type : PingType} {told : List Told}
    (hrow : w.activeRow id = some h) (hP : PingWrites h state type told stmt ts) (hw : Wrote false w stmt ts w')
    (hturn : ∀ type held, Signal.onAll (heartbeatKey h.id type) held (told.flatMap (heartbeatSignals x)) =
      turn.on type held) (hturned : ∀ now, w'.heartbeats.get id = some (h.withState (state now)) →
      w'.activeRow id = some (h.withState (state now)) → Turned id op w w' turn) : Turns id op x w w' := by
  obtain ⟨now, rfl, rfl⟩ := hP
  obtain ⟨hget, hactive⟩ := activeRow_eq_some.mp hrow
  have hid : h.id = id := (Table.get_eq_some.mp hget).2
  have hrow' : w'.heartbeats.get id = some (h.withState (state now)) := hw.row hid hget
  refine ⟨turn, hturned now hrow' (activeRow_eq_some.mpr ⟨hrow', hactive⟩), ts, hw.told_eq, ?_⟩
  rw [← hid]
  exact hturn

/-- A success leaves nothing to alert of: it clears what the row had, or keeps that it had nothing. -/
theorem Turned.of_success (hrow : w.activeRow id = some h) (hstate : alerting w' id = false)
    (hactive : (w'.activeRow id).isSome = true) (hdelete : op ≠ .delete) :
    Turned id op w w' (if h.recovering then .clear else .keep) := by
  cases hrec : h.recovering with
  | true => exact .clear hstate hdelete
  | false =>
    have hbefore : alerting w id = false := by
      rw [alerting_of_row (activeRow_eq_some.mp hrow).1]
      exact (Bool.or_eq_false_iff.mp hrec).2
    exact .keep (hstate.trans hbefore.symm) (fun _ => hactive) (fun hop => absurd hop hdelete) fun _ => .inr hbefore

/-- An update of the heartbeat's row that its handler tells `ts` of. -/
theorem Turns.of_statement (turn : Turn) (hid : stmt.id = id) (hrow : w.heartbeats.get id = some h)
    (hw : Wrote false w stmt ts w')
    (hturn : ∀ type held, Signal.onAll (heartbeatKey id type) held (ts.flatMap (heartbeatSignals x)) =
      turn.on type held)
    (hturned : w'.heartbeats.get id = some (stmt.set h) → Turned id op w w' turn) : Turns id op x w w' :=
  ⟨turn, hturned (hw.row hid hrow), ts, hw.told_eq, hturn⟩

end Rows

/-! ### The operations one by one -/

section Jobs

variable {w : World} (lic : License)

/-- The result of a handler is dropped. -/
theorem wp_drop {errors : Bool} {α : Type} {p : Job α} {Q : World → Prop} (hp : Ensures errors p w Q) :
    Ensures errors (p >>= fun _ => .done ()) w Q :=
  wp_bind.mpr hp

theorem turns_ping (src : PingSource) (agentID : Option String) :
    Ensures false (Op.job lic id (.ping src agentID)) w (Turns id (.ping src agentID) x w) := by
  refine wp_drop (wp_mono (fun _ w' hw => ?_) (wp_processPing lic id src agentID))
  rcases hw with ⟨hidle, hs⟩ | ⟨stmt, ts, ⟨h, hrow, hP⟩, hw⟩
  · refine .of_same hs nofun fun _ => hidle.resolve_left Bool.false_ne_true
  · refine .of_ping _ hrow hP hw (onAll_pingTold agentID) fun now hrow' hactive' => ?_
    have hstate : alerting w' id = false := by
      rw [alerting_of_row hrow']
      show ((if h.recovering then AlertState.normal else h.alertState) == .alerting) = false
      unfold Heartbeat.recovering
      cases h.alertState <;> cases h.status <;> rfl
    exact .of_success hrow hstate (by rw [hactive']; rfl) nofun

theorem turns_startPing (src : PingSource) :
    Ensures false (Op.job lic id (.startPing src)) w (Turns id (.startPing src) x w) := by
  refine wp_drop (wp_mono (fun _ w' hw => ?_) (wp_processStartPing id src))
  rcases hw with ⟨hidle, hs⟩ | ⟨stmt, ts, ⟨h, hrow, hP⟩, hw⟩
  · exact .of_same hs nofun nofun
  · refine .of_ping .keep hrow hP hw onAll_startTold fun now hrow' hactive' => ?_
    refine .keep ?_ (fun _ => by rw [hactive']; rfl) nofun nofun
    rw [alerting_of_row hrow', alerting_of_row (activeRow_eq_some.mp hrow).1]
    rfl

theorem turns_exitCodePing (exitCode : Int) (src : PingSource) :
    Ensures false (Op.job lic id (.exitCodePing exitCode src)) w (Turns id (.exitCodePing exitCode src) x w) := by
  refine wp_drop (wp_mono (fun _ w' hw => ?_) (wp_processExitCodePing lic id exitCode src))
  rcases hw with ⟨hidle, hs⟩ | ⟨stmt, ts, ⟨-, h, hrow, hP⟩, hw⟩
  · refine .of_same hs nofun fun hsuccess => ?_
    refine hidle.resolve_left Bool.false_ne_true ?_
    rw [show exitCode = 0 from beq_iff_eq.mp hsuccess]
    exact ⟨Int.le_refl 0, by decide⟩
  · refine .of_ping _ hrow hP hw (onAll_exitTold exitCode) fun now hrow' hactive' => ?_
    have hactive : (w'.activeRow id).isSome = true := by
      rw [hactive']
      rfl
    have hstate : alerting w' id = !decide (exitCode = 0) := by
      rw [alerting_of_row hrow']
      show ((if exitCode = 0 then AlertState.normal else .alerting) == .alerting) = _
      by_cases hzero : exitCode = 0 <;> simp [hzero]
    unfold exitTurn
    by_cases hzero : exitCode = 0
    · rw [if_pos hzero]
      rw [decide_eq_true hzero] at hstate
      exact .of_success hrow hstate hactive nofun
    · rw [if_neg hzero]
      rw [decide_eq_false hzero] at hstate
      exact .raise .exitCodeFailure hstate hactive nofun (beq_eq_false_iff_ne.mpr hzero)

theorem turns_pause : Ensures false (Op.job lic id .pause) w (Turns id .pause x w) := by
  refine wp_drop (wp_mono (fun _ w' hw => ?_) (wp_pauseHeartbeat id))
  rcases hw with ⟨hidle, hs⟩ | ⟨stmt, ts, ⟨h, hrow, rfl, rfl⟩, hw⟩
  · exact .of_same hs nofun nofun
  · refine .of_statement .clear rfl hrow hw (fun type held => ?_) fun hrow' => ?_
    · simp [heartbeatSignals, Turn.on]
    · exact .clear (by rw [alerting_of_row hrow']; rfl) nofun

theorem turns_resume : Ensures false (Op.job lic id .resume) w (Turns id .resume x w) := by
  refine wp_drop (wp_mono (fun _ w' hw => ?_) (wp_resumeHeartbeat id))
  rcases hw with ⟨hidle, hs⟩ | ⟨stmt, ts, ⟨h, hrow, -, now, rfl, rfl⟩, hw⟩
  · exact .of_same hs nofun nofun
  · refine .of_statement .keep rfl hrow hw (fun type held => ?_) fun hrow' => ?_
    · simp [heartbeatSignals, Turn.on]
    · refine .keep ?_ (fun hactive => ?_) nofun nofun
      · rw [alerting_of_row hrow', alerting_of_row hrow]
        rfl
      · rw [activeRow_of_row hrow] at hactive
        rw [activeRow_of_row hrow']
        show (if h.active then _ else none : Option Heartbeat).isSome = true
        cases hact : h.active <;> simp_all

theorem turns_delete : Ensures false (Op.job lic id .delete) w (Turns id .delete x w) := by
  refine wp_drop (wp_mono (fun _ w' hw => ?_) (wp_deleteHeartbeat id))
  rcases hw with ⟨hidle, hs⟩ | ⟨stmt, ts, ⟨h, hrow, rfl, rfl⟩, hw⟩
  · refine .of_same hs (fun _ => ?_) nofun
    rw [alerting, hidle.resolve_left Bool.false_ne_true]
    rfl
  · refine .of_statement .clear rfl hrow hw (fun type held => ?_) fun hrow' => ?_
    · simp [heartbeatSignals, Turn.on]
    · refine .delete rfl ?_
      rw [alerting_of_row hrow', alerting_of_row hrow]
      rfl

theorem turns_checkDeadlines : Ensures false (Op.job lic id .checkDeadlines) w (Turns id .checkDeadlines x w) := by
  refine wp_mono (fun _ w' hw => ?_) (wp_checkDeadlines id)
  cases hw with
  | left _ _ hw =>
    obtain ⟨ts, htold, hts⟩ := hw.told
    refine ⟨.keep, .keep ?_ ?_ nofun nofun, ts, htold,
      onAll_others hts⟩
    · rw [alerting, hw.row]
      rfl
    · intro hactive
      rw [World.activeRow, hw.row]
      exact hactive
  | missed _ h _ w₂ hrow hoverdue hbefore hw hafter =>
    obtain ⟨ts₁, htold₁, hts₁⟩ := hbefore.told
    obtain ⟨ts₂, htold₂, hts₂⟩ := hafter.told
    have hid : h.id = id := (Table.get_eq_some.mp hrow).2
    have hmissed : w₂.heartbeats.get id = some ((missStatement h).set h) :=
      hw.row hid (hbefore.row.trans hrow)
    have hrow' : w'.heartbeats.get id = some (h.withState h.missed) := hafter.row.trans hmissed
    have hactive : h.active = true :=
      (Bool.and_eq_true_iff.mp (Bool.and_eq_true_iff.mp hoverdue).1).1
    refine ⟨.raise .deadlineMissed, .raise _ ?_ ?_ nofun rfl,
      ts₁ ++ (missedTold h ++ ts₂), ?_, fun type held => ?_⟩
    · rw [alerting_of_row hrow']
      rfl
    · rw [activeRow_eq_some.mpr ⟨hrow', hactive⟩]
      rfl
    · rw [htold₂, hw.told_eq, htold₁, List.append_assoc, List.append_assoc]
    · rw [List.flatMap_append, List.flatMap_append, Signal.onAll_append, Signal.onAll_append,
        onAll_others hts₁, onAll_others hts₂, ← hid]
      simp [missedTold, heartbeatSignals, Turn.on]

/-- The row after a create: the one there was, renewed, or a new one. -/
theorem createHeartbeat_get (w : World) (id : String) (input : CreateHeartbeatInput) :
    ∃ h, (w.createHeartbeat id input).heartbeats.get id = some h ∧ h.active = true ∧
      ((h.alertState == .alerting) = alerting w id) := by
  cases hrow : w.heartbeats.get id with
  | none =>
    obtain ⟨t, ht⟩ := Table.insert_isSome (r := freshRow id input) (Table.get_eq_none.mp hrow)
    refine ⟨freshRow id input, ?_, rfl, ?_⟩
    · unfold World.createHeartbeat
      rw [ht]
      show t.get id = _
      rw [Table.get_insert ht]
      exact if_pos rfl
    · rw [alerting, hrow]
      rfl
  | some r =>
    obtain ⟨hmem, hid⟩ := Table.get_eq_some.mp hrow
    have ht : w.heartbeats.insert (freshRow id input) = none :=
      Table.insert_eq_none.mpr (Table.hasKey_iff.mpr ⟨r, hmem, hid⟩)
    refine ⟨r.renewed input, ?_, rfl, (alerting_of_row hrow).symm⟩
    unfold World.createHeartbeat
    rw [ht]
    rw [Table.get_update_key hrow, if_pos rfl]

theorem turns_create (hid : id ≠ "") (input : CreateHeartbeatInput) :
    Ensures false (Op.job lic id (.create input)) w (Turns id (.create input) x w) := by
  refine wp_drop (wp_mono (fun _ w' hw => ?_) (wp_createHeartbeat lic input id))
  rcases hw with hs | ⟨-, _, htoken, hw⟩
  · exact .of_same hs nofun nofun
  · cases htoken hid
    obtain ⟨h, hrow, hactive, hstate⟩ := createHeartbeat_get w id input
    rw [← hw.heartbeats] at hrow
    obtain ⟨ts, htold, hts⟩ := hw.told
    refine ⟨.keep, .keep ((alerting_of_row hrow).trans hstate) (fun _ => ?_) nofun
      nofun, ts, htold, fun type held => ?_⟩
    · rw [activeRow_eq_some.mpr ⟨hrow, hactive⟩]
      rfl
    · have hsilent : ts.flatMap (heartbeatSignals x) = [] := by
        refine List.flatMap_eq_nil_iff.mpr fun t ht => ?_
        obtain ⟨_, _, _, rfl⟩ := hts t ht
        rfl
      rw [hsilent]
      rfl

/-- **One operation.** -/
theorem performed_turn (hid : id ≠ "") (w : World) {i : Performed} (hok : i.NoErrors) :
    Turns id i.op i.texts w (w.perform lic id i) := by
  have hwp : Ensures false (i.op.job lic id) w (Turns id i.op i.texts w) := by
    cases i.op with
    | create input => exact turns_create lic hid input
    | ping src agentID => exact turns_ping lic src agentID
    | startPing src => exact turns_startPing lic src
    | exitCodePing exitCode src => exact turns_exitCodePing lic exitCode src
    | checkDeadlines => exact turns_checkDeadlines lic
    | pause => exact turns_pause lic
    | resume => exact turns_resume lic
    | delete => exact turns_delete lic
  exact wp_run hwp fun n _ => hok n

end Jobs

end Ops

/-! ## 4. Whole runs -/

section Runs

variable {lic : License} {id : String} {w : Watched World} {i : Performed × (Nat → Handling)}

/-- **The alert state agrees with the engine**: it is alerting exactly when one of the two alerts is
    active. -/
def Agrees (id : String) (w : World) (held : ActiveAlertKey → Bool) : Prop :=
  alerting w id = (held (heartbeatKey id .deadlineMissed) || held (heartbeatKey id .exitCodeFailure))
deriving Decidable

/-- An active alert is that of an active heartbeat that is alerting. -/
def Backed (id : String) (w : Watched World) : Prop :=
  ∀ type, w.engine.holds (heartbeatKey id type) = true →
    (w.service.activeRow id).isSome = true ∧ alerting w.service id = true

theorem performed_on (lic : License) (hid : id ≠ "") (w : World) {i : Performed} (hok : i.NoErrors) :
    ∃ turn, Turned id i.op w (performed lic id w i).1 turn ∧ ∀ type held,
      Signal.onAll (heartbeatKey id type) held (performed lic id w i).2 = turn.on type held := by
  obtain ⟨turn, hturned, ts, htold, hon⟩ := performed_turn lic hid w hok
  refine ⟨turn, hturned, fun type held => ?_⟩
  rw [performed, htold, List.drop_left]
  exact hon type held

theorem agrees_step (hid : id ≠ "") (w : World) {i : Performed} (hok : i.NoErrors)
    {held : ActiveAlertKey → Bool} (hA : Agrees id w held) :
    Agrees id (performed lic id w i).1 (fun k => Signal.onAll k (held k) (performed lic id w i).2) ↔
      (i.op = .delete → alerting w id = false) := by
  obtain ⟨turn, hturned, hon⟩ := performed_on lic hid w hok
  have hafter : Agrees id (performed lic id w i).1
      (fun k => Signal.onAll k (held k) (performed lic id w i).2) ↔
        alerting (performed lic id w i).1 id =
          (turn.on .deadlineMissed (held (heartbeatKey id .deadlineMissed)) ||
            turn.on .exitCodeFailure (held (heartbeatKey id .exitCodeFailure))) := by
    rw [Agrees, hon, hon]
  rw [hafter]
  cases hturned with
  | keep hstate _ hdelete => exact iff_of_true (hstate.trans hA) hdelete
  | raise type hstate _ hdelete _ =>
    refine iff_of_true ?_ (fun hop => absurd hop hdelete)
    rw [hstate]
    cases type <;> simp [Turn.on]
  | clear hstate hdelete => exact iff_of_true hstate fun hop => absurd hop hdelete
  | delete hop hstate =>
    rw [hstate]
    exact ⟨fun h _ => h, fun h => h hop⟩

/-- One operation keeps the alerts backed, and a success leaves none. -/
theorem backed_step (hid : id ≠ "") (hok : i.1.NoErrors)
    (hears : w.engine.HearsAll i.2 (performed lic id w.service i.1).2) (hB : Backed id w) :
    Backed id (w.step (performed lic id) i) ∧ (i.1.op.isSuccess = true → ∀ type,
      (w.step (performed lic id) i).engine.holds (heartbeatKey id type) = false) := by
  obtain ⟨turn, hturned, hon⟩ := performed_on lic hid w.service hok
  have hholds : ∀ type, (w.step (performed lic id) i).engine.holds (heartbeatKey id type) =
      turn.on type (w.engine.holds (heartbeatKey id type)) := fun type =>
    (Watched.step_holds hears _).trans (hon type _)
  constructor
  · intro type hheld
    rw [hholds] at hheld
    cases hturned with
    | keep hstate hactive =>
      obtain ⟨hrow, halerting⟩ := hB type hheld
      exact ⟨hactive hrow, hstate.trans halerting⟩
    | raise _ hstate hactive => exact ⟨hactive, hstate⟩
    | clear | delete => exact nomatch hheld
  · intro hsuccess type
    rw [hholds]
    cases hturned with
    | keep _ _ _ hkept =>
      rw [← Bool.not_eq_true]
      intro hheld
      obtain ⟨hrow, halerting⟩ := hB type hheld
      rcases hkept hsuccess with hnone | hnormal
      · simp [hnone] at hrow
      · simp [hnormal] at halerting
    | raise _ _ _ _ hno =>
      simp [hno] at hsuccess
    | clear | delete => rfl

/-- **The alert state of a heartbeat and its alerts**, over any operations one at a time. The two agree
    after each of them exactly when no delete meets a heartbeat that is alerting; and whatever was
    deleted, neither alert is active after a success ping or an exit code 0. -/
theorem alert_state_agrees (hid : id ≠ "") {is : List (Performed × (Nat → Handling))}
    (hok : ∀ i ∈ is, i.1.NoErrors) (hundisturbed : w.Undisturbed (performed lic id) is)
    (hA : Agrees id w.service w.engine.holds) (hB : Backed id w) :
    ((∀ n, Agrees id (w.run (performed lic id) (is.take n)).service
        (w.run (performed lic id) (is.take n)).engine.holds) ↔
      ∀ n i, is[n]? = some i → i.1.op = .delete →
        alerting (w.run (performed lic id) (is.take n)).service id = false) ∧
    ∀ n i, is[n]? = some i → i.1.op.isSuccess = true → ∀ type,
      (w.run (performed lic id) (is.take (n + 1))).engine.holds (heartbeatKey id type) = false := by
  constructor
  · rw [Watched.agrees_iff (I := fun _ => True) (A := Agrees id)
      (Q := fun w i => i.op = .delete → alerting w id = false) hundisturbed (fun _ _ _ _ => trivial)
      (fun s held i hi _ hA => agrees_step hid s (hok i hi) hA) trivial hA, Passes.along_iff]
    simp only [List.getElem?_map, Option.map_eq_some_iff, forall_exists_index, and_imp,
      forall_apply_eq_imp_iff₂, Watched.run_service, List.map_take]
  · have hkept : ∀ n, Backed id (w.run (performed lic id) (is.take n)) :=
      Passes.prefixes_inv hundisturbed (fun w i hi hears hB => (backed_step hid (hok i hi) hears hB).1) hB
    intro n i hi hsuccess
    have hears := Passes.along_iff.mp hundisturbed n i hi
    have hstep := (backed_step hid (hok i (List.mem_of_getElem? hi)) hears (hkept n)).2 hsuccess
    rw [Watched.run_succ hi]
    exact hstep

end Runs

/-! ## 5. Two lives of a heartbeat -/

/-- Every statement succeeds, at second 100. -/
def plainChoice (newID : String) : Choice := ⟨100 * second, newID, true, true, fun l => ⟨l, .refl l⟩⟩

def sampleTexts : Texts := ⟨100 * second, fun _ => .ok ""⟩

/-- An operation whose rows and alerts get the ids `id` and `id'`. -/
def doing (op : Op) (id : String) : Performed × (Nat → Handling) :=
  (⟨op, fun _ => plainChoice id, sampleTexts⟩, fun n => .plain (if n = 0 then id else id ++ "'"))

/-- No heartbeat, no alert. -/
def emptyWatch : Watched World := ⟨⟨.empty, [], .empty, [], []⟩, .idle .empty⟩

def sampleSource : PingSource := ⟨"10.0.0.1", "POST", none⟩

/-- A job fails, and its heartbeat is deleted. -/
def deletedLife : List (Performed × (Nat → Handling)) :=
  [doing (.create ⟨"backup", 3600, 60⟩) "a", doing (.exitCodePing 1 sampleSource) "b", doing .delete "c"]

/-- **A deleted heartbeat keeps its alert state**: its alerts are resolved, the column says alerting. -/
theorem deleted_heartbeat_alerting :
    emptyWatch.Undisturbed (performed (.ofMax 5) "hb") deletedLife ∧
      ¬Agrees "hb" (emptyWatch.run (performed (.ofMax 5) "hb") deletedLife).service
        (emptyWatch.run (performed (.ofMax 5) "hb") deletedLife).engine.holds := by
  decide

/-- A job fails, and then succeeds. -/
def recoveredLife : List (Performed × (Nat → Handling)) :=
  [doing (.create ⟨"backup", 3600, 60⟩) "a", doing (.exitCodePing 1 sampleSource) "b",
    doing (.ping sampleSource none) "c"]

theorem doing_noErrors (op : Op) (id : String) : (doing op id).1.NoErrors := fun _ => rfl

theorem recovered_heartbeat_normal :
    Agrees "hb" (emptyWatch.run (performed (.ofMax 5) "hb") (recoveredLife.take 2)).service
        (emptyWatch.run (performed (.ofMax 5) "hb") (recoveredLife.take 2)).engine.holds ∧
      (emptyWatch.run (performed (.ofMax 5) "hb") (recoveredLife.take 3)).engine.holds
        (heartbeatKey "hb" .exitCodeFailure) = false := by
  have hok : ∀ i ∈ recoveredLife, i.1.NoErrors := by
    simp only [recoveredLife, List.forall_mem_cons]
    exact ⟨doing_noErrors _ _, doing_noErrors _ _, doing_noErrors _ _, List.forall_mem_nil _⟩
  have hheard : emptyWatch.Undisturbed (performed (.ofMax 5) "hb") recoveredLife := by decide
  have hstart : Backed "hb" emptyWatch := fun type hheld => nomatch (Engine.idle_holds _ _).symm.trans hheld
  obtain ⟨hagrees, hsuccess⟩ := alert_state_agrees (by decide) hok hheard (by decide) hstart
  refine ⟨hagrees.mpr ?_ 2, hsuccess 2 _ rfl rfl _⟩
  intro n i hi hdelete
  rcases n with _ | _ | _ | n <;> cases hi <;> cases hdelete

end Maintenant.Heartbeats
