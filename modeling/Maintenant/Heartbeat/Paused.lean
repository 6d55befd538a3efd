/-
  File:      Maintenant/Heartbeat/Paused.lean
  Subject:   PINGS AND DEADLINE CHECKS OF A PAUSED HEARTBEAT.

  None of the three ping handlers looks at the pause: each writes a status of its own and a new
  deadline. The overdue query asks for status up or started, so a check leaves a paused row alone.

  * `window_passed` -- one operation: the row is kept, or a ping has written it and the pause is gone;
  * `paused_until_pinged` -- the pause stands exactly as long as no ping writes the row; without store
    errors, as long as there is no ping but with an exit code out of range.
-/
import Maintenant.Heartbeat.Alerts

namespace Maintenant.Heartbeats

open GoTime Prog

/-! ## 1. What stands while a heartbeat is paused -/

/-- The stored status is paused and no deadline is armed. -/
def pausedRow (w : World) (id : String) : Bool :=
  (w.heartbeats.get id).any fun h => h.status == .paused && h.nextDeadlineAt.isNone

/-- A call of the alert callback for the heartbeat. -/
def Told.alerts (id : String) : Told → Bool
  | .alertCallback id' _ _ _ _ | .recoveryCallback id' _ => id' == id
  | _ => false

def alertCallbacks (w : World) (id : String) : Nat := w.told.countP (Told.alerts id)

/-- An update of the heartbeat's row. -/
def Entry.writes (id : String) : Entry → Bool
  | .updated stmt => stmt.id == id
  | .listed => false

def rowWrites (w : World) (id : String) : Nat := w.log.countP (Entry.writes id)

/-- The pause of `w₀` stands in `w`, and the alert callback was not called since. -/
def StaysPaused (id : String) (w₀ w : World) : Prop :=
  pausedRow w id = true ∧ alertCallbacks w id = alertCallbacks w₀ id

/-- What may come between a pause and the next resume. -/
def Op.inWindow : Op → Bool
  | .ping .. | .startPing _ | .exitCodePing .. | .checkDeadlines => true
  | .create _ | .pause | .resume | .delete => false

/-- A ping that its handler does not turn away. -/
def Op.lands : Op → Bool
  | .ping .. | .startPing _ => true
  | .exitCodePing exitCode _ => decide (0 ≤ exitCode ∧ exitCode ≤ 255)
  | _ => false

/-- The operations in order. -/
def World.performAll (lic : License) (id : String) (w : World) (is : List Performed) : World :=
  is.foldl (World.perform lic id) w

/-! ## 2. One operation -/

/-- What an operation on a paused heartbeat does. -/
inductive Passed (errors : Bool) (id : String) (op : Op) (w w' : World) : Prop where
  | kept (hrow : w'.heartbeats.get id = w.heartbeats.get id)
      (hcalls : alertCallbacks w' id = alertCallbacks w id) (hwrites : rowWrites w' id = rowWrites w id)
      (hidle : errors = true ∨ op.lands = false ∨ w.activeRow id = none)
  | written (hrow : pausedRow w' id = false) (hactive : (w'.activeRow id).isSome = true)
      (hwrites : rowWrites w' id = rowWrites w id + 1) (hlands : op.lands = true)

section Step

variable {errors : Bool} {id : String} {op : Op} {w w' : World} {h : Heartbeat}

theorem Apart.alertCallbacks_eq (hw : Apart id w w') : alertCallbacks w' id = alertCallbacks w id := by
  obtain ⟨ts, htold, hts⟩ := hw.told
  have hnone : ts.countP (Told.alerts id) = 0 := by
    refine List.countP_eq_zero.mpr fun t ht halerts => hts t ht ?_
    cases t <;> first | exact beq_iff_eq.mp halerts | exact nomatch halerts
  rw [alertCallbacks, htold, List.countP_append, hnone, Nat.add_zero]
  rfl

theorem Apart.rowWrites_eq (hw : Apart id w w') : rowWrites w' id = rowWrites w id := by
  obtain ⟨es, hlog, hes⟩ := hw.log
  have hnone : es.countP (Entry.writes id) = 0 := by
    refine List.countP_eq_zero.mpr fun e he hwrites => ?_
    cases e with
    | listed => exact nomatch hwrites
    | updated stmt => exact hes stmt he (beq_iff_eq.mp hwrites)
  rw [rowWrites, hlog, List.countP_append, hnone, Nat.add_zero]
  rfl

theorem Passed.of_apart (hw : Apart id w w')
    (hidle : errors = true ∨ op.lands = false ∨ w.activeRow id = none) : Passed errors id op w w' :=
  .kept hw.row hw.alertCallbacks_eq hw.rowWrites_eq hidle

/-- A ping writes a status other than paused. -/
theorem Passed.of_ping {state : Time → HeartbeatState} {type : PingType} {told ts : List Told}
    {stmt : Statement} (hrow : w.activeRow id = some h) (hP : PingWrites h state type told stmt ts)
    (hw : Wrote errors w stmt ts w') (hstatus : ∀ now, (state now).status ≠ .paused)
    (hlands : op.lands = true) : Passed errors id op w w' := by
  obtain ⟨now, rfl, rfl⟩ := hP
  obtain ⟨hget, hactive⟩ := activeRow_eq_some.mp hrow
  have hid : h.id = id := (Table.get_eq_some.mp hget).2
  have hrow' : w'.heartbeats.get id = some (h.withState (state now)) := hw.row hid hget
  refine .written ?_ ?_ ?_ hlands
  · rw [pausedRow, hrow', Option.any_some]
    exact Bool.and_eq_false_iff.mpr (.inl (beq_eq_false_iff_ne.mpr (hstatus now)))
  · rw [activeRow_eq_some.mpr ⟨hrow', hactive⟩]
    rfl
  · rw [rowWrites, hw.log, List.countP_append]
    exact congrArg (rowWrites w id + ·) (List.countP_singleton.trans (if_pos (beq_iff_eq.mpr hid)))

variable (lic : License)

theorem passed_ping (src : PingSource) (agentID : Option String) :
    Ensures errors (Op.job lic id (.ping src agentID)) w (Passed errors id (.ping src agentID) w) := by
  refine wp_drop (wp_mono (fun _ w' hw => ?_) (wp_processPing lic id src agentID))
  rcases hw with ⟨hnothing, hs⟩ | ⟨stmt, ts, ⟨h, hrow, hP⟩, hw⟩
  · exact .of_apart (hs.apart id) (hnothing.imp_right .inr)
  · exact .of_ping hrow hP hw (fun _ => nofun) rfl

theorem passed_startPing (src : PingSource) :
    Ensures errors (Op.job lic id (.startPing src)) w (Passed errors id (.startPing src) w) := by
  refine wp_drop (wp_mono (fun _ w' hw => ?_) (wp_processStartPing id src))
  rcases hw with ⟨hnothing, hs⟩ | ⟨stmt, ts, ⟨h, hrow, hP⟩, hw⟩
  · exact .of_apart (hs.apart id) (hnothing.imp_right .inr)
  · exact .of_ping hrow hP hw (fun _ => nofun) rfl

theorem passed_exitCodePing (exitCode : Int) (src : PingSource) :
    Ensures errors (Op.job lic id (.exitCodePing exitCode src)) w
    (Passed errors id (.exitCodePing exitCode src) w) := by
  refine wp_drop (wp_mono (fun _ w' hw => ?_) (wp_processExitCodePing lic id exitCode src))
  rcases hw with ⟨hnothing, hs⟩ | ⟨stmt, ts, ⟨hvalid, h, hrow, hP⟩, hw⟩
  · refine .of_apart (hs.apart id) (hnothing.imp_right fun hidle => ?_)
    by_cases hvalid : validExitCode exitCode
    · exact .inr (hidle hvalid)
    · exact .inl (decide_eq_false hvalid)
  · exact .of_ping hrow hP hw (fun _ => nofun) (decide_eq_true hvalid)

/-- A check finds a paused row neither up nor started. -/
theorem passed_checkDeadlines (hpaused : pausedRow w id = true) :
    Ensures errors (Op.job lic id .checkDeadlines) w (Passed errors id .checkDeadlines w) := by
  refine wp_mono (fun _ w' hw => ?_) (wp_checkDeadlines id)
  cases hw with
  | left _ _ hw => exact .of_apart hw (.inr (.inl rfl))
  | missed _ h _ _ hrow hoverdue =>
    rw [pausedRow, hrow, Option.any_some, Bool.and_eq_true] at hpaused
    have hstatus : h.status = .paused := beq_iff_eq.mp hpaused.1
    rw [Heartbeat.isOverdue, hstatus] at hoverdue
    simp at hoverdue

/-- **One operation in the window.** -/
theorem window_passed (errors : Bool) (lic : License) {i : Performed} (hop : i.op.inWindow = true)
    (herrors : errors = true ∨ i.NoErrors) (hpaused : pausedRow w id = true) :
    Passed errors id i.op w (w.perform lic id i) := by
  obtain ⟨op, choices, texts⟩ := i
  have hadmits : ∀ n r, admits errors (choices n) r = true := by
    intro n r
    rcases herrors with herrors | hok
    · rw [admits, herrors, Bool.true_or]
    · rw [admits, hok n, Bool.or_true]
  suffices hwp : Ensures errors (op.job lic id) w (Passed errors id op w) from wp_run hwp hadmits
  cases op with
  | ping src agentID => exact passed_ping lic src agentID
  | startPing src => exact passed_startPing lic src
  | exitCodePing exitCode src => exact passed_exitCodePing lic exitCode src
  | checkDeadlines => exact passed_checkDeadlines lic hpaused
  | create | pause | resume | delete => cases hop

end Step

/-! ## 3. All operations of the window -/

section Window

variable {lic : License} {id : String} {w w₀ : World} {i : Performed} {is : List Performed}

/-- The record only grows. -/
theorem rowWrites_le_handle (x : Choice) (w : World) (r : Request) :
    rowWrites w id ≤ rowWrites (handle x w r).2 id := by
  have happend : ∀ w' es, w'.log = w.log ++ es → rowWrites w id ≤ rowWrites w' id := by
    intro w' es hlog
    rw [rowWrites, rowWrites, hlog, List.countP_append]
    exact Nat.le_add_right _ _
  have haside : r.Aside → rowWrites w id ≤ rowWrites (handle x w r).2 id := by
    intro hr
    rw [rowWrites, rowWrites, (handle_aside hr x w).log]
  have hafter : ∀ w', rowWrites w id ≤ rowWrites w' id → ∀ b : Bool,
      rowWrites w id ≤ rowWrites (if b then w' else w) id := by
    intro w' hle b
    cases b with
    | true => exact hle
    | false => exact Nat.le_refl _
  cases r with
  | update stmt => exact hafter _ (happend _ [.updated stmt] rfl) _
  | listOverdueHeartbeats => exact hafter _ (hafter _ (happend _ [.listed] rfl) _) _
  | createHeartbeat _ input =>
    refine hafter _ (Nat.le_of_eq ?_) _
    rw [rowWrites, rowWrites, World.after, (createHeartbeat_frame w _ input).1]
  | tell t => exact hafter { w with told := w.told ++ [t] } (Nat.le_refl _) _
  | getHeartbeatByUUID => exact hafter w (Nat.le_refl _) _
  | now | countActiveHeartbeats | getHeartbeatByID | insertPing | getCurrentExecution | updateExecution
  | insertExecution => exact haside trivial

theorem rowWrites_le_perform (w : World) (i : Performed) : rowWrites w id ≤ rowWrites (w.perform lic id i) id := by
  have hwp : wp handle anyChoice (i.op.job lic id)
      (fun _ w' => rowWrites w id ≤ rowWrites w' id) w :=
    wp_always (I := fun w' => rowWrites w id ≤ rowWrites w' id)
      (fun r _ x s _ hs => Nat.le_trans hs (rowWrites_le_handle x s r))
      (always_of_forall (fun _ => trivial) _ : Prog.Always (fun _ => True) _) (Nat.le_refl _)
  exact wp_run hwp fun _ _ => rfl

variable {errors : Bool} {op : Op} {w' : World}

/-- The pause stands after an operation exactly when it wrote nothing. -/
theorem Passed.stays_iff (hp : Passed errors id op w w') (hw : StaysPaused id w₀ w) :
    StaysPaused id w₀ w' ↔ rowWrites w' id ≤ rowWrites w id := by
  cases hp with
  | kept hrow hcalls hwrites _ =>
    refine iff_of_true ⟨?_, hcalls.trans hw.2⟩ (Nat.le_of_eq hwrites)
    rw [pausedRow, hrow]
    exact hw.1
  | written hrow _ _ _ =>
    refine iff_of_false (fun h => ?_) (by omega)
    simp [h.1] at hrow

/-- Without errors it writes nothing exactly when it is turned away. -/
theorem Passed.idle_iff (hp : Passed false id op w w') (hactive : (w.activeRow id).isSome = true) :
    rowWrites w' id ≤ rowWrites w id ↔ op.lands = false := by
  cases hp with
  | kept _ _ hwrites hidle =>
    refine iff_of_true (Nat.le_of_eq hwrites) ?_
    rcases hidle with herrors | hidle | hnone
    · cases herrors
    · exact hidle
    · simp [hnone] at hactive
  | written _ _ _ hlands =>
    refine iff_of_false (by omega) ?_
    rw [hlands]
    exact Ne.symm Bool.false_ne_true

theorem Passed.active (hp : Passed errors id op w w') (hactive : (w.activeRow id).isSome = true) :
    (w'.activeRow id).isSome = true := by
  cases hp with
  | kept hrow =>
    rw [World.activeRow, hrow]
    exact hactive
  | written _ hactive' => exact hactive'

/-- The pause stands exactly as long as nothing is written. -/
theorem staysPaused_iff_writes (hops : ∀ i ∈ is, i.op.inWindow = true) (hpaused : pausedRow w id = true) :
    (∀ n, StaysPaused id w (w.performAll lic id (is.take n))) ↔
      rowWrites (w.performAll lic id is) id = rowWrites w id := by
  have hle : rowWrites w id ≤ rowWrites (w.performAll lic id is) id :=
    Passes.le_foldl (fun a b => rowWrites a id ≤ rowWrites b id) (fun _ => Nat.le_refl _)
      (fun _ _ _ => Nat.le_trans) rowWrites_le_perform is w
  have hgrows : rowWrites (w.performAll lic id is) id ≤ rowWrites w id ↔
      Passes.Along (World.perform lic id)
        (fun w i => rowWrites (w.perform lic id i) id ≤ rowWrites w id) w is :=
    Passes.foldl_grows (fun a b => rowWrites a id ≤ rowWrites b id) (fun _ => Nat.le_refl _)
      (fun _ _ _ => Nat.le_trans) rowWrites_le_perform
  rw [Nat.le_antisymm_iff, and_iff_left hle, hgrows]
  exact Passes.prefixes_iff Passes.along_true
    (fun w i hi _ hw => (window_passed true lic (hops i hi) (.inl rfl) hw.1).stays_iff hw) ⟨hpaused, rfl⟩

/-- An active heartbeat, without errors: as long as every ping is turned away. -/
theorem staysPaused_iff_lands (hops : ∀ i ∈ is, i.op.inWindow = true) (hpaused : pausedRow w id = true)
    (hactive : (w.activeRow id).isSome = true) (hok : ∀ i ∈ is, i.NoErrors) :
    (∀ n, StaysPaused id w (w.performAll lic id (is.take n))) ↔ ∀ i ∈ is, i.op.lands = false := by
  have hpassed : ∀ v, ∀ i ∈ is, StaysPaused id w v → Passed false id i.op v (v.perform lic id i) :=
    fun v i hi hv => window_passed false lic (hops i hi) (.inr (hok i hi)) hv.1
  -- the pause stands, and the row is still active
  have hboth : (∀ n, StaysPaused id w (w.performAll lic id (is.take n)) ∧
      ((w.performAll lic id (is.take n)).activeRow id).isSome = true) ↔
        Passes.Along (World.perform lic id) (fun _ i => i.op.lands = false) w is := by
    refine Passes.prefixes_iff (A := fun v => StaysPaused id w v ∧ (v.activeRow id).isSome = true)
      Passes.along_true (fun v i hi _ hv => ?_) ⟨⟨hpaused, rfl⟩, hactive⟩
    have hp := hpassed v i hi hv.1
    rw [and_iff_left (hp.active hv.2), hp.stays_iff hv.1]
    exact hp.idle_iff hv.2
  rw [← Passes.along_mem, ← hboth]
  refine ⟨fun hstays n => ⟨hstays n, ?_⟩, fun h n => (h n).1⟩
  exact Passes.prefixes_inv (Passes.along_iff.mpr fun n _ _ => hstays n)
    (fun v i hi hv => (hpassed v i hi hv).active) hactive n

/-- **A paused heartbeat stays paused until a ping writes its row**, whatever the store refuses or hides.
    Of an active heartbeat, and without store errors, that is until a ping that is not turned away. -/
theorem paused_until_pinged (hops : ∀ i ∈ is, i.op.inWindow = true) (hpaused : pausedRow w id = true) :
    ((∀ n, StaysPaused id w (w.performAll lic id (is.take n))) ↔
      rowWrites (w.performAll lic id is) id = rowWrites w id) ∧
    ((w.activeRow id).isSome = true → (∀ i ∈ is, i.NoErrors) →
      ((∀ n, StaysPaused id w (w.performAll lic id (is.take n))) ↔ ∀ i ∈ is, i.op.lands = false)) :=
  ⟨staysPaused_iff_writes hops hpaused, staysPaused_iff_lands hops hpaused⟩

end Window

/-! ## 4. A pause and a ping -/

/-- A heartbeat is created, and paused. -/
def pausedLife : World :=
  emptyWatch.service.performAll (.ofMax 5) "hb"
    [(doing (.create ⟨"backup", 3600, 60⟩) "a").1, (doing .pause "b").1]

/-- **A failed run reported during a pause ends it**: the heartbeat is up again, with a deadline, and
    alerts. -/
theorem exit_code_ends_pause :
    pausedRow pausedLife "hb" = true ∧
      let w := pausedLife.performAll (.ofMax 5) "hb" [(doing (.exitCodePing 1 sampleSource) "c").1]
      (w.heartbeats.get "hb").map (fun h => (h.status, h.nextDeadlineAt)) = some (.up, some 3760) ∧
        alertCallbacks w "hb" = alertCallbacks pausedLife "hb" + 1 := by
  decide

/-- A deadline check, and a ping with an exit code out of range. -/
def quietWindow : List Performed :=
  [(doing .checkDeadlines "c").1, (doing (.exitCodePing 256 sampleSource) "d").1]

theorem pause_outlasts_checks :
    (∀ n, StaysPaused "hb" pausedLife (pausedLife.performAll (.ofMax 5) "hb" (quietWindow.take n))) ∧
      rowWrites (pausedLife.performAll (.ofMax 5) "hb" quietWindow) "hb" = rowWrites pausedLife "hb" := by
  have hok : ∀ i ∈ quietWindow, i.NoErrors := by
    simp only [quietWindow, List.forall_mem_cons]
    exact ⟨doing_noErrors _ _, doing_noErrors _ _, List.forall_mem_nil _⟩
  have hwindow : ∀ i ∈ quietWindow, i.op.inWindow = true := by decide
  have hpaused : pausedRow pausedLife "hb" = true := by decide
  obtain ⟨hwrites, hlands⟩ := paused_until_pinged hwindow hpaused
  have hstays := (hlands (by decide) hok).mpr (by decide)
  exact ⟨hstays, hwrites.mp hstays⟩

end Maintenant.Heartbeats
