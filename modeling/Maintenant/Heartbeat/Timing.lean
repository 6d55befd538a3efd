/-
  File:      Maintenant/Heartbeat/Timing.lean
  Subject:   INTERVAL AND GRACE OF A HEARTBEAT (internal/heartbeat/service.go: `CreateHeartbeat`,
             `UpdateHeartbeat`; internal/store/heartbeats.go: `UpdateHeartbeat`).

  An update checks the fields it names, and the grace it leaves alone against nothing: `timing_kept_iff`.
-/
import Maintenant.Heartbeat.Alerts

namespace Maintenant.Heartbeats

open Prog

structure UpdateHeartbeatInput where
  name : Option String
  intervalSeconds : Option Int
  graceSeconds : Option Int

/-- The checks of `UpdateHeartbeat`, against the row it has read. -/
def validateUpdateInput (h : Heartbeat) (input : UpdateHeartbeatInput) : Option String :=
  let maxGrace := input.intervalSeconds.getD h.intervalSeconds
  if input.name.any fun name => decide (byteLength name = 0 ∨ maxNameLength < byteLength name) then
    some ("name must be 1-" ++ toString maxNameLength ++ " characters")
  else if input.intervalSeconds.any fun i => decide (i < minIntervalSeconds ∨ maxIntervalSeconds < i) then
    some ("interval must be " ++ toString minIntervalSeconds ++ "-" ++ toString maxIntervalSeconds ++ " seconds")
  else if input.graceSeconds.any fun g => decide (g < 0 ∨ maxGrace < g) then
    some ("grace must be 0-" ++ toString maxGrace ++ " seconds")
  else none

/-- What the statement sets: the fields that are present. -/
def Heartbeat.updated (input : UpdateHeartbeatInput) (r : Heartbeat) : Heartbeat :=
  { r with
    name := input.name.getD r.name
    intervalSeconds := input.intervalSeconds.getD r.intervalSeconds
    graceSeconds := input.graceSeconds.getD r.graceSeconds }

theorem Heartbeat.updated_id (input : UpdateHeartbeatInput) (r : Heartbeat) : (r.updated input).id = r.id := rfl

/-- `UPDATE heartbeats SET … WHERE id`. -/
def World.setFields (w : World) (id : String) (input : UpdateHeartbeatInput) : World :=
  { w with
    heartbeats := w.heartbeats.update (fun r => r.id == id) (Heartbeat.updated input) (Heartbeat.updated_id input) }

/-- `UpdateHeartbeat`, with what its two statements meet; in the end the row is read back. -/
def World.updateHeartbeat (w : World) (id : String) (input : UpdateHeartbeatInput) (x y : Choice) :
    Option HeartbeatError × World :=
  match answer x w (.getHeartbeatByID id) with
  | .error _ => (some .store, w)
  | .ok none => (some .heartbeatNotFound, w)
  | .ok (some h) =>
    match validateUpdateInput h input with
    | some text => (some (.invalidInput text), w)
    | none => (if y.ok then none else some .store, if y.executed then w.setFields id input else w)

/-- The calls that set interval and grace. -/
inductive Call where
  | create (input : CreateHeartbeatInput) (token : String) (choices : Nat → Choice)
  | update (id : String) (input : UpdateHeartbeatInput) (x y : Choice)

def World.call (lic : License) (w : World) : Call → World
  | .create input token choices => (Prog.run handle (Heartbeats.createHeartbeat lic input token) choices w).2
  | .update id input x y => (w.updateHeartbeat id input x y).2

/-- An interval within its bounds, and a grace no longer than it. -/
def ValidTiming (interval grace : Int) : Prop :=
  minIntervalSeconds ≤ interval ∧ interval ≤ maxIntervalSeconds ∧ 0 ≤ grace ∧ grace ≤ interval
deriving Decidable

def World.Timed (w : World) : Prop := ∀ h ∈ w.heartbeats, ValidTiming h.intervalSeconds h.graceSeconds
deriving Decidable

/-- An interval that is stored without a grace is no shorter than the grace there is. -/
def Call.Careful (w : World) : Call → Prop
  | .create .. => True
  | .update id input x y => x.ok = true → y.executed = true → ∀ h ∈ w.heartbeats.get id,
      validateUpdateInput h input = none → input.graceSeconds = none → ∀ i ∈ input.intervalSeconds,
      h.graceSeconds ≤ i

instance (w : World) (c : Call) : Decidable (c.Careful w) := by
  cases c <;> unfold Call.Careful <;> infer_instance

variable {w : World} {lic : License}

/-- A new or renewed row has the timing of its input. -/
theorem timed_createHeartbeat {id : String} {input : CreateHeartbeatInput} (hw : w.Timed)
    (hinput : ValidTiming input.intervalSeconds input.graceSeconds) : (w.createHeartbeat id input).Timed := by
  intro h hh
  unfold World.createHeartbeat at hh
  cases hins : w.heartbeats.insert (freshRow id input) with
  | some =>
    simp only [hins] at hh
    rcases (Table.mem_insert hins).mp hh with hh | rfl
    · exact hw h hh
    · exact hinput
  | none =>
    simp only [hins] at hh
    obtain ⟨r, hr, rfl⟩ := Table.mem_update.mp hh
    split
    · exact hinput
    · exact hw r hr

theorem validateCreateInput_none {input : CreateHeartbeatInput} (h : validateCreateInput input = none) :
    ValidTiming input.intervalSeconds input.graceSeconds := by
  unfold validateCreateInput at h
  unfold ValidTiming
  grind

theorem timed_create (input : CreateHeartbeatInput) (token : String) (choices : Nat → Choice) (hw : w.Timed) :
    (w.call lic (.create input token choices)).Timed := by
  have hcreate : Ensures true (createHeartbeat lic input token) w _ := wp_createHeartbeat lic input token
  unfold World.call World.Timed
  rcases wp_run hcreate fun _ _ => rfl with hsame | ⟨hvalid, id, -, hnew⟩
  · rwa [hsame.heartbeats]
  · rw [hnew.heartbeats]
    exact timed_createHeartbeat hw (validateCreateInput_none hvalid)

/-- What an update leaves of the row it has read and checked. -/
theorem timed_updated {h : Heartbeat} {input : UpdateHeartbeatInput} (hh : ValidTiming h.intervalSeconds h.graceSeconds)
    (hvalid : validateUpdateInput h input = none) :
    ValidTiming (h.updated input).intervalSeconds (h.updated input).graceSeconds ↔
      (input.graceSeconds = none → ∀ i ∈ input.intervalSeconds, h.graceSeconds ≤ i) := by
  obtain ⟨name, interval, grace⟩ := input
  simp only [validateUpdateInput] at hvalid
  unfold ValidTiming at hh ⊢
  split at hvalid
  · cases hvalid
  · split at hvalid
    · cases hvalid
    · split at hvalid
      · cases hvalid
      · rename_i hinterval hgrace
        cases interval <;> cases grace <;> simp [Heartbeat.updated] at hinterval hgrace ⊢ <;> omega

theorem timed_setFields {id : String} {h : Heartbeat} {input : UpdateHeartbeatInput} (hw : w.Timed)
    (hrow : w.heartbeats.get id = some h) : (w.setFields id input).Timed ↔
      ValidTiming (h.updated input).intervalSeconds (h.updated input).graceSeconds := by
  obtain ⟨hmem, hid⟩ := Table.get_eq_some.mp hrow
  unfold World.setFields World.Timed
  simp only [Table.mem_update]
  constructor
  · intro hnew
    exact hnew _ ⟨h, hmem, (if_pos (beq_iff_eq.mpr hid)).symm⟩
  · rintro hupdated _ ⟨r, hr, rfl⟩
    split
    · rename_i hrid
      rwa [w.heartbeats.eq_of_key hr hmem ((beq_iff_eq.mp hrid).trans hid.symm)]
    · exact hw r hr

theorem timed_update_iff (id : String) (input : UpdateHeartbeatInput) (x y : Choice) (hw : w.Timed) :
    (w.call lic (.update id input x y)).Timed ↔ (Call.update id input x y).Careful w := by
  unfold World.call World.updateHeartbeat Call.Careful answer
  by_cases hx : x.ok = true
  · cases hrow : w.heartbeats.get id with
    | none => simpa [hx, hrow] using hw
    | some h =>
      cases hvalid : validateUpdateInput h input with
      | some => simpa [hx, hrow, hvalid] using hw
      | none =>
        by_cases hy : y.executed = true
        · simp only [hx, hrow, hvalid, hy, if_true, forall_true_left, Option.mem_def, Option.some.injEq, forall_eq']
          rw [timed_setFields hw hrow]
          exact timed_updated (hw h (Table.get_eq_some.mp hrow).1) hvalid
        · simpa [hx, hrow, hvalid, hy] using hw
  · simpa [hx] using hw

/-- **Timing stays valid, call by call, exactly as long as no interval is stored below the grace there is.** -/
theorem timing_kept_iff (calls : List Call) (hw : w.Timed) :
    (∀ n, ((calls.take n).foldl (World.call lic) w).Timed) ↔
    Passes.Along (World.call lic) Call.Careful w calls := by
  refine Passes.prefixes_iff Passes.along_true (fun w c _ _ hw => ?_) hw
  cases c with
  | create input token choices => exact iff_of_true (timed_create input token choices hw) trivial
  | update id input x y => exact timed_update_iff id input x y hw

/-- A heartbeat of an hour with ten minutes of grace, and another interval for it. -/
def newInterval (seconds : Int) : List Call :=
  [.create ⟨"backup", 3600, 600⟩ "hb" fun _ => plainChoice "a",
    .update "hb" ⟨none, some seconds, none⟩ (plainChoice "b") (plainChoice "b")]

theorem longer_interval_timed : (((newInterval 7200).take 2).foldl (World.call (.ofMax 5)) emptyWatch.service).Timed :=
  (timing_kept_iff (newInterval 7200) (by decide)).mpr (by decide) 2

/-- **A shorter interval leaves the grace above it.** -/
theorem shorter_interval_untimed : ¬ ((newInterval 60).foldl (World.call (.ofMax 5)) emptyWatch.service).Timed := by
  decide

end Maintenant.Heartbeats
