/-
  File:      Maintenant/AgentServer/Redelivery.lean
  Subject:   A SUFFIX OF THE EVENTS IS DELIVERED AGAIN. An agent whose stream breaks resends what was
             not acknowledged; the server has handled some or all of it. Nothing on the way recognises
             an event it has seen.

  * `deliver_grows` -- an event adds to the tables unless it says what is stored (`World.Settled`);
  * `deliver_retold` -- one event, delivered to the state it once met and again to a later one;
  * `redelivery` -- the second delivery leaves the tables as they were only if each of its events is
    settled at the state it meets; then it does, when nothing is answered with an error and no
    inventory archives a container the second time;
  * `crash_counted_twice` -- a crash and the restart after it are not settled.
-/
import Maintenant.AgentServer.Dispatch
import Maintenant.Container.Retelling

namespace Maintenant.Dispatching

open GoTime Containers Passes

/-! ## 1. What an event does to the tables -/

section Bodies

variable {w : World} {d : Delivery} {m : Meta}

variable (hm : d.accepted = some m)

include hm

theorem deliver_eq : w.deliver d = (w.handle d m).1 := by
  rw [World.deliver, dispatch_accepted hm]

theorem deliver_container {ev : WireContainer} (hb : d.event.body = .container ev) :
    (w.deliver d).containers = w.containers.take d.arrival.containers d.agentID m ev ∧
      (w.deliver d).endpoints.checkResults = w.endpoints.checkResults ∧ ((w.dispatch d).2 = none →
        (w.containers.handleAgentEvent d.arrival.containers d.agentID ev m).2 = none) := by
  rw [deliver_eq hm, dispatch_accepted hm, World.handle, hb, Service.take]
  dsimp only
  cases w.containers.handleAgentEvent d.arrival.containers d.agentID ev m with
  | mk _ err =>
    cases err with
    | none => exact ⟨rfl, rfl, fun _ => rfl⟩
    | some => exact ⟨rfl, rfl, fun h => by cases h⟩

theorem deliver_inventory {inv : WireInventory} (hb : d.event.body = .inventory inv) :
    (w.deliver d).containers = (w.containers.handleAgentInventory d.arrival.containers d.agentID inv m).1 ∧
      (w.deliver d).endpoints.checkResults = w.endpoints.checkResults ∧ ((w.dispatch d).2 = none →
        (w.containers.handleAgentInventory d.arrival.containers d.agentID inv m).2 = none) := by
  rw [deliver_eq hm, dispatch_accepted hm, World.handle, hb]
  dsimp only
  cases w.containers.handleAgentInventory d.arrival.containers d.agentID inv m with
  | mk s err =>
    cases err with
    | none =>
      obtain ⟨hcontainers, hchecks⟩ := syncAll_eq inv.containers { w with containers := s }
      exact ⟨hcontainers, hchecks, fun _ => rfl⟩
    | some => exact ⟨rfl, rfl, fun h => by cases h⟩

theorem deliver_endpoint {ev : Endpoints.WireResult} (hb : d.event.body = .endpoint ev) :
    (w.deliver d).containers = w.containers ∧
      (w.deliver d).endpoints = w.endpoints.handleAgentEvent d.arrival.endpoints d.agentID ev m := by
  rw [deliver_eq hm, World.handle, hb]
  exact ⟨rfl, rfl⟩

theorem deliver_other (hb : d.event.body = .other) : w.deliver d = w := by
  rw [deliver_eq hm, World.handle, hb]

end Bodies

/-! ## 2. The tables grow -/

/-- What `w` holds is held by `w'`. -/
structure World.Within (w w' : World) : Prop where
  containers : w.containers.Within w'.containers
  checkResults : w.endpoints.checkResults <+: w'.endpoints.checkResults

theorem World.Within.refl (w : World) : w.Within w := ⟨.refl _, List.prefix_refl _⟩

theorem World.Within.trans {a b c : World} (h : a.Within b) (h' : b.Within c) : a.Within c :=
  ⟨h.containers.trans h'.containers, h.checkResults.trans h'.checkResults⟩

/-- **The event says what is stored**, or it is refused, or nothing stored is about it. -/
def World.Settled (w : World) (d : Delivery) : Prop :=
  match d.accepted, d.event.body with
  | none, _ => True
  | some _, .container ev => w.containers.Settled d.agentID ev
  | some m, .inventory inv =>
    w.containers.SettledAll d.arrival.containers d.agentID m inv.containers
  | some _, .endpoint ev => w.endpoints.Drops d.agentID ev
  | some _, .other => True

section Growth

variable {w : World} {d : Delivery}

/-- The containers decide. -/
theorem within_of_containers {w' : World} {P : Prop} (h : w.containers.GrowsUnless w'.containers P)
    (hchecks : w'.endpoints.checkResults = w.endpoints.checkResults) : w.Within w' ∧ (w'.Within w ↔ P) := by
  refine ⟨⟨h.grows, hchecks ▸ List.prefix_refl _⟩, ?_⟩
  rw [← h.within]
  exact ⟨fun hw => hw.containers, fun hw => ⟨hw, hchecks ▸ List.prefix_refl _⟩⟩

/-- The check results decide. -/
theorem within_of_endpoints {ev : Endpoints.WireResult} {m : Meta} (hm : d.accepted = some m)
    (hb : d.event.body = .endpoint ev) :
    w.Within (w.deliver d) ∧ ((w.deliver d).Within w ↔ w.endpoints.Drops d.agentID ev) := by
  obtain ⟨hcontainers, hendpoints⟩ := deliver_endpoint hm hb
  by_cases hdrop : w.endpoints.Drops d.agentID ev
  · rw [Endpoints.handleAgentEvent_dropped hdrop] at hendpoints
    refine ⟨⟨hcontainers ▸ .refl _, hendpoints ▸ List.prefix_refl _⟩, iff_of_true ?_ hdrop⟩
    exact ⟨hcontainers ▸ .refl _, hendpoints ▸ List.prefix_refl _⟩
  · obtain ⟨row, hrow⟩ : ∃ row, (w.endpoints.handleAgentEvent d.arrival.endpoints d.agentID ev
        m).checkResults = _ := Endpoints.handleAgentEvent_checkResults hdrop
    rw [← hendpoints] at hrow
    refine ⟨⟨hcontainers ▸ .refl _, ⟨[row], hrow.symm⟩⟩, iff_of_false (fun h => ?_) hdrop⟩
    have hnone := h.checkResults
    simp [hrow, append_prefix_self] at hnone

/-- **An event only adds, and adds nothing exactly when it is settled.** -/
theorem deliver_grows (w : World) (d : Delivery) :
    w.Within (w.deliver d) ∧ ((w.deliver d).Within w ↔ w.Settled d) := by
  unfold World.Settled
  cases hm : d.accepted with
  | none =>
    obtain ⟨hcontainers, hendpoints, -⟩ := dispatch_refused hm
    exact within_of_containers (.of_eq hcontainers trivial)
      (congrArg Endpoints.Service.checkResults hendpoints)
  | some =>
    cases hb : d.event.body with
    | container =>
      obtain ⟨hcontainers, hchecks, -⟩ := deliver_container hm hb
      exact within_of_containers (hcontainers ▸ take_grows ..) hchecks
    | inventory inv =>
      obtain ⟨hcontainers, hchecks, -⟩ := deliver_inventory hm hb
      exact within_of_containers (hcontainers ▸ inventory_grows inv) hchecks
    | endpoint => exact within_of_endpoints hm hb
    | other =>
      rw [deliver_other hm hb]
      exact ⟨.refl w, iff_of_true (.refl w) trivial⟩

/-- **A delivery of many events adds nothing exactly when each is settled at the state it meets.** -/
theorem deliveries_within (w : World) (ds : List Delivery) :
    (ds.foldl World.deliver w).Within w ↔ Along World.deliver World.Settled w ds :=
  (foldl_grows World.Within .refl (fun _ _ _ => .trans) fun w d => (deliver_grows w d).1).trans
    (along_congr fun w d _ => (deliver_grows w d).2)

end Growth

/-! ## 3. The rows -/

/-- The same event of the same agent, with the same observation time; when it arrives, and whether
    it is flagged as a replay, may differ. -/
structure Again (d d' : Delivery) : Prop where
  agentID : d'.agentID = d.agentID
  body : d'.event.body = d.event.body
  observedAt : d'.observedAt = d.observedAt

/-- No handler answers with an error. -/
def World.Answers (w : World) (d : Delivery) : Prop := d.accepted = none ∨ (w.dispatch d).2 = none

/-- The event is an inventory that archives a container. -/
def World.Archives (w : World) (d : Delivery) : Prop :=
  match d.accepted, d.event.body with
  | some m, .inventory inv => (inv.containers.isEmpty && !inv.complete) = false ∧
      (w.containers.reportAll d.arrival.containers d.agentID m inv.containers).1.Omits d.agentID inv.live
  | _, _ => False

section Rows

variable {w w' : World} {d d' : Delivery} {id : ContainerID} {fin σ : Container}

/-- **One event, delivered twice.** -/
theorem deliver_retold (hagain : Again d d') (hrefused : d.accepted = none ↔ d'.accepted = none)
    (hok : w.Answers d) (hok' : w'.Answers d') (hsettled : w'.Settled d') (hkeeps : ¬w'.Archives d')
    (hσ : w'.containers.containers.get id = some σ) (h : Retold fin (w.containers.containers.get id) σ) :
    ∃ σ', (w'.deliver d').containers.containers.get id = some σ' ∧
      Retold fin ((w.deliver d).containers.containers.get id) σ' := by
  by_cases hnone : d.accepted = none
  · refine ⟨σ, ?_, ?_⟩
    · rw [(dispatch_refused (hrefused.mp hnone)).1, hσ]
    · rw [(dispatch_refused hnone).1]
      exact h
  obtain ⟨m, hm⟩ := Option.ne_none_iff_exists'.mp hnone
  obtain ⟨m', hm'⟩ := Option.ne_none_iff_exists'.mp (mt hrefused.mpr hnone)
  have htime : m'.observedAt = m.observedAt := by
    rw [accepted_meta hm, accepted_meta hm']
    exact hagain.observedAt
  have hok := hok.resolve_left hnone
  have hok' := hok'.resolve_left (mt hrefused.mpr hnone)
  have hsame := hagain.body
  have hagent := hagain.agentID
  unfold World.Settled at hsettled
  unfold World.Archives at hkeeps
  rw [hm'] at hsettled hkeeps
  cases hb : d.event.body with
  | container =>
    have hb' := hsame.trans hb
    obtain ⟨hrun, -, herr⟩ := deliver_container hm hb
    obtain ⟨hrun', -, -⟩ := deliver_container hm' hb'
    rw [hb', hagent] at hsettled
    rw [hagent] at hrun'
    rw [hrun, hrun']
    exact message_retold (herr hok) hsettled htime hσ h
  | inventory inv =>
    have hb' := hsame.trans hb
    obtain ⟨hrun, -, herr⟩ := deliver_inventory hm hb
    obtain ⟨hrun', -, herr'⟩ := deliver_inventory hm' hb'
    have hnone' := herr' hok'
    rw [hb', hagent] at hsettled hkeeps
    rw [hagent] at hrun' hnone'
    rw [hrun, hrun']
    exact inventory_retold htime inv (herr hok) hnone' hsettled
      (fun hcounts homits => hkeeps ⟨hcounts, homits⟩) hσ h
  | endpoint =>
    refine ⟨σ, ?_, ?_⟩
    · rw [(deliver_endpoint hm' (hsame.trans hb)).1, hσ]
    · rw [(deliver_endpoint hm hb).1]
      exact h
  | other =>
    refine ⟨σ, ?_, ?_⟩
    · rw [deliver_other hm' (hsame.trans hb), hσ]
    · rw [deliver_other hm hb]
      exact h

/-- **A list of events, delivered twice.** -/
theorem deliveries_retold {ds ds' : List Delivery} (hagain : List.Forall₂ Again ds ds')
    (hrefused : List.Forall₂ (fun d d' : Delivery => d.accepted = none ↔ d'.accepted = none) ds ds')
    (hok : Along World.deliver World.Answers w ds)
    (hok' : Along World.deliver (fun w d => w.Answers d ∧ ¬w.Archives d) w' ds')
    (hsettled : Along World.deliver World.Settled w' ds') (hσ : w'.containers.containers.get id = some σ)
    (h : Retold fin (w.containers.containers.get id) σ) :
    ∃ σ', (ds'.foldl World.deliver w').containers.containers.get id = some σ' ∧
      Retold fin ((ds.foldl World.deliver w).containers.containers.get id) σ' := by
  induction hagain generalizing w w' σ with
  | nil => exact ⟨σ, hσ, h⟩
  | cons hone _ ih =>
    obtain ⟨hrefused, hrest⟩ := List.forall₂_cons.mp hrefused
    obtain ⟨σ₁, hσ₁, h₁⟩ :=
      deliver_retold hone hrefused hok.1 hok'.1.1 hsettled.1 hok'.1.2 hσ h
    exact ih hrest hok.2 hok'.2 hsettled.2 hσ₁ h₁

end Rows

/-! ## 4. Idempotence -/

/-- The containers, their transitions, the restarts counted in them, and the check results. -/
structure World.Same (w w' : World) : Prop where
  rows : ∀ id, w'.containers.containers.get id = w.containers.containers.get id
  transitions : w'.containers.transitions = w.containers.transitions
  restarts : ∀ id since, countRestartsSince w'.containers.transitions id since =
    countRestartsSince w.containers.transitions id since
  checkResults : w'.endpoints.checkResults = w.endpoints.checkResults

theorem World.Same.within {w w' : World} (h : w.Same w') : w'.Within w where
  containers := ⟨h.transitions ▸ List.prefix_refl _, fun id hsome => (h.rows id) ▸ hsome⟩
  checkResults := h.checkResults ▸ List.prefix_refl _

/-- The dispatcher refuses an event both times or not at all, no handler answers with an error, and
    what is archived the second time is not archived by an inventory (at the server's instant). -/
structure Undisturbed (w : World) (suffix again : List Delivery) : Prop where
  refused : List.Forall₂ (fun d d' : Delivery => d.accepted = none ↔ d'.accepted = none) suffix again
  first : Along World.deliver World.Answers w suffix
  second : Along World.deliver (fun w d => w.Answers d ∧ ¬w.Archives d)
    (suffix.foldl World.deliver w) again

section Idempotence

variable {suffix again : List Delivery}

theorem same_of_settled {w : World} (hagain : List.Forall₂ Again suffix again) (hquiet : Undisturbed w suffix again)
    (hsettled : Along World.deliver World.Settled (suffix.foldl World.deliver w) again) :
    (suffix.foldl World.deliver w).Same (again.foldl World.deliver (suffix.foldl World.deliver w)) := by
  have hback := (deliveries_within _ again).mpr hsettled
  have hout := le_foldl World.Within .refl (fun _ _ _ => .trans) (fun w d => (deliver_grows w d).1)
    again (suffix.foldl World.deliver w)
  have htransitions := hback.containers.transitions.eq_of_length_le
    hout.containers.transitions.length_le
  refine ⟨fun id => ?_, htransitions, fun id since => by rw [htransitions],
    hback.checkResults.eq_of_length_le hout.checkResults.length_le⟩
  cases hfin : (suffix.foldl World.deliver w).containers.containers.get id with
  | none =>
    refine Option.not_isSome_iff_eq_none.mp fun hsome => ?_
    have := hback.containers.ids id hsome
    simp [hfin] at this
  | some fin =>
    obtain ⟨σ, hσ, hretold⟩ := deliveries_retold hagain hquiet.refused hquiet.first hquiet.second
      hsettled hfin (Retold.start fin _)
    rw [hfin] at hretold
    rw [hσ, hretold.eq]

/-- **When a redelivery leaves the tables as they were.** Only if every event of it is settled at the
    state it meets; and if so, then whenever nothing disturbs it. -/
theorem redelivery (w₀ : World) (before : List Delivery) (hagain : List.Forall₂ Again suffix again) :
    ((((before ++ suffix).foldl World.deliver w₀).Same
        (again.foldl World.deliver ((before ++ suffix).foldl World.deliver w₀))) →
      Along World.deliver World.Settled ((before ++ suffix).foldl World.deliver w₀) again) ∧
    (Undisturbed (before.foldl World.deliver w₀) suffix again →
      Along World.deliver World.Settled ((before ++ suffix).foldl World.deliver w₀) again →
      ((before ++ suffix).foldl World.deliver w₀).Same
        (again.foldl World.deliver ((before ++ suffix).foldl World.deliver w₀))) := by
  rw [List.foldl_append]
  exact ⟨fun h => (deliveries_within _ again).mp h.within,
    fun hquiet hsettled => same_of_settled hagain hquiet hsettled⟩

end Idempotence

/-! ## 5. Two redeliveries -/

/-- A running container of agent a1, with a probed endpoint. -/
def sampleWorld : World where
  containers := sampleService "a1"
  endpoints := ⟨⟨[⟨"ep1", "a1", "web", "http://web", true, .up, .normal, 0, 0, none, none, none, ""⟩],
    List.nodup_singleton _⟩, [], []⟩
  rejected := ∅

/-- An event of a1, observed a second after the epoch, that arrives at `now`. -/
def sampleDelivery (now : Time) (body : Body) : Delivery :=
  ⟨"a1", ⟨"a1", some second, true, body⟩, now, sampleEnv, ⟨now, fun _ _ => none⟩, fun _ _ _ _ t => t⟩

def sampleMessage (state : WireState) (exitCode : String) : Body :=
  .container ⟨"web", "web", "nginx", state, exitCode, ∅, "", false, false, none⟩

/-- A crash alone is settled when it comes again: the container has exited. -/
theorem crash_redelivered :
    ([sampleDelivery second (sampleMessage .exited "1")].foldl World.deliver sampleWorld).Same
      ([sampleDelivery (9 * second) (sampleMessage .exited "1")].foldl World.deliver
        ([sampleDelivery second (sampleMessage .exited "1")].foldl World.deliver sampleWorld)) :=
  (redelivery sampleWorld [] (.cons ⟨rfl, rfl, rfl⟩ .nil)).2
    ⟨.cons (iff_of_false (by decide) (by decide)) .nil, ⟨.inr rfl, trivial⟩,
      ⟨⟨.inr rfl, fun h => h⟩, trivial⟩⟩
    ⟨.inr (.inr ⟨rfl, rfl⟩), trivial⟩

/-- A crash, the restart after it, and a probe. -/
def sampleSuffix (now : Time) : List Delivery :=
  [sampleDelivery now (sampleMessage .exited "1"), sampleDelivery now (sampleMessage .running ""),
    sampleDelivery now (.endpoint ⟨"http://web", .up, 200, 5, ""⟩)]

/-- **Delivered again, a crash counts twice**: two transitions and a restart more, and the probe has a
    second row. -/
theorem crash_counted_twice :
    (let once := (sampleSuffix second).foldl World.deliver sampleWorld
    (once.containers.transitions.length,
      countRestartsSince once.containers.transitions ⟨"a1", "web"⟩ 0,
      once.endpoints.checkResults.length)) = (2, 1, 1) ∧
    (let twice := (sampleSuffix (9 * second)).foldl World.deliver
      ((sampleSuffix second).foldl World.deliver sampleWorld)
    (twice.containers.transitions.length,
      countRestartsSince twice.containers.transitions ⟨"a1", "web"⟩ 0,
      twice.endpoints.checkResults.length)) = (4, 2, 2) := by
  decide

end Maintenant.Dispatching
