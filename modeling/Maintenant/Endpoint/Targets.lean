/-
  File:      Maintenant/Endpoint/Targets.lean
  Subject:   WHICH ENDPOINTS A PROBE RESULT REACHES (internal/endpoint/agent_event.go,
             internal/store/endpoints.go: `GetActiveAgentEndpointByTarget`).

  An agent reports a target, and the query for its endpoint reads one row.

  * `results_reach_iff` -- the results reach every endpoint of the target, and no other, exactly when the
    target has only one.
-/
import Maintenant.Endpoint.Alerts

namespace Maintenant.Endpoints

open GoTime Containers

/-- An active endpoint of the agent with the target. -/
def Service.Probed (s : Service) (agentID target : String) (ep : Endpoint) : Prop :=
  ep ∈ s.endpoints ∧ ep.agentID = uidAgent agentID ∧ ep.target = target ∧ ep.active = true

/-- The endpoints of the target show the result, and those of another agent or target are as before. -/
def Service.Reaches (s : Service) (env : Env) (agentID : String) (ev : WireResult) (m : Meta) : Prop :=
  let after := (s.handleAgentEvent env agentID ev m).endpoints
  (∀ ep, s.Probed agentID ev.url ep → ∃ row, after.get ep.id = some row ∧
    row.status = statusForResult (Service.resultOf agentID ep ev m) ∧ row.lastCheckAt = some (unix env.now)) ∧
  ∀ ep ∈ s.endpoints, ep.agentID ≠ uidAgent agentID ∨ ep.target ≠ ev.url → after.get ep.id = some ep

variable {env : Env} {s : Service} {agentID target : String} {ev : WireResult} {m : Meta} {ep : Endpoint}

theorem probed_of_activeByTarget (h : s.activeByTarget agentID target = some ep) : s.Probed agentID target ep := by
  obtain ⟨hmem, hp⟩ := Table.mem_select.mp (List.mem_of_mem_head? (Option.mem_def.mpr h))
  simp only [Bool.and_eq_true, beq_iff_eq, and_assoc] at hp
  exact ⟨hmem, hp⟩

theorem activeByTarget_ne_none (h : s.Probed agentID target ep) : s.activeByTarget agentID target ≠ none := by
  obtain ⟨hmem, hp⟩ := h
  intro hnone
  refine List.ne_nil_of_mem (Table.mem_select.mpr ⟨hmem, ?_⟩) (List.head?_eq_none_iff.mp hnone)
  simp only [Bool.and_eq_true, beq_iff_eq, and_assoc]
  exact hp

/-- A live message is written on the row the query reads, and on no other. -/
theorem handleAgentEvent_row (hurl : ev.url ≠ "") (hep : s.activeByTarget agentID ev.url = some ep)
    (hlive : m.replayed = false) (id : String) : (s.handleAgentEvent env agentID ev m).endpoints.get id =
      let result := Service.resultOf agentID ep ev m
      if id = ep.id then some ((ep.observed env result).judged env result) else s.endpoints.get id := by
  unfold Service.handleAgentEvent
  rw [if_neg hurl, hep]
  exact processCheckResult_row (activeByTarget_mem hep) hlive

/-- Where the results reach their endpoints, each endpoint is the one the query reads. -/
theorem activeByTarget_of_reaches (h : ∀ env ev m, ev.url = target → m.replayed = false →
    s.Reaches env agentID ev m)
    (hep : s.Probed agentID target ep) : target ≠ "" ∧ s.activeByTarget agentID target = some ep := by
  -- a result that is news about the endpoint
  let ev : WireResult := ⟨target, if ep.status = .up then .down else .up, 0, 0, ""⟩
  obtain ⟨row, hrow, hstatus, -⟩ := (h ⟨0, fun _ _ => none⟩ ev ⟨0, false⟩ rfl rfl).1 ep hep
  have hget : s.endpoints.get ep.id ≠ some row := by
    rw [Table.get_eq_some.mpr ⟨hep.1, rfl⟩]
    rintro ⟨⟩
    cases he : ep.status <;> simp [ev, he, Service.resultOf, statusForResult] at hstatus
  by_cases hurl : ev.url = ""
  · rw [handleAgentEvent_dropped (.inl hurl)] at hrow
    exact absurd hrow hget
  obtain ⟨first, hfirst⟩ : ∃ first, s.activeByTarget agentID ev.url = some first :=
    Option.ne_none_iff_exists'.mp (activeByTarget_ne_none hep)
  rw [handleAgentEvent_row hurl hfirst rfl] at hrow
  have hid : ep.id = first.id := by
    by_contra hid
    exact hget ((if_neg hid).symm.trans hrow)
  rw [s.endpoints.eq_of_key hep.1 (probed_of_activeByTarget hfirst).1 hid]
  exact ⟨hurl, hfirst⟩

/-- **The live results for a target reach its endpoints and no other** exactly when it is not the empty text and the
agent has one active endpoint with it, if any. -/
theorem results_reach_iff (s : Service) (agentID target : String) :
    (∀ env ev m, ev.url = target → m.replayed = false → s.Reaches env agentID ev m) ↔
      ∀ ep, s.Probed agentID target ep → target ≠ "" ∧ ∀ ep', s.Probed agentID target ep' → ep' = ep := by
  constructor
  · intro h ep hep
    obtain ⟨hne, hfirst⟩ := activeByTarget_of_reaches h hep
    refine ⟨hne, fun ep' hep' => ?_⟩
    exact Option.some.inj ((activeByTarget_of_reaches h hep').2.symm.trans hfirst)
  rintro h env ev m rfl hlive
  by_cases hdrop : s.Drops agentID ev
  · unfold Service.Reaches
    rw [handleAgentEvent_dropped hdrop]
    refine ⟨fun ep hep => ?_, fun ep hep _ => Table.get_eq_some.mpr ⟨hep, rfl⟩⟩
    rcases hdrop with hurl | hnone
    · exact absurd hurl (h ep hep).1
    · exact absurd hnone (activeByTarget_ne_none hep)
  obtain ⟨hurl, hsome⟩ := not_or.mp hdrop
  obtain ⟨first, hfirst⟩ := Option.ne_none_iff_exists'.mp hsome
  have hprobed := probed_of_activeByTarget hfirst
  refine ⟨fun ep hep => ?_, fun ep hep hother => ?_⟩
  · cases (h first hprobed).2 ep hep
    refine ⟨_, (handleAgentEvent_row hurl hfirst hlive _).trans (if_pos rfl), ?_⟩
    unfold Endpoint.judged
    split <;> exact ⟨rfl, rfl⟩
  · rw [handleAgentEvent_row hurl hfirst hlive, if_neg]
    · exact Table.get_eq_some.mpr ⟨hep, rfl⟩
    · intro hid
      cases s.endpoints.eq_of_key hep hprobed.1 hid
      exact hother.elim (· hprobed.2.1) (· hprobed.2.2.1)

/-- An endpoint of agent a1 that is up. -/
def upEndpoint (id container : String) : Endpoint :=
  ⟨id, "a1", container, "http://db", true, .up, .normal, 0, 1, some 0, none, none, ""⟩

/-- Two containers of the agent are labelled with one target. -/
def sharedTarget : Service := ⟨⟨[upEndpoint "e1" "web", upEndpoint "e2" "api"], by decide⟩, [], []⟩

/-- The target is down; the second endpoint stays up, last checked at second 0. -/
theorem second_endpoint_unreached :
    let after := sharedTarget.handleAgentEvent ⟨second, fun _ _ => none⟩ "a1"
      ⟨"http://db", .down, 0, 0, "refused"⟩ ⟨0, false⟩
    (after.endpoints.get "e1").map Endpoint.status = some .down ∧
      after.endpoints.get "e2" = some (upEndpoint "e2" "api") := by
  decide

end Maintenant.Endpoints
