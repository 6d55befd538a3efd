/-
  File:      Maintenant/AgentServer/Enrollment.lean
  Subject:   ENROLLMENT OF AGENTS (internal/store/agents.go `EnrollAtomic`, `classifyTokenFailure` and the other
             writes of the agent store). A call counts, consumes its token and inserts its agent in one serialized
             transaction, so a run is a list of transactions.

  * `enroll_ok`, `enroll_error` -- everything a call can do;
  * `active_enroll_le`, `active_step_le` -- the cap, for one call and for every other write;
  * `not_mem_consumptions` -- a consumed token stays consumed;
  * `truthful_iff` -- the errors tell the truth, except in the very second a token expires: it is no longer
    accepted and not yet classified as expired;
  * `enrollment_iff` -- the same for runs.
-/
import Maintenant.Lib.Table
import Maintenant.Lib.Passes

namespace Maintenant.Enrollment

/-! ## 1. Agents, tokens, errors -/

inductive AgentStatus where
  | active
  | revoked
deriving DecidableEq, Repr

structure Agent where
  agentID : String
  label : String
  status : AgentStatus
deriving DecidableEq, Repr

structure EnrollmentToken where
  tokenID : String
  tokenHash : String
  expiresAt : Int
  consumedAt : Option Int
  consumedByAgentID : Option String
deriving DecidableEq, Repr

inductive EnrollError where
  | hostLimitReached
  | tokenNotFound
  | tokenAlreadyConsumed
  | tokenExpired
  /-- A statement or the commit failed; the text says which. -/
  | failed (context : String)
deriving DecidableEq, Repr

/-- The sentinel of the server's own runtime. -/
def localAgent : String := "00000000-0000-0000-0000-000000000000"

structure AgentDB where
  agents : Table Agent.agentID
  tokens : Table EnrollmentToken.tokenHash

def Agent.isActiveRemote (a : Agent) : Bool := a.agentID != localAgent && decide (a.status = .active)

/-- The remote agents that are not revoked. -/
def activeAgents (db : AgentDB) : Nat := db.agents.count Agent.isActiveRemote

/-! ## 2. The transaction -/

variable {now : Int} {hash : String} {tokens : Table EnrollmentToken.tokenHash}

/-- Which statement the engine refuses. -/
structure Faults where
  serialize : Bool
  count : Bool
  consume : Bool
  rowsAffected : Bool
  classify : Bool
  insert : Bool
  commit : Bool
deriving DecidableEq, Repr

def Faults.none : Faults := ⟨false, false, false, false, false, false, false⟩

/-- One call of `EnrollAtomic`, with the second its clock shows. -/
structure EnrollCall where
  limit : Int
  token : String
  agent : Agent
  now : Int
  faults : Faults
deriving DecidableEq, Repr

/-- The token the statement consumes: neither used nor expired. -/
def usable (now : Int) (t : EnrollmentToken) : Bool := decide (t.consumedAt = none) && decide (now < t.expiresAt)

def consumeToken (now : Int) (agentID hash : String) (tokens : Table EnrollmentToken.tokenHash) :
    Table EnrollmentToken.tokenHash :=
  tokens.update (fun t => t.tokenHash == hash && usable now t)
    (fun t => { t with consumedAt := some now, consumedByAgentID := some agentID }) fun _ => rfl

theorem mem_consumeToken {agentID : String} {t : EnrollmentToken} :
    t ∈ consumeToken now agentID hash tokens ↔ ∃ r ∈ tokens, t =
      if r.tokenHash == hash && usable now r then
        { r with consumedAt := some now, consumedByAgentID := some agentID }
      else r := Table.mem_update

/-- The rows that match; the hash is unique. -/
def rowsConsumed (now : Int) (hash : String) (tokens : Table EnrollmentToken.tokenHash) : Nat :=
  match tokens.get hash with
  | some t => if usable now t then 1 else 0
  | none => 0

def classifyTokenFailure (faults : Faults) (tokens : Table EnrollmentToken.tokenHash) (hash : String) (now : Int) :
    EnrollError :=
  if faults.classify then .failed "check token"
  else
    match tokens.get hash with
    | none => .tokenNotFound
    | some t =>
      if t.consumedAt ≠ none then .tokenAlreadyConsumed
      else if t.expiresAt < now then .tokenExpired
      else .tokenNotFound

/-- Why the call does not get as far as its token. -/
def refusal (c : EnrollCall) (db : AgentDB) : Option EnrollError :=
  if c.faults.serialize then some (.failed "serialize writers of agents")
  else if 0 ≤ c.limit then
    if c.faults.count then some (.failed "count active agents")
    else if c.limit ≤ activeAgents db then some .hostLimitReached
    else none
  else none

def insertAgent (faults : Faults) (a : Agent) (agents : Table Agent.agentID) : Option (Table Agent.agentID) :=
  if faults.insert || decide (64 < a.label.length) then none else agents.insert a

/-- The body of the transaction. -/
def enrollBody (hashToken : String → String) (db : AgentDB) (c : EnrollCall) : Except EnrollError AgentDB :=
  match refusal c db with
  | some e => .error e
  | none =>
    if c.faults.consume then .error (.failed "consume token")
    else if c.faults.rowsAffected then .error (.failed "consume token rows")
    else if rowsConsumed c.now (hashToken c.token) db.tokens ≠ 1 then
      .error (classifyTokenFailure c.faults db.tokens (hashToken c.token) c.now)
    else
      match insertAgent c.faults c.agent db.agents with
      | none => .error (.failed "insert agent")
      | some agents => .ok ⟨agents, consumeToken c.now c.agent.agentID (hashToken c.token) db.tokens⟩

/-- `Writer.Tx`: commit, or roll back to where it began. -/
def tx (commitFails : Bool) (db : AgentDB) (result : Except EnrollError AgentDB) : Except EnrollError Unit × AgentDB :=
  match result with
  | .error e => (.error e, db)
  | .ok db' => if commitFails then (.error (.failed "commit"), db) else (.ok (), db')

def enrollAtomic (hashToken : String → String) (db : AgentDB) (c : EnrollCall) : Except EnrollError Unit × AgentDB :=
  tx c.faults.commit db (enrollBody hashToken db c)

/-! ## 3. Everything a call can do -/

section Call

variable {hashToken : String → String} {db db' : AgentDB} {c : EnrollCall}

variable {e : EnrollError}

/-- **A failing call leaves agents and tokens as they were.** -/
theorem enroll_error (h : (enrollAtomic hashToken db c).1 = .error e) : (enrollAtomic hashToken db c).2 = db := by
  unfold enrollAtomic tx at h ⊢
  cases hb : enrollBody hashToken db c with
  | error => rfl
  | ok =>
    simp only [hb] at h ⊢
    cases hc : c.faults.commit with
    | true => rfl
    | false => simp [hc] at h

theorem refusal_eq_none : refusal c db = none ↔ c.faults.serialize = false ∧
    (0 ≤ c.limit → c.faults.count = false ∧ activeAgents db < c.limit) := by
  unfold refusal
  cases c.faults.serialize with
  | true => simp
  | false =>
    by_cases hl : 0 ≤ c.limit
    · cases c.faults.count with
      | true | false => simp [hl]
    · simp [hl]

theorem rowsConsumed_eq_one : rowsConsumed now hash tokens = 1 ↔
      ∃ t, tokens.get hash = some t ∧ t.consumedAt = none ∧ now < t.expiresAt := by
  unfold rowsConsumed
  cases tokens.get hash with
  | none => simp
  | some => simp [usable]

/-- **A successful call found room and a usable token**, which it consumes, and adds its agent. -/
theorem enroll_ok (h : (enrollAtomic hashToken db c).1 = .ok ()) :
    refusal c db = none ∧ rowsConsumed c.now (hashToken c.token) db.tokens = 1 ∧
      ∃ agents, db.agents.insert c.agent = some agents ∧
        (enrollAtomic hashToken db c).2 = ⟨agents,
          consumeToken c.now c.agent.agentID (hashToken c.token) db.tokens⟩ := by
  unfold enrollAtomic tx at h ⊢
  cases hb : enrollBody hashToken db c with
  | error => simp [hb] at h
  | ok =>
    cases hcommit : c.faults.commit with
    | true => simp [hb, hcommit] at h
    | false =>
      unfold enrollBody at hb
      cases href : refusal c db with
      | some => simp [href] at hb
      | none =>
        simp only [href] at hb
        split_ifs at hb with h1 h2 h3
        cases hi : insertAgent c.faults c.agent db.agents with
        | none => simp [hi] at hb
        | some agents =>
          simp only [hi] at hb
          unfold insertAgent at hi
          split_ifs at hi with h4
          exact ⟨rfl, not_not.mp h3, agents, hi, (Except.ok.inj hb).symm⟩

/-- What an error says about the token. -/
def EnrollError.isToken : EnrollError → Bool
  | .tokenNotFound => true
  | .tokenAlreadyConsumed => true
  | .tokenExpired => true
  | .hostLimitReached => false
  | .failed _ => false

theorem refusal_isToken (h : refusal c db = some e) : e.isToken = false := by
  unfold refusal at h
  split_ifs at h
  all_goals
    cases h
    rfl

/-- The call gets as far as looking at its token, and the engine answers. -/
def Reaches (db : AgentDB) (c : EnrollCall) : Prop :=
  refusal c db = none ∧ c.faults.consume = false ∧ c.faults.rowsAffected = false ∧ c.faults.classify = false

/-- What is reported of the token found, if it is refused. -/
def reported (now : Int) : Option EnrollmentToken → Option EnrollError
  | none => some .tokenNotFound
  | some t =>
    if usable now t then none
    else if t.consumedAt ≠ none then some .tokenAlreadyConsumed
    else if t.expiresAt < now then some .tokenExpired
    else some .tokenNotFound

theorem reported_iff {faults : Faults} (hcl : faults.classify = false) : reported now (tokens.get hash) = some e ↔
      rowsConsumed now hash tokens ≠ 1 ∧ classifyTokenFailure faults tokens hash now = e := by
  unfold rowsConsumed classifyTokenFailure reported
  cases tokens.get hash with
  | none => simp [hcl]
  | some t =>
    cases hu : usable now t with
    | true => simp [hu]
    | false => simp only [hu, hcl]; split_ifs <;> simp

/-- **An error about the token is what is reported of the token found.** -/
theorem enroll_token_error (he : e.isToken = true) : (enrollAtomic hashToken db c).1 = .error e ↔
      Reaches db c ∧ reported c.now (db.tokens.get (hashToken c.token)) = some e := by
  have hfailed : ∀ text, EnrollError.failed text ≠ e := by
    intro text h
    rw [← h] at he
    cases he
  unfold enrollAtomic enrollBody Reaches
  cases href : refusal c db with
  | some e' =>
    have hne : e' ≠ e := by
      intro h
      rw [← h, refusal_isToken href] at he
      cases he
    simp [tx, hne]
  | none =>
    cases c.faults.consume with
    | true => simp [tx, hfailed]
    | false =>
      cases c.faults.rowsAffected with
      | true => simp [tx, hfailed]
      | false =>
        by_cases hrows : rowsConsumed c.now (hashToken c.token) db.tokens = 1
        · have hrep : c.faults.classify = false → reported c.now (db.tokens.get (hashToken c.token)) ≠ some e :=
            fun hcl h => ((reported_iff hcl).mp h).1 hrows
          cases insertAgent c.faults c.agent db.agents <;> cases c.faults.commit <;>
            simpa [tx, hrows, hfailed] using hrep
        · cases hcl : c.faults.classify with
          | true => simp [tx, hrows, classifyTokenFailure, hcl, hfailed]
          | false => simp [tx, hrows, reported_iff hcl]

/-! ## 4. Errors and the truth -/

/-- Not found exactly for unknown tokens, consumed exactly for used ones, expired exactly for unused ones whose expiry
    is not after the clock; the cap is checked first. -/
structure Truthful (hashToken : String → String) (db : AgentDB) (c : EnrollCall) : Prop where
  notFound : (enrollAtomic hashToken db c).1 = .error .tokenNotFound ↔
    Reaches db c ∧ db.tokens.get (hashToken c.token) = none
  consumed : (enrollAtomic hashToken db c).1 = .error .tokenAlreadyConsumed ↔
    Reaches db c ∧ ∃ t, db.tokens.get (hashToken c.token) = some t ∧ t.consumedAt ≠ none
  expired : (enrollAtomic hashToken db c).1 = .error .tokenExpired ↔
    Reaches db c ∧ ∃ t, db.tokens.get (hashToken c.token) = some t ∧ t.consumedAt = none ∧ t.expiresAt ≤ c.now

/-- The call meets an unused token in the very second it expires. -/
def AtExpiry (hashToken : String → String) (db : AgentDB) (c : EnrollCall) : Prop :=
  Reaches db c ∧ ∃ t, db.tokens.get (hashToken c.token) = some t ∧ t.consumedAt = none ∧ t.expiresAt = c.now

/-- **The errors tell the truth unless the token expires in this very second**: then it is reported as unknown. -/
theorem truthful_iff : Truthful hashToken db c ↔ ¬ AtExpiry hashToken db c := by
  constructor
  · intro h hat
    obtain ⟨hreach, t, ht, hunused, hnow⟩ := hat
    -- such a token is refused, and reported as unknown
    have hrep : reported c.now (db.tokens.get (hashToken c.token)) = some .tokenNotFound := by
      simp [reported, ht, usable, hunused, hnow]
    have hnone := (h.notFound.mp ((enroll_token_error rfl).mpr ⟨hreach, hrep⟩)).2
    rw [ht] at hnone
    cases hnone
  · intro hat
    refine ⟨?_, ?_, ?_⟩
    all_goals
      rw [enroll_token_error rfl]
      refine and_congr_right fun hreach => ?_
      cases ht : db.tokens.get (hashToken c.token) with
      | none => simp [reported]
      | some t =>
        cases hused : t.consumedAt with
        | some => simp [reported, usable, hused]
        | none =>
          rcases Int.lt_trichotomy t.expiresAt c.now with hlt | heq | hgt
          · simp [reported, usable, hused, hlt, Int.le_of_lt hlt]
          · exact absurd ⟨hreach, t, ht, hused, heq⟩ hat
          · simp [reported, usable, hused, hgt]

end Call

/-! ## 5. Runs -/

variable {c : EnrollCall}

/-- The writes of the agent store that touch agents or tokens. -/
inductive Op where
  | enroll (c : EnrollCall)
  | insertToken (tokenID tokenHash : String) (expiresAt : Int)
  | deleteToken (tokenID : String)
  | gcExpiredTokens (cutoff : Int)
  | revoke (agentID : String)
  | delete (agentID : String)

def insertToken (tokenID tokenHash : String) (expiresAt : Int) (tokens : Table EnrollmentToken.tokenHash) :
    Table EnrollmentToken.tokenHash :=
  if tokens.rows.any fun t => t.tokenID == tokenID then tokens
  else (tokens.insert ⟨tokenID, tokenHash, expiresAt, none, none⟩).getD tokens

def step (hashToken : String → String) (db : AgentDB) : Op → AgentDB
  | .enroll c => (enrollAtomic hashToken db c).2
  | .insertToken tokenID tokenHash expiresAt => { db with tokens := insertToken tokenID tokenHash expiresAt db.tokens }
  | .deleteToken tokenID =>
    { db with tokens := db.tokens.delete fun t => t.tokenID == tokenID && decide (t.consumedAt = none) }
  | .gcExpiredTokens cutoff =>
    { db with tokens := db.tokens.delete fun t => decide (t.expiresAt < cutoff) && decide (t.consumedAt = none) }
  | .revoke agentID =>
    { db with
      agents := db.agents.update (fun a => a.agentID == agentID) (fun a => { a with status := .revoked }) fun _ => rfl }
  | .delete agentID => { db with agents := db.agents.delete fun a => a.agentID == agentID }

theorem step_enroll {hashToken : String → String} {db : AgentDB} :
    step hashToken db (.enroll c) = (enrollAtomic hashToken db c).2 := rfl

/-- The hashes of the tokens that successful calls consumed, in their order. -/
def consumptions (hashToken : String → String) (db : AgentDB) : List Op → List String
  | [] => []
  | .enroll c :: ops =>
    match (enrollAtomic hashToken db c).1 with
    | .ok _ => hashToken c.token :: consumptions hashToken (step hashToken db (.enroll c)) ops
    | .error _ => consumptions hashToken (step hashToken db (.enroll c)) ops
  | op :: ops => consumptions hashToken (step hashToken db op) ops

section Runs

variable {hashToken : String → String} {db : AgentDB}

/-- **One call keeps the cap it is passed.** -/
theorem active_enroll_le (hlim : 0 ≤ c.limit) (h : (enrollAtomic hashToken db c).1 = .ok ()) :
    (activeAgents (enrollAtomic hashToken db c).2 : Int) ≤ c.limit := by
  obtain ⟨href, _, agents, hins, heq⟩ := enroll_ok h
  have hroom : (activeAgents db : Int) < c.limit := ((refusal_eq_none.mp href).2 hlim).2
  have hcount : activeAgents (enrollAtomic hashToken db c).2 ≤ activeAgents db + 1 := by
    rw [heq]
    unfold activeAgents
    rw [Table.count_insert hins]
    split <;> omega
  omega

/-- A write adds no active agent, or it is a call that had room. -/
theorem active_step_le {n : Int} {op : Op} (hlim : ∀ c, op = .enroll c → 0 ≤ c.limit ∧ c.limit ≤ n)
    (hn : (activeAgents db : Int) ≤ n) : (activeAgents (step hashToken db op) : Int) ≤ n := by
  cases op with
  | enroll c =>
    obtain ⟨h0, hle⟩ := hlim c rfl
    cases hres : (enrollAtomic hashToken db c).1 with
    | ok => exact Int.le_trans (active_enroll_le h0 hres) hle
    | error => rwa [step_enroll, enroll_error hres]
  | insertToken | deleteToken | gcExpiredTokens => exact hn
  | revoke agentID =>
    have hle : activeAgents (step hashToken db (.revoke agentID)) ≤ activeAgents db :=
      db.agents.count_update_le _ (fun a => { a with status := .revoked }) (fun _ => rfl) fun a _ h => by
        simp [Agent.isActiveRemote] at h
    omega
  | delete agentID =>
    have hle : activeAgents (step hashToken db (.delete agentID)) ≤ activeAgents db :=
      List.Sublist.countP_le List.filter_sublist
    omega

/-- The token of the hash has been consumed. -/
def Consumed (db : AgentDB) (hash : String) : Prop := ∃ t ∈ db.tokens, t.tokenHash = hash ∧ t.consumedAt ≠ none

/-- **A consumed token stays consumed**: no write deletes it or makes it usable again. -/
theorem consumed_step (hashToken : String → String) (op : Op) (h : Consumed db hash) :
    Consumed (step hashToken db op) hash := by
  cases op with
  | enroll c =>
    cases hres : (enrollAtomic hashToken db c).1 with
    | ok =>
      obtain ⟨_, _, agents, _, heq⟩ := enroll_ok hres
      rw [step_enroll, heq]
      obtain ⟨t, ht, rfl, hused⟩ := h
      refine ⟨t, mem_consumeToken.mpr ⟨t, ht, ?_⟩, rfl, hused⟩
      simp [usable, hused]
    | error => rwa [step_enroll, enroll_error hres]
  | insertToken tokenID tokenHash expiresAt =>
    obtain ⟨t, ht, hash_eq, hused⟩ := h
    refine ⟨t, ?_, hash_eq, hused⟩
    unfold step insertToken
    dsimp only
    split
    · exact ht
    · cases hi : db.tokens.insert ⟨tokenID, tokenHash, expiresAt, none, none⟩ with
      | none => exact ht
      | some => exact (Table.mem_insert hi).mpr (Or.inl ht)
  | deleteToken | gcExpiredTokens =>
    obtain ⟨t, ht, hash_eq, hused⟩ := h
    exact ⟨t, Table.mem_delete.mpr ⟨ht, by simp [hused]⟩, hash_eq, hused⟩
  | revoke | delete => exact h

/-- A successful call consumes its token, and the token was usable before. -/
theorem consumed_enroll (h : (enrollAtomic hashToken db c).1 = .ok ()) :
    ¬ Consumed db (hashToken c.token) ∧ Consumed (enrollAtomic hashToken db c).2 (hashToken c.token) := by
  obtain ⟨_, hrows, agents, _, heq⟩ := enroll_ok h
  obtain ⟨t, hget, hunused, hexp⟩ := rowsConsumed_eq_one.mp hrows
  obtain ⟨ht, hash_eq⟩ := Table.get_eq_some.mp hget
  constructor
  · intro hc
    obtain ⟨t', ht', hash_eq', hused⟩ := hc
    rw [db.tokens.eq_of_key ht' ht (hash_eq'.trans hash_eq.symm)] at hused
    exact hused hunused
  · rw [heq]
    refine ⟨_, mem_consumeToken.mpr ⟨t, ht, rfl⟩, ?_, ?_⟩
    all_goals
      rw [if_pos (by simp [hash_eq, usable, hunused, hexp])]
    · exact hash_eq
    · simp

/-- No later call consumes it again. -/
theorem not_mem_consumptions (ops : List Op) (h : Consumed db hash) : hash ∉ consumptions hashToken db ops := by
  induction ops generalizing db with
  | nil => exact List.not_mem_nil
  | cons op _ ih =>
    have hrest := ih (consumed_step hashToken op h)
    cases op with
    | enroll c =>
      unfold consumptions
      cases hres : (enrollAtomic hashToken db c).1 with
      | error => exact hrest
      | ok =>
        have hne : hash ≠ hashToken c.token := fun he => (consumed_enroll hres).1 (he ▸ h)
        exact List.not_mem_cons_of_ne_of_not_mem hne hrest
    | insertToken | deleteToken | gcExpiredTokens | revoke | delete => exact hrest

theorem consumptions_nodup (ops : List Op) : (consumptions hashToken db ops).Nodup := by
  induction ops generalizing db with
  | nil => exact List.nodup_nil
  | cons op ops ih =>
    cases op with
    | enroll c =>
      unfold consumptions
      cases hres : (enrollAtomic hashToken db c).1 with
      | error => exact ih
      | ok => exact List.nodup_cons.mpr ⟨not_mem_consumptions ops (consumed_enroll hres).2, ih⟩
    | insertToken | deleteToken | gcExpiredTokens | revoke | delete => exact ih

/-- What is asked of a run of enrollments. -/
structure Sound (hashToken : String → String) (db : AgentDB) (ops : List Op) : Prop where
  /-- Under caps of at most `n` there are never more than `n` active agents. -/
  cap : ∀ n : Int, (∀ c, .enroll c ∈ ops → 0 ≤ c.limit ∧ c.limit ≤ n) →
    (activeAgents db : Int) ≤ n → ∀ k, (activeAgents ((ops.take k).foldl (step hashToken) db) : Int) ≤ n
  /-- A call that succeeds leaves at most as many as the cap it was passed. -/
  capOfCall : Passes.Along (step hashToken) (fun db op => ∀ c, op = .enroll c → 0 ≤ c.limit →
    (enrollAtomic hashToken db c).1 = .ok () → (activeAgents (step hashToken db op) : Int) ≤ c.limit) db ops
  once : (consumptions hashToken db ops).Nodup
  unchanged : Passes.Along (step hashToken) (fun db op => ∀ c e, op = .enroll c →
    (enrollAtomic hashToken db c).1 = .error e → step hashToken db op = db) db ops
  truth : Passes.Along (step hashToken) (fun db op => ∀ c, op = .enroll c → Truthful hashToken db c) db ops

/-- **Enrollment is capped, consumes each token once and fails without a trace in every run; its errors tell the truth
    in the runs in which no call meets its token in the very second the token expires.** -/
theorem enrollment_iff (hashToken : String → String) (db : AgentDB) (ops : List Op) : Sound hashToken db ops ↔
    Passes.Along (step hashToken) (fun db op => ∀ c, op = .enroll c → ¬ AtExpiry hashToken db c) db ops := by
  have htruth : Passes.Along (step hashToken)
    (fun db op => ∀ c, op = .enroll c → Truthful hashToken db c) db ops ↔
      Passes.Along (step hashToken) (fun db op => ∀ c, op = .enroll c → ¬ AtExpiry hashToken db c) db ops :=
    Passes.along_congr fun _ _ _ => forall₂_congr fun _ _ => truthful_iff
  refine ⟨fun h => htruth.mp h.truth, fun h => ⟨?_, ?_, consumptions_nodup ops, ?_, htruth.mpr h⟩⟩
  · intro n hlim hn k
    exact Passes.prefixes_inv (I := fun db => (activeAgents db : Int) ≤ n) Passes.along_true
      (fun db op hop _ hle => active_step_le (fun c hc => hlim c (hc ▸ hop)) hle) hn k
  · refine Passes.along_iff.mpr fun k op _ c hop hlim hok => ?_
    subst hop
    exact active_enroll_le hlim hok
  · refine Passes.along_iff.mpr fun k op _ c e hop herr => ?_
    subst hop
    exact enroll_error herr

/-- One unused token, and the sentinel as the only agent. -/
def tokenDB (expiresAt : Int) : AgentDB :=
  ⟨⟨[⟨localAgent, "local", .active⟩], List.nodup_singleton _⟩,
    ⟨[⟨"id", "hash", expiresAt, none, none⟩], List.nodup_singleton _⟩⟩

/-- A call at second 1000, without a cap. -/
def tokenCall : EnrollCall := ⟨-1, "hash", ⟨"agent-1", "host", .active⟩, 1000, Faults.none⟩

/-- A token that expires in second 1000 is reported as unknown in that second. -/
theorem enroll_at_expiry : (enrollAtomic id (tokenDB 1000) tokenCall).1 = .error .tokenNotFound ∧
    (tokenDB 1000).tokens.get "hash" = some ⟨"id", "hash", 1000, none, none⟩ ∧
    ¬ Sound id (tokenDB 1000) [.enroll tokenCall] := by
  have herr : (enrollAtomic id (tokenDB 1000) tokenCall).1 = .error .tokenNotFound := by decide
  have hget : (tokenDB 1000).tokens.get "hash" = some ⟨"id", "hash", 1000, none, none⟩ := by decide
  refine ⟨herr, hget, fun h => ?_⟩
  have hnone := ((h.truth.1 tokenCall rfl).notFound.mp herr).2
  cases hnone

end Runs

end Maintenant.Enrollment
