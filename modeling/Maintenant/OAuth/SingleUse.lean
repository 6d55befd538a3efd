/-
  File:      Maintenant/OAuth/SingleUse.lean
  Subject:   A CODE OR A REFRESH TOKEN GIVES ONE PAIR, and a code only to whom it was issued for. Requests and cleanups
             interleave statement by statement.

  * `sound_of_fresh` -- each row is used at most once;
  * `pairs_le_uses` -- no more pairs are answered than rows were used (`Quota.size_le_earned`);
  * `exchange_checked` -- the request was checked against the row of its code (`Pool.good_of_reach`);
  * `issuance_single_use_and_bound` -- the three together.
-/
import Maintenant.OAuth.Calls
import Maintenant.Lib.Quota

namespace Maintenant.OAuth

open GoTime Prog

variable {pk : Packages}

/-! ## 1. The tables and what was stored -/

variable {c row : MCPAuthCode} {codes : Table MCPAuthCode.codeHash} {tokens : Table MCPOAuthToken.tokenHash}
    {w w' : World} {codeHash tokenHash : String} {now : Int} {i : Request} {p : Threads} {op : Op} {req : TokenRequest}

/-- The row as it was stored, but for its flag. -/
def MCPAuthCode.SameAs (c row : MCPAuthCode) : Prop := { row with used := c.used } = c

def MCPOAuthToken.SameAs (t row : MCPOAuthToken) : Prop := { row with revoked := t.revoked } = t

/-- Rows come from what was stored, and a code was used while its user's clock was before its expiry. -/
structure Recorded (w : World) : Prop where
  codes : ∀ row ∈ w.codes, ∃ c ∈ w.storedCodes, c.SameAs row
  tokens : ∀ row ∈ w.tokens, ∃ t ∈ w.storedTokens, t.SameAs row
  used : ∀ u ∈ w.usedCodes, (∃ c ∈ w.storedCodes, c.SameAs u.1) ∧ u.2 < u.1.expiresAt

theorem mem_markUsed {q : MCPAuthCode → Bool} :
    row ∈ codes.update q MCPAuthCode.markUsed (fun _ => rfl) ↔ ∃ r ∈ codes,
    row = if q r then r.markUsed else r :=
  Table.mem_update

theorem mem_revoke {q : MCPOAuthToken → Bool} {row : MCPOAuthToken} :
    row ∈ tokens.update q MCPOAuthToken.revoke (fun _ => rfl) ↔ ∃ r ∈ tokens,
    row = if q r then r.revoke else r :=
  Table.mem_update

theorem usableCode_eq_some {code : MCPAuthCode} (h : w.usableCode codeHash now = some code) :
    w.codes.get codeHash = some code ∧ code.used = false ∧ now < code.expiresAt := by
  simpa [World.usableCode, MCPAuthCode.usable, Option.filter_eq_some_iff] using h

theorem usableToken_eq_some {token : MCPOAuthToken} (h : w.usableToken tokenHash = some token) :
    w.tokens.get tokenHash = some token ∧ token.tokenType = .refresh ∧ token.revoked = false := by
  simpa [World.usableToken, MCPOAuthToken.usable, Option.filter_eq_some_iff] using h

theorem recorded_step (hstep : Stepped w i w') (h : Recorded w) : Recorded w' := by
  cases hstep with
  | same => exact h
  | codeStored _ _ hi =>
    refine ⟨fun row hrow => ?_, h.tokens, fun u hu => ?_⟩
    · rcases (Table.mem_insert hi).mp hrow with hrow | rfl
      · obtain ⟨c, hc, hsame⟩ := h.codes row hrow
        exact ⟨c, List.mem_append_left _ hc, hsame⟩
      · exact ⟨row, List.mem_append_right _ (List.mem_singleton_self row), rfl⟩
    · obtain ⟨⟨c, hc, hsame⟩, hlt⟩ := h.used u hu
      exact ⟨⟨c, List.mem_append_left _ hc, hsame⟩, hlt⟩
  | codeUsed _ _ code hu =>
    obtain ⟨hget, _, hlt⟩ := usableCode_eq_some hu
    refine ⟨fun row hrow => ?_, h.tokens, fun u hmem => ?_⟩
    · obtain ⟨r, hr, rfl⟩ := mem_markUsed.mp hrow
      obtain ⟨c, hc, hsame⟩ := h.codes r hr
      exact ⟨c, hc, by split <;> exact hsame⟩
    · rcases List.mem_append.mp hmem with hmem | hmem
      · exact h.used u hmem
      · rw [List.mem_singleton.mp hmem]
        exact ⟨h.codes code (Table.get_eq_some.mp hget).1, hlt⟩
  | tokenStored _ _ hi =>
    refine ⟨h.codes, fun row hrow => ?_, h.used⟩
    rcases (Table.mem_insert hi).mp hrow with hrow | rfl
    · obtain ⟨t, ht, hsame⟩ := h.tokens row hrow
      exact ⟨t, List.mem_append_left _ ht, hsame⟩
    · exact ⟨row, List.mem_append_right _ (List.mem_singleton_self row), rfl⟩
  | tokenUsed | familyRevoked =>
    refine ⟨h.codes, fun row hrow => ?_, h.used⟩
    obtain ⟨r, hr, rfl⟩ := mem_revoke.mp hrow
    obtain ⟨t, ht, hsame⟩ := h.tokens r hr
    exact ⟨t, ht, by split <;> exact hsame⟩
  | codesDeleted => exact ⟨fun row hrow => h.codes row (Table.mem_delete.mp hrow).1, h.tokens, h.used⟩
  | tokensDeleted => exact ⟨h.codes, fun row hrow => h.tokens row (Table.mem_delete.mp hrow).1, h.used⟩
  | answered => exact ⟨h.codes, h.tokens, h.used⟩

theorem recorded_begin (codes : Table MCPAuthCode.codeHash) (tokens : Table MCPOAuthToken.tokenHash) :
    Recorded (Threads.begin codes tokens).world :=
  ⟨fun row hrow => ⟨row, hrow, rfl⟩, fun row hrow => ⟨row, hrow, rfl⟩, List.forall_mem_nil _⟩

/-! ## 2. Each row is used once -/

def World.usedCodeKeys (w : World) : List String := w.usedCodes.map fun u => u.1.codeHash

def World.usedTokenKeys (w : World) : List String := w.usedTokens.map MCPOAuthToken.tokenHash

structure Spent (w : World) : Prop where
  codes : Keys.Spending w.codes MCPAuthCode.used w.codeKeys w.usedCodeKeys
  tokens : Keys.Spending w.tokens MCPOAuthToken.revoked w.tokenKeys w.usedTokenKeys

theorem spent_step (hstep : Stepped w i w') (h : Spent w)
    (hcode : ∀ code, i = .storeCode code → code.codeHash ∉ w.codeKeys)
    (htoken : ∀ token, i = .storeToken token → token.tokenHash ∉ w.tokenKeys) : Spent w' := by
  cases hstep with
  | same => exact h
  | codeStored code _ hi =>
    refine ⟨?_, h.tokens⟩
    rw [World.codeKeys, List.map_append]
    exact h.codes.insert hi (hcode code rfl)
  | codeUsed _ _ _ hu =>
    obtain ⟨hget, hused, _⟩ := usableCode_eq_some hu
    refine ⟨?_, h.tokens⟩
    rw [World.usedCodeKeys, List.map_append, List.map_singleton, (Table.get_eq_some.mp hget).2]
    exact h.codes.use MCPAuthCode.markUsed (fun _ => rfl) hget hused fun _ => rfl
  | tokenStored token _ hi =>
    refine ⟨h.codes, ?_⟩
    rw [World.tokenKeys, List.map_append]
    exact h.tokens.insert hi (htoken token rfl)
  | tokenUsed _ _ hu =>
    obtain ⟨hget, _, hrevoked⟩ := usableToken_eq_some hu
    refine ⟨h.codes, ?_⟩
    rw [World.usedTokenKeys, List.map_append, List.map_singleton, (Table.get_eq_some.mp hget).2]
    exact h.tokens.use MCPOAuthToken.revoke (fun _ => rfl) hget hrevoked fun _ => rfl
  | familyRevoked => exact ⟨h.codes, h.tokens.update MCPOAuthToken.revoke (fun _ => rfl) fun _ _ => rfl⟩
  | codesDeleted => exact ⟨h.codes.delete, h.tokens⟩
  | tokensDeleted => exact ⟨h.codes, h.tokens.delete⟩
  | answered => exact ⟨h.codes, h.tokens⟩

theorem spent_begin (codes : Table MCPAuthCode.codeHash) (tokens : Table MCPOAuthToken.tokenHash) :
    Spent (Threads.begin codes tokens).world := by
  refine ⟨⟨fun row hrow => List.mem_map_of_mem hrow, List.nodup_nil, fun _ hk => ?_, fun _ _ hk => ?_⟩,
    ⟨fun row hrow => List.mem_map_of_mem hrow, List.nodup_nil, fun _ hk => ?_, fun _ _ hk => ?_⟩⟩ <;>
    exact absurd hk List.not_mem_nil

/-- What holds in every state of a run in which random values do not repeat. -/
structure Sound (pk : Packages) (p : Threads) : Prop where
  codes : Keys.Minted Request.storesCode (Op.owns pk) World.codeKeys p
  tokens : Keys.Minted Request.storesToken (Op.owns pk) World.tokenKeys p
  recorded : Recorded p.world
  spent : Spent p.world

variable (s : OAuthServer pk)

theorem sound_start (hinj : pk.Injective) (h : Sound pk p) (hnew : op.New pk p) :
    Sound pk ⟨p.world, p.threads ++ [(op, (machine s).body op)]⟩ :=
  ⟨Keys.minted_start h.codes (codes_minting s) (codes_unseen s hinj hnew),
    Keys.minted_start h.tokens (tokens_minting s) (tokens_unseen s hinj hnew), h.recorded, h.spent⟩

theorem sound_run {n : Nat} {x : Choice} {k : Answer i → Job Unit} (h : Sound pk p)
    (hn : p.threads[n]? = some (op, .call i k)) :
    Sound pk (Pool.after (machine s) p n x op i k) := by
  have hmem := List.mem_of_getElem? hn
  refine ⟨Keys.minted_run h.codes (codes_minting s) hn, Keys.minted_run h.tokens (tokens_minting s) hn,
    recorded_step (stepped x _ _) h.recorded,
    spent_step (stepped x _ _) h.spent (fun code hi => ?_) fun token hi => ?_⟩
  · subst hi
    exact h.codes.ahead _ hmem _ (Or.inl ⟨code, rfl, rfl⟩)
  · subst hi
    exact h.tokens.ahead _ hmem _ (Or.inl ⟨token, rfl, rfl⟩)

/-- **In every state that is reached, rows were stored once and used at most once.** -/
theorem sound_of_fresh (hinj : pk.Injective)
    (h : Runs.Reach (step s) (Fresh pk) (Threads.begin codes tokens) p) : Sound pk p := by
  have hcodes : (Threads.begin codes tokens).world.codeKeys.Nodup := codes.nodup
  have htokens : (Threads.begin codes tokens).world.tokenKeys.Nodup := tokens.nodup
  exact Pool.inv ⟨Keys.minted_begin hcodes, Keys.minted_begin htokens, recorded_begin codes tokens,
      spent_begin codes tokens⟩
    (fun _ _ hp hnew => sound_start s hinj hp hnew) (fun _ _ _ _ _ _ hp _ hn => sound_run s hp hn) h

/-! ## 3. A pair for each use -/

/-- What a pair is issued for. -/
inductive Grant where
  | code (raw : String)
  | refresh (raw : String)
deriving DecidableEq, Repr

def TokenRequest.presents (req : TokenRequest) : Grant → Bool
  | .code raw => decide (req.grantType = "authorization_code") && decide (req.code = raw)
  | .refresh raw => decide (req.grantType = "refresh_token") && decide (req.refreshToken = raw)

/-- The `UPDATE` that consumes it. -/
def Grant.consumes (pk : Packages) : Grant → Request → Prop
  | .code raw, i => ∃ now, i = .useCode (hashToken pk raw) now
  | .refresh raw, i => i = .useRefreshToken (hashToken pk raw)

/-- How often it was used. -/
def World.uses (pk : Packages) (w : World) : Grant → Nat
  | .code raw => w.usedCodeKeys.count (hashToken pk raw)
  | .refresh raw => w.usedTokenKeys.count (hashToken pk raw)

/-- A pair was answered for it. -/
def pairFor (g : Grant) (a : TokenRequest × TokenReply) : Bool := a.1.presents g && a.2.isPair

def World.pairs (w : World) (g : Grant) : Nat := w.answered.countP (pairFor g)

/-- One row was changed. -/
def oneRow : (i : Request) → Answer i → Prop
  | .useCode .., b => b = .ok 1
  | .useRefreshToken _, b => b = .ok 1
  | _, _ => False

/-- Consuming is the count, answering a pair the addition. -/
def calls (pk : Packages) (g : Grant) : Quota.Calls Request Answer where
  counts := g.consumes pk
  adds i := ∃ req reply, i = .answerToken req reply ∧ pairFor g (req, reply) = true
  room := oneRow

section Handler

variable {x : Choice}

theorem report_eq_ok {α : Type} {a b : α} {o : Outcome} (h : o.report a = .ok b) : o = .ok ∧ a = b := by
  cases o with
  | ok => exact ⟨rfl, Except.ok.inj h⟩
  | lost | failed => cases h

/-- One row changed: it was there and usable. -/
theorem report_one {α : Type} {row : Option α} {o : Outcome} (h : o.report row.toList.length = .ok 1) :
    o = .ok ∧ ∃ r, row = some r := by
  obtain ⟨hok, hlen⟩ := report_eq_ok h
  cases row with
  | none => cases hlen
  | some r => exact ⟨hok, r, rfl⟩

/-- Then it is used now. -/
theorem useCode_one (h : (handle x w (.useCode codeHash now)).1 = .ok 1) :
    (handle x w (.useCode codeHash now)).2.usedCodeKeys = w.usedCodeKeys ++ [codeHash] := by
  obtain ⟨hok, code, hcode⟩ := report_one h
  have hkey : code.codeHash = codeHash := (Table.get_eq_some.mp (usableCode_eq_some hcode).1).2
  simp [handle, World.after, hok, Outcome.executed, World.execute, hcode, World.usedCodeKeys, hkey]

theorem useRefreshToken_one (h : (handle x w (.useRefreshToken tokenHash)).1 = .ok 1) :
    (handle x w (.useRefreshToken tokenHash)).2.usedTokenKeys = w.usedTokenKeys ++ [tokenHash] := by
  obtain ⟨hok, token, htoken⟩ := report_one h
  have hkey : token.tokenHash = tokenHash := (Table.get_eq_some.mp (usableToken_eq_some htoken).1).2
  simp [handle, World.after, hok, Outcome.executed, World.execute, htoken, World.usedTokenKeys, hkey]

theorem uses_one {g : Grant} (hi : g.consumes pk i) (h : oneRow i (handle x w i).1) :
    w.uses pk g + 1 ≤ (handle x w i).2.uses pk g := by
  cases g with
  | code =>
    obtain ⟨now, rfl⟩ := hi
    simp [World.uses, useCode_one h]
  | refresh =>
    subst hi
    simp [World.uses, useRefreshToken_one h]

theorem uses_le (hstep : Stepped w i w') (g : Grant) : w.uses pk g ≤ w'.uses pk g := by
  cases hstep with
  | codeUsed | tokenUsed => cases g <;> simp [World.uses, World.usedCodeKeys, World.usedTokenKeys]
  | _ => exact Nat.le_refl _

/-- Only the answers of the token endpoint count. -/
theorem pairs_step (hstep : Stepped w i w') (g : Grant) : w'.pairs g = w.pairs g ∨
      ∃ req reply, i = .answerToken req reply ∧ w'.pairs g = w.pairs g + if pairFor g (req, reply) then 1
      else 0 := by
  cases hstep with
  | answered req reply =>
    refine Or.inr ⟨req, reply, rfl, ?_⟩
    unfold World.pairs
    rw [List.countP_append, List.countP_singleton]
  | _ => exact Or.inl rfl

end Handler

/-! ## 4. The programs consume first -/

/-- Neither consumes nor answers a pair. -/
def Request.plain : Request → Bool
  | .useCode .. | .useRefreshToken _ => false
  | .answerToken _ reply => !reply.isPair
  | _ => true

theorem calm_of_plain {g : Grant} (h : i.plain = true) : Quota.Calm (calls pk g) i := by
  refine ⟨fun hcount => ?_, fun hadd => ?_⟩
  · cases g with
    | code =>
      obtain ⟨now, rfl⟩ := hcount
      cases h
    | refresh =>
      rw [show i = _ from hcount] at h
      cases h
  · obtain ⟨req, reply, rfl, hpair⟩ := hadd
    have hreply : reply.isPair = true := (Bool.and_eq_true_iff.mp hpair).2
    have hplain : (!reply.isPair) = true := h
    rw [hreply] at hplain
    cases hplain

section CountsFirst

variable (s : OAuthServer pk) {req : TokenRequest} {d : Draws} {g : Grant}

abbrev Plain {α : Type} (p : Job α) : Prop := p.Always fun i => i.plain = true

theorem plain_tokenError {status : Nat} {errCode desc : String} : Plain (tokenError req status errCode desc) :=
  ⟨rfl, fun _ => trivial⟩

variable (hg : req.presents g = true)

include hg

/-- A pair is answered at most once, and last. -/
theorem issueTokenPair_once {clientID scope familyID : String} :
    (issueTokenPair s req clientID scope familyID d).Once (fun i => i.plain = true) (calls pk g).adds := by
  refine once_calm ⟨rfl, fun _ => trivial⟩ fun now => ?_
  refine once_calm (p := ask (.storeToken _)) ⟨rfl, fun _ => trivial⟩ fun r => ?_
  cases r with
  | error => exact once_of_always plain_tokenError
  | ok _ =>
    refine once_calm (p := ask (.storeToken _)) ⟨rfl, fun _ => trivial⟩ fun r => ?_
    cases r with
    | error => exact once_of_always plain_tokenError
    | ok _ => exact Or.inr ⟨⟨req, _, rfl, by rw [pairFor, hg]; rfl⟩, fun _ => trivial⟩

theorem exchange_once {authCode : MCPAuthCode} :
    (exchange s req d authCode).Once (fun i => i.plain = true) (calls pk g).adds := by
  rcases exchange_cases s req d authCode with ⟨_, _, _, h⟩ | ⟨_, _, h⟩ <;> rw [h]
  · exact once_of_always plain_tokenError
  · exact issueTokenPair_once s hg

theorem rotate_once {token : MCPOAuthToken} :
    (rotate s req d token).Once (fun i => i.plain = true) (calls pk g).adds := by
  refine once_calm ⟨rfl, fun _ => trivial⟩ fun now => ?_
  split
  · exact once_of_always plain_tokenError
  · exact issueTokenPair_once s hg

omit hg

theorem counts_apart (j : Request) (hcount : (calls pk g).counts j) : ¬ (calls pk g).adds j := by
  intro hadd
  obtain ⟨_, _, rfl, _⟩ := hadd
  cases g with
  | code =>
    obtain ⟨_, h⟩ := hcount
    cases h
  | refresh => cases hcount

theorem plain_diagnoseCodeFailure :
    Plain (diagnoseCodeFailure codeHash now >>= fun e => tokenError req 400 "invalid_grant" e.text) :=
  always_bind (always_diagnoseCodeFailure rfl) fun _ => plain_tokenError

theorem plain_diagnoseTokenFailure : Plain (diagnoseTokenFailure tokenHash >>= refuse req) :=
  always_bind (always_diagnoseTokenFailure rfl) fun _ => always_refuse (fun _ => rfl) fun _ _ _ => rfl

theorem handleAuthorizationCode_countsFirst {raw : String} (hg : req.presents (.code raw) = true) :
    Quota.CountsFirst (calls pk (.code raw)) (handleAuthorizationCode s req d) := by
  have hraw : req.code = raw := by simpa using (Bool.and_eq_true_iff.mp hg).2
  have hcalm : ∀ i : Request, i.plain = true → Quota.Calm (calls pk (.code raw)) i := fun _ => calm_of_plain
  unfold handleAuthorizationCode consumeCode
  split
  · exact Quota.countsFirst_of_no_add ⟨(hcalm _ rfl).2, fun _ => trivial⟩
  · rw [Prog.bind_assoc]
    refine unburdened_ask (fun _ => (hcalm _ rfl).2) fun now => ?_
    rw [Prog.bind_assoc]
    have hcount : (calls pk (.code raw)).counts (.useCode (hashToken pk req.code) (unix now)) :=
      ⟨unix now, by rw [hraw]⟩
    refine Quota.countsFirst_ask hcount counts_apart fun r => ?_
    cases r with
    | error => exact Or.inl (Always.mono hcalm plain_tokenError)
    | ok =>
      dsimp only
      split
      · rw [Prog.bind_assoc]
        exact Or.inl (Always.mono hcalm plain_diagnoseCodeFailure)
      · rename_i hone
        refine Or.inr ⟨not_not.mp hone ▸ rfl, Once.mono hcalm (fun _ => id) ?_⟩
        refine once_calm (always_readCode rfl) fun r => ?_
        cases r with
        | error => exact once_of_always plain_tokenError
        | ok => exact exchange_once s hg

theorem handleRefreshToken_countsFirst {raw : String} (hg : req.presents (.refresh raw) = true) :
    Quota.CountsFirst (calls pk (.refresh raw)) (handleRefreshToken s req d) := by
  have hraw : req.refreshToken = raw := by simpa using (Bool.and_eq_true_iff.mp hg).2
  have hcalm : ∀ i : Request, i.plain = true → Quota.Calm (calls pk (.refresh raw)) i := fun _ => calm_of_plain
  unfold handleRefreshToken consumeRefreshToken
  split
  · exact Quota.countsFirst_of_no_add ⟨(hcalm _ rfl).2, fun _ => trivial⟩
  · rw [Prog.bind_assoc]
    have hcount : (calls pk (.refresh raw)).counts (.useRefreshToken (hashToken pk req.refreshToken)) := by
      rw [hraw]
      exact rfl
    have hrefuse : ∀ e, Plain (refuse req e) := fun e => always_refuse (fun _ => rfl) fun _ _ _ => rfl
    refine Quota.countsFirst_ask hcount counts_apart fun r => ?_
    cases r with
    | error e => exact Or.inl (Always.mono hcalm (hrefuse (.failed ("consume mcp oauth refresh token: " ++ e))))
    | ok =>
      dsimp only
      split
      · rw [Prog.bind_assoc]
        exact Or.inl (Always.mono hcalm plain_diagnoseTokenFailure)
      · rename_i hone
        refine Or.inr ⟨not_not.mp hone ▸ rfl, Once.mono hcalm (fun _ => id) ?_⟩
        rw [Prog.bind_assoc]
        refine once_calm (always_readToken rfl) fun r => ?_
        cases r with
        | error e => exact once_of_always (hrefuse (.ofError e))
        | ok => exact rotate_once s hg

theorem handleToken_countsFirst (hg : req.presents g = true) :
    Quota.CountsFirst (calls pk g) (handleToken s req d) := by
  have hne : ("refresh_token" : String) ≠ "authorization_code" := by decide
  rcases handleToken_cases s req d with ⟨_, _, _, h⟩ | ⟨hgrant, h⟩ | ⟨hgrant, h⟩ <;> rw [h]
  · exact Quota.countsFirst_of_no_add ⟨(calm_of_plain rfl).2, fun _ => trivial⟩
  · cases g with
    | code => exact handleAuthorizationCode_countsFirst s hg
    | refresh => simp [TokenRequest.presents, hgrant, hne.symm] at hg
  · cases g with
    | code => simp [TokenRequest.presents, hgrant, hne] at hg
    | refresh => exact handleRefreshToken_countsFirst s hg

theorem body_countsFirst (op : Op) : Quota.CountsFirst (calls pk g) ((machine s).body op) := by
  by_cases hg : ∃ req d, op = .token req d ∧ req.presents g = true
  · obtain ⟨req, d, rfl, hg⟩ := hg
    exact handleToken_countsFirst s hg
  · -- a pair is answered for what the request itself presents
    refine Quota.countsFirst_of_no_add ((body_makes s op).mono fun i hi hadd => ?_)
    obtain ⟨req, reply, rfl, hpair⟩ := hadd
    obtain ⟨d, rfl⟩ := hi
    exact hg ⟨req, d, rfl, (Bool.and_eq_true_iff.mp hpair).1⟩

end CountsFirst

theorem calls_earning (s : OAuthServer pk) (g : Grant) :
    Quota.Earning (calls pk g) (machine s) (fun w => w.pairs g) fun w => w.uses pk g where
  earns _ _ _ hcount hroom := uses_one hcount hroom
  kept x w i := uses_le (stepped x w i) g
  added x w i _ := by
    show (handle x w i).2.pairs g ≤ _
    rcases pairs_step (stepped x w i) g with h | ⟨req, reply, _, h⟩
    · rw [h]
      exact Nat.le_succ _
    · rw [h]
      split <;> omega
  other x w i hadd := by
    show (handle x w i).2.pairs g ≤ _
    rcases pairs_step (stepped x w i) g with h | ⟨req, reply, rfl, h⟩
    · exact Nat.le_of_eq h
    · rw [h, if_neg fun hpair => hadd ⟨req, reply, rfl, hpair⟩]
      exact Nat.le_refl _
  body := body_countsFirst s
  forks _ := rfl

/-- **No more pairs are answered than there were uses.** -/
theorem pairs_le_uses (s : OAuthServer pk) {ok : Threads → Move → Prop}
    (h : Runs.Reach (step s) ok (Threads.begin codes tokens) p) (g : Grant) :
    p.world.pairs g ≤ p.world.uses pk g := by
  have hstart : (Threads.begin codes tokens).world.pairs g ≤ (Threads.begin codes tokens).world.uses pk g :=
    Nat.zero_le _
  exact Quota.size_le_earned (calls_earning s g) hstart h

theorem uses_le_one (h : Sound pk p) (g : Grant) : p.world.uses pk g ≤ 1 := by
  cases g with
  | code => exact List.nodup_iff_count_le_one.mp h.spent.codes.once _
  | refresh => exact List.nodup_iff_count_le_one.mp h.spent.tokens.once _

/-! ## 5. The request was checked against its code -/

/-- What the exchange of a code looks at. -/
structure Checked (s : OAuthServer pk) (req : TokenRequest) (code : MCPAuthCode) : Prop where
  knows : s.knows req = true
  codeHash : code.codeHash = hashToken pk req.code
  redirectURI : req.redirectURI = code.redirectURI
  challenge : pk.base64 (pk.sha256 req.codeVerifier) = code.codeChallenge

@[simp] def Request.readsCode (i : Request) : Prop := ∃ codeHash, i = .readCode codeHash

/-- A pair is answered to this request, for its code. -/
def Request.exchanges (i : Request) (req : TokenRequest) : Prop :=
  ∃ reply, i = .answerToken req reply ∧ reply.isPair = true ∧ req.grantType = "authorization_code"

/-- The row that is read is that of the code, and passes the checks. -/
def passes (s : OAuthServer pk) : (i : Request) → Answer i → TokenRequest → Prop
  | .readCode codeHash, b, req =>
    codeHash = hashToken pk req.code ∧ ∃ row, b = .ok (some row) ∧ (row.codeHash = codeHash → Checked s req row)
  | _, _, _ => False

section Exchange

variable (s : OAuthServer pk) {req : TokenRequest} {d : Draws}

theorem not_exchanges_of_plain (h : i.plain = true) (req : TokenRequest) : ¬ i.exchanges req := by
  intro hi
  obtain ⟨reply, rfl, hpair, _⟩ := hi
  have hplain : (!reply.isPair) = true := h
  rw [hpair] at hplain
  cases hplain

/-- Nothing is issued before the code is read, and then what the row gives. -/
abbrev ReadsFirst (s : OAuthServer pk) (p : Job Unit) : Prop :=
  p.Unburdened Request.readsCode Request.exchanges (passes s) fun _ _ => False

theorem readsFirst_of_plain {p : Job Unit} (h : Plain p) : ReadsFirst s p :=
  unburdened_of_no_use (h.mono fun _ hi => not_exchanges_of_plain hi)

/-- A pair is answered only after every check has passed. -/
theorem checked_of_ahead {req' : TokenRequest} (hknows : s.knows req = true)
    (hahead : (exchange s req d row).Ahead Request.readsCode (Request.exchanges · req')) :
    req' = req ∧ (row.codeHash = hashToken pk req.code → Checked s req row) := by
  have hown : ∀ reply, (Request.answerToken req reply).exchanges req' → req' = req := by
    intro reply h
    obtain ⟨_, h, _⟩ := h
    exact (Request.answerToken.inj h).1.symm
  have hself : (exchange s req d row).Always fun i => i.exchanges req' → req' = req := by
    refine always_exchange s (always_issueTokenPair s ?_ (fun _ => ?_) (fun _ => ?_) hown) hown <;>
      exact fun h => absurd h (not_exchanges_of_plain rfl req')
  obtain ⟨i, hi, huse⟩ := hself.ever hahead.ever
  refine ⟨hi huse, fun hhash => ?_⟩
  rcases exchange_cases s req d row with ⟨_, _, _, h⟩ | ⟨hredirect, hpkce, _⟩
  · rw [h] at hahead
    exact absurd hahead ((readsFirst_of_plain s plain_tokenError).first req')
  · exact ⟨hknows, hhash, hredirect, by simpa [verifyPKCE] using hpkce⟩

theorem exchange_reads_nothing : (exchange s req d row).Always fun i => ¬ i.readsCode := by
  refine always_exchange s (always_issueTokenPair s ?_ (fun _ => ?_) (fun _ => ?_) fun reply => ?_) fun reply => ?_ <;>
    simp

/-- The read of the code by who has used it, and what follows. -/
theorem readBack_readsFirst (hknows : s.knows req = true) :
    ReadsFirst s (readCode (hashToken pk req.code) >>= fun r => match r with
      | .error e => tokenError req 400 "invalid_grant" e.text
      | .ok authCode => exchange s req d authCode) := by
  unfold readCode
  rw [Prog.bind_assoc]
  refine unburdened_stop ⟨_, rfl⟩ (not_exchanges_of_plain rfl) (fun _ => id) (fun r => ?_) fun r req' hahead => ?_
  · rcases r with e | _ | row
    · exact (readsFirst_of_plain s plain_tokenError).toDisciplined
    · exact (readsFirst_of_plain s plain_tokenError).toDisciplined
    · exact ⟨grants_of_always (exchange_reads_nothing s), releases_never _⟩
  · rcases r with e | _ | row
    · exact absurd hahead ((readsFirst_of_plain s plain_tokenError).first req')
    · exact absurd hahead ((readsFirst_of_plain s plain_tokenError).first req')
    · obtain ⟨rfl, hchecked⟩ := checked_of_ahead s hknows hahead
      exact ⟨rfl, row, rfl, hchecked⟩

theorem handleAuthorizationCode_readsFirst : ReadsFirst s (handleAuthorizationCode s req d) := by
  unfold handleAuthorizationCode consumeCode
  split
  · exact readsFirst_of_plain s plain_tokenError
  · rename_i hknows
    rw [Prog.bind_assoc]
    refine unburdened_ask (not_exchanges_of_plain rfl) fun now => ?_
    rw [Prog.bind_assoc]
    refine unburdened_ask (by simp [Request.exchanges]) fun r => ?_
    cases r with
    | error => exact readsFirst_of_plain s plain_tokenError
    | ok =>
      dsimp only
      split
      · rw [Prog.bind_assoc]
        exact readsFirst_of_plain s plain_diagnoseCodeFailure
      · exact readBack_readsFirst s (by simpa using hknows)

/-- Requests that present no code exchange none. -/
theorem body_exchanges_nothing (hop : ∀ req d, op = .token req d → req.grantType ≠ "authorization_code") :
    ((machine s).body op).Always fun i => ∀ req', ¬ i.exchanges req' := by
  refine (body_makes s op).mono fun i hi req' huse => ?_
  obtain ⟨reply, rfl, _, hgrant⟩ := huse
  obtain ⟨d, rfl⟩ := hi
  exact hop req' d rfl hgrant

theorem body_readsFirst (op : Op) : ReadsFirst s ((machine s).body op) := by
  by_cases hop : ∃ req d, op = .token req d ∧ req.grantType = "authorization_code"
  · obtain ⟨req, d, rfl, hgrant⟩ := hop
    show ReadsFirst s (handleToken s req d)
    rcases handleToken_cases s req d with ⟨_, _, _, h⟩ | ⟨_, h⟩ | ⟨hother, _⟩
    · rw [h]
      exact readsFirst_of_plain s plain_tokenError
    · rw [h]
      exact handleAuthorizationCode_readsFirst s
    · exact absurd (hother.symm.trans hgrant) (by decide)
  · exact unburdened_of_no_use (body_exchanges_nothing s fun req d heq hgrant => hop ⟨req, d, heq, hgrant⟩)

/-- The request was checked against a code that was stored. -/
def CheckedStored (s : OAuthServer pk) (w : World) (req : TokenRequest) : Prop :=
  ∃ c ∈ w.storedCodes, Checked s req c

/-- A pair was answered to the request, for its code. -/
def World.exchanged (w : World) (req : TokenRequest) : Prop :=
  ∃ reply, (req, reply) ∈ w.answered ∧ reply.isPair = true ∧ req.grantType = "authorization_code"

theorem storedCodes_mono (hstep : Stepped w i w') (hc : c ∈ w.storedCodes) : c ∈ w'.storedCodes := by
  cases hstep with
  | codeStored => exact List.mem_append_left _ hc
  | _ => exact hc

theorem checked_of_sameAs (hsame : c.SameAs row) (h : Checked s req row) : Checked s req c := by
  have hc : { row with used := c.used } = c := hsame
  rw [← hc]
  exact ⟨h.knows, h.codeHash, h.redirectURI, h.challenge⟩

theorem exchange_granting : Pool.Granting (machine s) Request.readsCode Request.exchanges (passes s) Recorded
    (CheckedStored s) World.exchanged where
  forks _ := rfl
  body := body_readsFirst s
  known_step x w i := recorded_step (stepped x w i)
  given x w i req hw hs hgives := by
    obtain ⟨codeHash, rfl⟩ := hs
    obtain ⟨rfl, row, hrow, hchecked⟩ := hgives
    obtain ⟨_, hget⟩ := report_eq_ok hrow
    obtain ⟨hmem, hkey⟩ := Table.get_eq_some.mp hget
    obtain ⟨c, hc, hsame⟩ := hw.codes row hmem
    exact ⟨c, storedCodes_mono (stepped x w _) hc, checked_of_sameAs s hsame (hchecked hkey)⟩
  good_step x w i req h := by
    obtain ⟨c, hc, hchecked⟩ := h
    exact ⟨c, storedCodes_mono (stepped x w i) hc, hchecked⟩
  record x w i req h := by
    have hstep := stepped x w i
    obtain ⟨reply, hmem, hpair, hgrant⟩ := h
    change (req, reply) ∈ (handle x w i).2.answered at hmem
    generalize (handle x w i).2 = w' at hstep hmem
    cases hstep with
    | answered =>
      rcases List.mem_append.mp hmem with hmem | hmem
      · exact Or.inl ⟨reply, hmem, hpair, hgrant⟩
      · obtain ⟨rfl, rfl⟩ := Prod.mk.inj (List.mem_singleton.mp hmem)
        exact Or.inr ⟨reply, rfl, hpair, hgrant⟩
    | _ => exact Or.inl ⟨reply, hmem, hpair, hgrant⟩

/-- **Whoever got a pair for a code was checked against it.** -/
theorem exchange_checked {ok : Threads → Move → Prop} (h : Runs.Reach (step s) ok (Threads.begin codes tokens) p)
    (hreq : p.world.exchanged req) : CheckedStored s p.world req := by
  refine Pool.good_of_reach (exchange_granting s) (recorded_begin codes tokens) (fun r hr => ?_) h hreq
  obtain ⟨_, hmem, _⟩ := hr
  exact absurd hmem List.not_mem_nil

end Exchange

/-! ## 6. Single use and binding -/

/-- The request presented the configured credentials, the address and the verifier of its code, while its clock was
    before the code's expiry. -/
structure Bound (pk : Packages) (cfg : Config) (w : World) (req : TokenRequest) (code : MCPAuthCode) : Prop where
  stored : code ∈ w.storedCodes
  codeHash : code.codeHash = hashToken pk req.code
  clientID : req.clientID = cfg.clientID
  clientSecret : req.clientSecret = cfg.clientSecret
  redirectURI : req.redirectURI = code.redirectURI
  verifier : pk.base64 (pk.sha256 req.codeVerifier) = code.codeChallenge
  inTime : ∃ u ∈ w.usedCodes, u.1.codeHash = code.codeHash ∧ u.2 < code.expiresAt

theorem knows_iff (hinj : pk.Injective) {cfg : Config}
    (h : (newOAuthServer pk cfg).knows req = true) :
    req.clientID = cfg.clientID ∧ req.clientSecret = cfg.clientSecret := by
  unfold OAuthServer.knows OAuthServer.verifyClientSecret newOAuthServer at h
  simp only [Bool.not_or, Bool.and_eq_true, Bool.not_eq_true', decide_eq_false_iff_not, Bool.not_not, decide_eq_true_eq,
    not_not] at h
  exact ⟨h.1, hinj.sha256 h.2⟩

/-- A pair was answered, so the code was used, in time. -/
theorem used_in_time {s : OAuthServer pk} (h : Runs.Reach (step s) (Fresh pk) (Threads.begin codes tokens) p)
    (hsound : Sound pk p) (hreq : p.world.exchanged req) {code : MCPAuthCode} (hcode : code ∈ p.world.storedCodes)
    (hhash : code.codeHash = hashToken pk req.code) :
    ∃ u ∈ p.world.usedCodes, u.1.codeHash = code.codeHash ∧ u.2 < code.expiresAt := by
  obtain ⟨reply, hmem, hpair, hgrant⟩ := hreq
  have hpairs : 0 < p.world.pairs (.code req.code) := by
    refine List.countP_pos_iff.mpr ⟨_, hmem, ?_⟩
    simp [pairFor, TokenRequest.presents, hgrant, hpair]
  have huses : 0 < p.world.usedCodeKeys.count (hashToken pk req.code) :=
    Nat.lt_of_lt_of_le hpairs (pairs_le_uses s h (.code req.code))
  obtain ⟨u, hu, hkey⟩ := List.mem_map.mp (List.count_pos_iff.mp huses)
  obtain ⟨⟨c, hc, hsame⟩, hlt⟩ := hsound.recorded.used u hu
  have hc' : { u.1 with used := c.used } = c := hsame
  have hckey : c.codeHash = u.1.codeHash := by rw [← hc']
  -- one row was ever stored under the key
  have heq : c = code := List.inj_on_of_nodup_map hsound.codes.nodup hc hcode (by rw [hckey, hkey, hhash])
  refine ⟨u, hu, hkey.trans hhash.symm, ?_⟩
  rw [← heq, ← hc']
  exact hlt

/-- **Each code and each refresh token gives at most one pair; a pair for a code is answered only to a request with the
    configured credentials, the code's redirect URI and a verifier of its challenge, before its expiry.** -/
theorem issuance_single_use_and_bound (pk : Packages) (hinj : pk.Injective) (cfg : Config)
    (codes : Table MCPAuthCode.codeHash) (tokens : Table MCPOAuthToken.tokenHash) (p : Threads)
    (h : Runs.Reach (step (newOAuthServer pk cfg)) (Fresh pk) (Threads.begin codes tokens) p) :
    (∀ g, p.world.pairs g ≤ 1) ∧
      ∀ req reply, (req, reply) ∈ p.world.answered → reply.isPair = true →
        req.grantType = "authorization_code" → ∃ code, Bound pk cfg p.world req code := by
  have hsound := sound_of_fresh _ hinj h
  refine ⟨fun g => Nat.le_trans (pairs_le_uses _ h g) (uses_le_one hsound g), fun req reply hmem hpair hgrant => ?_⟩
  have hreq : p.world.exchanged req := ⟨reply, hmem, hpair, hgrant⟩
  obtain ⟨code, hcode, hchecked⟩ := exchange_checked _ h hreq
  obtain ⟨hid, hsecret⟩ := knows_iff hinj hchecked.knows
  exact ⟨code, hcode, hchecked.codeHash, hid, hsecret, hchecked.redirectURI, hchecked.challenge,
    used_in_time h hsound hreq hcode hchecked.codeHash⟩

section Sample

/-- Stand-ins for SHA-256 and its encodings, injective as these are taken to be; the one address is a loopback. -/
def samplePackages : Packages where
  Digest := String
  digestEq := inferInstance
  sha256 := id
  hex := id
  base64 := id
  parseRequestURI _ := true
  parseURL _ := some ⟨"http", "localhost"⟩

theorem samplePackages_injective : samplePackages.Injective := ⟨fun _ _ h => h, fun _ _ h => h⟩

def sampleConfig : Config := ⟨"mcp", "secret", 0, 0, ""⟩

def sampleServer : OAuthServer samplePackages := newOAuthServer samplePackages sampleConfig

def sampleAuthorize : Op :=
  .authorize ⟨"code", "mcp", "http://localhost/callback", "verifier", "S256", "", ""⟩ "code"

def sampleExchange : TokenRequest :=
  ⟨true, "authorization_code", "code", "mcp", "secret", "http://localhost/callback", "verifier", ""⟩

/-- The thread makes its next `n` statements, which all succeed. -/
def runs (thread n : Nat) : List Move := List.replicate n (.run thread ⟨0, .ok⟩)

/-- A code is issued, and two requests exchange it side by side. -/
def exchangeRun : Threads :=
  Runs.runList (step sampleServer) (Threads.begin .empty .empty)
    ([.start sampleAuthorize] ++ runs 0 3 ++
      [.start (.token sampleExchange ⟨"access1", "refresh1", "family1"⟩),
        .start (.token sampleExchange ⟨"access2", "refresh2", "family2"⟩)] ++
      runs 1 1 ++ runs 2 2 ++ runs 1 2 ++ runs 2 5 ++ runs 1 1)

/-- One of the two gets a pair, and is bound to the code. -/
theorem exchange_one_winner :
    (exchangeRun.world.answered.length = 2 ∧ exchangeRun.world.pairs (.code "code") = 1) ∧
      exchangeRun.world.pairs (.code "code") ≤ 1 ∧
      ∃ code, Bound samplePackages sampleConfig exchangeRun.world sampleExchange code := by
  have hreach : Runs.Reach (step sampleServer) (Fresh samplePackages) (Threads.begin .empty .empty) exchangeRun :=
    Runs.reach_of_decide _ _ (by decide)
  obtain ⟨honce, hbound⟩ := issuance_single_use_and_bound samplePackages samplePackages_injective sampleConfig
    _ _ _ hreach
  exact ⟨by decide, honce _, hbound sampleExchange (.pair "access2" "refresh2" 3600) (by decide) rfl rfl⟩

end Sample

end Maintenant.OAuth
