/-
  File:      Maintenant/OAuth/Calls.lean
  Subject:   WHAT THE OAUTH PROGRAMS CALL (OAuth/Model.lean), one lemma a function.

  * `Op.makes`, `body_makes` -- an operation stores what it has drawn, consumes what it was presented, and answers its
    own request;
  * `codes_minting`, `tokens_minting`, `codes_unseen`, `tokens_unseen` -- the keys of both tables are stored once
    (Lib/Keys.lean), not even a second time after the cleanup.
-/
import Maintenant.OAuth.Model
import Maintenant.Lib.Keys

namespace Maintenant.OAuth

open GoTime Prog

variable {pk : Packages}

/-! ## 1. Every call -/

section Always

variable {P : Request → Prop}

variable {codeHash tokenHash : String} {req : TokenRequest} {d : Draws}

theorem always_readCode (hread : P (.readCode codeHash)) : (readCode codeHash).Always P := by
  simp [readCode, forall_except, Option.forall, hread]

theorem always_readToken (hread : P (.readToken tokenHash)) : (readToken tokenHash).Always P := by
  simp [readToken, forall_except, Option.forall, hread]

theorem always_diagnoseCodeFailure {now : Int} (hread : P (.readCode codeHash)) :
    (diagnoseCodeFailure codeHash now).Always P :=
  always_bind (always_readCode hread) fun r => by cases r <;> simp

theorem always_diagnoseTokenFailure (hread : P (.readToken tokenHash)) : (diagnoseTokenFailure tokenHash).Always P :=
  always_bind (always_readToken hread) fun r => by cases r <;> simp

/-- What follows the `UPDATE` of `ConsumeCode`. -/
theorem always_consumeCode (hnow : P .now) (huse : ∀ now, P (.useCode codeHash now))
    (hread : P (.readCode codeHash)) : (consumeCode codeHash).Always P := by
  refine always_ask hnow fun now => always_ask (huse _) fun r => ?_
  cases r with
  | error => exact trivial
  | ok => simp [always_readCode hread, always_bind (always_diagnoseCodeFailure hread)]

theorem always_consumeRefreshToken (huse : P (.useRefreshToken tokenHash))
    (hread : P (.readToken tokenHash)) : (consumeRefreshToken tokenHash).Always P := by
  refine always_ask huse fun r => ?_
  cases r with
  | error => exact trivial
  | ok =>
    dsimp only
    split
    · exact always_bind (always_diagnoseTokenFailure hread) fun _ => trivial
    · exact always_bind (always_readToken hread) fun r => by cases r <;> simp

variable (s : OAuthServer pk)

theorem always_issueTokenPair {clientID scope familyID : String} (hnow : P .now)
    (haccess : ∀ exp, P (.storeToken (newToken pk d.accessToken .access clientID scope familyID exp)))
    (hrefresh : ∀ exp, P (.storeToken (newToken pk d.refreshToken .refresh clientID scope familyID exp)))
    (hanswer : ∀ reply, P (.answerToken req reply)) : (issueTokenPair s req clientID scope familyID d).Always P := by
  simp [issueTokenPair, tokenError, forall_except, hnow, haccess, hrefresh, hanswer]

/-- What the checks of a code come to. -/
theorem exchange_cases (req : TokenRequest) (d : Draws) (authCode : MCPAuthCode) :
    (∃ status code desc, exchange s req d authCode = tokenError req status code desc) ∨
      req.redirectURI = authCode.redirectURI ∧ verifyPKCE pk req.codeVerifier authCode.codeChallenge = true ∧
        exchange s req d authCode = issueTokenPair s req req.clientID authCode.scope d.familyID d := by
  unfold exchange
  split_ifs with _ hredirect _ hpkce
  any_goals exact .inl ⟨_, _, _, rfl⟩
  exact .inr ⟨not_not.mp hredirect, by simpa using hpkce, rfl⟩

theorem always_exchange {authCode : MCPAuthCode}
    (hissue : (issueTokenPair s req req.clientID authCode.scope d.familyID d).Always P)
    (hanswer : ∀ reply, P (.answerToken req reply)) : (exchange s req d authCode).Always P := by
  rcases exchange_cases s req d authCode with ⟨_, _, _, h⟩ | ⟨_, _, h⟩ <;> rw [h]
  · exact ⟨hanswer _, fun _ => trivial⟩
  · exact hissue

theorem always_refuse {e : Refused} (hrevoke : ∀ f, P (.revokeFamily f))
    (hanswer : ∀ status code desc, P (.answerToken req (.tokenError status code desc))) :
    (refuse req e).Always P := by
  cases e <;> simp [refuse, tokenError, hrevoke, hanswer]

theorem always_rotate (s : OAuthServer pk) {token : MCPOAuthToken} (hnow : P .now)
    (hissue : (issueTokenPair s req req.clientID token.scope token.familyID d).Always P)
    (hanswer : ∀ reply, P (.answerToken req reply)) : (rotate s req d token).Always P := by
  simp [rotate, tokenError, hnow, hissue, hanswer]

theorem handleToken_cases (s : OAuthServer pk) (req : TokenRequest) (d : Draws) :
    (∃ status code desc, handleToken s req d = tokenError req status code desc) ∨
      req.grantType = "authorization_code" ∧ handleToken s req d = handleAuthorizationCode s req d ∨
      req.grantType = "refresh_token" ∧ handleToken s req d = handleRefreshToken s req d := by
  unfold handleToken
  split_ifs with _ hcode hrefresh
  · exact .inl ⟨_, _, _, rfl⟩
  · exact .inr (.inl ⟨hcode, rfl⟩)
  · exact .inr (.inr ⟨hrefresh, rfl⟩)
  · exact .inl ⟨_, _, _, rfl⟩

end Always

/-- What an operation may call: it stores what it has drawn, consumes what it was presented, answers its request. -/
def Op.makes (pk : Packages) (op : Op) : Request → Prop
  | .storeCode row => ∃ req code, op = .authorize req code ∧ row.codeHash = hashToken pk code
  | .storeToken row => ∃ req d, op = .token req d ∧ ∃ raw ∈ op.secrets, row.tokenHash = hashToken pk raw
  | .useCode codeHash _ => ∃ req d, op = .token req d ∧ codeHash = hashToken pk req.code
  | .useRefreshToken tokenHash => ∃ req d, op = .token req d ∧ tokenHash = hashToken pk req.refreshToken
  | .answerToken req _ => ∃ d, op = .token req d
  | _ => True

section Makes

variable (s : OAuthServer pk) (req : TokenRequest) (d : Draws)

theorem issueTokenPair_makes (clientID scope familyID : String) :
    (issueTokenPair s req clientID scope familyID d).Always (Op.makes pk (.token req d)) :=
  always_issueTokenPair s trivial (fun _ => ⟨req, d, rfl, d.accessToken, List.mem_cons_self, rfl⟩)
    (fun _ => ⟨req, d, rfl, d.refreshToken, List.mem_cons_of_mem _ List.mem_cons_self, rfl⟩) fun _ => ⟨d, rfl⟩

theorem handleToken_makes : (handleToken s req d).Always (Op.makes pk (.token req d)) := by
  have herror : ∀ status errCode desc, (tokenError req status errCode desc).Always (Op.makes pk (.token req d)) :=
    fun _ _ _ => ⟨⟨d, rfl⟩, fun _ => trivial⟩
  rcases handleToken_cases s req d with ⟨_, _, _, h⟩ | ⟨_, h⟩ | ⟨_, h⟩ <;> rw [h]
  · exact herror _ _ _
  · unfold handleAuthorizationCode
    split
    · exact herror _ _ _
    · refine always_bind (always_consumeCode trivial (fun _ => ⟨req, d, rfl, rfl⟩) trivial) fun r => ?_
      cases r with
      | error => exact herror _ _ _
      | ok => exact always_exchange s (issueTokenPair_makes s req d _ _ _) fun _ => ⟨d, rfl⟩
  · unfold handleRefreshToken
    split
    · exact herror _ _ _
    · refine always_bind (always_consumeRefreshToken ⟨req, d, rfl, rfl⟩ trivial) fun r => ?_
      cases r with
      | error => exact always_refuse (fun _ => trivial) fun _ _ _ => ⟨d, rfl⟩
      | ok => exact always_rotate s trivial (issueTokenPair_makes s req d _ _ _) fun _ => ⟨d, rfl⟩

end Makes

theorem handleAuthorize_makes (s : OAuthServer pk) (req : AuthorizeRequest) (code : String) :
    (handleAuthorize s req code).Always (Op.makes pk (.authorize req code)) := by
  have hanswer : ∀ reply, (ask (.answerAuthorize req reply)).Always (Op.makes pk (.authorize req code)) := fun _ =>
    ⟨trivial, fun _ => trivial⟩
  unfold handleAuthorize
  split_ifs <;> try exact hanswer _
  refine always_ask trivial fun now => always_ask ⟨req, code, rfl, rfl⟩ fun r => ?_
  cases r <;> exact hanswer _

theorem deleteExpired_makes : (deleteExpired >>= fun _ => .done ()).Always (Op.makes pk .cleanup) := by
  refine always_bind (always_ask trivial fun now => always_ask trivial fun r => ?_) fun _ => trivial
  cases r with
  | error => exact trivial
  | ok =>
    refine always_ask trivial fun r => ?_
    cases r <;> exact trivial

theorem body_makes (s : OAuthServer pk) (op : Op) : ((machine s).body op).Always (op.makes pk) := by
  cases op with
  | authorize req code => exact handleAuthorize_makes s req code
  | token req d => exact handleToken_makes s req d
  | cleanup => exact deleteExpired_makes

/-! ## 2. Keys are stored once -/

@[simp] def Request.storesCode (i : Request) (codeHash : String) : Prop :=
  ∃ code, i = .storeCode code ∧ code.codeHash = codeHash

@[simp] def Request.storesToken (i : Request) (tokenHash : String) : Prop :=
  ∃ token, i = .storeToken token ∧ token.tokenHash = tokenHash

/-- The hashes of what an operation draws. -/
def Op.owns (pk : Packages) (op : Op) (hash : String) : Prop := ∃ raw ∈ op.secrets, hash = hashToken pk raw

def World.codeKeys (w : World) : List String := w.storedCodes.map MCPAuthCode.codeHash

def World.tokenKeys (w : World) : List String := w.storedTokens.map MCPOAuthToken.tokenHash

theorem codes_minting (s : OAuthServer pk) :
    Keys.Minting (machine s) Request.storesCode (Op.owns pk) World.codeKeys where
  forks _ := rfl
  own op := by
    refine (body_makes s op).mono fun i hi hash hstores => ?_
    obtain ⟨row, rfl, rfl⟩ := hstores
    obtain ⟨req, code, rfl, hhash⟩ := hi
    exact ⟨code, List.mem_cons_self, hhash⟩
  grows x w i := by
    have hstep := stepped x w i
    show World.codeKeys (handle x w i).2 = _ ∨ ∃ r, _ ∧ World.codeKeys (handle x w i).2 = _
    generalize (handle x w i).2 = w' at hstep ⊢
    cases hstep with
    | codeStored code => exact Or.inr ⟨code.codeHash, ⟨code, rfl, rfl⟩, List.map_append⟩
    | _ => exact Or.inl rfl

theorem tokens_minting (s : OAuthServer pk) :
    Keys.Minting (machine s) Request.storesToken (Op.owns pk) World.tokenKeys where
  forks _ := rfl
  own op := by
    refine (body_makes s op).mono fun i hi hash hstores => ?_
    obtain ⟨row, rfl, rfl⟩ := hstores
    obtain ⟨req, d, _, hraw⟩ := hi
    exact hraw
  grows x w i := by
    have hstep := stepped x w i
    show World.tokenKeys (handle x w i).2 = _ ∨ ∃ r, _ ∧ World.tokenKeys (handle x w i).2 = _
    generalize (handle x w i).2 = w' at hstep ⊢
    cases hstep with
    | tokenStored token => exact Or.inr ⟨token.tokenHash, ⟨token, rfl, rfl⟩, List.map_append⟩
    | _ => exact Or.inl rfl

section Once

variable {stores : Request → String → Prop}

abbrev StoresOnce (stores : Request → String → Prop) (p : Job Unit) : Prop :=
  p.Releases (fun _ => False) stores stores

abbrev StoresNone (stores : Request → String → Prop) {α : Type} (p : Job α) : Prop :=
  p.Always fun i => ∀ hash, ¬ stores i hash

/-- Calls that store nothing come first. -/
theorem storesOnce_bind {α : Type} {p : Job α} {f : α → Job Unit} (hp : StoresNone stores p)
    (hf : ∀ a, StoresOnce stores (f a)) : StoresOnce stores (p >>= f) :=
  releases_bind (releases_of_always hp) hf fun hash hever => absurd hever (hp.not_ahead fun _ hno => hno hash)

/-- A call, and nothing is stored after it. -/
theorem storesOnce_last {i : Request} {f : Answer i → Job Unit} (hf : ∀ r, StoresNone stores (f r)) :
    StoresOnce stores (ask i >>= f) :=
  releases_ask (fun hash _ r => (hf r).not_ahead fun _ hno => hno hash) fun r => releases_of_always (hf r)

variable (s : OAuthServer pk)

theorem handleAuthorize_storesOnce (req : AuthorizeRequest) (code : String) :
    StoresOnce Request.storesCode (handleAuthorize s req code) := by
  have hanswer : ∀ reply, StoresNone Request.storesCode (ask (.answerAuthorize req reply)) := fun _ =>
    ⟨by simp, fun _ => trivial⟩
  unfold handleAuthorize
  split_ifs <;> try exact releases_of_always (hanswer _)
  refine storesOnce_bind ⟨by simp, fun _ => trivial⟩ fun now => storesOnce_last fun r => ?_
  cases r <;> exact hanswer _

theorem issueTokenPair_storesOnce {req : TokenRequest} {clientID scope familyID : String} {d : Draws}
    (hne : hashToken pk d.accessToken ≠ hashToken pk d.refreshToken) :
    StoresOnce Request.storesToken (issueTokenPair s req clientID scope familyID d) := by
  have hanswer : ∀ reply, StoresNone Request.storesToken (ask (.answerToken req reply)) := fun _ =>
    ⟨by simp, fun _ => trivial⟩
  have hnone : ∀ {reply hash}, ¬ (ask (.answerToken req reply)).Ever (Request.storesToken · hash) :=
    (hanswer _).not_ahead fun _ hno => hno _
  refine storesOnce_bind ⟨by simp, fun _ => trivial⟩ fun now => ?_
  refine releases_ask (fun hash hstores r hahead => ?_) fun r => ?_
  · -- the second row has another key
    cases r with
    | error => exact hnone hahead
    | ok _ =>
      obtain ⟨token, htoken, rfl⟩ := hstores
      cases htoken
      rcases ahead_ask.mp hahead with ⟨token, htoken, hhash⟩ | ⟨_, r, hahead⟩
      · cases htoken
        exact hne hhash.symm
      · cases r <;> exact hnone hahead
  · cases r with
    | error => exact releases_of_always (hanswer _)
    | ok _ => exact storesOnce_last fun r => by cases r <;> exact hanswer _

theorem handleToken_storesOnce {req : TokenRequest} {d : Draws}
    (hne : hashToken pk d.accessToken ≠ hashToken pk d.refreshToken) :
    StoresOnce Request.storesToken (handleToken s req d) := by
  have herror : ∀ {status code desc}, StoresOnce Request.storesToken (tokenError req status code desc) :=
    releases_of_always ⟨by simp, fun _ => trivial⟩
  rcases handleToken_cases s req d with ⟨_, _, _, h⟩ | ⟨_, h⟩ | ⟨_, h⟩ <;> rw [h]
  · exact herror
  · unfold handleAuthorizationCode
    split
    · exact herror
    · refine storesOnce_bind (always_consumeCode (by simp) (by simp) (by simp)) fun r => ?_
      cases r with
      | error => exact herror
      | ok authCode =>
        rcases exchange_cases s req d authCode with ⟨_, _, _, h⟩ | ⟨_, _, h⟩ <;> dsimp only <;> rw [h]
        · exact herror
        · exact issueTokenPair_storesOnce s hne
  · unfold handleRefreshToken
    split
    · exact herror
    · refine storesOnce_bind (always_consumeRefreshToken (by simp) (by simp)) fun r => ?_
      cases r with
      | error => exact releases_of_always (always_refuse (by simp) (by simp))
      | ok =>
        refine storesOnce_bind ⟨by simp, fun _ => trivial⟩ fun now => ?_
        split
        · exact herror
        · exact issueTokenPair_storesOnce s hne

end Once

section Unseen

variable {p : Threads} {op : Op}

theorem Op.New.unowned (hinj : pk.Injective) (h : op.New pk p) :
    ∀ t ∈ p.threads, ∀ hash, op.owns pk hash → ¬ t.1.owns pk hash := by
  intro t ht hash howns howns'
  obtain ⟨raw, hraw, rfl⟩ := howns
  obtain ⟨raw', hraw', heq⟩ := howns'
  rw [← hashToken_injective hinj heq] at hraw'
  exact h.undrawn t ht raw hraw hraw'

variable (s : OAuthServer pk)

/-- An operation that stores no key of the table. -/
theorem storesOnce_of_makes {stores : Request → String → Prop}
    (hno : ∀ i hash, op.makes pk i → ¬ stores i hash) : StoresOnce stores ((machine s).body op) :=
  releases_of_always ((body_makes s op).mono fun i hi hash => hno i hash hi)

theorem codes_unseen (hinj : pk.Injective) (h : op.New pk p) :
    Keys.Unseen (machine s) Request.storesCode (Op.owns pk) World.codeKeys p op where
  once := by
    -- only the authorization endpoint stores codes
    cases op with
    | authorize req code => exact handleAuthorize_storesOnce s req code
    | token | cleanup =>
      refine storesOnce_of_makes s fun i hash hi hstores => ?_
      obtain ⟨row, rfl, _⟩ := hstores
      obtain ⟨_, _, hop, _⟩ := hi
      cases hop
  unstored hash howns := by
    obtain ⟨raw, hraw, rfl⟩ := howns
    exact h.unstoredCode raw hraw
  unowned := h.unowned hinj

theorem tokens_unseen (hinj : pk.Injective) (h : op.New pk p) :
    Keys.Unseen (machine s) Request.storesToken (Op.owns pk) World.tokenKeys p op where
  once := by
    cases op with
    | authorize | cleanup =>
      refine storesOnce_of_makes s fun i hash hi hstores => ?_
      obtain ⟨row, rfl, _⟩ := hstores
      obtain ⟨_, _, hop, _⟩ := hi
      cases hop
    | token =>
      refine handleToken_storesOnce s fun heq => ?_
      have hdifferent := (List.nodup_cons.mp h.different).1
      rw [hashToken_injective hinj heq] at hdifferent
      exact hdifferent List.mem_cons_self
  unstored hash howns := by
    obtain ⟨raw, hraw, rfl⟩ := howns
    exact h.unstoredToken raw hraw
  unowned := h.unowned hinj

end Unseen

end Maintenant.OAuth
