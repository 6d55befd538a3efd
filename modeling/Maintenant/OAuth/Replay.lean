/-
  File:      Maintenant/OAuth/Replay.lean
  Subject:   A REPLAYED REFRESH TOKEN ENDS ITS FAMILY (token.go: `handleRefreshToken`; verifier.go). Requests interleave
             statement by statement.

  Who has consumed a refresh token stores the new pair in later statements. A replay of the same token that revokes the
  family in between misses that pair (`replay_misses_rotation`).

  * `MayStore` -- a request that may still store tokens of a family;
  * `Undisturbed` -- a family is revoked while no other request may store tokens of it;
  * `replay_final` -- then no token of the family is accepted again, in any state that is reached.
-/
import Maintenant.OAuth.SingleUse

namespace Maintenant.OAuth

open GoTime Prog

variable {pk : Packages}

/-! ## 1. Who may still store tokens of a family -/

@[simp] def Request.isStore (i : Request) : Prop := ∃ token, i = .storeToken token

@[simp] def Request.storesFor (i : Request) (familyID : String) : Prop :=
  ∃ token, i = .storeToken token ∧ token.familyID = familyID

@[simp] def Request.usesToken (i : Request) : Prop := ∃ tokenHash, i = .useRefreshToken tokenHash

@[simp] def Request.readsToken (i : Request) : Prop := ∃ tokenHash, i = .readToken tokenHash

@[simp] def Request.revokes (i : Request) : Prop := ∃ familyID, i = .revokeFamily familyID

/-- The request may still store tokens of the family: it exchanges a code and has drawn the family, or it has consumed a
    refresh token of the family. -/
inductive MayStore (pk : Packages) (w : World) (familyID : String) : Op × Job Unit → Prop where
  | exchange (req : TokenRequest) (d : Draws) (prog : Job Unit) (hgrant : req.grantType = "authorization_code")
      (hfamily : d.familyID = familyID) (hahead : prog.Ever Request.isStore) :
        MayStore pk w familyID (.token req d, prog)
  | refresh (req : TokenRequest) (d : Draws) (prog : Job Unit) (token : MCPOAuthToken)
      (hgrant : req.grantType = "refresh_token") (hstored : token ∈ w.storedTokens)
      (hhash : token.tokenHash = hashToken pk req.refreshToken) (hfamily : token.familyID = familyID)
      (hahead : prog.Ahead Request.usesToken Request.isStore) : MayStore pk w familyID (.token req d, prog)

/-- A family is revoked while no other request may store tokens of it. -/
def Undisturbed (pk : Packages) (p : Threads) : Move → Prop
  | .start _ => True
  | .run n x => ∀ op familyID k, p.threads[n]? = some (op, .call (.revokeFamily familyID) k) →
      x.outcome.executed = true → ∀ (m : Nat) t, m ≠ n → p.threads[m]? = some t →
      ¬ MayStore pk p.world familyID t

/-! ## 2. The discipline of the requests -/

variable {i : Request} {f : String} {p : Threads}

/-- The family of the row that is read under the request's own token. -/
def familyRead (pk : Packages) (req : TokenRequest) : (i : Request) → Answer i → String → Prop
  | .readToken tokenHash, b, familyID =>
    tokenHash = hashToken pk req.refreshToken ∧ ∃ row, b = .ok (some row) ∧ row.familyID = familyID
  | _, _, _ => False

/-- What a refresh does: it stores tokens only after an `UPDATE` that changed its row, and only of the family of the row
    it reads then. -/
structure Rotates (pk : Packages) (req : TokenRequest) (prog : Job Unit) : Prop where
  consumed : prog.Grants Request.usesToken (fun i (_ : Unit) => i.isStore) fun i b _ => oneRow i b
  family : prog.Grants Request.readsToken Request.storesFor (familyRead pk req)

/-- The same of a whole request. -/
structure RotatesFirst (pk : Packages) (req : TokenRequest) (prog : Job Unit) : Prop where
  consumed : prog.Unburdened Request.usesToken (fun i (_ : Unit) => i.isStore)
    (fun i b _ => oneRow i b) fun _ _ => False
  family : prog.Unburdened Request.readsToken Request.storesFor (familyRead pk req) fun _ _ => False

theorem RotatesFirst.rotates {req : TokenRequest} {prog : Job Unit} (h : RotatesFirst pk req prog) :
    Rotates pk req prog :=
  ⟨h.consumed.grants, h.family.grants⟩

/-- How a request goes on, by its grant; after a revocation it stores nothing. -/
structure Orderly (pk : Packages) (op : Op) (prog : Job Unit) : Prop where
  makes : prog.Always (op.makes pk)
  last : prog.Releases (fun _ => False) (fun i (_ : Unit) => i.isStore) fun i _ => i.revokes
  exchange : ∀ req d, op = .token req d → req.grantType = "authorization_code" →
    prog.Always fun i => ∀ familyID, i.storesFor familyID → familyID = d.familyID
  rotates : ∀ req d, op = .token req d → req.grantType = "refresh_token" → Rotates pk req prog
  other : ∀ req d, op = .token req d → req.grantType ≠ "authorization_code" →
    req.grantType ≠ "refresh_token" → prog.Always fun i => ¬ i.isStore

theorem Orderly.next {op : Op} {k : Answer i → Job Unit} (h : Orderly pk op (.call i k)) (b : Answer i) :
    Orderly pk op (k b) where
  makes := h.makes.2 b
  last := h.last.2 b
  exchange req d hop hgrant := (h.exchange req d hop hgrant).2 b
  rotates req d hop hgrant := ⟨(h.rotates req d hop hgrant).consumed.2 b, (h.rotates req d hop hgrant).family.2 b⟩
  other req d hop hcode hrefresh := (h.other req d hop hcode hrefresh).2 b

section Programs

variable (s : OAuthServer pk) {req : TokenRequest} {d : Draws}

theorem not_storesFor (hi : ¬ i.isStore) (familyID : String) : ¬ i.storesFor familyID := by
  intro h
  obtain ⟨token, rfl, _⟩ := h
  exact hi ⟨token, rfl⟩

/-- Stores no token. -/
abbrev NoStore {α : Type} (p : Job α) : Prop := p.Always fun i => ¬ i.isStore

theorem rotatesFirst_of_noStore (pk : Packages) (req : TokenRequest) {p : Job Unit} (h : NoStore p) :
    RotatesFirst pk req p :=
  ⟨unburdened_of_no_use (h.mono fun _ hi _ => hi), unburdened_of_no_use (h.mono fun _ hi => not_storesFor hi)⟩

theorem noStore_tokenError {status : Nat} {errCode desc : String} : NoStore (tokenError req status errCode desc) :=
  ⟨by simp, fun _ => trivial⟩

theorem noStore_refuse (req : TokenRequest) (e : Refused) : NoStore (refuse req e) :=
  always_refuse (by simp) (by simp)

variable {tokenHash : String}

theorem noStore_diagnoseTokenFailure : NoStore (diagnoseTokenFailure tokenHash >>= refuse req) :=
  always_bind (always_diagnoseTokenFailure (by simp)) fun _ => noStore_refuse req _

/-- A rotation stores tokens of the family of its row; it uses, reads and revokes none. -/
theorem rotate_calls {row : MCPOAuthToken} :
    (rotate s req d row).Always fun i => (∀ familyID, i.storesFor familyID → familyID = row.familyID) ∧
      ¬ i.usesToken ∧ ¬ i.readsToken ∧ ¬ i.revokes := by
  refine always_rotate s ?_ (always_issueTokenPair s ?_ (fun _ => ?_) (fun _ => ?_) fun _ => ?_) fun _ => ?_ <;>
    simp [newToken]

/-- A request that stores nothing unless its `UPDATE` changed one row, and then what the row it reads gives. -/
theorem rotatesFirst_ask {F : Except String Nat → Job Unit} (used : Job Unit) (hF : F (.ok 1) = used)
    (hrefused : ∀ r, r ≠ .ok 1 → NoStore (F r)) (hused : used.Always fun i => ¬ i.usesToken)
    (hfamily : used.Unburdened Request.readsToken Request.storesFor (familyRead pk req) fun _ _ => False) :
    RotatesFirst pk req (ask (.useRefreshToken tokenHash) >>= F) := by
  have hrefused : ∀ r, r ≠ .ok 1 → RotatesFirst pk req (F r) := fun r hr =>
    rotatesFirst_of_noStore pk req (hrefused r hr)
  refine ⟨unburdened_stop ⟨tokenHash, rfl⟩ (by simp) (fun _ => id) (fun r => ?_) fun r _ hahead => ?_,
    unburdened_ask (by simp) fun r => ?_⟩
  · by_cases hr : r = .ok 1
    · rw [hr, hF]
      exact ⟨grants_of_always hused, releases_never _⟩
    · exact (hrefused r hr).consumed.toDisciplined
  · show r = .ok 1
    by_contra hr
    exact (hrefused r hr).consumed.first () hahead
  · by_cases hr : r = .ok 1
    · rw [hr, hF]
      exact hfamily
    · exact (hrefused r hr).family

/-- What follows the read by who has consumed the token. -/
def afterRead (s : OAuthServer pk) (req : TokenRequest) (d : Draws) : Except StoreError MCPOAuthToken → Job Unit
  | .error e => refuse req (.ofError e)
  | .ok row => rotate s req d row

theorem afterRead_calls (r : Except StoreError MCPOAuthToken) :
    (afterRead s req d r).Always fun i => ¬ i.usesToken ∧ ¬ i.readsToken := by
  cases r with
  | error =>
    refine always_refuse (fun _ => ?_) fun _ _ _ => ?_ <;> simp
  | ok => exact (rotate_calls s).mono fun _ hi => ⟨hi.2.1, hi.2.2.1⟩

/-- The read by who has consumed the token: the row says which family is stored for. -/
theorem readBack_family :
    (readToken (hashToken pk req.refreshToken) >>= afterRead s req d).Unburdened Request.readsToken Request.storesFor
      (familyRead pk req) fun _ _ => False := by
  unfold readToken
  rw [Prog.bind_assoc]
  refine unburdened_stop ⟨_, rfl⟩ (by simp) (fun _ => id) (fun r => ⟨?_, releases_never _⟩)
    fun r familyID hahead => ?_
  · have hafter : ∀ r, (afterRead s req d r).Always fun i => ¬ i.readsToken := fun r =>
      (afterRead_calls s r).mono fun _ hi => hi.2
    rcases r with e | _ | row <;> exact grants_of_always (always_bind trivial hafter)
  · have hrefuse : ∀ e, ¬ (refuse req e).Ahead Request.readsToken (Request.storesFor · familyID) := fun e =>
      (rotatesFirst_of_noStore pk req (noStore_refuse req e)).family.first familyID
    rcases r with e | _ | row
    · exact absurd hahead (hrefuse (.failed ("query mcp oauth token: " ++ e)))
    · exact absurd hahead (hrefuse .notFound)
    · obtain ⟨i, hi, huse⟩ := (rotate_calls s).ever hahead.ever
      exact ⟨rfl, row, rfl, (hi.1 familyID huse).symm⟩

theorem readBack_uses : (readToken tokenHash >>= afterRead s req d).Always fun i => ¬ i.usesToken :=
  always_bind (always_readToken (by simp)) fun r => (afterRead_calls s r).mono fun _ hi => hi.1

theorem handleRefreshToken_rotatesFirst : RotatesFirst pk req (handleRefreshToken s req d) := by
  unfold handleRefreshToken consumeRefreshToken
  split
  · exact rotatesFirst_of_noStore pk req noStore_tokenError
  · rw [Prog.bind_assoc]
    refine rotatesFirst_ask (readToken (hashToken pk req.refreshToken) >>= afterRead s req d) ?_ (fun r hr => ?_)
      (readBack_uses s) (readBack_family s)
    · dsimp only
      rw [if_neg (not_not.mpr rfl), Prog.bind_assoc]
      congr 1
      funext r
      cases r <;> rfl
    · cases r with
      | error e => exact noStore_refuse req (.failed ("consume mcp oauth refresh token: " ++ e))
      | ok =>
        dsimp only
        split
        · rw [Prog.bind_assoc]
          exact noStore_diagnoseTokenFailure
        · rename_i hone
          rw [not_not.mp hone] at hr
          exact absurd rfl hr

/-- After a revocation a refresh stores nothing. -/
theorem handleRefreshToken_last : (handleRefreshToken s req d).Releases (fun _ => False)
    (fun i (_ : Unit) => i.isStore) fun i _ => i.revokes := by
  have hconsume : (consumeRefreshToken (hashToken pk req.refreshToken)).Always fun i => ¬ i.revokes :=
    always_consumeRefreshToken (by simp) (by simp)
  unfold handleRefreshToken
  split
  · exact releases_of_no_use (noStore_tokenError.mono fun _ hi _ => hi)
  · refine releases_bind (releases_of_always (hconsume.mono fun _ hi _ => hi)) (fun r => ?_)
      fun r hever => absurd hever (hconsume.not_ahead fun _ hno => hno)
    cases r with
    | error e => exact releases_of_no_use ((noStore_refuse req e).mono fun _ hi _ => hi)
    | ok => exact releases_of_always ((rotate_calls s).mono fun _ hi _ => hi.2.2.2)

/-- An exchange stores tokens of the family it has drawn, and revokes nothing. -/
theorem handleAuthorizationCode_family : (handleAuthorizationCode s req d).Always fun i =>
    (∀ familyID, i.storesFor familyID → familyID = d.familyID) ∧ ¬ i.revokes := by
  have hanswer : ∀ reply : TokenReply, (∀ familyID, (Request.answerToken req reply).storesFor familyID →
      familyID = d.familyID) ∧ ¬ (Request.answerToken req reply).revokes := by
    simp
  unfold handleAuthorizationCode
  split
  · exact ⟨hanswer _, fun _ => trivial⟩
  · refine always_bind (always_consumeCode ?_ (fun _ => ?_) ?_) fun r => ?_
    case refine_4 =>
      cases r with
      | error => exact ⟨hanswer _, fun _ => trivial⟩
      | ok =>
        refine always_exchange s (always_issueTokenPair s ?_ (fun _ => ?_) (fun _ => ?_) hanswer) hanswer <;>
          simp [newToken]
    all_goals simp

theorem orderly_of_noStore {op : Op} {p : Job Unit} (hmakes : p.Always (op.makes pk)) (h : NoStore p) :
    Orderly pk op p where
  makes := hmakes
  last := releases_of_no_use (h.mono fun _ hi _ => hi)
  exchange _ _ _ _ := h.mono fun _ hi familyID hstores => absurd hstores (not_storesFor hi familyID)
  rotates req _ _ _ := (rotatesFirst_of_noStore pk req h).rotates
  other _ _ _ _ _ := h

/-- The programs of the operations, by what they present. -/
theorem body_cases (op : Op) : NoStore ((machine s).body op) ∨
    (∃ req d, op = .token req d ∧ req.grantType = "authorization_code" ∧
      (machine s).body op = handleAuthorizationCode s req d) ∨
    ∃ req d, op = .token req d ∧ req.grantType = "refresh_token" ∧
    (machine s).body op = handleRefreshToken s req d := by
  have hother : (∀ req d, op ≠ .token req d) → NoStore ((machine s).body op) := by
    intro hop
    refine (body_makes s op).mono fun i hi hstore => ?_
    obtain ⟨row, rfl⟩ := hstore
    obtain ⟨req, d, rfl, _⟩ := hi
    exact hop req d rfl
  cases op with
  | authorize | cleanup => exact Or.inl (hother fun _ _ h => by cases h)
  | token req d =>
    show NoStore (handleToken s req d) ∨ _
    rcases handleToken_cases s req d with ⟨_, _, _, h⟩ | ⟨hcode, h⟩ | ⟨hrefresh, h⟩
    · rw [h]
      exact .inl noStore_tokenError
    · exact .inr (.inl ⟨req, d, rfl, hcode, h⟩)
    · exact .inr (.inr ⟨req, d, rfl, hrefresh, h⟩)

theorem body_orderly (op : Op) : Orderly pk op ((machine s).body op) := by
  have hmakes := body_makes s op
  have hne : ("refresh_token" : String) ≠ "authorization_code" := by decide
  rcases body_cases s op with h | ⟨req, d, rfl, hgrant, hbody⟩ | ⟨req, d, rfl, hgrant, hbody⟩
  · exact orderly_of_noStore hmakes h
  · rw [hbody] at hmakes ⊢
    refine ⟨hmakes, releases_of_always ((handleAuthorizationCode_family s).mono fun _ hi _ => hi.2),
      fun req' d' hop _ => ?_, fun req' d' hop hgrant' => ?_, fun req' d' hop hcode _ => ?_⟩
    · cases hop
      exact (handleAuthorizationCode_family s).mono fun _ hi => hi.1
    · cases hop
      exact absurd (hgrant'.symm.trans hgrant) hne
    · cases hop
      exact absurd hgrant hcode
  · rw [hbody] at hmakes ⊢
    refine ⟨hmakes, handleRefreshToken_last s, fun req' d' hop hgrant' => ?_, fun req' d' hop _ => ?_,
      fun req' d' hop _ hrefresh => ?_⟩
    · cases hop
      exact absurd (hgrant.symm.trans hgrant') hne
    · cases hop
      exact (handleRefreshToken_rotatesFirst s).rotates
    · cases hop
      exact absurd hgrant hrefresh

/-- Nothing is consumed or read before a refresh starts. -/
theorem body_rotatesFirst {req : TokenRequest} {d : Draws} (hgrant : req.grantType = "refresh_token") :
    RotatesFirst pk req ((machine s).body (.token req d)) := by
  rcases body_cases s (.token req d) with h | ⟨req', d', hop, hgrant', _⟩ | ⟨req', d', hop, _, hbody⟩
  · exact rotatesFirst_of_noStore pk req h
  · cases hop
    rw [hgrant] at hgrant'
    exact absurd hgrant' (by decide)
  · cases hop
    rw [hbody]
    exact handleRefreshToken_rotatesFirst s

end Programs

/-! ## 3. What stays true -/

/-- The tokens of revoked families are revoked, and nobody may store more of them. -/
structure Final (pk : Packages) (p : Threads) : Prop where
  sound : Sound pk p
  orderly : ∀ t ∈ p.threads, Orderly pk t.1 t.2
  revoked : ∀ row ∈ p.world.tokens, row.familyID ∈ p.world.revokedFamilies → row.revoked = true
  quiet : ∀ t ∈ p.threads, ∀ f ∈ p.world.revokedFamilies, ¬ MayStore pk p.world f t
  /-- Who has read the row of its refresh token stores for the family of that token. -/
  known : ∀ t ∈ p.threads, ∀ req d, t.1 = .token req d → req.grantType = "refresh_token" → ∀ f,
    t.2.Ahead Request.readsToken (Request.storesFor · f) →
      ∃ token ∈ p.world.storedTokens, token.tokenHash = hashToken pk req.refreshToken ∧ token.familyID = f

section Steps

variable {p : Threads} {n : Nat} {x : Choice} {op : Op} {i : Request} {k : Answer i → Job Unit}

/-- **A request stores only tokens of families that are not revoked.** -/
theorem Final.not_revoked (h : Final pk p) {token : MCPOAuthToken} {k : Answer (.storeToken token) → Job Unit}
    (hmem : (op, Prog.call (.storeToken token) k) ∈ p.threads) : token.familyID ∉ p.world.revokedFamilies := by
  intro hrevoked
  have horderly := h.orderly _ hmem
  obtain ⟨req, d, rfl, _⟩ := horderly.makes.1
  have hstores : (Request.storeToken token).storesFor token.familyID := ⟨token, rfl, rfl⟩
  by_cases hcode : req.grantType = "authorization_code"
  · have hfamily := (horderly.exchange req d rfl hcode).1 token.familyID hstores
    exact h.quiet _ hmem _ hrevoked (.exchange req d _ hcode hfamily.symm (Or.inl ⟨token, rfl⟩))
  · by_cases hrefresh : req.grantType = "refresh_token"
    · obtain ⟨row, hrow, hhash, hfamily⟩ := h.known _ hmem req d rfl hrefresh token.familyID (Or.inl hstores)
      exact h.quiet _ hmem _ hrevoked (.refresh req d _ row hrefresh hrow hhash hfamily (Or.inl ⟨token, rfl⟩))
    · exact (horderly.other req d rfl hcode hrefresh).1 ⟨token, rfl⟩

variable {w w' : World}

theorem storedTokens_mono (hstep : Stepped w i w') {t : MCPOAuthToken} (ht : t ∈ w.storedTokens) :
    t ∈ w'.storedTokens := by
  cases hstep with
  | tokenStored => exact List.mem_append_left _ ht
  | _ => exact ht

/-- What is stored after a request was stored before, or is what the request stores. -/
theorem storedTokens_cases (hstep : Stepped w i w') {t : MCPOAuthToken} (ht : t ∈ w'.storedTokens) :
    t ∈ w.storedTokens ∨ i = .storeToken t := by
  cases hstep with
  | tokenStored =>
    rcases List.mem_append.mp ht with ht | ht
    · exact Or.inl ht
    · rw [List.mem_singleton.mp ht]
      exact Or.inr rfl
  | _ => exact Or.inl ht

/-- A family is revoked after a request if it was before, or if the request revokes it. -/
theorem revokedFamilies_cases (hf : f ∈ (handle x w i).2.revokedFamilies) :
    f ∈ w.revokedFamilies ∨ i = .revokeFamily f ∧ x.outcome.executed = true := by
  by_cases hx : x.outcome.executed = true
  · have hstep := stepped x w i
    generalize (handle x w i).2 = w' at hstep hf
    cases hstep with
    | familyRevoked =>
      rcases List.mem_append.mp hf with hf | hf
      · exact Or.inl hf
      · rw [List.mem_singleton.mp hf]
        exact Or.inr ⟨rfl, hx⟩
    | _ => exact Or.inl hf
  · refine Or.inl ?_
    change f ∈ (w.after x i).revokedFamilies at hf
    cases i with
    | answerToken => exact hf
    | _ =>
      unfold World.after at hf
      dsimp only at hf
      rw [if_neg hx] at hf
      exact hf

/-- Who may store for a family afterwards could do so before, unless a token of the family was stored. -/
theorem MayStore.before {t : Op × Job Unit}
    (hstored : ∀ token, i = .storeToken token → token.familyID ≠ f) (h : MayStore pk (handle x w i).2 f t) :
    MayStore pk w f t := by
  cases h with
  | exchange req d prog hgrant hfamily hahead => exact .exchange req d prog hgrant hfamily hahead
  | refresh req d prog token hgrant hmem hhash hfamily hahead =>
    rcases storedTokens_cases (stepped x w i) hmem with hmem | hi
    · exact .refresh req d prog token hgrant hmem hhash hfamily hahead
    · exact absurd hfamily (hstored token hi)

/-- The row of a token that was consumed was not revoked. -/
theorem consumed_unrevoked {tokenHash : String} (hrecorded : Recorded w)
    (h : oneRow (.useRefreshToken tokenHash) (handle x w (.useRefreshToken tokenHash)).1) :
    ∃ row ∈ w.tokens, row.revoked = false ∧ ∃ t ∈ w.storedTokens, t.tokenHash = tokenHash ∧
    t.familyID = row.familyID := by
  obtain ⟨_, row, hu⟩ := report_one (show x.outcome.report (w.usableToken tokenHash).toList.length = .ok 1 from h)
  obtain ⟨hget, _, hrevoked⟩ := usableToken_eq_some hu
  obtain ⟨hrow, hkey⟩ := Table.get_eq_some.mp hget
  obtain ⟨t, ht, hsame⟩ := hrecorded.tokens row hrow
  have ht' : { row with revoked := t.revoked } = t := hsame
  exact ⟨row, hrow, hrevoked, t, ht, by rw [← ht', ← hkey], by rw [← ht']⟩

/-- The caller goes on, and a family was revoked before: it may store no more for it than it could. -/
theorem quiet_caller (h : Final pk p) (hmem : (op, Prog.call i k) ∈ p.threads)
    (hf : f ∈ p.world.revokedFamilies) : ¬ MayStore pk p.world f (op, k (handle x p.world i).1) := by
  intro hmay
  have horderly := h.orderly _ hmem
  have hquiet := h.quiet _ hmem f hf
  cases hmay with
  | exchange req d _ hgrant hfamily hahead =>
    exact hquiet (.exchange req d _ hgrant hfamily (hahead.before fun hstop => hstop))
  | refresh req d _ token hgrant hstored hhash hfamily hahead =>
    by_cases huses : i.usesToken
    · -- the token was consumed just now, so its row was not revoked
      obtain ⟨tokenHash, rfl⟩ := huses
      have hone := (horderly.rotates req d rfl hgrant).consumed.1 ⟨tokenHash, rfl⟩ _ () hahead
      obtain ⟨row, hrow, hunrevoked, t, ht, hkey, hrowfamily⟩ := consumed_unrevoked h.sound.recorded hone
      obtain ⟨req', d', hop, hown⟩ := horderly.makes.1
      cases hop
      have heq : t = token := List.inj_on_of_nodup_map h.sound.tokens.nodup ht hstored (by rw [hkey, hown, hhash])
      rw [heq, hfamily] at hrowfamily
      rw [hrowfamily] at hf
      simp [h.revoked row hrow hf] at hunrevoked
    · exact hquiet (.refresh req d _ token hgrant hstored hhash hfamily (hahead.before huses))

variable (s : OAuthServer pk)

section Run

variable (h : Final pk p) (hn : p.threads[n]? = some (op, .call i k))

include h hn

theorem revoked_run :
    ∀ row ∈ (handle x p.world i).2.tokens, row.familyID ∈ (handle x p.world i).2.revokedFamilies →
    row.revoked = true := by
  have hmem := List.mem_of_getElem? hn
  have hold := h.revoked
  have hstep := stepped x p.world i
  generalize (handle x p.world i).2 = w' at hstep ⊢
  intro row hrow hf
  cases hstep with
  | tokenStored _ _ hi =>
    rcases (Table.mem_insert hi).mp hrow with hrow | rfl
    · exact hold row hrow hf
    · exact absurd hf (h.not_revoked hmem)
  | tokenUsed =>
    obtain ⟨r, hr, rfl⟩ := mem_revoke.mp hrow
    split
    · exact rfl
    · rename_i hne
      rw [if_neg hne] at hf
      exact hold r hr hf
  | familyRevoked =>
    obtain ⟨r, hr, rfl⟩ := mem_revoke.mp hrow
    split
    · exact rfl
    · rename_i hne
      rw [if_neg hne] at hf
      rcases List.mem_append.mp hf with hf | hf
      · exact hold r hr hf
      · exact absurd (beq_iff_eq.mpr (List.mem_singleton.mp hf)) hne
  | tokensDeleted => exact hold row (Table.mem_delete.mp hrow).1 hf
  | _ => exact hold row hrow hf

theorem quiet_run (hok : Undisturbed pk p (.run n x)) :
    ∀ t ∈ (Pool.after (machine s) p n x op i k).threads, ∀ f ∈ (handle x p.world i).2.revokedFamilies,
      ¬ MayStore pk (handle x p.world i).2 f t := by
  have hmem := List.mem_of_getElem? hn
  intro t ht f hf hmay
  obtain ⟨m, hm⟩ := List.mem_iff_getElem?.mp ht
  rcases revokedFamilies_cases hf with hrevoked | ⟨rfl, hx⟩
  · have hbefore : MayStore pk p.world f t := by
      refine hmay.before fun token hi hfamily => ?_
      subst hi
      exact h.not_revoked hmem (hfamily ▸ hrevoked)
    rcases Pool.get_run hm with ⟨_, rfl⟩ | ⟨_, hold⟩ | ⟨child, hchild, _⟩
    · exact quiet_caller h hmem hrevoked hbefore
    · exact h.quiet t (List.mem_of_getElem? hold) f hrevoked hbefore
    · cases hchild
  · -- the family is revoked by this very call
    have hbefore : MayStore pk p.world f t := hmay.before fun token hi => by cases hi
    rcases Pool.get_run hm with ⟨_, rfl⟩ | ⟨hne, hold⟩ | ⟨child, hchild, _⟩
    · have hlast := (h.orderly _ hmem).last.1 () ⟨f, rfl⟩ (handle x p.world (.revokeFamily f)).1
      cases hbefore with
      | exchange _ _ _ _ _ hahead => exact hlast hahead
      | refresh _ _ _ _ _ _ _ _ hahead => exact hlast hahead.ever
    · exact hok op f k hn hx m t hne hold hbefore
    · cases hchild

theorem known_run :
    ∀ t ∈ (Pool.after (machine s) p n x op i k).threads, ∀ req d, t.1 = .token req d →
    req.grantType = "refresh_token" →
      ∀ f, t.2.Ahead Request.readsToken (Request.storesFor · f) →
      ∃ token ∈ (handle x p.world i).2.storedTokens,
          token.tokenHash = hashToken pk req.refreshToken ∧ token.familyID = f := by
  have hmem := List.mem_of_getElem? hn
  have hmono : ∀ {q : MCPOAuthToken → Prop}, (∃ token ∈ p.world.storedTokens, q token) →
      ∃ token ∈ (handle x p.world i).2.storedTokens, q token :=
    fun ⟨token, hstored, hq⟩ => ⟨token, storedTokens_mono (stepped x _ _) hstored, hq⟩
  refine Pool.forall_run rfl (fun t ht req d hop hgrant f hahead => hmono (h.known t ht req d hop hgrant f hahead))
    fun req d hop hgrant f hahead => ?_
  by_cases hread : i.readsToken
  · obtain ⟨tokenHash, rfl⟩ := hread
    obtain ⟨rfl, row, hrow, hfamily⟩ :=
      ((h.orderly _ hmem).rotates req d hop hgrant).family.1 ⟨tokenHash, rfl⟩ _ f hahead
    obtain ⟨_, hget⟩ := report_eq_ok hrow
    obtain ⟨hin, hkey⟩ := Table.get_eq_some.mp hget
    obtain ⟨t, ht, hsame⟩ := h.sound.recorded.tokens row hin
    have ht' : { row with revoked := t.revoked } = t := hsame
    exact hmono ⟨t, ht, by rw [← ht', ← hkey], by rw [← ht', ← hfamily]⟩
  · exact hmono (h.known _ hmem req d hop hgrant f (hahead.before hread))

theorem final_run (hok : Undisturbed pk p (.run n x)) : Final pk (Pool.after (machine s) p n x op i k) := by
  have hmem := List.mem_of_getElem? hn
  exact ⟨sound_run s h.sound hn, Pool.forall_run rfl h.orderly ((h.orderly _ hmem).next _), revoked_run h hn,
    quiet_run s h hn hok, known_run s h hn⟩

end Run

theorem final_start (hinj : pk.Injective) (h : Final pk p) (hnew : op.New pk p) :
    Final pk ⟨p.world, p.threads ++ [(op, (machine s).body op)]⟩ := by
  refine ⟨sound_start s hinj h.sound hnew, Pool.forall_start h.orderly (body_orderly s op), h.revoked,
    Pool.forall_start h.quiet fun f hf hmay => ?_, Pool.forall_start h.known fun req d hop hgrant f hahead => ?_⟩
  · generalize hbody : (machine s).body op = body at hmay
    cases hmay with
    | exchange _ _ _ _ hfamily =>
      refine hnew.family f ?_ hf
      rw [← hfamily]
      exact List.mem_singleton_self _
    | refresh _ _ _ _ hgrant _ _ _ hahead =>
      rw [← hbody] at hahead
      exact (body_rotatesFirst s hgrant).consumed.first () hahead
  · dsimp only at hop hahead
    rw [hop] at hahead
    exact absurd hahead ((body_rotatesFirst s hgrant).family.first f)

end Steps

/-! ## 4. Final for the family -/

/-- No token of the family is accepted: not by the verifier, not by `ConsumeRefreshToken`, nor by its statement. -/
structure Rejects (pk : Packages) (w : World) (familyID : String) : Prop where
  verifier : ∀ raw xs info w', exec handle (verifyToken pk raw) xs w = some (.ok info, w') →
    info.familyID ≠ familyID
  consume : ∀ raw xs token w', exec handle (consumeRefreshToken (hashToken pk raw)) xs w = some (.ok token, w') →
    token.familyID ≠ familyID
  statement : ∀ tokenHash token, w.usableToken tokenHash = some token → token.familyID ≠ familyID

section Accepted

variable {w : World} {Q : MCPOAuthToken → World → Prop}

variable {tokenHash : String}

/-- A read answers with the row under its key, or with an error. -/
theorem wp_readToken {Q : Except StoreError MCPOAuthToken → World → Prop}
    (herror : ∀ e, Q (.error e) w) (hrow : ∀ row, w.tokens.get tokenHash = some row → Q (.ok row) w) :
    wp handle anyChoice (readToken tokenHash) Q w := by
  intro x _
  have hworld : (handle x w (.readToken tokenHash)).2 = w := by
    show World.after x w (.readToken tokenHash) = w
    unfold World.after
    dsimp only
    split <;> rfl
  rw [hworld]
  generalize hanswer : (handle x w (.readToken tokenHash)).1 = r
  rcases r with e | _ | row
  · exact herror _
  · exact herror _
  · exact hrow row (report_eq_ok hanswer).2

/-- The verifier accepts a row of the table that is not revoked. -/
theorem verifyToken_accepts {raw : String} {xs : List Choice} {info : TokenInfo} {w' : World}
    (h : exec handle (verifyToken pk raw) xs w = some (.ok info, w')) :
    ∃ row ∈ w.tokens, row.revoked = false ∧ row.familyID = info.familyID := by
  have hwp : wp handle anyChoice (verifyToken pk raw)
      (fun r _ => ∀ info, r = .ok info → ∃ row ∈ w.tokens, row.revoked = false ∧
        row.familyID = info.familyID) w := by
    unfold verifyToken
    rw [wp_bind]
    refine wp_readToken (fun _ => nofun) fun row hget => ?_
    dsimp only
    split_ifs with hrevoked htype
    · exact nofun
    · exact nofun
    · refine wp_ask.mpr fun x _ => ?_
      split
      · exact nofun
      · intro info hinfo
        cases hinfo
        exact ⟨row, (Table.get_eq_some.mp hget).1, Bool.not_eq_true _ ▸ hrevoked, rfl⟩
  exact wp_exec hwp meets_anyChoice h info rfl

/-- The row that the statement has changed. -/
theorem useRefreshToken_row {x : Choice} (h : (handle x w (.useRefreshToken tokenHash)).1 = .ok 1) :
    ∃ row, w.usableToken tokenHash = some row ∧
      (handle x w (.useRefreshToken tokenHash)).2.tokens.get tokenHash = some row.revoke := by
  obtain ⟨hok, row, hu⟩ := report_one h
  refine ⟨row, hu, ?_⟩
  show (World.after x w (.useRefreshToken tokenHash)).tokens.get tokenHash = _
  simp only [World.after, hok, Outcome.executed, World.execute, hu, if_true]
  exact (Table.get_update_key (usableToken_eq_some hu).1).trans (if_pos rfl)

/-- `ConsumeRefreshToken` returns the row that its statement has changed. -/
theorem consumeRefreshToken_accepts {xs : List Choice} {token : MCPOAuthToken} {w' : World}
    (h : exec handle (consumeRefreshToken tokenHash) xs w = some (.ok token, w')) :
    ∃ row ∈ w.tokens, row.revoked = false ∧ row.familyID = token.familyID := by
  have hwp : wp handle anyChoice (consumeRefreshToken tokenHash)
      (fun r _ => ∀ token, r = .ok token → ∃ row ∈ w.tokens, row.revoked = false ∧
        row.familyID = token.familyID) w := by
    refine wp_ask.mpr fun x _ => ?_
    generalize hanswer : (handle x w (.useRefreshToken tokenHash)).1 = r
    cases r with
    | error =>
      intro token htoken
      cases htoken
    | ok =>
      dsimp only
      split
      · rw [wp_bind]
        refine wp_mono (fun e _ _ token htoken => ?_) (wp_always (I := fun _ => True) (fun _ _ _ _ _ _ => trivial)
          (always_of_forall (fun _ => trivial) _) trivial)
        cases htoken
      · rename_i hone
        rw [not_not.mp hone] at hanswer
        obtain ⟨row, hu, hget⟩ := useRefreshToken_row hanswer
        obtain ⟨hbefore, _, hrevoked⟩ := usableToken_eq_some hu
        rw [wp_bind]
        refine wp_readToken (fun e token htoken => ?_) fun row' hget' token htoken => ?_
        · cases htoken
        · cases htoken
          rw [hget] at hget'
          cases hget'
          exact ⟨row, (Table.get_eq_some.mp hbefore).1, hrevoked, rfl⟩
  exact wp_exec hwp meets_anyChoice h token rfl

end Accepted

theorem Final.rejects (h : Final pk p) (hf : f ∈ p.world.revokedFamilies) : Rejects pk p.world f := by
  have hrow : ∀ row ∈ p.world.tokens, row.revoked = false → row.familyID ≠ f := by
    intro row hmem hrevoked hfamily
    simp [h.revoked row hmem (hfamily ▸ hf)] at hrevoked
  refine ⟨fun raw xs info w' hexec => ?_, fun raw xs token w' hexec => ?_, fun tokenHash token hu => ?_⟩
  · obtain ⟨row, hmem, hrevoked, hfamily⟩ := verifyToken_accepts hexec
    exact hfamily ▸ hrow row hmem hrevoked
  · obtain ⟨row, hmem, hrevoked, hfamily⟩ := consumeRefreshToken_accepts hexec
    exact hfamily ▸ hrow row hmem hrevoked
  · obtain ⟨hget, _, hrevoked⟩ := usableToken_eq_some hu
    exact hrow token (Table.get_eq_some.mp hget).1 hrevoked

/-- **Once a family was revoked no token of it is accepted again**, in every run in which families are revoked only
    while no other request may store tokens of them. -/
theorem replay_final (s : OAuthServer pk) (hinj : pk.Injective) (codes : Table MCPAuthCode.codeHash)
    (tokens : Table MCPOAuthToken.tokenHash) (p : Threads)
    (h : Runs.Reach (step s) (fun p m => Fresh pk p m ∧ Undisturbed pk p m) (Threads.begin codes tokens) p) :
    ∀ f ∈ p.world.revokedFamilies, Rejects pk p.world f := by
  have hsound : Sound pk (Threads.begin codes tokens) := sound_of_fresh s hinj .start
  have hfinal : Final pk p := by
    refine Pool.inv ⟨hsound, List.forall_mem_nil _, fun _ _ hf => absurd hf List.not_mem_nil,
      List.forall_mem_nil _, List.forall_mem_nil _⟩
      (fun _ _ hp hok => final_start s hinj hp hok.1) (fun _ _ _ _ _ _ hp hok hn => final_run s hp hn hok.2) h
  exact fun f hf => hfinal.rejects hf

/-- A request that is alone disturbs nobody. -/
theorem undisturbed_of_sole {m : Move} (h : Pool.sole p m = true) : Undisturbed pk p m := by
  cases m with
  | start => exact trivial
  | run =>
    intro op familyID k hn hx m t hne ht hmay
    have hdone := Pool.done_of_sole h hne ht
    obtain ⟨op', prog⟩ := t
    subst hdone
    cases hmay with
    | exchange _ _ _ _ _ hahead | refresh _ _ _ _ _ _ _ _ hahead => exact hahead

section Sample

/-- A refresh token of a family, not used yet. -/
def sampleTokens : Table MCPOAuthToken.tokenHash :=
  ⟨[⟨"stolen", .refresh, "mcp", "", 100, false, "family"⟩], List.nodup_singleton _⟩

def sampleRefresh : TokenRequest := ⟨true, "refresh_token", "", "mcp", "secret", "", "", "stolen"⟩

def rotation : Op := .token sampleRefresh ⟨"access1", "refresh1", "unused1"⟩

def replay : Op := .token sampleRefresh ⟨"access2", "refresh2", "unused2"⟩

/-- The replay comes between the winner's `UPDATE` and its two inserts. -/
def replayBetween : Threads :=
  Runs.runList (step sampleServer) (Threads.begin .empty sampleTokens)
    ([.start rotation, .start replay] ++ runs 0 1 ++ runs 1 4 ++ runs 0 6)

/-- The replay comes when the winner is done. -/
def replayAfter : Threads :=
  Runs.runList (step sampleServer) (Threads.begin .empty sampleTokens)
    ([.start rotation] ++ runs 0 7 ++ [.start replay] ++ runs 1 4)

/-- **The family was revoked, and still its new access token is verified and its new refresh token consumed.** -/
theorem replay_misses_rotation :
    Runs.Reach (step sampleServer) (Fresh samplePackages) (Threads.begin .empty sampleTokens) replayBetween ∧
      "family" ∈ replayBetween.world.revokedFamilies ∧
      (∃ info w', exec handle (verifyToken samplePackages "access1")
        [⟨0, .ok⟩, ⟨0, .ok⟩] replayBetween.world = some (.ok info, w') ∧ info.familyID = "family") ∧
      ∃ token, replayBetween.world.usableToken (hashToken samplePackages "refresh1") = some token ∧
        token.familyID = "family" :=
  ⟨Runs.reach_of_decide _ _ (by decide), by decide, ⟨_, _, rfl, rfl⟩, ⟨_, rfl, rfl⟩⟩

/-- The same requests one after the other. -/
theorem replay_after_rotation :
    "family" ∈ replayAfter.world.revokedFamilies ∧ Rejects samplePackages replayAfter.world "family" := by
  have hreach : Runs.Reach (step sampleServer) (fun p m => Fresh samplePackages p m ∧ Undisturbed samplePackages p m)
      (Threads.begin .empty sampleTokens) replayAfter := by
    have hguard : ∀ (p : Threads) (m : Move), (decide (Fresh samplePackages p m) && Pool.sole p m) = true →
        Fresh samplePackages p m ∧ Undisturbed samplePackages p m := by
      intro p m h
      obtain ⟨hfresh, hsole⟩ := Bool.and_eq_true_iff.mp h
      exact ⟨of_decide_eq_true hfresh, undisturbed_of_sole hsole⟩
    exact Runs.reach_of_runOk hguard _ _ (by decide)
  exact ⟨by decide, replay_final sampleServer samplePackages_injective .empty sampleTokens _ hreach _ (by decide)⟩

end Sample

end Maintenant.OAuth
