/-
  File:      Maintenant/OAuth/Model.lean
  Subject:   OAUTH FOR MCP CLIENTS (internal/mcp/oauth: authorize.go, token.go, verifier.go, crypto.go, server.go;
             internal/store/mcp_oauth.go).

  A request is a program that makes its store statements one by one; `handle` answers them from the two tables, under a
  choice of the environment: what the clock shows, and whether a statement is executed and the caller hears of it. What
  crypto/rand and uuid give a request is part of the operation. The columns created_at are left out.

  * `handleAuthorize`, `handleToken`, `deleteExpired`, `verifyToken` -- the programs;
  * `World` -- the tables, and beside them what has happened so far: the rows that were stored and used, the families
    that were revoked, the answers of the token endpoint;
  * `machine` -- any number of requests and cleanups side by side.
-/
import Maintenant.Lib.Table
import Maintenant.Lib.GoTime
import Maintenant.Lib.GoText
import Maintenant.Lib.Pool

namespace Maintenant.OAuth

open GoTime GoText

/-! ## 1. Rows, requests, answers -/

inductive TokenType where
  | access
  | refresh
deriving DecidableEq, Repr

structure MCPAuthCode where
  codeHash : String
  clientID : String
  redirectURI : String
  codeChallenge : String
  codeChallengeMethod : String
  scope : String
  /-- In seconds. -/
  expiresAt : Int
  used : Bool
deriving DecidableEq, Repr

structure MCPOAuthToken where
  tokenHash : String
  tokenType : TokenType
  clientID : String
  scope : String
  /-- In seconds. -/
  expiresAt : Int
  revoked : Bool
  familyID : String
deriving DecidableEq, Repr

inductive StoreError where
  | codeNotFound
  | codeUsed
  | codeExpired
  | tokenNotFound
  | tokenRevoked
  | failed (text : String)
deriving DecidableEq, Repr

def StoreError.text : StoreError → String
  | .codeNotFound => "authorization code not found"
  | .codeUsed => "authorization code already used"
  | .codeExpired => "authorization code expired"
  | .tokenNotFound => "token not found"
  | .tokenRevoked => "token revoked"
  | .failed text => text

/-- The query of `GET /oauth/authorize`. -/
structure AuthorizeRequest where
  responseType : String
  clientID : String
  redirectURI : String
  codeChallenge : String
  codeChallengeMethod : String
  state : String
  scope : String
deriving DecidableEq, Repr

/-- The form of `POST /oauth/token`. -/
structure TokenRequest where
  /-- `ParseForm` succeeds. -/
  parsed : Bool
  grantType : String
  code : String
  clientID : String
  clientSecret : String
  redirectURI : String
  codeVerifier : String
  refreshToken : String
deriving DecidableEq, Repr

inductive AuthorizeReply where
  | badRequest (error description : String)
  /-- A redirect to the address with these parameters. -/
  | redirect (uri : String) (params : List (String × String))
deriving DecidableEq, Repr

inductive TokenReply where
  | tokenError (status : Nat) (error description : String)
  | pair (accessToken refreshToken : String) (expiresIn : Int)
deriving DecidableEq, Repr

def TokenReply.isPair : TokenReply → Bool
  | .pair .. => true
  | .tokenError .. => false

/-! ## 2. The server -/

/-- A parsed address, as far as it is looked at. -/
structure URL where
  scheme : String
  hostname : String
deriving DecidableEq, Repr

/-- The packages the server is built on: SHA-256, the two encodings of a digest, addresses. -/
structure Packages where
  Digest : Type
  digestEq : DecidableEq Digest
  sha256 : String → Digest
  hex : Digest → String
  base64 : Digest → String
  parseRequestURI : String → Bool
  parseURL : String → Option URL

attribute [instance] Packages.digestEq

/-- Different texts have different digests, and these different encodings. -/
structure Packages.Injective (pk : Packages) : Prop where
  sha256 : Function.Injective pk.sha256
  hex : Function.Injective pk.hex

variable {pk : Packages}

def hashToken (pk : Packages) (token : String) : String := pk.hex (pk.sha256 token)

theorem hashToken_injective (h : pk.Injective) : Function.Injective (hashToken pk) := h.hex.comp h.sha256

def verifyPKCE (pk : Packages) (codeVerifier codeChallenge : String) : Bool :=
  decide (pk.base64 (pk.sha256 codeVerifier) = codeChallenge)

structure Config where
  clientID : String
  clientSecret : String
  accessTTL : Int
  refreshTTL : Int
  /-- Separated by commas. -/
  allowedRedirectURIs : String

structure OAuthServer (pk : Packages) where
  clientID : String
  clientSecretHash : pk.Digest
  accessTTL : Int
  refreshTTL : Int
  allowedRedirectURIs : List String

def newOAuthServer (pk : Packages) (cfg : Config) : OAuthServer pk where
  clientID := cfg.clientID
  clientSecretHash := pk.sha256 cfg.clientSecret
  accessTTL := if cfg.accessTTL = 0 then 3600 * second else cfg.accessTTL
  refreshTTL := if cfg.refreshTTL = 0 then 30 * 24 * 3600 * second else cfg.refreshTTL
  allowedRedirectURIs :=
    ((cfg.allowedRedirectURIs.toList.splitOn ',').map fun raw => trimSpace (String.ofList raw)).filter (· ≠ "")

def OAuthServer.verifyClientSecret (s : OAuthServer pk) (provided : String) : Bool :=
  decide (pk.sha256 provided = s.clientSecretHash)

/-- A loopback address, or one of the list. -/
def OAuthServer.isRedirectURIAllowed (s : OAuthServer pk) (rawURI : String) : Bool :=
  match pk.parseURL rawURI with
  | none => false
  | some u =>
    if u.hostname = "localhost" ∨ u.hostname = "127.0.0.1" ∨ u.hostname = "::1" then
      decide (u.scheme = "http" ∨ u.scheme = "https")
    else decide (rawURI ∈ s.allowedRedirectURIs)

/-! ## 3. The store -/

inductive Request where
  | now
  | storeCode (code : MCPAuthCode)
  /-- `UPDATE … SET used = 1`, as `ConsumeCode` writes it. -/
  | useCode (codeHash : String) (now : Int)
  | readCode (codeHash : String)
  | storeToken (token : MCPOAuthToken)
  /-- `UPDATE … SET revoked = 1`, as `ConsumeRefreshToken` writes it. -/
  | useRefreshToken (tokenHash : String)
  | readToken (tokenHash : String)
  | revokeFamily (familyID : String)
  | deleteExpiredCodes (now : Int)
  | deleteExpiredTokens (now : Int)
  | answerAuthorize (req : AuthorizeRequest) (reply : AuthorizeReply)
  | answerToken (req : TokenRequest) (reply : TokenReply)

@[reducible] def Answer : Request → Type
  | .now => Time
  | .storeCode _ | .storeToken _ | .revokeFamily _ => Except String Unit
  | .useCode .. | .useRefreshToken _ | .deleteExpiredCodes _ | .deleteExpiredTokens _ => Except String Nat
  | .readCode _ => Except String (Option MCPAuthCode)
  | .readToken _ => Except String (Option MCPOAuthToken)
  | .answerAuthorize .. | .answerToken .. => Unit

/-- What becomes of a statement. -/
inductive Outcome where
  | ok
  /-- Executed, but the caller gets an error. -/
  | lost (text : String)
  | failed (text : String)
deriving DecidableEq, Repr

def Outcome.executed : Outcome → Bool
  | .ok | .lost _ => true
  | .failed _ => false

def Outcome.report {α : Type} (a : α) : Outcome → Except String α
  | .ok => .ok a
  | .lost text | .failed text => .error text

structure Choice where
  now : Time
  outcome : Outcome
deriving DecidableEq, Repr

/-- The tables, and what has happened so far. -/
structure World where
  codes : Table MCPAuthCode.codeHash
  tokens : Table MCPOAuthToken.tokenHash
  /-- The rows that were inserted, as they were. -/
  storedCodes : List MCPAuthCode
  storedTokens : List MCPOAuthToken
  /-- The codes that were used, with the second their user's clock showed. -/
  usedCodes : List (MCPAuthCode × Int)
  usedTokens : List MCPOAuthToken
  revokedFamilies : List String
  answered : List (TokenRequest × TokenReply)

/-- The condition of `ConsumeCode`. -/
def MCPAuthCode.usable (now : Int) (code : MCPAuthCode) : Bool := !code.used && decide (now < code.expiresAt)

/-- The condition of `ConsumeRefreshToken`. -/
def MCPOAuthToken.usable (token : MCPOAuthToken) : Bool := decide (token.tokenType = .refresh) && !token.revoked

def MCPAuthCode.markUsed (code : MCPAuthCode) : MCPAuthCode := { code with used := true }

def MCPOAuthToken.revoke (token : MCPOAuthToken) : MCPOAuthToken := { token with revoked := true }

/-- The code that the `UPDATE` changes. -/
def World.usableCode (w : World) (codeHash : String) (now : Int) : Option MCPAuthCode :=
  (w.codes.get codeHash).filter (MCPAuthCode.usable now)

def World.usableToken (w : World) (tokenHash : String) : Option MCPOAuthToken :=
  (w.tokens.get tokenHash).filter MCPOAuthToken.usable

def uniqueFailed : String := "UNIQUE constraint failed"

def answer (x : Choice) (w : World) : (i : Request) → Answer i
  | .now => x.now
  | .storeCode code => if w.codes.hasKey code.codeHash then .error uniqueFailed else x.outcome.report ()
  | .useCode codeHash now => x.outcome.report (w.usableCode codeHash now).toList.length
  | .readCode codeHash => x.outcome.report (w.codes.get codeHash)
  | .storeToken token => if w.tokens.hasKey token.tokenHash then .error uniqueFailed else x.outcome.report ()
  | .useRefreshToken tokenHash => x.outcome.report (w.usableToken tokenHash).toList.length
  | .readToken tokenHash => x.outcome.report (w.tokens.get tokenHash)
  | .revokeFamily _ => x.outcome.report ()
  | .deleteExpiredCodes now => x.outcome.report (w.codes.count fun c => decide (c.expiresAt < now))
  | .deleteExpiredTokens now => x.outcome.report (w.tokens.count fun t => decide (t.expiresAt < now))
  | .answerAuthorize .. | .answerToken .. => ()

/-- What a statement does, where it is executed. -/
def World.execute (w : World) : Request → World
  | .storeCode code =>
    match w.codes.insert code with
    | none => w
    | some codes => { w with codes := codes, storedCodes := w.storedCodes ++ [code] }
  | .useCode codeHash now =>
    match w.usableCode codeHash now with
    | none => w
    | some code =>
      { w with
        codes := w.codes.update (fun c => c.codeHash == codeHash) MCPAuthCode.markUsed fun _ => rfl
        usedCodes := w.usedCodes ++ [(code, now)] }
  | .storeToken token =>
    match w.tokens.insert token with
    | none => w
    | some tokens => { w with tokens := tokens, storedTokens := w.storedTokens ++ [token] }
  | .useRefreshToken tokenHash =>
    match w.usableToken tokenHash with
    | none => w
    | some token =>
      { w with
        tokens := w.tokens.update (fun t => t.tokenHash == tokenHash) MCPOAuthToken.revoke fun _ => rfl
        usedTokens := w.usedTokens ++ [token] }
  | .revokeFamily familyID =>
    { w with
      tokens := w.tokens.update (fun t => t.familyID == familyID) MCPOAuthToken.revoke fun _ => rfl
      revokedFamilies := w.revokedFamilies ++ [familyID] }
  | .deleteExpiredCodes now => { w with codes := w.codes.delete fun c => decide (c.expiresAt < now) }
  | .deleteExpiredTokens now => { w with tokens := w.tokens.delete fun t => decide (t.expiresAt < now) }
  | .now | .readCode _ | .readToken _ | .answerAuthorize .. | .answerToken .. => w

def World.after (x : Choice) (w : World) : Request → World
  | .answerToken req reply => { w with answered := w.answered ++ [(req, reply)] }
  | i => if x.outcome.executed then w.execute i else w

def handle (x : Choice) (w : World) (i : Request) : Answer i × World := (answer x w i, w.after x i)

/-- Everything a request can do. -/
inductive Stepped (w : World) : Request → World → Prop where
  | same (i : Request) : Stepped w i w
  | codeStored (code : MCPAuthCode) (codes : Table MCPAuthCode.codeHash) (h : w.codes.insert code = some codes) :
      Stepped w (.storeCode code) { w with codes := codes, storedCodes := w.storedCodes ++ [code] }
  | codeUsed (codeHash : String) (now : Int) (code : MCPAuthCode) (h : w.usableCode codeHash now = some code) :
      Stepped w (.useCode codeHash now)
        { w with
          codes := w.codes.update (fun c => c.codeHash == codeHash) MCPAuthCode.markUsed fun _ => rfl
          usedCodes := w.usedCodes ++ [(code, now)] }
  | tokenStored (token : MCPOAuthToken) (tokens : Table MCPOAuthToken.tokenHash)
      (h : w.tokens.insert token = some tokens) :
      Stepped w (.storeToken token) { w with tokens := tokens, storedTokens := w.storedTokens ++ [token] }
  | tokenUsed (tokenHash : String) (token : MCPOAuthToken) (h : w.usableToken tokenHash = some token) :
      Stepped w (.useRefreshToken tokenHash)
        { w with
          tokens := w.tokens.update (fun t => t.tokenHash == tokenHash) MCPOAuthToken.revoke fun _ => rfl
          usedTokens := w.usedTokens ++ [token] }
  | familyRevoked (familyID : String) :
      Stepped w (.revokeFamily familyID)
        { w with
          tokens := w.tokens.update (fun t => t.familyID == familyID) MCPOAuthToken.revoke fun _ => rfl
          revokedFamilies := w.revokedFamilies ++ [familyID] }
  | codesDeleted (now : Int) :
      Stepped w (.deleteExpiredCodes now) { w with codes := w.codes.delete fun c => decide (c.expiresAt < now) }
  | tokensDeleted (now : Int) :
      Stepped w (.deleteExpiredTokens now) { w with tokens := w.tokens.delete fun t => decide (t.expiresAt < now) }
  | answered (req : TokenRequest) (reply : TokenReply) :
      Stepped w (.answerToken req reply) { w with answered := w.answered ++ [(req, reply)] }

theorem stepped_execute (w : World) (i : Request) : Stepped w i (w.execute i) := by
  unfold World.execute
  cases i with
  | storeCode code =>
    dsimp only
    split
    · exact .same _
    · next codes h => exact .codeStored code codes h
  | useCode codeHash now =>
    dsimp only
    split
    · exact .same _
    · next code h => exact .codeUsed codeHash now code h
  | storeToken token =>
    dsimp only
    split
    · exact .same _
    · next tokens h => exact .tokenStored token tokens h
  | useRefreshToken tokenHash =>
    dsimp only
    split
    · exact .same _
    · next token h => exact .tokenUsed tokenHash token h
  | revokeFamily familyID => exact .familyRevoked familyID
  | deleteExpiredCodes now => exact .codesDeleted now
  | deleteExpiredTokens now => exact .tokensDeleted now
  | now | readCode _ | readToken _ | answerAuthorize _ _ | answerToken _ _ => exact .same _

theorem stepped (x : Choice) (w : World) (i : Request) : Stepped w i (handle x w i).2 := by
  show Stepped w i (w.after x i)
  cases i with
  | answerToken req reply => exact .answered req reply
  | _ =>
    unfold World.after
    dsimp only
    split
    · exact stepped_execute w _
    · exact .same _

/-! ## 4. What the store does with a request -/

abbrev Job := Prog Request Answer

abbrev ask (i : Request) : Job (Answer i) := Prog.ask i

def readCode (codeHash : String) : Job (Except StoreError MCPAuthCode) := do
  match ← ask (.readCode codeHash) with
  | .error e => return .error (.failed ("query mcp oauth code: " ++ e))
  | .ok none => return .error .codeNotFound
  | .ok (some code) => return .ok code

def diagnoseCodeFailure (codeHash : String) (now : Int) : Job StoreError := do
  match ← readCode codeHash with
  | .error e => return e
  | .ok code =>
    if code.used then return .codeUsed
    else if code.expiresAt ≤ now then return .codeExpired
    -- a concurrent caller won the race between the statement and this diagnosis
    else return .codeUsed

def consumeCode (codeHash : String) : Job (Except StoreError MCPAuthCode) := do
  let now ← ask .now
  match ← ask (.useCode codeHash (unix now)) with
  | .error e => return .error (.failed ("consume mcp oauth code: " ++ e))
  | .ok rowsAffected =>
    if rowsAffected ≠ 1 then
      let e ← diagnoseCodeFailure codeHash (unix now)
      return .error e
    else readCode codeHash

def readToken (tokenHash : String) : Job (Except StoreError MCPOAuthToken) := do
  match ← ask (.readToken tokenHash) with
  | .error e => return .error (.failed ("query mcp oauth token: " ++ e))
  | .ok none => return .error .tokenNotFound
  | .ok (some token) => return .ok token

/-- A token that was not consumed: the row of a spent one, or the error. -/
inductive Refused where
  | replayed (token : MCPOAuthToken)
  | notFound
  | failed (text : String)

def Refused.ofError : StoreError → Refused
  | .tokenNotFound => .notFound
  | e => .failed e.text

def diagnoseTokenFailure (tokenHash : String) : Job Refused := do
  match ← readToken tokenHash with
  | .error e => return .ofError e
  | .ok token => if token.tokenType ≠ .refresh then return .notFound else return .replayed token

def consumeRefreshToken (tokenHash : String) : Job (Except Refused MCPOAuthToken) := do
  match ← ask (.useRefreshToken tokenHash) with
  | .error e => return .error (.failed ("consume mcp oauth refresh token: " ++ e))
  | .ok rowsAffected =>
    if rowsAffected ≠ 1 then
      let e ← diagnoseTokenFailure tokenHash
      return .error e
    else
      match ← readToken tokenHash with
      | .error e => return .error (.ofError e)
      | .ok token => return .ok token

def deleteExpired : Job (Except StoreError Nat) := do
  let now ← ask .now
  match ← ask (.deleteExpiredCodes (unix now)) with
  | .error e => return .error (.failed ("delete expired mcp oauth codes: " ++ e))
  | .ok codes =>
    match ← ask (.deleteExpiredTokens (unix now)) with
    | .error e => return .error (.failed ("delete expired mcp oauth tokens: " ++ e))
    | .ok tokens => return .ok (codes + tokens)

/-! ## 5. The endpoints -/

def buildRedirectURL (uri : String) (params : List (String × String)) : AuthorizeReply :=
  .redirect uri (params.filter fun p => p.2 ≠ "")

def oauthRedirectError (req : AuthorizeRequest) (errCode desc : String) : Job Unit :=
  ask (.answerAuthorize req (buildRedirectURL req.redirectURI
    [("error", errCode), ("error_description", desc), ("state", req.state)]))

/-- `code` is what `GenerateToken` returns. -/
def handleAuthorize (s : OAuthServer pk) (req : AuthorizeRequest) (code : String) : Job Unit :=
  if req.redirectURI = "" then ask (.answerAuthorize req (.badRequest "invalid_request" "invalid redirect_uri"))
  else if !pk.parseRequestURI req.redirectURI || !s.isRedirectURIAllowed req.redirectURI then
    ask (.answerAuthorize req (.badRequest "invalid_request" "invalid redirect_uri"))
  else if req.responseType ≠ "code" then oauthRedirectError req "unsupported_response_type" "only 'code' is supported"
  else if req.clientID ≠ s.clientID then oauthRedirectError req "unauthorized_client" "unknown client"
  else if req.codeChallenge = "" then oauthRedirectError req "invalid_request" "missing code_challenge"
  else if req.codeChallengeMethod ≠ "S256" then
    oauthRedirectError req "invalid_request" "code_challenge_method must be S256"
  else do
    let now ← ask .now
    match ← ask (.storeCode {
        codeHash := hashToken pk code, clientID := req.clientID, redirectURI := req.redirectURI
        codeChallenge := req.codeChallenge, codeChallengeMethod := req.codeChallengeMethod, scope := req.scope
        expiresAt := unix (now + 10 * 60 * second), used := false }) with
    | .error _ => oauthRedirectError req "server_error" "internal error"
    | .ok () => ask (.answerAuthorize req (buildRedirectURL req.redirectURI [("code", code), ("state", req.state)]))

/-- What a token request draws: its two tokens and, for a code, the id of a family. -/
structure Draws where
  accessToken : String
  refreshToken : String
  familyID : String
deriving DecidableEq, Repr

def tokenError (req : TokenRequest) (status : Nat) (errCode desc : String) : Job Unit :=
  ask (.answerToken req (.tokenError status errCode desc))

def newToken (pk : Packages) (raw : String) (type : TokenType) (clientID scope familyID : String) (expiresAt : Time) :
    MCPOAuthToken :=
  ⟨hashToken pk raw, type, clientID, scope, unix expiresAt, false, familyID⟩

def issueTokenPair (s : OAuthServer pk) (req : TokenRequest) (clientID scope familyID : String) (d : Draws) :
    Job Unit := do
  let now ← ask .now
  match ← ask (.storeToken (newToken pk d.accessToken .access clientID scope familyID (now + s.accessTTL))) with
  | .error _ => tokenError req 500 "server_error" "internal error"
  | .ok () =>
    match ← ask (.storeToken (newToken pk d.refreshToken .refresh clientID scope familyID (now + s.refreshTTL))) with
    | .error _ => tokenError req 500 "server_error" "internal error"
    | .ok () => ask (.answerToken req (.pair d.accessToken d.refreshToken (Int.tdiv s.accessTTL second)))

/-- The client id and secret are the configured ones. -/
def OAuthServer.knows (s : OAuthServer pk) (req : TokenRequest) : Bool :=
  !(decide (req.clientID ≠ s.clientID) || !s.verifyClientSecret req.clientSecret)

/-- The checks of a request against the row of its code. -/
def exchange (s : OAuthServer pk) (req : TokenRequest) (d : Draws) (authCode : MCPAuthCode) : Job Unit :=
  if authCode.clientID ≠ req.clientID then tokenError req 400 "invalid_grant" "client_id mismatch"
  else if req.redirectURI ≠ authCode.redirectURI then tokenError req 400 "invalid_grant" "redirect_uri mismatch"
  else if req.codeVerifier = "" then tokenError req 400 "invalid_grant" "code_verifier is required"
  else if !verifyPKCE pk req.codeVerifier authCode.codeChallenge then
    tokenError req 400 "invalid_grant" "code_verifier does not match code_challenge"
  else issueTokenPair s req req.clientID authCode.scope d.familyID d

def handleAuthorizationCode (s : OAuthServer pk) (req : TokenRequest) (d : Draws) : Job Unit :=
  if !s.knows req then tokenError req 401 "invalid_client" "invalid client credentials"
  else do
    match ← consumeCode (hashToken pk req.code) with
    | .error e => tokenError req 400 "invalid_grant" e.text
    | .ok authCode => exchange s req d authCode

/-- The answer to a refresh token that was not consumed; a replay revokes the family. -/
def refuse (req : TokenRequest) : Refused → Job Unit
  | .replayed token => do
      -- a failure is only logged
      let _ ← ask (.revokeFamily token.familyID)
      tokenError req 400 "invalid_grant" "refresh token already used"
  | .notFound => tokenError req 400 "invalid_grant" "invalid refresh token"
  | .failed _ => tokenError req 500 "server_error" "internal error"

def rotate (s : OAuthServer pk) (req : TokenRequest) (d : Draws) (storedToken : MCPOAuthToken) : Job Unit := do
  let now ← ask .now
  if ofUnix storedToken.expiresAt < now then tokenError req 400 "invalid_grant" "refresh token expired"
  else issueTokenPair s req req.clientID storedToken.scope storedToken.familyID d

def handleRefreshToken (s : OAuthServer pk) (req : TokenRequest) (d : Draws) : Job Unit :=
  if !s.knows req then tokenError req 401 "invalid_client" "invalid client credentials"
  else do
    match ← consumeRefreshToken (hashToken pk req.refreshToken) with
    | .error e => refuse req e
    | .ok storedToken => rotate s req d storedToken

def handleToken (s : OAuthServer pk) (req : TokenRequest) (d : Draws) : Job Unit :=
  if !req.parsed then tokenError req 400 "invalid_request" "malformed form data"
  else if req.grantType = "authorization_code" then handleAuthorizationCode s req d
  else if req.grantType = "refresh_token" then handleRefreshToken s req d
  else tokenError req 400 "unsupported_grant_type" ""

/-- What the verifier tells of a token it accepts. -/
structure TokenInfo where
  expiration : Time
  clientID : String
  familyID : String
deriving DecidableEq, Repr

def verifyToken (pk : Packages) (token : String) : Job (Except String TokenInfo) := do
  match ← readToken (hashToken pk token) with
  | .error e => return .error ("invalid token: " ++ e.text)
  | .ok stored =>
    if stored.revoked then return .error "invalid token: token revoked"
    else if stored.tokenType ≠ .access then return .error "invalid token: not an access token"
    else
      let now ← ask .now
      if ofUnix stored.expiresAt < now then return .error "invalid token: token expired"
      else return .ok ⟨ofUnix stored.expiresAt, stored.clientID, stored.familyID⟩

/-! ## 6. Requests side by side -/

/-- What is started, with the values it draws. -/
inductive Op where
  | authorize (req : AuthorizeRequest) (code : String)
  | token (req : TokenRequest) (d : Draws)
  | cleanup
deriving DecidableEq, Repr

def machine (s : OAuthServer pk) : Machine Request Answer World Choice Op where
  handle := handle
  body
    | .authorize req code => handleAuthorize s req code
    | .token req d => handleToken s req d
    | .cleanup => deleteExpired >>= fun _ => .done ()
  forks _ := none
  admits _ _ := true

abbrev Threads := Pool Request Answer World Op

abbrev Move := Pool.Move Choice Op

def step (s : OAuthServer pk) : Threads → Move → Option Threads := Pool.step (machine s)

/-- Nothing is in progress; the rows that are there count as stored. -/
def Threads.begin (codes : Table MCPAuthCode.codeHash) (tokens : Table MCPOAuthToken.tokenHash) : Threads :=
  ⟨⟨codes, tokens, codes.rows, tokens.rows, [], [], [], []⟩, []⟩

/-- The tokens and codes an operation draws. -/
def Op.secrets : Op → List String
  | .authorize _ code => [code]
  | .token _ d => [d.accessToken, d.refreshToken]
  | .cleanup => []

def Op.families : Op → List String
  | .token _ d => [d.familyID]
  | .authorize .. | .cleanup => []

/-- The values an operation draws are new: nobody has drawn them, and the database has not seen them. -/
structure Op.New (pk : Packages) (p : Threads) (op : Op) : Prop where
  different : op.secrets.Nodup
  undrawn : ∀ t ∈ p.threads, ∀ raw ∈ op.secrets, raw ∉ t.1.secrets
  unstoredCode : ∀ raw ∈ op.secrets, hashToken pk raw ∉ p.world.storedCodes.map MCPAuthCode.codeHash
  unstoredToken : ∀ raw ∈ op.secrets, hashToken pk raw ∉ p.world.storedTokens.map MCPOAuthToken.tokenHash
  family : ∀ f ∈ op.families, f ∉ p.world.revokedFamilies

instance (pk : Packages) (p : Threads) (op : Op) : Decidable (op.New pk p) :=
  decidable_of_iff
    (op.secrets.Nodup ∧ (∀ t ∈ p.threads, ∀ raw ∈ op.secrets, raw ∉ t.1.secrets) ∧
      (∀ raw ∈ op.secrets, hashToken pk raw ∉ p.world.storedCodes.map MCPAuthCode.codeHash) ∧
      (∀ raw ∈ op.secrets, hashToken pk raw ∉ p.world.storedTokens.map MCPOAuthToken.tokenHash) ∧
      ∀ f ∈ op.families, f ∉ p.world.revokedFamilies)
    ⟨fun h => ⟨h.1, h.2.1, h.2.2.1, h.2.2.2.1, h.2.2.2.2⟩, fun h => ⟨h.1, h.2, h.3, h.4, h.5⟩⟩

/-- Random values do not repeat. -/
def Fresh (pk : Packages) (p : Threads) : Move → Prop
  | .start op => op.New pk p
  | .run .. => True

instance (pk : Packages) (p : Threads) : (m : Move) → Decidable (Fresh pk p m)
  | .start op => inferInstanceAs (Decidable (op.New pk p))
  | .run .. => inferInstanceAs (Decidable True)

end Maintenant.OAuth
