import Mathlib.Data.List.Infix
import Mathlib.Logic.Function.Basic
import SocFabric.TenantContext

/-!
# Sign-in with Google (`interfaces/auth_google.py`, `Infrastructure/Database/repositories.py`)

`login_google` stores a state token and sends the browser to Google; `auth_google_callback` takes
the token back, fetches the profile, checks it against the allowlist and signs a session. The
allowlist is two comma-separated variables, and the second is only read if the first lists
something: `allowlist_iff`.
-/

namespace SocFabric
namespace GoogleAuth
open Text

/-! ### Settings and requests -/

/-- The variables of the process environment, and the module constants read from them at import. -/
structure Settings where
  googleClientId : Option String
  googleClientSecret : Option String
  googleRedirectUri : Option String
  clientIdAtImport : String := ""
  clientSecretAtImport : String := ""
  redirectUriAtImport : String := ""
  jwtPrivateKey : Option String
deriving DecidableEq, Repr

structure Allowlist where
  authorizedEmails : Option String
  authorizedDomains : Option String
deriving DecidableEq, Repr

structure Incoming extends Request where
  scheme : String
  netloc : String
deriving DecidableEq, Repr

structure Credentials where
  clientId : String
  clientSecret : String
  redirectUri : String
deriving DecidableEq, Repr

def stripQuotes (s : String) : String := strip (fun c => "\"' ".toList.contains c) s

def getOauthCredentials (env : Settings) (req : Incoming) : Credentials where
  clientId := stripQuotes (pyOr env.googleClientId env.clientIdAtImport)
  clientSecret := stripQuotes (pyOr env.googleClientSecret env.clientSecretAtImport)
  redirectUri :=
    let redirectUri := stripQuotes (pyOr env.googleRedirectUri env.redirectUriAtImport)
    if redirectUri = "" then
      let proto := pyOr (req.header "x-forwarded-proto") req.scheme
      let host := pyOr (req.header "x-forwarded-host") (pyOr (req.header "host") req.netloc)
      proto ++ "://" ++ host ++ "/api/auth/google/callback"
    else redirectUri

/-! ### `oauth_states` -/

/-- The rows of `oauth_states`, token to expiry in microseconds; `none` if the table does not
exist. -/
abbrev OauthStates := Option (String → Option Int)

/-- What a `VARCHAR(255)` column makes of a text: a longer one is cut if only spaces are lost and is
an error otherwise, and no text may hold a NUL. -/
def varchar255 (s : String) : Option String :=
  if '\x00' ∈ s.toList then none
  else if s.toList.length ≤ 255 then some s
  else if (s.toList.drop 255).all (· = ' ') then some (.ofList (s.toList.take 255))
  else none

def fiveMinutes : Int := 5 * 60 * 1000000

/-- `INSERT INTO oauth_states`; what it raises is only logged. -/
def insertState (rows : String → Option Int) (token : String) (now : Int) : String → Option Int :=
  match varchar255 token with
  | none => rows
  | some token =>
    match rows token with
    | some _ => rows
    | none => Function.update rows token (some (now + fiveMinutes))

def createOauthState (db : OauthStates) (token : String) (now : Int) : OauthStates := db.map (insertState · token now)

/-- `DELETE FROM oauth_states WHERE token = $1 AND expires_at > NOW() RETURNING token`. -/
def verifyOauthState (db : OauthStates) (state : String) (now : Int) : OauthStates × Bool :=
  match db with
  | none => (none, true)
  | some rows =>
    match rows state with
    | none => (some rows, false)
    | some expiresAt =>
      if now < expiresAt then (some (Function.update rows state none), state ≠ "") else (some rows, false)

/-! ### `login_google` -/

def stateToken (rawState redirect : String) : String := rawState ++ "::" ++ redirect

/-- `AUTHORIZATION_URL`. -/
def authorizationEndpoint : String := "https://accounts.google.com/o/oauth2/v2/auth"

/-- The authorization URL up to its last parameter. -/
def authorizationUrl (c : Credentials) : String :=
  authorizationEndpoint ++ "?response_type=code&client_id=" ++ c.clientId ++ "&redirect_uri=" ++ c.redirectUri ++
    "&scope=openid email profile&access_type=offline"

/-- `rawState` is what `secrets.token_urlsafe(32)` draws. The URL is the argument of the
`RedirectResponse`. -/
def loginGoogle (env : Settings) (db : OauthStates) (req : Incoming) (redirect rawState : String) (now : Int) :
    OauthStates × Except HttpError String :=
  let c := getOauthCredentials env req
  if c.clientId = "" then
    (db, .error ⟨500, "Google OAuth Client ID is not configured. Please set GOOGLE_CLIENT_ID in deploy/.env."⟩)
  else if startsWith c.clientId "encrypted:" then
    (db, .error ⟨500, "Google OAuth Client ID is encrypted. Please launch containers with 'dotenvx run --' to decrypt."⟩)
  else
    (createOauthState db (stateToken rawState redirect) now,
      .ok (authorizationUrl c ++ "&state=" ++ stateToken rawState redirect))

/-! ### `auth_google_callback` -/

/-- An answer of Google; `json` is `none` if the body is no JSON. -/
structure Answer where
  statusCode : Nat
  json : Option Json

/-- What a callback takes from outside: Google's answers or the text of an exception, PyJWT's
`encode` or `none` where it raises, and the clock, for the database in microseconds and for the
session in seconds. -/
structure World where
  postToken : List (String × String) → Except String Answer
  getUserInfo : (accessToken : Json) → Except String Answer
  encode : Claims → (key : String) → Option String
  now : Int
  utcnow : Int

structure Callback extends Incoming where
  code : String
  state : String

/-- A minted session: the claims signed, the cookie `access_token` and where the browser is sent. -/
structure Session where
  claims : Claims
  accessToken : String
  url : String

def internalError : HttpError := ⟨500, "Internal Server Error"⟩

def antiForgery : HttpError := ⟨400, "Anti-forgery token verification failed."⟩

def notAllowlisted : HttpError := ⟨403, "Unauthorized: Email address is not in the platform allowlist."⟩

def fetchUserInfo (c : Credentials) (w : World) (code : String) : Except HttpError (List (String × Json)) := do
  if c.clientId = "" then
    throw ⟨500, "Google OAuth Client ID is not configured. Please set GOOGLE_CLIENT_ID in deploy/.env."⟩
  if c.clientSecret = "" then
    throw ⟨500, "Google OAuth Client Secret is not configured. Please set GOOGLE_CLIENT_SECRET in deploy/.env."⟩
  let tokenData := [("grant_type", "authorization_code"), ("code", code), ("client_id", c.clientId),
    ("client_secret", c.clientSecret), ("redirect_uri", c.redirectUri)]
  let tokenR ← (w.postToken tokenData).mapError fun e => ⟨500, "Failed to retrieve token from Google: " ++ e⟩
  if tokenR.statusCode ≠ 200 then throw ⟨400, "Failed to retrieve token from Google."⟩
  let some (.obj tokens) := tokenR.json | throw internalError
  let userInfoR ← (w.getUserInfo ((tokens.lookup "access_token").getD .null)).mapError fun e =>
    ⟨500, "Failed to fetch user data: " ++ e⟩
  if userInfoR.statusCode ≠ 200 then throw ⟨400, "Failed to fetch user data."⟩
  let some (.obj userInfo) := userInfoR.json | throw internalError
  return userInfo

-- Python's `str.lower`, of which nothing is assumed
variable (lower : String → String)

/-- The non-blank entries of a comma-separated variable, trimmed. -/
def entries (setting : Option String) : List String :=
  (((setting.getD "").toList.splitOn ',').map fun e => strip pySpace (.ofList e)).filter (· ≠ "")

def domainMatch (al : Allowlist) (email : String) : Bool :=
  ((entries al.authorizedDomains).map lower).any fun d => ("@" ++ d).toList.isSuffixOf (lower email).toList

/-- The check of the allowlist and the role. -/
def authorize (al : Allowlist) (email : String) : Except HttpError String :=
  let authorizedEmails := (entries al.authorizedEmails).map lower
  if authorizedEmails ≠ [] ∧ lower email ∉ authorizedEmails ∧ domainMatch lower al email = false then
    .error notAllowlisted
  else .ok (if lower email ∈ authorizedEmails then "agent_orchestrator" else "tier_1_analyst")

def signSession (env : Settings) (w : World) (claims : Claims) : Except HttpError String :=
  match truthy env.jwtPrivateKey with
  | none => .error ⟨500, "JWT_PRIVATE_KEY is not configured for signing."⟩
  | some key =>
    match w.encode claims (unquoteKey key) with
    | none => .error ⟨500, "Cryptographic signing of OAuth token failed."⟩
    | some token => .ok token

/-- What follows the first `::`. -/
def afterColons : List Char → Option (List Char)
  | ':' :: ':' :: s => some s
  | _ :: s => afterColons s
  | [] => none

def redirectUrl (state : String) : String := ((afterColons state.toList).map String.ofList).getD "/"

/-- The callback from the profile on; an e-mail that is no string has no `lower`. -/
def admitUser (al : Allowlist) (env : Settings) (w : World) (state : String) (userInfo : List (String × Json)) :
    Except HttpError Session :=
  match (userInfo.lookup "email").getD (.str "") with
  | .str email => do
    let role ← authorize lower al email
    let name := (userInfo.lookup "name").getD (.str "Unknown User")
    let picture := (userInfo.lookup "picture").getD (.str "")
    let claims := googleClaims email role name picture (w.utcnow + 8 * 60 * 60)
    let token ← signSession env w claims
    return ⟨claims, token, redirectUrl state⟩
  | _ => .error internalError

def authGoogleCallback (al : Allowlist) (env : Settings) (w : World) (db : OauthStates) (r : Callback) :
    OauthStates × Except HttpError Session :=
  match verifyOauthState db r.state w.now with
  | (db, false) => (db, .error antiForgery)
  | (db, true) =>
    (db, do
      let userInfo ← fetchUserInfo (getOauthCredentials env r.toIncoming) w r.code
      admitUser lower al env w r.state userInfo)

/-! ### The allowlist -/

def ListedEmail (al : Allowlist) (email : String) : Prop := ∃ e ∈ entries al.authorizedEmails, lower e = lower email

def ListedDomain (al : Allowlist) (email : String) : Prop :=
  ∃ d ∈ entries al.authorizedDomains, ("@" ++ lower d).toList <:+ (lower email).toList

/-- Whatever else is set and answered, a session for a profile with this e-mail is minted only if
the e-mail or its domain is listed, and the role `agent_orchestrator` given only if the e-mail
is. -/
def MintsOnlyListed (al : Allowlist) (email : String) : Prop :=
  ∀ (env : Settings) (w : World) (db : OauthStates) (r : Callback) (userInfo : List (String × Json)) (s : Session),
    fetchUserInfo (getOauthCredentials env r.toIncoming) w r.code = .ok userInfo →
      (userInfo.lookup "email").getD (.str "") = .str email →
        (authGoogleCallback lower al env w db r).2 = .ok s →
          (ListedEmail lower al email ∨ ListedDomain lower al email) ∧
            (s.claims.lookup "role" = some (.str "agent_orchestrator") → ListedEmail lower al email)

section
variable {lower} {al : Allowlist} {email role : String}

theorem mem_map_lower_iff : lower email ∈ (entries al.authorizedEmails).map lower ↔ ListedEmail lower al email :=
  List.mem_map

theorem domainMatch_iff : domainMatch lower al email = true ↔ ListedDomain lower al email := by
  simp only [domainMatch, List.any_map, List.any_eq_true, Function.comp_apply,
    List.isSuffixOf_iff_suffix, ListedDomain]

theorem authorize_eq_ok (h : authorize lower al email = .ok role) :
    (entries al.authorizedEmails = [] ∨ ListedEmail lower al email ∨ ListedDomain lower al email) ∧
      (role = "agent_orchestrator" → ListedEmail lower al email) := by
  simp only [authorize] at h
  split_ifs at h with hdenied hlisted
  · cases h
    exact ⟨.inr (.inl (mem_map_lower_iff.mp hlisted)), fun _ => mem_map_lower_iff.mp hlisted⟩
  · cases h
    refine ⟨?_, fun hrole => absurd hrole (by decide)⟩
    by_contra hnot
    rw [not_or, not_or, ← domainMatch_iff, Bool.not_eq_true] at hnot
    exact hdenied ⟨by simpa using hnot.1, hlisted, hnot.2.2⟩

theorem authorize_of_unlisted (h : entries al.authorizedEmails = []) :
    authorize lower al email = .ok "tier_1_analyst" := by
  simp [authorize, h]

end

/-- What a session that is minted comes from. -/
theorem authGoogleCallback_eq_ok {al : Allowlist} {env : Settings} {w : World} {db : OauthStates}
    {r : Callback} {s : Session} (h : (authGoogleCallback lower al env w db r).2 = .ok s) :
    ∃ userInfo email role name picture,
      fetchUserInfo (getOauthCredentials env r.toIncoming) w r.code = .ok userInfo ∧
        (userInfo.lookup "email").getD (.str "") = .str email ∧ authorize lower al email = .ok role ∧
          s.claims = googleClaims email role name picture (w.utcnow + 8 * 60 * 60) ∧ s.url = redirectUrl r.state := by
  unfold authGoogleCallback at h
  split at h
  · cases h
  · simp only at h
    cases hinfo : fetchUserInfo (getOauthCredentials env r.toIncoming) w r.code with
    | error e =>
      rw [hinfo] at h
      cases h
    | ok userInfo =>
      rw [hinfo] at h
      change admitUser lower al env w r.state userInfo = .ok s at h
      unfold admitUser at h
      split at h
      · rename_i email hemail
        cases hrole : authorize lower al email with
        | error e =>
          rw [hrole] at h
          cases h
        | ok role =>
          rw [hrole] at h
          simp only [bind, Except.bind] at h
          split at h
          · cases h
          · cases h
            exact ⟨userInfo, email, role, _, _, rfl, hemail, hrole, rfl, rfl⟩
      · cases h

/-- A deployment that mints a session for every profile that gets through. -/
def signingSettings : Settings where
  googleClientId := some "client"
  googleClientSecret := some "secret"
  googleRedirectUri := some "https://soc.example/callback"
  jwtPrivateKey := some "key"

/-- Google answers with a profile that has this e-mail. -/
def profileWorld (email : String) : World where
  postToken _ := .ok ⟨200, some (.obj [("access_token", .str "token")])⟩
  getUserInfo _ := .ok ⟨200, some (.obj [("email", .str email)])⟩
  encode _ _ := some "jwt"
  now := 0
  utcnow := 0

def pureState : Callback where
  headers := []
  cookies := []
  scheme := "https"
  netloc := "soc.example"
  code := "code"
  state := "pure_state"

def storedState : OauthStates := some fun _ => some 1

theorem fetchUserInfo_profileWorld (email : String) :
    fetchUserInfo (getOauthCredentials signingSettings pureState.toIncoming) (profileWorld email) pureState.code =
      .ok [("email", .str email)] := by
  have hid : (getOauthCredentials signingSettings pureState.toIncoming).clientId ≠ "" := by decide
  have hsecret : (getOauthCredentials signingSettings pureState.toIncoming).clientSecret ≠ "" := by decide
  simp only [fetchUserInfo, if_neg hid, if_neg hsecret]
  rfl

theorem callback_mints_unlisted {al : Allowlist} (h : entries al.authorizedEmails = []) (email : String) :
    ∃ s, (authGoogleCallback lower al signingSettings (profileWorld email) storedState pureState).2 = .ok s := by
  have hverify : verifyOauthState storedState pureState.state (profileWorld email).now =
      (some (Function.update (fun _ => some 1) "pure_state" none), true) := rfl
  unfold authGoogleCallback
  rw [hverify]
  simp only [fetchUserInfo_profileWorld, bind, Except.bind, admitUser]
  change ∃ s, (authorize lower al email).bind _ = Except.ok s
  rw [authorize_of_unlisted h]
  exact ⟨_, rfl⟩

/-- For an e-mail and a setting of the two variables, only the listed get a session exactly if
`AUTHORIZED_EMAILS` lists something or the domain of the e-mail is listed. -/
theorem allowlist_iff (al : Allowlist) (email : String) :
    MintsOnlyListed lower al email ↔ entries al.authorizedEmails ≠ [] ∨ ListedDomain lower al email := by
  constructor
  · intro h
    by_contra hnot
    rw [not_or, not_not] at hnot
    obtain ⟨s, hs⟩ := callback_mints_unlisted lower hnot.1 email
    have hlisted := (h signingSettings (profileWorld email) storedState pureState _ s (fetchUserInfo_profileWorld email)
      rfl hs).1
    rcases hlisted with ⟨e, he, -⟩ | hdomain
    · rw [hnot.1] at he
      cases he
    · exact hnot.2 hdomain
  · intro hset env w db r userInfo s hinfo hemail hs
    obtain ⟨userInfo', email', role, name, picture, hinfo', hemail', hrole, hclaims, -⟩ :=
      authGoogleCallback_eq_ok lower hs
    cases hinfo.symm.trans hinfo'
    cases hemail.symm.trans hemail'
    obtain ⟨hlisted, horch⟩ := authorize_eq_ok hrole
    refine ⟨?_, ?_⟩
    · rcases hlisted with hempty | hlisted
      · exact .inr (hset.resolve_left (not_not.mpr hempty))
      · exact hlisted
    · intro hclaim
      rw [hclaims] at hclaim
      cases hclaim
      exact horch rfl

/-- Only a domain is listed. -/
def onlyDomain : Allowlist := ⟨some "", some "example.com"⟩

/-- Anyone gets in. -/
theorem unlisted_domain_admitted :
    ¬ ∀ (al : Allowlist) (email : String), entries al.authorizedEmails ≠ [] ∨ entries al.authorizedDomains ≠ [] →
        MintsOnlyListed pyLower al email := by
  intro h
  have hmints := h onlyDomain "hacker@evil.com" (.inr (by decide))
  have hnone : entries onlyDomain.authorizedEmails = [] := by decide
  obtain ⟨s, hs⟩ := callback_mints_unlisted pyLower hnone "hacker@evil.com"
  have hlisted := (hmints signingSettings (profileWorld "hacker@evil.com") storedState pureState _ s
    (fetchUserInfo_profileWorld "hacker@evil.com") rfl hs).1
  rcases hlisted with ⟨e, he, -⟩ | ⟨d, hd, hsuffix⟩
  · cases he
  · have hentries : entries onlyDomain.authorizedDomains = ["example.com"] := by decide
    rw [hentries, List.mem_singleton] at hd
    rw [hd] at hsuffix
    revert hsuffix
    decide

end GoogleAuth
end SocFabric
