import SocFabric.Lib.Text
import SocFabric.Lib.Json

/-!
# Who a request speaks for (`interfaces/api_routes.py`, `interfaces/main.py`)

The two places that derive the tenant of one HTTP request: `get_tenant_context`, a dependency of
the tenant-scoped routes, and the `ensure_context_persistence` middleware, whose `tenant_id_ctx`
is the tenant `tool_fetch_alert_context` sends to core-ingest. PyJWT is the parameter `Jwt`; the
claims of a session token are those `login` and the Google callback encode.
-/

namespace SocFabric
open Text

/-- A request as Starlette hands it on: header names are lower-cased. -/
structure Request where
  headers : List (String × String)
  cookies : List (String × String)
deriving DecidableEq, Repr

namespace Request

def header (r : Request) (name : String) : Option String := r.headers.lookup name

def cookie (r : Request) (name : String) : Option String := r.cookies.lookup name

def withoutHeader (r : Request) (name : String) : Request :=
  { r with headers := r.headers.filter (·.1 != name) }

end Request

structure HttpError where
  statusCode : Nat
  detail : String
deriving DecidableEq, Repr

/-- The environment of soc-backend. `serviceKeyAtImport` is the module constant
`INTERNAL_SERVICE_KEY`, read once when `api_routes` is imported. -/
structure Env where
  jwtPublicKey : Option String
  jwtPrivateKey : Option String
  internalServiceKey : Option String
  serviceKeyAtImport : String
  environment : Option String
deriving DecidableEq, Repr

def Env.isDevelopment (env : Env) : Bool := env.environment.getD "development" = "development"

abbrev Claims := List (String × Json)

/-- PyJWT: `jwt.decode(token, key, algorithms=["RS256"])` and
`jwt.decode(token, options={"verify_signature": False})`, `none` where they raise. -/
structure Jwt where
  decode : (token key : String) → Option Claims
  decodeUnverified : (token : String) → Option Claims

/-! ### Credentials -/

def unquoteKey (key : String) : String :=
  .ofList (newlines (strip (fun c => "\"'".toList.contains c) key).toList)
where
  newlines : List Char → List Char
    | '\\' :: 'n' :: s => '\n' :: newlines s
    | c :: s => c :: newlines s
    | [] => []

/-- The `access_token` cookie, or else the bearer token of the `Authorization` header. -/
def sessionToken (r : Request) : Option String :=
  match truthy (r.cookie "access_token") with
  | some token => some token
  | none =>
    truthy ((afterPrefix "Bearer ".toList ((r.header "authorization").getD "").toList).map String.ofList)

def sessionClaims (jwt : Jwt) (env : Env) (r : Request) : Option Claims :=
  match sessionToken r with
  | none => none
  | some token =>
    let key := unquoteKey (pyOr env.jwtPublicKey (env.jwtPrivateKey.getD ""))
    if key ≠ "" then jwt.decode token key else jwt.decodeUnverified token

def hasInternalKey (env : Env) (r : Request) : Bool :=
  match truthy (r.header "x-internal-service-key") with
  | some key => pyOr env.internalServiceKey env.serviceKeyAtImport = key
  | none => false

def verifyInternalAuth (jwt : Jwt) (env : Env) (r : Request) : Except HttpError Unit :=
  if (sessionClaims jwt env r).isSome || hasInternalKey env r || env.isDevelopment then .ok ()
  else .error ⟨401, "Unauthorized: Missing valid session or internal service key"⟩

/-! ### The two tenant resolutions -/

def tenantClaim (jwt : Jwt) (env : Env) (r : Request) : Option Json :=
  (sessionClaims jwt env r).bind (Json.getTrue · "tenant_id")

def noTenantContext : HttpError := ⟨403, "Unauthorized: No valid tenant context found"⟩

def getTenantContext (jwt : Jwt) (env : Env) (r : Request) : Except HttpError Json :=
  match tenantClaim jwt env r with
  | some tenant => .ok tenant
  | none =>
    match hasInternalKey env r, truthy (r.header "x-tenant-id") with
    | true, some tenant => .ok (.str tenant)
    | _, tenant =>
      if (sessionClaims jwt env r).isSome || env.isDevelopment then
        match tenant with
        | some tenant => .ok (.str tenant)
        | none => .error noTenantContext
      else .error noTenantContext

def defaultFallbackTenant : String := "default_fallback_tenant"

/-- What `ensure_context_persistence` puts in `tenant_id_ctx` while the request is served. -/
def contextTenant (r : Request) : String := (r.header "x-tenant-id").getD defaultFallbackTenant

/-- The `x-tenant-id` metadata `tool_fetch_alert_context` sends under a `tenant_id_ctx`, `none`
where it raises `PermissionError`. -/
def evidenceTenant (ctx : String) : Option String :=
  if ctx = "" || ctx = defaultFallbackTenant then none else some ctx

/-! ### Session tokens -/

/-- The claims `login` signs (`exp` in seconds since the epoch, as PyJWT encodes it). -/
def loginClaims (username role : String) (exp : Int) : Claims :=
  [("sub", .str username), ("iss", .str "soc-backend-identity"), ("role", .str role), ("exp", .num exp)]

/-- The claims the Google callback signs; `name` and `picture` are taken from the user info as they
are. -/
def googleClaims (email role : String) (name picture : Json) (exp : Int) : Claims :=
  [("iss", .str "soc-backend-identity"), ("sub", .str email), ("role", .str role), ("name", name),
    ("picture", picture), ("exp", .num exp)]

inductive Minted : Claims → Prop
  | login (username role : String) (exp : Int) : Minted (loginClaims username role exp)
  | google (email role : String) (name picture : Json) (exp : Int) :
      Minted (googleClaims email role name picture exp)

/-! ### A deployment -/

def production : Env := ⟨some "public-key", none, some "service-key", "service-key", some "production"⟩

/-- PyJWT on the one token `session`, which verifies and carries `claims`. -/
def sessionJwt (claims : Claims) : Jwt where
  decode token _ := if token = "session" then some claims else none
  decodeUnverified token := if token = "session" then some claims else none

end SocFabric
