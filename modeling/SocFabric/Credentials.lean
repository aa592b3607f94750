import SocFabric.Lib.Json
import SocFabric.Lib.KeyedStore
import SocFabric.Lib.Lts
import SocFabric.Lib.Text
import Mathlib.Logic.Function.Basic

/-!
# Endpoint credentials (`interfaces/agent_routes.py`)

The routes that read or write `endpoint_secret` and `status` in `endpoint_inventory`: the dependency
`get_base_endpoint_context` with its two checks of the status, `register_endpoint`,
`rotate_endpoint_credential`, and the row that `enroll_endpoint` inserts. A request is cut at its
`await`s: authentication reads the row by its secret, and the `UPDATE` of a registration later
writes it by its `endpoint_id`. `issued` and `log` are no part of the program: they record the
secrets drawn so far, and what was authenticated and rotated.
-/

namespace SocFabric.Credentials
open Text

/-! ### Requests -/

structure RegisterRequest where
  hostname : String
  label : String
  type : String
  cfTunnelUrl : Option String := none
  capabilities : Json -- a list or an object
  agentVersion : String
  os : String
  region : String
  ipAddress : Option String := none
  ip : Option String := none
  gateway : Option String := none
  subnet : Option String := none
  devices : Option (List Json) := none

/-- What `register_endpoint` reads of the connection and of the environment. -/
structure Connection where
  cfConnectingIp : Option String := none
  xRealIp : Option String := none
  xForwardedFor : Option String := none
  clientHost : Option String := none
  xForwardedProto : Option String := none
  xForwardedHost : Option String := none
  host : Option String := none
  urlScheme : String := "http"
  urlNetloc : String := "localhost"
  publicHubUrl : Option String := none
  hubBaseUrl : Option String := none

/-- The routes behind an endpoint's secret. -/
inductive Route
  | register (req : RegisterRequest) (conn : Connection)
  | endpointMe
  | agentTasks
  | taskResult
  | agentPush

def Route.isRegister : Route → Bool
  | .register .. => true
  | _ => false

/-! ### Rows -/

structure Metadata where
  hostname : String
  label : String
  type : String
  cfTunnelUrl : Option String
  capabilities : Json
  agentVersion : String
  os : String
  region : String
  ipAddress : Option String

structure Endpoint where
  endpointId : String
  tenantId : String
  endpointSecret : String
  status : String
  metadata : Option Metadata

/-- `dict(endpoint)` of the authentication query. -/
structure Context where
  endpointId : String
  tenantId : String
  status : String

/-! ### Authentication -/

/-- `authorization.split(" ")[1]` behind the check for `"Bearer "`. -/
def bearerSecret (authorization : Option String) : Option String :=
  (truthy authorization).bind fun a =>
    (afterPrefix "Bearer ".toList a.toList).map fun rest => .ofList (rest.takeWhile (· ≠ ' '))

abbrev Failure := Nat × Json

def getBaseEndpointContext (rows : List Endpoint) (authorization xTenantId : Option String) :
    Except Failure Context :=
  match bearerSecret authorization with
  | none => .error (401, .str "Missing or invalid Authorization header")
  | some secret =>
    match rows.find? (·.endpointSecret = secret) with
    | none => .error (401, .str "Invalid endpoint secret")
    | some row =>
      if (truthy xTenantId).any (· ≠ row.tenantId) then
        .error (403, .str "Tenant ID mismatch; X-Tenant-ID header does not match endpoint record")
      else .ok ⟨row.endpointId, row.tenantId, row.status⟩

def verifyEndpointSecret (endpoint : Context) : Except Failure Context :=
  if endpoint.status ≠ "active" then
    .error (401, .obj
      [("error", .str ("Endpoint not active (status=" ++ endpoint.status ++ ")")),
        ("remediation",
          .str "Call POST /api/endpoints/register with your endpoint_secret before pushing logs."),
        ("docs_url", .str "/documentation#lifecycle")])
  else .ok endpoint

def verifyEndpointSecretForRegistration (endpoint : Context) : Except Failure Context :=
  if endpoint.status ∉ ["active", "pending_register"] then
    .error (401, .str ("Endpoint cannot be registered (status=" ++ endpoint.status ++ ")"))
  else .ok endpoint

def authenticate (rows : List Endpoint) (authorization xTenantId : Option String) (route : Route) :
    Except Failure Context := do
  let endpoint ← getBaseEndpointContext rows authorization xTenantId
  if route.isRegister then verifyEndpointSecretForRegistration endpoint else verifyEndpointSecret endpoint

/-! ### Registration -/

def unusableIps : List String := ["127.0.0.1", "::1", "localhost", "Unknown"]

def agentIp (req : RegisterRequest) : Option String := (truthy req.ipAddress).or req.ip

def connectionIp (conn : Connection) : String :=
  match truthy conn.cfConnectingIp, truthy conn.xRealIp, truthy conn.xForwardedFor, truthy conn.clientHost with
  | some cf, _, _, _ => strip Char.isWhitespace cf
  | none, some real, _, _ => strip Char.isWhitespace real
  | none, none, some fwd, _ => strip Char.isWhitespace (.ofList (fwd.toList.takeWhile (· ≠ ',')))
  | none, none, none, some host => host
  | none, none, none, none => "Unknown"

def realIp (req : RegisterRequest) (conn : Connection) : String :=
  let found :=
    match truthy (agentIp req) with
    | some ip => if ip ∉ unusableIps then ip else connectionIp conn
    | none => connectionIp conn
  if found ∈ unusableIps then pyOr (agentIp req) "10.0.0.33" else found

def capsData (req : RegisterRequest) (conn : Connection) : List (String × Json) :=
  let base :=
    match req.capabilities with
    | .obj members => members
    | .arr elems => [("features", .arr elems)]
    | _ => []
  let caps := KeyedStore.put "ip" (.str (realIp req conn)) base
  let caps := (truthy req.gateway).elim caps fun g => KeyedStore.put "gateway" (.str g) caps
  let caps := (truthy req.subnet).elim caps fun n => KeyedStore.put "subnet" (.str n) caps
  match req.devices with
  | some (d :: ds) => KeyedStore.put "devices" (.arr (d :: ds)) caps
  | _ => caps

def hubBase (conn : Connection) : String :=
  rstrip (· = '/') (((truthy conn.publicHubUrl).or (truthy conn.hubBaseUrl)).getD
    (conn.xForwardedProto.getD conn.urlScheme ++ "://" ++
      conn.xForwardedHost.getD (conn.host.getD conn.urlNetloc)))

structure RegisterResponse where
  endpointId : String
  tenantId : String
  ingestUrl : String
  tasksUrl : String
  pollIntervalSeconds : Nat := 10

def registerResponse (endpoint : Context) (conn : Connection) : RegisterResponse where
  endpointId := endpoint.endpointId
  tenantId := endpoint.tenantId
  ingestUrl := hubBase conn ++ "/ingest/"
  tasksUrl := hubBase conn ++ "/api/agents/tasks"

def metadata (req : RegisterRequest) (capabilities : Json) (ipAddress : Option String) : Metadata where
  hostname := req.hostname
  label := req.label
  type := req.type
  cfTunnelUrl := req.cfTunnelUrl
  capabilities := capabilities
  agentVersion := req.agentVersion
  os := req.os
  region := req.region
  ipAddress := ipAddress

/-- `UPDATE endpoint_inventory SET ..., status = 'active' WHERE endpoint_id = ...`. -/
def markActive (endpointId : String) (change : Option Metadata → Metadata) (rows : List Endpoint) :
    List Endpoint :=
  rows.map fun row =>
    if row.endpointId = endpointId then { row with status := "active", metadata := some (change row.metadata) }
    else row

/-- `UPDATE endpoint_inventory SET endpoint_secret = ..., status = 'pending_register' WHERE ...`. -/
def replaceSecret (endpointId newSecret : String) (rows : List Endpoint) : List Endpoint :=
  rows.map fun row =>
    if row.endpointId = endpointId then { row with endpointSecret := newSecret, status := "pending_register" }
    else row

/-! ### The system -/

inductive Reply
  | registered (response : RegisterResponse)
  | served (route : Route) -- the rest of another route
  | rotated (status message : String)
  | error (failure : Failure)

inductive Pc
  | auth (authorization xTenantId : Option String) (route : Route)
  | registerUpdate (endpoint : Context) (req : RegisterRequest) (conn : Connection)
  -- the second `UPDATE`, for a table without the column `ip_address`
  | registerFallback (endpoint : Context) (req : RegisterRequest) (conn : Connection)
  | serve (endpoint : Context) (route : Route)
  | rotateSelect (endpointId : String)
  | rotateUpdate (endpointId tenantId : String)
  | rotateAudit (endpointId tenantId : String)
  | replied (reply : Reply)

inductive Event
  | authenticated (register : Bool) (endpointId secret : String)
  | rotated (endpointId old new : String)
deriving DecidableEq, Repr

structure State where
  rows : List Endpoint
  requests : Nat → Option Pc
  issued : List String
  log : List Event

def init : State where
  rows := []
  requests := fun _ => none
  issued := []
  log := []

/-- What a statement takes from outside: `secrets.token_urlsafe(32)`, and how it fails. -/
structure Draw where
  secret : String := ""
  fails : Bool := false
  missingIpColumn : Bool := false

inductive Request
  | agent (authorization xTenantId : Option String) (route : Route)
  | rotate (endpointId : String)

inductive Act
  | arrive (i : Nat) (request : Request)
  | advance (i : Nat) (d : Draw)
  -- the `INSERT` of `enroll_endpoint`
  | enroll (endpointId tenantId secret : String)

def State.setRequest (s : State) (i : Nat) (pc : Pc) : State :=
  { s with requests := Function.update s.requests i (some pc) }

def internalError : Reply := .error (500, .str "Internal Server Error")

def afterAuth (endpoint : Context) : Route → Pc
  | .register req conn => .registerUpdate endpoint req conn
  | route => .serve endpoint route

def stepRequest (s : State) (i : Nat) (d : Draw) : Pc → Option State
  | .auth authorization xTenantId route =>
    if d.fails then some (s.setRequest i (.replied internalError)) else
    match authenticate s.rows authorization xTenantId route with
    | .error failure => some (s.setRequest i (.replied (.error failure)))
    | .ok endpoint =>
      some { s.setRequest i (afterAuth endpoint route) with
        log := s.log ++ [.authenticated route.isRegister endpoint.endpointId
          ((bearerSecret authorization).getD "")] }
  | .registerUpdate endpoint req conn =>
    if d.missingIpColumn then some (s.setRequest i (.registerFallback endpoint req conn))
    else if d.fails then some (s.setRequest i (.replied internalError))
    else
      some { s.setRequest i (.replied (.registered (registerResponse endpoint conn))) with
        rows := markActive endpoint.endpointId
          (fun _ => metadata req (.obj (capsData req conn)) (some (realIp req conn))) s.rows }
  | .registerFallback endpoint req conn =>
    if d.fails then some (s.setRequest i (.replied internalError))
    else
      some { s.setRequest i (.replied (.registered (registerResponse endpoint conn))) with
        rows := markActive endpoint.endpointId
          (fun old => metadata req req.capabilities (old.bind (·.ipAddress))) s.rows }
  | .serve _ route => some (s.setRequest i (.replied (.served route)))
  | .rotateSelect endpointId =>
    if d.fails then some (s.setRequest i (.replied internalError)) else
    match s.rows.find? (·.endpointId = endpointId) with
    | none => some (s.setRequest i (.replied (.error (404, .str "Endpoint not found"))))
    | some row => some (s.setRequest i (.rotateUpdate endpointId row.tenantId))
  | .rotateUpdate endpointId tenantId =>
    if d.fails then some (s.setRequest i (.replied internalError)) else
    match s.rows.find? (·.endpointId = endpointId) with
    | none => some (s.setRequest i (.rotateAudit endpointId tenantId)) -- no row, nothing is updated
    | some row =>
      some { s.setRequest i (.rotateAudit endpointId tenantId) with
        rows := replaceSecret endpointId d.secret s.rows
        issued := s.issued ++ [d.secret]
        log := s.log ++ [.rotated endpointId row.endpointSecret d.secret] }
  | .rotateAudit _ _ =>
    if d.fails then some (s.setRequest i (.replied internalError))
    else some (s.setRequest i (.replied (.rotated "success" "Credential rotated. Agent must re-enroll.")))
  | .replied _ => none

def step (s : State) : Act → Option State
  | .arrive i request =>
    match s.requests i, request with
    | none, .agent authorization xTenantId route => some (s.setRequest i (.auth authorization xTenantId route))
    | none, .rotate endpointId => some (s.setRequest i (.rotateSelect endpointId))
    | some _, _ => none
  | .advance i d => (s.requests i).bind (stepRequest s i d)
  | .enroll endpointId tenantId secret =>
    -- `endpoint_id` is the primary key
    if endpointId ∈ s.rows.map (·.endpointId) then none
    else
      some { s with
        rows := s.rows ++ [⟨endpointId, tenantId, secret, "pending_register", none⟩]
        issued := s.issued ++ [secret] }

end SocFabric.Credentials
