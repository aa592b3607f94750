import SocFabric.Lib.Lts
import SocFabric.Lib.Text
import Mathlib.Logic.Function.Basic
import Mathlib.Data.List.Basic

/-!
# Enrolment tokens and tenant provisioning (`interfaces/agent_routes.py`)

The three handlers that write `tenant_registry`, `enrollment_tokens` and `endpoint_inventory`
(`enroll_endpoint`, `create_enrollment_token`, `provision_tenant`), cut at their `await`s: every SQL
statement is one step of the request that issues it, a `db.transaction()` block is one step, and
the statements of different requests interleave freely (READ COMMITTED: a statement sees what is
committed when it runs). What a step draws from outside (`Draw`: the clock, `secrets`, `uuid4`, a
failing statement) is part of its label.
-/

namespace SocFabric.Enrollment
open Lts Text

/-! ### Tables -/

/-- The `llm_key` column: the `OPENAI_API_KEY` text of an auto-provisioned tenant, or the JSON
object `provision_tenant` dumps, by its members. -/
inductive LlmKey
  | text (key : String)
  | object (members : List (String × String))
deriving DecidableEq, Repr

structure TenantRow where
  webhookSecret : String
  clickhouseDb : String
  llmKey : LlmKey
deriving DecidableEq, Repr

/-- A row of `enrollment_tokens`; instants are microseconds. -/
structure TokenRow where
  tenantId : String
  expiresAt : Int
  maxUse : Int
  uses : Int
deriving DecidableEq, Repr

/-- A row of `endpoint_inventory` as `enroll_endpoint` inserts it. `token` and `readAt` are no
columns: they record which token the row was created from and when its request read that token. -/
structure EndpointRow where
  endpointId : Nat
  tenantId : String
  endpointSecret : String
  status : String
  token : String
  readAt : Int
deriving DecidableEq, Repr

structure Db where
  tenantRegistry : String → Option TenantRow
  enrollmentTokens : String → Option TokenRow
  endpointInventory : List EndpointRow

/-- The range of a PostgreSQL `INT` column. -/
def pgInt (n : Int) : Bool := -2147483648 ≤ n && n ≤ 2147483647

/-! ### Requests -/

structure AdminEnrollmentTokenRequest where
  tenantId : String
  expiresIn : Int := 900
  maxUse : Int := 1
deriving DecidableEq, Repr

structure TenantProvisionRequest where
  tenantId : String
  openaiKey : Option String := none
  anthropicKey : Option String := none
  geminiKey : Option String := none
deriving DecidableEq, Repr

inductive Reply
  | enrolled (endpointId : Nat) (endpointSecret tenantId : String)
  | tokenIssued (enrollmentToken : String) (expiresAt : Int)
  | provisioned (tenantId clickhouseDb webhookSecret status : String)
  | httpError (statusCode : Nat) (detail : String)
deriving DecidableEq, Repr

def Reply.internalError : Reply := .httpError 500 "Internal Server Error"

/-- Where a request stands: the statement it runs next, with the handler's local variables. -/
inductive Pc
  -- `fetchrow(token_query)` and the checks on the record
  | enrollSelect (token : String)
  -- `fetchval("SELECT 1 FROM tenant_registry ...")`
  | enrollTenant (token : String) (record : TokenRow) (readAt : Int)
  -- the auto-provisioning `INSERT ... ON CONFLICT DO NOTHING`
  | enrollProvision (token : String) (record : TokenRow) (readAt : Int)
  -- the transaction that inserts the endpoint and consumes one use
  | enrollTransaction (token : String) (record : TokenRow) (readAt : Int)
  | createTenant (req : AdminEnrollmentTokenRequest)
  | createProvision (req : AdminEnrollmentTokenRequest)
  | createInsert (req : AdminEnrollmentTokenRequest)
  -- the `audit_logs` insert; the token is already stored
  | createAudit (token : String) (expiresAt : Int)
  | provisionInsert (req : TenantProvisionRequest)
  | replied (reply : Reply)
deriving DecidableEq, Repr

inductive Request
  | enrollEndpoint (enrollmentToken : String)
  | createEnrollmentToken (req : AdminEnrollmentTokenRequest)
  | provisionTenant (req : TenantProvisionRequest)
deriving DecidableEq, Repr

def Request.entry : Request → Pc
  | .enrollEndpoint token => .enrollSelect token
  | .createEnrollmentToken req => .createTenant req
  | .provisionTenant req => .provisionInsert req

/-- What a statement and the code up to the next `await` take from outside. -/
structure Draw where
  now : Int
  token : String -- `secrets.token_urlsafe(24)`, the new enrolment token
  secretHex : String -- `secrets.token_hex(32)`, a webhook secret
  endpointSecret : String -- `secrets.token_urlsafe(32)`, an endpoint secret
  uuid : Nat -- `uuid.uuid4()`
  openaiApiKey : String -- `os.environ.get("OPENAI_API_KEY", "")`
  dbError : Bool -- the statement raises
deriving DecidableEq, Repr

/-! ### Statements -/

/-- `INSERT INTO tenant_registry ... ON CONFLICT (tenant_id) DO NOTHING`. -/
def Db.insertTenant (db : Db) (tenantId : String) (row : TenantRow) : Db :=
  match db.tenantRegistry tenantId with
  | some _ => db
  | none => { db with tenantRegistry := Function.update db.tenantRegistry tenantId (some row) }

def underscored (tenantId : String) : String := replaceChar '-' '_' tenantId

def autoProvisioned (tenantId : String) (d : Draw) : TenantRow where
  webhookSecret := d.secretHex
  clickhouseDb := "soc_" ++ underscored tenantId
  llmKey := .text d.openaiApiKey

def llmKeys (req : TenantProvisionRequest) : List (String × String) :=
  [("openai_key", truthy req.openaiKey), ("anthropic_key", truthy req.anthropicKey),
    ("gemini_key", truthy req.geminiKey)].filterMap fun (k, v) => v.map (k, ·)

def validateToken (record : Option TokenRow) (now : Int) : Except Reply TokenRow :=
  match record with
  | none => .error (.httpError 401 "Invalid enrollment token")
  | some t =>
    if t.expiresAt < now then .error (.httpError 401 "Enrollment token expired")
    else if t.uses ≥ t.maxUse then .error (.httpError 401 "Enrollment token max usage exceeded")
    else .ok t

/-- `INSERT INTO endpoint_inventory` and `UPDATE enrollment_tokens SET uses = uses + 1`, committed
together; `none` when one of them is refused and the transaction rolls back. An `UPDATE` that finds
no row is no error. -/
def Db.enroll (db : Db) (token : String) (record : TokenRow) (readAt : Int) (d : Draw) : Option Db :=
  if db.endpointInventory.any (·.endpointId = d.uuid) || (db.tenantRegistry record.tenantId).isNone then
    none
  else
    let row : EndpointRow := ⟨d.uuid, record.tenantId, d.endpointSecret, "pending_register", token, readAt⟩
    match db.enrollmentTokens token with
    | none => some { db with endpointInventory := row :: db.endpointInventory }
    | some t =>
      if pgInt (t.uses + 1) then
        some { db with
          endpointInventory := row :: db.endpointInventory
          enrollmentTokens :=
            Function.update db.enrollmentTokens token (some { t with uses := t.uses + 1 }) }
      else none

/-- `INSERT INTO enrollment_tokens (token, tenant_id, expires_at, max_use)`; `uses` defaults to
0. -/
def Db.insertToken (db : Db) (token : String) (req : AdminEnrollmentTokenRequest) (expiresAt : Int) :
    Option Db :=
  if (db.enrollmentTokens token).isSome || (db.tenantRegistry req.tenantId).isNone ||
      !pgInt req.maxUse then none
  else some { db with
    enrollmentTokens := Function.update db.enrollmentTokens token
      (some ⟨req.tenantId, expiresAt, req.maxUse, 0⟩) }

/-- One statement of a request and the code up to its next `await`. -/
def stepRequest (db : Db) (d : Draw) (pc : Pc) : Db × Pc :=
  if d.dbError then (db, .replied .internalError) else
  match pc with
  | .enrollSelect token =>
    match validateToken (db.enrollmentTokens token) d.now with
    | .error reply => (db, .replied reply)
    | .ok record => (db, .enrollTenant token record d.now)
  | .enrollTenant token record readAt =>
    match db.tenantRegistry record.tenantId with
    | some _ => (db, .enrollTransaction token record readAt)
    | none => (db, .enrollProvision token record readAt)
  | .enrollProvision token record readAt =>
    (db.insertTenant record.tenantId (autoProvisioned record.tenantId d),
      .enrollTransaction token record readAt)
  | .enrollTransaction token record readAt =>
    match db.enroll token record readAt d with
    | none => (db, .replied .internalError)
    | some db' => (db', .replied (.enrolled d.uuid d.endpointSecret record.tenantId))
  | .createTenant req =>
    match db.tenantRegistry req.tenantId with
    | some _ => (db, .createInsert req)
    | none => (db, .createProvision req)
  | .createProvision req =>
    (db.insertTenant req.tenantId (autoProvisioned req.tenantId d), .createInsert req)
  | .createInsert req =>
    let expiresAt := d.now + req.expiresIn * 1000000
    match db.insertToken d.token req expiresAt with
    | none => (db, .replied .internalError)
    | some db' => (db', .createAudit d.token expiresAt)
  | .createAudit token expiresAt => (db, .replied (.tokenIssued token expiresAt))
  | .provisionInsert req =>
    let clickhouseDb := "clickhouse_db_" ++ underscored req.tenantId
    (db.insertTenant req.tenantId ⟨d.secretHex, clickhouseDb, .object (llmKeys req)⟩,
      .replied (.provisioned req.tenantId clickhouseDb d.secretHex "provisioned"))
  | .replied reply => (db, .replied reply)

/-! ### The system -/

structure State where
  db : Db
  requests : List Pc

inductive Act
  | arrive (req : Request)
  | advance (i : Nat) (d : Draw)
deriving DecidableEq, Repr

def step (s : State) : Act → Option State
  | .arrive req => some { s with requests := s.requests ++ [req.entry] }
  | .advance i d =>
    match s.requests[i]? with
    | none | some (.replied _) => none
    | some pc => some ⟨(stepRequest s.db d pc).1, s.requests.set i (stepRequest s.db d pc).2⟩

/-- A fresh deployment: no token, no endpoint and no request yet; `tenant_registry` may be
seeded. -/
structure Initial (s : State) : Prop where
  tokens : ∀ token, s.db.enrollmentTokens token = none
  inventory : s.db.endpointInventory = []
  requests : s.requests = []

end SocFabric.Enrollment
