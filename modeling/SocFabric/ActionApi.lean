import SocFabric.Governance
import SocFabric.TenantContext

/-!
# The routes that accept a containment action

`execute_action`, `isolate_host` and `release_host` (`interfaces/api_routes.py`) and
`assign_agent_task` (`interfaces/agent_routes.py`), behind `verify_internal_auth`. A request whose
body does not validate is answered 422 before its handler runs and is left out.
-/

namespace SocFabric.ActionApi
open Text

/-! ### Bodies -/

structure ActionExecuteRequest where
  action : String
  target : String
  justification : String
  risk : String
  twoKeyToken : Option String := none

structure IsolateHostRequest where
  twoKeyToken : Option String := none

/-- The body of a task request: the fields of `AdminTaskRequest`, and the `twoKeyToken` member the
console sends with them, which the model does not declare and pydantic therefore drops. -/
structure TaskBody where
  action : String
  params : Option (List (String × Json)) := none
  twoKeyToken : Option String := none

inductive Call
  | executeAction (payload : ActionExecuteRequest)
  | isolateHost (hostId : String) (payload : Option IsolateHostRequest)
  | releaseHost (hostId : String) (payload : Option IsolateHostRequest)
  | assignAgentTask (endpointId : String) (body : TaskBody)

/-! ### Tables -/

/-- The columns of `endpoint_inventory` the task route reads. `localIp` is no column: it is the
address `detect_local_network` finds on the endpoint itself. -/
structure Endpoint where
  endpointId : String
  tenantId : String
  cfTunnelUrl : Option String
  localIp : String

structure TaskRow where
  taskId : Nat
  endpointId : String
  tenantId : String
  action : String
  params : List (String × Json)
  status : String := "pending"
  resultDetails : Option Json := none

structure Db where
  endpointInventory : List Endpoint
  agentTasks : List TaskRow

/-- What one request takes from outside: the id the database draws, whether the `INSERT` raises, and
how the webhook push ends (`none` if it or the `UPDATE` after it raises, else the answer's `status`
and `details`). -/
structure Draw where
  taskId : Nat
  insertFails : Bool
  webhook : Option (Option String × Json)

/-! ### Answers -/

inductive Reply
  | accepted (action target risk message : String)
  | success (message : String)
  | task (taskId : Nat) (status : String)
  | error (err : HttpError)

structure WebhookPayload where
  taskId : Nat
  action : String
  params : Option (List (String × Json))

structure Outcome where
  reply : Reply
  inserted : Option TaskRow := none
  posted : Option (String × WebhookPayload) := none

def Reply.isError : Reply → Bool
  | .error _ => true
  | _ => false

/-- The request's action was accepted: answered as accepted, stored as a task or sent to the
agent. -/
def Outcome.accepts (o : Outcome) : Bool := !o.reply.isError || o.inserted.isSome || o.posted.isSome

def Outcome.reject (err : HttpError) : Outcome := { reply := .error err }

/-! ### Handlers -/

def executeAction (p : ActionExecuteRequest) : Outcome :=
  if p.risk ∈ ["DESTRUCTIVE", "HIGH_IMPACT_WRITE"] ∧ truthy p.twoKeyToken = none then
    .reject ⟨403, "Two-Key authorization required."⟩
  else
    { reply := .accepted p.action p.target p.risk
        ("Action '" ++ p.action ++ "' on '" ++ p.target ++ "' submitted.") }

/-- The gate `isolate_host` and `release_host` share; `done` is the end of the message. -/
def twoKeyHostAction (done : String) (hostId : String) (payload : Option IsolateHostRequest) : Outcome :=
  if truthy (payload.bind (·.twoKeyToken)) = none then .reject ⟨403, "Two-Key token required."⟩
  else { reply := .success ("Host " ++ hostId ++ " " ++ done) }

def isolateHost : String → Option IsolateHostRequest → Outcome := twoKeyHostAction "isolated"

def releaseHost : String → Option IsolateHostRequest → Outcome :=
  twoKeyHostAction "released from isolation"

def assignAgentTask (db : Db) (endpointId : String) (req : TaskBody) (d : Draw) : Db × Outcome :=
  match db.endpointInventory.find? (·.endpointId = endpointId) with
  | none => (db, .reject ⟨404, "Endpoint not found"⟩)
  | some endpoint =>
    if d.insertFails then (db, .reject ⟨500, "Internal Server Error"⟩) else
    let row : TaskRow := { taskId := d.taskId, endpointId, tenantId := endpoint.tenantId,
                           action := req.action, params := req.params.getD [] }
    let pending := { db with agentTasks := row :: db.agentTasks }
    match truthy endpoint.cfTunnelUrl with
    | none => (pending, { reply := .task d.taskId "pending", inserted := row })
    | some url =>
      let posted := some (rstrip (· = '/') url ++ "/agent/execute",
        ⟨d.taskId, req.action, req.params⟩)
      match d.webhook with
      | none => (pending, { reply := .task d.taskId "pending", inserted := row, posted })
      | some (status, details) =>
        let status := status.getD "success"
        let done : TaskRow := { row with status, resultDetails := details }
        ({ db with agentTasks := done :: db.agentTasks },
          { reply := .task d.taskId status, inserted := row, posted })

def handle (jwt : Jwt) (env : Env) (db : Db) (q : Request × Call × Draw) : Db × Outcome :=
  match verifyInternalAuth jwt env q.1 with
  | .error err => (db, .reject err)
  | .ok () =>
    match q.2.1 with
    | .executeAction payload => (db, executeAction payload)
    | .isolateHost hostId payload => (db, isolateHost hostId payload)
    | .releaseHost hostId payload => (db, releaseHost hostId payload)
    | .assignAgentTask endpointId body => assignAgentTask db endpointId body q.2.2

/-! ### What a request asks for -/

/-- The target the agent's `execute_task` reads out of the parameters of a containment task. -/
def taskTarget (localIp : String) (body : TaskBody) : Json :=
  let params := body.params.getD []
  if body.action ∈ containerActions then
    (Json.getTrue params "container_id").getD ((params.lookup "target").getD (.str ""))
  else ((Json.getTrue params "target_ip").or (Json.getTrue params "target")).getD (.str localIp)

def Call.action : Call → String
  | .executeAction p => p.action
  | .isolateHost .. => "isolate_host"
  | .releaseHost .. => "release_host"
  | .assignAgentTask _ body => body.action

def Call.target (db : Db) : Call → Json
  | .executeAction p => .str p.target
  | .isolateHost hostId _ | .releaseHost hostId _ => .str hostId
  | .assignAgentTask endpointId body =>
    match db.endpointInventory.find? (·.endpointId = endpointId) with
    | some endpoint => taskTarget endpoint.localIp body
    | none => .null

/-- The request carries a non-empty `twoKeyToken`; a task may also carry it among its parameters. -/
def Call.carriesToken : Call → Bool
  | .executeAction p => (truthy p.twoKeyToken).isSome
  | .isolateHost _ p | .releaseHost _ p => (truthy (p.bind (·.twoKeyToken))).isSome
  | .assignAgentTask _ body =>
    (truthy body.twoKeyToken).isSome || (Json.getTrue (body.params.getD []) "twoKeyToken").isSome

end SocFabric.ActionApi
