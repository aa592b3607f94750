import SocFabric.AgentExecutor
import SocFabric.Lib.Lts
import Mathlib.Data.List.Sort
import Mathlib.Logic.Function.Basic

/-!
# Delivery of agent tasks

The two ways a task reaches its agent, as one system. The hub's side is `assign_agent_task`, cut at
its statements and at the webhook round trip, `get_agent_tasks` and `submit_task_result`
(`interfaces/agent_routes.py`); the agent's side is `poll_for_tasks` with its execute and submit
loop and `handle_webhook_execute` (`hybrid-siem-agent/agent_poller.py`). Messages wait in the state
until they arrive or are lost, and all parties interleave freely. The poll and result routes run for
an endpoint that has passed `verify_endpoint_secret`. `log` is no part of the program: it records
what was handed out and executed.
-/

namespace SocFabric.AgentTasks
open Agent ActionApi Text

/-! ### State -/

/-- A row of `agent_tasks`. -/
structure Row extends TaskRow where
  requestedAt : Int
  completedAt : Option Int := none

/-- Where a call of `assign_agent_task` stands. -/
inductive AssignPc
  | select (endpointId : String) (req : TaskBody)
  | insert (endpointId : String) (req : TaskBody) (tenantId : String) (cfTunnelUrl : Option String)
  -- `client.post`, then the wait for its answer
  | post (endpointId : String) (payload : WebhookPayload)
  | wait (taskId : Nat)
  -- the `UPDATE` that completes the task
  | update (taskId : Nat) (result : TaskResult)
  | replied (reply : Reply)

/-- A webhook request on its way to the agent, or waiting there. -/
structure Push where
  request : Nat
  endpointId : String
  payload : WebhookPayload

/-- A request of `submit_task_result` by an endpoint. -/
structure Submit where
  endpointId : String
  taskId : Nat
  status : String
  details : Option (List (String × Json))

/-- The polling loop of an endpoint's agent. -/
inductive Poller
  | idle
  -- the hub has answered; the answer is on its way
  | answered (tasks : List Row)
  | holding (tasks : List Row)
  | submitting (taskId : Nat) (result : TaskResult) (rest : List Row)

inductive Event
  | pushed (endpointId : String) (taskId : Nat)
  | polled (endpointId : String) (taskId : Nat)
  | executed (endpointId : String) (taskId : Nat)
deriving DecidableEq, Repr

structure State where
  tasks : List Row
  requests : Nat → Option AssignPc
  pushes : List Push
  answers : List (Nat × TaskResult)
  submits : List Submit
  pollers : String → Poller
  log : List Event

def init : State where
  tasks := []
  requests := fun _ => none
  pushes := []
  answers := []
  submits := []
  pollers := fun _ => .idle
  log := []

/-! ### Statements -/

/-- What a statement of `assign_agent_task` takes from outside: the row the first `SELECT` finds,
the id the database draws, the clock, and whether the statement or the connection fails. -/
structure AssignDraw where
  endpoint : Option (String × Option String)
  taskId : Nat
  now : Int
  fails : Bool

/-- `UPDATE agent_tasks SET status, result_details, completed_at` of the rows that `owned` picks. -/
def complete (owned : Row → Bool) (status : String) (details : Json) (now : Int) (tasks : List Row) : List Row :=
  tasks.map fun row =>
    if owned row then
      { row with status := status, resultDetails := some details, completedAt := some now }
    else row

/-- The `SELECT` of `get_agent_tasks`. -/
def selectPending (endpointId : String) (maxTasks : Nat) (tasks : List Row) : List Row :=
  ((tasks.filter fun row => row.endpointId = endpointId ∧ row.status = "pending").insertionSort
    fun a b => a.requestedAt ≤ b.requestedAt).take maxTasks

def State.setRequest (s : State) (i : Nat) (pc : AssignPc) : State :=
  { s with requests := Function.update s.requests i (some pc) }

def State.setPoller (s : State) (endpointId : String) (p : Poller) : State :=
  { s with pollers := Function.update s.pollers endpointId p }

def stepAssign (s : State) (i : Nat) (d : AssignDraw) : AssignPc → Option State
  | .select endpointId req =>
    if d.fails then some (s.setRequest i (.replied (.error ⟨500, "Internal Server Error"⟩))) else
    match d.endpoint with
    | none => some (s.setRequest i (.replied (.error ⟨404, "Endpoint not found"⟩)))
    | some (tenantId, url) => some (s.setRequest i (.insert endpointId req tenantId url))
  | .insert endpointId req tenantId url =>
    -- `task_id` is the primary key
    if d.fails ∨ d.taskId ∈ s.tasks.map (·.taskId) then
      some (s.setRequest i (.replied (.error ⟨500, "Internal Server Error"⟩)))
    else
      let row : Row := { taskId := d.taskId, endpointId, tenantId, action := req.action,
                         params := req.params.getD [], requestedAt := d.now }
      let s' := { s with tasks := s.tasks ++ [row] }
      match truthy url with
      | none => some (s'.setRequest i (.replied (.task d.taskId "pending")))
      | some _ => some (s'.setRequest i (.post endpointId ⟨d.taskId, req.action, req.params⟩))
  | .post endpointId payload =>
    if d.fails then some (s.setRequest i (.replied (.task payload.taskId "pending")))
    else
      some { s.setRequest i (.wait payload.taskId) with
        pushes := s.pushes ++ [⟨i, endpointId, payload⟩]
        log := s.log ++ [.pushed endpointId payload.taskId] }
  | .update taskId result =>
    -- an exception falls back to polling as well
    if d.fails then some (s.setRequest i (.replied (.task taskId "pending")))
    else
      some { s.setRequest i (.replied (.task taskId result.status)) with
        tasks := complete (·.taskId = taskId) result.status (.obj result.details) d.now s.tasks }
  | .wait _ => none
  | .replied _ => none

/-! ### Steps -/

/-- How the agent reads a record: the id's text, and the text of a `JSONB` column. -/
structure Codec where
  formatId : Nat → String
  jsonbText : List (String × Json) → String

inductive Act
  -- `assign_agent_task`
  | assign (request : Nat) (endpointId : String) (req : TaskBody)
  | advance (request : Nat) (d : AssignDraw)
  | receive (request : Nat)
  | timeout (request : Nat) -- or another exception before the answer is read
  -- `handle_webhook_execute`
  | executePush (k : Nat) (env : AgentEnv)
  | losePush (k : Nat)
  -- `poll_for_tasks`
  | poll (endpointId : String) (maxTasks : Nat)
  | pollDelivered (endpointId : String)
  | pollLost (endpointId : String)
  | execute (endpointId : String) (env : AgentEnv)
  | submit (endpointId : String) -- the post returns or raises whatever becomes of it
  -- `submit_task_result`, also of a client that is not the polling loop
  | requestSubmit (r : Submit)
  | commitSubmit (k : Nat) (now : Int)
  | loseSubmit (k : Nat)

def step (codec : Codec) (s : State) : Act → Option State
  | .assign i endpointId req =>
    match s.requests i with
    | none => some (s.setRequest i (.select endpointId req))
    | some _ => none
  | .advance i d => (s.requests i).bind (stepAssign s i d)
  | .receive i =>
    match s.requests i, s.answers.lookup i with
    | some (.wait taskId), some result => some (s.setRequest i (.update taskId result))
    | _, _ => none
  | .timeout i =>
    match s.requests i with
    | some (.wait taskId) => some (s.setRequest i (.replied (.task taskId "pending")))
    | _ => none
  | .executePush k env =>
    match s.pushes[k]? with
    | none => none
    | some p =>
      some { s with
        pushes := s.pushes.eraseIdx k
        answers := s.answers ++ [(p.request, executeTask env (ofWebhook codec.formatId p.payload))]
        log := s.log ++ [.executed p.endpointId p.payload.taskId] }
  | .losePush k => some { s with pushes := s.pushes.eraseIdx k }
  | .poll endpointId maxTasks =>
    match s.pollers endpointId with
    | .idle =>
      let tasks := selectPending endpointId maxTasks s.tasks
      some { s.setPoller endpointId (.answered tasks) with
        log := s.log ++ tasks.map fun row => .polled endpointId row.taskId }
    | _ => none
  | .pollDelivered endpointId =>
    match s.pollers endpointId with
    | .answered tasks => some (s.setPoller endpointId (.holding tasks))
    | _ => none
  | .pollLost endpointId =>
    match s.pollers endpointId with
    | .answered _ => some (s.setPoller endpointId .idle)
    | _ => none
  | .execute endpointId env =>
    match s.pollers endpointId with
    | .holding (row :: rest) =>
      let result := executeTask env (ofRecord codec.formatId codec.jsonbText row.toTaskRow)
      some { s.setPoller endpointId (.submitting row.taskId result rest) with
        log := s.log ++ [.executed endpointId row.taskId] }
    | .holding [] => some (s.setPoller endpointId .idle)
    | _ => none
  | .submit endpointId =>
    match s.pollers endpointId with
    | .submitting taskId result rest =>
      some { s.setPoller endpointId (.holding rest) with
        submits := s.submits ++ [⟨endpointId, taskId, result.status, some result.details⟩] }
    | _ => none
  | .requestSubmit r => some { s with submits := s.submits ++ [r] }
  | .commitSubmit k now =>
    match s.submits[k]? with
    | none => none
    | some r =>
      some { s with
        submits := s.submits.eraseIdx k
        tasks := complete (fun row => row.taskId = r.taskId ∧ row.endpointId = r.endpointId) r.status
          (.obj (r.details.getD [])) now s.tasks }
  | .loseSubmit k => some { s with submits := s.submits.eraseIdx k }

end SocFabric.AgentTasks
