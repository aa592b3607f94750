import SocFabric.ActionApi

/-!
# The agent's executor (`hybrid-siem-agent/agent_poller.py`)

`execute_task` with every action it knows, and the two encodings in which a task reaches it: the
JSON body of the webhook, where `params` is an object or `null`, and the list `get_agent_tasks`
answers with, where the `JSONB` column `params` is a text (asyncpg decodes it only if a codec is
set). A text has no `get`, so the polled task fails in every branch that reads its parameters
(`executeTask_polled_iff`).
-/

namespace SocFabric.Agent
open ActionApi

/-! ### Tasks -/

/-- A decoded `params` member. -/
inductive Params
  | none
  | dict (members : List (String × Json))
  | text (s : String)

/-- The members of a decoded task that `execute_task` reads. -/
structure Task where
  taskId : String
  action : String
  params : Params

structure TaskResult where
  status : String
  details : List (String × Json)

def success (details : List (String × Json)) : TaskResult := ⟨"success", details⟩

def failed (error : String) : TaskResult := ⟨"failed", [("error", .str error)]⟩

/-- What the agent finds on its machine while it runs a task: the answer of `detect_local_network`,
the clock and platform, and Python's formatting of a decoded value in an f-string. -/
structure AgentEnv where
  localIp : String
  gateway : String
  subnet : String
  devices : List Json
  utcnow : String
  platform : String
  format : Json → String

/-- `params.get`: only a dict has it. -/
def Params.get : Params → Except String (String → Option Json)
  | .dict members => .ok fun key => members.lookup key
  | .none => .error "'NoneType' object has no attribute 'get'"
  | .text _ => .error "'str' object has no attribute 'get'"

/-- `a or b` of two optional values. -/
def orElse (a : Option Json) (b : Json) : Json :=
  match a with
  | some v => if v.truth then v else b
  | none => b

/-! ### Actions -/

def targetIp (env : AgentEnv) (get : String → Option Json) : Json :=
  orElse (get "target_ip") (orElse (get "target") (.str env.localIp))

def containerId (get : String → Option Json) : Json :=
  orElse (get "container_id") ((get "target").getD (.str ""))

def isolateLanClient (env : AgentEnv) (get : String → Option Json) : TaskResult :=
  success
    [("msg", .str ("Host " ++ env.format (targetIp env get) ++ " quarantined on local WiFi 6 subnet")),
      ("target", targetIp env get), ("mechanism", .str "ARP_LAYER2_ISOLATION"),
      ("router_gateway", .str env.gateway), ("subnet", .str env.subnet)]

def releaseLanClient (env : AgentEnv) (get : String → Option Json) : TaskResult :=
  success
    [("msg", .str ("Host " ++ env.format (targetIp env get) ++ " released")), ("target", targetIp env get)]

/-- The container actions fail without a container. -/
def onContainer (get : String → Option Json) (run : Json → TaskResult) : TaskResult :=
  if (containerId get).truth then run (containerId get) else failed "Missing container_id parameter"

def throttleContainerNetwork (env : AgentEnv) (get : String → Option Json) : TaskResult :=
  let rateKbps := (get "rate_kbps").getD (.num 512)
  onContainer get fun id =>
    success
      [("msg", .str ("Container " ++ env.format id ++ " network throttled to " ++ env.format rateKbps ++ " Kbps")),
        ("container_id", id), ("mechanism", .str "TC_TOKEN_BUCKET_FILTER"), ("rate_kbps", rateKbps)]

def pauseContainer (env : AgentEnv) (get : String → Option Json) : TaskResult :=
  onContainer get fun id =>
    success
      [("msg", .str ("Container " ++ env.format id ++ " paused (all processes suspended)")),
        ("container_id", id), ("mechanism", .str "DOCKER_PAUSE_CGROUP_FREEZE")]

def resumeContainer (env : AgentEnv) (get : String → Option Json) : TaskResult :=
  onContainer get fun id =>
    success [("msg", .str ("Container " ++ env.format id ++ " resumed")), ("container_id", id)]

def queryLanDevices (env : AgentEnv) : TaskResult :=
  success
    [("gateway", .str env.gateway), ("subnet", .str env.subnet), ("host_ip", .str env.localIp),
      ("devices", .arr env.devices)]

def collectEndpointProcessTelemetry (env : AgentEnv) : TaskResult :=
  let process : Json := .obj
    [("pid", .num 1234), ("process_name", .str "chrome.exe"), ("parent_process_name", .str "explorer.exe"),
      ("command_line", .str "chrome.exe --profile-directory=Default"), ("cpu_pct", .num (5 / 2)),
      ("mem_rss_bytes", .num 204800000), ("timestamp", .str (env.utcnow ++ "Z"))]
  success
    [("msg", .str "Process telemetry snapshot collected (1 processes)"), ("platform", .str env.platform),
      ("processes", .arr [process])]

def collectEndpointFlowTelemetry (env : AgentEnv) : TaskResult :=
  let flow : Json := .obj
    [("pid", .num 1234), ("process_name", .str "chrome.exe"), ("source_ip", .str env.localIp),
      ("destination_ip", .str "142.250.80.14"), ("destination_port", .num 443), ("protocol", .str "TCP"),
      ("bytes_out", .num 10240), ("bytes_in", .num 512000), ("domain", .str "google.com"),
      ("timestamp", .str (env.utcnow ++ "Z"))]
  success [("msg", .str "Flow telemetry snapshot collected (1 flows)"), ("flows", .arr [flow])]

/-- The branches that read `params`. -/
def readsParams : String → Option (AgentEnv → (String → Option Json) → TaskResult)
  | "isolate_host" | "isolate_lan_client" => some isolateLanClient
  | "release_host" | "release_lan_client" => some releaseLanClient
  | "throttle_container_network" => some throttleContainerNetwork
  | "pause_container" => some pauseContainer
  | "resume_container" => some resumeContainer
  | _ => none

/-- The branches that do not. -/
def ignoresParams (env : AgentEnv) : String → TaskResult
  | "query_lan_devices" => queryLanDevices env
  | "maintenance_mode" => success [("msg", .str "Maintenance mode activated")]
  | "test_alert" => success [("msg", .str "Test alert triggered locally")]
  | "collect_diagnostics" => success [("cpu_usage", .str "45%"), ("memory_usage", .str "62%")]
  | "collect_endpoint_process_telemetry" => collectEndpointProcessTelemetry env
  | "collect_endpoint_flow_telemetry" => collectEndpointFlowTelemetry env
  | action => failed ("Unknown action: " ++ action)

def executeTask (env : AgentEnv) (task : Task) : TaskResult :=
  match readsParams task.action with
  | some run =>
    match task.params.get with
    | .ok get => run env get
    | .error err => failed err -- `except Exception as e`
  | none => ignoresParams env task.action

/-! ### The two encodings -/

/-- The body of the webhook, decoded. -/
def ofWebhook (formatId : Nat → String) (p : WebhookPayload) : Task where
  taskId := formatId p.taskId
  action := p.action
  params := match p.params with
    | some members => .dict members
    | none => .none

/-- A record of `get_agent_tasks`, decoded; `jsonbText` is the text PostgreSQL has for the
column. -/
def ofRecord (formatId : Nat → String) (jsonbText : List (String × Json) → String) (row : TaskRow) : Task where
  taskId := formatId row.taskId
  action := row.action
  params := .text (jsonbText row.params)

/-! ### What becomes of a polled task -/

theorem failed_inj {e e' : String} (h : failed e = failed e') : e = e' := by
  injection h with _ hdetails
  injection hdetails with hentry _
  injection hentry with _ herr
  injection herr

/-- A branch that gets to read its parameters succeeds or misses the container. -/
def Reads (r : TaskResult) : Prop := r.status = "success" ∨ r = failed "Missing container_id parameter"

theorem onContainer_reads {get : String → Option Json} {run : Json → TaskResult}
    (h : ∀ id, (run id).status = "success") : Reads (onContainer get run) := by
  unfold onContainer
  split
  · exact .inl (h _)
  · exact .inr rfl

theorem readsParams_reads {action : String} {run : AgentEnv → (String → Option Json) → TaskResult}
    (h : readsParams action = some run) (env : AgentEnv) (get : String → Option Json) : Reads (run env get) := by
  unfold readsParams at h
  split at h
  case h_8 => cases h
  case h_5 | h_6 | h_7 =>
    cases h
    exact onContainer_reads fun _ => rfl
  all_goals
    cases h
    exact .inl rfl

/-- The text of a polled task fails where an object or a `None` ends otherwise. -/
theorem executeTask_ne_text {env : AgentEnv} {t t' : Task} {text : String}
    (hreads : (readsParams t.action).isSome)
    (haction : t'.action = t.action) (ht : ∀ s, t.params ≠ .text s) (ht' : t'.params = .text text) :
    executeTask env t ≠ executeTask env t' := by
  obtain ⟨run, hrun⟩ := Option.isSome_iff_exists.mp hreads
  have htext : executeTask env t' = failed "'str' object has no attribute 'get'" := by
    simp only [executeTask, haction, hrun, ht', Params.get]
  intro heq
  rw [htext] at heq
  cases hp : t.params with
  | text s => exact ht s hp
  | none =>
    simp only [executeTask, hrun, hp, Params.get] at heq
    exact absurd (failed_inj heq) (by decide)
  | dict members =>
    simp only [executeTask, hrun, hp, Params.get] at heq
    rcases readsParams_reads hrun env fun key => members.lookup key with hok | hmiss
    · rw [heq] at hok
      exact absurd hok (by decide)
    · rw [hmiss] at heq
      exact absurd (failed_inj heq) (by decide)

theorem executeTask_eq_of_ignores {env : AgentEnv} {t t' : Task} (h : readsParams t.action = none)
    (haction : t'.action = t.action) : executeTask env t = executeTask env t' := by
  unfold executeTask
  rw [haction, h]

def paramActions : List String :=
  ["isolate_host", "isolate_lan_client", "release_host", "release_lan_client", "throttle_container_network",
    "pause_container", "resume_container"]

theorem readsParams_eq_none_iff (action : String) : readsParams action = none ↔ action ∉ paramActions := by
  unfold readsParams
  split
  case h_8 => simp_all [paramActions]
  all_goals simp [paramActions]

section
variable {db : Db} {endpointId : String} {req : TaskBody} {d : Draw} {url : String} {payload : WebhookPayload}
  {row : TaskRow}

/-- What a call of `assign_agent_task` pushes. -/
theorem assignAgentTask_posted (h : (assignAgentTask db endpointId req d).2.posted = some (url, payload)) :
    payload = ⟨d.taskId, req.action, req.params⟩ := by
  unfold assignAgentTask at h
  split at h
  · cases h
  · split at h
    · cases h
    · split at h
      · cases h
      · split at h <;> cases h <;> rfl

/-- What a call of `assign_agent_task` stores. -/
theorem assignAgentTask_inserted (h : (assignAgentTask db endpointId req d).2.inserted = some row) :
    row.action = req.action ∧ row.params = req.params.getD [] := by
  unfold assignAgentTask at h
  split at h
  · cases h
  · split at h
    · cases h
    · split at h
      · cases h
        exact ⟨rfl, rfl⟩
      · split at h <;> cases h <;> exact ⟨rfl, rfl⟩

end

/-- The task that `assign_agent_task` pushes and the task that the agent polls for the row of the
same call give the same result exactly for the actions that never look at their parameters. -/
theorem executeTask_polled_iff (formatId : Nat → String) (jsonbText : List (String × Json) → String)
    (env : AgentEnv) (db : Db) (endpointId : String) (req : TaskBody) (d : Draw) (url : String)
    (payload : WebhookPayload) (row : TaskRow)
    (hposted : (assignAgentTask db endpointId req d).2.posted = some (url, payload))
    (hinserted : (assignAgentTask db endpointId req d).2.inserted = some row) :
    executeTask env (ofWebhook formatId payload) = executeTask env (ofRecord formatId jsonbText row) ↔
      req.action ∉ paramActions := by
  obtain rfl := assignAgentTask_posted hposted
  obtain ⟨hrow, -⟩ := assignAgentTask_inserted hinserted
  rw [← readsParams_eq_none_iff]
  constructor
  · intro heq
    by_contra hreads
    refine executeTask_ne_text (Option.ne_none_iff_isSome.mp hreads) hrow ?_ rfl heq
    intro s
    simp only [ofWebhook]
    cases req.params <;> exact nofun
  · intro hignores
    exact executeTask_eq_of_ignores hignores hrow

def acmeEndpoint : Endpoint := ⟨"e-7", "acme-corp", some "https://e-7.acme.example", "10.0.0.33"⟩

def quietEnv : AgentEnv :=
  ⟨"10.0.0.33", "10.0.0.10", "10.0.0.0/24", [], "2026-07-25T10:00:00", "Linux", fun
    | .str s => s
    | _ => ""⟩

theorem maintenance_mode_same_result :
    executeTask quietEnv (ofWebhook toString ⟨1, "maintenance_mode", none⟩) =
        executeTask quietEnv (ofRecord toString (fun _ => "\x7b\x7d")
          { taskId := 1, endpointId := "e-7", tenantId := "acme-corp", action := "maintenance_mode", params := [] }) ↔
      "maintenance_mode" ∉ paramActions :=
  executeTask_polled_iff toString (fun _ => "\x7b\x7d") quietEnv ⟨[acmeEndpoint], []⟩ "e-7"
    { action := "maintenance_mode" } ⟨1, false, none⟩ _ _ _ rfl rfl

/-- An isolation that the webhook carries out fails when it is polled. -/
theorem isolate_host_differs_when_polled :
    ¬ ∀ (formatId : Nat → String) (jsonbText : List (String × Json) → String) (env : AgentEnv) (db : Db)
      (endpointId : String) (req : TaskBody) (d : Draw) (url : String) (payload : WebhookPayload) (row : TaskRow),
      (assignAgentTask db endpointId req d).2.posted = some (url, payload) →
      (assignAgentTask db endpointId req d).2.inserted = some row →
        executeTask env (ofWebhook formatId payload) = executeTask env (ofRecord formatId jsonbText row) := by
  intro h
  have hsame := h toString (fun _ => "\x7b\"target\": \"10.0.0.7\"\x7d") quietEnv ⟨[acmeEndpoint], []⟩ "e-7"
    { action := "isolate_host", params := some [("target", .str "10.0.0.7")] } ⟨1, false, none⟩ _ _ _ rfl rfl
  have hstatus := congrArg TaskResult.status hsame
  exact absurd hstatus (by decide)

end SocFabric.Agent
