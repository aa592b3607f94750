import Mathlib.Algebra.BigOperators.Group.Multiset.Basic
import Mathlib.Data.Multiset.Count
import Mathlib.Data.Multiset.Filter
import SocFabric.Lib.Float64

/-!
# The metrics of a tenant (`interfaces/api_routes.py`)

`get_metrics_overview` reads the endpoints and tasks of the tenant, asks ClickHouse about its
telemetry, falls back on the sizes of the audit rows of its endpoints, and counts all audit rows of
the platform. `metrics_noninterference_iff` says what of the other tenants the answer depends on:
how many audit rows they have, and how many of these are of a prevented action.
-/

namespace SocFabric
namespace Metrics

structure EndpointRow where
  endpointId : String -- `endpoint_id::text`
  tenantId : String
  status : String
deriving DecidableEq, Repr

structure TaskRow where
  tenantId : String
  status : String
deriving DecidableEq, Repr

/-- A row of `audit_logs`, which has no tenant column: `tenantId` is the member `tenant_id` of
`context`, if it is there. The sizes are `pg_column_size` of three columns. -/
structure AuditRow where
  agent : String
  tenantId : Option String := none
  policyDecision : String
  contextSize : Nat
  actionSize : Nat
  agentSize : Nat
deriving DecidableEq, Repr

structure TelemetryRow where
  tenantId : String
  payload : String
deriving DecidableEq, Repr

structure Db where
  endpointInventory : Multiset EndpointRow
  agentTasks : Multiset TaskRow
  auditLogs : Multiset AuditRow
  remoteAgentTelemetry : Multiset TelemetryRow

/-- The first row of ClickHouse's answer: `int` of the count and `float` of the sum of lengths,
where these do not raise. -/
structure StatsRow where
  count : Option Int
  rawBytes : Option Rat
deriving DecidableEq, Repr

/-- `clickhouse` answers the query for the rows that its `WHERE` clause keeps, unless it is
unavailable, reports an error or sends no data; `fallbackRaises` says whether the query of the
fallback raises. -/
structure Deployment where
  clickhouse : Multiset TelemetryRow → Option StatsRow
  fallbackRaises : Bool := false

structure Overview where
  alertsScanned : Int
  eventsIngestGB24h : Rat
  dataIngestTB24h : Rat
  openIncidents : Nat
  preventedEvents : Nat
deriving DecidableEq, Repr

/-- `round(x, digits)`. -/
def pyRound (x : Rat) (digits : Nat) : Option Rat := Float64.round (roundEven (x * 10 ^ digits) / 10 ^ digits)

/-- `round(bytes / (1024 ** 3), 4)` and `round(bytes / (1024 ** 4), 6)`; nothing here overflows. -/
def ingest (bytes : Rat) : Option (Rat × Rat) := do
  let gb ← pyRound (← Float64.round (bytes / 1024 ^ 3)) 4
  let tb ← pyRound (← Float64.round (bytes / 1024 ^ 4)) 6
  return (gb, tb)

/-- `ch_alerts_count`, and the two volumes that ClickHouse's answer gives. -/
def clickhouseStats : Option StatsRow → Int × Rat × Rat
  | none => (0, 0, 0)
  | some row =>
    match row.count, row.rawBytes.bind ingest with
    | none, _ => (0, 0, 0)
    | some n, none => (n, 0, 0)
    | some n, some volumes => (n, volumes)

def preventedDecisions : List String := ["BLOCKED", "DENIED", "REJECTED", "ISOLATED"]

def AuditRow.prevented (a : AuditRow) : Prop := a.policyDecision ∈ preventedDecisions

instance : DecidablePred AuditRow.prevented := fun a => inferInstanceAs (Decidable (a.policyDecision ∈ preventedDecisions))

def AuditRow.size (a : AuditRow) : Nat := a.contextSize + a.actionSize + a.agentSize

namespace Db

variable (db : Db) (tenant : String)

def endpointsOf : Multiset EndpointRow := db.endpointInventory.filter (·.tenantId = tenant)

def tasksOf : Multiset TaskRow := db.agentTasks.filter (·.tenantId = tenant)

def telemetryOf : Multiset TelemetryRow := db.remoteAgentTelemetry.filter (·.tenantId = tenant)

/-- The query of the fallback, a join of the audit rows with the endpoints of the tenant. -/
def auditBytes : Nat :=
  ((db.endpointsOf tenant).map fun e => ((db.auditLogs.filter (·.agent = e.endpointId)).map AuditRow.size).sum).sum

/-- The two volumes: those of ClickHouse unless it reports no gigabytes. -/
def volumes (d : Deployment) (ch : Rat × Rat) : Rat × Rat :=
  if ch.1 = 0 then
    if d.fallbackRaises then ch
    else ((Float64.round (db.auditBytes tenant)).bind ingest).getD ch
  else ch

def getMetricsOverview (d : Deployment) : Overview :=
  let openIncidents := (db.endpointsOf tenant).countP fun e => e.status = "isolated" ∨ e.status = "pending_register"
  let audits := db.auditLogs.card
  let prevented := db.auditLogs.countP AuditRow.prevented
  let tasks := (db.tasksOf tenant).card
  let ch := clickhouseStats (d.clickhouse (db.telemetryOf tenant))
  let volumes := db.volumes tenant d ch.2
  { alertsScanned := audits + tasks + ch.1
    eventsIngestGB24h := volumes.1
    dataIngestTB24h := volumes.2
    openIncidents
    preventedEvents := prevented }

/-! ### Rows of a tenant -/

/-- An audit row is of the tenant if its agent is one of the tenant's endpoints, or its context
names the tenant. -/
def Owns (a : AuditRow) : Prop :=
  a.agent ∈ (db.endpointsOf tenant).map EndpointRow.endpointId ∨ a.tenantId = some tenant

instance : DecidablePred (db.Owns tenant) := fun a =>
  inferInstanceAs (Decidable (a.agent ∈ (db.endpointsOf tenant).map EndpointRow.endpointId ∨ a.tenantId = some tenant))

def auditsOf : Multiset AuditRow := db.auditLogs.filter (db.Owns tenant)

def foreignAudits : Multiset AuditRow := db.auditLogs.filter fun a => ¬ db.Owns tenant a

end Db

structure AgreeOn (tenant : String) (db db' : Db) : Prop where
  endpoints : db.endpointsOf tenant = db'.endpointsOf tenant
  tasks : db.tasksOf tenant = db'.tasksOf tenant
  telemetry : db.telemetryOf tenant = db'.telemetryOf tenant
  audits : db.auditsOf tenant = db'.auditsOf tenant

section
variable {tenant : String} {db db' : Db}

theorem card_auditLogs (db : Db) (tenant : String) :
    db.auditLogs.card = (db.auditsOf tenant).card + (db.foreignAudits tenant).card := by
  rw [← Multiset.card_add, Db.auditsOf, Db.foreignAudits, Multiset.filter_add_not]

theorem countP_auditLogs (db : Db) (tenant : String) :
    db.auditLogs.countP AuditRow.prevented =
      (db.auditsOf tenant).countP AuditRow.prevented + (db.foreignAudits tenant).countP AuditRow.prevented := by
  rw [← Multiset.countP_add, Db.auditsOf, Db.foreignAudits, Multiset.filter_add_not]

/-- The join only meets audit rows of the tenant. -/
theorem auditBytes_eq (db : Db) (tenant : String) :
    db.auditBytes tenant =
      ((db.endpointsOf tenant).map fun e =>
        (((db.auditsOf tenant).filter (·.agent = e.endpointId)).map AuditRow.size).sum).sum := by
  rw [Db.auditBytes]
  congr 1
  refine Multiset.map_congr rfl ?_
  intro e he
  have hfilter : db.auditLogs.filter (·.agent = e.endpointId) = (db.auditsOf tenant).filter (·.agent = e.endpointId) := by
    rw [Db.auditsOf, Multiset.filter_filter]
    refine Multiset.filter_congr fun a _ => ?_
    refine (and_iff_left_of_imp fun ha => ?_).symm
    exact .inl (Multiset.mem_map.mpr ⟨e, he, ha.symm⟩)
  rw [hfilter]

theorem AgreeOn.volumes_eq (h : AgreeOn tenant db db') (d : Deployment) (ch : Rat × Rat) :
    db.volumes tenant d ch = db'.volumes tenant d ch := by
  have hbytes : db.auditBytes tenant = db'.auditBytes tenant := by
    rw [auditBytes_eq, auditBytes_eq, h.endpoints, h.audits]
  rw [Db.volumes, Db.volumes, hbytes]

end

/-- Of two databases that agree on a tenant's rows, the tenant sees the same metrics exactly if the
other tenants have as many audit rows, and as many of prevented actions, in both. -/
theorem metrics_noninterference_iff (d : Deployment) (tenant : String) (db db' : Db) (h : AgreeOn tenant db db') :
    db.getMetricsOverview tenant d = db'.getMetricsOverview tenant d ↔
      (db.foreignAudits tenant).card = (db'.foreignAudits tenant).card ∧
        (db.foreignAudits tenant).countP AuditRow.prevented = (db'.foreignAudits tenant).countP AuditRow.prevented := by
  have hcard := card_auditLogs db tenant
  have hcard' := card_auditLogs db' tenant
  have hcount := countP_auditLogs db tenant
  have hcount' := countP_auditLogs db' tenant
  rw [h.audits] at hcard hcount
  simp only [Db.getMetricsOverview, h.endpoints, h.tasks, h.telemetry, h.volumes_eq,
    Overview.mk.injEq, true_and]
  constructor
  · rintro ⟨hscanned, hprevented⟩
    exact ⟨by omega, by omega⟩
  · rintro ⟨hforeign, hprevented⟩
    exact ⟨by omega, by omega⟩

/-- A database with nothing but audit rows. -/
def onlyAudits (rows : Multiset AuditRow) : Db := ⟨0, 0, rows, 0⟩

def otherAudit (decision : String) : AuditRow where
  agent := "admin-ui"
  tenantId := some "tenant-b"
  policyDecision := decision
  contextSize := 40
  actionSize := 10
  agentSize := 9

def offline : Deployment := ⟨fun _ => none, false⟩

theorem allowed_alerted_same :
    (onlyAudits {otherAudit "ALLOW"}).getMetricsOverview "tenant-a" offline =
      (onlyAudits {otherAudit "ALERT"}).getMetricsOverview "tenant-a" offline := by
  refine (metrics_noninterference_iff offline "tenant-a" _ _ ?_).mpr ?_
  · exact ⟨rfl, rfl, rfl, by decide⟩
  · decide

/-- A tenant sees that another one had an action blocked. -/
theorem blocked_elsewhere_seen :
    ¬ ∀ (d : Deployment) (tenant : String) (db db' : Db), AgreeOn tenant db db' →
        db.getMetricsOverview tenant d = db'.getMetricsOverview tenant d := by
  intro h
  have hsame := h offline "tenant-a" (onlyAudits 0) (onlyAudits {otherAudit "BLOCKED"})
    ⟨rfl, rfl, rfl, by decide⟩
  have hprevented := congrArg Overview.preventedEvents hsame
  revert hprevented
  decide

end Metrics
end SocFabric
