import SocFabric.IntelligenceEngine
import SocFabric.Lib.Json

/-!
# From a triage to an alert (`soc-backend/domain/Intelligence/AIIntelligenceEngine.py`)

The triage branch of the loop hands a summary of the snapshot to a classifier and stores what it
answers. `_classify_batch` imports the classifier by name when it is called, and
`LargeLanguageModelTriage` binds no such name, so every triage ends in the handler of the
`ImportError` (`triage_never_alerts`).
-/

namespace SocFabric
namespace Intelligence

/-- What the summary says of an event. -/
structure SummaryEntry where
  source : Option String
  severity : Option String
  message : Option String
deriving DecidableEq, Repr

def summaryEntry (e : Event) : SummaryEntry := ⟨e.source, e.severity, e.message⟩

/-- The first twenty events: the oldest of the window. -/
def summary (events : List Event) : List SummaryEntry := (events.take 20).map summaryEntry

structure AuditRow where
  correlationID : String
  agent : String
  action : String
  context : List (String × Json)
  riskLevel : Json
  policyDecision : String

abbrev Classification := List (String × Json)

/-- Names bound in `investigations/LargeLanguageModelTriage.py`, imports included. -/
def triageModuleNames : List String :=
  ["__name__", "__doc__", "__package__", "__loader__", "__spec__", "__file__", "__cached__", "__builtins__",
    "asyncio", "json", "datetime", "timezone", "deque", "Dict", "Any", "Optional", "logging", "logger",
    "_event_buffer", "_subscribers", "emit_agent_event", "simulate_triage_pipeline"]

/-- What a triage runs against: what `run_triage` would be if the module had it, the identifiers the
call draws, and the connections that `get_db_func` yields. A connection executes the insert or
raises. -/
structure AlertEnv where
  runTriage : String → List SummaryEntry → String → Except String (Option Classification)
  triageID : String := ""
  alertID : String := ""
  connections : List (AuditRow → Except String Unit)

/-- The summaries that reach the classifier, and the rows that the inserts leave. -/
structure TriageEffect where
  handed : List (List SummaryEntry) := []
  rows : List AuditRow := []

section
variable (names : List String) (env : AlertEnv) (t : String)

/-- `from Domain.Investigations.LargeLanguageModelTriage import run_triage`, for a module that binds
`names`. -/
def importRunTriage :
    Except String (String → List SummaryEntry → String → Except String (Option Classification)) :=
  if "run_triage" ∈ names then .ok env.runTriage
  else .error "cannot import name 'run_triage' from 'Domain.Investigations.LargeLanguageModelTriage'"

/-- Every exception ends here as `None`. -/
def classifyBatch (events : List Event) : Option Classification × List (List SummaryEntry) :=
  match importRunTriage names env with
  | .error _ => (none, [])
  | .ok runTriage =>
    match runTriage t (summary events) env.triageID with
    | .error _ => (none, [summary events])
    | .ok result => (result, [summary events])

def alertRow (c : Classification) : AuditRow where
  correlationID := env.alertID
  agent := "ai-intelligence-engine"
  action := "anomaly_detected"
  context :=
    [("tenant_id", .str t), ("classification", (c.lookup "classification").getD (.str "unknown")),
      ("confidence", (c.lookup "confidence").getD (.num 0)), ("summary", (c.lookup "summary").getD (.str "")),
      ("recommended_action", (c.lookup "recommended_action").getD (.str "investigate"))]
  riskLevel := (c.lookup "risk_level").getD (.str "MEDIUM")
  policyDecision := "ALERT"

/-- A failed insert is logged and leaves no row. -/
def emitAlert (c : Classification) (db : AuditRow → Except String Unit) : List AuditRow :=
  match db (alertRow env t c) with
  | .ok _ => [alertRow env t c]
  | .error _ => []

/-- The body of the loop over the connections. -/
def triageOn (events : List Event) (db : AuditRow → Except String Unit) : TriageEffect where
  handed := (classifyBatch names env t events).2
  rows :=
    match (classifyBatch names env t events).1 with
    | some c => if c ≠ [] then emitAlert env t c db else []
    | none => []

def triage (events : List Event) : TriageEffect where
  handed := env.connections.flatMap fun db => (triageOn names env t events db).handed
  rows := env.connections.flatMap fun db => (triageOn names env t events db).rows

/-- The event belongs to a kind whose threshold the snapshot crosses. -/
def Contributes (snapshot : List Event) (e : Event) : Prop :=
  ∃ k ∈ [(isWarning, 5), (isCritical, 2)], k.2 ≤ snapshot.countP k.1 ∧ k.1 e = true

/-- One row that names the tenant, from a summary that holds an event which contributed. -/
structure Alerted (snapshot : List Event) : Prop where
  row : ∃ row, (triage names env t snapshot).rows = [row] ∧ row.action = "anomaly_detected" ∧
    ("tenant_id", Json.str t) ∈ row.context
  handed : ∃ s ∈ (triage names env t snapshot).handed, ∃ e ∈ snapshot,
    Contributes snapshot e ∧ summaryEntry e ∈ s

end

section
variable {names : List String} {env : AlertEnv} {t : String} {snapshot : List Event}

theorem triage_of_not_importable (h : "run_triage" ∉ names) :
    (triage names env t snapshot).handed = [] ∧ (triage names env t snapshot).rows = [] := by
  have himport : classifyBatch names env t snapshot = (none, []) := by
    rw [classifyBatch, importRunTriage, if_neg h]
  refine ⟨?_, ?_⟩ <;> rw [triage] <;> simp [triageOn, himport]

theorem handed_of_importable {db : AuditRow → Except String Unit} (h : "run_triage" ∈ names)
    (hdb : env.connections = [db]) : (triage names env t snapshot).handed = [summary snapshot] := by
  have himport : (classifyBatch names env t snapshot).2 = [summary snapshot] := by
    simp only [classifyBatch, importRunTriage, if_pos h]
    split <;> rfl
  simp [triage, hdb, triageOn, himport]

/-- The rows of a triage over one connection that accepts them. -/
theorem rows_of_importable {db : AuditRow → Except String Unit} (h : "run_triage" ∈ names)
    (hdb : env.connections = [db]) (haccepts : ∀ row, db row = .ok ()) (row : AuditRow) :
    (triage names env t snapshot).rows = [row] ↔
      ∃ c, env.runTriage t (summary snapshot) env.triageID = .ok (some c) ∧ c ≠ [] ∧ row = alertRow env t c := by
  have hrows : (triage names env t snapshot).rows = (triageOn names env t snapshot db).rows := by
    simp [triage, hdb]
  simp only [hrows, triageOn, classifyBatch, importRunTriage, if_pos h]
  cases hrun : env.runTriage t (summary snapshot) env.triageID with
  | error e => simp
  | ok result =>
    cases result with
    | none => simp
    | some c =>
      by_cases hc : c = []
      · simp [hc]
      · simp [hc, emitAlert, haccepts, eq_comm]

/-- What it takes for a triage to alert: the module binds the classifier, which answers with a
classification, over one connection that accepts the row; and the twenty oldest events of the
snapshot say what contributed. -/
theorem alerted_iff {db : AuditRow → Except String Unit} (hdb : env.connections = [db])
    (haccepts : ∀ row, db row = .ok ()) :
    Alerted names env t snapshot ↔
      "run_triage" ∈ names ∧
        (∃ c, env.runTriage t (summary snapshot) env.triageID = .ok (some c) ∧ c ≠ []) ∧
        ∃ e ∈ snapshot, Contributes snapshot e ∧ summaryEntry e ∈ summary snapshot := by
  by_cases h : "run_triage" ∈ names
  · constructor
    · rintro ⟨⟨row, hrow, -⟩, s, hs, he⟩
      obtain ⟨c, hc, hne, -⟩ := (rows_of_importable h hdb haccepts row).mp hrow
      rw [handed_of_importable h hdb, List.mem_singleton] at hs
      rw [hs] at he
      exact ⟨h, ⟨c, hc, hne⟩, he⟩
    · rintro ⟨-, ⟨c, hc, hne⟩, he⟩
      refine ⟨⟨alertRow env t c, (rows_of_importable h hdb haccepts _).mpr ⟨c, hc, hne, rfl⟩, rfl, ?_⟩,
        summary snapshot, ?_, he⟩
      · exact List.mem_cons_self
      · rw [handed_of_importable h hdb]
        exact List.mem_singleton_self _
  · constructor
    · rintro ⟨⟨row, hrow, -⟩, -⟩
      rw [(triage_of_not_importable h).2] at hrow
      cases hrow
    · exact fun hall => absurd hall.1 h

end

/-- No triage of any run alerts: the module that the classifier is imported from does not bind
it. -/
theorem triage_never_alerts (env : AlertEnv) (past : List (Event × Double)) (x : Event × Double) :
    ∀ snapshot ∈ (step (stateAfter past) x).2, ¬ Alerted triageModuleNames env (tenantOf x.1) snapshot := by
  intro snapshot _ h
  obtain ⟨row, hrow, -⟩ := h.row
  rw [(triage_of_not_importable (by decide)).2] at hrow
  cases hrow

/-- An environment in which nothing but the import stands in the way of an alert. -/
def acceptingEnv : AlertEnv where
  runTriage _ _ _ := .ok (some [("classification", .str "disk_failure"), ("risk_level", .str "HIGH")])
  connections := [fun _ => .ok ()]

theorem secondError_not_alerted :
    ∃ snapshot, (step (stateAfter [firstError]) secondError).2 = some snapshot ∧
      ¬ Alerted triageModuleNames acceptingEnv "acme-corp" snapshot := by
  obtain ⟨snapshot, hsnapshot⟩ := Option.ne_none_iff_exists'.mp secondError_triaged
  exact ⟨snapshot, hsnapshot, triage_never_alerts acceptingEnv [firstError] secondError snapshot hsnapshot⟩

/-- Two errors are triaged, the connection would take the row, and no row is inserted. -/
theorem triaged_errors_stay_silent :
    ¬ ∀ (env : AlertEnv) (db : AuditRow → Except String Unit), env.connections = [db] → (∀ row, db row = .ok ()) →
      ∀ (past : List (Event × Double)) (x : Event × Double), ∀ snapshot ∈ (step (stateAfter past) x).2,
      Alerted triageModuleNames env (tenantOf x.1) snapshot := by
  intro h
  obtain ⟨snapshot, hsnapshot⟩ := Option.ne_none_iff_exists'.mp secondError_triaged
  have halerted := h acceptingEnv _ rfl (fun _ => rfl) [firstError] secondError snapshot hsnapshot
  exact absurd ((alerted_iff rfl fun _ => rfl).mp halerted).1 (by decide)

end Intelligence
end SocFabric
