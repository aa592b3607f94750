import SocFabric.Lib.Json
import SocFabric.Lib.Newest
import SocFabric.Lib.Text
import SocFabric.Lib.Uuid

/-!
# The details of an investigation (`interfaces/api_routes.py`)

`get_investigation_details` builds its conversation log and its proposed actions from rows of the audit
ledger. Its query asks for the rows of the investigation or those with any correlation id at all, and
takes the newest twenty, so the ledger of all investigations decides what is shown: the details are
those of the investigation exactly if every foreign row is older than twenty of its own
(`details_scoped_iff`).
-/

namespace SocFabric
namespace InvestigationDetails
open Newest Text

/-! ### Tables -/

/-- A row of `audit_logs`; `context` is as the driver hands it over. The schema makes the correlation
id `NOT NULL`, which the query does not rely on. -/
structure AuditRow where
  id : Uuid
  correlationId : Option String
  timestamp : Int
  agent : String
  action : String
  context : Json
  riskLevel : String
  policyDecision : String

structure AuditTable where
  rows : List AuditRow
  primaryKey : (rows.map (·.id)).Nodup

structure HostRow where
  endpointId : Uuid
  hostname : Option String
  type : Option String
  status : String
  cfTunnelUrl : Option String

/-- `WHERE correlation_id = $1 OR correlation_id IS NOT NULL`. -/
def AuditRow.isSelected (investigationId : String) (a : AuditRow) : Bool :=
  a.correlationId = some investigationId || a.correlationId.isSome

/-- A result of the first query, with `ORDER BY timestamp DESC LIMIT 20`. -/
def IsFetched (table : AuditTable) (investigationId : String) (auditRows : List AuditRow) : Prop :=
  IsNewest AuditRow.timestamp 20 (table.rows.filter (·.isSelected investigationId)) auditRows

/-! ### The response -/

/-- `str` of a decoded value, and `zlib.crc32` of the encoded text. -/
structure PyLib where
  str : Json → String
  crc32 : String → Nat

structure GraphNode where
  id : String
  label : String
  type : String
  status : String
deriving DecidableEq, Repr

structure GraphEdge where
  sourceId : String
  targetId : String
  relation : String
deriving DecidableEq, Repr

structure ConversationEntry where
  agent : String
  message : String
  confidence : Nat
deriving DecidableEq, Repr

structure ProposedAction where
  action : String
  target : String
  justification : String
  risk : String
deriving DecidableEq, Repr

structure Details where
  id : String
  nodes : List GraphNode
  edges : List GraphEdge
  sourceIp : String
  conversationLog : List ConversationEntry
  proposedActions : List ProposedAction

/-- An entry with the row that it was built from. -/
structure Built (α : Type) where
  row : AuditRow
  entry : α

structure AuditEntries where
  conversationLog : List (Built ConversationEntry) := []
  proposedActions : List (Built ProposedAction) := []

def conversationEntry (a : AuditRow) : ConversationEntry where
  agent := pyOr (some a.agent) "SOAROrchestrator"
  message := "Action '" ++ a.action ++ "' evaluated with policy decision '" ++ a.policyDecision ++
    "'. Risk: " ++ a.riskLevel ++ "."
  confidence := if a.policyDecision = "PERMITTED" then 95 else 75

def AuditRow.isHighImpact (a : AuditRow) : Bool :=
  a.riskLevel = "HIGH_IMPACT_WRITE" || a.riskLevel = "DESTRUCTIVE"

def targetVal (a : AuditRow) : Json :=
  match a.context with
  | .obj members => (members.lookup "target").getD (.str "Target-Host")
  | _ => .str "Target-Host"

def proposedAction (lib : PyLib) (a : AuditRow) : ProposedAction where
  action := a.action
  target := lib.str (targetVal a)
  justification := "Policy decision " ++ a.policyDecision ++ " under correlation " ++
    a.correlationId.getD "None"
  risk := a.riskLevel

def addAuditRow (lib : PyLib) (s : AuditEntries) (a : AuditRow) : AuditEntries where
  conversationLog := s.conversationLog ++ [⟨a, conversationEntry a⟩]
  proposedActions :=
    if a.isHighImpact then s.proposedActions ++ [⟨a, proposedAction lib a⟩] else s.proposedActions

/-- Build conversation logs & proposed actions from audit logs. -/
def auditEntries (lib : PyLib) (auditRows : List AuditRow) : AuditEntries :=
  auditRows.foldl (addAuditRow lib) {}

/-- Python `s.replace(needle, "")`; the number counts the characters of an occurrence still to be
dropped. -/
def dropOccurrences (needle : List Char) : Nat → List Char → List Char
  | _, [] => []
  | skip + 1, _ :: cs => dropOccurrences needle skip cs
  | 0, c :: cs =>
    if (afterPrefix needle (c :: cs)).isSome then dropOccurrences needle (needle.length - 1) cs
    else c :: dropOccurrences needle 0 cs

def sourceIp (lib : PyLib) (investigationId : String) (hostRows : List HostRow) : String :=
  match (hostRows.head?.bind fun h => truthy h.cfTunnelUrl).filter (contains · "http") with
  | some url =>
    let rest := dropOccurrences "http://".toList 0 (dropOccurrences "https://".toList 0 url.toList)
    .ofList (rest.takeWhile (· ≠ '/'))
  | none =>
    let hashVal := lib.crc32 investigationId
    "10.0." ++ toString (hashVal / 256 % 256) ++ "." ++ toString (hashVal % 256)

def nodeId (h : HostRow) : String := "node-" ++ .ofList (h.endpointId.text.toList.take 8)

def hostNode (h : HostRow) : GraphNode where
  id := nodeId h
  label := pyOr h.hostname "Endpoint" ++ " (" ++ pyOr h.type "iaas" ++ ")"
  type := pyOr h.type "iaas"
  status := if h.status = "active" then "success" else "running"

/-- From each host to the next one. -/
def hostEdges (hostRows : List HostRow) : List GraphEdge :=
  (hostRows.zip hostRows.tail).map fun (h, next) => ⟨nodeId h, nodeId next, "telemetry_flow"⟩

def getInvestigationDetails (lib : PyLib) (investigationId : String) (auditRows : List AuditRow)
    (hostRows : List HostRow) : Details :=
  let entries := auditEntries lib auditRows
  let nodes := hostRows.map hostNode
  let primaryTarget := pyOr (hostRows.head?.bind (·.hostname))
    ("Endpoint-" ++ .ofList (investigationId.toList.take 6))
  { id := investigationId
    nodes := if nodes.isEmpty then
        [⟨"node-init", "Investigation Trigger (" ++ investigationId ++ ")", "Alert", "success"⟩]
      else nodes
    edges := hostEdges hostRows
    sourceIp := sourceIp lib investigationId hostRows
    -- fallback values if audit entries are fresh
    conversationLog := if entries.conversationLog.isEmpty then
        [⟨pyOr (auditRows.head?.map (·.agent)) "SOAROrchestrator",
          "Active telemetry triage in progress for target '" ++ primaryTarget ++
            "' under investigation " ++ investigationId ++ ".", 92⟩]
      else entries.conversationLog.map (·.entry)
    proposedActions := if entries.proposedActions.isEmpty then
        [⟨"Isolate Endpoint", primaryTarget,
          "Automated response proposal for active telemetry on " ++ primaryTarget, "HIGH_IMPACT_WRITE"⟩]
      else entries.proposedActions.map (·.entry) }

/-! ### Scope -/

def AuditRow.isOwn (investigationId : String) (a : AuditRow) : Bool :=
  a.correlationId = some investigationId

/-- The entries are built from rows of the investigation, its newest twenty among them. -/
structure IsScoped (table : AuditTable) (investigationId : String) (entries : AuditEntries) : Prop where
  conversation : ∀ b ∈ entries.conversationLog, b.row.correlationId = some investigationId
  actions : ∀ b ∈ entries.proposedActions, b.row.correlationId = some investigationId
  newest : ∃ own, IsNewest AuditRow.timestamp 20 (table.rows.filter (·.isOwn investigationId)) own ∧
    ∀ a ∈ own, (∃ b ∈ entries.conversationLog, b.row = a) ∧
      (a.isHighImpact = true → ∃ b ∈ entries.proposedActions, b.row = a)

section
variable {lib : PyLib} {table : AuditTable} {investigationId : String} {auditRows : List AuditRow}
  {hostRows : List HostRow}

/-- What the loop builds, row by row. -/
theorem auditEntries_eq (lib : PyLib) (auditRows : List AuditRow) :
    auditEntries lib auditRows =
      { conversationLog := auditRows.map fun a => ⟨a, conversationEntry a⟩
        proposedActions := (auditRows.filter (·.isHighImpact)).map fun a => ⟨a, proposedAction lib a⟩ } := by
  have hfold : ∀ s : AuditEntries, auditRows.foldl (addAuditRow lib) s =
      { conversationLog := s.conversationLog ++ auditRows.map fun a => ⟨a, conversationEntry a⟩
        proposedActions := s.proposedActions ++
          (auditRows.filter (·.isHighImpact)).map fun a => ⟨a, proposedAction lib a⟩ } := by
    induction auditRows with
    | nil => exact fun s => by simp
    | cons a auditRows ih =>
      intro s
      rw [List.foldl_cons, ih, addAuditRow, List.filter_cons]
      split_ifs <;> simp
  exact hfold {}

theorem isOwn_eq_false_iff {a : AuditRow} :
    a.isOwn investigationId = false ↔ a.correlationId ≠ some investigationId :=
  decide_eq_false_iff_not

theorem isSelected_of_isOwn {a : AuditRow} (h : a.isOwn investigationId = true) :
    a.isSelected investigationId = true :=
  Bool.or_eq_true_iff.mpr (.inl h)

theorem isSelected_iff {a : AuditRow} : a.isSelected investigationId = true ↔ a.correlationId.isSome = true := by
  rw [AuditRow.isSelected, Bool.or_eq_true_iff, decide_eq_true_iff]
  exact or_iff_right_of_imp fun h => by rw [h]; rfl

theorem filter_isOwn :
    (table.rows.filter (·.isSelected investigationId)).filter (·.isOwn investigationId) =
      table.rows.filter (·.isOwn investigationId) := by
  rw [List.filter_filter]
  refine List.filter_congr fun a _ => ?_
  cases hown : a.isOwn investigationId with
  | false => rfl
  | true => rw [isSelected_of_isOwn hown, Bool.and_self]

theorem isScoped_iff (h : IsFetched table investigationId auditRows) :
    IsScoped table investigationId (auditEntries lib auditRows) ↔
      ∀ a ∈ auditRows, a.isOwn investigationId = true := by
  rw [auditEntries_eq]
  constructor
  · exact fun hscoped a ha => decide_eq_true (hscoped.conversation ⟨a, _⟩ (List.mem_map_of_mem ha))
  · intro hown
    refine ⟨fun b hb => ?_, fun b hb => ?_, auditRows, filter_isOwn ▸ h.filter hown, fun a ha => ⟨?_, ?_⟩⟩
    · obtain ⟨a, ha, rfl⟩ := List.mem_map.mp hb
      exact of_decide_eq_true (hown a ha)
    · obtain ⟨a, ha, rfl⟩ := List.mem_map.mp hb
      exact of_decide_eq_true (hown a (List.mem_filter.mp ha).1)
    · exact ⟨_, List.mem_map_of_mem ha, rfl⟩
    · exact fun himpact => ⟨_, List.mem_map_of_mem (List.mem_filter.mpr ⟨ha, himpact⟩), rfl⟩

/-- The response lists the entries, unless there are none. -/
theorem getInvestigationDetails_logs (h : auditRows ≠ []) :
    (getInvestigationDetails lib investigationId auditRows hostRows).conversationLog =
        (auditEntries lib auditRows).conversationLog.map (·.entry) ∧
      ((auditRows.any (·.isHighImpact)) = true →
        (getInvestigationDetails lib investigationId auditRows hostRows).proposedActions =
          (auditEntries lib auditRows).proposedActions.map (·.entry)) := by
  rw [getInvestigationDetails, auditEntries_eq]
  refine ⟨if_neg (by simpa using h), fun hany => if_neg ?_⟩
  obtain ⟨a, ha, himpact⟩ := List.any_eq_true.mp hany
  rw [List.isEmpty_iff, List.map_eq_nil_iff, List.filter_eq_nil_iff]
  exact fun hnone => hnone a ha himpact

end

theorem details_scoped_iff (lib : PyLib) (table : AuditTable) (investigationId : String) :
    (∀ auditRows, IsFetched table investigationId auditRows →
      IsScoped table investigationId (auditEntries lib auditRows)) ↔
    ∀ a ∈ table.rows, a.correlationId.isSome = true → a.correlationId ≠ some investigationId →
      20 ≤ table.rows.countP fun b => b.isOwn investigationId && decide (a.timestamp < b.timestamp) := by
  have hcount (a : AuditRow) :
      (table.rows.filter (·.isSelected investigationId)).countP
          (fun b => b.isOwn investigationId && decide (a.timestamp < b.timestamp)) =
        table.rows.countP fun b => b.isOwn investigationId && decide (a.timestamp < b.timestamp) := by
    rw [List.countP_filter]
    refine List.countP_congr fun b _ => ?_
    rw [Bool.and_eq_true_iff]
    exact and_iff_left_of_imp fun h => isSelected_of_isOwn (Bool.and_eq_true_iff.mp h).1
  have hscoped : (∀ auditRows, IsFetched table investigationId auditRows →
        IsScoped table investigationId (auditEntries lib auditRows)) ↔
      ∀ auditRows, IsFetched table investigationId auditRows → ∀ a ∈ auditRows, a.isOwn investigationId = true :=
    forall₂_congr fun _ h => isScoped_iff h
  rw [hscoped]
  simp only [IsFetched, forall_isNewest_iff, hcount, List.mem_filter, isSelected_iff, and_imp,
    isOwn_eq_false_iff]

/-! ### A foreign row -/

def auditRow (n : Nat) (correlationId : String) (timestamp : Int) : AuditRow where
  id := .repeated n
  correlationId := some correlationId
  timestamp := timestamp
  agent := "SOAROrchestrator"
  action := "isolate_host"
  context := .str "{}"
  riskLevel := "DESTRUCTIVE"
  policyDecision := "PERMITTED"

/-- A row of the investigation, and a newer one of another. -/
def sharedLedger : AuditTable where
  rows := [auditRow 1 "INV-1" 100, auditRow 2 "INV-2" 200]
  primaryKey := by decide

/-- A context that is a text has no target of its own. -/
def sampleLib : PyLib where
  str
    | .str s => s
    | _ => ""
  crc32 _ := 0

theorem foreign_row_shown :
    ¬ ∀ (lib : PyLib) (table : AuditTable) (investigationId : String),
      (∃ a ∈ table.rows, a.correlationId = some investigationId) → ∀ auditRows,
        IsFetched table investigationId auditRows →
          IsScoped table investigationId (auditEntries lib auditRows) := by
  intro h
  have hfetched : IsFetched sharedLedger "INV-1" [auditRow 2 "INV-2" 200, auditRow 1 "INV-1" 100] :=
    ⟨_, List.Perm.swap .., by simp [auditRow], rfl⟩
  have hscoped := h sampleLib sharedLedger "INV-1" ⟨_, .head _, rfl⟩ _ hfetched
  have hown := (isScoped_iff hfetched).mp hscoped _ (.head _)
  revert hown
  decide

end InvestigationDetails
end SocFabric
