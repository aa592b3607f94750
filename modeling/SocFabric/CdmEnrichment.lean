import SocFabric.AgentPushFlow
import SocFabric.CdmGraph
import SocFabric.NoveltyCache

/-!
# The later graph passes (`core-ingest/cdm_parser.go`, `core-ingest/network_analyzer.go`)

`AnalyzeNetworkFlow` and `CheckDestinationNovelty` name the flow by its event id, and
`EnrichGraphWithAnomalies` draws its edges to a flow node of that name. `ParseToCDM` names flow
nodes by destination and port. `ParseSupabaseToCDM` draws edges to users and organizations and adds
neither. `laterPasses_closed_iff` says where that leaves no edge dangling.
-/

namespace SocFabric

/-! ### AnalyzeNetworkFlow -/

structure FlowSignal extends Cdm.NetworkAnomalySignal where
  ratio : Float := 0.0

def asymmetryRatio (flow : NetworkFlow) : Float := flow.bytesOut.toFloat / flow.bytesIn.toFloat

def outboundMB (flow : NetworkFlow) : Float := flow.bytesOut.toFloat / 1048576.0

def hasBytes (flow : NetworkFlow) : Prop := ¬ (flow.bytesOut = 0 ∧ flow.bytesIn = 0)

def isAsymmetric (flow : NetworkFlow) : Prop :=
  (0 < flow.bytesOut ∧ 0 < flow.bytesIn) ∧ asymmetryRatio flow ≥ 50.0

def isLargeTransfer (flow : NetworkFlow) : Prop := outboundMB flow ≥ 100.0

instance (flow : NetworkFlow) : Decidable (hasBytes flow) := inferInstanceAs (Decidable (¬ _))

instance (flow : NetworkFlow) : Decidable (isAsymmetric flow) := inferInstanceAs (Decidable (_ ∧ _))

instance (flow : NetworkFlow) : Decidable (isLargeTransfer flow) := inferInstanceAs (Decidable (_ ≥ _))

section
variable (fixed2 : Float → String) (newID : String) (flow : NetworkFlow)

def asymmetrySignal : FlowSignal where
  signalID := "A-" ++ newID
  signalType := "OUTBOUND_BYTE_ASYMMETRY"
  severity := "HIGH"
  description := "Highly asymmetric flow detected. Sent " ++ toString flow.bytesOut.toNat ++ " bytes, received " ++
    toString flow.bytesIn.toNat ++ " bytes (Ratio: " ++ fixed2 (asymmetryRatio flow) ++ ":1)"
  ratio := asymmetryRatio flow
  evidenceIDs := [flow.eventID]

def transferSignal : FlowSignal where
  signalID := "A-" ++ newID
  signalType := "LARGE_OUTBOUND_TRANSFER"
  severity := "MEDIUM"
  description := "Large outbound data transfer observed: " ++ fixed2 (outboundMB flow) ++ " MB to " ++
    flow.destinationIP ++ ":" ++ toString flow.destinationPort.toNat
  evidenceIDs := [flow.eventID]

end

/-- `newIDs` are the two identifiers the call may draw, and `fixed2` is the verb `%.2f`. -/
def analyzeNetworkFlow (fixed2 : Float → String) (newIDs : String × String) (flow : NetworkFlow) :
    List FlowSignal :=
  if hasBytes flow then
    (if isAsymmetric flow then [asymmetrySignal fixed2 newIDs.1 flow] else []) ++
      (if isLargeTransfer flow then [transferSignal fixed2 newIDs.2 flow] else [])
  else []

/-! ### The signals of a flow -/

def NoveltySignal.toAnomaly (s : NoveltySignal) : Cdm.NetworkAnomalySignal :=
  ⟨s.signalID, s.signalType, s.severity, s.description, s.evidenceIDs⟩

/-- What the detectors draw on besides the call: `%.2f`, fresh identifiers and the cached
destinations. -/
structure DetectorEnv where
  fixed2 : Float → String
  newIDs : String × String
  known : List String

/-- `allSignals` of `handleAgentPush`. -/
def flowSignals (env : DetectorEnv) (c : NoveltyCall) : List Cdm.NetworkAnomalySignal :=
  (analyzeNetworkFlow env.fixed2 env.newIDs c.flow).map (·.toNetworkAnomalySignal) ++
    (c.check env.known).signals.map (·.toAnomaly)

/-- The history of the destination is not cached, and empty. -/
def NoveltyCall.isNew (c : NoveltyCall) (known : List String) : Prop :=
  c.hasAddresses ∧ c.key ∉ known ∧
    ∃ count, c.db = some count ∧ count (noveltyQuery c.tenantID c.flow) = .ok 0

/-- The flow is one that the detectors speak up about. -/
def Signalled (env : DetectorEnv) (c : NoveltyCall) : Prop :=
  (hasBytes c.flow ∧ (isAsymmetric c.flow ∨ isLargeTransfer c.flow)) ∨ c.isNew env.known

theorem analyzeNetworkFlow_ne_nil_iff (fixed2 : Float → String) (newIDs : String × String)
    (flow : NetworkFlow) :
    analyzeNetworkFlow fixed2 newIDs flow ≠ [] ↔ hasBytes flow ∧ (isAsymmetric flow ∨ isLargeTransfer flow) := by
  unfold analyzeNetworkFlow
  by_cases hb : hasBytes flow
  · by_cases ha : isAsymmetric flow <;> by_cases hl : isLargeTransfer flow <;> simp [hb, ha, hl]
  · simp [hb]

theorem NoveltyCall.signals_ne_nil_iff (c : NoveltyCall) (known : List String) :
    (c.check known).signals ≠ [] ↔ c.isNew known := by
  by_cases ha : c.hasAddresses
  · by_cases hk : c.key ∈ known
    · simp [check_of_fastPath ⟨ha, hk⟩, isNew, hk]
    · by_cases h : c.answered
      · obtain ⟨count, n, hdb, hn⟩ := h
        have hk' : noveltyKey c.tenantID c.flow ∉ known := hk
        simp [check, checkDestinationNovelty, isNew, ha, hk, hk', hdb, hn, not_or.mpr ha]
      · have hnew : ¬ c.isNew known := by
          rintro ⟨-, -, count, hdb, hn⟩
          exact h ⟨count, 0, hdb, hn⟩
        simp [(check_of_not_answered ha hk h).1, hnew]
  · simp [check_of_not_hasAddresses ha, isNew, ha]

theorem flowSignals_ne_nil_iff (env : DetectorEnv) (c : NoveltyCall) : flowSignals env c ≠ [] ↔ Signalled env c := by
  rw [flowSignals, Ne, List.append_eq_nil_iff, List.map_eq_nil_iff, List.map_eq_nil_iff, not_and_or,
    Signalled]
  exact or_congr (analyzeNetworkFlow_ne_nil_iff env.fixed2 env.newIDs c.flow) (c.signals_ne_nil_iff env.known)

theorem NoveltyCall.evidenceIDs_eq {c : NoveltyCall} {known : List String} {s : NoveltySignal}
    (h : s ∈ (c.check known).signals) : s.evidenceIDs = [c.flow.eventID] := by
  unfold check checkDestinationNovelty at h
  split_ifs at h
  · cases h
  · cases h
  · split at h
    · cases h
    · split at h
      · cases h
      · rcases List.mem_ite_nil_right.mp h with ⟨-, hs⟩
        rw [List.mem_singleton.mp hs]
        rfl

/-- Every signal points back at the event id of its flow. -/
theorem evidenceIDs_flowSignals {env : DetectorEnv} {c : NoveltyCall} {s : Cdm.NetworkAnomalySignal}
    (h : s ∈ flowSignals env c) : s.evidenceIDs = [c.flow.eventID] := by
  rcases List.mem_append.mp h with h | h
  · obtain ⟨sig, hsig, rfl⟩ := List.mem_map.mp h
    rw [analyzeNetworkFlow, List.mem_ite_nil_right, List.mem_append, List.mem_ite_nil_right,
      List.mem_ite_nil_right, List.mem_singleton, List.mem_singleton] at hsig
    rcases hsig.2 with ⟨-, rfl⟩ | ⟨-, rfl⟩ <;> rfl
  · obtain ⟨sig, hsig, rfl⟩ := List.mem_map.mp h
    exact NoveltyCall.evidenceIDs_eq hsig

namespace Cdm
open ProvenanceGraph

/-! ### EnrichGraphWithAnomalies -/

section
variable {tenantID : String} {signals : List NetworkAnomalySignal} {g : ProvenanceGraph}

def anomalyID (tenantID : String) (sig : NetworkAnomalySignal) : String :=
  tenantID ++ "_anomaly_" ++ sig.signalID

def anomalyNode (tenantID : String) (sig : NetworkAnomalySignal) : GraphNode :=
  ⟨anomalyID tenantID sig, "Anomaly", "Type=" ++ sig.signalType ++ ", Severity=" ++ sig.severity ++
    ", Desc=" ++ sig.description⟩

def evidenceEdges (tenantID : String) (sig : NetworkAnomalySignal) : List GraphEdge :=
  sig.evidenceIDs.map fun evID =>
    ⟨anomalyID tenantID sig, tenantID ++ "_flow_" ++ evID, "BASED_ON_EVIDENCE", "DETERMINISTIC"⟩

theorem enrichGraphWithAnomalies_eq :
    enrichGraphWithAnomalies tenantID signals g =
      ⟨g.nodes ++ signals.map (anomalyNode tenantID), g.edges ++ signals.flatMap (evidenceEdges tenantID)⟩ := by
  induction signals generalizing g with
  | nil => simp [enrichGraphWithAnomalies]
  | cons sig rest ih =>
    rw [enrichGraphWithAnomalies, List.foldl_cons, ← enrichGraphWithAnomalies, ih]
    simp [ProvenanceGraph.add, anomalyNode, evidenceEdges, anomalyID]

theorem flow_ne_anomalyID (evID : String) (sig : NetworkAnomalySignal) :
    tenantID ++ "_flow_" ++ evID ≠ anomalyID tenantID sig := by
  intro h
  have hlist := congrArg String.toList h
  simp [anomalyID] at hlist

/-- An enriched graph is closed exactly if the flows that the evidence names were there. -/
theorem closed_enrich_iff (hg : g.Closed) :
    (enrichGraphWithAnomalies tenantID signals g).Closed ↔
      ∀ sig ∈ signals, ∀ evID ∈ sig.evidenceIDs, tenantID ++ "_flow_" ++ evID ∈ g.ids := by
  rw [closed_iff] at hg
  rw [closed_iff, enrichGraphWithAnomalies_eq, toDirGraph_append, DirGraph.closed_extend_iff hg]
  · constructor
    · intro h sig hsig evID hev
      have hedge := h (anomalyID tenantID sig) (tenantID ++ "_flow_" ++ evID)
        ⟨_, List.mem_flatMap.mpr ⟨sig, hsig, List.mem_map_of_mem hev⟩, rfl, rfl⟩
      rcases hedge with hedge | ⟨n, hn, hid⟩
      · exact hedge
      · obtain ⟨sig', -, rfl⟩ := List.mem_map.mp hn
        exact absurd hid.symm (flow_ne_anomalyID evID sig')
    · rintro h a b ⟨e, he, -, rfl⟩
      obtain ⟨sig, hsig, he⟩ := List.mem_flatMap.mp he
      obtain ⟨evID, hev, rfl⟩ := List.mem_map.mp he
      exact .inl (h sig hsig evID hev)
  · rintro a b ⟨e, he, rfl, -⟩
    obtain ⟨sig, hsig, he⟩ := List.mem_flatMap.mp he
    obtain ⟨evID, hev, rfl⟩ := List.mem_map.mp he
    exact ⟨anomalyNode tenantID sig, List.mem_map_of_mem hsig, rfl⟩

end

/-! ### ParseSupabaseToCDM -/

/-- A row names no user and no organization but, by its own table and id, itself. -/
def RowSelfContained (sp : SupabaseWebhookPayload) : Prop :=
  sp.record.id = "" ∨
    ((sp.record.userID = "" ∨ "user_" ++ sp.record.userID = sp.table ++ "_" ++ sp.record.id) ∧
      (sp.record.organizationID = "" ∨
        "organization_" ++ sp.record.organizationID = sp.table ++ "_" ++ sp.record.id))

theorem rowID_eq (sp : SupabaseWebhookPayload) (tenantID : String) :
    rowID sp tenantID = tenantScoped tenantID (sp.table ++ "_" ++ sp.record.id) := by
  simp only [rowID, tenantScoped, String.append_assoc]

theorem closed_supabase_iff (sp : SupabaseWebhookPayload) (tenantID : String) :
    (parseSupabaseToCDM sp tenantID).Closed ↔ RowSelfContained sp := by
  unfold parseSupabaseToCDM RowSelfContained
  split_ifs with hid
  · simp [ProvenanceGraph.Closed, hid]
  · have huser : tenantID ++ "_user_" ++ sp.record.userID = tenantScoped tenantID ("user_" ++ sp.record.userID) :=
      append_kind tenantID "user_" _
    have horg : tenantID ++ "_organization_" ++ sp.record.organizationID =
        tenantScoped tenantID ("organization_" ++ sp.record.organizationID) :=
      append_kind tenantID "organization_" _
    simp only [ProvenanceGraph.Closed, mem_ids_add]
    by_cases hu : sp.record.userID = "" <;> by_cases ho : sp.record.organizationID = "" <;>
      simp [ProvenanceGraph.add, ids, rowReferences, hid, hu, ho, huser, horg, rowID_eq, tenantScoped_inj]

/-! ### The later passes together -/

/-- The graph of the payload holds a node that reads as the flow of its client. -/
def FlowNamed (p : RemoteLogPayload) : Prop :=
  hostIP p = "flow_" ++ p.clientID ∨
    (p.rawData.destinationIP ≠ "" ∧
      (p.rawData.destinationIP = "flow_" ++ p.clientID ∨
        (p.rawData.destinationPort ≠ 0 ∧
          p.rawData.destinationIP ++ "_" ++ toString p.rawData.destinationPort = p.clientID)))

/-- Over the flows of a payload and the rows of a webhook, no edge dangles exactly if the detectors
stay silent or some node happens to bear the flow's name, and the row refers to nothing but
itself. -/
theorem laterPasses_closed_iff (env : DetectorEnv) (clock : Clock) (p : RemoteLogPayload) (c : NoveltyCall)
    (hflow : c.flow.eventID = p.clientID) (sp : SupabaseWebhookPayload) :
    ((enrichGraphWithAnomalies c.tenantID (flowSignals env c) (parseToCDM clock p c.tenantID)).Closed ∧
      (parseSupabaseToCDM sp c.tenantID).Closed) ↔
    (Signalled env c → FlowNamed p) ∧ RowSelfContained sp := by
  rw [closed_supabase_iff, closed_enrich_iff (wellFormed_parseToCDM clock p c.tenantID).closed]
  refine and_congr_left fun _ => ?_
  have hnamed := flow_mem_ids_iff clock p c.tenantID p.clientID
  constructor
  · intro h hsig
    obtain ⟨s, hs⟩ := List.exists_mem_of_ne_nil _ ((flowSignals_ne_nil_iff env c).mpr hsig)
    have hev := evidenceIDs_flowSignals hs
    exact hnamed.mp (h s hs p.clientID (by rw [hev, hflow]; exact List.mem_singleton_self _))
  · intro h s hs evID hmem
    have hsig := (flowSignals_ne_nil_iff env c).mp (List.ne_nil_of_mem hs)
    rw [evidenceIDs_flowSignals hs, hflow, List.mem_singleton] at hmem
    rw [hmem]
    exact hnamed.mpr (h hsig)

def orderRow : SupabaseWebhookPayload :=
  { type := "INSERT", table := "orders", schema := "public", record := { id := "42", userID := "7" } }

/-- A row that names its user points at a node that is not there. -/
theorem order_row_dangles :
    ¬ ∀ (env : DetectorEnv) (clock : Clock) (p : RemoteLogPayload) (c : NoveltyCall),
      c.flow.eventID = p.clientID → ∀ sp : SupabaseWebhookPayload,
      (enrichGraphWithAnomalies c.tenantID (flowSignals env c) (parseToCDM clock p c.tenantID)).Closed ∧
        (parseSupabaseToCDM sp c.tenantID).Closed := by
  intro h
  have hclosed := (h ⟨fun _ => "", ("", ""), []⟩ ⟨0, 0⟩ {} ⟨none, "", "acme-corp", {}⟩ rfl orderRow).2
  rcases (closed_supabase_iff orderRow "acme-corp").mp hclosed with hid | ⟨hu | hu, -⟩
  · exact absurd hid (by decide)
  · exact absurd hu (by decide)
  · exact absurd hu (by decide)

/-- A client that names itself by its destination, and a row that refers to nothing. -/
theorem self_named_flow_closed :
    (enrichGraphWithAnomalies "acme-corp"
      (flowSignals ⟨fun _ => "", ("", ""), []⟩
        ⟨some fun _ => .ok 0, "", "acme-corp",
          { eventID := "203.0.113.9_443", sourceIP := "10.0.0.5", destinationIP := "203.0.113.9" }⟩)
      (parseToCDM ⟨0, 0⟩
        { clientID := "203.0.113.9_443", rawData := { destinationIP := "203.0.113.9", destinationPort := 443 } }
        "acme-corp")).Closed ∧
    (parseSupabaseToCDM { table := "orders", record := { id := "42" } } "acme-corp").Closed :=
  (laterPasses_closed_iff _ _ _ ⟨_, _, "acme-corp", _⟩ rfl _).mpr
    ⟨fun _ => .inr ⟨by decide, .inr ⟨by decide, by decide⟩⟩, .inr ⟨.inl rfl, .inl rfl⟩⟩

end Cdm
end SocFabric
