import SocFabric.Lib.Text
import SocFabric.Telemetry

/-!
# Provenance graphs (`core-ingest/cdm_parser.go`)

`ParseToCDM`, `ParseSupabaseToCDM` and `EnrichGraphWithAnomalies`. A graph is built by appending a
node together with the edges that lead to it; `ParseToCDM` never fails. The two clock readings of a
call are an argument.
-/

namespace SocFabric
namespace Cdm

structure GraphNode where
  id : String
  type : String
  properties : String
deriving DecidableEq, Repr

/-- An edge, without the event ids, which are never set. -/
structure GraphEdge where
  sourceID : String
  targetID : String
  relation : String
  certainty : String := ""
deriving DecidableEq, Repr

structure ProvenanceGraph where
  nodes : List GraphNode := []
  edges : List GraphEdge := []
deriving DecidableEq, Repr

def ProvenanceGraph.add (g : ProvenanceGraph) (node : GraphNode) (edges : List GraphEdge) : ProvenanceGraph :=
  ⟨g.nodes ++ [node], g.edges ++ edges⟩

/-- `time.Now().UnixNano()` where a process and where a script is mapped. -/
structure Clock where
  process : Int
  script : Int
deriving DecidableEq, Repr

def hexDigits : List Char := "0123456789abcdef".toList

/-- `%x` of a string. -/
def hex (s : String) : String :=
  .ofList (s.toUTF8.data.toList.flatMap fun b =>
    [hexDigits.getD (b.toNat / 16) '0', hexDigits.getD (b.toNat % 16) '0'])

section
variable (clock : Clock) (p : RemoteLogPayload) (tenantID : String)

/-! ### Nodes -/

def hostIP : String :=
  if p.rawData.sourceIP ≠ "" then p.rawData.sourceIP
  else if p.clientID ≠ "" then p.clientID
  else "unknown_host"

def hostID : String := tenantID ++ "_" ++ hostIP p

def procID : String := tenantID ++ "_proc_" ++ p.rawData.processName ++ "_" ++ toString clock.process

def fileID : String := tenantID ++ "_file_" ++ hex p.rawData.targetFile

def destID : String := tenantID ++ "_" ++ p.rawData.destinationIP

def flowID : String :=
  tenantID ++ "_flow_" ++ p.rawData.destinationIP ++ "_" ++ toString p.rawData.destinationPort

def dnsID (domain : String) : String := tenantID ++ "_dns_" ++ domain

def routerIP : String := "192.168.1.1"

def routerID : String := tenantID ++ "_router_" ++ routerIP

def ifaceID : String := tenantID ++ "_iface_" ++ p.rawData.routerInterface

def scriptID : String := tenantID ++ "_script_" ++ toString clock.script

/-! ### The process tree -/

def addFile (g : ProvenanceGraph) : ProvenanceGraph :=
  if p.rawData.targetFile = "" then g
  else
    g.add ⟨fileID p tenantID, "File", "Tenant=" ++ tenantID ++ ", Path=" ++ p.rawData.targetFile⟩
      [{ sourceID := procID clock p tenantID, targetID := fileID p tenantID, relation := "MODIFIED_FILE" }]

def addFlow (properties : String) (g : ProvenanceGraph) : ProvenanceGraph :=
  if p.rawData.destinationPort = 0 then g
  else
    g.add ⟨flowID p tenantID, "NetworkFlow", properties⟩
      [⟨destID p tenantID, flowID p tenantID, "NETWORK_FLOW", "OBSERVED"⟩]

def addConnection (g : ProvenanceGraph) : ProvenanceGraph :=
  if p.rawData.destinationIP = "" then g
  else
    addFlow p tenantID
      ("Tenant=" ++ tenantID ++ ", Protocol=" ++ p.rawData.protocol ++ ", Port=" ++
        toString p.rawData.destinationPort)
      (g.add ⟨destID p tenantID, "Network", "Tenant=" ++ tenantID ++ ", RemoteIP=" ++ p.rawData.destinationIP⟩
        [⟨procID clock p tenantID, destID p tenantID, "CONNECTED_TO", "OBSERVED"⟩])

def addDns (g : ProvenanceGraph) : ProvenanceGraph :=
  if p.rawData.dnsDomain = "" then g
  else
    g.add ⟨dnsID tenantID p.rawData.dnsDomain, "DNS", "Tenant=" ++ tenantID ++ ", Domain=" ++ p.rawData.dnsDomain⟩
      [⟨procID clock p tenantID, dnsID tenantID p.rawData.dnsDomain, "RESOLVED_DNS", "OBSERVED"⟩]

def addProcess (g : ProvenanceGraph) : ProvenanceGraph :=
  if p.rawData.processName = "" then g
  else
    addDns clock p tenantID (addConnection clock p tenantID (addFile clock p tenantID
      (g.add ⟨procID clock p tenantID, "Process", "Tenant=" ++ tenantID ++ ", Name=" ++ p.rawData.processName⟩
        [{ sourceID := hostID p tenantID, targetID := procID clock p tenantID, relation := "EXECUTED" }])))

/-! ### The router's view -/

/-- The domain of the site visit. -/
def siteDomain : String := if p.rawData.dnsDomain = "" then p.rawData.dstHostname else p.rawData.dnsDomain

def isRouterFlow : Bool :=
  p.endpointType = "gateway_bridge" || p.rawData.routerAction ≠ "" || p.rawData.routerInterface ≠ "" ||
    (p.rawData.processName = "" && (p.rawData.destinationIP ≠ "" || siteDomain p ≠ ""))

def addInterface (g : ProvenanceGraph) : ProvenanceGraph :=
  if p.rawData.routerInterface = "" then g
  else
    g.add ⟨ifaceID p tenantID, "RouterInterface", "Tenant=" ++ tenantID ++ ", Interface=" ++
        p.rawData.routerInterface ++ ", Action=" ++ p.rawData.routerAction⟩
      [⟨routerID tenantID, ifaceID p tenantID, "EGRESS_INTERFACE", "OBSERVED"⟩]

def addDestination (g : ProvenanceGraph) : ProvenanceGraph :=
  if p.rawData.destinationIP = "" then g
  else
    addFlow p tenantID
      ("Tenant=" ++ tenantID ++ ", Protocol=" ++ p.rawData.protocol ++ ", Port=" ++
        toString p.rawData.destinationPort ++ ", Action=" ++ p.rawData.routerAction ++ ", BytesOut=" ++
        toString p.rawData.bytesOut)
      (g.add ⟨destID p tenantID, "Network", "Tenant=" ++ tenantID ++ ", RemoteIP=" ++ p.rawData.destinationIP ++
          ", Action=" ++ p.rawData.routerAction⟩
        [⟨routerID tenantID, destID p tenantID, "OUTBOUND_ACCESS", "OBSERVED"⟩])

def addSite (g : ProvenanceGraph) : ProvenanceGraph :=
  if siteDomain p = "" then g
  else
    g.add ⟨dnsID tenantID (siteDomain p), "ExternalDomain", "Tenant=" ++ tenantID ++ ", Domain=" ++ siteDomain p⟩
      [⟨routerID tenantID, dnsID tenantID (siteDomain p), "RESOLVED_DOMAIN", "OBSERVED"⟩,
        ⟨hostID p tenantID, dnsID tenantID (siteDomain p), "VISITED_SITE", "OBSERVED"⟩]

def addRouter (g : ProvenanceGraph) : ProvenanceGraph :=
  if isRouterFlow p then
    addSite p tenantID (addDestination p tenantID (addInterface p tenantID
      (g.add ⟨routerID tenantID, "RouterHost", "Tenant=" ++ tenantID ++ ", Role=Gateway, IP=" ++ routerIP⟩
        [⟨hostID p tenantID, routerID tenantID, "ROUTED_THROUGH", "OBSERVED"⟩])))
  else g

/-! ### The graph of a payload -/

def addScript (g : ProvenanceGraph) : ProvenanceGraph :=
  if p.rawData.commandLine ≠ "" ∧ Text.contains (Text.goLower p.rawData.commandLine) "powershell" = true then
    g.add ⟨scriptID clock tenantID, "Script", "Tenant=" ++ tenantID ++ ", Command=" ++ p.rawData.commandLine⟩
      [{ sourceID := hostID p tenantID, targetID := scriptID clock tenantID, relation := "EVALUATED_SCRIPT" }]
  else g

def parseToCDM : ProvenanceGraph :=
  addScript clock p tenantID (addRouter p tenantID (addProcess clock p tenantID
    (ProvenanceGraph.add {} ⟨hostID p tenantID, "Host", "Tenant=" ++ tenantID ++ ", IP=" ++ hostIP p⟩ [])))

end

/-! ### Database rows -/

/-- `DatabaseRowStruct`, without the name, which is not read. -/
structure DatabaseRow where
  id : String := ""
  userID : String := ""
  organizationID : String := ""
deriving DecidableEq, Repr

/-- `SupabaseWebhookPayload`, without the old record, which is not read. -/
structure SupabaseWebhookPayload where
  type : String := ""
  table : String := ""
  schema : String := ""
  record : DatabaseRow := {}
deriving DecidableEq, Repr

def rowID (p : SupabaseWebhookPayload) (tenantID : String) : String :=
  tenantID ++ "_" ++ p.table ++ "_" ++ p.record.id

/-- The edges of a row to the user and to the organization it names. -/
def rowReferences (p : SupabaseWebhookPayload) (tenantID : String) : List GraphEdge :=
  (if p.record.userID ≠ "" then
    [{ sourceID := rowID p tenantID, targetID := tenantID ++ "_user_" ++ p.record.userID
       relation := "REFERENCES_USER" }]
  else []) ++
  (if p.record.organizationID ≠ "" then
    [{ sourceID := rowID p tenantID, targetID := tenantID ++ "_organization_" ++ p.record.organizationID
       relation := "REFERENCES_ORGANIZATION" }]
  else [])

def parseSupabaseToCDM (p : SupabaseWebhookPayload) (tenantID : String) : ProvenanceGraph :=
  if p.record.id = "" then {}
  else
    ProvenanceGraph.add {}
      ⟨rowID p tenantID, "DB_" ++ Text.goUpper p.table, "Tenant=" ++ tenantID ++ ", Action=" ++ p.type ++
        ", Schema=" ++ p.schema⟩
      (rowReferences p tenantID)

/-! ### Anomalies -/

/-- `NetworkAnomalySignal`, without the ratio. -/
structure NetworkAnomalySignal where
  signalID : String
  signalType : String
  severity : String
  description : String
  evidenceIDs : List String
deriving DecidableEq, Repr

def enrichGraphWithAnomalies (tenantID : String) (signals : List NetworkAnomalySignal) (g : ProvenanceGraph) :
    ProvenanceGraph :=
  signals.foldl (fun g sig =>
    g.add ⟨tenantID ++ "_anomaly_" ++ sig.signalID, "Anomaly", "Type=" ++ sig.signalType ++ ", Severity=" ++
        sig.severity ++ ", Desc=" ++ sig.description⟩
      (sig.evidenceIDs.map fun evID =>
        ⟨tenantID ++ "_anomaly_" ++ sig.signalID, tenantID ++ "_flow_" ++ evID, "BASED_ON_EVIDENCE",
          "DETERMINISTIC"⟩)) g

end Cdm
end SocFabric
