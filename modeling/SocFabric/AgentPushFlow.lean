import SocFabric.NetworkAdapter

/-!
# The flow `handleAgentPush` analyses (`core-ingest/main.go`)

For every payload the handler builds a map, picks a sensor type and normalizes the map into the
canonical flow that the detectors see. It writes the map under the names of `PaaSEventData`, but the
adapter reads it under the names of the sensors, and the port goes in as an `int` where a `float64`
is looked for. So the flow's connection depends on the event type alone
(`canonicalFlow_connection`), and is the observed one only where that happens to be empty
(`preserved_iff`).
-/

namespace SocFabric
namespace Adapter

def sensorData (p : RemoteLogPayload) : Raw :=
  [("source_ip", .string p.rawData.sourceIP), ("destination_ip", .string p.rawData.destinationIP),
    ("destination_port", .int p.rawData.destinationPort), ("protocol", .string p.rawData.protocol),
    ("dns_domain", .string p.rawData.dnsDomain)]

def isDns (p : RemoteLogPayload) : Bool := Text.contains (Text.goLower p.eventType) "dns"

def sensorType (p : RemoteLogPayload) : String :=
  if isDns p then "dns"
  else if Text.contains (Text.goLower p.eventType) "syslog" ||
      Text.contains (Text.goLower p.eventType) "router" || p.endpointType = "gateway_bridge" then
    "router_syslog"
  else "suricata"

variable (go : GoPlatform) (now : Time) (p : RemoteLogPayload)

/-- The flow that `AnalyzeNetworkFlow` and `CheckDestinationNovelty` are given; the error is
ignored. -/
def canonicalFlow : NetworkFlow :=
  (normalizeNetworkFlow go (sensorType p) p.clientID now (sensorData p)).1

/-- What the detectors look at: addresses, port, protocol and byte counts. -/
structure Connection where
  sourceIP : String
  destinationIP : String
  destinationPort : UInt16
  protocol : String
  bytesOut : UInt64
  bytesIn : UInt64
deriving DecidableEq, Repr

def connection (flow : NetworkFlow) : Connection :=
  ⟨flow.sourceIP, flow.destinationIP, flow.destinationPort, flow.protocol, flow.bytesOut, flow.bytesIn⟩

/-- The flow is the connection that the payload observed; a port outside 0..65535 is not
compared. -/
structure Preserved (flow : NetworkFlow) (d : PaaSEventData) : Prop where
  sourceIP : d.sourceIP = flow.sourceIP
  destinationIP : d.destinationIP = flow.destinationIP
  destinationPort : 0 ≤ d.destinationPort → d.destinationPort ≤ 65535 →
    d.destinationPort = flow.destinationPort.toNat
  protocol : d.protocol = flow.protocol
  bytesOut : d.bytesOut = flow.bytesOut
  bytesIn : d.bytesIn = flow.bytesIn

/-! ### What the adapter finds in the map -/

def sensorKeys : List String :=
  ["source_ip", "destination_ip", "destination_port", "protocol", "dns_domain"]

theorem lookup_sensorData (key : String) (h : key ∉ sensorKeys) : (sensorData p).lookup key = none := by
  rw [List.lookup_eq_none_iff]
  intro x hx
  have hmem : x.1 ∈ sensorKeys := List.mem_map_of_mem (f := Prod.fst) hx
  simpa using fun he : key = x.1 => h (he ▸ hmem)

theorem getString_sensorData (key : String) (h : key ∉ sensorKeys) : getString (sensorData p) key = "" := by
  rw [getString, lookup_sensorData p key h]

theorem getFloat_sensorData (key : String) (h : key ∉ sensorKeys) : getFloat (sensorData p) key = 0 := by
  rw [getFloat, lookup_sensorData p key h]

theorem logMessage_sensorData : logMessage (sensorData p) = "" := by
  rw [logMessage, getString_sensorData p _ (by decide), if_pos rfl, getString_sensorData p _ (by decide)]

theorem syslogFields_empty (flow : NetworkFlow) : syslogFields "" flow = flow := rfl

theorem dnsFields_empty (flow : NetworkFlow) : dnsFields "" flow = flow := rfl

/-! ### The flow of a payload -/

theorem connection_suricata (flow : NetworkFlow) :
    connection (normalizeSuricata go (sensorData p) flow) = ⟨"", "", 0, "", flow.bytesOut, flow.bytesIn⟩ := by
  have hmetrics : ∀ flow, suricataMetrics go (sensorData p) flow = flow := by
    intro flow
    rw [suricataMetrics, lookup_sensorData p _ (by decide)]
  have hsrc := getString_sensorData p "src_ip" (by decide)
  have hdest := getString_sensorData p "dest_ip" (by decide)
  have hproto := getString_sensorData p "proto" (by decide)
  have hport := getFloat_sensorData p "dest_port" (by decide)
  simp only [normalizeSuricata, hmetrics, connection, hsrc, hdest, hproto, hport, GoPlatform.uint16_zero]

theorem connection_syslog (flow : NetworkFlow) :
    connection (normalizeSyslog (sensorData p) flow) = connection flow := by
  rw [normalizeSyslog, logMessage_sensorData, syslogFields_empty]
  rfl

theorem connection_dns (flow : NetworkFlow) :
    connection (normalizeDns (sensorData p) flow) =
      ⟨flow.sourceIP, flow.destinationIP, 53, "UDP", flow.bytesOut, flow.bytesIn⟩ := by
  have hclient := getString_sensorData p "client_ip" (by decide)
  have hresp := getString_sensorData p "response_ip" (by decide)
  rw [normalizeDns, logMessage_sensorData, dnsFields_empty]
  simp only [connection, hclient, hresp, if_true]

/-- Whatever the payload observed, the detectors see an empty connection, or an empty DNS one. -/
theorem canonicalFlow_connection :
    connection (canonicalFlow go now p) =
      if isDns p then ⟨"", "", 53, "UDP", 0, 0⟩ else ⟨"", "", 0, "", 0, 0⟩ := by
  unfold canonicalFlow sensorType
  split_ifs
  · exact connection_dns p _
  · exact connection_syslog p _
  · exact connection_suricata go p _

/-- The connection of a payload whose flow the adapter preserves: none at all, or a DNS exchange
between unnamed hosts that moved no bytes. -/
def Unobserved (p : RemoteLogPayload) : Prop :=
  p.rawData.sourceIP = "" ∧ p.rawData.destinationIP = "" ∧
    (0 ≤ p.rawData.destinationPort → p.rawData.destinationPort ≤ 65535 →
      p.rawData.destinationPort = if isDns p then 53 else 0) ∧
    p.rawData.protocol = (if isDns p then "UDP" else "") ∧
    p.rawData.bytesOut = 0 ∧ p.rawData.bytesIn = 0

theorem preserved_of_connection {flow : NetworkFlow} {c : Connection} (hc : connection flow = c)
    (d : PaaSEventData) :
    Preserved flow d ↔ d.sourceIP = c.sourceIP ∧ d.destinationIP = c.destinationIP ∧
      (0 ≤ d.destinationPort → d.destinationPort ≤ 65535 → d.destinationPort = c.destinationPort.toNat) ∧
      d.protocol = c.protocol ∧ d.bytesOut = c.bytesOut ∧ d.bytesIn = c.bytesIn := by
  subst hc
  constructor
  · rintro ⟨h1, h2, h3, h4, h5, h6⟩
    exact ⟨h1, h2, h3, h4, h5, h6⟩
  · rintro ⟨h1, h2, h3, h4, h5, h6⟩
    exact ⟨h1, h2, h3, h4, h5, h6⟩

/-- The detectors see the observed connection exactly if nothing was observed. -/
theorem preserved_iff : Preserved (canonicalFlow go now p) p.rawData ↔ Unobserved p := by
  rw [preserved_of_connection (canonicalFlow_connection go now p), Unobserved]
  cases hd : isDns p with
  | false => exact Iff.rfl
  | true => exact Iff.rfl

theorem observed_connection_lost :
    ¬ ∀ (go : GoPlatform) (now : Time) (p : RemoteLogPayload),
      Preserved (canonicalFlow go now p) p.rawData := by
  intro h
  have hsrc := (h ⟨fun _ => 0, fun _ => 0, fun _ => ""⟩ ⟨1700000000000000000, 0⟩
    { clientID := "edge-1", eventType := "network_flow", rawData := {
        sourceIP := "10.0.0.7", destinationIP := "203.0.113.9", destinationPort := 443, protocol := "TCP",
        bytesOut := 209715200, bytesIn := 1024 } }).sourceIP
  exact absurd hsrc (by decide)

end Adapter
end SocFabric
