import SocFabric.Lib.Json
import SocFabric.Lib.Time

/-!
# Telemetry payloads (`core-ingest/main.go`)

`RemoteLogPayload` with its `PaaSEventData`, and what `json.Marshal` makes of them: an object with a
member for every field, in the order and under the tags of the struct. Payloads come out of the JSON
decoder, so a `float64` is a rational number here and a time has a text.
-/

namespace SocFabric

structure PaaSEventData where
  processName : String := ""
  targetFile : String := ""
  query : String := ""
  location : String := ""
  destinationIP : String := ""
  destinationPort : Int := 0
  sourceIP : String := ""
  sourcePort : Int := 0
  protocol : String := ""
  dnsDomain : String := ""
  commandLine : String := ""
  flowID : String := ""
  bytesOut : UInt64 := 0
  bytesIn : UInt64 := 0
  packetsOut : UInt32 := 0
  packetsIn : UInt32 := 0
  flowDuration : Rat := 0
  srcMAC : String := ""
  routerAction : String := ""
  routerInterface : String := ""
  dstHostname : String := ""
deriving DecidableEq, Repr

structure RemoteLogPayload where
  clientID : String := ""
  timestamp : Time := ⟨0, 0⟩
  eventType : String := ""
  rawData : PaaSEventData := {}
  cfRayID : String := ""
  clientIP : String := ""
  endpointID : String := ""
  endpointType : String := ""
  httpPath : String := ""
  userAgent : String := ""
  tlsFingerprint : String := ""
deriving DecidableEq, Repr

def PaaSEventData.marshal (d : PaaSEventData) : Json :=
  .obj [("process_name", .str d.processName), ("target_file", .str d.targetFile),
    ("query", .str d.query), ("location", .str d.location),
    ("destination_ip", .str d.destinationIP), ("destination_port", .num d.destinationPort),
    ("source_ip", .str d.sourceIP), ("source_port", .num d.sourcePort),
    ("protocol", .str d.protocol), ("dns_domain", .str d.dnsDomain),
    ("command_line", .str d.commandLine), ("flow_id", .str d.flowID),
    ("bytes_out", .num d.bytesOut.toNat), ("bytes_in", .num d.bytesIn.toNat),
    ("packets_out", .num d.packetsOut.toNat), ("packets_in", .num d.packetsIn.toNat),
    ("flow_duration", .num d.flowDuration), ("src_mac", .str d.srcMAC),
    ("router_action", .str d.routerAction), ("router_interface", .str d.routerInterface),
    ("dst_hostname", .str d.dstHostname)]

def RemoteLogPayload.marshal (p : RemoteLogPayload) : Json :=
  .obj [("client_id", .str p.clientID), ("timestamp", .str p.timestamp.rfc3339Nano),
    ("event_type", .str p.eventType), ("raw_data", p.rawData.marshal),
    ("cf_ray_id", .str p.cfRayID), ("client_ip", .str p.clientIP),
    ("endpoint_id", .str p.endpointID), ("endpoint_type", .str p.endpointType),
    ("http_path", .str p.httpPath), ("user_agent", .str p.userAgent),
    ("tls_fingerprint", .str p.tlsFingerprint)]

end SocFabric
