import SocFabric.Lib.GoValue
import SocFabric.Lib.Regex
import SocFabric.Lib.Text
import SocFabric.Telemetry

/-!
# The network adapter (`core-ingest/network_adapter.go`)

`NormalizeNetworkFlow` for every sensor type. Its input is an untyped map; a missing key and a value
of another type both read as the zero value of the field.
-/

namespace SocFabric

structure NetworkFlow where
  eventID : String := ""
  flowID : String := ""
  timestamp : Time := ⟨0, 0⟩
  sourceIP : String := ""
  sourcePort : UInt16 := 0
  destinationIP : String := ""
  destinationPort : UInt16 := 0
  protocol : String := ""
  application : String := ""
  bytesOut : UInt64 := 0
  bytesIn : UInt64 := 0
  packetsOut : UInt64 := 0
  packetsIn : UInt64 := 0
  srcMAC : String := ""
  srcHostname : String := ""
  dstHostname : String := ""
  routerAction : String := ""
  routerInterface : String := ""
deriving DecidableEq, Repr

namespace Adapter
open Regex

/-! ### The patterns of router and resolver logs -/

def ipChar (c : Char) : Bool := hex c || c = '.' || c = ':'

def dropProtoRegex : List Token := lit "PROTO=" ++ group [.many word]
def dropSrcRegex : List Token := lit "SRC=" ++ group [.many ipChar]
def dropDstRegex : List Token := lit "DST=" ++ group [.many ipChar]
def dropSptRegex : List Token := lit "SPT=" ++ group [.many digit]
def dropDptRegex : List Token := lit "DPT=" ++ group [.many digit]
def dropLenRegex : List Token := lit "LEN=" ++ group [.many digit]

def dhcpIPRegex : List Token :=
  lit "DHCPACK" ++ [.lazyAny (· ≠ '\n')] ++
    group ([.many digit] ++ lit "." ++ [.many digit] ++ lit "." ++ [.many digit] ++ lit "." ++ [.many digit])

def hexPair : List Token := [.one hex, .one hex]

def dhcpMacRegex : List Token :=
  group (hexPair ++ lit ":" ++ hexPair ++ lit ":" ++ hexPair ++ lit ":" ++ hexPair ++ lit ":" ++
    hexPair ++ lit ":" ++ hexPair)

def inInterfaceRegex : List Token := lit "IN=" ++ group [.many word]
def outInterfaceRegex : List Token := lit "OUT=" ++ group [.many word]

def dnsQueryRegex : List Token :=
  lit "query[" ++ group [.many fun c => 'A' ≤ c ∧ c ≤ 'Z'] ++ lit "]" ++ [.many space] ++
    group [.many (!space ·)] ++ [.many space] ++ lit "from" ++ [.many space] ++ group [.many ipChar]

def dnsReplyRegex : List Token :=
  lit "reply" ++ [.many space] ++ group [.many (!space ·)] ++ [.many space] ++ lit "is" ++
    [.many space] ++ group [.many ipChar]

/-! ### Reading the map -/

abbrev Raw := List (String × GoValue)

def getString (m : Raw) (key : String) : String :=
  match m.lookup key with
  | some (.string s) => s
  | _ => ""

def getFloat (m : Raw) (key : String) : Rat :=
  match m.lookup key with
  | some (.float64 x) => x
  | _ => 0

/-- `strconv.ParseUint(s, 10, bits)`. -/
def parseUint (bits : Nat) (s : String) : Option Nat :=
  if s ≠ "" ∧ s.toList.all digit then
    let n := s.toList.foldl (fun n c => n * 10 + (c.toNat - 48)) 0
    if n < 2 ^ bits then some n else none
  else none

def portOr (re : List Token) (msg : String) (old : UInt16) : UInt16 :=
  (((find1 re msg).bind (parseUint 16)).map UInt16.ofNat).getD old

def logMessage (raw : Raw) : String :=
  if getString raw "message" = "" then getString raw "log" else getString raw "message"

/-! ### The sensors -/

variable (go : GoPlatform)

def normalizeZeek (raw : Raw) (flow : NetworkFlow) : NetworkFlow :=
  { flow with
    flowID := getString raw "uid"
    sourceIP := getString raw "id.orig_h"
    sourcePort := go.uint16 (getFloat raw "id.orig_p")
    destinationIP := getString raw "id.resp_h"
    destinationPort := go.uint16 (getFloat raw "id.resp_p")
    protocol := getString raw "proto"
    application := getString raw "service"
    bytesOut := go.uint64 (getFloat raw "orig_bytes")
    bytesIn := go.uint64 (getFloat raw "resp_bytes")
    packetsOut := go.uint64 (getFloat raw "orig_pkts")
    packetsIn := go.uint64 (getFloat raw "resp_pkts") }

def suricataMetrics (raw : Raw) (flow : NetworkFlow) : NetworkFlow :=
  match raw.lookup "flow" with
  | some (.map metrics) =>
    { flow with
      bytesOut := go.uint64 (getFloat metrics "bytes_toserver")
      bytesIn := go.uint64 (getFloat metrics "bytes_toclient")
      packetsOut := go.uint64 (getFloat metrics "pkts_toserver")
      packetsIn := go.uint64 (getFloat metrics "pkts_toclient") }
  | _ => flow

def normalizeSuricata (raw : Raw) (flow : NetworkFlow) : NetworkFlow :=
  suricataMetrics go raw
    { flow with
      flowID := ((raw.lookup "flow_id").map go.format).getD flow.flowID
      sourceIP := getString raw "src_ip"
      sourcePort := go.uint16 (getFloat raw "src_port")
      destinationIP := getString raw "dest_ip"
      destinationPort := go.uint16 (getFloat raw "dest_port")
      protocol := getString raw "proto"
      application := getString raw "app_proto" }

def firewallFields (msg : String) (flow : NetworkFlow) : NetworkFlow :=
  { flow with
    protocol := (find1 dropProtoRegex msg).getD flow.protocol
    sourceIP := (find1 dropSrcRegex msg).getD flow.sourceIP
    destinationIP := (find1 dropDstRegex msg).getD flow.destinationIP
    sourcePort := portOr dropSptRegex msg flow.sourcePort
    destinationPort := portOr dropDptRegex msg flow.destinationPort }

/-- The MAC address of a lease or an association, which also names the flow. -/
def macFields (kind msg : String) (flow : NetworkFlow) : NetworkFlow :=
  match find1 dhcpMacRegex msg with
  | some mac => { flow with flowID := kind ++ mac, srcMAC := mac }
  | none => flow

def syslogFields (msg : String) (flow : NetworkFlow) : NetworkFlow :=
  if Text.contains msg "DROP" || Text.contains msg "BLOCK" then
    { firewallFields msg { flow with application := "router_firewall_drop", routerAction := "DROP" } with
      bytesOut := (((find1 dropLenRegex msg).bind (parseUint 64)).map UInt64.ofNat).getD flow.bytesOut
      packetsOut := 1 }
  else if Text.contains msg "ACCEPT" || Text.contains msg "ALLOW" || Text.contains msg "FORWARD" then
    firewallFields msg { flow with application := "router_forward", routerAction := "ALLOW" }
  else if Text.contains msg "DHCPACK" then
    macFields "dhcp-" msg
      { flow with
        protocol := "UDP"
        application := "dhcp_lease"
        routerAction := "ALLOW"
        sourcePort := 67
        destinationPort := 68
        destinationIP := (find1 dhcpIPRegex msg).getD flow.destinationIP }
  else if Text.contains msg "802.11ax" || Text.contains msg "assoc" then
    macFields "wifi6-" msg
      { flow with protocol := "802.11ax", application := "wifi6_association", routerAction := "ALLOW" }
  else flow

def normalizeSyslog (raw : Raw) (flow : NetworkFlow) : NetworkFlow :=
  syslogFields (logMessage raw)
    { flow with
      application := "router_syslog"
      flowID := "syslog-" ++ toString flow.timestamp.unixNano
      routerInterface := ((find1 outInterfaceRegex (logMessage raw)).or
        (find1 inInterfaceRegex (logMessage raw))).getD flow.routerInterface
      srcMAC := (find1 dhcpMacRegex (logMessage raw)).getD flow.srcMAC }

/-- A dnsmasq line overrides the structured fields. -/
def dnsFields (msg : String) (flow : NetworkFlow) : NetworkFlow :=
  match find dnsQueryRegex msg with
  | some [_, name, client] =>
    { flow with dstHostname := name, sourceIP := client, destinationIP := "192.168.1.1" }
  | _ =>
    match find dnsReplyRegex msg with
    | some [name, ip] => { flow with dstHostname := name, destinationIP := ip, sourceIP := "192.168.1.1" }
    | _ => flow

def normalizeDns (raw : Raw) (flow : NetworkFlow) : NetworkFlow :=
  dnsFields (logMessage raw)
    { flow with
      protocol := "UDP"
      sourcePort := 53
      destinationPort := 53
      application := "dns_query"
      routerAction := "ALLOW"
      flowID := "dns-" ++ toString flow.timestamp.unixNano
      dstHostname := if getString raw "query_name" = "" then flow.dstHostname else getString raw "query_name"
      sourceIP := if getString raw "client_ip" = "" then flow.sourceIP else getString raw "client_ip"
      destinationIP :=
        if getString raw "response_ip" = "" then flow.destinationIP else getString raw "response_ip" }

/-- The flow, and the error of an unknown sensor. -/
def normalizeNetworkFlow (sensorType eventID : String) (timestamp : Time) (raw : Raw) :
    NetworkFlow × Option String :=
  match Text.goLower sensorType with
  | "zeek" => (normalizeZeek go raw { eventID, timestamp }, none)
  | "suricata" => (normalizeSuricata go raw { eventID, timestamp }, none)
  | "syslog" | "router_syslog" => (normalizeSyslog raw { eventID, timestamp }, none)
  | "dns" | "dns_log" | "dnsmasq" => (normalizeDns raw { eventID, timestamp }, none)
  | _ => ({ eventID, timestamp }, some ("unsupported network sensor type: " ++ sensorType))

end Adapter
end SocFabric
