import Mathlib.Data.List.Pairwise
import SocFabric.Lib.Decimal
import SocFabric.Lib.FieldLine
import SocFabric.NetworkAdapter

/-!
# Firewall lines read back (`core-ingest/network_adapter.go`)

A netfilter line is a free head and eight named fields. The patterns of the adapter are not
anchored, so each could stop at a key inside the head or inside another field; by `FieldLine` none
does, and a line about a packet gives back the packet (`firewall_line_recovered`).
-/

namespace SocFabric
namespace Adapter
open Regex

/-- A text that a group `([cls]+)` can hold. -/
structure Run (cls : Char → Bool) where
  text : String
  ne_nil : text.toList ≠ []
  all : text.toList.all cls = true

def firewallKeys : List String := ["IN=", "OUT=", "SRC=", "DST=", "LEN=", "PROTO=", "SPT=", "DPT="]

structure FirewallLine where
  head : String
  inInterface : Run word
  outInterface : Run word
  source : Run ipChar
  destination : Run ipChar
  length : UInt64
  protocol : Run word
  sourcePort : UInt16
  destinationPort : UInt16
  keyFree : ∀ key ∈ firewallKeys, Text.contains head key = false

/-! ### Numbers -/

theorem digit_of_mem_toString {n : Nat} {c : Char} (h : c ∈ (toString n).toList) : digit c := by
  have hc := Decimal.isDigit_of_mem_repr h
  simp only [Char.isDigit, Bool.and_eq_true, decide_eq_true_eq] at hc
  exact decide_eq_true hc

def decimal (n : Nat) : Run digit where
  text := toString n
  ne_nil := by
    show n.repr.toList ≠ []
    rw [Nat.toList_repr]
    exact Nat.toDigits_ne_nil
  all := List.all_eq_true.mpr fun _ => digit_of_mem_toString

theorem parseUint_decimal {bits n : Nat} (h : n < 2 ^ bits) : parseUint bits (decimal n).text = some n := by
  have hfold : (decimal n).text.toList.foldl (fun n c => n * 10 + (c.toNat - 48)) 0 = n := by
    show n.repr.toList.foldl _ 0 = n
    rw [Nat.toList_repr]
    conv_rhs => rw [← Nat.ofDigitChars_ten_toDigits (n := n), Nat.ofDigitChars_eq_foldl]
    simp only [Nat.mul_comm]
    rfl
  have hdigits : (decimal n).text ≠ "" ∧ (decimal n).text.toList.all digit :=
    ⟨fun h0 => (decimal n).ne_nil (by rw [h0]; rfl), (decimal n).all⟩
  simp only [parseUint, if_pos hdigits, hfold, if_pos h]

namespace FirewallLine
variable (l : FirewallLine)

def text : String :=
  .join [l.head, " IN=", l.inInterface.text, " OUT=", l.outInterface.text, " SRC=", l.source.text,
    " DST=", l.destination.text, " LEN=", toString l.length.toNat, " PROTO=", l.protocol.text,
    " SPT=", toString l.sourcePort.toNat, " DPT=", toString l.destinationPort.toNat]

/-! ### The line as fields -/

def field {cls : Char → Bool} (name : String) (value : Run cls)
    (hname : ' ' ∉ name.toList ∧ '=' ∉ name.toList) (hcls : cls '=' = false) : FieldLine.Field where
  name := name.toList
  value := value.text.toList
  noBlank := hname.1
  noEqName := hname.2
  noEqValue h := absurd (List.all_eq_true.mp value.all '=' h) (by simp [hcls])

def fields : List FieldLine.Field :=
  [field "IN" l.inInterface (by decide) (by decide), field "OUT" l.outInterface (by decide) (by decide),
   field "SRC" l.source (by decide) (by decide), field "DST" l.destination (by decide) (by decide),
   field "LEN" (decimal l.length.toNat) (by decide) (by decide),
   field "PROTO" l.protocol (by decide) (by decide),
   field "SPT" (decimal l.sourcePort.toNat) (by decide) (by decide),
   field "DPT" (decimal l.destinationPort.toNat) (by decide) (by decide)]

theorem text_toList : l.text.toList = FieldLine.text l.head.toList l.fields := by
  simp [text, fields, field, FieldLine.text, FieldLine.Field.text, decimal]

/-- No name ends in another one. -/
theorem names_pairwise : l.fields.Pairwise fun g f => ¬f.name <:+ g.name := by
  have hnames : l.fields.map (·.name) =
      ["IN", "OUT", "SRC", "DST", "LEN", "PROTO", "SPT", "DPT"].map String.toList := rfl
  have h : (l.fields.map (·.name)).Pairwise fun n m => ¬m <:+ n := by
    rw [hnames]
    decide
  exact List.pairwise_map.mp h

theorem find1_field {cls : Char → Bool} (key name : String) (value : Run cls)
    (hname : ' ' ∉ name.toList ∧ '=' ∉ name.toList) (hcls : cls '=' = false)
    (hf : field name value hname hcls ∈ l.fields) (hkey : name ++ "=" = key)
    (hmem : key ∈ firewallKeys) (hblank : cls ' ' = false) :
    find1 (lit key ++ group [.many cls]) l.text = some value.text := by
  have hkey' : (field name value hname hcls).key = key := by
    rw [← hkey]
    exact String.toList_injective (by simp [field])
  have hhead : ¬(field name value hname hcls).key.toList <:+: l.head.toList := by
    rw [hkey', ← Text.contains_iff, l.keyFree key hmem]
    exact Bool.false_ne_true
  have h := FieldLine.find1_key l.text_toList hf l.names_pairwise hhead value.ne_nil
    (List.all_eq_true.mp value.all) hblank
  rw [hkey'] at h
  rw [h]
  exact congrArg some String.ofList_toList

theorem find1_out : find1 outInterfaceRegex l.text = some l.outInterface.text :=
  l.find1_field "OUT=" "OUT" l.outInterface (by decide) (by decide) (by simp [fields]) rfl
    (by decide) (by decide)

theorem find1_proto : find1 dropProtoRegex l.text = some l.protocol.text :=
  l.find1_field "PROTO=" "PROTO" l.protocol (by decide) (by decide) (by simp [fields]) rfl
    (by decide) (by decide)

theorem find1_src : find1 dropSrcRegex l.text = some l.source.text :=
  l.find1_field "SRC=" "SRC" l.source (by decide) (by decide) (by simp [fields]) rfl
    (by decide) (by decide)

theorem find1_dst : find1 dropDstRegex l.text = some l.destination.text :=
  l.find1_field "DST=" "DST" l.destination (by decide) (by decide) (by simp [fields]) rfl
    (by decide) (by decide)

theorem find1_len : find1 dropLenRegex l.text = some (decimal l.length.toNat).text :=
  l.find1_field "LEN=" "LEN" (decimal l.length.toNat) (by decide) (by decide) (by simp [fields]) rfl
    (by decide) (by decide)

theorem find1_spt : find1 dropSptRegex l.text = some (decimal l.sourcePort.toNat).text :=
  l.find1_field "SPT=" "SPT" (decimal l.sourcePort.toNat) (by decide) (by decide) (by simp [fields]) rfl
    (by decide) (by decide)

theorem find1_dpt : find1 dropDptRegex l.text = some (decimal l.destinationPort.toNat).text :=
  l.find1_field "DPT=" "DPT" (decimal l.destinationPort.toNat) (by decide) (by decide) (by simp [fields]) rfl
    (by decide) (by decide)

theorem portOr_spt (old : UInt16) : portOr dropSptRegex l.text old = l.sourcePort := by
  rw [portOr, find1_spt, Option.bind_some, parseUint_decimal l.sourcePort.toNat_lt]
  exact UInt16.ofNat_toNat

theorem portOr_dpt (old : UInt16) : portOr dropDptRegex l.text old = l.destinationPort := by
  rw [portOr, find1_dpt, Option.bind_some, parseUint_decimal l.destinationPort.toNat_lt]
  exact UInt16.ofNat_toNat

theorem contains_text {needle : String} (h : Text.contains l.head needle = true) :
    Text.contains l.text needle = true := by
  rw [Text.contains_iff] at h ⊢
  rw [text_toList]
  exact h.trans (List.prefix_append _ _).isInfix

/-! ### The flow of a line -/

/-- The flow has the packet's addresses, ports and protocol. -/
structure Recovered (flow : NetworkFlow) : Prop where
  sourceIP : flow.sourceIP = l.source.text
  destinationIP : flow.destinationIP = l.destination.text
  protocol : flow.protocol = l.protocol.text
  sourcePort : flow.sourcePort = l.sourcePort
  destinationPort : flow.destinationPort = l.destinationPort

theorem firewallFields_text (flow : NetworkFlow) :
    firewallFields l.text flow =
      { flow with
        protocol := l.protocol.text
        sourceIP := l.source.text
        destinationIP := l.destination.text
        sourcePort := l.sourcePort
        destinationPort := l.destinationPort } := by
  unfold firewallFields
  rw [find1_proto, find1_src, find1_dst, portOr_spt, portOr_dpt]
  rfl

end FirewallLine

theorem normalizeNetworkFlow_syslog {sensorType : String}
    (h : sensorType = "syslog" ∨ sensorType = "router_syslog") (go : GoPlatform) (eventID : String)
    (timestamp : Time) (raw : Raw) :
    normalizeNetworkFlow go sensorType eventID timestamp raw =
      (normalizeSyslog raw { eventID, timestamp }, none) := by
  rcases h with rfl | rfl <;> rfl

section
variable {l : FirewallLine} {raw : Raw} {flow : NetworkFlow}

theorem syslogFields_drop (h : Text.contains l.text "DROP" = true) :
    syslogFields l.text flow =
      { firewallFields l.text { flow with application := "router_firewall_drop", routerAction := "DROP" } with
        bytesOut := l.length
        packetsOut := 1 } := by
  rw [syslogFields, h, Bool.true_or, if_pos rfl, l.find1_len, Option.bind_some,
    parseUint_decimal l.length.toNat_lt, Option.map_some, Option.getD_some, UInt64.ofNat_toNat]

theorem syslogFields_accept (h : Text.contains l.text "ACCEPT" = true)
    (hd : Text.contains l.text "DROP" = false) (hb : Text.contains l.text "BLOCK" = false) :
    syslogFields l.text flow =
      firewallFields l.text { flow with application := "router_forward", routerAction := "ALLOW" } := by
  rw [syslogFields, hd, hb, h, Bool.true_or, Bool.true_or, if_pos rfl]
  rfl

end

/-- A line about a packet gives back the packet, and a dropped one also its interface and length. -/
theorem firewall_line_recovered (go : GoPlatform) (l : FirewallLine) {sensorType : String}
    (hsensor : sensorType = "syslog" ∨ sensorType = "router_syslog") (eventID : String)
    (timestamp : Time) {raw : Raw} (hraw : logMessage raw = l.text) :
    ∃ flow, normalizeNetworkFlow go sensorType eventID timestamp raw = (flow, none) ∧
      (Text.contains l.head "DROP" = true →
        flow.routerAction = "DROP" ∧ flow.routerInterface = l.outInterface.text ∧
          flow.bytesOut = l.length ∧ l.Recovered flow) ∧
      (Text.contains l.head "ACCEPT" = true → Text.contains l.text "DROP" = false →
        Text.contains l.text "BLOCK" = false → flow.routerAction = "ALLOW" ∧ l.Recovered flow) := by
  refine ⟨_, normalizeNetworkFlow_syslog hsensor go eventID timestamp raw, fun h => ?_, fun h hd hb => ?_⟩
  · unfold normalizeSyslog
    rw [hraw, syslogFields_drop (l.contains_text h), l.firewallFields_text, l.find1_out]
    exact ⟨rfl, rfl, rfl, rfl, rfl, rfl, rfl, rfl⟩
  · unfold normalizeSyslog
    rw [hraw, syslogFields_accept (l.contains_text h) hd hb, l.firewallFields_text]
    exact ⟨rfl, rfl, rfl, rfl, rfl, rfl⟩

/-- A packet to a web server, behind a head of the router. -/
def webPacket (head : String) (keyFree : ∀ key ∈ firewallKeys, Text.contains head key = false) :
    FirewallLine where
  head := head
  inInterface := ⟨"eth0", by decide, by decide⟩
  outInterface := ⟨"br0", by decide, by decide⟩
  source := ⟨"203.0.113.55", by decide, by decide⟩
  destination := ⟨"192.168.1.105", by decide, by decide⟩
  length := 64
  protocol := ⟨"TCP", by decide, by decide⟩
  sourcePort := 44444
  destinationPort := 80
  keyFree := keyFree

def droppedPacket : FirewallLine := webPacket "router kernel: DROP" (by decide +kernel)

def acceptedPacket : FirewallLine := webPacket "router kernel: ACCEPT" (by decide +kernel)

def droppedRaw : Raw :=
  [("message", .string ("router kernel: DROP IN=eth0 OUT=br0 SRC=203.0.113.55 DST=192.168.1.105 " ++
    "LEN=64 PROTO=TCP SPT=44444 DPT=80"))]

def acceptedRaw : Raw :=
  [("log", .string ("router kernel: ACCEPT IN=eth0 OUT=br0 SRC=203.0.113.55 DST=192.168.1.105 " ++
    "LEN=64 PROTO=TCP SPT=44444 DPT=80"))]

theorem web_packet_recovered :
    (∃ flow, normalizeNetworkFlow ⟨fun _ => 0, fun _ => 0, toString⟩ "router_syslog" "test-evt-1" ⟨0, 0⟩
        droppedRaw = (flow, none) ∧
      flow.routerAction = "DROP" ∧ flow.routerInterface = "br0" ∧ flow.bytesOut = 64 ∧
      droppedPacket.Recovered flow) ∧
    ∃ flow, normalizeNetworkFlow ⟨fun _ => 0, fun _ => 0, toString⟩ "syslog" "test-evt-2" ⟨0, 0⟩
        acceptedRaw = (flow, none) ∧
      flow.routerAction = "ALLOW" ∧ acceptedPacket.Recovered flow := by
  have hdropped : logMessage droppedRaw = droppedPacket.text := by decide +kernel
  have haccepted : logMessage acceptedRaw = acceptedPacket.text := by decide +kernel
  constructor
  · obtain ⟨flow, hflow, hdrop, -⟩ := firewall_line_recovered ⟨fun _ => 0, fun _ => 0, toString⟩
      droppedPacket (.inr rfl) "test-evt-1" ⟨0, 0⟩ hdropped
    exact ⟨flow, hflow, hdrop (by decide +kernel)⟩
  · obtain ⟨flow, hflow, -, haccept⟩ := firewall_line_recovered ⟨fun _ => 0, fun _ => 0, toString⟩
      acceptedPacket (.inl rfl) "test-evt-2" ⟨0, 0⟩ haccepted
    exact ⟨flow, hflow, haccept (by decide +kernel) (by decide +kernel) (by decide +kernel)⟩

end Adapter
end SocFabric
