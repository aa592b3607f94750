import Mathlib.Tactic.NormNum
import SocFabric.NetworkAdapter

/-!
# Ports of a flow (`core-ingest/network_adapter.go`)

A port of a firewall line is read by `strconv.ParseUint` with 16 bits, so one that does not fit stays 0.
The ports of Zeek and Suricata are floats that are narrowed without a check: where the conversion wraps
around, 65616 becomes port 80. So a port is the given one or 0 exactly if the given number is a port or
its integer part is a multiple of 65536 (`ports_faithful_iff`).
-/

namespace SocFabric
namespace Adapter
open Regex GoPlatform

/-- Conversions to `uint16` that do not fit keep the low bits of the integer part. -/
def Wraps (go : GoPlatform) : Prop :=
  ∀ x, go.uint16OutOfRange x = .ofNat (trunc x % 65536).toNat

/-! ### The given numbers -/

def givenNumber (raw : Raw) (key : String) : Option Rat :=
  match raw.lookup key with
  | some (.float64 x) => some x
  | _ => none

/-- The number that a text of digits denotes, of any size. -/
def decimalValue (s : String) : Nat := s.toList.foldl (fun n c => n * 10 + (c.toNat - 48)) 0

def linePort (re : List Token) (raw : Raw) : Option Rat :=
  (find1 re (logMessage raw)).map fun s => (decimalValue s : Rat)

/-- Nothing but the given number or 0. -/
def PortOk (given : Option Rat) (port : UInt16) : Prop := port = 0 ∨ given = some (port.toNat : Rat)

/-- An integer in the range of ports, or one that wraps around to 0. -/
def Narrowable (x : Rat) : Prop := (∃ n : Nat, n < 65536 ∧ x = n) ∨ (65536 : Int) ∣ trunc x

/-- A line that is handled as a DHCP lease, whose ports are those of DHCP. -/
def isLease (msg : String) : Bool :=
  !(Text.contains msg "DROP" || Text.contains msg "BLOCK") &&
    !(Text.contains msg "ACCEPT" || Text.contains msg "ALLOW" || Text.contains msg "FORWARD") &&
    Text.contains msg "DHCPACK"

section
variable {go : GoPlatform} {raw : Raw} {flow : NetworkFlow} {x : Rat}

theorem trunc_natCast (n : Nat) : trunc (n : Rat) = n := by
  rw [trunc, if_pos (Nat.cast_nonneg (α := Rat) n)]
  exact Rat.floor_intCast n

theorem toNat_uint16 (hgo : Wraps go) (x : Rat) : ((go.uint16 x).toNat : Int) = trunc x % 65536 := by
  have hnonneg : 0 ≤ trunc x % 65536 := Int.emod_nonneg _ (by decide)
  have hlt : trunc x % 65536 < 65536 := Int.emod_lt_of_pos _ (by decide)
  have hport : go.uint16 x = .ofNat (trunc x % 65536).toNat := by
    unfold uint16
    split_ifs with h
    · rw [Int.emod_eq_of_lt h.1 h.2]
    · exact hgo x
  rw [hport, UInt16.toNat_ofNat_of_lt' (by rw [UInt16.size]; omega), Int.toNat_of_nonneg hnonneg]

theorem uint16_eq_zero_iff (hgo : Wraps go) (x : Rat) : go.uint16 x = 0 ↔ (65536 : Int) ∣ trunc x := by
  rw [Int.dvd_iff_emod_eq_zero, ← toNat_uint16 hgo]
  norm_cast
  exact ⟨fun h => by rw [h]; rfl, fun h => UInt16.toNat_inj.mp h⟩

theorem portOk_uint16_iff (hgo : Wraps go) : PortOk (some x) (go.uint16 x) ↔ Narrowable x := by
  rw [PortOk, Narrowable, uint16_eq_zero_iff hgo, or_comm, Option.some.injEq]
  refine or_congr_left ⟨fun h => ⟨_, (go.uint16 x).toNat_lt, h⟩, ?_⟩
  rintro ⟨n, hn, rfl⟩
  have hnat := toNat_uint16 hgo (n : Rat)
  rw [trunc_natCast, Int.emod_eq_of_lt (by omega) (by omega)] at hnat
  exact congrArg Nat.cast (Int.ofNat_inj.mp hnat).symm

theorem getFloat_eq (raw : Raw) (key : String) : getFloat raw key = (givenNumber raw key).getD 0 := by
  unfold getFloat givenNumber
  cases raw.lookup key with
  | none => rfl
  | some v => cases v <;> rfl

/-- A narrowed port. A field without a number reads as 0. -/
theorem portOk_narrowed_iff (hgo : Wraps go) (key : String) :
    PortOk (givenNumber raw key) (go.uint16 (getFloat raw key)) ↔
      ∀ x, givenNumber raw key = some x → Narrowable x := by
  rw [getFloat_eq]
  cases givenNumber raw key with
  | none => simp [PortOk]
  | some x => simpa using portOk_uint16_iff hgo

theorem parseUint_eq_some {bits n : Nat} {s : String} (h : parseUint bits s = some n) :
    n = decimalValue s ∧ n < 2 ^ bits := by
  unfold parseUint at h
  dsimp only at h
  split_ifs at h with hdigits hlt
  cases h
  exact ⟨rfl, hlt⟩

/-- A parsed port. -/
theorem portOk_portOr (re : List Token) : PortOk (linePort re raw) (portOr re (logMessage raw) 0) := by
  unfold PortOk linePort portOr
  cases find1 re (logMessage raw) with
  | none => exact .inl rfl
  | some s =>
    rw [Option.bind_some, Option.map_some]
    cases hport : parseUint 16 s with
    | none => exact .inl rfl
    | some n =>
      obtain ⟨rfl, hlt⟩ := parseUint_eq_some hport
      refine .inr (congrArg some (congrArg Nat.cast ?_))
      exact (UInt16.toNat_ofNat_of_lt' hlt).symm

end

/-! ### The ports of a flow -/

/-- Each port of a flow is the given one, or 0. -/
structure PortsFaithful (source destination : Option Rat) (flow : NetworkFlow) : Prop where
  source : PortOk source flow.sourcePort
  destination : PortOk destination flow.destinationPort

section
variable {go : GoPlatform} {raw : Raw}

theorem zeek_ports_iff (hgo : Wraps go) (flow : NetworkFlow) :
    PortsFaithful (givenNumber raw "id.orig_p") (givenNumber raw "id.resp_p") (normalizeZeek go raw flow) ↔
      ∀ key ∈ ["id.orig_p", "id.resp_p"], ∀ x, givenNumber raw key = some x → Narrowable x := by
  rw [List.forall_mem_cons, List.forall_mem_singleton, ← portOk_narrowed_iff hgo, ← portOk_narrowed_iff hgo]
  exact ⟨fun h => ⟨h.source, h.destination⟩, fun h => ⟨h.1, h.2⟩⟩

theorem suricataMetrics_ports (flow : NetworkFlow) :
    (suricataMetrics go raw flow).sourcePort = flow.sourcePort ∧
      (suricataMetrics go raw flow).destinationPort = flow.destinationPort := by
  unfold suricataMetrics
  split <;> exact ⟨rfl, rfl⟩

theorem suricata_ports_iff (hgo : Wraps go) (flow : NetworkFlow) :
    PortsFaithful (givenNumber raw "src_port") (givenNumber raw "dest_port") (normalizeSuricata go raw flow) ↔
      ∀ key ∈ ["src_port", "dest_port"], ∀ x, givenNumber raw key = some x → Narrowable x := by
  rw [List.forall_mem_cons, List.forall_mem_singleton, ← portOk_narrowed_iff hgo, ← portOk_narrowed_iff hgo]
  unfold normalizeSuricata
  constructor
  · rintro ⟨hsource, hdestination⟩
    rw [(suricataMetrics_ports _).1] at hsource
    rw [(suricataMetrics_ports _).2] at hdestination
    exact ⟨hsource, hdestination⟩
  · rintro ⟨hsource, hdestination⟩
    constructor
    · rwa [(suricataMetrics_ports _).1]
    · rwa [(suricataMetrics_ports _).2]

theorem macFields_ports (kind msg : String) (flow : NetworkFlow) :
    (macFields kind msg flow).sourcePort = flow.sourcePort ∧
      (macFields kind msg flow).destinationPort = flow.destinationPort := by
  unfold macFields
  split <;> exact ⟨rfl, rfl⟩

/-- The ports of a line: those of DHCP for a lease, read from a firewall line, and else the old
ones. -/
theorem syslogFields_ports (msg : String) (flow : NetworkFlow) :
    (isLease msg = true ∧ (syslogFields msg flow).sourcePort = 67 ∧
      (syslogFields msg flow).destinationPort = 68) ∨
    isLease msg = false ∧
      ((syslogFields msg flow).sourcePort = portOr dropSptRegex msg flow.sourcePort ∧
        (syslogFields msg flow).destinationPort = portOr dropDptRegex msg flow.destinationPort ∨
      (syslogFields msg flow).sourcePort = flow.sourcePort ∧
        (syslogFields msg flow).destinationPort = flow.destinationPort) := by
  unfold syslogFields isLease
  split_ifs with hdrop haccept hlease hassoc
  · exact .inr ⟨by rw [hdrop]; rfl, .inl ⟨rfl, rfl⟩⟩
  · exact .inr ⟨by rw [haccept, Bool.not_true, Bool.and_false, Bool.false_and], .inl ⟨rfl, rfl⟩⟩
  · refine .inl ⟨?_, macFields_ports _ _ _⟩
    rw [Bool.eq_false_iff.mpr hdrop, Bool.eq_false_iff.mpr haccept, hlease]
    rfl
  · exact .inr ⟨by rw [Bool.eq_false_iff.mpr hlease, Bool.and_false], .inr (macFields_ports _ _ _)⟩
  · exact .inr ⟨by rw [Bool.eq_false_iff.mpr hlease, Bool.and_false], .inr ⟨rfl, rfl⟩⟩

theorem syslog_ports_iff (raw : Raw) (eventID : String) (timestamp : Time) :
    PortsFaithful (linePort dropSptRegex raw) (linePort dropDptRegex raw)
        (normalizeSyslog raw { eventID, timestamp }) ↔
      (isLease (logMessage raw) = true →
        linePort dropSptRegex raw = some 67 ∧ linePort dropDptRegex raw = some 68) := by
  unfold normalizeSyslog
  rcases syslogFields_ports (logMessage raw) _ with
    ⟨hlease, hsource, hdestination⟩ | ⟨hlease, ⟨hsource, hdestination⟩ | ⟨hsource, hdestination⟩⟩
  · rw [forall_prop_of_true hlease]
    constructor
    · rintro ⟨h, h'⟩
      rw [hsource] at h
      rw [hdestination] at h'
      exact ⟨h.resolve_left (by decide), h'.resolve_left (by decide)⟩
    · rintro ⟨h, h'⟩
      constructor
      · rw [hsource]
        exact .inr h
      · rw [hdestination]
        exact .inr h'
  · refine iff_of_true ⟨?_, ?_⟩ fun h => absurd h (by rw [hlease]; decide)
    · rw [hsource]
      exact portOk_portOr dropSptRegex
    · rw [hdestination]
      exact portOk_portOr dropDptRegex
  · refine iff_of_true ⟨?_, ?_⟩ fun h => absurd h (by rw [hlease]; decide)
    · rw [hsource]
      exact .inl rfl
    · rw [hdestination]
      exact .inl rfl

/-- The sensors whose flows have given ports. -/
theorem ports_faithful_iff {go : GoPlatform} (hgo : Wraps go) (sensorType eventID : String)
    (timestamp : Time) (raw : Raw) :
    (Text.goLower sensorType = "zeek" →
      (PortsFaithful (givenNumber raw "id.orig_p") (givenNumber raw "id.resp_p")
          (normalizeNetworkFlow go sensorType eventID timestamp raw).1 ↔
        ∀ key ∈ ["id.orig_p", "id.resp_p"], ∀ x, givenNumber raw key = some x → Narrowable x)) ∧
    (Text.goLower sensorType = "suricata" →
      (PortsFaithful (givenNumber raw "src_port") (givenNumber raw "dest_port")
          (normalizeNetworkFlow go sensorType eventID timestamp raw).1 ↔
        ∀ key ∈ ["src_port", "dest_port"], ∀ x, givenNumber raw key = some x → Narrowable x)) ∧
    (Text.goLower sensorType = "syslog" ∨ Text.goLower sensorType = "router_syslog" →
      (PortsFaithful (linePort dropSptRegex raw) (linePort dropDptRegex raw)
          (normalizeNetworkFlow go sensorType eventID timestamp raw).1 ↔
        (isLease (logMessage raw) = true →
          linePort dropSptRegex raw = some 67 ∧ linePort dropDptRegex raw = some 68))) := by
  unfold normalizeNetworkFlow
  refine ⟨fun h => ?_, fun h => ?_, fun h => ?_⟩
  · rw [h]
    exact zeek_ports_iff hgo _
  · rw [h]
    exact suricata_ports_iff hgo _
  · rcases h with h | h <;> rw [h] <;> exact syslog_ports_iff raw eventID timestamp

/-- A platform that wraps. -/
def wrapping : GoPlatform := ⟨fun x => .ofNat (trunc x % 65536).toNat, fun _ => 0, toString⟩

def zeekFlow (port : Rat) : Raw := [("id.orig_h", .string "192.168.1.105"), ("id.resp_p", .float64 port)]

theorem zeek_port_kept :
    PortsFaithful none (some 443) (normalizeNetworkFlow wrapping "zeek" "evt-1" ⟨0, 0⟩ (zeekFlow 443)).1 := by
  have hgo : Wraps wrapping := fun _ => rfl
  refine ((ports_faithful_iff hgo "zeek" "evt-1" ⟨0, 0⟩ (zeekFlow 443)).1 (by decide +kernel)).mpr ?_
  rw [List.forall_mem_cons, List.forall_mem_singleton]
  constructor
  · intro x hx
    cases hx
  · intro x hx
    cases hx
    exact .inl ⟨443, by decide, rfl⟩

/-- Port 65616 becomes 80. -/
theorem wrapped_port_aliased :
    Wraps wrapping ∧
      (normalizeNetworkFlow wrapping "zeek" "evt-1" ⟨0, 0⟩ (zeekFlow 65616)).1.destinationPort = 80 ∧
      ¬ PortsFaithful (givenNumber (zeekFlow 65616) "id.orig_p") (givenNumber (zeekFlow 65616) "id.resp_p")
          (normalizeNetworkFlow wrapping "zeek" "evt-1" ⟨0, 0⟩ (zeekFlow 65616)).1 := by
  have hport : (normalizeNetworkFlow wrapping "zeek" "evt-1" ⟨0, 0⟩ (zeekFlow 65616)).1.destinationPort = 80 := by
    decide +kernel
  refine ⟨fun _ => rfl, hport, fun h => ?_⟩
  have hok := h.destination
  rw [hport] at hok
  revert hok
  unfold PortOk
  decide +kernel

end

end Adapter
end SocFabric
