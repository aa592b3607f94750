import SocFabric.DnsAssociation

/-!
# The two DNS decoders (`core-ingest/network_adapter.go`)

`ParseDNSEvent` reads the same map as the `dns` branch of `NormalizeNetworkFlow`: structured fields,
then a dnsmasq line over them. They agree on the name and on the client of a query. But the flow takes
its destination also from `response_ip`, which the event does not read, so they agree on the answer
exactly if the map has a dnsmasq line or no such field (`decoders_agree_iff`).
-/

namespace SocFabric
namespace Adapter
open Regex

/-- A dnsmasq line overrides the structured fields. -/
def dnsLine (msg : String) (evt : DNSEvent) : DNSEvent :=
  match find dnsQueryRegex msg with
  | some [type, name, client] => { evt with queryType := type, queryName := name, clientIP := client }
  | _ =>
    match find dnsReplyRegex msg with
    | some [name, ip] => { evt with queryName := name, responseIPs := evt.responseIPs ++ [ip] }
    | _ => evt

/-- The event, and the error, which is always nil. -/
def parseDNSEvent (raw : Raw) (timestamp : Time) : DNSEvent × Option String :=
  (dnsLine (logMessage raw)
    { eventID :=
        if getString raw "event_id" = "" then "dns-evt-" ++ toString timestamp.unixNano
        else getString raw "event_id"
      timestamp
      clientIP := getString raw "client_ip"
      clientMAC := getString raw "client_mac"
      queryName := getString raw "query_name"
      queryType := getString raw "query_type"
      resolverIP :=
        if getString raw "resolver_ip" = "" then "192.168.1.1" else getString raw "resolver_ip" },
    none)

/-! ### dnsmasq lines -/

abbrev isQueryLine (raw : Raw) : Prop := (find dnsQueryRegex (logMessage raw)).isSome

/-- The query pattern is tried first. -/
abbrev isReplyLine (raw : Raw) : Prop :=
  ¬isQueryLine raw ∧ (find dnsReplyRegex (logMessage raw)).isSome

section
variable {raw : Raw} {flow : NetworkFlow} {evt : DNSEvent}

theorem query_groups (h : isQueryLine raw) :
    ∃ type name client, find dnsQueryRegex (logMessage raw) = some [type, name, client] := by
  obtain ⟨r, hr⟩ := Option.isSome_iff_exists.mp h
  obtain ⟨type, name, client, rfl⟩ := List.length_eq_three.mp (length_of_findIn hr)
  exact ⟨type, name, client, hr⟩

theorem reply_groups (h : isReplyLine raw) :
    ∃ name ip, find dnsReplyRegex (logMessage raw) = some [name, ip] := by
  obtain ⟨r, hr⟩ := Option.isSome_iff_exists.mp h.2
  obtain ⟨name, ip, rfl⟩ := List.length_eq_two.mp (length_of_findIn hr)
  exact ⟨name, ip, hr⟩

theorem query_none (h : ¬isQueryLine raw) : find dnsQueryRegex (logMessage raw) = none :=
  Option.not_isSome_iff_eq_none.mp h

theorem reply_none (hquery : ¬isQueryLine raw) (h : ¬isReplyLine raw) :
    find dnsReplyRegex (logMessage raw) = none :=
  Option.not_isSome_iff_eq_none.mp fun hsome => h ⟨hquery, hsome⟩

/-- Both decoders read a line in the same way. -/
theorem dnsFields_and_dnsLine (raw : Raw) (flow : NetworkFlow) (evt : DNSEvent) :
    (∃ type name client, isQueryLine raw ∧
      dnsFields (logMessage raw) flow =
        { flow with dstHostname := name, sourceIP := client, destinationIP := "192.168.1.1" } ∧
      dnsLine (logMessage raw) evt =
        { evt with queryType := type, queryName := name, clientIP := client }) ∨
    (∃ name ip, isReplyLine raw ∧
      dnsFields (logMessage raw) flow =
        { flow with dstHostname := name, destinationIP := ip, sourceIP := "192.168.1.1" } ∧
      dnsLine (logMessage raw) evt =
        { evt with queryName := name, responseIPs := evt.responseIPs ++ [ip] }) ∨
    ¬isQueryLine raw ∧ ¬isReplyLine raw ∧ dnsFields (logMessage raw) flow = flow ∧
      dnsLine (logMessage raw) evt = evt := by
  unfold dnsFields dnsLine
  by_cases hquery : isQueryLine raw
  · obtain ⟨type, name, client, hfind⟩ := query_groups hquery
    rw [hfind]
    exact .inl ⟨type, name, client, hquery, rfl, rfl⟩
  · rw [query_none hquery]
    by_cases hreply : isReplyLine raw
    · obtain ⟨name, ip, hfind⟩ := reply_groups hreply
      rw [hfind]
      exact .inr (.inl ⟨name, ip, hreply, rfl, rfl⟩)
    · rw [reply_none hquery hreply]
      exact .inr (.inr ⟨hquery, hreply, rfl, rfl⟩)

end

/-! ### Agreement -/

/-- The map is a query: a query line, or structured fields without a reply line. -/
abbrev isQuery (raw : Raw) : Prop := isQueryLine raw ∨ ¬isReplyLine raw

/-- The flow's destination is a resolved answer, of a reply line or of the `response_ip` field. -/
abbrev isAnswer (raw : Raw) : Prop :=
  isReplyLine raw ∨ (¬isQueryLine raw ∧ getString raw "response_ip" ≠ "")

/-- The flow and the event of one map are the same observation. -/
structure DecodersAgree (go : GoPlatform) (eventID : String) (timestamp : Time) (raw : Raw) : Prop where
  name : (normalizeNetworkFlow go "dns" eventID timestamp raw).1.dstHostname =
    (parseDNSEvent raw timestamp).1.queryName
  client : isQuery raw → (normalizeNetworkFlow go "dns" eventID timestamp raw).1.sourceIP =
    (parseDNSEvent raw timestamp).1.clientIP
  answer : isAnswer raw → (normalizeNetworkFlow go "dns" eventID timestamp raw).1.destinationIP ∈
    (parseDNSEvent raw timestamp).1.responseIPs

/-- A structured field that is missing reads as the empty text of a new flow. -/
theorem ite_eq_empty (s : String) : (if s = "" then "" else s) = s := by
  split_ifs with h
  · exact h.symm
  · rfl

theorem decoders_agree_iff (go : GoPlatform) (eventID : String) (timestamp : Time) (raw : Raw) :
    DecodersAgree go eventID timestamp raw ↔
      isQueryLine raw ∨ isReplyLine raw ∨ getString raw "response_ip" = "" := by
  have hflow : (normalizeNetworkFlow go "dns" eventID timestamp raw).1 =
      normalizeDns raw { eventID, timestamp } := rfl
  constructor
  · intro h
    by_contra hnone
    push Not at hnone
    obtain ⟨hquery, hreply, hresponse⟩ := hnone
    have hanswer := h.answer (.inr ⟨hquery, hresponse⟩)
    have hline : ∀ evt, dnsLine (logMessage raw) evt = evt := fun evt => by
      rw [dnsLine, query_none hquery, reply_none hquery hreply]
    rw [parseDNSEvent, hline] at hanswer
    cases hanswer
  · intro h
    constructor <;> rw [hflow, normalizeDns, parseDNSEvent]
    · rcases dnsFields_and_dnsLine raw _ _ with
        ⟨_, _, _, -, hf, he⟩ | ⟨_, _, -, hf, he⟩ | ⟨-, -, hf, he⟩ <;> rw [hf, he]
      exact ite_eq_empty _
    · intro hquery
      rcases dnsFields_and_dnsLine raw _ _ with
        ⟨_, _, _, -, hf, he⟩ | ⟨_, _, hreply, -, -⟩ | ⟨-, -, hf, he⟩
      · rw [hf, he]
      · exact absurd hreply (hquery.resolve_left hreply.1)
      · rw [hf, he]
        exact ite_eq_empty _
    · intro hanswer
      rcases dnsFields_and_dnsLine raw _ _ with
        ⟨_, _, _, hquery, -, -⟩ | ⟨_, _, -, hf, he⟩ | ⟨hquery, hreply, -, -⟩
      · rcases hanswer with hreply | ⟨hnot, -⟩
        · exact absurd hquery hreply.1
        · exact absurd hquery hnot
      · rw [hf, he]
        exact List.mem_append_right _ List.mem_cons_self
      · rcases hanswer with hanswer | ⟨-, hresponse⟩
        · exact absurd hanswer hreply
        · exact absurd ((h.resolve_left hquery).resolve_left hreply) hresponse

/-- An answer in structured fields: the flow goes to the address, and the event has no answer. -/
def structuredAnswer : Raw :=
  [("query_name", .string "google.com"), ("client_ip", .string "192.168.1.105"),
    ("response_ip", .string "142.250.190.46")]

theorem structured_answer_lost :
    ¬ ∀ (go : GoPlatform) (eventID : String) (timestamp : Time) (raw : Raw),
        DecodersAgree go eventID timestamp raw := by
  intro h
  have hanswer := (h ⟨fun _ => 0, fun _ => 0, fun _ => ""⟩ "evt-1" ⟨0, 0⟩ structuredAnswer).answer
    (.inr (by decide +kernel))
  exact absurd hanswer (by decide +kernel)

end Adapter
end SocFabric
