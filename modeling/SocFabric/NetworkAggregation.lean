import SocFabric.Lib.Decimal
import SocFabric.Lib.GroupBy
import SocFabric.Lib.Newest
import SocFabric.NetworkEvidence

/-!
# Counting connections (`domain/investigations/agents.py`)

`aggregate_network_evidence` groups the events by the text `ip:port/protocol`. With addresses that have
no colon this text tells destinations apart (`Connection.key_inj`), so the groups are those of equal
address, port and protocol, and no event is lost or counted twice (`aggregation_conserves_events`).
-/

namespace SocFabric
namespace Triage
open KeyedStore
open SocFabric.Rat

variable {R : Type} [PyNum R]

/-- `f"{v}"` of a string and of an int. -/
structure FormatsText (str : PyVal R → String) : Prop where
  text : ∀ s, str (.str s) = s
  int : ∀ n : Int, str (.int n) = toString n

/-! ### Events -/

/-- An id, an address without a colon, an integer port and a text for the protocol. -/
structure Aggregable (e : Telemetry R) : Prop where
  id : ∃ id, e.lookup "id" = some id ∧ hashable id = true
  ip : e.get "destination_ip" .none = .none ∨
    ∃ ip, e.get "destination_ip" .none = .str ip ∧ ':' ∉ ip.toList
  port : ∃ n, e.get "destination_port" (.int 0) = .int n
  protocol : ∃ p, e.get "protocol" (.str "UNKNOWN") = .str p

def isCounted (e : Telemetry R) : Bool := (e.get "destination_ip" .none).truth

def destinationKey (str : PyVal R → String) (e : Telemetry R) : String :=
  str (e.get "destination_ip" .none) ++ ":" ++ str (e.get "destination_port" (.int 0)) ++ "/" ++
    str (e.get "protocol" (.str "UNKNOWN"))

def isCountedUnder (str : PyVal R → String) (key : String) (e : Telemetry R) : Bool :=
  isCounted e && destinationKey str e = key

structure SameDestination (e e' : Telemetry R) : Prop where
  ip : e.get "destination_ip" .none = e'.get "destination_ip" .none
  port : e.get "destination_port" (.int 0) = e'.get "destination_port" (.int 0)
  protocol : e.get "protocol" (.str "UNKNOWN") = e'.get "protocol" (.str "UNKNOWN")

/-- What a counted event reports. -/
structure Connection (R : Type) where
  ip : String
  port : Int
  protocol : String
  id : PyVal R

namespace Connection
variable (c c' : Connection R)

def key : String := c.ip ++ ":" ++ toString c.port ++ "/" ++ c.protocol

def destination : Destination R where
  ip := .str c.ip
  port := .int c.port
  protocol := .str c.protocol

variable {c c'}

omit [PyNum R] in
theorem key_inj (h : ':' ∉ c.ip.toList) (h' : ':' ∉ c'.ip.toList) :
    c.key = c'.key ↔ c.ip = c'.ip ∧ c.port = c'.port ∧ c.protocol = c'.protocol := by
  constructor
  · intro hkey
    have hlist := congrArg String.toList hkey
    simp only [key, String.toList_append, List.append_assoc] at hlist
    obtain ⟨hip, hlist⟩ := Joined.left_injective hlist h h'
    obtain ⟨hport, hprotocol⟩ := Joined.left_injective hlist
      (Decimal.notMem_int _ (by decide) (by decide)) (Decimal.notMem_int _ (by decide) (by decide))
    exact ⟨String.toList_injective hip, Decimal.toString_int_inj.mp (String.toList_injective hport),
      String.toList_injective hprotocol⟩
  · rintro ⟨hip, hport, hprotocol⟩
    rw [key, key, hip, hport, hprotocol]

end Connection

def connection (e : Telemetry R) : Option (Connection R) :=
  match e.get "destination_ip" .none, e.get "destination_port" (.int 0),
    e.get "protocol" (.str "UNKNOWN"), e.lookup "id" with
  | .str ip, .int port, .str protocol, some id => if ip = "" then none else some { ip, port, protocol, id }
  | _, _, _, _ => none

/-- One round of the loop, on what the event reports. -/
def Aggregation.connect (agg : Aggregation R) (c : Connection R) : Aggregation R where
  destinations := upsert Connection.key Connection.destination (fun d c => d.add c.id) agg.destinations c
  totalConnections := agg.totalConnections + 1

/-- The event is counted, as this connection. -/
structure Reports (e : Telemetry R) (c : Connection R) : Prop where
  ip : e.get "destination_ip" .none = .str c.ip
  port : e.get "destination_port" (.int 0) = .int c.port
  protocol : e.get "protocol" (.str "UNKNOWN") = .str c.protocol
  id : e.lookup "id" = some c.id
  hashable : hashable c.id = true
  ne_empty : c.ip ≠ ""
  noColon : ':' ∉ c.ip.toList

section
variable {str : PyVal R → String} {e e' : Telemetry R} {c c' : Connection R} {agg : Aggregation R}

namespace Reports

omit [PyNum R] in
theorem connection_eq (h : Reports e c) : connection e = some c := by
  unfold connection
  rw [h.ip, h.port, h.protocol, h.id]
  exact if_neg h.ne_empty

theorem isCounted (h : Reports e c) : isCounted e = true := by
  rw [Triage.isCounted, h.ip]
  exact decide_eq_true h.ne_empty

omit [PyNum R] in
theorem destinationKey_eq (hstr : FormatsText str) (h : Reports e c) : destinationKey str e = c.key := by
  rw [destinationKey, h.ip, h.port, h.protocol, hstr.text, hstr.text, hstr.int, Connection.key]

theorem addEvent_eq (hstr : FormatsText str) (h : Reports e c) :
    addEvent str agg e = some (agg.connect c) := by
  have htruth : (PyVal.str c.ip : PyVal R).truth = true := decide_eq_true h.ne_empty
  simp only [addEvent, h.ip, h.port, h.protocol, h.id, htruth, hstr.text, hstr.int, if_pos,
    Option.bind_eq_bind, Option.bind_some, h.hashable]
  rfl

omit [PyNum R] in
theorem sameDestination_iff (hstr : FormatsText str) (h : Reports e c) (h' : Reports e' c') :
    destinationKey str e = destinationKey str e' ↔ SameDestination e e' := by
  rw [h.destinationKey_eq hstr, h'.destinationKey_eq hstr, Connection.key_inj h.noColon h'.noColon]
  constructor
  · rintro ⟨hip, hport, hprotocol⟩
    exact ⟨by rw [h.ip, h'.ip, hip], by rw [h.port, h'.port, hport],
      by rw [h.protocol, h'.protocol, hprotocol]⟩
  · rintro ⟨hip, hport, hprotocol⟩
    rw [h.ip, h'.ip] at hip
    rw [h.port, h'.port] at hport
    rw [h.protocol, h'.protocol] at hprotocol
    exact ⟨PyVal.str.inj hip, PyVal.int.inj hport, PyVal.str.inj hprotocol⟩

end Reports

theorem Aggregable.cases (h : Aggregable e) :
    (connection e = none ∧ isCounted e = false) ∨ ∃ c, Reports e c := by
  obtain ⟨id, hid, hhash⟩ := h.id
  obtain ⟨port, hport⟩ := h.port
  obtain ⟨protocol, hprotocol⟩ := h.protocol
  rcases h.ip with hip | ⟨ip, hip, hcolon⟩
  · refine .inl ⟨?_, by rw [isCounted, hip]; rfl⟩
    unfold connection
    rw [hip]
  · by_cases hempty : ip = ""
    · refine .inl ⟨?_, by rw [isCounted, hip, hempty]; rfl⟩
      unfold connection
      rw [hip, hport, hprotocol, hid]
      exact if_pos hempty
    · exact .inr ⟨⟨ip, port, protocol, id⟩, hip, hport, hprotocol, hid, hhash, hempty, hcolon⟩

theorem addEvent_of_not_counted (h : isCounted e = false) : addEvent str agg e = some agg := by
  unfold addEvent
  dsimp only
  exact if_neg (Bool.eq_false_iff.mp h)

theorem Aggregable.reports (h : Aggregable e) (hc : connection e = some c) : Reports e c := by
  rcases h.cases with ⟨hnone, -⟩ | ⟨c', hreports⟩
  · cases hnone.symm.trans hc
  · cases hreports.connection_eq.symm.trans hc
    exact hreports

theorem Aggregable.isCounted_eq (h : Aggregable e) : isCounted e = (connection e).isSome := by
  rcases h.cases with ⟨hnone, hcounted⟩ | ⟨c, hreports⟩
  · rw [hnone, hcounted]
    rfl
  · rw [hreports.isCounted, hreports.connection_eq]
    rfl

end

/-! ### The loop -/

section
variable {str : PyVal R → String} {events : List (Telemetry R)} {agg : Aggregation R}

theorem foldlM_addEvent (hstr : FormatsText str) (h : ∀ e ∈ events, Aggregable e) :
    events.foldlM (addEvent str) agg =
      some ((events.filterMap connection).foldl Aggregation.connect agg) := by
  induction events generalizing agg with
  | nil => rfl
  | cons e events ih =>
    obtain ⟨he, hevents⟩ := List.forall_mem_cons.mp h
    rw [List.foldlM_cons]
    rcases he.cases with ⟨hnone, hcounted⟩ | ⟨c, hreports⟩
    · rw [addEvent_of_not_counted hcounted, List.filterMap_cons_none hnone]
      exact ih hevents
    · rw [hreports.addEvent_eq hstr, List.filterMap_cons_some hreports.connection_eq]
      exact ih hevents

theorem foldl_connect (cs : List (Connection R)) :
    cs.foldl Aggregation.connect agg =
      { destinations := cs.foldl (upsert Connection.key Connection.destination fun d c => d.add c.id)
          agg.destinations
        totalConnections := agg.totalConnections + cs.length } := by
  induction cs generalizing agg with
  | nil => rfl
  | cons c cs ih =>
    rw [List.foldl_cons, ih, List.length_cons, Nat.add_comm cs.length 1, ← Nat.add_assoc]
    rfl

end

/-! ### Destinations -/

/-- Each of the ids, once. -/
structure HoldsIds (ids evidenceIds : List (PyVal R)) : Prop where
  distinct : evidenceIds.Pairwise fun a b => pyEq b a = false
  sound : ∀ id ∈ evidenceIds, id ∈ ids
  complete : ∀ id ∈ ids, id ∈ evidenceIds ∨ evidenceIds.any (pyEq id) = true

theorem HoldsIds.concat {ids evidenceIds : List (PyVal R)} (h : HoldsIds ids evidenceIds) (id : PyVal R) :
    HoldsIds (ids ++ [id]) (if evidenceIds.any (pyEq id) then evidenceIds else evidenceIds ++ [id]) := by
  split_ifs with hany
  · refine ⟨h.distinct, fun i hi => List.mem_append_left _ (h.sound i hi), fun i hi => ?_⟩
    rcases List.mem_append.mp hi with hi | hi
    · exact h.complete i hi
    · rw [List.mem_singleton.mp hi]
      exact .inr hany
  · rw [Bool.not_eq_true, List.any_eq_false] at hany
    refine ⟨List.pairwise_append.mpr ⟨h.distinct, List.pairwise_singleton _ _, ?_⟩, fun i hi => ?_,
      fun i hi => ?_⟩
    · intro a ha b hb
      rw [List.mem_singleton.mp hb]
      exact Bool.eq_false_iff.mpr (hany a ha)
    · exact (List.mem_append.mp hi).elim (fun hi => List.mem_append_left _ (h.sound i hi))
        (List.mem_append_right _)
    · rcases List.mem_append.mp hi with hi | hi
      · rcases h.complete i hi with hmem | hmem
        · exact .inl (List.mem_append_left _ hmem)
        · exact .inr (by rw [List.any_append, hmem, Bool.true_or])
      · exact .inl (List.mem_append_right _ hi)

/-- A destination that these connections were added to. -/
theorem foldl_add (d : Destination R) (cs : List (Connection R)) (hd : d.connections = 0 ∧ d.evidenceIds = []) :
    (cs.foldl (fun d c => d.add c.id) d).connections = cs.length ∧
      HoldsIds (cs.map (·.id)) (cs.foldl (fun d c => d.add c.id) d).evidenceIds ∧
      (cs.foldl (fun d c => d.add c.id) d).ip = d.ip ∧
      (cs.foldl (fun d c => d.add c.id) d).port = d.port ∧
      (cs.foldl (fun d c => d.add c.id) d).protocol = d.protocol := by
  induction cs using List.reverseRecOn with
  | nil => exact ⟨hd.1, ⟨by simp [hd.2], by simp [hd.2], by simp⟩, rfl, rfl, rfl⟩
  | append_singleton cs c ih =>
    obtain ⟨hconn, hids, hip, hport, hprotocol⟩ := ih
    rw [List.foldl_concat, List.length_append, List.map_append]
    exact ⟨congrArg Nat.succ hconn, hids.concat c.id, hip, hport, hprotocol⟩

/-- The destinations count the events, each under its own. -/
structure IsTally (str : PyVal R → String) (events : List (Telemetry R)) (agg : Aggregation R) : Prop where
  keys : (agg.destinations.map Prod.fst).Nodup
  counted : ∀ e ∈ events, isCounted e = true →
    ∃ d, (destinationKey str e, d) ∈ agg.destinations ∧ d.ip = e.get "destination_ip" .none ∧
      d.port = e.get "destination_port" (.int 0) ∧ d.protocol = e.get "protocol" (.str "UNKNOWN")
  connections : ∀ x ∈ agg.destinations, x.2.connections = events.countP (isCountedUnder str x.1)
  evidence : ∀ x ∈ agg.destinations,
    HoldsIds ((events.filter (isCountedUnder str x.1)).filterMap (·.lookup "id")) x.2.evidenceIds

/-- The largest destinations, at most ten. -/
structure IsTop (agg : Aggregation R) (r : NetworkEvidence R) : Prop where
  length : r.topDestinations.length = min 10 r.uniqueDestinations
  sorted : r.topDestinations.Pairwise fun d d' => d'.connections ≤ d.connections
  greatest : ∃ omitted, (r.topDestinations ++ omitted).Perm (agg.destinations.map Prod.snd) ∧
    ∀ d ∈ r.topDestinations, ∀ d' ∈ omitted, d'.connections ≤ d.connections

section
variable {str : PyVal R → String} {events : List (Telemetry R)} {agg : Aggregation R}

/-- The connections of a destination are the events counted under its key. -/
theorem filter_connections (hstr : FormatsText str) (h : ∀ e ∈ events, Aggregable e) (key : String) :
    ((events.filterMap connection).filter (·.key = key)).length = events.countP (isCountedUnder str key) ∧
      ((events.filterMap connection).filter (·.key = key)).map (·.id) =
        (events.filter (isCountedUnder str key)).filterMap (·.lookup "id") := by
  induction events with
  | nil => exact ⟨rfl, rfl⟩
  | cons e events ih =>
    obtain ⟨he, hevents⟩ := List.forall_mem_cons.mp h
    obtain ⟨hlength, hids⟩ := ih hevents
    rcases he.cases with ⟨hnone, hcounted⟩ | ⟨c, hreports⟩
    · have hnot : isCountedUnder str key e = false := by rw [isCountedUnder, hcounted, Bool.false_and]
      rw [List.filterMap_cons_none hnone, List.countP_cons_of_neg (by rw [hnot]; decide),
        List.filter_cons_of_neg (by rw [hnot]; decide)]
      exact ⟨hlength, hids⟩
    · have hunder : isCountedUnder str key e = decide (c.key = key) := by
        rw [isCountedUnder, hreports.isCounted, hreports.destinationKey_eq hstr, Bool.true_and]
      rw [List.filterMap_cons_some hreports.connection_eq]
      by_cases hkey : c.key = key
      · rw [List.filter_cons_of_pos (by simpa using hkey), List.countP_cons_of_pos (by simpa [hunder] using hkey),
          List.filter_cons_of_pos (by simpa [hunder] using hkey), List.filterMap_cons_some hreports.id]
        exact ⟨congrArg Nat.succ hlength, congrArg (c.id :: ·) hids⟩
      · rw [List.filter_cons_of_neg (by simpa using hkey), List.countP_cons_of_neg (by simpa [hunder] using hkey),
          List.filter_cons_of_neg (by simpa [hunder] using hkey)]
        exact ⟨hlength, hids⟩

/-- What the loop has collected. -/
def aggregation (events : List (Telemetry R)) : Aggregation R where
  destinations := group Connection.key Connection.destination (fun d c => d.add c.id)
    (events.filterMap connection)
  totalConnections := (events.filterMap connection).length

theorem foldlM_eq_aggregation (hstr : FormatsText str) (h : ∀ e ∈ events, Aggregable e) :
    events.foldlM (addEvent str) {} = some (aggregation events) := by
  rw [foldlM_addEvent hstr h, foldl_connect, Nat.zero_add]
  rfl

theorem totalConnections_eq (h : ∀ e ∈ events, Aggregable e) :
    (aggregation events).totalConnections = events.countP isCounted := by
  rw [aggregation, List.length_filterMap_eq_countP]
  exact List.countP_congr fun e he => by rw [(h e he).isCounted_eq]

theorem connection_noColon (h : ∀ e ∈ events, Aggregable e) {c : Connection R}
    (hc : c ∈ events.filterMap connection) : ':' ∉ c.ip.toList := by
  obtain ⟨e, he, hconn⟩ := List.mem_filterMap.mp hc
  exact ((h e he).reports hconn).noColon

theorem isTally_aggregation (hstr : FormatsText str) (h : ∀ e ∈ events, Aggregable e) :
    IsTally str events (aggregation events) where
  keys := nodup_keys_group (events.filterMap connection)
  counted e he hcounted := by
    obtain ⟨c, hc⟩ := Option.isSome_iff_exists.mp ((h e he).isCounted_eq ▸ hcounted)
    have hreports := (h e he).reports hc
    have hmem : c ∈ events.filterMap connection := List.mem_filterMap.mpr ⟨e, he, hc⟩
    have hgroup : ∃ d, (c.key, d) ∈ (aggregation events).destinations := exists_group_of_mem hmem
    obtain ⟨d, hd⟩ := hgroup
    obtain ⟨x, ys, hxs, hfold⟩ := exists_of_mem_group hd
    have hx : x ∈ (events.filterMap connection).filter (·.key = c.key) := hxs ▸ List.mem_cons_self
    obtain ⟨hxmem, hxkey⟩ := List.mem_filter.mp hx
    obtain ⟨hip, hport, hprotocol⟩ := (Connection.key_inj (connection_noColon h hxmem) hreports.noColon).mp
      (of_decide_eq_true hxkey)
    obtain ⟨-, -, hdip, hdport, hdprotocol⟩ := foldl_add x.destination (x :: ys) ⟨rfl, rfl⟩
    refine ⟨d, hreports.destinationKey_eq hstr ▸ hd, ?_, ?_, ?_⟩
    · rw [hfold, hdip, hreports.ip, ← hip, Connection.destination]
    · rw [hfold, hdport, hreports.port, ← hport, Connection.destination]
    · rw [hfold, hdprotocol, hreports.protocol, ← hprotocol, Connection.destination]
  connections x hx := by
    obtain ⟨c, cs, hcs, hfold⟩ := exists_of_mem_group (k := x.1) (v := x.2) hx
    rw [hfold, (foldl_add c.destination (c :: cs) ⟨rfl, rfl⟩).1, ← hcs]
    exact (filter_connections hstr h x.1).1
  evidence x hx := by
    obtain ⟨c, cs, hcs, hfold⟩ := exists_of_mem_group (k := x.1) (v := x.2) hx
    rw [hfold, ← (filter_connections hstr h x.1).2, hcs]
    exact (foldl_add c.destination (c :: cs) ⟨rfl, rfl⟩).2.1

theorem sum_connections (hstr : FormatsText str) (h : ∀ e ∈ events, Aggregable e) :
    ((aggregation events).destinations.map (·.2.connections)).sum = (aggregation events).totalConnections := by
  refine sum_size_group (f := Destination.connections) fun {k d} hd => ?_
  rw [(isTally_aggregation hstr h).connections (k, d) hd, ← (filter_connections hstr h k).1,
    ← List.countP_eq_length_filter]

/-- Every destination has an address, which the filter takes. -/
theorem mapM_isExternalDestination (hstr : FormatsText str) (h : ∀ e ∈ events, Aggregable e) :
    ∃ external, (aggregation events).destinations.mapM (fun d => isExternalDestination d.2.ip) = some external := by
  refine Option.isSome_iff_exists.mp (RaisingLoop.isSome_mapM_iff.mpr ?_)
  refine ip_of_foldlM (P := fun ip => (isExternalDestination ip).isSome = true) (foldlM_eq_aggregation hstr h)
    (fun e he hcounted => ?_) (by simp)
  have hsome : (connection e).isSome = true := (h e he).isCounted_eq ▸ hcounted
  obtain ⟨c, hc⟩ := Option.isSome_iff_exists.mp hsome
  rw [((h e he).reports hc).ip]
  rfl

omit [PyNum R] in
theorem isTop_take (ds : List (String × Destination R)) (outbound external : Nat) :
    IsTop { destinations := ds, totalConnections := outbound }
      { outboundConnections := outbound
        uniqueDestinations := ds.length
        externalDestinations := external
        topDestinations :=
          ((ds.map Prod.snd).insertionSort fun d d' => d'.connections ≤ d.connections).take 10 } := by
  have htop := Newest.isNewest_sort Destination.connections 10 (ds.map Prod.snd)
  exact ⟨htop.length.trans (by rw [List.length_map]), htop.pairwise, htop.exists_omitted⟩

end

/-- The events of a triage call, counted once each under the destinations that they agree on. -/
theorem aggregation_conserves_events {str : PyVal R → String} {events : List (Telemetry R)}
    (hstr : FormatsText str) (h : ∀ e ∈ events, Aggregable e) :
    ∃ agg r, events.foldlM (addEvent str) {} = some agg ∧ aggregateNetworkEvidence str events = some r ∧
      r.outboundConnections = events.countP isCounted ∧
      r.outboundConnections = (agg.destinations.map (·.2.connections)).sum ∧
      (∀ e ∈ events, ∀ e' ∈ events, isCounted e = true → isCounted e' = true →
        (destinationKey str e = destinationKey str e' ↔ SameDestination e e')) ∧
      IsTally str events agg ∧ r.uniqueDestinations = agg.destinations.length ∧
      r.externalDestinations ≤ r.uniqueDestinations ∧ IsTop agg r := by
  obtain ⟨external, hexternal⟩ := mapM_isExternalDestination hstr h
  refine ⟨aggregation events, _, foldlM_eq_aggregation hstr h, ?_, totalConnections_eq h,
    (sum_connections hstr h).symm, ?_, isTally_aggregation hstr h, rfl, ?_, isTop_take _ _ (external.count true)⟩
  · rw [aggregateNetworkEvidence, foldlM_eq_aggregation hstr h, Option.bind_eq_bind, Option.bind_some, hexternal]
    rfl
  · intro e he e' he' hcounted hcounted'
    obtain ⟨c, hc⟩ := Option.isSome_iff_exists.mp ((h e he).isCounted_eq ▸ hcounted)
    obtain ⟨c', hc'⟩ := Option.isSome_iff_exists.mp ((h e' he').isCounted_eq ▸ hcounted')
    exact ((h e he).reports hc).sameDestination_iff hstr ((h e' he').reports hc')
  · exact (List.count_le_length).trans (RaisingLoop.length_of_mapM hexternal).le

def formatText : PyVal Rat → String
  | .str s => s
  | .int n => toString n
  | v => reprStr v

/-- An event of a host that names no protocol. -/
def visit (id ip : String) (port : Int) : Telemetry Rat :=
  [("id", .str id), ("destination_ip", .str ip), ("destination_port", .int port)]

def visits : List (Telemetry Rat) :=
  [visit "e1" "8.8.8.8" 53, visit "e2" "10.0.0.33" 443, visit "e3" "8.8.8.8" 53, visit "e1" "8.8.8.8" 53]

theorem visits_conserved :
    (∀ e ∈ visits, Aggregable e) ∧
      ∃ agg r, visits.foldlM (addEvent formatText) {} = some agg ∧
        aggregateNetworkEvidence formatText visits = some r ∧
        r.outboundConnections = 4 ∧ r.outboundConnections = (agg.destinations.map (·.2.connections)).sum ∧
        IsTally formatText visits agg ∧ IsTop agg r := by
  have hvisit (id ip : String) (port : Int) (hip : ':' ∉ ip.toList) : Aggregable (visit id ip port) :=
    ⟨⟨.str id, rfl, rfl⟩, .inr ⟨ip, rfl, hip⟩, ⟨port, rfl⟩, ⟨"UNKNOWN", rfl⟩⟩
  have hformat : FormatsText formatText := ⟨fun _ => rfl, fun _ => rfl⟩
  have hvisits : ∀ e ∈ visits, Aggregable e := by
    intro e he
    simp only [visits, List.mem_cons, List.not_mem_nil, or_false] at he
    rcases he with rfl | rfl | rfl | rfl <;> exact hvisit _ _ _ (by decide)
  obtain ⟨agg, r, hagg, hr, houtbound, hsum, -, htally, -, -, htop⟩ :=
    aggregation_conserves_events hformat hvisits
  exact ⟨hvisits, agg, r, hagg, hr, houtbound.trans (by decide), hsum, htally, htop⟩

end Triage
end SocFabric
