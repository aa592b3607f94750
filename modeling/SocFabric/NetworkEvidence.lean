import SocFabric.BeaconDetection
import SocFabric.Lib.Decimal
import SocFabric.Lib.Joined
import SocFabric.Lib.RaisingLoop

/-!
# Internal and external addresses (`RatDetector.py`, `AntigravityTriageAgent.py`, `agents.py`)

`aggregate_network_evidence` counts the destinations of a list of events, and those outside the
network, by an address test of its own. It is the third of its kind, after `_is_external_ip` and the
test of `analyze_flow_features`, and all are prefixes of the dotted text. On IPv4 addresses each is a
condition on the octets (`isExternalIp_text`, `isInternal_text`): the prefix `172.` takes in all of
172/8, and only the detector knows the whole of 127/8 (`classified_iff`).
-/

namespace SocFabric
namespace Triage
open SocFabric.Rat

variable {R : Type} [PyNum R]

/-! ### Aggregation -/

structure Destination (R : Type) where
  ip : PyVal R
  port : PyVal R
  protocol : PyVal R
  connections : Nat := 0
  evidenceIds : List (PyVal R) := []

/-- A set of ids is kept as a list in the order of insertion. -/
def Destination.add (d : Destination R) (id : PyVal R) : Destination R where
  ip := d.ip
  port := d.port
  protocol := d.protocol
  connections := d.connections + 1
  evidenceIds := if d.evidenceIds.any (pyEq id) then d.evidenceIds else d.evidenceIds ++ [id]

/-- The loop over the events. -/
structure Aggregation (R : Type) where
  destinations : List (String × Destination R) := []
  totalConnections : Nat := 0

def addEvent (str : PyVal R → String) (agg : Aggregation R) (event : Telemetry R) :
    Option (Aggregation R) :=
  let ip := event.get "destination_ip" .none
  let port := event.get "destination_port" (.int 0)
  let protocol := event.get "protocol" (.str "UNKNOWN")
  let key := str ip ++ ":" ++ str port ++ "/" ++ str protocol
  if ip.truth then do
    -- an event without an id raises, and so does an id that no set takes
    let id ← event.lookup "id"
    if hashable id then
      let d := (agg.destinations.lookup key).getD { ip := ip, port := port, protocol := protocol }
      return {
        destinations := KeyedStore.put key (d.add id) agg.destinations
        totalConnections := agg.totalConnections + 1 }
    else none
  else some agg

/-- The RFC 1918 filter; an address that is no string has no `startswith`. -/
def isExternalDestination : PyVal R → Option Bool
  | .str ip =>
    some !(Text.startsWith ip "10." || Text.startsWith ip "192.168." || Text.startsWith ip "172." ||
      ip = "127.0.0.1")
  | _ => none

structure NetworkEvidence (R : Type) where
  outboundConnections : Nat
  uniqueDestinations : Nat
  externalDestinations : Nat
  topDestinations : List (Destination R)

def aggregateNetworkEvidence (str : PyVal R → String) (events : List (Telemetry R)) :
    Option (NetworkEvidence R) := do
  let agg ← events.foldlM (addEvent str) {}
  let external ← agg.destinations.mapM fun d => isExternalDestination d.2.ip
  return {
    outboundConnections := agg.totalConnections
    uniqueDestinations := agg.destinations.length
    externalDestinations := external.count true
    topDestinations :=
      ((agg.destinations.map Prod.snd).insertionSort fun d d' => d'.connections ≤ d.connections).take 10 }

/-! ### IPv4 addresses -/

structure Ipv4 where
  a : Fin 256
  b : Fin 256
  c : Fin 256
  d : Fin 256
deriving DecidableEq, Repr

namespace Ipv4

/-- The text of an octet, in decimal. -/
def octet (n : Fin 256) : List Char := n.val.repr.toList

def ofNats (a b c d : Nat) : Ipv4 := ⟨Fin.ofNat 256 a, Fin.ofNat 256 b, Fin.ofNat 256 c, Fin.ofNat 256 d⟩

/-- The address of its /24. -/
def network (x : Ipv4) : Ipv4 := ⟨x.a, x.b, x.c, 0⟩

/-- The canonical text. -/
def text (x : Ipv4) : String :=
  .ofList (octet x.a ++ '.' :: (octet x.b ++ '.' :: (octet x.c ++ '.' :: octet x.d)))

def isRfc1918 (x : Ipv4) : Prop :=
  x.a = 10 ∨ (x.a = 172 ∧ 16 ≤ x.b ∧ x.b ≤ 31) ∨ (x.a = 192 ∧ x.b = 168)

def isLoopback (x : Ipv4) : Prop := x.a = 127

def isZero (x : Ipv4) : Prop := x = ⟨0, 0, 0, 0⟩

instance (x : Ipv4) : Decidable x.isZero := inferInstanceAs (Decidable (x = _))

/-- The prefixes and texts of `_is_external_ip`, as octets. -/
def isLocal (x : Ipv4) : Bool :=
  x.a = 10 ∨ (x.a = 192 ∧ x.b = 168) ∨ x.a = 172 ∨ x.a = 127 ∨ x.isZero

/-- Those of the other two tests. -/
def isInline (x : Ipv4) : Bool :=
  x.a = 10 ∨ (x.a = 192 ∧ x.b = 168) ∨ x.a = 172 ∨ x = ⟨127, 0, 0, 1⟩

theorem dot_notMem_octet (n : Fin 256) : '.' ∉ octet n := Decimal.notMem_repr n (by decide)

theorem octet_inj {m n : Fin 256} : octet m = octet n ↔ m = n := by
  refine ⟨fun h => ?_, congrArg octet⟩
  exact Fin.ext (Decimal.repr_inj.mp (String.toList_injective h))

/-- A prefix that ends in a dot is the first octet, and what follows it. -/
theorem octet_dot_prefix_iff {m n : Fin 256} {p s : List Char} :
    octet m ++ '.' :: p <+: octet n ++ '.' :: s ↔ m = n ∧ p <+: s := by
  constructor
  · rintro ⟨t, ht⟩
    rw [List.append_assoc, List.cons_append] at ht
    obtain ⟨hm, hp⟩ := Joined.left_injective ht (dot_notMem_octet m) (dot_notMem_octet n)
    exact ⟨octet_inj.mp hm, t, hp⟩
  · rintro ⟨rfl, t, rfl⟩
    exact ⟨t, by simp⟩

theorem startsWith_octet (x : Ipv4) (m : Fin 256) {p : String} (hp : p.toList = octet m ++ ['.']) :
    Text.startsWith x.text p = decide (x.a = m) := by
  rw [Bool.eq_iff_iff, Text.startsWith_iff, hp, text, String.toList_ofList, octet_dot_prefix_iff,
    decide_eq_true_eq]
  simp [eq_comm]

theorem startsWith_octets (x : Ipv4) (m n : Fin 256) {p : String}
    (hp : p.toList = octet m ++ '.' :: (octet n ++ ['.'])) :
    Text.startsWith x.text p = decide (x.a = m ∧ x.b = n) := by
  rw [Bool.eq_iff_iff, Text.startsWith_iff, hp, text, String.toList_ofList, octet_dot_prefix_iff,
    octet_dot_prefix_iff, decide_eq_true_eq]
  simp [eq_comm]

theorem text_inj {x y : Ipv4} : x.text = y.text ↔ x = y := by
  refine ⟨fun h => ?_, congrArg text⟩
  have hlist := congrArg String.toList h
  rw [text, text, String.toList_ofList, String.toList_ofList] at hlist
  obtain ⟨ha, hlist⟩ := Joined.left_injective hlist (dot_notMem_octet _) (dot_notMem_octet _)
  obtain ⟨hb, hlist⟩ := Joined.left_injective hlist (dot_notMem_octet _) (dot_notMem_octet _)
  obtain ⟨hc, hd⟩ := Joined.left_injective hlist (dot_notMem_octet _) (dot_notMem_octet _)
  cases x
  cases y
  simp_all [octet_inj]

theorem text_ne (x : Ipv4) {s : String} (hs : '.' ∉ s.toList) : x.text ≠ s := by
  rintro rfl
  exact hs (by simp [text])

theorem text_eq_iff {x : Ipv4} (y : Ipv4) {s : String} (hs : y.text = s) : x.text = s ↔ x = y := by
  rw [← hs, text_inj]

end Ipv4

/-! ### The three tests -/

section
variable (x : Ipv4)

theorem isExternalIp_text : isExternalIp (.str x.text : PyVal R) = some !x.isLocal := by
  have hempty : x.text ≠ "" := x.text_ne (by decide)
  have hany : x.text ≠ "::" := x.text_ne (by decide)
  have hloop : x.text ≠ "::1" := x.text_ne (by decide)
  have hzero : x.text = "0.0.0.0" ↔ x.isZero := Ipv4.text_eq_iff ⟨0, 0, 0, 0⟩ (by decide)
  simp only [isExternalIp, x.startsWith_octet 10 (p := "10.") (by decide),
    x.startsWith_octets 192 168 (p := "192.168.") (by decide),
    x.startsWith_octet 172 (p := "172.") (by decide),
    x.startsWith_octet 127 (p := "127.") (by decide), Ipv4.isLocal, hzero]
  simp [hempty, hany, hloop, Bool.and_assoc]

/-- The test of `analyze_flow_features`, for either end of a flow. -/
theorem isInternal_text : isInternal x.text = x.isInline := by
  have hloop : x.text = "127.0.0.1" ↔ x = ⟨127, 0, 0, 1⟩ := Ipv4.text_eq_iff _ (by decide)
  simp only [isInternal, x.startsWith_octet 10 (p := "10.") (by decide),
    x.startsWith_octets 192 168 (p := "192.168.") (by decide),
    x.startsWith_octet 172 (p := "172.") (by decide), hloop, Ipv4.isInline]
  simp [Bool.or_assoc]

omit [PyNum R] in
theorem isExternalDestination_text :
    isExternalDestination (.str x.text : PyVal R) = some !x.isInline :=
  congrArg (some !·) (isInternal_text x)

end

/-- What the docstring of `_is_external_ip` says, and that the other tests agree with it. -/
structure Ipv4.Classified (R : Type) [PyNum R] (x : Ipv4) : Prop where
  detector : isExternalIp (.str x.text : PyVal R) = some false ↔
    x.isRfc1918 ∨ x.isLoopback ∨ x.isZero
  forensics : ¬ x.isZero →
    isExternalIp (.str x.text : PyVal R) = some !(isInternal x.text)
  evidence : ¬ x.isZero →
    isExternalIp (.str x.text : PyVal R) = isExternalDestination (.str x.text : PyVal R)

section
variable {x : Ipv4}

theorem Ipv4.isLocal_iff : x.isLocal = true ↔
    x.a = 10 ∨ (x.a = 192 ∧ x.b = 168) ∨ x.a = 172 ∨ x.a = 127 ∨ x.isZero := by
  simp [isLocal]

theorem Ipv4.isInline_iff : x.isInline = true ↔
    x.a = 10 ∨ (x.a = 192 ∧ x.b = 168) ∨ x.a = 172 ∨ x = ⟨127, 0, 0, 1⟩ := by
  simp [isInline]

/-- The detector is right about all but the rest of 172/8. -/
theorem isLocal_right_iff :
    (x.isLocal = true ↔ x.isRfc1918 ∨ x.isLoopback ∨ x.isZero) ↔
      (x.a = 172 → 16 ≤ x.b ∧ x.b ≤ 31) := by
  rw [Ipv4.isLocal_iff, Ipv4.isRfc1918, Ipv4.isLoopback]
  constructor
  · intro h ha
    have hzero : ¬ x.isZero := by
      intro hz
      rw [hz] at ha
      cases ha
    rcases h.mp (.inr (.inr (.inl ha))) with (h10 | h172 | h192) | h127 | hz
    · simp [ha] at h10
    · exact h172.2
    · simp [ha] at h192
    · simp [ha] at h127
    · exact absurd hz hzero
  · intro h
    by_cases ha : x.a = 172
    · exact iff_of_true (.inr (.inr (.inl ha))) (.inl (.inr (.inl ⟨ha, h ha⟩)))
    · simp [ha, or_assoc]

/-- The other tests know one address of 127/8. -/
theorem isLocal_eq_isInline_iff (hzero : ¬ x.isZero) :
    x.isLocal = x.isInline ↔ (x.a = 127 → x = ⟨127, 0, 0, 1⟩) := by
  rw [Bool.eq_iff_iff, Ipv4.isLocal_iff, Ipv4.isInline_iff]
  constructor
  · intro h ha
    simpa [ha] using h.mp (.inr (.inr (.inr (.inl ha))))
  · intro h
    have hloop : x.a = 127 ↔ x = ⟨127, 0, 0, 1⟩ := ⟨h, fun hx => by rw [hx]⟩
    simp [hzero, hloop]

theorem classified_iff :
    x.Classified R ↔ (x.a = 172 → 16 ≤ x.b ∧ x.b ≤ 31) ∧ (x.a = 127 → x = ⟨127, 0, 0, 1⟩) := by
  have hzero : x.isZero → x.a ≠ 127 := by
    rintro rfl
    decide
  constructor
  · intro h
    have hdetector := h.detector
    have hforensics := h.forensics
    simp only [isExternalIp_text, isInternal_text, Option.some.injEq, Bool.not_inj_iff,
      Bool.not_eq_false'] at hdetector hforensics
    refine ⟨isLocal_right_iff.mp hdetector, fun ha => ?_⟩
    have hnonzero : ¬ x.isZero := fun hz => hzero hz ha
    exact (isLocal_eq_isInline_iff hnonzero).mp (hforensics hnonzero) ha
  · rintro ⟨h172, h127⟩
    have heq (hnonzero : ¬ x.isZero) : x.isLocal = x.isInline :=
      (isLocal_eq_isInline_iff hnonzero).mpr h127
    constructor
    · rw [← isLocal_right_iff.mpr h172, isExternalIp_text]
      simp
    · intro hnonzero
      rw [isExternalIp_text, isInternal_text, heq hnonzero]
    · intro hnonzero
      rw [isExternalIp_text, isExternalDestination_text, heq hnonzero]

end

/-- A public address of 172/8 counts as internal, and the tests disagree about 127.0.0.2. -/
theorem misclassified_addresses :
    ¬ (Ipv4.mk 172 1 2 3).Classified Rat ∧ ¬ (Ipv4.mk 127 0 0 2).Classified Rat := by
  constructor
  · intro h
    have hpublic := h.detector.mp (by decide +kernel)
    simp [Ipv4.isRfc1918, Ipv4.isLoopback, Ipv4.isZero] at hpublic
  · intro h
    have hloopback := h.forensics (by decide)
    exact absurd hloopback (by decide +kernel)

/-! ### Counting destinations -/

section
variable {str : PyVal R → String} {P : PyVal R → Prop}
  {destinations : List (String × Destination R)} {agg agg' : Aggregation R} {event : Telemetry R}
  {events : List (Telemetry R)}

omit [PyNum R] in
theorem ip_of_lookup {key : String} {d : Destination R} (hP : ∀ d ∈ destinations, P d.2.ip)
    (hd : P d.ip) : P ((destinations.lookup key).getD d).ip := by
  cases hlookup : destinations.lookup key with
  | none => exact hd
  | some d' =>
    obtain ⟨before, after, rfl, -⟩ := List.lookup_eq_some_iff.mp hlookup
    exact hP (key, d') (by simp)

/-- The address of a destination is that of an event. -/
theorem ip_of_addEvent (h : addEvent str agg event = some agg')
    (hevent : (event.get "destination_ip" .none).truth = true → P (event.get "destination_ip" .none))
    (hP : ∀ d ∈ agg.destinations, P d.2.ip) : ∀ d ∈ agg'.destinations, P d.2.ip := by
  unfold addEvent at h
  dsimp only at h
  split_ifs at h with htruth
  · obtain ⟨id, -, h⟩ := Option.bind_eq_some_iff.mp h
    split_ifs at h
    cases h
    intro d hd
    rcases KeyedStore.mem_put hd with rfl | hd
    · exact ip_of_lookup hP (hevent htruth)
    · exact hP d hd
  · cases h
    exact hP

theorem ip_of_foldlM (h : events.foldlM (addEvent str) agg = some agg')
    (hevents : ∀ e ∈ events,
      (e.get "destination_ip" .none).truth = true → P (e.get "destination_ip" .none))
    (hP : ∀ d ∈ agg.destinations, P d.2.ip) : ∀ d ∈ agg'.destinations, P d.2.ip := by
  induction events generalizing agg with
  | nil =>
    cases h
    exact hP
  | cons e events ih =>
    obtain ⟨he, hevents⟩ := List.forall_mem_cons.mp hevents
    rw [List.foldlM_cons] at h
    obtain ⟨agg₁, hstep, h⟩ := Option.bind_eq_some_iff.mp h
    exact ih h hevents (ip_of_addEvent hstep he hP)

/-- On addresses that the tests agree about, the external destinations are those of the detector. -/
theorem externalDestinations_eq {r : NetworkEvidence R}
    (hevents : ∀ e ∈ events, ∃ x : Ipv4, e.get "destination_ip" .none = .str x.text ∧ ¬ x.isZero ∧
      (x.a = 127 → x = ⟨127, 0, 0, 1⟩))
    (hagg : events.foldlM (addEvent str) {} = some agg)
    (hr : aggregateNetworkEvidence str events = some r) :
    r.externalDestinations = agg.destinations.countP fun d => isExternalIp d.2.ip = some true := by
  have hagree : ∀ d ∈ agg.destinations, isExternalDestination d.2.ip = isExternalIp d.2.ip := by
    refine ip_of_foldlM (P := fun ip => isExternalDestination ip = isExternalIp ip) hagg ?_ (by simp)
    intro e he _
    obtain ⟨x, hx, hzero, h127⟩ := hevents e he
    rw [hx, isExternalIp_text, isExternalDestination_text, (isLocal_eq_isInline_iff hzero).mpr h127]
  rw [aggregateNetworkEvidence, hagg, Option.bind_eq_bind, Option.bind_some] at hr
  obtain ⟨external, hexternal, hr⟩ := Option.bind_eq_some_iff.mp hr
  cases hr
  rw [RaisingLoop.count_mapM hexternal]
  exact List.countP_congr fun d hd => by rw [hagree d hd]

end

end Triage
end SocFabric
