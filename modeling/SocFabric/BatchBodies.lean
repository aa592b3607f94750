import SocFabric.BatchEnvelope
import SocFabric.LogStore

/-!
# Batch bodies (`core-ingest/main.go`)

A body with an `events` array is meant as a batch. `handleAgentPush` first decodes it as one, and if
that fails, or gives no events, decodes it again as a single payload, which ignores the array. So a
batch with an element that is no object, with a number that no double is near, with a tenant id that
is no string, or without any element becomes one payload of whatever else the body says, mostly
nothing, and is answered with 202 (`accepted_whole_iff`).
-/

namespace SocFabric
namespace AgentPush
open GoJson

/-! ### The answer -/

def Parsed.payloads : Parsed → Option (List RemoteLogPayload)
  | .batch payloads => some payloads
  | .single payload => some [payload]
  | .invalid => none

/-- The status and what is stored, for a body. -/
def answerBody (go : GoTime) (r : PushRequest) (lib : UuidLib) (dbManager : Option DbRun)
    (tenantID : String) (body : JsonDoc) : Nat × Outcome :=
  match (parsePayloads go r body).payloads with
  | none => (400, {})
  | some payloads => storePayloads lib dbManager tenantID payloads

theorem answerBody_eq_400_iff {go : GoTime} {r : PushRequest} {lib : UuidLib}
    {dbManager : Option DbRun} {tenantID : String} {body : JsonDoc} :
    (answerBody go r lib dbManager tenantID body).1 = 400 ↔ parsePayloads go r body = .invalid := by
  unfold answerBody storePayloads
  cases parsePayloads go r body <;> cases dbManager <;> simp [Parsed.payloads]

/-! ### The members of an envelope -/

/-- The names are the same up to case. -/
def sameName (key name : String) : Bool := foldName name = foldName key

/-- `null` or a string. -/
def isText : JsonDoc → Bool
  | .null | .str _ => true
  | _ => false

/-- `null` or an object whose numbers are near a double. -/
def isRecord : JsonDoc → Bool
  | .null => true
  | .obj members => numbersFitMembers members
  | _ => false

/-- `null` or an array of records. -/
def isRecords : JsonDoc → Bool
  | .null => true
  | .arr elems => elems.all isRecord
  | _ => false

theorem isSome_string (d : JsonDoc) (s : String) : (string d s).isSome = isText d := by
  cases d <;> rfl

theorem isSome_mapElem (d : JsonDoc) : (mapElem d).isSome = isRecord d := by
  cases d <;> simp [mapElem, isRecord, isSome_toGoEntries]

theorem isSome_mapSlice (d : JsonDoc) (evs : List (List (String × GoValue))) :
    (mapSlice d evs).isSome = isRecords d := by
  cases d with
  | arr elems =>
    rw [Bool.eq_iff_iff]
    simp only [mapSlice, RaisingLoop.isSome_mapM_iff, isSome_mapElem, isRecords, List.all_eq_true]
  | _ => rfl

def eventsDecoder : Decoder Envelope := fun d e =>
  (mapSlice d e.events).map fun v => { e with events := v }

def tenantDecoder : Decoder Envelope := fun d e =>
  (string d e.tenantID).map fun v => { e with tenantID := v }

/-- The field of the envelope that a key names. -/
theorem findField_envelope (key : String) :
    findField envelopeFields key =
      if sameName key "events" then some eventsDecoder
      else if sameName key "tenant_id" then some tenantDecoder
      else none := by
  have hfields : envelopeFields = [("tenant_id", tenantDecoder), ("events", eventsDecoder)] := rfl
  by_cases htenant : key = "tenant_id"
  · subst htenant
    rfl
  by_cases hevents : key = "events"
  · subst hevents
    rfl
  have hlookup : envelopeFields.lookup key = none := by
    rw [hfields, List.lookup_cons, List.lookup_cons, beq_false_of_ne htenant, beq_false_of_ne hevents]
    rfl
  have hapart : sameName key "events" = true → sameName key "tenant_id" = false := by
    intro h
    rw [sameName, decide_eq_true_eq] at h
    rw [sameName, ← h]
    decide
  have hfind : findField envelopeFields key =
      ([("tenant_id", tenantDecoder), ("events", eventsDecoder)].find?
        fun f => sameName key f.1).map (·.2) := by
    rw [findField, hlookup]
    rfl
  rw [hfind, List.find?_cons, List.find?_cons]
  cases he : sameName key "events" with
  | true =>
    rw [hapart he]
    rfl
  | false => cases sameName key "tenant_id" <;> rfl

/-- The member has a value that the envelope takes. -/
def fitsEnvelope (m : String × JsonDoc) : Bool :=
  if sameName m.1 "events" then isRecords m.2
  else if sameName m.1 "tenant_id" then isText m.2
  else true

theorem isSome_member_envelope (e : Envelope) (m : String × JsonDoc) :
    (member envelopeFields e m).isSome = fitsEnvelope m := by
  rw [member, findField_envelope, fitsEnvelope]
  split_ifs
  · simp [eventsDecoder, isSome_mapSlice]
  · simp [tenantDecoder, isSome_string]
  · rfl

theorem uniform_envelope : ∀ f ∈ envelopeFields, Uniform f.2 := by
  simp only [envelopeFields, List.forall_mem_cons, List.not_mem_nil, false_implies, implies_true,
    and_true]
  exact ⟨uniform_string.field _ _ _, uniform_mapSlice.field _ _ _⟩

/-- The value that the decoder takes for the events: the last member of that name. -/
def eventsMember (members : List (String × JsonDoc)) : Option JsonDoc :=
  (members.filter fun m => sameName m.1 "events").getLast?.map (·.2)

theorem eventsMember_cons (m : String × JsonDoc) (members : List (String × JsonDoc)) :
    eventsMember (m :: members) =
      (eventsMember members).or (if sameName m.1 "events" then some m.2 else none) := by
  unfold eventsMember
  rw [List.filter_cons]
  split_ifs with h
  · cases hrest : members.filter fun m => sameName m.1 "events" with
    | nil => rfl
    | cons m' rest => simp [List.getLast?_cons]
  · simp

theorem mapSlice_eq (d : JsonDoc) (evs : List (List (String × GoValue))) :
    mapSlice d evs = mapSlice d [] := by
  cases d <;> rfl

/-- What a decoded envelope holds. -/
theorem events_of_struct {members : List (String × JsonDoc)} {e e' : Envelope}
    (h : struct envelopeFields (.obj members) e = some e') :
    some e'.events = (eventsMember members).elim (some e.events) (mapSlice · []) := by
  induction members generalizing e with
  | nil =>
    cases h
    rfl
  | cons m members ih =>
    have hcons : struct envelopeFields (.obj (m :: members)) e =
        (member envelopeFields e m).bind fun e => struct envelopeFields (.obj members) e :=
      List.foldlM_cons
    rw [hcons] at h
    obtain ⟨e₁, hm, h⟩ := Option.bind_eq_some_iff.mp h
    rw [ih h, eventsMember_cons]
    cases eventsMember members with
    | some d => rfl
    | none =>
      rw [member, findField_envelope] at hm
      split_ifs at hm ⊢ with hevents htenant
      · obtain ⟨evs, hevs, rfl⟩ := Option.map_eq_some_iff.mp hm
        rw [mapSlice_eq] at hevs
        exact hevs.symm
      · obtain ⟨t, -, rfl⟩ := Option.map_eq_some_iff.mp hm
        rfl
      · cases hm
        rfl

/-! ### The members of a single payload -/

theorem uniform_time (go : GoTime) : Uniform (time go) := by
  intro d s s'
  cases d <;> rfl

theorem uniform_paas : ∀ f ∈ paasFields, Uniform f.2 := by
  simp only [paasFields, List.forall_mem_cons, List.not_mem_nil, false_implies, implies_true,
    and_true, uniform_string.field, uniform_int64.field, uniform_uint64.field,
    uniform_uint32.field, uniform_double.field]

theorem uniform_payload (go : GoTime) : ∀ f ∈ payloadFields go, Uniform f.2 := by
  simp only [payloadFields, List.forall_mem_cons, List.not_mem_nil, false_implies, implies_true,
    and_true, uniform_string.field, (uniform_time go).field, (uniform_struct uniform_paas).field]

/-- The member has a value that a single payload takes. -/
def fitsPayload (go : GoTime) (m : String × JsonDoc) : Bool :=
  (member (payloadFields go) {} m).isSome

theorem parseSingle_eq_invalid_iff {go : GoTime} {r : PushRequest}
    {members : List (String × JsonDoc)} :
    parseSingle go r (.obj members) = .invalid ↔ ∃ m ∈ members, fitsPayload go m = false := by
  have hfits := isSome_struct_obj_iff (uniform_payload go) members {}
  rw [parseSingle]
  cases hp : struct (payloadFields go) (.obj members) {} with
  | none =>
    refine iff_of_true rfl ?_
    by_contra hall
    have hsome : ∀ m ∈ members, (member (payloadFields go) {} m).isSome = true := by
      intro m hm
      by_contra hnot
      exact hall ⟨m, hm, Bool.eq_false_iff.mpr hnot⟩
    have := hfits.mpr hsome
    rw [hp] at this
    cases this
  | some p =>
    refine iff_of_false (by simp) ?_
    rintro ⟨m, hm, hnot⟩
    have hsome := hfits.mp (by rw [hp]; rfl) m hm
    cases hsome.symm.trans hnot

/-! ### Batches -/

section
variable {go : GoTime} {r : PushRequest} {lib : UuidLib} {dbManager : Option DbRun}
  {tenantID : String} {members : List (String × JsonDoc)} {elems : List JsonDoc}

/-- The request is rejected, or has one payload for each element of the array, in its order. -/
def AcceptedWhole (go : GoTime) (r : PushRequest) (lib : UuidLib) (dbManager : Option DbRun)
    (tenantID : String) (members : List (String × JsonDoc)) (elems : List JsonDoc) : Prop :=
  (answerBody go r lib dbManager tenantID (.obj members)).1 = 400 ∨
    ∃ evs, elems.mapM mapElem = some evs ∧
      parsePayloads go r (.obj members) =
        .batch (evs.mapIdx fun i rawEv => eventPayload go r (r.now i) rawEv)

/-- An envelope that decodes holds the elements of the array. -/
theorem events_of_array (harr : eventsMember members = some (.arr elems))
    (hfits : ∀ m ∈ members, fitsEnvelope m = true) :
    ∃ e, struct envelopeFields (.obj members) {} = some e ∧ elems.mapM mapElem = some e.events := by
  have hsome : (struct envelopeFields (.obj members) {}).isSome = true := by
    rw [isSome_struct_obj_iff uniform_envelope]
    intro m hm
    rw [isSome_member_envelope]
    exact hfits m hm
  obtain ⟨e, he⟩ := Option.isSome_iff_exists.mp hsome
  have hevents := events_of_struct he
  rw [harr] at hevents
  exact ⟨e, he, hevents.symm⟩

/-- Otherwise the body is read as a single payload. -/
theorem parsePayloads_eq_single (harr : eventsMember members = some (.arr elems))
    (h : ¬ (elems ≠ [] ∧ ∀ m ∈ members, fitsEnvelope m = true)) :
    parsePayloads go r (.obj members) = parseSingle go r (.obj members) := by
  rw [parsePayloads]
  cases he : struct envelopeFields (.obj members) {} with
  | none => rfl
  | some e =>
    have hfits : ∀ m ∈ members, fitsEnvelope m = true := by
      intro m hm
      rw [← isSome_member_envelope {} m]
      exact (isSome_struct_obj_iff uniform_envelope members {}).mp (by rw [he]; rfl) m hm
    have helems : elems = [] := by
      by_contra hne
      exact h ⟨hne, hfits⟩
    have hevents := events_of_struct he
    rw [harr, helems] at hevents
    have hnil : e.events = [] := Option.some.inj hevents
    simp [hnil]

theorem accepted_whole_iff (harr : eventsMember members = some (.arr elems)) :
    AcceptedWhole go r lib dbManager tenantID members elems ↔
      (elems ≠ [] ∧ ∀ m ∈ members, fitsEnvelope m = true) ∨
        ∃ m ∈ members, fitsPayload go m = false := by
  by_cases h : elems ≠ [] ∧ ∀ m ∈ members, fitsEnvelope m = true
  · refine iff_of_true (.inr ?_) (.inl h)
    obtain ⟨e, he, hevs⟩ := events_of_array harr h.2
    have hne : e.events ≠ [] := by
      intro hnil
      have hlen := RaisingLoop.length_of_mapM hevs
      rw [hnil, List.length_nil] at hlen
      exact h.1 (List.length_eq_zero_iff.mp hlen.symm)
    refine ⟨e.events, hevs, ?_⟩
    rw [parsePayloads, he]
    exact if_pos hne
  · have hsingle : parsePayloads go r (.obj members) = parseSingle go r (.obj members) :=
      parsePayloads_eq_single harr h
    rw [AcceptedWhole, answerBody_eq_400_iff, hsingle, parseSingle_eq_invalid_iff, or_iff_right h]
    refine ⟨?_, .inl⟩
    rintro (hinvalid | ⟨evs, -, hbatch⟩)
    · exact hinvalid
    · exact absurd hbatch (parseSingle_ne_batch _ _)

theorem batch_of_one_accepted :
    AcceptedWhole noonTime gatewayRequest ⟨fun _ => none, fun _ => 0⟩ none "acme-corp"
      [("tenant_id", .str "acme-corp"), ("events", .arr [.obj [("message", .str "router heartbeat")]])]
      [.obj [("message", .str "router heartbeat")]] :=
  (accepted_whole_iff rfl).mpr (.inl ⟨by simp, by decide⟩)

/-- A batch with a number in it, and an empty one, are answered with 202 as a blank payload. -/
theorem malformed_batch_stored_blank :
    (∀ elems ∈ [[JsonDoc.int 1], []],
      parsePayloads noonTime gatewayRequest (.obj [("events", .arr elems)]) =
          .single (stamped gatewayRequest {}) ∧
        (answerBody noonTime gatewayRequest ⟨fun _ => none, fun _ => 0⟩ none "acme-corp"
          (.obj [("events", .arr elems)])).1 = 202) ∧
      ¬ AcceptedWhole noonTime gatewayRequest ⟨fun _ => none, fun _ => 0⟩ none "acme-corp"
        [("events", .arr [.int 1])] [.int 1] := by
  have hblank : ∀ elems ∈ [[JsonDoc.int 1], []],
      parsePayloads noonTime gatewayRequest (.obj [("events", .arr elems)]) =
          .single (stamped gatewayRequest {}) := by
    intro elems helems
    simp only [List.mem_cons, List.not_mem_nil, or_false] at helems
    rcases helems with rfl | rfl <;> rfl
  refine ⟨fun elems helems => ⟨hblank elems helems, ?_⟩, ?_⟩
  · unfold answerBody
    rw [hblank elems helems]
    rfl
  · rintro (h | ⟨evs, -, h⟩)
    · rw [answerBody_eq_400_iff, hblank _ (by simp)] at h
      cases h
    · rw [hblank _ (by simp)] at h
      cases h

end

end AgentPush
end SocFabric
