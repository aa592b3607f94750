import SocFabric.EvidenceFirewall
import Mathlib.Data.List.Sort

/-!
# Evidence completeness

What `tool_fetch_alert_context` returns of the events a tenant has stored. `Answers` says which rows
ClickHouse may answer a query with: of the rows that meet its conditions the newest, as many as its
limit allows; ties are broken anyhow. The tool asks for a hundred, so an event can fall behind newer
ones; and an event that is asked for under another spelling of its id than the one core-ingest
writes does not pass the firewall.
-/

namespace SocFabric.Evidence

/-! ### ClickHouse -/

/-- The functions of ClickHouse that the queries use. -/
structure ClickHouse where
  castUuid : CastUuid
  extractString : Json → String → String
  extractInt : Json → String → Int
  extractUInt : Json → String → Nat
  extractFloat : Json → String → Rat

/-- The columns of the query, as a successful `Scan` reads them. -/
def selectRow (ch : ClickHouse) (row : LogRow) : ScannedRow where
  eventID := row.eventID
  timestamp := row.timestamp
  clientIP := row.clientIP
  userID := row.userID
  actionExecuted := row.actionExecuted
  riskScore := row.riskScore
  destIP := ch.extractString row.rawData "destination_ip"
  destPort := .ofInt (ch.extractInt row.rawData "destination_port")
  protocol := ch.extractString row.rawData "protocol"
  dnsDomain := ch.extractString row.rawData "dns_domain"
  flowID := ch.extractString row.rawData "flow_id"
  bytesOut := .ofNat (ch.extractUInt row.rawData "bytes_out")
  bytesIn := .ofNat (ch.extractUInt row.rawData "bytes_in")
  packetsOut := .ofNat (ch.extractUInt row.rawData "packets_out")
  packetsIn := .ofNat (ch.extractUInt row.rawData "packets_in")
  flowDuration := ch.extractFloat row.rawData "flow_duration"

def Cond.holds (ch : ClickHouse) (row : LogRow) : Cond → Bool
  | .tenantID bound => ch.castUuid bound = some row.tenantID
  | .eventIDIn ids => row.eventID ∈ ids
  | .rawString field value => ch.extractString row.rawData field = value
  | .rawInt field value => ch.extractInt row.rawData field = value

def matching (ch : ClickHouse) (store : List LogRow) (q : Query) : List LogRow :=
  store.filter fun row => q.conds.all (Cond.holds ch row)

/-- `rows` is an answer to the query; a bound that ClickHouse cannot read fails the query
instead. -/
structure Answers (ch : ClickHouse) (store : List LogRow) (q : Query) (rows : List LogRow) : Prop where
  readable : ∀ bound, .tenantID bound ∈ q.conds → ch.castUuid bound ≠ none
  limited : ∃ ordered : List LogRow, ordered.Perm (matching ch store q) ∧
    (q.newestFirst → ordered.Pairwise fun a b => b.timestamp.unixNano ≤ a.timestamp.unixNano) ∧
    rows = ordered.take q.limit

/-- The driver hands over the answers to the queries, if it reports no error; single rows may not
scan. -/
def ServedFrom (ch : ClickHouse) (store : List LogRow) (run : ServerRun) : Prop :=
  ∀ q set, run.query q = .ok set → set.err = none →
    ∃ rows, Answers ch store q rows ∧
      List.Forall₂ (fun scanned row => scanned = none ∨ scanned = some (selectRow ch row)) set.rows rows

/-- Every event of the tenant that one of the ids denotes is returned, if the retrieval does not
fail. -/
def EvidenceComplete (lib : UuidLib) (ch : ClickHouse) (text : Status → String) (env : Env)
    (tenantIDCtx : String) (store : List LogRow) (run : ServerRun) (evidenceIDs : List String) : Prop :=
  ∀ out, toolFetchAlertContext env tenantIDCtx (some (coreIngestStub lib text run none)) evidenceIDs = .ok out →
    ¬ run.Failed lib ⟨evidenceIDs, 100⟩ (callMetadata env tenantIDCtx) →
    ∀ row ∈ store, row.tenantID = tenantUUID lib tenantIDCtx →
      (∃ id ∈ evidenceIDs, lib.parse id = some row.eventID) →
      evidence (eventDetail (selectRow ch row)) ∈ out

/-! ### What the call asks for -/

section
variable {lib : UuidLib} {ch : ClickHouse} {text : Status → String} {env : Env} {ctx : String}
  {store : List LogRow} {run : ServerRun} {ids : List String} {set : RowSet}

def evidenceQuery (lib : UuidLib) (tenantID : String) (evidenceIDs : List String) : Query :=
  ⟨[.tenantID tenantID, .eventIDIn (evidenceIDs.filterMap lib.parse)], true, 100⟩

theorem fetchAlertContext_eq {dbAvailable : Bool} (hids : ids.filterMap lib.parse ≠ []) :
    fetchAlertContext lib dbAvailable [ctx] ids 100 =
      if dbAvailable then .query (evidenceQuery lib ctx ids) else .error "Internal" "database not available" := by
  have hne : ids ≠ [] := by
    rintro rfl
    exact hids rfl
  cases dbAvailable with
  | false => rfl
  | true =>
    rw [fetchAlertContext, if_neg hne, if_neg hids]
    rfl

theorem callMetadata_tenant : (callMetadata env ctx).get "x-tenant-id" = [ctx] := rfl

theorem openRows_cases (hids : ids.filterMap lib.parse ≠ []) :
    (∃ err, openRows lib run ⟨ids, 100⟩ (callMetadata env ctx) = .refused err) ∨
      ∃ set, run.query (evidenceQuery lib ctx ids) = .ok set ∧
        openRows lib run ⟨ids, 100⟩ (callMetadata env ctx) = .rows set := by
  rw [openRows, callMetadata_tenant, fetchAlertContext_eq hids]
  cases authStreamInterceptor run.internalServiceKey (callMetadata env ctx) with
  | some err => exact .inl ⟨err, rfl⟩
  | none =>
    cases run.dbAvailable with
    | false => exact .inl ⟨_, rfl⟩
    | true =>
      simp only [if_true]
      cases hquery : run.query (evidenceQuery lib ctx ids) with
      | error e => exact .inl ⟨_, rfl⟩
      | ok set => exact .inr ⟨set, rfl, rfl⟩

/-- A call that does not fail has run its query, and sends all the rows of the answer. -/
theorem exists_rows_of_not_failed (hids : ids.filterMap lib.parse ≠ [])
    (hok : ¬ run.Failed lib ⟨ids, 100⟩ (callMetadata env ctx)) :
    ∃ set, run.query (evidenceQuery lib ctx ids) = .ok set ∧ none ∉ set.rows ∧ set.err = none ∧
      (serveAlertContext lib run ⟨ids, 100⟩ (callMetadata env ctx)).status = none ∧
      (serveAlertContext lib run ⟨ids, 100⟩ (callMetadata env ctx)).responses.flatMap (·.events) =
        set.rows.reduceOption.map eventDetail := by
  unfold ServerRun.Failed at hok
  unfold serveAlertContext
  rcases openRows_cases hids with ⟨err, hopen⟩ | ⟨set, hquery, hopen⟩
  · rw [hopen] at hok
    exact absurd trivial hok
  · rw [hopen] at hok ⊢
    simp only [not_or, not_not, ne_eq] at hok
    obtain ⟨hscan, herr, hsend⟩ := hok
    exact ⟨set, hquery, hscan, herr, hsend, streamRows_events hsend⟩

theorem scanned_eq {rows : List LogRow} {scanned : List (Option ScannedRow)} (hscan : none ∉ scanned)
    (h : List.Forall₂ (fun scanned row => scanned = none ∨ scanned = some (selectRow ch row)) scanned rows) :
    scanned.reduceOption = rows.map (selectRow ch) := by
  induction h with
  | nil => rfl
  | @cons o row scanned rows ho _ ih =>
    rw [List.mem_cons, not_or] at hscan
    rcases ho with rfl | rfl
    · exact absurd rfl hscan.1
    · rw [List.reduceOption_cons_of_some, ih hscan.2, List.map_cons]

/-- In a list ordered by descending key, whatever has at most `n` keys as large as its own, itself
included, is among the first `n`. -/
theorem mem_take_of_countP_le {α : Type} {key : α → Int} {l : List α} {x : α} {n : Nat}
    (hl : l.Pairwise fun a b => key b ≤ key a) (hx : x ∈ l) (hn : l.countP (key x ≤ key ·) ≤ n) :
    x ∈ l.take n := by
  obtain ⟨before, after, rfl⟩ := List.append_of_mem hx
  have hbefore : ∀ a ∈ before, key x ≤ key a := by
    intro a ha
    exact (List.pairwise_append.mp hl).2.2 a ha x (List.mem_cons_self)
  have hcount : before.countP (key x ≤ key ·) = before.length := by
    rw [List.countP_eq_length]
    simpa using hbefore
  rw [List.countP_append, hcount, List.countP_cons_of_pos (by simp)] at hn
  rw [List.mem_take_iff_getElem]
  refine ⟨before.length, ?_, ?_⟩
  · rw [List.length_append, List.length_cons]
    omega
  · simp

/-- The tool returns the rows of the answer that pass the firewall. -/
theorem tool_eq_of_not_failed (hserved : ServedFrom ch store run) (hctx : evidenceTenant ctx ≠ none)
    (hids : ids.filterMap lib.parse ≠ []) (hok : ¬ run.Failed lib ⟨ids, 100⟩ (callMetadata env ctx)) :
    ∃ rows, Answers ch store (evidenceQuery lib ctx ids) rows ∧
      toolFetchAlertContext env ctx (some (coreIngestStub lib text run none)) ids =
        .ok ((rows.map fun row => eventDetail (selectRow ch row)).filterMap (firewall ids)) := by
  obtain ⟨set, hquery, hscan, herr, hstatus, hevents⟩ := exists_rows_of_not_failed hids hok
  obtain ⟨rows, hanswer, hrows⟩ := hserved _ _ hquery herr
  refine ⟨rows, hanswer, ?_⟩
  rw [tool_eq hctx, coreIngestStub, carry, hstatus, Stream.events, hevents, scanned_eq hscan hrows,
    List.map_map]
  rfl

theorem tenantUUID_of_readable (hcast : ch.castUuid.Sound lib) (h : ch.castUuid ctx ≠ none) :
    ch.castUuid ctx = some (tenantUUID lib ctx) := by
  obtain ⟨u, hu⟩ := Option.ne_none_iff_exists'.mp h
  rw [hu, tenantUUID, hcast.parse hu, Option.getD_some]

theorem Answers.holds_iff {rows : List LogRow} (hcast : ch.castUuid.Sound lib)
    (h : Answers ch store (evidenceQuery lib ctx ids) rows) (row : LogRow) :
    (evidenceQuery lib ctx ids).conds.all (Cond.holds ch row) = true ↔
      row.tenantID = tenantUUID lib ctx ∧ row.eventID ∈ ids.filterMap lib.parse := by
  have hread := h.readable ctx (by simp [evidenceQuery])
  simp only [evidenceQuery, List.all_cons, List.all_nil, Cond.holds, Bool.and_true, Bool.and_eq_true,
    decide_eq_true_eq, tenantUUID_of_readable hcast hread, Option.some.injEq]
  rw [@eq_comm _ row.tenantID]

end

/-- How many events of the tenant that the ids denote are as new as the row, itself included. -/
def asNew (lib : UuidLib) (tenantID : String) (store : List LogRow) (evidenceIDs : List String) (row : LogRow) :
    Nat :=
  store.countP fun other => other.tenantID = tenantUUID lib tenantID ∧
    other.eventID ∈ evidenceIDs.filterMap lib.parse ∧ row.timestamp.unixNano ≤ other.timestamp.unixNano

/-- If the retrieval does not fail, the tool returns every event of the tenant that is asked for by
its own text and that at most a hundred of the events asked for keep up with. -/
theorem canonical_evidence_complete (lib : UuidLib) (ch : ClickHouse) (hcast : ch.castUuid.Sound lib)
    (text : Status → String) (env : Env) (tenantIDCtx : String) (hctx : evidenceTenant tenantIDCtx ≠ none)
    (store : List LogRow) (run : ServerRun) (hserved : ServedFrom ch store run) (evidenceIDs : List String)
    (hok : ¬ run.Failed lib ⟨evidenceIDs, 100⟩ (callMetadata env tenantIDCtx)) :
    ∀ row ∈ store, row.tenantID = tenantUUID lib tenantIDCtx →
      ∀ id ∈ evidenceIDs, lib.parse id = some row.eventID → id = uuidText row.eventID →
        asNew lib tenantIDCtx store evidenceIDs row ≤ 100 →
        ∃ out, toolFetchAlertContext env tenantIDCtx (some (coreIngestStub lib text run none)) evidenceIDs =
            .ok out ∧ evidence (eventDetail (selectRow ch row)) ∈ out := by
  intro row hrow htenant id hid hparse htext hnew
  have hdenoted : row.eventID ∈ evidenceIDs.filterMap lib.parse := List.mem_filterMap.mpr ⟨id, hid, hparse⟩
  obtain ⟨rows, hanswer, htool⟩ :=
    tool_eq_of_not_failed hserved hctx (List.ne_nil_of_mem hdenoted) hok
  obtain ⟨ordered, hperm, hsorted, rfl⟩ := hanswer.limited
  have hmem : row ∈ ordered :=
    hperm.mem_iff.mpr (List.mem_filter.mpr ⟨hrow, (hanswer.holds_iff hcast row).mpr ⟨htenant, hdenoted⟩⟩)
  have hcount : ordered.countP (row.timestamp.unixNano ≤ ·.timestamp.unixNano) ≤ 100 := by
    rw [hperm.countP_eq, matching, List.countP_filter]
    refine le_of_eq_of_le (List.countP_congr fun other _ => ?_) hnew
    rw [Bool.and_eq_true, hanswer.holds_iff hcast other]
    simp only [decide_eq_true_eq]
    tauto
  have htake := mem_take_of_countP_le (hsorted rfl) hmem hcount
  refine ⟨_, htool, List.mem_filterMap.mpr ⟨eventDetail (selectRow ch row), ?_, ?_⟩⟩
  · exact List.mem_map_of_mem htake
  · rw [htext] at hid
    have hasked : (eventDetail (selectRow ch row)).eventID ∈ evidenceIDs := hid
    rw [firewall, if_neg (fun h => h.2 hasked)]

/-! ### A store -/

def newer (a b : LogRow) : Bool := b.timestamp.unixNano ≤ a.timestamp.unixNano

def storeRows (ch : ClickHouse) (store : List LogRow) (q : Query) : RowSet :=
  ⟨(((matching ch store q).mergeSort newer).take q.limit).map fun row => some (selectRow ch row), none⟩

/-- A ClickHouse that answers from the store. -/
def storeQuery (ch : ClickHouse) (store : List LogRow) (q : Query) : Except String RowSet :=
  if q.conds.any (fun | .tenantID bound => ch.castUuid bound = none | _ => false) then
    .error "Cannot parse UUID from String"
  else .ok (storeRows ch store q)

def storeRun (ch : ClickHouse) (store : List LogRow) : ServerRun where
  internalServiceKey := "service-key"
  query := storeQuery ch store

section
variable {lib : UuidLib} {ch : ClickHouse} {text : Status → String} {env : Env} {ctx : String}
  {store : List LogRow} {run : ServerRun} {ids : List String} {row : LogRow} {out : List Json}

theorem servedFrom_storeRun (ch : ClickHouse) (store : List LogRow) :
    ServedFrom ch store (storeRun ch store) := by
  intro q set hquery _
  change storeQuery ch store q = .ok set at hquery
  unfold storeQuery at hquery
  split_ifs at hquery with hread
  obtain rfl := Except.ok.inj hquery
  have hsorted : ((matching ch store q).mergeSort newer).Pairwise (newer · ·) :=
    List.pairwise_mergeSort
      (fun a b c hab hbc => by simp only [newer, decide_eq_true_eq] at *; omega)
      (fun a b => by simp only [newer, Bool.or_eq_true, decide_eq_true_eq]; omega) _
  refine ⟨_, ⟨?_, _, List.mergeSort_perm _ newer, fun _ => ?_, rfl⟩, ?_⟩
  · intro bound hbound hnone
    exact hread (List.any_eq_true.mpr ⟨_, hbound, by simpa using hnone⟩)
  · exact hsorted.imp fun h => of_decide_eq_true h
  · rw [storeRows, List.forall₂_map_left_iff]
    exact List.forall₂_same.mpr fun _ _ => .inr rfl

theorem storeRun_not_failed (hkey : env.internalServiceKey = some "service-key")
    (hread : ch.castUuid ctx ≠ none) (hids : ids.filterMap lib.parse ≠ []) :
    ¬ (storeRun ch store).Failed lib ⟨ids, 100⟩ (callMetadata env ctx) := by
  have hauth : authStreamInterceptor (storeRun ch store).internalServiceKey (callMetadata env ctx) = none := by
    rw [callMetadata, hkey]
    rfl
  have hquery : (storeRun ch store).query (evidenceQuery lib ctx ids) =
      .ok (storeRows ch store (evidenceQuery lib ctx ids)) := by
    change storeQuery ch store (evidenceQuery lib ctx ids) = _
    rw [storeQuery, if_neg (by simp [evidenceQuery, hread])]
  have hopen : openRows lib (storeRun ch store) ⟨ids, 100⟩ (callMetadata env ctx) =
      .rows (storeRows ch store (evidenceQuery lib ctx ids)) := by
    have hdb : (storeRun ch store).dbAvailable = true := rfl
    simp only [openRows, hauth, callMetadata_tenant, hdb, fetchAlertContext_eq hids, if_true, hquery]
  have hstatus : ∀ rows, (streamRows (storeRun ch store).send rows [] 1).status = none :=
    fun rows => streamRows_status.mpr fun _ _ _ => rfl
  have hscan : ∀ rows : List LogRow, none ∉ rows.map fun row => some (selectRow ch row) := by simp
  rw [ServerRun.Failed, hopen]
  rintro (hnone | herr | hsend)
  · exact hscan _ hnone
  · exact herr rfl
  · exact hsend (hstatus _)

theorem evidence_eventID {a b : SecurityEventDetail} (h : evidence a = evidence b) :
    a.eventID = b.eventID := by
  unfold evidence at h
  injection h with h
  injection h with hid
  injection hid with _ hid
  injection hid

/-- The firewall lets no event through whose own text is not among the ids. -/
theorem text_mem_of_returned {rows : List LogRow} (hids : ids ≠ [])
    (h : evidence (eventDetail (selectRow ch row)) ∈
      (rows.map fun row => eventDetail (selectRow ch row)).filterMap (firewall ids)) :
    uuidText row.eventID ∈ ids := by
  obtain ⟨event, -, hadmit⟩ := List.mem_filterMap.mp h
  obtain ⟨heq, hasked⟩ := firewall_eq_some hadmit
  have hid : event.eventID = uuidText row.eventID := (evidence_eventID heq).symm
  rw [← hid]
  exact hasked hids

end

/-! ### Sample calls -/

theorem uuidText_digits (u : UUID) : (uuidText u).toList.filter (· ≠ '-') = Sha256.hexText u.toNat 32 := by
  have hyphen : ∀ n < 16, Nat.digitChar n ≠ '-' := by decide
  have hdigit (i : Nat) : ((if i ∈ [8, 12, 16, 20] then ['-'] else []) ++
      [Nat.digitChar (u.toNat / 16 ^ (31 - i) % 16)]).filter (· ≠ '-') =
        [Nat.digitChar (u.toNat / 16 ^ (31 - i) % 16)] := by
    have hne := hyphen _ (Nat.mod_lt (u.toNat / 16 ^ (31 - i)) (by decide))
    split <;> simp [hne]
  rw [uuidText, String.toList_ofList, List.filter_flatMap]
  simp only [hdigit]
  rfl

/-- The parser of the sample library reads back what `String` writes. -/
theorem parse_uuidText (u : UUID) : sampleUuidLib.parse (uuidText u) = some u := by
  have hparse : sampleUuidLib.parse = parseCanonical := rfl
  obtain ⟨bytes, hdecode, hfold⟩ := Sha256.foldl_hexDecode u.toNat 16 0
  have hsmall : u.toNat % 256 ^ 16 = u.toNat := Nat.mod_eq_of_lt u.isLt
  rw [hparse, parseCanonical, uuidText_digits, if_pos, hdecode, Option.map_some, hfold, hsmall]
  · simp
  · refine ⟨?_, ?_, rfl⟩
    · rw [uuidText, String.toList_ofList]; rfl
    · rw [uuidText, String.toList_ofList]; rfl

/-- ClickHouse on documents that are objects, with JSON integers only. -/
def sampleClickHouse : ClickHouse where
  castUuid := parseCanonical
  extractString doc field := match member doc field with
    | some (.str s) => s
    | _ => ""
  extractInt doc field := match member doc field with
    | some (.num n) => n.num
    | _ => 0
  extractUInt doc field := match member doc field with
    | some (.num n) => n.num.toNat
    | _ => 0
  extractFloat doc field := match member doc field with
    | some (.num n) => n
    | _ => 0
where
  member : Json → String → Option Json
    | .obj members, field => members.lookup field
    | _, _ => none

def sampleTenant : String := "123e4567-e89b-12d3-a456-426614174000"

/-- A row as the log writer stores it for the tenant. -/
def sampleRow (eventID : UUID) : LogRow := logRow (tenantUUID sampleUuidLib sampleTenant) eventID {}

theorem sampleTenant_readable : sampleClickHouse.castUuid sampleTenant ≠ none := by decide +kernel

/-- One stored event, asked for by its text. -/
theorem stored_event_returned :
    ∃ out, toolFetchAlertContext production sampleTenant
        (some (coreIngestStub sampleUuidLib Status.message
          (storeRun sampleClickHouse [sampleRow 0xabcdef]) none)) [uuidText 0xabcdef] = .ok out ∧
      evidence (eventDetail (selectRow sampleClickHouse (sampleRow 0xabcdef))) ∈ out := by
  have hparse : sampleUuidLib.parse (uuidText 0xabcdef) = some 0xabcdef := parse_uuidText _
  have hids : [uuidText 0xabcdef].filterMap sampleUuidLib.parse ≠ [] := by
    rw [List.filterMap_cons_some hparse]
    exact List.cons_ne_nil _ _
  have hok : ¬ (storeRun sampleClickHouse [sampleRow 0xabcdef]).Failed sampleUuidLib ⟨[uuidText 0xabcdef], 100⟩
      (callMetadata production sampleTenant) := storeRun_not_failed rfl sampleTenant_readable hids
  refine canonical_evidence_complete sampleUuidLib sampleClickHouse parseCanonical_sound Status.message
    production sampleTenant (by decide) [sampleRow 0xabcdef] _ (servedFrom_storeRun _ _) _ hok
    (sampleRow 0xabcdef) (List.mem_singleton_self _) rfl _ (List.mem_singleton_self _) hparse rfl ?_
  exact List.countP_le_length.trans (by decide)

/-- The same event, asked for in upper case: it is queried, and the firewall rejects it. -/
theorem uppercase_id_dropped :
    ¬ EvidenceComplete sampleUuidLib sampleClickHouse Status.message production sampleTenant
      [sampleRow 0xabcdef] (storeRun sampleClickHouse [sampleRow 0xabcdef])
      ["00000000-0000-0000-0000-000000ABCDEF"] := by
  intro h
  have hparse : sampleUuidLib.parse "00000000-0000-0000-0000-000000ABCDEF" =
      some (sampleRow 0xabcdef).eventID := by decide +kernel
  have hids : ["00000000-0000-0000-0000-000000ABCDEF"].filterMap sampleUuidLib.parse ≠ [] := by
    rw [List.filterMap_cons_some hparse]
    exact List.cons_ne_nil _ _
  have hok : ¬ (storeRun sampleClickHouse [sampleRow 0xabcdef]).Failed sampleUuidLib
      ⟨["00000000-0000-0000-0000-000000ABCDEF"], 100⟩ (callMetadata production sampleTenant) :=
    storeRun_not_failed rfl sampleTenant_readable hids
  obtain ⟨rows, -, htool⟩ := tool_eq_of_not_failed (servedFrom_storeRun _ _) (by decide) hids hok
  have hmem := h _ htool hok (sampleRow 0xabcdef) (List.mem_singleton_self _) rfl
    ⟨_, List.mem_singleton_self _, hparse⟩
  have htext := text_mem_of_returned (List.cons_ne_nil _ _) hmem
  have hother : uuidText (sampleRow 0xabcdef).eventID ∉ ["00000000-0000-0000-0000-000000ABCDEF"] := by
    decide +kernel
  exact hother htext

def crowd : List LogRow := (List.range 101).map fun i => sampleRow (BitVec.ofNat 128 i)

def crowdIDs : List String := (List.range 101).map fun i => uuidText (BitVec.ofNat 128 i)

def crowdEvidence (i : Nat) : Json :=
  evidence (eventDetail (selectRow sampleClickHouse (sampleRow (BitVec.ofNat 128 i))))

theorem nodup_crowdEvidence : ((List.range 101).map crowdEvidence).Nodup := by
  refine List.Nodup.map_on (fun i hi j hj heq => ?_) List.nodup_range
  have htext : uuidText (BitVec.ofNat 128 i) = uuidText (BitVec.ofNat 128 j) := evidence_eventID heq
  have huuid : BitVec.ofNat 128 i = BitVec.ofNat 128 j := by
    rw [← Option.some_inj, ← parse_uuidText, htext, parse_uuidText]
  have hnat := congrArg BitVec.toNat huuid
  rw [BitVec.toNat_ofNat, BitVec.toNat_ofNat] at hnat
  rw [List.mem_range] at hi hj
  omega

/-- A hundred and one events, all asked for: each would have to be in an answer of a hundred
rows. -/
theorem crowd_dropped :
    ¬ EvidenceComplete sampleUuidLib sampleClickHouse Status.message production sampleTenant crowd
      (storeRun sampleClickHouse crowd) crowdIDs := by
  intro h
  have hids : crowdIDs.filterMap sampleUuidLib.parse ≠ [] :=
    List.ne_nil_of_mem (List.mem_filterMap.mpr
      ⟨uuidText (BitVec.ofNat 128 0), List.mem_map_of_mem (by decide), parse_uuidText _⟩)
  have hok : ¬ (storeRun sampleClickHouse crowd).Failed sampleUuidLib ⟨crowdIDs, 100⟩
      (callMetadata production sampleTenant) := storeRun_not_failed rfl sampleTenant_readable hids
  obtain ⟨rows, hanswer, htool⟩ := tool_eq_of_not_failed (servedFrom_storeRun _ _) (by decide) hids hok
  obtain ⟨ordered, -, -, rfl⟩ := hanswer.limited
  have hsubset : (List.range 101).map crowdEvidence ⊆ ((ordered.take 100).map fun row =>
      eventDetail (selectRow sampleClickHouse row)).filterMap (firewall crowdIDs) := by
    intro e he
    obtain ⟨i, hi, rfl⟩ := List.mem_map.mp he
    exact h _ htool hok (sampleRow (BitVec.ofNat 128 i)) (List.mem_map_of_mem hi) rfl
      ⟨uuidText (BitVec.ofNat 128 i), List.mem_map_of_mem hi, parse_uuidText _⟩
  have hlength := (List.subperm_of_subset nodup_crowdEvidence hsubset).length_le
  have hreturned := List.length_filterMap_le (firewall crowdIDs)
    ((ordered.take 100).map fun row => eventDetail (selectRow sampleClickHouse row))
  rw [List.length_map, List.length_take] at hreturned
  rw [List.length_map, List.length_range] at hlength
  omega

/-- Two ways for a stored event to be missed by a retrieval that does not fail. -/
theorem stored_events_missed :
    (ServedFrom sampleClickHouse crowd (storeRun sampleClickHouse crowd) ∧
      ¬ EvidenceComplete sampleUuidLib sampleClickHouse Status.message production sampleTenant crowd
        (storeRun sampleClickHouse crowd) crowdIDs) ∧
    (ServedFrom sampleClickHouse [sampleRow 0xabcdef] (storeRun sampleClickHouse [sampleRow 0xabcdef]) ∧
      ¬ EvidenceComplete sampleUuidLib sampleClickHouse Status.message production sampleTenant
        [sampleRow 0xabcdef] (storeRun sampleClickHouse [sampleRow 0xabcdef])
        ["00000000-0000-0000-0000-000000ABCDEF"]) :=
  ⟨⟨servedFrom_storeRun _ _, crowd_dropped⟩, servedFrom_storeRun _ _, uppercase_id_dropped⟩

end SocFabric.Evidence
