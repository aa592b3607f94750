import SocFabric.LogAccounting
import SocFabric.NetworkAdapter
import SocFabric.Lib.Sha256

/-!
# The log store's readers (`core-ingest/main.go`, `core-ingest/network_analyzer.go`)

`FetchAlertContext` up to the query it issues, and `CheckDestinationNovelty`. The writer keys a row
by the UUID that the tenant id parses to, or by a hash of it; both readers bind the tenant id
itself, which ClickHouse reads as a UUID. So a tenant reads its own rows back only if its id is a
UUID text to begin with (`readYourWrites_iff`).
-/

namespace SocFabric

inductive Cond
  | tenantID (bound : String)
  | eventIDIn (ids : List UUID)
  | rawString (field value : String)
  | rawInt (field : String) (value : Int)

structure Query where
  conds : List Cond
  newestFirst : Bool
  limit : Nat

/-! ### FetchAlertContext -/

inductive FetchStart
  | error (code message : String)
  | noRows
  | query (q : Query)

def recordsLimit (maxRecordsLimit : Int) : Nat :=
  if maxRecordsLimit ≤ 0 ∨ 1000 < maxRecordsLimit then 100 else maxRecordsLimit.toNat

/-- `tenants` is what the incoming metadata holds under `x-tenant-id`. -/
def fetchAlertContext (lib : UuidLib) (dbAvailable : Bool) (tenants evidenceIDs : List String)
    (maxRecordsLimit : Int) : FetchStart :=
  match tenants with
  | [] => .error "PermissionDenied" "missing x-tenant-id in metadata"
  | tenantID :: _ =>
    if !dbAvailable then .error "Internal" "database not available"
    else if evidenceIDs = [] then .query ⟨[.tenantID tenantID], true, recordsLimit maxRecordsLimit⟩
    else if evidenceIDs.filterMap lib.parse = [] then .noRows
    else .query ⟨[.tenantID tenantID, .eventIDIn (evidenceIDs.filterMap lib.parse)], true,
      recordsLimit maxRecordsLimit⟩

/-! ### CheckDestinationNovelty -/

/-- Without the `Ratio`, which a novelty signal leaves out. -/
structure NoveltySignal where
  signalID : String
  signalType : String
  severity : String
  description : String
  evidenceIDs : List String
deriving DecidableEq, Repr

/-- `known` is `KnownDestinations` after the call. -/
structure Novelty where
  signals : List NoveltySignal := []
  err : Option String := none
  known : List String
  query : Option Query := none

def noveltyKey (tenantID : String) (flow : NetworkFlow) : String :=
  tenantID ++ ":" ++ flow.sourceIP ++ ":" ++ flow.destinationIP ++ ":" ++
    toString flow.destinationPort.toNat ++ ":" ++ flow.protocol

def noveltyQuery (tenantID : String) (flow : NetworkFlow) : Query :=
  ⟨[.tenantID tenantID, .rawString "source_ip" flow.sourceIP, .rawString "destination_ip" flow.destinationIP,
    .rawInt "destination_port" flow.destinationPort.toNat], false, 1⟩

def noveltySignal (newID : String) (flow : NetworkFlow) : NoveltySignal where
  signalID := "A-NOV-" ++ newID
  signalType := "NEW_DESTINATION"
  severity := "MEDIUM"
  description := "First time connection observed from " ++ flow.sourceIP ++ " to " ++ flow.destinationIP ++
    " on port " ++ toString flow.destinationPort.toNat ++ "/" ++ flow.protocol ++ "."
  evidenceIDs := [flow.eventID]

/-- `db` answers a count query with a count or an error; `none` is an uninitialized manager. -/
def checkDestinationNovelty (db : Option (Query → Except String UInt64)) (newID : String)
    (known : List String) (tenantID : String) (flow : NetworkFlow) : Novelty :=
  if flow.sourceIP = "" ∨ flow.destinationIP = "" then { known }
  else if noveltyKey tenantID flow ∈ known then { known }
  else
    match db with
    | none => { known, err := some "database manager uninitialized" }
    | some count =>
      match count (noveltyQuery tenantID flow) with
      | .error e =>
        { known, err := some ("failed to query historical destinations: " ++ e)
          query := some (noveltyQuery tenantID flow) }
      | .ok n =>
        { signals := if n = 0 then [noveltySignal newID flow] else []
          known := noveltyKey tenantID flow :: known
          query := some (noveltyQuery tenantID flow) }

/-! ### The tenant predicate -/

/-- How ClickHouse reads a bound string that it compares with a UUID column: `none` if it cannot. -/
abbrev CastUuid := String → Option UUID

/-- Texts that ClickHouse reads as a UUID are texts that `uuid.Parse` reads as the same one. -/
structure CastUuid.Sound (cast : CastUuid) (lib : UuidLib) : Prop where
  parse : ∀ {s u}, cast s = some u → lib.parse s = some u
  empty : cast "" = none

/-- The `tenant_id` conjuncts of the query hold of the row. -/
def Query.tenantHolds (cast : CastUuid) (q : Query) (row : LogRow) : Prop :=
  ∀ v, .tenantID v ∈ q.conds → cast v = some row.tenantID

/-- A query that one of the readers issues on behalf of the tenant. -/
inductive IssuedFor (lib : UuidLib) (t : String) : Query → Prop
  | fetch {dbAvailable rest evidenceIDs limit q}
      (h : fetchAlertContext lib dbAvailable (t :: rest) evidenceIDs limit = .query q) : IssuedFor lib t q
  | novelty {db newID known flow q}
      (h : (checkDestinationNovelty db newID known t flow).query = some q) : IssuedFor lib t q

def StoredFor (lib : UuidLib) (t : String) (row : LogRow) : Prop :=
  ∃ db logs i, (i, row) ∈ (batchWriteLogs lib db t logs).rows

structure ReadYourWrites (lib : UuidLib) (cast : CastUuid) (registry : List String) (t : String) : Prop where
  own : ∀ {q row}, IssuedFor lib t q → StoredFor lib t row → q.tenantHolds cast row
  foreign : ∀ {q t' row}, t' ∈ registry → t' ≠ t → IssuedFor lib t q → StoredFor lib t' row →
    ¬ q.tenantHolds cast row

section
variable {lib : UuidLib} {cast : CastUuid} {t : String} {q : Query} {row : LogRow}

theorem IssuedFor.tenantID_mem_iff (h : IssuedFor lib t q) (v : String) : .tenantID v ∈ q.conds ↔ v = t := by
  cases h with
  | fetch h =>
    unfold fetchAlertContext at h
    split_ifs at h <;> cases h <;> simp
  | novelty h =>
    unfold checkDestinationNovelty at h
    split_ifs at h
    split at h
    · cases h
    split at h <;> cases h <;> simp [noveltyQuery]

theorem IssuedFor.tenantHolds_iff (h : IssuedFor lib t q) :
    q.tenantHolds cast row ↔ cast t = some row.tenantID := by
  simp only [Query.tenantHolds, h.tenantID_mem_iff, forall_eq]

theorem exists_issuedFor (lib : UuidLib) (t : String) : ∃ q, IssuedFor lib t q :=
  ⟨_, @IssuedFor.fetch lib t true [] [] 100 _ rfl⟩

theorem StoredFor.tenantID_eq (h : StoredFor lib t row) : t ≠ "" ∧ row.tenantID = tenantUUID lib t := by
  obtain ⟨db, logs, i, hmem⟩ := h
  obtain ⟨ht, l, -, hrow⟩ := mem_rows hmem
  exact ⟨ht, congrArg LogRow.tenantID hrow⟩

theorem exists_storedFor (lib : UuidLib) (ht : t ≠ "") :
    StoredFor lib t (logRow (tenantUUID lib t) 0 {}) := by
  refine ⟨{ eventID := fun _ => 0 }, [{}], 0, ?_⟩
  simp [batchWriteLogs, ht, appendLoop, appendLog]

end

/-- The tenant reads its rows back, and only its own, exactly if it stores none or ClickHouse reads
its id as a UUID that no other registered tenant is stored under. -/
theorem readYourWrites_iff (lib : UuidLib) (cast : CastUuid) (hcast : cast.Sound lib)
    (registry : List String) (t : String) :
    ReadYourWrites lib cast registry t ↔
      t = "" ∨ (cast t ≠ none ∧
        ∀ t' ∈ registry, t' ≠ "" → t' ≠ t → tenantUUID lib t' ≠ tenantUUID lib t) := by
  have key : ∀ {u}, cast t = some u → u = tenantUUID lib t := by
    intro u hu
    rw [tenantUUID, hcast.parse hu, Option.getD_some]
  constructor
  · intro h
    by_cases hempty : t = ""
    · exact .inl hempty
    obtain ⟨q, hq⟩ := exists_issuedFor lib t
    have hown := hq.tenantHolds_iff.mp (h.own hq (exists_storedFor lib hempty))
    refine .inr ⟨by rw [hown]; exact Option.some_ne_none _, fun t' hmem hne hdiff heq => ?_⟩
    refine h.foreign hmem hdiff hq (exists_storedFor lib hne) (hq.tenantHolds_iff.mpr ?_)
    rw [hown]
    exact congrArg some heq.symm
  · rintro (rfl | ⟨hsome, hother⟩)
    · refine ⟨fun _ hs => absurd rfl hs.tenantID_eq.1, fun _ _ hq _ hholds => ?_⟩
      rw [hq.tenantHolds_iff, hcast.empty] at hholds
      cases hholds
    · obtain ⟨u, hu⟩ := Option.ne_none_iff_exists'.mp hsome
      refine ⟨fun hq hs => ?_, fun hmem hdiff hq hs hholds => ?_⟩
      · rw [hq.tenantHolds_iff, hu, hs.tenantID_eq.2, key hu]
      · have heq := key (hq.tenantHolds_iff.mp hholds)
        rw [hs.tenantID_eq.2] at heq
        exact hother _ hmem hs.tenantID_eq.1 hdiff heq

def parseCanonical (s : String) : Option UUID :=
  if s.toList.length = 36 ∧ [8, 13, 18, 23].all (fun i => s.toList[i]? = some '-') ∧
      (s.toList.filter (· ≠ '-')).length = 32 then
    (Sha256.hexDecode (s.toList.filter (· ≠ '-'))).map fun bytes =>
      BitVec.ofNat 128 (bytes.foldl (fun n b => n * 256 + b.toNat) 0)
  else none

def sampleUuidLib : UuidLib := ⟨parseCanonical, fun _ => 0x870bd21f3a853273857e535faa92e981⟩

theorem parseCanonical_sound : CastUuid.Sound parseCanonical sampleUuidLib := ⟨id, rfl⟩

theorem readYourWrites_of_uuid_tenant :
    ReadYourWrites sampleUuidLib parseCanonical ["123e4567-e89b-12d3-a456-426614174000", "acme-corp"]
      "123e4567-e89b-12d3-a456-426614174000" :=
  (readYourWrites_iff _ _ parseCanonical_sound _ _).mpr (.inr ⟨by decide +kernel, by decide +kernel⟩)

/-- The sample tenant of the registry does not find the rows it stores. -/
theorem named_tenant_reads_nothing :
    ¬ ∀ (lib : UuidLib) (cast : CastUuid), cast.Sound lib → ∀ (registry : List String),
      ∀ t ∈ registry, ReadYourWrites lib cast registry t := by
  intro h
  have hacme := h sampleUuidLib parseCanonical parseCanonical_sound ["acme-corp"] "acme-corp" (by simp)
  obtain ⟨q, hq⟩ := exists_issuedFor sampleUuidLib "acme-corp"
  have hown := hq.tenantHolds_iff.mp (hacme.own hq (exists_storedFor sampleUuidLib (by decide)))
  have hnone : parseCanonical "acme-corp" = none := by decide +kernel
  rw [hnone] at hown
  cases hown

end SocFabric
