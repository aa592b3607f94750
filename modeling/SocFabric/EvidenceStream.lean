import SocFabric.LogQueries
import Mathlib.Data.List.ReduceOption

/-!
# The evidence stream (`core-ingest/main.go`)

The row loop of `FetchAlertContext`: the rows of the answer are scanned one by one, encoded as
`SecurityEventDetail`s and sent in responses of a hundred. A row that does not scan is logged and
skipped, and `rows.Err()` is never asked, so the iteration may also end early without anyone
noticing.

`streamRows_eq` says what the loop does: it sends `frames` of the scanned rows in order until a
`Send` fails.
-/

namespace SocFabric.Evidence

/-- The variables one `rows.Scan` fills. -/
structure ScannedRow where
  eventID : UUID
  timestamp : Time
  clientIP : String
  userID : String
  actionExecuted : String
  riskScore : UInt8
  destIP : String
  destPort : Int32
  protocol : String
  dnsDomain : String
  flowID : String
  bytesOut : UInt64
  bytesIn : UInt64
  packetsOut : UInt32
  packetsIn : UInt32
  flowDuration : Rat
deriving DecidableEq

structure SecurityEventDetail where
  eventID : String
  timestamp : Option Time
  sourceIP : String
  principalUser : String
  actionExecuted : String
  riskScore : UInt32
  destinationIP : String
  destinationPort : Int32
  protocol : String
  dnsDomain : String
  flowID : String
  bytesOut : UInt64
  bytesIn : UInt64
  packetsOut : UInt32
  packetsIn : UInt32
  flowDuration : Rat
deriving DecidableEq

structure LogContextResponse where
  status : String
  currentBatchIndex : Nat
  events : List SecurityEventDetail
deriving DecidableEq

/-- A gRPC status other than OK. -/
structure Status where
  code : String
  message : String
deriving DecidableEq

/-! ### Encoding -/

/-- `uuid.UUID.String`: the thirty-two hexadecimal digits in lower case, hyphenated 8-4-4-4-12. -/
def uuidText (u : UUID) : String :=
  .ofList ((List.range 32).flatMap fun i =>
    (if i ∈ [8, 12, 16, 20] then ['-'] else []) ++ [Nat.digitChar (u.toNat / 16 ^ (31 - i) % 16)])

example : uuidText 0x123e4567e89b12d3a456426614174000 = "123e4567-e89b-12d3-a456-426614174000" := by
  decide +kernel

def eventDetail (row : ScannedRow) : SecurityEventDetail where
  eventID := uuidText row.eventID
  timestamp := some row.timestamp
  sourceIP := row.clientIP
  principalUser := row.userID
  actionExecuted := row.actionExecuted
  riskScore := row.riskScore.toUInt32
  destinationIP := row.destIP
  destinationPort := row.destPort
  protocol := row.protocol
  dnsDomain := row.dnsDomain
  flowID := row.flowID
  bytesOut := row.bytesOut
  bytesIn := row.bytesIn
  packetsOut := row.packetsOut
  packetsIn := row.packetsIn
  flowDuration := row.flowDuration

/-! ### The row loop -/

def batchSize : Nat := 100

def response (batchIndex : Nat) (batch : List SecurityEventDetail) : LogContextResponse :=
  ⟨"streaming", batchIndex, batch⟩

/-- What a handler sent, and the status it returned. -/
structure Sent where
  responses : List LogContextResponse := []
  status : Option Status := none
deriving DecidableEq

def Sent.after (r : LogContextResponse) (s : Sent) : Sent := { s with responses := r :: s.responses }

/-- `send i` is how the `Send` of response `i` fails; a row is `none` where its `Scan` fails. -/
def streamRows (send : Nat → Option Status) :
    List (Option ScannedRow) → List SecurityEventDetail → Nat → Sent
  | [], batch, batchIndex =>
    if batch = [] then {} else
      match send batchIndex with
      | some err => { status := some err }
      | none => { responses := [response batchIndex batch] }
  | none :: rows, batch, batchIndex => streamRows send rows batch batchIndex
  | some row :: rows, batch, batchIndex =>
    if batchSize ≤ (batch ++ [eventDetail row]).length then
      match send batchIndex with
      | some err => { status := some err }
      | none =>
        (streamRows send rows [] (batchIndex + 1)).after (response batchIndex (batch ++ [eventDetail row]))
    else streamRows send rows (batch ++ [eventDetail row]) batchIndex

/-- What the loop gets from the driver: the rows `rows.Next` stopped at, and the error that ended
the iteration, which is not read. -/
structure RowSet where
  rows : List (Option ScannedRow)
  err : Option String := none

/-- core-ingest during one call: its key, and what the driver and the stream answer. -/
structure ServerRun where
  internalServiceKey : String
  dbAvailable : Bool := true
  query : Query → Except String RowSet
  send : Nat → Option Status := fun _ => none

structure LogContextRequest where
  evidenceIDs : List String
  maxRecordsLimit : Int

abbrev Metadata := List (String × String)

/-- `md.Get`. -/
def Metadata.get (md : Metadata) (key : String) : List String :=
  md.filterMap fun entry => if entry.1 = key then some entry.2 else none

def authStreamInterceptor (internalServiceKey : String) (md : Metadata) : Option Status :=
  if internalServiceKey = "" ∨ (md.get "x-internal-service-key").head? ≠ some internalServiceKey then
    some ⟨"Unauthenticated", "invalid or missing internal service key"⟩
  else none

/-- How far a call gets before the row loop. -/
inductive Opened
  | refused (err : Status)
  | noRows
  | rows (set : RowSet)

def openRows (lib : UuidLib) (run : ServerRun) (request : LogContextRequest) (md : Metadata) : Opened :=
  match authStreamInterceptor run.internalServiceKey md with
  | some err => .refused err
  | none =>
    match fetchAlertContext lib run.dbAvailable (md.get "x-tenant-id") request.evidenceIDs
        request.maxRecordsLimit with
    | .error code message => .refused ⟨code, message⟩
    | .noRows => .noRows
    | .query q =>
      match run.query q with
      | .error e => .refused ⟨"Internal", "failed to query database: " ++ e⟩
      | .ok set => .rows set

def serveAlertContext (lib : UuidLib) (run : ServerRun) (request : LogContextRequest) (md : Metadata) :
    Sent :=
  match openRows lib run request md with
  | .refused err => { status := some err }
  | .noRows => {}
  | .rows set => streamRows run.send set.rows [] 1

/-! ### Framing -/

/-- The responses that carry the events, cut by hundreds and numbered from `batchIndex`. -/
def frames (batchIndex : Nat) (events : List SecurityEventDetail) : List LogContextResponse :=
  if events = [] then [] else
    response batchIndex (events.take batchSize) :: frames (batchIndex + 1) (events.drop batchSize)
termination_by events.length
decreasing_by
  rename_i h
  have hpos := List.length_pos_iff.mpr h
  rw [List.length_drop, batchSize]
  omega

/-- The responses are sent in order, up to the first `Send` that fails. -/
def sendAll (send : Nat → Option Status) : List LogContextResponse → Sent
  | [] => {}
  | r :: rs =>
    match send r.currentBatchIndex with
    | some err => { status := some err }
    | none => (sendAll send rs).after r

section
variable {send : Nat → Option Status} {i : Nat} {batch events : List SecurityEventDetail}

theorem frames_nil : frames i [] = [] := by
  rw [frames, if_pos rfl]

theorem frames_append (hbatch : batch.length = batchSize) :
    frames i (batch ++ events) = response i batch :: frames (i + 1) events := by
  have hne : batch ++ events ≠ [] := by
    intro h
    have hlen := congrArg List.length h
    rw [List.length_append, hbatch, List.length_nil, batchSize] at hlen
    omega
  rw [frames, if_neg hne, ← hbatch, List.take_left, List.drop_left]

theorem frames_short (hne : events ≠ []) (hshort : events.length ≤ batchSize) :
    frames i events = [response i events] := by
  rw [frames, if_neg hne, List.take_of_length_le hshort, List.drop_eq_nil_of_le hshort, frames_nil]

theorem flatMap_frames : (frames i events).flatMap (·.events) = events := by
  induction i, events using frames.induct with
  | case1 i => rw [frames_nil, List.flatMap_nil]
  | case2 i events hne ih =>
    rw [frames, if_neg hne, List.flatMap_cons, ih]
    exact List.take_append_drop _ _

/-- How many responses so many events take. -/
def batches (n : Nat) : Nat := (n + 99) / 100

theorem map_index_frames :
    (frames i events).map (·.currentBatchIndex) = List.range' i (batches events.length) := by
  induction i, events using frames.induct with
  | case1 i => rw [frames_nil]; rfl
  | case2 i events hne ih =>
    have hpos := List.length_pos_iff.mpr hne
    have hcount : batches events.length = batches (events.drop batchSize).length + 1 := by
      rw [List.length_drop, batches, batches, batchSize]
      omega
    rw [frames, if_neg hne, List.map_cons, ih, hcount, List.range'_succ]
    rfl

theorem sendAll_status (rs : List LogContextResponse) :
    (sendAll send rs).status = none ↔ ∀ k ∈ rs.map (·.currentBatchIndex), send k = none := by
  induction rs with
  | nil => simp [sendAll]
  | cons r rs ih =>
    rw [sendAll, List.map_cons, List.forall_mem_cons]
    cases hr : send r.currentBatchIndex with
    | some err => simp
    | none => simpa [Sent.after] using ih

theorem sendAll_responses (rs : List LogContextResponse) (h : (sendAll send rs).status = none) :
    (sendAll send rs).responses = rs := by
  induction rs with
  | nil => rfl
  | cons r rs ih =>
    rw [sendAll] at h ⊢
    cases hr : send r.currentBatchIndex with
    | some err => rw [hr] at h; cases h
    | none =>
      rw [hr] at h
      exact congrArg (r :: ·) (ih h)

/-- The loop keeps fewer than a hundred events back; with the rows still to come they are the events
of the frames it has yet to send. -/
theorem streamRows_eq (rows : List (Option ScannedRow)) (hbatch : batch.length < batchSize) :
    streamRows send rows batch i = sendAll send (frames i (batch ++ rows.reduceOption.map eventDetail)) := by
  induction rows generalizing batch i with
  | nil =>
    rw [List.reduceOption_nil, List.map_nil, List.append_nil, streamRows]
    by_cases hnil : batch = []
    · rw [if_pos hnil, hnil, frames_nil, sendAll]
    · rw [if_neg hnil, frames_short hnil hbatch.le, sendAll, response]
      cases send i with
      | some err => rfl
      | none => rfl
  | cons row rows ih =>
    cases row with
    | none => rw [streamRows, List.reduceOption_cons_of_none, ih hbatch]
    | some row =>
      rw [List.reduceOption_cons_of_some, List.map_cons, List.append_cons, streamRows]
      have hlen : (batch ++ [eventDetail row]).length = batch.length + 1 := List.length_append
      by_cases hfull : batchSize ≤ (batch ++ [eventDetail row]).length
      · rw [if_pos hfull, frames_append (by omega), sendAll, response]
        cases send i with
        | some err => rfl
        | none =>
          have hzero : ([] : List SecurityEventDetail).length < batchSize := by decide
          rw [ih hzero, List.nil_append]
      · rw [if_neg hfull, ih (by omega)]

end

section
variable {send : Nat → Option Status} {rows : List (Option ScannedRow)}

theorem streamRows_status :
    (streamRows send rows [] 1).status = none ↔
      ∀ i, 1 ≤ i → i ≤ batches rows.reduceOption.length → send i = none := by
  rw [streamRows_eq rows (by decide), List.nil_append, sendAll_status, map_index_frames,
    List.length_map]
  constructor
  · intro h i hlow hhigh
    exact h i (List.mem_range'_1.mpr ⟨hlow, by omega⟩)
  · intro h i hi
    obtain ⟨hlow, hhigh⟩ := List.mem_range'_1.mp hi
    exact h i hlow (by omega)

/-- If no `Send` fails, the responses carry exactly the scanned rows. -/
theorem streamRows_events (h : (streamRows send rows [] 1).status = none) :
    (streamRows send rows [] 1).responses.flatMap (·.events) = rows.reduceOption.map eventDetail := by
  rw [streamRows_eq rows (by decide), List.nil_append] at h ⊢
  rw [sendAll_responses _ h, flatMap_frames]

end

end SocFabric.Evidence
