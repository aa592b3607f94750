import SocFabric.Telemetry
import Mathlib.Data.List.Count

/-!
# The log store's writer (`core-ingest/database.go`)

`BatchWriteLogs` and the end of `handleAgentPush` that calls it. The answers of the ClickHouse
driver and the fill of `DLQBuffer` during one call are a `DbRun`; the effect of the call is an
`Outcome`, where every row and payload stands with the index of the log it comes from.

A log whose `Append` fails is skipped, and a failing `PrepareBatch` ends the call before the
fallback: the logs of a call are all accounted for exactly if neither happens, or the `Send` fails
as well (`accounted_iff`).
-/

namespace SocFabric

abbrev UUID := BitVec 128

/-- What `github.com/google/uuid` computes: `Parse`, and `NewMD5` in the DNS name space. -/
structure UuidLib where
  parse : String → Option UUID
  newMD5 : String → UUID

structure LogRow where
  tenantID : UUID
  eventID : UUID
  timestamp : Time
  applicationName : String
  environment : String
  clientIP : String
  userID : String
  apiEndpoint : String
  actionExecuted : String
  httpStatus : UInt16
  riskScore : UInt8
  rawData : Json

structure CdmRow where
  tenantID : UUID
  timestamp : Time
  cfRayID : String
  clientIP : String
  endpointID : String
  endpointType : String
  httpPath : String
  userAgent : String
  tlsFingerprint : String
  rawData : Json

/-- The driver's answers during one call (`some` error text where a call fails), the event ids
drawn, and the number of payloads in `DLQBuffer` when log `i` is offered to it. -/
structure DbRun where
  prepareLogs : Option String := none
  prepareCdm : Option String := none
  appendLogs : Nat → Option String := fun _ => none
  appendCdm : Nat → Option String := fun _ => none
  sendCdm : Option String := none
  sendLogs : Option String := none
  eventID : Nat → UUID
  dlqFill : Nat → Nat := fun _ => 0

structure Batches where
  logs : List (Nat × LogRow) := []
  cdm : List (Nat × CdmRow) := []

/-- `rows` and `cdmRows` are the rows of the batches that were sent, `queued` what went into
`DLQBuffer`, `dropped` what the buffer-full branch let go. -/
structure Outcome where
  rows : List (Nat × LogRow) := []
  cdmRows : List (Nat × CdmRow) := []
  queued : List (Nat × RemoteLogPayload) := []
  dropped : List (Nat × RemoteLogPayload) := []
  err : Option String := none

def dlqCapacity : Nat := 100000

def tenantUUID (lib : UuidLib) (tenantID : String) : UUID :=
  (lib.parse tenantID).getD (lib.newMD5 tenantID)

def logRow (tenant eventID : UUID) (l : RemoteLogPayload) : LogRow :=
  ⟨tenant, eventID, l.timestamp, "enterprise_gateway", "production", "192.168.1.100", l.clientID,
    "/api/v1/auth", l.eventType, 200, 0, l.rawData.marshal⟩

def cdmRow (tenant : UUID) (l : RemoteLogPayload) : CdmRow :=
  ⟨tenant, l.timestamp, l.cfRayID, l.clientIP, l.endpointID, l.endpointType, l.httpPath, l.userAgent,
    l.tlsFingerprint, l.rawData.marshal⟩

def appendLog (db : DbRun) (tenant : UUID) (i : Nat) (l : RemoteLogPayload) (b : Batches) : Batches :=
  match db.appendLogs i with
  | some _ => b -- `continue`, also past the cdm row
  | none =>
    { logs := b.logs ++ [(i, logRow tenant (db.eventID i) l)]
      cdm := match db.appendCdm i with
        | some _ => b.cdm
        | none => b.cdm ++ [(i, cdmRow tenant l)] }

def appendLoop (db : DbRun) (tenant : UUID) : Nat → List RemoteLogPayload → Batches → Batches
  | _, [], b => b
  | i, l :: logs, b => appendLoop db tenant (i + 1) logs (appendLog db tenant i l b)

/-- One round of the fallback loop: the `select` with a `default`. -/
def offer (db : DbRun) (i : Nat) (l : RemoteLogPayload) (o : Outcome) : Outcome :=
  if db.dlqFill i < dlqCapacity then { o with queued := o.queued ++ [(i, l)] }
  else { o with dropped := o.dropped ++ [(i, l)] }

def offerLoop (db : DbRun) : Nat → List RemoteLogPayload → Outcome → Outcome
  | _, [], o => o
  | i, l :: logs, o => offerLoop db (i + 1) logs (offer db i l o)

def batchWriteLogs (lib : UuidLib) (db : DbRun) (tenantID : String) (logs : List RemoteLogPayload) :
    Outcome :=
  if tenantID = "" then { err := some "NO VALID TENANT -> NO TENANT-SCOPED TELEMETRY WRITE" } else
  if logs = [] then {} else
  match db.prepareLogs with
  | some e => { err := some ("failed to prepare ClickHouse batch context: " ++ e) }
  | none =>
    match db.prepareCdm with
    | some e => { err := some ("failed to prepare ClickHouse cdm_events batch context: " ++ e) }
    | none =>
      match db.sendLogs with
      | some e => offerLoop db 0 logs
          { cdmRows := match db.sendCdm with
              | some _ => []
              | none => (appendLoop db (tenantUUID lib tenantID) 0 logs {}).cdm
            err := some ("failed to flush batch to ClickHouse (Rerouted to Async DLQ): " ++ e) }
      | none =>
          { rows := (appendLoop db (tenantUUID lib tenantID) 0 logs {}).logs
            cdmRows := match db.sendCdm with
              | some _ => []
              | none => (appendLoop db (tenantUUID lib tenantID) 0 logs {}).cdm }

/-- The end of `handleAgentPush`, with the status it answers; `none` is a nil `DBManager`. The error
of the write is only logged. -/
def storePayloads (lib : UuidLib) (dbManager : Option DbRun) (tenantID : String)
    (payloads : List RemoteLogPayload) : Nat × Outcome :=
  match dbManager with
  | none => (202, {})
  | some db => (202, if payloads = [] then {} else batchWriteLogs lib db tenantID payloads)

end SocFabric
