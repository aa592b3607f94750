import SocFabric.LogAccounting
import Mathlib.Logic.Function.Basic

/-!
# The dead-letter queue (`core-ingest/database.go`)

The fallback of `BatchWriteLogs` and the goroutine that `StartBackgroundDLQProcessor` starts. The
goroutine takes payloads from `DLQBuffer` in order; for each it reads the clock and runs one bbolt
transaction, whose error is discarded. A record survives if its transaction commits and no later one
reuses its key (`stored_iff`). The tenant of the call is neither in the key nor in the record, so
the bucket never says whose logs it holds (`not_replayable`).
-/

namespace SocFabric

abbrev Bucket := String → Option Json

/-- A transaction of the processor: the clock it reads (`UnixNano`), and whether it commits. -/
structure DlqTx where
  now : Int
  commits : Bool
deriving DecidableEq, Repr

def failedLogKey (tx : DlqTx) (p : RemoteLogPayload) : String := toString tx.now ++ "-" ++ p.clientID

def putFailedLog (b : Bucket) (x : RemoteLogPayload × DlqTx) : Bucket :=
  if x.2.commits then Function.update b (failedLogKey x.2 x.1) (some x.1.marshal) else b

/-- A call of `BatchWriteLogs` whose `Send` fails, and what the processor then does: `waiting` is in
`DLQBuffer` before the call, `bucket` in `FailedLogs`, and `txs` are the transactions, one for each
payload taken. -/
structure DlqRun where
  lib : UuidLib
  db : DbRun
  tenantID : String
  logs : List RemoteLogPayload
  waiting : List RemoteLogPayload
  bucket : Bucket
  txs : List DlqTx
  tenant : tenantID ≠ ""
  nonempty : logs ≠ []
  prepared : db.Prepared
  sendFails : db.sendLogs ≠ none

namespace DlqRun

variable (r : DlqRun)

def buffer : List RemoteLogPayload :=
  r.waiting ++ (batchWriteLogs r.lib r.db r.tenantID r.logs).queued.map Prod.snd

def taken : List (RemoteLogPayload × DlqTx) := r.buffer.zip r.txs

def finalBucket : Bucket := r.taken.foldl putFailedLog r.bucket

def keys : List String := r.taken.map fun x => failedLogKey x.2 x.1

/-- Every payload taken is in the bucket, under a key no other payload has. -/
structure Stored : Prop where
  present : ∀ x ∈ r.taken, r.finalBucket (failedLogKey x.2 x.1) = some x.1.marshal
  own : r.keys.Nodup

/-- The records are complete: a run from the same buffer and bucket that leaves the same records was
called with the same tenant and the same logs. -/
structure Replayable : Prop extends r.Stored where
  determined : ∀ r' : DlqRun, r'.waiting = r.waiting → r'.bucket = r.bucket →
    r'.finalBucket = r.finalBucket → r'.tenantID = r.tenantID ∧ r'.logs = r.logs

end DlqRun

/-! ### What survives in the bucket -/

section
variable {xs : List (RemoteLogPayload × DlqTx)} {b : Bucket}

theorem foldl_put_of_not_mem {k : String} (h : k ∉ xs.map fun x => failedLogKey x.2 x.1) :
    xs.foldl putFailedLog b k = b k := by
  induction xs generalizing b with
  | nil => rfl
  | cons x xs ih =>
    rw [List.map_cons, List.mem_cons, not_or] at h
    rw [List.foldl_cons, ih h.2]
    unfold putFailedLog
    split
    · exact Function.update_of_ne h.1 _ _
    · rfl

theorem foldl_put_of_nodup {x : RemoteLogPayload × DlqTx}
    (hn : (xs.map fun x => failedLogKey x.2 x.1).Nodup) (hx : x ∈ xs) :
    xs.foldl putFailedLog b (failedLogKey x.2 x.1) =
      if x.2.commits then some x.1.marshal else b (failedLogKey x.2 x.1) := by
  induction xs generalizing b with
  | nil => cases hx
  | cons y xs ih =>
    rw [List.map_cons, List.nodup_cons] at hn
    rw [List.foldl_cons]
    rcases List.mem_cons.mp hx with rfl | hmem
    · -- the record is not touched again
      rw [foldl_put_of_not_mem hn.1]
      unfold putFailedLog
      split
      · exact Function.update_self _ _ _
      · rfl
    · have hne : failedLogKey x.2 x.1 ≠ failedLogKey y.2 y.1 := by
        intro he
        exact hn.1 (he ▸ List.mem_map_of_mem hmem)
      have hb : putFailedLog b y (failedLogKey x.2 x.1) = b (failedLogKey x.2 x.1) := by
        unfold putFailedLog
        split
        · exact Function.update_of_ne hne _ _
        · rfl
      rw [ih hn.2 hmem, hb]

end

/-- Where none of the keys was in the bucket before, all payloads taken are stored exactly if every
transaction commits and no clock reading comes twice for one client. -/
theorem stored_iff (r : DlqRun) (hfresh : ∀ k ∈ r.keys, r.bucket k = none) :
    r.Stored ↔ (∀ x ∈ r.taken, x.2.commits = true) ∧ r.keys.Nodup := by
  constructor
  · rintro ⟨hp, hn⟩
    refine ⟨fun x hx => ?_, hn⟩
    by_contra hc
    have hsome := hp x hx
    rw [DlqRun.finalBucket, foldl_put_of_nodup hn hx, if_neg hc,
      hfresh _ (List.mem_map_of_mem hx)] at hsome
    cases hsome
  · rintro ⟨hc, hn⟩
    refine ⟨fun x hx => ?_, hn⟩
    rw [DlqRun.finalBucket, foldl_put_of_nodup hn hx, if_pos (hc x hx)]

/-! ### The tenant is lost -/

theorem offerLoop_queued {db : DbRun} {i : Nat} {logs : List RemoteLogPayload} {o o' : Outcome}
    (h : o.queued = o'.queued) : (offerLoop db i logs o).queued = (offerLoop db i logs o').queued := by
  induction logs generalizing i o o' with
  | nil => exact h
  | cons l logs ih =>
    refine ih ?_
    unfold offer
    split
    · show o.queued ++ _ = o'.queued ++ _
      rw [h]
    · exact h

/-- What a call with a failing `Send` puts into `DLQBuffer` does not depend on the tenant. -/
theorem queued_of_sendFails (lib : UuidLib) {db : DbRun} {t t' : String} (logs : List RemoteLogPayload)
    (ht : t ≠ "") (ht' : t' ≠ "") (hp : db.Prepared) (hs : db.sendLogs ≠ none) :
    (batchWriteLogs lib db t logs).queued = (batchWriteLogs lib db t' logs).queued := by
  obtain ⟨e, hs⟩ := Option.ne_none_iff_exists'.mp hs
  simp only [batchWriteLogs, if_neg ht, if_neg ht', hp.1, hp.2, hs]
  split
  · rfl
  · exact offerLoop_queued rfl

theorem exists_other_tenant (t : String) : ∃ t', t' ≠ "" ∧ t' ≠ t := by
  by_cases h : t = "acme-corp"
  · exact ⟨"globex", by decide, by rw [h]; decide⟩
  · exact ⟨"acme-corp", by decide, fun h' => h h'.symm⟩

theorem not_replayable (r : DlqRun) : ¬ r.Replayable := by
  intro h
  obtain ⟨t, ht, hne⟩ := exists_other_tenant r.tenantID
  -- the same run on behalf of another tenant
  have hq := queued_of_sendFails r.lib r.logs ht r.tenant r.prepared r.sendFails
  have hsame : ({ r with tenantID := t, tenant := ht } : DlqRun).finalBucket = r.finalBucket := by
    simp only [DlqRun.finalBucket, DlqRun.taken, DlqRun.buffer, hq]
  exact hne (h.determined { r with tenantID := t, tenant := ht } rfl rfl hsame).1

def outageRun (tenantID : String) (h : tenantID ≠ "") : DlqRun where
  lib := ⟨fun _ => none, fun _ => 7⟩
  db := { sendLogs := some "EOF", eventID := fun _ => 1 }
  tenantID := tenantID
  logs := [{ clientID := "edge-1" }]
  waiting := []
  bucket := fun _ => none
  txs := [⟨1700000000000000000, true⟩]
  tenant := h
  nonempty := by simp
  prepared := ⟨rfl, rfl⟩
  sendFails := by simp

theorem same_bucket_for_two_tenants : ¬ ∀ r : DlqRun, r.Replayable := by
  intro h
  have hsame : (outageRun "globex" (by decide)).finalBucket =
      (outageRun "acme-corp" (by decide)).finalBucket := rfl
  have heq : "globex" = "acme-corp" :=
    ((h (outageRun "acme-corp" (by decide))).determined (outageRun "globex" (by decide)) rfl rfl hsame).1
  exact absurd heq (by decide)

end SocFabric
