import SocFabric.LogStore

/-!
# Where the accepted logs go

A log that was answered with 202 should end up in exactly one place: a row of a sent
`application_security_logs` batch, an element of `DLQBuffer`, or the branch that drops an event
because the buffer is full. `Outcome.places` counts the places of a log; the append loop gives a log
one exactly if its `Append` succeeds (`countP_appendLoop`), the fallback loop gives every log one
(`places_offerLoop`).
-/

namespace SocFabric

variable {lib : UuidLib} {db : DbRun} {tenant : UUID} {tenantID : String} {i j : Nat}
  {logs : List RemoteLogPayload} {b : Batches} {o : Outcome}

def Outcome.places (o : Outcome) (j : Nat) : Nat :=
  o.rows.countP (·.1 = j) + o.queued.countP (·.1 = j) + o.dropped.countP (·.1 = j)

/-- Every log of the call has exactly one place, and what stands there is that log. -/
structure Outcome.Accounted (o : Outcome) (logs : List RemoteLogPayload) : Prop where
  once : ∀ j < logs.length, o.places j = 1
  row : ∀ x ∈ o.rows, ∃ l tenant eventID, logs[x.1]? = some l ∧ x.2 = logRow tenant eventID l
  payload : ∀ x ∈ o.queued ++ o.dropped, logs[x.1]? = some x.2

/-! ### The two loops -/

theorem countP_snoc {α : Type} (xs : List (Nat × α)) (a : α) :
    (xs ++ [(i, a)]).countP (·.1 = j) = xs.countP (·.1 = j) + if i = j then 1 else 0 := by
  rw [List.countP_append, List.countP_singleton]
  simp only [decide_eq_true_eq]

theorem countP_appendLog (l : RemoteLogPayload) :
    (appendLog db tenant i l b).logs.countP (·.1 = j) =
      b.logs.countP (·.1 = j) + if i = j ∧ db.appendLogs j = none then 1 else 0 := by
  unfold appendLog
  cases ha : db.appendLogs i with
  | some e =>
    have hno : ¬ (i = j ∧ db.appendLogs j = none) := by
      rintro ⟨rfl, h⟩
      rw [ha] at h; cases h
    rw [if_neg hno, Nat.add_zero]
  | none =>
    have hiff : (i = j ∧ db.appendLogs j = none) ↔ i = j := ⟨And.left, fun h => ⟨h, h ▸ ha⟩⟩
    rw [countP_snoc, if_congr hiff rfl rfl]

theorem countP_appendLoop :
    (appendLoop db tenant i logs b).logs.countP (·.1 = j) =
      b.logs.countP (·.1 = j) +
        if i ≤ j ∧ j < i + logs.length ∧ db.appendLogs j = none then 1 else 0 := by
  induction logs generalizing i b with
  | nil =>
    have hno : ¬ (i ≤ j ∧ j < i ∧ db.appendLogs j = none) := by omega
    simp only [appendLoop, List.length_nil, Nat.add_zero, if_neg hno]
  | cons l logs ih =>
    rw [appendLoop, ih, countP_appendLog, Nat.add_assoc]
    congr 1
    by_cases ha : db.appendLogs j = none
    · simp only [ha, and_true, List.length_cons]
      split_ifs <;> omega
    · simp only [ha, and_false, if_false]

theorem places_offer (l : RemoteLogPayload) :
    (offer db i l o).places j = o.places j + if i = j then 1 else 0 := by
  unfold offer Outcome.places
  split
  · simp only [countP_snoc]; omega
  · simp only [countP_snoc]; omega

theorem places_offerLoop :
    (offerLoop db i logs o).places j =
      o.places j + if i ≤ j ∧ j < i + logs.length then 1 else 0 := by
  induction logs generalizing i o with
  | nil =>
    have hno : ¬ (i ≤ j ∧ j < i) := by omega
    simp only [offerLoop, List.length_nil, Nat.add_zero, if_neg hno]
  | cons l logs ih =>
    rw [offerLoop, ih, places_offer, Nat.add_assoc, List.length_cons]
    congr 1
    split_ifs <;> omega

theorem mem_appendLoop {x : Nat × LogRow} (h : x ∈ (appendLoop db tenant i logs b).logs) :
    x ∈ b.logs ∨ ∃ k l, logs[k]? = some l ∧ x = (i + k, logRow tenant (db.eventID (i + k)) l) := by
  induction logs generalizing i b with
  | nil => exact .inl h
  | cons l logs ih =>
    rcases ih h with hb | ⟨k, l', hk, hx⟩
    · unfold appendLog at hb
      split at hb
      · exact .inl hb
      · rcases List.mem_append.mp hb with hb | hb
        · exact .inl hb
        · exact .inr ⟨0, l, rfl, List.mem_singleton.mp hb⟩
    · refine .inr ⟨k + 1, l', hk, ?_⟩
      rw [hx, Nat.add_assoc, Nat.add_comm 1 k]

theorem mem_offerLoop {x : Nat × RemoteLogPayload}
    (h : x ∈ (offerLoop db i logs o).queued ++ (offerLoop db i logs o).dropped) :
    x ∈ o.queued ++ o.dropped ∨ ∃ k, logs[k]? = some x.2 ∧ x.1 = i + k := by
  induction logs generalizing i o with
  | nil => exact .inl h
  | cons l logs ih =>
    rcases ih h with ho | ⟨k, hk, hx⟩
    · have hcase : x ∈ o.queued ++ o.dropped ∨ x = (i, l) := by
        unfold offer at ho
        split at ho <;> simp only [List.mem_append, List.mem_singleton] at ho ⊢ <;> tauto
      rcases hcase with ho | rfl
      · exact .inl ho
      · exact .inr ⟨0, rfl, rfl⟩
    · exact .inr ⟨k + 1, hk, by omega⟩

theorem offerLoop_rows : (offerLoop db i logs o).rows = o.rows := by
  induction logs generalizing i o with
  | nil => rfl
  | cons l logs ih =>
    rw [offerLoop, ih]
    unfold offer
    split <;> rfl

/-! ### A whole call -/

def DbRun.Prepared (db : DbRun) : Prop := db.prepareLogs = none ∧ db.prepareCdm = none

/-- Nothing is stored, queued or dropped. -/
structure Outcome.Empty (o : Outcome) : Prop where
  rows : o.rows = []
  queued : o.queued = []
  dropped : o.dropped = []

theorem Outcome.Empty.places (h : o.Empty) : o.places j = 0 := by
  rw [Outcome.places, h.rows, h.queued, h.dropped]
  rfl

/-- Every outcome of a call: it ends before the batches are filled, or its `Send` fails and the logs
are offered to the buffer, or the filled batch is sent. -/
theorem batchWriteLogs_cases (lib : UuidLib) (db : DbRun) (tenantID : String) (logs : List RemoteLogPayload) :
    ((tenantID = "" ∨ logs = [] ∨ ¬ db.Prepared) ∧ (batchWriteLogs lib db tenantID logs).Empty) ∨
    (tenantID ≠ "" ∧ db.Prepared ∧ db.sendLogs ≠ none ∧
      ∃ o : Outcome, o.Empty ∧ batchWriteLogs lib db tenantID logs = offerLoop db 0 logs o) ∨
    (tenantID ≠ "" ∧ db.Prepared ∧ db.sendLogs = none ∧
      ∃ o : Outcome, o.Empty ∧ batchWriteLogs lib db tenantID logs =
        { o with rows := (appendLoop db (tenantUUID lib tenantID) 0 logs {}).logs }) := by
  by_cases ht : tenantID = ""
  · exact .inl ⟨.inl ht, by simp only [batchWriteLogs, if_pos ht]; exact ⟨rfl, rfl, rfl⟩⟩
  by_cases hl : logs = []
  · exact .inl ⟨.inr (.inl hl), by simp only [batchWriteLogs, if_neg ht, if_pos hl]; exact ⟨rfl, rfl, rfl⟩⟩
  cases hp : db.prepareLogs with
  | some e =>
    have hno : ¬ db.Prepared := fun h => by rw [h.1] at hp; cases hp
    refine .inl ⟨.inr (.inr hno), ?_⟩
    simp only [batchWriteLogs, if_neg ht, if_neg hl, hp]
    exact ⟨rfl, rfl, rfl⟩
  | none =>
    cases hc : db.prepareCdm with
    | some e =>
      have hno : ¬ db.Prepared := fun h => by rw [h.2] at hc; cases hc
      refine .inl ⟨.inr (.inr hno), ?_⟩
      simp only [batchWriteLogs, if_neg ht, if_neg hl, hp, hc]
      exact ⟨rfl, rfl, rfl⟩
    | none =>
      cases hs : db.sendLogs with
      | some e =>
        have heq : ∃ o : Outcome, batchWriteLogs lib db tenantID logs = offerLoop db 0 logs o ∧ o.Empty := by
          simp only [batchWriteLogs, if_neg ht, if_neg hl, hp, hc, hs]
          exact ⟨_, rfl, rfl, rfl, rfl⟩
        obtain ⟨o, heq, he⟩ := heq
        exact .inr (.inl ⟨ht, ⟨hp, hc⟩, Option.some_ne_none e, o, he, heq⟩)
      | none =>
        refine .inr (.inr ⟨ht, ⟨hp, hc⟩, rfl, { batchWriteLogs lib db tenantID logs with rows := [] }, ?_, ?_⟩)
        · simp only [batchWriteLogs, if_neg ht, if_neg hl, hp, hc, hs]
          exact ⟨rfl, rfl, rfl⟩
        · simp only [batchWriteLogs, if_neg ht, if_neg hl, hp, hc, hs]

/-- A stored row is the row of the log it stands under. -/
theorem mem_rows {x : Nat × LogRow} (h : x ∈ (batchWriteLogs lib db tenantID logs).rows) :
    tenantID ≠ "" ∧ ∃ l, logs[x.1]? = some l ∧
      x.2 = logRow (tenantUUID lib tenantID) (db.eventID x.1) l := by
  rcases batchWriteLogs_cases lib db tenantID logs with
    ⟨-, he⟩ | ⟨-, -, -, o, he, heq⟩ | ⟨ht, -, -, o, -, heq⟩
  · rw [he.rows] at h
    cases h
  · rw [heq, offerLoop_rows, he.rows] at h
    cases h
  · rw [heq] at h
    rcases mem_appendLoop h with h | ⟨k, l, hk, hx⟩
    · cases h
    · rw [Nat.zero_add] at hx
      rw [hx]
      exact ⟨ht, l, hk, rfl⟩

theorem mem_queued_dropped {x : Nat × RemoteLogPayload}
    (h : x ∈ (batchWriteLogs lib db tenantID logs).queued ++ (batchWriteLogs lib db tenantID logs).dropped) :
    logs[x.1]? = some x.2 := by
  rcases batchWriteLogs_cases lib db tenantID logs with
    ⟨-, he⟩ | ⟨-, -, -, o, he, heq⟩ | ⟨-, -, -, o, he, heq⟩
  · rw [he.queued, he.dropped] at h
    cases h
  · rw [heq] at h
    rcases mem_offerLoop h with h | ⟨k, hk, hx⟩
    · rw [he.queued, he.dropped] at h
      cases h
    · rw [hx, Nat.zero_add]
      exact hk
  · rw [heq, he.queued, he.dropped] at h
    cases h

theorem places_of_not_prepared (h : ¬ db.Prepared) :
    (batchWriteLogs lib db tenantID logs).places j = 0 := by
  rcases batchWriteLogs_cases lib db tenantID logs with ⟨-, he⟩ | ⟨-, hp, -⟩ | ⟨-, hp, -⟩
  · exact he.places
  · exact absurd hp h
  · exact absurd hp h

theorem places_of_prepared (ht : tenantID ≠ "") (h : db.Prepared) (hj : j < logs.length) :
    (batchWriteLogs lib db tenantID logs).places j =
      if db.sendLogs ≠ none ∨ db.appendLogs j = none then 1 else 0 := by
  rcases batchWriteLogs_cases lib db tenantID logs with
    ⟨hno, -⟩ | ⟨-, -, hs, o, he, heq⟩ | ⟨-, -, hs, o, he, heq⟩
  · rcases hno with hno | rfl | hno
    · exact absurd hno ht
    · exact absurd hj (Nat.not_lt_zero j)
    · exact absurd h hno
  · rw [heq, places_offerLoop, he.places, if_pos ⟨Nat.zero_le j, by omega⟩, if_pos (.inl hs)]
  · rw [heq, Outcome.places, he.queued, he.dropped, countP_appendLoop]
    simp [hs, hj]

theorem batchWriteLogs_no_tenant : (batchWriteLogs lib db "" logs).places j = 0 := rfl

/-- The logs that `handleAgentPush` answers with 202 each have exactly one place if and only if
there is a database, the tenant id is not empty, both batches are prepared, and the `Send` fails or
every `Append` succeeds. -/
theorem accounted_iff (lib : UuidLib) (dbManager : Option DbRun) (tenantID : String)
    (payloads : List RemoteLogPayload) (hp : payloads ≠ []) :
    ((storePayloads lib dbManager tenantID payloads).1 = 202 →
      (storePayloads lib dbManager tenantID payloads).2.Accounted payloads) ↔
      ∃ db, dbManager = some db ∧ tenantID ≠ "" ∧ db.Prepared ∧
        (db.sendLogs ≠ none ∨ ∀ j < payloads.length, db.appendLogs j = none) := by
  have hlen : 0 < payloads.length := List.length_pos_iff.mpr hp
  cases dbManager with
  | none =>
    constructor
    · intro h
      have hplaces : Outcome.places {} 0 = 1 := (h rfl).once 0 hlen
      cases hplaces
    · rintro ⟨db, hdb, -⟩
      cases hdb
  | some db =>
    simp only [storePayloads, if_neg hp, Option.some.injEq, exists_eq_left', true_imp_iff]
    constructor
    · intro h
      have ht : tenantID ≠ "" := by
        rintro rfl
        have hplaces := h.once 0 hlen
        rw [batchWriteLogs_no_tenant] at hplaces
        cases hplaces
      have hprep : db.Prepared := by
        by_contra hno
        have hplaces := h.once 0 hlen
        rw [places_of_not_prepared hno] at hplaces
        cases hplaces
      refine ⟨ht, hprep, ?_⟩
      by_cases hs : db.sendLogs = none
      · refine .inr fun j hj => ?_
        have hplaces := h.once j hj
        rw [places_of_prepared ht hprep hj] at hplaces
        by_contra ha
        simp [hs, ha] at hplaces
      · exact .inl hs
    · rintro ⟨ht, hprep, hc⟩
      refine ⟨fun j hj => ?_, fun x hx => ?_, fun x hx => mem_queued_dropped hx⟩
      · rw [places_of_prepared ht hprep hj, if_pos]
        exact hc.imp id fun h => h j hj
      · obtain ⟨-, l, hl, hrow⟩ := mem_rows hx
        exact ⟨l, _, _, hl, hrow⟩

theorem accounted_when_queued :
    (storePayloads ⟨fun _ => none, fun _ => 7⟩
      (some { sendLogs := some "EOF", appendLogs := fun _ => some "bad row", eventID := fun _ => 1 })
      "acme-corp" [{}]).2.Accounted [{}] :=
  (accounted_iff _ _ _ _ (by simp)).mpr
    ⟨_, rfl, by decide, ⟨rfl, rfl⟩, .inl (by simp)⟩ rfl

/-- ClickHouse is down when the batch is prepared: the fallback for that outage is not reached. -/
theorem log_lost_in_outage :
    ¬ ∀ (lib : UuidLib) (dbManager : Option DbRun) (tenantID : String) (payloads : List RemoteLogPayload),
      payloads ≠ [] → (storePayloads lib dbManager tenantID payloads).1 = 202 →
        (storePayloads lib dbManager tenantID payloads).2.Accounted payloads := by
  intro h
  have hacc := h ⟨fun _ => none, fun _ => 7⟩
    (some { prepareLogs := some "dial tcp: connection refused", eventID := fun _ => 1 })
    "acme-corp" [{ clientID := "edge-1" }] (by simp) rfl
  exact Nat.zero_ne_one (hacc.once 0 (by simp))

end SocFabric
