import SocFabric.EvidenceStream

/-!
# The frames of the evidence stream (`core-ingest/main.go`)

What a client of `FetchAlertContext` receives, whichever rows scan and whichever `Send` fails: frames
numbered from 1 on, all but the last with exactly a hundred events (`Framed`). Every prefix of a
framing is one again, and the loop sends a prefix of the framing of its rows, cut before the first
`Send` that fails (`evidence_stream_framed`).
-/

namespace SocFabric.Evidence

/-! ### Framings -/

/-- Responses numbered from `i` on; one with another after it is full, and none is empty. -/
structure Framed (i : Nat) (rs : List LogContextResponse) : Prop where
  indices : rs.map (·.currentBatchIndex) = List.range' i rs.length
  full : ∀ before r after, rs = before ++ r :: after → after ≠ [] → r.events.length = 100
  size : ∀ r ∈ rs, 1 ≤ r.events.length ∧ r.events.length ≤ 100

section
variable {i : Nat} {rs rs' : List LogContextResponse} {events : List SecurityEventDetail}

theorem Framed.of_append (h : Framed i (rs ++ rs')) : Framed i rs where
  indices := by
    have hindices := h.indices
    rw [List.map_append, List.length_append, List.range'_append_1.symm] at hindices
    exact (List.append_inj hindices (by simp)).1
  full before r after hsplit hne := by
    refine h.full before r (after ++ rs') ?_ ?_
    · rw [hsplit, List.append_assoc, List.cons_append]
    · simp [hne]
  size r hr := h.size r (List.mem_append_left rs' hr)

/-- A response that is followed by others is full. -/
theorem framed_frames (i : Nat) (events : List SecurityEventDetail) : Framed i (frames i events) := by
  induction i, events using frames.induct with
  | case1 i =>
    rw [frames_nil]
    exact ⟨rfl, by simp, by simp⟩
  | case2 i events hne ih =>
    have hpos := List.length_pos_iff.mpr hne
    have hlen : (events.take batchSize).length = min 100 events.length := List.length_take
    have hnext : frames (i + 1) (events.drop batchSize) ≠ [] → 100 < events.length := by
      intro h
      by_contra hle
      rw [List.drop_eq_nil_of_le (by rw [batchSize]; omega), frames_nil] at h
      exact h rfl
    rw [frames, if_neg hne]
    refine ⟨?_, ?_, ?_⟩
    · rw [List.map_cons, ih.indices, List.length_cons, List.range'_succ]
      rfl
    · intro before r after hsplit hafter
      cases before with
      | nil =>
        obtain ⟨rfl, hafter'⟩ := List.cons.inj hsplit
        have hmore := hnext (hafter' ▸ hafter)
        change (events.take batchSize).length = 100
        omega
      | cons r' before =>
        exact ih.full before r after (List.cons.inj hsplit).2 hafter
    · intro r hr
      rcases List.mem_cons.mp hr with rfl | hr
      · change 1 ≤ (events.take batchSize).length ∧ (events.take batchSize).length ≤ 100
        omega
      · exact ih.size r hr

/-! ### Sending -/

variable {send : Nat → Option Status} {err : Status} {r : LogContextResponse}

theorem sendAll_of_ok (h : ∀ r ∈ rs, send r.currentBatchIndex = none) :
    sendAll send rs = { responses := rs } := by
  induction rs with
  | nil => rfl
  | cons r rs ih =>
    obtain ⟨hr, hrs⟩ := List.forall_mem_cons.mp h
    rw [sendAll, hr, ih hrs]
    rfl

/-- The first `Send` that fails ends the call with its error. -/
theorem sendAll_of_failure (h : ∀ r ∈ rs, send r.currentBatchIndex = none)
    (hr : send r.currentBatchIndex = some err) :
    sendAll send (rs ++ r :: rs') = { responses := rs, status := some err } := by
  induction rs with
  | nil =>
    rw [List.nil_append, sendAll, hr]
  | cons r' rs ih =>
    obtain ⟨hr', hrs⟩ := List.forall_mem_cons.mp h
    rw [List.cons_append, sendAll, hr', ih hrs]
    rfl

theorem sendAll_prefix (send : Nat → Option Status) (rs : List LogContextResponse) :
    (sendAll send rs).responses <+: rs := by
  induction rs with
  | nil => exact List.nil_prefix
  | cons r rs ih =>
    rw [sendAll]
    cases send r.currentBatchIndex with
    | some err => exact List.nil_prefix
    | none => exact (List.prefix_cons_inj r).mpr ih

/-- A response of a framing has the number of its place. -/
theorem Framed.index_getElem (h : Framed i rs) {k : Nat} (hk : k < rs.length) :
    rs[k].currentBatchIndex = i + k := by
  have hmap : (rs.map (·.currentBatchIndex))[k]? = (List.range' i rs.length)[k]? := by rw [h.indices]
  rw [List.getElem?_map, List.getElem?_eq_getElem hk, List.getElem?_range' hk, one_mul] at hmap
  exact Option.some.inj hmap

theorem sendAll_of_framed (h : Framed 1 rs) (hlow : 1 ≤ i) (hhigh : i ≤ rs.length)
    (hsend : send i = some err) (hbefore : ∀ j, 1 ≤ j → j < i → send j = none) :
    sendAll send rs = { responses := rs.take (i - 1), status := some err } := by
  have hlt : i - 1 < rs.length := by omega
  have hsplit : rs = rs.take (i - 1) ++ rs[i - 1] :: rs.drop (i - 1 + 1) := by
    rw [List.cons_getElem_drop_succ, List.take_append_drop]
  have hindex : rs[i - 1].currentBatchIndex = i := by
    rw [h.index_getElem hlt]
    omega
  have hok : ∀ r ∈ rs.take (i - 1), send r.currentBatchIndex = none := by
    intro r hr
    obtain ⟨k, hk, rfl⟩ := List.mem_iff_getElem.mp hr
    rw [List.length_take] at hk
    rw [List.getElem_take, h.index_getElem (by omega)]
    exact hbefore (1 + k) (by omega) (by omega)
  calc sendAll send rs = sendAll send (rs.take (i - 1) ++ rs[i - 1] :: rs.drop (i - 1 + 1)) := by
        rw [← hsplit]
    _ = { responses := rs.take (i - 1), status := some err } :=
        sendAll_of_failure hok (by rw [hindex, hsend])

end

/-! ### The call -/

/-- What the call sends if no `Send` fails. -/
def framing (rows : List (Option ScannedRow)) : List LogContextResponse :=
  (streamRows (fun _ => none) rows [] 1).responses

theorem framing_eq (rows : List (Option ScannedRow)) :
    framing rows = frames 1 (rows.reduceOption.map eventDetail) := by
  rw [framing, streamRows_eq rows (by decide), List.nil_append, sendAll_of_ok fun _ _ => rfl]

theorem streamRows_eq_sendAll (send : Nat → Option Status) (rows : List (Option ScannedRow)) :
    streamRows send rows [] 1 = sendAll send (framing rows) := by
  rw [framing_eq, streamRows_eq rows (by decide), List.nil_append]

theorem framed_framing (rows : List (Option ScannedRow)) : Framed 1 (framing rows) := by
  rw [framing_eq]
  exact framed_frames 1 _

theorem framed_streamRows (send : Nat → Option Status) (rows : List (Option ScannedRow)) :
    Framed 1 (streamRows send rows [] 1).responses := by
  obtain ⟨rest, hrest⟩ := sendAll_prefix send (framing rows)
  rw [streamRows_eq_sendAll]
  exact Framed.of_append (hrest ▸ framed_framing rows)

theorem evidence_stream_framed (lib : UuidLib) (run : ServerRun) (request : LogContextRequest)
    (md : Metadata) :
    Framed 1 (serveAlertContext lib run request md).responses ∧
    ∀ set, openRows lib run request md = .rows set →
      ((∀ i, 1 ≤ i → i ≤ (framing set.rows).length → run.send i = none) →
        (serveAlertContext lib run request md).status = none ∧
        (serveAlertContext lib run request md).responses.flatMap (·.events) =
          set.rows.reduceOption.map eventDetail) ∧
      ∀ i err, 1 ≤ i → i ≤ (framing set.rows).length → run.send i = some err →
        (∀ j, 1 ≤ j → j < i → run.send j = none) →
        serveAlertContext lib run request md =
          { responses := (framing set.rows).take (i - 1), status := some err } := by
  constructor
  · unfold serveAlertContext
    split
    · exact ⟨rfl, by simp, by simp⟩
    · exact ⟨rfl, by simp, by simp⟩
    · exact framed_streamRows run.send _
  · intro set hopen
    have hserve : serveAlertContext lib run request md = sendAll run.send (framing set.rows) := by
      rw [serveAlertContext, hopen]
      exact streamRows_eq_sendAll run.send set.rows
    rw [hserve]
    constructor
    · intro hsend
      have hok : ∀ r ∈ framing set.rows, run.send r.currentBatchIndex = none := by
        intro r hr
        obtain ⟨k, hk, rfl⟩ := List.mem_iff_getElem.mp hr
        rw [(framed_framing set.rows).index_getElem hk]
        exact hsend (1 + k) (by omega) (by omega)
      rw [sendAll_of_ok hok]
      exact ⟨rfl, by rw [framing_eq, flatMap_frames]⟩
    · intro i err hlow hhigh hsend hbefore
      exact sendAll_of_framed (framed_framing set.rows) hlow hhigh hsend hbefore

theorem length_framing (rows : List (Option ScannedRow)) :
    (framing rows).length = batches rows.reduceOption.length := by
  have hindices : (framing rows).map (·.currentBatchIndex) =
      List.range' 1 (batches (rows.reduceOption.map eventDetail).length) := by
    rw [framing_eq, map_index_frames]
  have hlength := congrArg List.length hindices
  rwa [List.length_map, List.length_range', List.length_map] at hlength

def heartbeatRow : ScannedRow where
  eventID := 1
  timestamp := ⟨1767225600000000000, 0⟩
  clientIP := "192.168.1.105"
  userID := "system"
  actionExecuted := "heartbeat"
  riskScore := 5
  destIP := ""
  destPort := 0
  protocol := ""
  dnsDomain := ""
  flowID := ""
  bytesOut := 0
  bytesIn := 0
  packetsOut := 0
  packetsIn := 0
  flowDuration := 0

/-- A row that does not scan and 101 that do, to a client that hangs up after the first response. -/
def hangUp : ServerRun where
  internalServiceKey := "service-key"
  query _ := .ok ⟨none :: List.replicate 101 (some heartbeatRow), none⟩
  send i := if i = 2 then some ⟨"Unavailable", "transport is closing"⟩ else none

theorem hangUp_framed :
    serveAlertContext sampleUuidLib hangUp ⟨[], 200⟩
        [("x-internal-service-key", "service-key"), ("x-tenant-id", "default")] =
      { responses := (framing (none :: List.replicate 101 (some heartbeatRow))).take 1
        status := some ⟨"Unavailable", "transport is closing"⟩ } := by
  have hopen : openRows sampleUuidLib hangUp ⟨[], 200⟩
      [("x-internal-service-key", "service-key"), ("x-tenant-id", "default")] =
        .rows ⟨none :: List.replicate 101 (some heartbeatRow), none⟩ := rfl
  refine ((evidence_stream_framed _ _ _ _).2 _ hopen).2 2 _ (by decide) ?_ rfl ?_
  · rw [length_framing]
    decide
  · intro j hlow hhigh
    exact if_neg (by omega)

end SocFabric.Evidence
