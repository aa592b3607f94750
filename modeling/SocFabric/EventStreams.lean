import SocFabric.QualifiedEvents

/-!
# Subscribers of the qualified-event channel (`core-ingest/main.go`)

Producers put events on `qualifiedEventCh` without waiting, and every `SubscribeToQualifiedEvents`
stream takes them off again, one at a time: it receives an event and then sends it, and a failed
send ends the stream. Streams come and go; a client that reconnects opens a new one. An event
carries the number of its enqueue, which only the statements look at. No number is ever in two
places (`accounted_of_run`), but a number is nowhere to be found after a failed send.
-/

namespace SocFabric
namespace EventStreams
open QualifiedEvents

variable {ε : Type}

inductive Phase (ε : Type)
  | selecting -- in the `select`
  | sending (event : Nat × ε)
  | closed
deriving DecidableEq, Repr

/-- A stream, with the events that it has sent. -/
structure Stream (ε : Type) where
  phase : Phase ε := .selecting
  sent : List (Nat × ε) := []
deriving DecidableEq, Repr

/-- The channel, the number of events put on it so far, and all streams that were ever opened. -/
structure Hub (ε : Type) where
  channel : List (Nat × ε) := []
  enqueued : Nat := 0
  streams : List (Stream ε) := []
deriving DecidableEq, Repr

inductive Act (ε : Type)
  | publish (event : ε)
  | subscribe
  | receive (i : Nat)
  | sendOk (i : Nat)
  | sendErr (i : Nat)
  | contextDone (i : Nat)
deriving DecidableEq, Repr

/-- The step of stream `i` that `act` is, if it is enabled; it may take the head of the channel. -/
def Hub.onStream (s : Hub ε) (i : Nat) (act : Stream ε → Option (Stream ε)) : Option (Hub ε) :=
  s.streams[i]?.bind fun x => (act x).map fun y => { s with streams := s.streams.set i y }

def step (s : Hub ε) : Act ε → Option (Hub ε)
  | .publish event =>
    if s.channel.length < channelCapacity then
      some { s with channel := s.channel ++ [(s.enqueued, event)], enqueued := s.enqueued + 1 }
    else some s -- the channel is full and the event is not put on it
  | .subscribe => some { s with streams := s.streams ++ [{}] }
  | .receive i =>
    match s.channel with
    | [] => none
    | event :: rest =>
      Hub.onStream { s with channel := rest } i fun x =>
        match x.phase with
        | .selecting => some { x with phase := .sending event }
        | .sending _ | .closed => none
  | .sendOk i =>
    s.onStream i fun x =>
      match x.phase with
      | .sending event => some ⟨.selecting, x.sent ++ [event]⟩
      | .selecting | .closed => none
  | .sendErr i =>
    s.onStream i fun x =>
      match x.phase with
      | .sending _ => some { x with phase := .closed }
      | .selecting | .closed => none
  | .contextDone i =>
    s.onStream i fun x =>
      match x.phase with
      | .selecting => some { x with phase := .closed }
      | .sending _ | .closed => none

/-! ### Where the numbers are -/

def Stream.inFlight (x : Stream ε) : List Nat :=
  match x.phase with
  | .sending event => [event.1]
  | .selecting | .closed => []

def Hub.channelNumbers (s : Hub ε) : List Nat := s.channel.map Prod.fst

def Hub.inFlight (s : Hub ε) : List Nat := s.streams.flatMap Stream.inFlight

def Hub.sentNumbers (s : Hub ε) : List Nat := s.streams.flatMap fun x => x.sent.map Prod.fst

/-- Every event that was put on the channel is in it or was sent by exactly one stream, once. -/
def Conserved (s : Hub ε) : Prop :=
  ∀ k < s.enqueued, (k ∈ s.channelNumbers ∧ s.sentNumbers.count k = 0) ∨
    (k ∉ s.channelNumbers ∧ s.sentNumbers.count k = 1)

theorem count_flatMap_set {α : Type} {l : List α} {i : Nat} {x : α} (h : l[i]? = some x) (y : α)
    (f : α → List Nat) (k : Nat) :
    ((l.set i y).flatMap f).count k + (f x).count k = (l.flatMap f).count k + (f y).count k := by
  induction l generalizing i with
  | nil => cases h
  | cons a l ih =>
    cases i with
    | zero =>
      cases h
      rw [List.set_cons_zero, List.flatMap_cons, List.flatMap_cons, List.count_append, List.count_append]
      omega
    | succ i =>
      have htail := ih (i := i) h
      rw [List.set_cons_succ, List.flatMap_cons, List.flatMap_cons, List.count_append, List.count_append]
      omega

/-! ### What a step does -/

variable {s s' : Hub ε} {a : Act ε}

theorem onStream_eq_some {i : Nat} {act : Stream ε → Option (Stream ε)} (h : s.onStream i act = some s') :
    ∃ x y, s.streams[i]? = some x ∧ act x = some y ∧ s' = { s with streams := s.streams.set i y } := by
  obtain ⟨x, hx, h⟩ := Option.bind_eq_some_iff.mp h
  obtain ⟨y, hy, rfl⟩ := Option.map_eq_some_iff.mp h
  exact ⟨x, y, hx, hy, rfl⟩

theorem step_cases (hs : step s a = some s') :
    (∃ event, a = .publish event ∧
      (s' = s ∨ s' = { s with channel := s.channel ++ [(s.enqueued, event)], enqueued := s.enqueued + 1 })) ∨
    (a = .subscribe ∧ s' = { s with streams := s.streams ++ [{}] }) ∨
    (∃ i x event rest, a = .receive i ∧ s.channel = event :: rest ∧ s.streams[i]? = some x ∧ x.phase = .selecting ∧
      s' = { s with channel := rest, streams := s.streams.set i { x with phase := .sending event } }) ∨
    (∃ i x event, a = .sendOk i ∧ s.streams[i]? = some x ∧ x.phase = .sending event ∧
      s' = { s with streams := s.streams.set i ⟨.selecting, x.sent ++ [event]⟩ }) ∨
    (∃ i x event, a = .sendErr i ∧ s.streams[i]? = some x ∧ x.phase = .sending event ∧
      s' = { s with streams := s.streams.set i { x with phase := .closed } }) ∨
    ∃ i x, a = .contextDone i ∧ s.streams[i]? = some x ∧ x.phase = .selecting ∧
      s' = { s with streams := s.streams.set i { x with phase := .closed } } := by
  cases a with
  | publish event =>
    left
    rw [step] at hs
    split_ifs at hs <;> cases hs
    · exact ⟨event, rfl, .inr rfl⟩
    · exact ⟨event, rfl, .inl rfl⟩
  | subscribe =>
    cases hs
    exact .inr (.inl ⟨rfl, rfl⟩)
  | receive i =>
    right; right; left
    rw [step] at hs
    split at hs
    · cases hs
    · rename_i event rest hchannel
      obtain ⟨x, y, hx, hy, rfl⟩ := onStream_eq_some hs
      split at hy <;> cases hy
      rename_i hphase
      exact ⟨i, x, event, rest, rfl, hchannel, hx, hphase, rfl⟩
  | sendOk i =>
    right; right; right; left
    obtain ⟨x, y, hx, hy, rfl⟩ := onStream_eq_some hs
    split at hy <;> cases hy
    rename_i event hphase
    exact ⟨i, x, event, rfl, hx, hphase, rfl⟩
  | sendErr i =>
    right; right; right; right; left
    obtain ⟨x, y, hx, hy, rfl⟩ := onStream_eq_some hs
    split at hy <;> cases hy
    rename_i event hphase
    exact ⟨i, x, event, rfl, hx, hphase, rfl⟩
  | contextDone i =>
    right; right; right; right; right
    obtain ⟨x, y, hx, hy, rfl⟩ := onStream_eq_some hs
    split at hy <;> cases hy
    rename_i hphase
    exact ⟨i, x, rfl, hx, hphase, rfl⟩

/-! ### Accounting -/

/-- The numbers of the failed sends are what is missing. -/
structure Accounted (ops : List (Act ε)) (s : Hub ε) (lost : List Nat) : Prop where
  count : ∀ k, s.channelNumbers.count k + s.inFlight.count k + s.sentNumbers.count k + lost.count k =
    if k < s.enqueued then 1 else 0
  lost : lost = [] ↔ ∀ i, Act.sendErr i ∉ ops

variable {ops : List (Act ε)} {lost : List Nat}

/-- A stream `x` becomes `y`, and the channel changes with it. -/
theorem Accounted.set (h : Accounted ops s lost) {i : Nat} {x : Stream ε}
    (hx : s.streams[i]? = some x) (y : Stream ε)
    (channel : List (Nat × ε)) (hnoerr : ∀ i, a ≠ .sendErr i)
    (hcount : ∀ k, (channel.map Prod.fst).count k + y.inFlight.count k + (y.sent.map Prod.fst).count k =
      s.channelNumbers.count k + x.inFlight.count k + (x.sent.map Prod.fst).count k) :
    Accounted (ops ++ [a]) { s with channel := channel, streams := s.streams.set i y } lost := by
  refine ⟨?_, ?_⟩
  · intro k
    have hinFlight := count_flatMap_set hx y Stream.inFlight k
    have hsent := count_flatMap_set hx y (fun x => x.sent.map Prod.fst) k
    have hold := h.count k
    have hstream := hcount k
    simp only [Hub.channelNumbers, Hub.inFlight, Hub.sentNumbers] at hold hstream ⊢
    omega
  · rw [h.lost]
    have hne (j : Nat) : Act.sendErr j ≠ a := (hnoerr j).symm
    simp [hne]

theorem accounted_step (hs : step s a = some s') (h : Accounted ops s lost) :
    ∃ lost', Accounted (ops ++ [a]) s' lost' := by
  obtain ⟨event, rfl, rfl | rfl⟩ | ⟨rfl, rfl⟩ | ⟨i, x, event, rest, rfl, hchannel, hx, hphase, rfl⟩ |
    ⟨i, x, event, rfl, hx, hphase, rfl⟩ | ⟨i, x, event, rfl, hx, hphase, rfl⟩ | ⟨i, x, rfl, hx, hphase, rfl⟩ :=
    step_cases hs
  · exact ⟨lost, h.count, by simpa using h.lost⟩
  · refine ⟨lost, ?_, by simpa using h.lost⟩
    intro k
    have hold := h.count k
    simp only [Hub.channelNumbers, Hub.inFlight, Hub.sentNumbers, List.map_append, List.map_cons,
      List.map_nil, List.count_append, List.count_singleton, beq_iff_eq] at hold ⊢
    split_ifs at hold ⊢ <;> omega
  · refine ⟨lost, ?_, by simpa using h.lost⟩
    intro k
    have hold := h.count k
    simp only [Hub.channelNumbers, Hub.inFlight, Hub.sentNumbers, List.flatMap_append] at hold ⊢
    simpa [Stream.inFlight] using hold
  · refine ⟨lost, h.set hx _ rest nofun ?_⟩
    intro k
    simp only [Hub.channelNumbers, hchannel, Stream.inFlight, hphase, List.map_cons,
      List.count_cons, List.count_nil]
    omega
  · refine ⟨lost, h.set hx _ s.channel nofun ?_⟩
    intro k
    simp only [Hub.channelNumbers, Stream.inFlight, hphase, List.map_append, List.map_cons, List.map_nil,
      List.count_append, List.count_nil]
    omega
  · refine ⟨event.1 :: lost, ?_, ?_⟩
    · intro k
      have hinFlight := count_flatMap_set hx { x with phase := .closed } Stream.inFlight k
      have hsent := count_flatMap_set hx { x with phase := .closed } (fun x => x.sent.map Prod.fst) k
      have hold := h.count k
      simp only [Hub.channelNumbers, Hub.inFlight, Hub.sentNumbers, Stream.inFlight, hphase, List.count_cons,
        List.count_nil] at hinFlight hsent hold ⊢
      omega
    · refine iff_of_false (List.cons_ne_nil _ _) ?_
      intro hnone
      exact hnone i (List.mem_append_right _ (List.mem_singleton_self _))
  · refine ⟨lost, h.set hx _ s.channel nofun ?_⟩
    intro k
    simp only [Hub.channelNumbers, Stream.inFlight, hphase]

theorem accounted_of_run (h : Lts.run step Lts.free {} ops = some s) : ∃ lost, Accounted ops s lost := by
  refine Lts.run_invariant h (I := fun ops s => ∃ lost, Accounted ops s lost) ?_ ?_
  · exact ⟨[], fun k => rfl, by simp⟩
  · rintro ops s s' a - hs ⟨lost, hlost⟩
    exact accounted_step hs hlost

/-! ### Conservation -/

theorem Accounted.nothing_lost_iff (h : Accounted ops s lost) : Conserved s ↔ lost = [] ∧ s.inFlight = [] := by
  constructor
  · intro hc
    have hnone (k : Nat) : lost.count k = 0 ∧ s.inFlight.count k = 0 := by
      have hk := h.count k
      by_cases hlt : k < s.enqueued
      · rw [if_pos hlt] at hk
        rcases hc k hlt with ⟨hin, hsent⟩ | ⟨hout, hsent⟩
        · have hpos := List.count_pos_iff.mpr hin
          omega
        · omega
      · rw [if_neg hlt] at hk
        omega
    refine ⟨List.eq_nil_iff_forall_not_mem.mpr ?_, List.eq_nil_iff_forall_not_mem.mpr ?_⟩
    · exact fun k => List.count_eq_zero.mp (hnone k).1
    · exact fun k => List.count_eq_zero.mp (hnone k).2
  · rintro ⟨rfl, hflight⟩ k hlt
    have hk := h.count k
    rw [if_pos hlt, hflight, List.count_nil] at hk
    by_cases hin : k ∈ s.channelNumbers
    · have hpos := List.count_pos_iff.mpr hin
      exact .inl ⟨hin, by omega⟩
    · have hzero := List.count_eq_zero.mpr hin
      exact .inr ⟨hin, by omega⟩

/-- In every run, the events that were put on the channel are conserved exactly if no send has
failed and no stream is between its receive and the end of its send; and none is ever sent twice. -/
theorem conserved_iff (h : Lts.run step Lts.free {} ops = some s) :
    (Conserved s ↔ (∀ i, Act.sendErr i ∉ ops) ∧ s.inFlight = []) ∧ s.sentNumbers.Nodup := by
  obtain ⟨lost, hlost⟩ := accounted_of_run h
  refine ⟨by rw [hlost.nothing_lost_iff, hlost.lost], ?_⟩
  rw [List.nodup_iff_count]
  intro k
  have hk := hlost.count k
  split_ifs at hk <;> omega

/-- A stream receives an event and fails to send it; the client reconnects. -/
def failedSend : List (Act String) := [.publish "event", .subscribe, .receive 0, .sendErr 0, .subscribe]

def failedSendHub : Hub String := ⟨[], 1, [⟨.closed, []⟩, ⟨.selecting, []⟩]⟩

theorem failedSend_runs : Lts.run step Lts.free {} failedSend = some failedSendHub := by
  decide

theorem conserved_failedSend : (Conserved failedSendHub ↔ (∀ i, Act.sendErr i ∉ failedSend) ∧ failedSendHub.inFlight = []) ∧
    failedSendHub.sentNumbers.Nodup :=
  conserved_iff failedSend_runs

theorem failedSend_not_conserved : ¬ ∀ (ops : List (Act String)) (s : Hub String),
    Lts.run step Lts.free {} ops = some s → Conserved s := by
  intro h
  rcases h _ _ failedSend_runs 0 Nat.zero_lt_one with ⟨hin, -⟩ | ⟨-, hsent⟩
  · exact absurd hin (by decide)
  · exact absurd hsent (by decide)

end EventStreams
end SocFabric
