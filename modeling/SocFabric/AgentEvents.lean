import SocFabric.Lib.BoundedQueue
import SocFabric.Lib.Lts
import SocFabric.Triage

/-!
# The agent event bus (`soc-backend/Infrastructure/AgentEvents.py`)

`AgentEventBus` keeps a history of 500 events and puts every event on the queue of every subscriber,
at most 100 on each; a full queue loses its oldest event. A run is a sequence of calls, each with
what it returns. The bus is a product of subscriptions that do not see each other: a queue is what
one subscription alone would make of the emits and its own calls (`feed_of_run`), and it always
holds the end of what was emitted while it was subscribed.
-/

namespace SocFabric
namespace AgentEvents
open BoundedQueue

variable {ε : Type}

def maxHistory : Nat := 500

def queueSize : Nat := 100

/-- The bus, with all queues that were ever made: a queue is known by its number. -/
structure Bus (ε : Type) where
  history : List ε := []
  subscribers : List Nat := []
  queues : List (List ε) := []
deriving DecidableEq, Repr

namespace Bus

/-- The body of the loop of `emit`. The put is in a `try`, so that an error would leave the queue as
the get before it has made it. -/
def broadcast (e : ε) (queue : List ε) : List ε :=
  let queue := if full queueSize queue then queue.tail else queue
  (putNowait queueSize queue e).getD queue

def emit (s : Bus ε) (e : ε) : Bus ε :=
  { s with
    history := push maxHistory s.history e
    queues := forEach s.subscribers (broadcast e) s.queues }

def subscribe (s : Bus ε) : Bus ε :=
  { s with
    subscribers := s.subscribers ++ [s.queues.length]
    queues := s.queues ++ [[]] }

def unsubscribe (s : Bus ε) (q : Nat) : Bus ε :=
  if q ∈ s.subscribers then { s with subscribers := s.subscribers.erase q } else s

end Bus

/-- A call of the bus, or a get of a subscriber, with what it returns. -/
inductive Op (ε : Type)
  | emit (e : ε)
  | subscribe (q : Nat)
  | unsubscribe (q : Nat)
  | getHistory (events : List ε)
  | get (q : Nat) (e : ε)
deriving DecidableEq, Repr

/-- `none` where the call does not return this; a get of an empty queue waits. -/
def step [DecidableEq ε] (s : Bus ε) : Op ε → Option (Bus ε)
  | .emit e => some (s.emit e)
  | .subscribe q => if q = s.queues.length then some s.subscribe else none
  | .unsubscribe q => if q < s.queues.length then some (s.unsubscribe q) else none
  | .getHistory events => if events = s.history then some s else none
  | .get q e =>
    match s.queues[q]? with
    | some (e' :: rest) => if e' = e then some { s with queues := s.queues.set q rest } else none
    | some [] | none => none

/-! ### One subscription -/

/-- What a queue goes through: it is made, events are put on it as long as it is subscribed, and its
owner takes events from it. -/
structure Feed (ε : Type) where
  subscribed : Bool
  queue : List ε
deriving DecidableEq, Repr

/-- One call, as far as queue `q` is concerned. -/
def Feed.step (q : Nat) : Option (Feed ε) → Op ε → Option (Feed ε)
  | none, .subscribe q' => if q' = q then some ⟨true, []⟩ else none
  | some f, .emit e => some (if f.subscribed then { f with queue := push queueSize f.queue e } else f)
  | some f, .unsubscribe q' => some (if q' = q then { f with subscribed := false } else f)
  | some f, .get q' _ => some (if q' = q then { f with queue := f.queue.tail } else f)
  | f, _ => f

def feed (q : Nat) (ops : List (Op ε)) : Option (Feed ε) := ops.foldl (Feed.step q) none

def Bus.feed (s : Bus ε) (q : Nat) : Option (Feed ε) := s.queues[q]?.map (⟨decide (q ∈ s.subscribers), ·⟩)

/-! ### The bus as a product of subscriptions -/

structure Bus.Wf (s : Bus ε) : Prop where
  nodup : s.subscribers.Nodup
  made : ∀ q ∈ s.subscribers, q < s.queues.length
  bounded : ∀ queue ∈ s.queues, queue.length ≤ queueSize

theorem broadcast_eq_push {queue : List ε} (h : queue.length ≤ queueSize) (e : ε) :
    Bus.broadcast e queue = push queueSize queue e := by
  simp only [Bus.broadcast]
  by_cases hfull : queue.length = queueSize
  · have htail : queue.tail.length < queueSize := by
      rw [List.length_tail, hfull]
      decide
    rw [full, decide_eq_true (le_of_eq hfull.symm), if_pos rfl, putNowait_of_length_lt htail, push,
      List.rtake, List.length_append, hfull]
    cases queue with
    | nil => cases hfull
    | cons e' rest => rfl
  · have hlt : queue.length < queueSize := lt_of_le_of_ne h hfull
    rw [full, decide_eq_false (by omega)]
    simp only [Bool.false_eq_true, if_false]
    rw [putNowait_of_length_lt hlt, push_of_length_lt hlt]
    rfl

theorem feed_emit {s : Bus ε} (h : s.Wf) (q : Nat) (e : ε) :
    (s.emit e).feed q = Feed.step q (s.feed q) (.emit e) := by
  unfold Bus.feed Bus.emit
  rw [getElem?_forEach h.nodup]
  cases hq : s.queues[q]? with
  | none => simp [Feed.step]
  | some queue =>
    have hlen : queue.length ≤ queueSize := h.bounded queue (List.mem_of_getElem? hq)
    by_cases hmem : q ∈ s.subscribers <;> simp [Feed.step, hmem, broadcast_eq_push hlen]

theorem feed_subscribe (s : Bus ε) (q : Nat) :
    s.subscribe.feed q = Feed.step q (s.feed q) (.subscribe s.queues.length) := by
  unfold Bus.feed Bus.subscribe
  rcases lt_trichotomy q s.queues.length with hlt | rfl | hgt
  · have hne : q ≠ s.queues.length := hlt.ne
    simp [Feed.step, List.getElem?_append_left hlt, List.getElem?_eq_getElem hlt, hne]
  · simp [Feed.step]
  · have hnone : (s.queues ++ [[]])[q]? = none := by
      rw [List.getElem?_eq_none_iff, List.length_append]
      exact hgt
    rw [hnone, List.getElem?_eq_none hgt.le]
    simp [Feed.step, hgt.ne]

theorem queues_unsubscribe (s : Bus ε) (q : Nat) : (s.unsubscribe q).queues = s.queues := by
  unfold Bus.unsubscribe
  split_ifs <;> rfl

theorem history_unsubscribe (s : Bus ε) (q : Nat) : (s.unsubscribe q).history = s.history := by
  unfold Bus.unsubscribe
  split_ifs <;> rfl

theorem mem_unsubscribe {s : Bus ε} (h : s.subscribers.Nodup) {q q' : Nat} :
    q ∈ (s.unsubscribe q').subscribers ↔ q ≠ q' ∧ q ∈ s.subscribers := by
  unfold Bus.unsubscribe
  split_ifs with hin
  · exact h.mem_erase_iff
  · constructor
    · exact fun hq => ⟨fun heq => hin (heq ▸ hq), hq⟩
    · exact And.right

theorem feed_unsubscribe {s : Bus ε} (h : s.Wf) (q q' : Nat) :
    (s.unsubscribe q').feed q = Feed.step q (s.feed q) (.unsubscribe q') := by
  have hmem : q ∈ (s.unsubscribe q').subscribers ↔ q ≠ q' ∧ q ∈ s.subscribers := mem_unsubscribe h.nodup
  unfold Bus.feed
  rw [queues_unsubscribe]
  cases s.queues[q]? with
  | none => rfl
  | some queue =>
    by_cases hq : q' = q
    · subst hq
      simp [Feed.step, hmem]
    · simp [Feed.step, hmem, hq, Ne.symm hq]

theorem feed_set {s : Bus ε} {q' : Nat} {e : ε} {rest : List ε}
    (hq' : s.queues[q']? = some (e :: rest)) (q : Nat) :
    Bus.feed { s with queues := s.queues.set q' rest } q = Feed.step q (s.feed q) (.get q' e) := by
  unfold Bus.feed
  rw [List.getElem?_set]
  by_cases hq : q' = q
  · subst hq
    obtain ⟨hlt, hget⟩ := List.getElem?_eq_some_iff.mp hq'
    simp [Feed.step, hget, hlt]
  · cases s.queues[q]? <;> simp [Feed.step, hq]

theorem wf_empty : ({} : Bus ε).Wf :=
  ⟨List.nodup_nil, fun _ h => absurd h List.not_mem_nil, fun _ h => absurd h List.not_mem_nil⟩

/-- A loop over the subscribers' queues that keeps them within their bound. -/
theorem wf_forEach {s : Bus ε} (h : s.Wf) {put : List ε → List ε}
    (hput : ∀ queue : List ε, queue.length ≤ queueSize → (put queue).length ≤ queueSize) (history : List ε) :
    Bus.Wf { s with history := history, queues := forEach s.subscribers put s.queues } := by
  refine ⟨h.nodup, ?_, ?_⟩
  · intro q hq
    rw [length_forEach]
    exact h.made q hq
  · intro queue hqueue
    obtain ⟨q, hq⟩ := List.mem_iff_getElem?.mp hqueue
    rw [getElem?_forEach h.nodup] at hq
    split_ifs at hq
    · obtain ⟨before, hbefore, rfl⟩ := Option.map_eq_some_iff.mp hq
      exact hput before (h.bounded before (List.mem_of_getElem? hbefore))
    · exact h.bounded queue (List.mem_of_getElem? hq)

theorem wf_emit {s : Bus ε} (h : s.Wf) (e : ε) : (s.emit e).Wf := by
  refine wf_forEach h ?_ _
  intro queue hqueue
  rw [broadcast_eq_push hqueue]
  exact length_push_le _ _ _

theorem wf_subscribe {s : Bus ε} (h : s.Wf) : s.subscribe.Wf := by
  unfold Bus.subscribe
  refine ⟨?_, ?_, ?_⟩
  · refine List.Nodup.append h.nodup (List.nodup_singleton _) ?_
    rw [List.disjoint_singleton]
    exact fun hmem => lt_irrefl _ (h.made _ hmem)
  · intro q hq
    rw [List.length_append]
    rcases List.mem_append.mp hq with hq | hq
    · exact Nat.lt_succ_of_lt (h.made q hq)
    · rw [List.mem_singleton.mp hq]
      exact Nat.lt_succ_self _
  · intro queue hqueue
    rcases List.mem_append.mp hqueue with hqueue | hqueue
    · exact h.bounded queue hqueue
    · rw [List.mem_singleton.mp hqueue]
      exact Nat.zero_le _

theorem wf_unsubscribe {s : Bus ε} (h : s.Wf) (q : Nat) : (s.unsubscribe q).Wf := by
  unfold Bus.unsubscribe
  split_ifs
  · exact ⟨h.nodup.erase q, fun q' hq' => h.made q' (List.mem_of_mem_erase hq'), h.bounded⟩
  · exact h

theorem wf_set {s : Bus ε} (h : s.Wf) {q : Nat} {e : ε} {rest : List ε}
    (hq : s.queues[q]? = some (e :: rest)) :
    Bus.Wf { s with queues := s.queues.set q rest } := by
  refine ⟨h.nodup, ?_, ?_⟩
  · intro q' hq'
    rw [List.length_set]
    exact h.made q' hq'
  · intro queue hqueue
    rcases List.mem_or_eq_of_mem_set hqueue with hqueue | rfl
    · exact h.bounded queue hqueue
    · exact Nat.le_of_succ_le (h.bounded _ (List.mem_of_getElem? hq))

/-! ### What a queue holds -/

def emitted (ops : List (Op ε)) : List ε :=
  ops.filterMap fun
    | .emit e => some e
    | .subscribe _ | .unsubscribe _ | .getHistory _ | .get _ _ => none

def consumed (q : Nat) (ops : List (Op ε)) : List ε :=
  ops.filterMap fun
    | .get q' e => if q' = q then some e else none
    | .emit _ | .subscribe _ | .unsubscribe _ | .getHistory _ => none

theorem emitted_append (ops ops' : List (Op ε)) : emitted (ops ++ ops') = emitted ops ++ emitted ops' :=
  List.filterMap_append

theorem consumed_append (q : Nat) (ops ops' : List (Op ε)) :
    consumed q (ops ++ ops') = consumed q ops ++ consumed q ops' :=
  List.filterMap_append

/-- `queue` is an end of `events`, and everything in `taken` stands before it there. -/
structure Holds (events taken queue : List ε) : Prop where
  bounded : queue.length ≤ queueSize
  suffix : ∃ k ≤ events.length, queue = events.drop k ∧ taken.Sublist (events.take k)

namespace Holds
variable {events taken queue : List ε} {e : ε}

theorem nil : Holds ([] : List ε) [] [] := ⟨Nat.zero_le _, 0, le_rfl, rfl, List.nil_sublist _⟩

theorem push (h : Holds events taken queue) (e : ε) :
    Holds (events ++ [e]) taken (BoundedQueue.push queueSize queue e) := by
  obtain ⟨k, hk, rfl, htaken⟩ := h.suffix
  have hend : events.drop k ++ [e] = (events ++ [e]).drop k := (List.drop_append_of_le_length hk).symm
  refine ⟨length_push_le _ _ _, k + ((events ++ [e]).drop k).length.sub queueSize, ?_, ?_, ?_⟩
  · rw [List.length_drop, List.length_append, List.length_singleton]
    show k + (events.length + 1 - k - queueSize) ≤ _
    omega
  · rw [BoundedQueue.push, hend, List.rtake, List.drop_drop]
    rfl
  · refine htaken.trans ?_
    have htake : (events ++ [e]).take k = events.take k := List.take_append_of_le_length hk
    rw [← htake]
    exact (List.take_prefix_take_left (Nat.le_add_right _ _)).sublist

theorem pop (h : Holds events taken (e :: queue)) : Holds events (taken ++ [e]) queue := by
  obtain ⟨k, hk, hqueue, htaken⟩ := h.suffix
  have hlt : k < events.length := by
    have hlen := congrArg List.length hqueue
    rw [List.length_cons, List.length_drop] at hlen
    omega
  rw [List.drop_eq_getElem_cons hlt, List.cons.injEq] at hqueue
  refine ⟨Nat.le_of_succ_le h.bounded, k + 1, hlt, hqueue.2, ?_⟩
  rw [List.take_succ_eq_append_getElem hlt, hqueue.1]
  exact htaken.append (List.Sublist.refl _)

end Holds

/-! ### Runs -/

variable [DecidableEq ε]

theorem step_cases {s s' : Bus ε} {a : Op ε} (hs : step s a = some s') :
    (∃ e, a = .emit e ∧ s' = s.emit e) ∨
    (a = .subscribe s.queues.length ∧ s' = s.subscribe) ∨
    (∃ q, a = .unsubscribe q ∧ q < s.queues.length ∧ s' = s.unsubscribe q) ∨
    (a = .getHistory s.history ∧ s' = s) ∨
    ∃ q e rest, a = .get q e ∧ s.queues[q]? = some (e :: rest) ∧
      s' = { s with queues := s.queues.set q rest } := by
  cases a with
  | emit e => exact .inl ⟨e, rfl, (Option.some.inj hs).symm⟩
  | subscribe q =>
    rw [step, Option.ite_none_right_eq_some] at hs
    obtain ⟨rfl, ⟨⟩⟩ := hs
    exact .inr (.inl ⟨rfl, rfl⟩)
  | unsubscribe q =>
    rw [step, Option.ite_none_right_eq_some] at hs
    obtain ⟨hq, ⟨⟩⟩ := hs
    exact .inr (.inr (.inl ⟨q, rfl, hq, rfl⟩))
  | getHistory events =>
    rw [step, Option.ite_none_right_eq_some] at hs
    obtain ⟨rfl, ⟨⟩⟩ := hs
    exact .inr (.inr (.inr (.inl ⟨rfl, rfl⟩)))
  | get q e =>
    rw [step] at hs
    split at hs
    · rename_i e' rest hq
      rw [Option.ite_none_right_eq_some] at hs
      obtain ⟨rfl, ⟨⟩⟩ := hs
      exact .inr (.inr (.inr (.inr ⟨q, e', rest, rfl, hq, rfl⟩)))
    · cases hs
    · cases hs

/-- One step of the bus is, for each queue, one step of its subscription. -/
theorem feed_step {s s' : Bus ε} {a : Op ε} (h : s.Wf) (hs : step s a = some s') (q : Nat) :
    s'.feed q = Feed.step q (s.feed q) a := by
  obtain ⟨e, rfl, rfl⟩ | ⟨rfl, rfl⟩ | ⟨q', rfl, -, rfl⟩ | ⟨rfl, rfl⟩ | ⟨q', e, rest, rfl, hq', rfl⟩ := step_cases hs
  · exact feed_emit h q e
  · exact feed_subscribe s q
  · exact feed_unsubscribe h q q'
  · cases s'.feed q <;> rfl
  · exact feed_set hq' q

theorem wf_step {s s' : Bus ε} {a : Op ε} (hs : step s a = some s') (h : s.Wf) : s'.Wf := by
  obtain ⟨e, -, rfl⟩ | ⟨-, rfl⟩ | ⟨q, -, -, rfl⟩ | ⟨-, rfl⟩ | ⟨q, e, rest, -, hq, rfl⟩ := step_cases hs
  · exact wf_emit h e
  · exact wf_subscribe h
  · exact wf_unsubscribe h q
  · exact h
  · exact wf_set h hq

theorem feed_of_run {ops : List (Op ε)} {s : Bus ε} (h : Lts.run step Lts.free {} ops = some s) (q : Nat) :
    s.feed q = feed q ops := by
  refine (Lts.run_invariant h (I := fun ops s => s.Wf ∧ s.feed q = feed q ops) ⟨wf_empty, rfl⟩ ?_).2
  intro ops s s' a _ hs ih
  rw [feed, List.foldl_append, ← feed, ← ih.2]
  exact ⟨wf_step hs ih.1, feed_step ih.1 hs q⟩

/-- What comes from the subscription of `q` on. -/
def life (q : Nat) (ops : List (Op ε)) : List (Op ε) := ops.dropWhile (· ≠ .subscribe q)

/-- The events that are emitted while `q` is subscribed. -/
def emittedTo (q : Nat) (ops : List (Op ε)) : List ε :=
  emitted ((life q ops).takeWhile (· ≠ .unsubscribe q))

theorem life_concat (q : Nat) (ops : List (Op ε)) (a : Op ε) :
    life q (ops ++ [a]) =
      if life q ops = [] then (if a = .subscribe q then [a] else []) else life q ops ++ [a] := by
  unfold life
  rw [List.dropWhile_append]
  by_cases h : ops.dropWhile (· ≠ .subscribe q) = []
  · rw [h, if_pos List.isEmpty_nil, if_pos rfl]
    by_cases ha : a = .subscribe q <;> simp [ha]
  · rw [if_neg h, if_neg (mt List.isEmpty_iff.mp h)]

theorem takeWhile_ne_of_not_mem {l : List (Op ε)} {b : Op ε} (h : b ∉ l) : l.takeWhile (· ≠ b) = l := by
  rw [List.takeWhile_eq_self_iff]
  intro a ha
  rw [decide_eq_true_iff]
  rintro rfl
  exact h ha

theorem takeWhile_ne_append_of_mem {l r : List (Op ε)} {b : Op ε} (h : b ∈ l) :
    (l ++ r).takeWhile (· ≠ b) = l.takeWhile (· ≠ b) := by
  rw [List.takeWhile_append, if_neg]
  intro hlen
  have hall := List.takeWhile_eq_self_iff.mp ((List.takeWhile_prefix (· ≠ b)).eq_of_length hlen)
  simpa using hall b h

theorem emittedTo_concat {q : Nat} {ops : List (Op ε)} (h : life q ops ≠ []) (a : Op ε) :
    emittedTo q (ops ++ [a]) =
      if .unsubscribe q ∈ life q ops then emittedTo q ops else emittedTo q ops ++ emitted [a] := by
  rw [emittedTo, emittedTo, life_concat, if_neg h]
  split_ifs with hl
  · rw [takeWhile_ne_append_of_mem hl]
  · have hall := takeWhile_ne_of_not_mem hl
    rw [List.takeWhile_append_of_pos (List.takeWhile_eq_self_iff.mp hall), hall, emitted_append]
    by_cases ha : a = .unsubscribe q <;> simp [ha, emitted]

/-- A subscription as the calls so far have left it. -/
inductive Tracked (q : Nat) (ops : List (Op ε)) : Option (Feed ε) → Prop
  | absent : life q ops = [] → consumed q ops = [] → Tracked q ops none
  | present {f : Feed ε} : life q ops ≠ [] → (f.subscribed = true ↔ .unsubscribe q ∉ life q ops) →
      Holds (emittedTo q ops) (consumed q ops) f.queue → Tracked q ops (some f)

/-- A call that does not concern a queue that is there. -/
theorem Tracked.skip {q : Nat} {ops : List (Op ε)} {f : Feed ε} {a : Op ε} (h : Tracked q ops (some f))
    (hunsub : a ≠ .unsubscribe q) (hconsumed : consumed q [a] = [])
    (hemitted : f.subscribed = true → emitted [a] = []) : Tracked q (ops ++ [a]) (some f) := by
  cases h with
  | present hlife hsub hholds =>
    have hlife' : life q (ops ++ [a]) = life q ops ++ [a] := by rw [life_concat, if_neg hlife]
    have hemittedTo : emittedTo q (ops ++ [a]) = emittedTo q ops := by
      rw [emittedTo_concat hlife]
      split_ifs with hl
      · rfl
      · rw [hemitted (hsub.mpr hl), List.append_nil]
    refine .present (by simp [hlife']) ?_ ?_
    · rw [hsub, hlife', List.mem_append, List.mem_singleton]
      simp [Ne.symm hunsub]
    · rw [hemittedTo, consumed_append, hconsumed, List.append_nil]
      exact hholds

theorem Tracked.wait {q : Nat} {ops : List (Op ε)} {a : Op ε} (h : Tracked q ops none)
    (hsub : a ≠ .subscribe q) (hconsumed : consumed q [a] = []) : Tracked q (ops ++ [a]) none := by
  cases h with
  | absent hlife hnone =>
    refine .absent ?_ ?_
    · rw [life_concat, if_pos hlife, if_neg hsub]
    · rw [consumed_append, hnone, hconsumed]
      rfl

theorem Tracked.subscribe {q : Nat} {ops : List (Op ε)} (h : Tracked q ops none) :
    Tracked q (ops ++ [.subscribe q]) (some ⟨true, []⟩) := by
  cases h with
  | absent hlife hnone =>
    have hlife' : life q (ops ++ [.subscribe q]) = [.subscribe q] := by rw [life_concat, if_pos hlife, if_pos rfl]
    refine .present (by simp [hlife']) (by simp [hlife']) ?_
    rw [emittedTo, hlife', consumed_append, hnone]
    exact .nil

theorem Tracked.emit {q : Nat} {ops : List (Op ε)} {queue : List ε}
    (h : Tracked q ops (some ⟨true, queue⟩)) (e : ε) :
    Tracked q (ops ++ [.emit e]) (some ⟨true, push queueSize queue e⟩) := by
  cases h with
  | present hlife hsub hholds =>
    have hon : .unsubscribe q ∉ life q ops := hsub.mp rfl
    refine .present ?_ ?_ ?_
    · simp [life_concat, hlife]
    · simp [life_concat, hlife, hon]
    · rw [emittedTo_concat hlife, if_neg hon, consumed_append]
      change Holds (emittedTo q ops ++ [e]) (consumed q ops ++ []) _
      rw [List.append_nil]
      exact hholds.push e

theorem Tracked.unsubscribe {q : Nat} {ops : List (Op ε)} {f : Feed ε} (h : Tracked q ops (some f)) :
    Tracked q (ops ++ [.unsubscribe q]) (some { f with subscribed := false }) := by
  cases h with
  | present hlife hsub hholds =>
    refine .present ?_ ?_ ?_
    · simp [life_concat, hlife]
    · simp [life_concat, hlife]
    · have hemitted : emittedTo q (ops ++ [.unsubscribe q]) = emittedTo q ops := by
        rw [emittedTo_concat hlife]
        exact ite_eq_left_iff.mpr fun _ => List.append_nil _
      rw [hemitted, consumed_append]
      change Holds _ (consumed q ops ++ []) _
      rw [List.append_nil]
      exact hholds

theorem Tracked.get {q : Nat} {ops : List (Op ε)} {on : Bool} {e : ε} {rest : List ε}
    (h : Tracked q ops (some ⟨on, e :: rest⟩)) : Tracked q (ops ++ [.get q e]) (some ⟨on, rest⟩) := by
  cases h with
  | present hlife hsub hholds =>
    refine .present ?_ ?_ ?_
    · simp [life_concat, hlife]
    · simpa [life_concat, hlife] using hsub
    · have hemitted : emittedTo q (ops ++ [.get q e]) = emittedTo q ops := by
        rw [emittedTo_concat hlife]
        exact ite_eq_left_iff.mpr fun _ => List.append_nil _
      have hconsumed : consumed q [.get q e] = [e] := by simp [consumed]
      rw [hemitted, consumed_append, hconsumed]
      exact hholds.pop

theorem Tracked.step {q : Nat} {ops : List (Op ε)} {s s' : Bus ε} {a : Op ε} (h : Tracked q ops (s.feed q))
    (hs : AgentEvents.step s a = some s') : Tracked q (ops ++ [a]) (Feed.step q (s.feed q) a) := by
  obtain ⟨e, rfl, -⟩ | ⟨rfl, -⟩ | ⟨q', rfl, -, -⟩ | ⟨rfl, -⟩ | ⟨q', e, rest, rfl, hq', -⟩ := step_cases hs
  · cases hf : s.feed q with
    | none => exact Tracked.wait (hf ▸ h) nofun rfl
    | some f =>
      obtain ⟨on, queue⟩ := f
      cases on with
      | true => exact Tracked.emit (hf ▸ h) e
      | false => exact Tracked.skip (hf ▸ h) nofun rfl nofun
  · cases hf : s.feed q with
    | none =>
      by_cases hq : s.queues.length = q
      · rw [Feed.step, if_pos hq, hq]
        exact Tracked.subscribe (hf ▸ h)
      · rw [Feed.step, if_neg hq]
        exact Tracked.wait (hf ▸ h) (fun heq => hq (Op.subscribe.inj heq)) rfl
    | some f => exact Tracked.skip (hf ▸ h) nofun rfl fun _ => rfl
  · cases hf : s.feed q with
    | none => exact Tracked.wait (hf ▸ h) nofun rfl
    | some f =>
      by_cases hq : q' = q
      · rw [Feed.step, if_pos hq, hq]
        exact Tracked.unsubscribe (hf ▸ h)
      · rw [Feed.step, if_neg hq]
        exact Tracked.skip (hf ▸ h) (fun heq => hq (Op.unsubscribe.inj heq)) rfl fun _ => rfl
  · cases hf : s.feed q with
    | none => exact Tracked.wait (hf ▸ h) nofun rfl
    | some f => exact Tracked.skip (hf ▸ h) nofun rfl fun _ => rfl
  · by_cases hq : q' = q
    · subst hq
      have hf : s.feed q' = some ⟨decide (q' ∈ s.subscribers), e :: rest⟩ := by rw [Bus.feed, hq', Option.map_some]
      rw [hf] at h ⊢
      rw [Feed.step, if_pos rfl]
      exact h.get
    · have hconsumed : consumed q [.get q' e] = [] := by simp [consumed, hq]
      cases hf : s.feed q with
      | none => exact Tracked.wait (hf ▸ h) nofun hconsumed
      | some f =>
        rw [Feed.step, if_neg hq]
        exact Tracked.skip (hf ▸ h) nofun hconsumed fun _ => rfl

theorem tracked_of_run {ops : List (Op ε)} {s : Bus ε}
    (h : Lts.run AgentEvents.step Lts.free {} ops = some s) (q : Nat) :
    Tracked q ops (s.feed q) := by
  refine (Lts.run_invariant h (I := fun ops s => s.Wf ∧ Tracked q ops (s.feed q)) ?_ ?_).2
  · exact ⟨wf_empty, .absent rfl rfl⟩
  · intro ops s s' a _ hs ih
    rw [feed_step ih.1 hs q]
    exact ⟨wf_step hs ih.1, ih.2.step hs⟩

/-! ### Independence -/

/-- Emits concern every queue, other calls only their own. -/
def concerns (q : Nat) : Op ε → Bool
  | .emit _ => true
  | .subscribe q' | .unsubscribe q' | .get q' _ => q' = q
  | .getHistory _ => false

omit [DecidableEq ε] in
theorem feed_step_of_not_concerns {q : Nat} {a : Op ε} (h : concerns q a = false) (f : Option (Feed ε)) :
    Feed.step q f a = f := by
  cases a with
  | emit e => cases h
  | subscribe q' | unsubscribe q' | get q' e =>
    have hq : q' ≠ q := by simpa [concerns] using h
    cases f <;> simp [Feed.step, hq]
  | getHistory events => cases f <;> rfl

omit [DecidableEq ε] in
theorem feed_filter (q : Nat) (ops : List (Op ε)) : feed q (ops.filter (concerns q)) = feed q ops := by
  unfold feed
  generalize (none : Option (Feed ε)) = f
  induction ops generalizing f with
  | nil => rfl
  | cons a ops ih =>
    cases ha : concerns q a with
    | true => rw [List.filter_cons_of_pos ha, List.foldl_cons, List.foldl_cons, ih]
    | false => rw [List.filter_cons_of_neg (by simp [ha]), List.foldl_cons, feed_step_of_not_concerns ha, ih]

omit [DecidableEq ε] in
theorem suffix_of_unsubscribed (q : Nat) (ops : List (Op ε)) (queue : List ε) :
    ∃ queue', ops.foldl (Feed.step q) (some ⟨false, queue⟩) = some ⟨false, queue'⟩ ∧ queue' <:+ queue := by
  induction ops generalizing queue with
  | nil => exact ⟨queue, rfl, List.suffix_refl _⟩
  | cons a ops ih =>
    obtain ⟨queue₁, hstep, hsuffix⟩ :
        ∃ queue₁, Feed.step q (some ⟨false, queue⟩) a = some ⟨false, queue₁⟩ ∧ queue₁ <:+ queue := by
      cases a with
      | emit e => exact ⟨queue, rfl, List.suffix_refl _⟩
      | subscribe q' => exact ⟨queue, rfl, List.suffix_refl _⟩
      | unsubscribe q' => exact ⟨queue, by simp [Feed.step], List.suffix_refl _⟩
      | getHistory events => exact ⟨queue, rfl, List.suffix_refl _⟩
      | get q' e =>
        by_cases hq : q' = q
        · exact ⟨queue.tail, by simp [Feed.step, hq], List.tail_suffix _⟩
        · exact ⟨queue, by simp [Feed.step, hq], List.suffix_refl _⟩
    obtain ⟨queue₂, hrun, hsuffix'⟩ := ih queue₁
    rw [List.foldl_cons, hstep]
    exact ⟨queue₂, hrun, hsuffix'.trans hsuffix⟩

/-! ### The invariant -/

theorem history_step {s s' : Bus ε} {a : Op ε} {ops : List (Op ε)} (hs : step s a = some s')
    (h : s.history = (emitted ops).rtake maxHistory) : s'.history = (emitted (ops ++ [a])).rtake maxHistory := by
  rw [emitted_append]
  obtain ⟨e, rfl, rfl⟩ | ⟨rfl, rfl⟩ | ⟨q, rfl, -, rfl⟩ | ⟨rfl, rfl⟩ | ⟨q, e, rest, rfl, -, rfl⟩ := step_cases hs
  · rw [show emitted [Op.emit e] = [e] from rfl, ← rtake_push, ← h, Bus.emit]
  · rw [show emitted [Op.subscribe s.queues.length] = ([] : List ε) from rfl, List.append_nil]
    exact h
  · rw [history_unsubscribe, h, show emitted [Op.unsubscribe q] = ([] : List ε) from rfl, List.append_nil]
  · rw [show emitted [Op.getHistory s'.history] = ([] : List ε) from rfl, List.append_nil]
    exact h
  · rw [show emitted [Op.get q e] = ([] : List ε) from rfl, List.append_nil]
    exact h

theorem history_of_run {ops : List (Op ε)} {s : Bus ε} (h : Lts.run step Lts.free {} ops = some s) :
    s.history = (emitted ops).rtake maxHistory :=
  Lts.run_invariant h (I := fun ops s => s.history = (emitted ops).rtake maxHistory)
    (List.rtake_nil maxHistory).symm fun _ hs ih => history_step hs ih

/-- What holds after the calls `ops`. -/
structure BusInvariant (ops : List (Op ε)) (s : Bus ε) : Prop where
  history : s.history = (emitted ops).rtake maxHistory
  replies : ∀ before events after, ops = before ++ .getHistory events :: after →
    events = (emitted before).rtake maxHistory
  queues : ∀ q queue, s.queues[q]? = some queue → Holds (emittedTo q ops) (consumed q ops) queue
  unsubscribed : ∀ before q after t, ops = before ++ .unsubscribe q :: after →
    Lts.run step Lts.free {} before = some t →
      ∃ left queue, t.queues[q]? = some left ∧ s.queues[q]? = some queue ∧ queue <:+ left
  independent : ∀ q ops' s', Lts.run step Lts.free {} ops' = some s' →
    ops'.filter (concerns q) = ops.filter (concerns q) → s'.queues[q]? = s.queues[q]?
  history_independent : ∀ ops' s', Lts.run step Lts.free {} ops' = some s' → emitted ops' = emitted ops →
    s'.history = s.history

omit [DecidableEq ε] in
theorem queue_eq_of_feed_eq {s t : Bus ε} {q : Nat} (h : s.feed q = t.feed q) :
    s.queues[q]? = t.queues[q]? := by
  have hqueue (u : Bus ε) : (u.feed q).map Feed.queue = u.queues[q]? := by
    rw [Bus.feed, Option.map_map]
    exact Option.map_id_apply
  rw [← hqueue s, h, hqueue t]

theorem busInvariant_of_run {ops : List (Op ε)} {s : Bus ε} (h : Lts.run step Lts.free {} ops = some s) :
    BusInvariant ops s := by
  refine ⟨history_of_run h, ?_, ?_, ?_, ?_, ?_⟩
  · rintro before events after rfl
    obtain ⟨t, t', ht, -, hstep, -⟩ := Lts.run_split h
    rw [← history_of_run ht]
    rw [step, Option.ite_none_right_eq_some] at hstep
    exact hstep.1
  · intro q queue hq
    have htracked := tracked_of_run h q
    rw [Bus.feed, hq] at htracked
    cases htracked with
    | present hlife hsub hholds => exact hholds
  · rintro before q after t rfl ht
    obtain ⟨t', t'', ht', -, hstep, -⟩ := Lts.run_split h
    obtain rfl : t = t' := Option.some.inj (ht.symm.trans ht')
    rw [step, Option.ite_none_right_eq_some] at hstep
    obtain ⟨left, hleft⟩ : ∃ left, t.queues[q]? = some left := ⟨_, List.getElem?_eq_getElem hstep.1⟩
    have hfeed : feed q (before ++ .unsubscribe q :: after) =
        after.foldl (Feed.step q) (some ⟨false, left⟩) := by
      rw [feed, List.foldl_append, ← feed, ← feed_of_run ht, Bus.feed, hleft, List.foldl_cons]
      simp [Feed.step]
    obtain ⟨queue, hrun, hsuffix⟩ := suffix_of_unsubscribed q after left
    rw [hrun, ← feed_of_run h, Bus.feed, Option.map_eq_some_iff] at hfeed
    obtain ⟨queue', hqueue', heq⟩ := hfeed
    obtain rfl : queue' = queue := congrArg Feed.queue heq
    exact ⟨left, queue', hleft, hqueue', hsuffix⟩
  · intro q ops' s' h' heq
    refine queue_eq_of_feed_eq ?_
    rw [feed_of_run h', feed_of_run h, ← feed_filter q ops', heq, feed_filter]
  · intro ops' s' h' heq
    rw [history_of_run h', history_of_run h, heq]

/-- Two subscribers, of which the first takes an event and the second leaves before the last one. -/
def twoSubscribers : List (Op String) :=
  [.subscribe 0, .emit "ingest", .subscribe 1, .emit "triage", .get 0 "ingest", .unsubscribe 1, .emit "action",
    .getHistory ["ingest", "triage", "action"]]

def twoSubscribersBus : Bus String :=
  { history := ["ingest", "triage", "action"], subscribers := [0], queues := [["triage", "action"], ["triage"]] }

theorem busInvariant_twoSubscribers : BusInvariant twoSubscribers twoSubscribersBus :=
  busInvariant_of_run (by decide +kernel)

end AgentEvents
end SocFabric
