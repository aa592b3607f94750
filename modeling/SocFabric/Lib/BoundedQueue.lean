import Mathlib.Data.List.DropRight
import Mathlib.Data.List.Nodup

/-!
# Bounded queues

A queue is a list, oldest first. `push` is the append of a ring buffer, which forgets its oldest
element when it is full, so that it always holds the end of what was appended (`rtake_push`);
`putNowait` is the put of a queue that refuses an element when it is full. A store of queue objects
is the list of their contents, by number; `forEach` changes those of a list of numbers one after the
other.
-/

namespace BoundedQueue

variable {α : Type*} {n : Nat} {q l : List α} {x : α}

/-! ### One queue -/

def push (n : Nat) (q : List α) (x : α) : List α := (q ++ [x]).rtake n

def full (n : Nat) (q : List α) : Bool := decide (n ≤ q.length)

def putNowait (n : Nat) (q : List α) (x : α) : Option (List α) :=
  if full n q then none else some (q ++ [x])

theorem length_rtake (n : Nat) (l : List α) : (l.rtake n).length = min l.length n := by
  rw [List.rtake, List.length_drop]
  omega

theorem rtake_of_length_le (h : l.length ≤ n) : l.rtake n = l := by
  rw [List.rtake, Nat.sub_eq_zero_of_le h, List.drop_zero]

theorem rtake_push (n : Nat) (l : List α) (x : α) : push n (l.rtake n) x = (l ++ [x]).rtake n := by
  cases n with
  | zero => rw [push, List.rtake_zero, List.rtake_zero]
  | succ n =>
    rw [push, List.rtake_concat_succ, List.rtake_concat_succ]
    congr 1
    simp only [List.rtake, List.drop_drop, List.length_drop]
    congr 1
    omega

theorem map_rtake {β : Type*} (f : α → β) (n : Nat) (l : List α) : (l.map f).rtake n = (l.rtake n).map f := by
  rw [List.rtake, List.rtake, List.length_map, List.map_drop]

theorem rtake_sublist (n : Nat) (l : List α) : (l.rtake n).Sublist l := List.drop_sublist _ _

theorem length_push_le (n : Nat) (q : List α) (x : α) : (push n q x).length ≤ n := by
  rw [push, length_rtake]
  exact Nat.min_le_right _ _

theorem push_of_length_lt (h : q.length < n) : push n q x = q ++ [x] := by
  refine rtake_of_length_le ?_
  rw [List.length_append]
  exact h

theorem putNowait_of_length_lt (h : q.length < n) : putNowait n q x = some (q ++ [x]) := by
  rw [putNowait, full, decide_eq_false (by omega)]
  rfl

/-- Puts without waiting keep what there is room for, and lose the rest. -/
theorem foldl_putNowait (h : q.length ≤ n) :
    l.foldl (fun q x => (putNowait n q x).getD q) q = q ++ l.take (n - q.length) := by
  induction l generalizing q with
  | nil => rw [List.foldl_nil, List.take_nil, List.append_nil]
  | cons x l ih =>
    rw [List.foldl_cons]
    by_cases hlt : q.length < n
    · have hlen : (q ++ [x]).length = q.length + 1 := by simp
      have hroom : n - q.length = n - (q ++ [x]).length + 1 := by omega
      rw [putNowait_of_length_lt hlt, Option.getD_some, ih (by omega), hroom, List.take_succ_cons, List.append_assoc,
        List.singleton_append]
    · have hfull : putNowait n q x = none := if_pos (decide_eq_true (by omega))
      have hroom : n - q.length = 0 := by omega
      rw [hfull, Option.getD_none, ih h, hroom, List.take_zero, List.take_zero]

/-! ### Queue objects -/

variable {ids : List Nat} {qs : List (List α)} {f : List α → List α}

def forEach (ids : List Nat) (f : List α → List α) (qs : List (List α)) : List (List α) :=
  ids.foldl (fun qs i => qs.modify i f) qs

@[simp] theorem length_forEach : (forEach ids f qs).length = qs.length := by
  induction ids generalizing qs with
  | nil => rfl
  | cons i ids ih =>
    rw [forEach, List.foldl_cons, ← forEach, ih, List.length_modify]

theorem getElem?_forEach (h : ids.Nodup) (i : Nat) :
    (forEach ids f qs)[i]? = if i ∈ ids then qs[i]?.map f else qs[i]? := by
  induction ids generalizing qs with
  | nil => rfl
  | cons j ids ih =>
    obtain ⟨hj, hids⟩ := List.nodup_cons.mp h
    rw [forEach, List.foldl_cons, ← forEach, ih hids, List.getElem?_modify]
    by_cases hij : i = j
    · subst hij
      simp [hj]
    · simp [hij, Ne.symm hij]

end BoundedQueue
