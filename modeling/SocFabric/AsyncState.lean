import SocFabric.Lib.Lts
import SocFabric.Lib.Text

/-!
# Asynchronous data of a page (`shared/hooks/useAsyncState.ts`)

Every `execute` sets `loading`, clears `error` and, when its promise settles, writes `data` or
`error` and clears `loading`, whichever calls were started or have settled meanwhile. A run
interleaves calls and settlements in any order; `last_call_wins` is about the runs in which no
settlement comes out of turn.
-/

namespace SocFabric
namespace AsyncState
open Lts Text

variable {T : Type}

inductive Call (T : Type)
  | pending
  | ok (data : T)
  | failed
deriving DecidableEq, Repr

def Call.result : Call T → Option T
  | .ok data => some data
  | _ => none

/-- `calls` are the calls of `execute`, in the order they were started. -/
structure State (T : Type) where
  data : Option T := none
  loading : Bool := true
  error : Option String := none
  calls : List (Call T) := []
deriving DecidableEq, Repr

inductive Act (T : Type)
  | execute
  | resolve (i : Nat) (data : T)
  -- `err` is `none` if the promise rejects with null or undefined, else the `message` of what it rejects with
  | reject (i : Nat) (err : Option (Option String))
deriving DecidableEq, Repr

/-- `err.message` of null throws in the `catch` block, so `error` stays; the `finally` block runs
all the same. -/
def caught (error : Option String) : Option (Option String) → Option String
  | some message => some (pyOr message "An error occurred")
  | none => error

def step (s : State T) : Act T → Option (State T)
  | .execute => some { s with loading := true, error := none, calls := s.calls ++ [.pending] }
  | .resolve i data =>
    match s.calls[i]? with
    | some .pending => some { s with data := some data, loading := false, calls := s.calls.set i (.ok data) }
    | _ => none
  | .reject i err =>
    match s.calls[i]? with
    | some .pending => some { s with error := caught s.error err, loading := false, calls := s.calls.set i .failed }
    | _ => none

/-! ### What a run is to keep -/

/-- The result of the call that was started last among those that have succeeded. -/
def lastResult : List (Call T) → Option T
  | [] => none
  | c :: cs => (lastResult cs).or c.result

def Settled (s : State T) : Prop := Call.pending ∉ s.calls

structure LastCallWins (s : State T) : Prop where
  data : Settled s → s.data = lastResult s.calls
  error : Settled s → ∀ c, s.calls.getLast? = some c → (s.error = none ↔ ∃ data, c = .ok data)
  loading : s.calls.getLast? = some .pending → s.loading = true

/-- A settlement in turn: of the call that was started last, with an error value if it fails; or,
once that one has settled, a success that no later call has had, or a failure if the last call has
failed too. -/
def InTurn (s : State T) : Act T → Prop
  | .execute => True
  | .resolve i _ =>
    i + 1 = s.calls.length ∨
      s.calls.getLast? ≠ some .pending ∧ ∀ c ∈ s.calls.drop (i + 1), c.result = none
  | .reject i err =>
    i + 1 = s.calls.length ∧ err ≠ none ∨ i + 1 ≠ s.calls.length ∧ s.calls.getLast? = some .failed

/-! ### One step -/

theorem lastResult_concat_pending (cs : List (Call T)) : lastResult (cs ++ [.pending]) = lastResult cs := by
  induction cs with
  | nil => rfl
  | cons c cs ih => rw [List.cons_append, lastResult, lastResult, ih]

theorem lastResult_eq_none {cs : List (Call T)} (h : ∀ c ∈ cs, c.result = none) : lastResult cs = none := by
  induction cs with
  | nil => rfl
  | cons c cs ih =>
    rw [lastResult, ih fun c' hc' => h c' (List.mem_cons_of_mem _ hc'), h c List.mem_cons_self]
    rfl

theorem lastResult_set_ok {cs : List (Call T)} {i : Nat} {data : T} (hi : i < cs.length)
    (h : ∀ c ∈ cs.drop (i + 1), c.result = none) : lastResult (cs.set i (.ok data)) = some data := by
  induction cs generalizing i with
  | nil => cases hi
  | cons c cs ih =>
    cases i with
    | zero =>
      have hnone : lastResult cs = none := lastResult_eq_none h
      rw [List.set_cons_zero, lastResult, hnone]
      rfl
    | succ i =>
      rw [List.set_cons_succ, lastResult, ih (Nat.lt_of_succ_lt_succ hi) h]
      rfl

theorem lastResult_set_failed {cs : List (Call T)} {i : Nat} (hi : cs[i]? = some .pending) :
    lastResult (cs.set i .failed) = lastResult cs := by
  induction cs generalizing i with
  | nil => cases hi
  | cons c cs ih =>
    cases i with
    | zero =>
      cases hi
      rfl
    | succ i => rw [List.set_cons_succ, lastResult, lastResult, ih hi]

theorem getLast?_set_last {cs : List (Call T)} {i : Nat} (hi : i + 1 = cs.length) (c : Call T) :
    (cs.set i c).getLast? = some c := by
  rw [List.getLast?_eq_getElem?, List.length_set, ← hi, Nat.add_sub_cancel, List.getElem?_set_self (by omega)]

theorem getLast?_set_of_ne {cs : List (Call T)} {i : Nat} (hi : i + 1 ≠ cs.length) (c : Call T) :
    (cs.set i c).getLast? = cs.getLast? := by
  rw [List.getLast?_eq_getElem?, List.getLast?_eq_getElem?, List.length_set]
  by_cases hlt : i < cs.length
  · rw [List.getElem?_set_ne (by omega)]
  · rw [List.set_eq_of_length_le (by omega)]

/-- What `error` and `loading` are to say about the call that was started last. -/
def Agrees (s : State T) : Call T → Prop
  | .pending => s.loading = true ∧ s.error = none
  | .ok _ => s.error = none
  | .failed => s.error ≠ none

/-- The invariant: `data` is right at every moment, not only when all calls have settled. -/
structure UpToDate (s : State T) : Prop where
  data : s.data = lastResult s.calls
  latest : ∀ c, s.calls.getLast? = some c → Agrees s c

variable {s t : State T} {a : Act T}

theorem UpToDate.lastCallWins (h : UpToDate s) : LastCallWins s := by
  refine ⟨fun _ => h.data, ?_, fun hlast => (h.latest _ hlast).1⟩
  intro hsettled c hlast
  have hagrees := h.latest c hlast
  cases c with
  | pending => exact absurd (List.mem_of_getLast? hlast) hsettled
  | ok data => exact iff_of_true hagrees ⟨data, rfl⟩
  | failed =>
    refine iff_of_false hagrees ?_
    rintro ⟨data, hdata⟩
    cases hdata

theorem caught_ne_none {error : Option String} {err : Option (Option String)}
    (h : error ≠ none ∨ err ≠ none) :
    caught error err ≠ none := by
  cases err with
  | none => exact h.resolve_right (· rfl)
  | some message => exact Option.some_ne_none _

theorem UpToDate.resolve {i : Nat} {data : T} (h : UpToDate s) (hi : s.calls[i]? = some .pending)
    (hturn : InTurn s (.resolve i data)) :
    UpToDate { s with data := some data, loading := false, calls := s.calls.set i (.ok data) } := by
  have hlt : i < s.calls.length := (List.getElem?_eq_some_iff.mp hi).1
  have hlast : i + 1 = s.calls.length ∨ i + 1 ≠ s.calls.length := eq_or_ne _ _
  rcases hlast with hlast | hlast
  · refine ⟨(lastResult_set_ok hlt ?_).symm, ?_⟩
    · intro c hc
      rw [List.drop_eq_nil_of_le (by omega)] at hc
      cases hc
    · intro c hc
      rw [getLast?_set_last hlast] at hc
      cases hc
      -- the call is the pending one, so nothing has set an error since it began
      have hpending : s.calls.getLast? = some .pending := by
        rw [List.getLast?_eq_getElem?, ← hlast, Nat.add_sub_cancel, hi]
      exact (h.latest _ hpending).2
  · obtain ⟨hne, hlater⟩ := hturn.resolve_left hlast
    refine ⟨(lastResult_set_ok hlt hlater).symm, ?_⟩
    intro c hc
    rw [getLast?_set_of_ne hlast] at hc
    have hagrees := h.latest c hc
    cases c with
    | pending => exact absurd hc hne
    | ok _ => exact hagrees
    | failed => exact hagrees

theorem UpToDate.reject {i : Nat} {err : Option (Option String)} (h : UpToDate s)
    (hi : s.calls[i]? = some .pending) (hturn : InTurn s (.reject i err)) :
    UpToDate { s with error := caught s.error err, loading := false, calls := s.calls.set i .failed } := by
  refine ⟨h.data.trans (lastResult_set_failed hi).symm, ?_⟩
  intro c hc
  rcases hturn with ⟨hlast, herr⟩ | ⟨hlast, hfailed⟩
  · rw [getLast?_set_last hlast] at hc
    cases hc
    exact caught_ne_none (.inr herr)
  · rw [getLast?_set_of_ne hlast, hfailed] at hc
    cases hc
    exact caught_ne_none (.inl (h.latest _ hfailed))

theorem UpToDate.step (hturn : InTurn s a) (hs : step s a = some t) (h : UpToDate s) : UpToDate t := by
  cases a with
  | execute =>
    cases hs
    refine ⟨h.data.trans (lastResult_concat_pending _).symm, ?_⟩
    intro c hc
    rw [List.getLast?_concat] at hc
    cases hc
    exact ⟨rfl, rfl⟩
  | resolve i data =>
    simp only [AsyncState.step] at hs
    split at hs
    · cases hs
      exact h.resolve (by assumption) hturn
    · cases hs
  | reject i err =>
    simp only [AsyncState.step] at hs
    split at hs
    · cases hs
      exact h.reject (by assumption) hturn
    · cases hs

/-! ### A run -/

/-- In a run whose settlements all come in turn, the last call wins in every state. -/
theorem last_call_wins (s : State T) (h : Reach step InTurn {} s) : LastCallWins s := by
  have hinit : UpToDate ({} : State T) := by
    refine ⟨rfl, ?_⟩
    intro c hc
    cases hc
  exact (h.invariant hinit UpToDate.step).lastCallWins

/-- The state after one call, which succeeds. -/
theorem single_call_wins : LastCallWins (T := String) ⟨some "new", false, none, [.ok "new"]⟩ := by
  have hstart : InTurn ({} : State String) .execute := trivial
  have hdone : InTurn (⟨none, true, none, [.pending]⟩ : State String) (.resolve 0 "new") := .inl rfl
  exact last_call_wins _ ((Reach.refl.tail hstart rfl).tail hdone rfl)

/-- Of two refreshes the first answers last, and its answer stays. -/
def staleAnswer : List (Act String) := [.execute, .execute, .resolve 1 "new", .resolve 0 "old"]

theorem stale_answer_stays : ¬ ∀ s : State String, Reach step free {} s → LastCallWins s := by
  intro h
  have hwins := h _ (.of_run staleAnswer rfl)
  have hdata := hwins.data (by rw [Settled]; decide)
  revert hdata
  decide

end AsyncState
end SocFabric
