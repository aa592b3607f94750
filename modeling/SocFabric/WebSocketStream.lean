import Mathlib.Algebra.Group.Nat.Defs
import SocFabric.Lib.Lts
import SocFabric.Lib.Slots

/-!
# The reconnecting socket of a page (`shared/hooks/useWebSocketStream.ts`)

An effect run connects, and reconnects by a timer that `onclose` arms. Its cleanup clears the timer
it knows of and closes the socket in `wsRef`; the browser delivers the close event later, and
`onclose` arms a timer again. A run of one hook interleaves effect runs, cleanups, socket events and
timers in any order. `reconnecting_sockets_stop` is about the runs whose cleanups find the socket
closed, and says that any other cleanup leaves behind what the browser makes a socket of.
-/

namespace SocFabric
namespace WebSocketStream
open Lts

inductive ReadyState
  | connecting
  | opened
  | closing
  | closed
deriving DecidableEq, Repr

/-- A socket and the effect run that opened it; `late` records that the cleanup of that run came
before. -/
structure Socket where
  effect : Nat
  readyState : ReadyState
  late : Bool
deriving DecidableEq, Repr

structure Timer where
  effect : Nat
  backoff : Nat
deriving DecidableEq, Repr

/-- A hook with the sockets and armed timers that it caused, by number. `timeoutId` is the variable
of that name of each effect run, and `active` the effect run whose cleanup is still to come; the
hook is mounted while there is one. -/
structure Hook where
  isConnected : Bool := false
  wsRef : Option Nat := none
  retryCount : Nat := 0
  sockets : Nat → Option Socket := fun _ => none
  created : Nat := 0
  timers : Nat → Option Timer := fun _ => none
  armed : Nat := 0
  timeoutId : Nat → Option Nat := fun _ => none
  effects : Nat := 0
  active : Option Nat := none

namespace Hook

def connect (s : Hook) (e : Nat) : Hook :=
  { s with
    sockets := Function.update s.sockets s.created (some ⟨e, .connecting, s.active ≠ some e⟩)
    created := s.created + 1
    wsRef := some s.created }

def setReadyState (s : Hook) (i : Nat) (state : ReadyState) : Hook :=
  { s with sockets := Function.update s.sockets i ((s.sockets i).map ({ · with readyState := state })) }

/-- `close()` of a socket, which does nothing to one that is closing or closed. -/
def close (s : Hook) (i : Nat) : Hook :=
  match (s.sockets i).map Socket.readyState with
  | some .connecting | some .opened => s.setReadyState i .closing
  | _ => s

def clearTimeout (s : Hook) : Option Nat → Hook
  | some τ => { s with timers := Function.update s.timers τ none }
  | none => s

def closeRef (s : Hook) : Hook :=
  match s.wsRef with
  | some i => s.close i
  | none => s

def onopen (s : Hook) (i : Nat) : Hook :=
  { s.setReadyState i .opened with isConnected := true, retryCount := 0 }

def backoff (retryCount : Nat) : Nat := min (1000 * 2 ^ retryCount) 30000

def onclose (s : Hook) (i e : Nat) : Hook :=
  { s.setReadyState i .closed with
    isConnected := false
    timers := Function.update s.timers s.armed (some ⟨e, backoff s.retryCount⟩)
    armed := s.armed + 1
    timeoutId := Function.update s.timeoutId e (some s.armed)
    retryCount := s.retryCount + 1 }

end Hook

inductive Act
  | effect
  | cleanup
  | opened (i : Nat)
  | closed (i : Nat)
  | timer (τ : Nat)
deriving DecidableEq, Repr

def step (s : Hook) : Act → Option Hook
  | .effect =>
    if s.active = none then
      some (({ s with effects := s.effects + 1, active := some s.effects } : Hook).connect s.effects)
    else none
  | .cleanup => s.active.map fun e => { (s.clearTimeout (s.timeoutId e)).closeRef with active := none }
  | .opened i =>
    match s.sockets i with
    | some w => if w.readyState = .connecting then some (s.onopen i) else none
    | none => none
  | .closed i =>
    match s.sockets i with
    | some w => if w.readyState = .closed then none else some (s.onclose i w.effect)
    | none => none
  | .timer τ =>
    (s.timers τ).map fun t => ({ s with timers := Function.update s.timers τ none } : Hook).connect t.effect

/-! ### What a run is to keep -/

structure SocketsStop (s : Hook) : Prop where
  inTime : ∀ i w, s.sockets i = some w → w.late = false
  single : s.active ≠ none → ∀ i j v w, s.sockets i = some v → s.sockets j = some w → v.readyState ≠ .closed →
    w.readyState ≠ .closed → i = j

/-- A cleanup comes while its effect run waits for the timer to reconnect. -/
def CleansUpWaiting (s : Hook) : Act → Prop
  | .cleanup => ∀ e, s.active = some e → ∃ τ t, s.timeoutId e = some τ ∧ s.timers τ = some t
  | _ => True

/-- Only the browser goes on: no effect runs, and there is no cleanup. -/
def BrowserOnly (_ : Hook) : Act → Prop
  | .effect | .cleanup => False
  | .opened _ | .closed _ | .timer _ => True

/-! ### One step -/

def AllClosed (s : Hook) : Prop := ∀ i w, s.sockets i = some w → w.readyState = .closed

/-- Where a hook is if no cleanup has left a socket behind. -/
inductive Phase (s : Hook) : Prop
  | idle (hactive : s.active = none) (hclosed : AllClosed s) (htimers : ∀ τ, s.timers τ = none)
  | live (i : Nat) (w : Socket) (hactive : s.active = some w.effect) (hi : s.sockets i = some w)
      (hw : w.readyState ≠ .closed) (hothers : ∀ j v, s.sockets j = some v → v.readyState ≠ .closed → j = i)
      (htimers : ∀ τ, s.timers τ = none)
  | waiting (τ : Nat) (t : Timer) (hactive : s.active = some t.effect) (hclosed : AllClosed s)
      (hτ : s.timers τ = some t) (hothers : ∀ τ', τ' ≠ τ → s.timers τ' = none) (hid : s.timeoutId t.effect = some τ)

structure Tidy (s : Hook) : Prop where
  inTime : ∀ i w, s.sockets i = some w → w.late = false
  phase : Phase s

section
variable {s t : Hook} {a : Act} {i : Nat} {w : Socket}

theorem Tidy.socketsStop (h : Tidy s) : SocketsStop s := by
  refine ⟨h.inTime, ?_⟩
  intro _ i j v w hi hj hv hw
  cases h.phase with
  | idle _ hclosed => exact absurd (hclosed i v hi) hv
  | live k _ _ _ _ hothers => exact (hothers i v hi hv).trans (hothers j w hj hw).symm
  | waiting _ _ _ hclosed => exact absurd (hclosed i v hi) hv

/-- Connecting while everything is closed and no timer runs. -/
theorem Tidy.connect {e : Nat} (hactive : s.active = some e)
    (htime : ∀ i w, s.sockets i = some w → w.late = false)
    (hclosed : AllClosed s) (htimers : ∀ τ, s.timers τ = none) : Tidy (s.connect e) := by
  have hnew : (s.connect e).sockets s.created = some ⟨e, .connecting, false⟩ := by
    simp [Hook.connect, hactive]
  constructor
  · intro i w hi
    rcases Slots.update_cases hi with ⟨rfl, -⟩ | ⟨-, hi⟩
    · cases hnew.symm.trans hi
      rfl
    · exact htime i w hi
  · refine .live s.created ⟨e, .connecting, false⟩ hactive hnew (by simp) ?_ htimers
    intro j v hj hv
    rcases Slots.update_cases hj with ⟨rfl, -⟩ | ⟨-, hj⟩
    · rfl
    · exact absurd (hclosed j v hj) hv

theorem inTime_setReadyState {state : ReadyState} (h : ∀ i w, s.sockets i = some w → w.late = false) {j : Nat}
    {v : Socket} (hj : (s.setReadyState i state).sockets j = some v) : v.late = false := by
  rcases Slots.modify_cases hj with ⟨-, w, hw, rfl⟩ | ⟨-, hj⟩
  · exact h i w hw
  · exact h j v hj

theorem Phase.live_of_unclosed (h : Phase s) (hi : s.sockets i = some w) (hw : w.readyState ≠ .closed) :
    s.active = some w.effect ∧ (∀ j v, s.sockets j = some v → v.readyState ≠ .closed → j = i) ∧
      ∀ τ, s.timers τ = none := by
  cases h with
  | idle _ hclosed => exact absurd (hclosed i w hi) hw
  | live k v hactive hk _ hothers htimers =>
    obtain rfl := hothers i w hi hw
    cases hk.symm.trans hi
    exact ⟨hactive, hothers, htimers⟩
  | waiting _ _ _ hclosed => exact absurd (hclosed i w hi) hw

theorem Tidy.onopen (h : Tidy s) (hi : s.sockets i = some w) (hw : w.readyState = .connecting) :
    Tidy (s.onopen i) := by
  obtain ⟨hactive, hothers, htimers⟩ := h.phase.live_of_unclosed hi (by simp [hw])
  refine ⟨fun j v hj => inTime_setReadyState h.inTime hj, ?_⟩
  refine .live i { w with readyState := .opened } hactive (by simp [Hook.onopen, Hook.setReadyState, hi]) (by simp) ?_
    htimers
  intro j v hj hv
  rcases Slots.modify_cases hj with ⟨rfl, -⟩ | ⟨-, hj⟩
  · rfl
  · exact hothers j v hj hv

theorem Tidy.onclose (h : Tidy s) (hi : s.sockets i = some w) (hw : w.readyState ≠ .closed) :
    Tidy (s.onclose i w.effect) := by
  obtain ⟨hactive, hothers, htimers⟩ := h.phase.live_of_unclosed hi hw
  refine ⟨fun j v hj => inTime_setReadyState h.inTime hj, ?_⟩
  refine .waiting s.armed ⟨w.effect, Hook.backoff s.retryCount⟩ hactive ?_ (Function.update_self ..) ?_
    (Function.update_self ..)
  · intro j v hj
    rcases Slots.modify_cases hj with ⟨-, w', -, rfl⟩ | ⟨hne, hj⟩
    · rfl
    · by_contra hv
      exact hne (hothers j v hj hv)
  · intro τ' hτ'
    exact (Function.update_of_ne hτ' ..).trans (htimers τ')

theorem closeRef_of_allClosed (h : AllClosed s) : s.closeRef = s := by
  unfold Hook.closeRef Hook.close
  cases s.wsRef with
  | none => rfl
  | some i =>
    cases hi : s.sockets i with
    | none => simp [hi]
    | some w => simp [hi, h i w hi]

theorem Tidy.cleanup (h : Tidy s) (hg : CleansUpWaiting s .cleanup)
    (hs : step s .cleanup = some t) : Tidy t := by
  obtain ⟨e, he, rfl⟩ := Option.map_eq_some_iff.mp hs
  obtain ⟨τ, x, hid, hτ⟩ := hg e he
  cases h.phase with
  | idle _ _ htimers =>
    rw [htimers] at hτ
    cases hτ
  | live _ _ _ _ _ _ htimers =>
    rw [htimers] at hτ
    cases hτ
  | waiting τ' t' hactive hclosed hτ' hothers hid' =>
    cases he.symm.trans hactive
    cases hid.symm.trans hid'
    rw [hid]
    have hsame : (s.clearTimeout (some τ)).closeRef = s.clearTimeout (some τ) := closeRef_of_allClosed hclosed
    rw [hsame]
    exact ⟨h.inTime, .idle rfl hclosed (Slots.update_none hothers)⟩

theorem tidy_step (hg : CleansUpWaiting s a) (hs : step s a = some t) (h : Tidy s) : Tidy t := by
  cases a with
  | effect =>
    simp only [step] at hs
    split at hs
    · rename_i hactive
      cases hs
      -- only an idle hook runs an effect
      cases h.phase with
      | idle _ hclosed htimers => exact Tidy.connect rfl h.inTime hclosed htimers
      | live _ _ hactive' => cases hactive.symm.trans hactive'
      | waiting _ _ hactive' => cases hactive.symm.trans hactive'
    · cases hs
  | cleanup => exact h.cleanup hg hs
  | opened i =>
    simp only [step] at hs
    split at hs
    · split at hs
      · cases hs
        exact h.onopen (by assumption) (by assumption)
      · cases hs
    · cases hs
  | closed i =>
    simp only [step] at hs
    split at hs
    · split at hs
      · cases hs
      · cases hs
        exact h.onclose (by assumption) (by assumption)
    · cases hs
  | timer τ =>
    obtain ⟨x, hx, rfl⟩ := Option.map_eq_some_iff.mp hs
    cases h.phase with
    | idle _ _ htimers => cases (htimers τ).symm.trans hx
    | live _ _ _ _ _ _ htimers => cases (htimers τ).symm.trans hx
    | waiting τ' t' hactive hclosed hτ' hothers =>
      obtain rfl : τ = τ' := by
        by_contra hne
        cases (hothers τ hne).symm.trans hx
      cases hx.symm.trans hτ'
      exact Tidy.connect hactive h.inTime hclosed (Slots.update_none hothers)

/-! ### A socket left behind -/

theorem closeRef_unclosed (hi : s.sockets i = some w) (hw : w.readyState ≠ .closed) :
    ∃ v, s.closeRef.sockets i = some v ∧ v.effect = w.effect ∧ v.readyState ≠ .closed := by
  unfold Hook.closeRef Hook.close
  split
  · rename_i j _
    have hclosing : ∃ v, (s.setReadyState j .closing).sockets i = some v ∧ v.effect = w.effect ∧
        v.readyState ≠ .closed := by
      by_cases hij : i = j
      · subst hij
        exact ⟨{ w with readyState := .closing }, by simp [Hook.setReadyState, hi], rfl, by simp⟩
      · exact ⟨w, (Function.update_of_ne hij ..).trans hi, rfl, hw⟩
    split
    · exact hclosing
    · exact hclosing
    · exact ⟨w, hi, rfl, hw⟩
  · exact ⟨w, hi, rfl, hw⟩

/-- The close event of a socket whose effect run has been cleaned up arms a timer, and the timer
opens another. -/
theorem late_of_unclosed (hactive : s.active ≠ some w.effect) (hi : s.sockets i = some w)
    (hw : w.readyState ≠ .closed) : ∃ u, Reach step BrowserOnly s u ∧ ¬ SocketsStop u := by
  have hclosed : step s (.closed i) = some (s.onclose i w.effect) := by
    simp only [step, hi, if_neg hw]
  have htimer : (s.onclose i w.effect).timers s.armed = some ⟨w.effect, Hook.backoff s.retryCount⟩ :=
    Function.update_self ..
  refine ⟨_, (Reach.refl.tail (a := .closed i) trivial hclosed).tail trivial (a := .timer s.armed)
    (Option.map_eq_some_iff.mpr ⟨_, htimer, rfl⟩), ?_⟩
  intro hstop
  have hlate := hstop.inTime s.created ⟨w.effect, .connecting, true⟩ (by
    simp only [Hook.connect, Hook.onclose, Hook.setReadyState, Function.update_self]
    simp [hactive])
  cases hlate

theorem Tidy.left_behind (h : Tidy s) (hs : step s .cleanup = some t) (hg : ¬ CleansUpWaiting s .cleanup) :
    ∃ u, Reach step BrowserOnly t u ∧ ¬ SocketsStop u := by
  obtain ⟨e, he, rfl⟩ := Option.map_eq_some_iff.mp hs
  cases h.phase with
  | idle hactive => cases he.symm.trans hactive
  | live i w hactive hi hw =>
    have hsame : (s.clearTimeout (s.timeoutId e)).sockets i = some w := by
      cases s.timeoutId e with
      | none => exact hi
      | some τ => exact hi
    obtain ⟨v, hv, -, hunclosed⟩ := closeRef_unclosed hsame hw
    exact late_of_unclosed (fun hnone => by cases hnone) hv hunclosed
  | waiting τ x hactive _ hτ _ hid =>
    refine absurd ?_ hg
    intro e' he'
    cases he'.symm.trans hactive
    exact ⟨τ, x, hid, hτ⟩

/-! ### A run -/

theorem tidy_init : Tidy {} := by
  refine ⟨?_, .idle rfl ?_ fun _ => rfl⟩
  · intro i w hi
    cases hi
  · intro i w hi
    cases hi

theorem cleansUpWaiting_of_browserOnly (s : Hook) (a : Act) (h : BrowserOnly s a) : CleansUpWaiting s a := by
  cases a with
  | cleanup => exact h.elim
  | effect | opened _ | closed _ | timer _ => exact trivial

/-- While every cleanup comes when its effect run waits to reconnect, no effect run opens a socket
after its cleanup, and a mounted hook has one unclosed socket at most. The next cleanup is such a one
exactly if the browser alone cannot bring about anything else after it. -/
theorem reconnecting_sockets_stop (s : Hook) (h : Reach step CleansUpWaiting {} s) :
    SocketsStop s ∧ ∀ t, step s .cleanup = some t →
      (CleansUpWaiting s .cleanup ↔ ∀ u, Reach step BrowserOnly t u → SocketsStop u) := by
  have htidy : Tidy s := h.invariant tidy_init tidy_step
  refine ⟨htidy.socketsStop, fun t ht => ?_⟩
  exact guard_iff_forall_reach ht htidy Tidy.socketsStop tidy_step cleansUpWaiting_of_browserOnly fun hg =>
    htidy.left_behind ht hg

end

/-- A hook whose socket closed before its page went away. -/
theorem closed_before_cleanup_stops :
    ∃ s, Reach step CleansUpWaiting {} s ∧ s.effects = 1 ∧ s.active = none ∧ SocketsStop s := by
  have heffect : CleansUpWaiting {} .effect := trivial
  have hclosed : CleansUpWaiting (({ effects := 1, active := some 0 } : Hook).connect 0) (.closed 0) := trivial
  have hcleanup : CleansUpWaiting ((({ effects := 1, active := some 0 } : Hook).connect 0).onclose 0 0) .cleanup := by
    intro e he
    cases he
    exact ⟨0, ⟨0, 1000⟩, rfl, rfl⟩
  have hreach : Reach step CleansUpWaiting {} _ :=
    ((Reach.refl.tail heffect rfl).tail hclosed rfl).tail hcleanup rfl
  exact ⟨_, hreach, rfl, rfl, (reconnecting_sockets_stop _ hreach).1⟩

/-- The page goes away while its socket is connected. -/
def leavePage : List Act := [.effect, .opened 0, .cleanup, .closed 0, .timer 0]

theorem left_page_reconnects : ¬ ∀ s : Hook, Reach step free {} s → SocketsStop s := by
  intro h
  have hstop := h _ (.of_run leavePage rfl)
  have hlate := hstop.inTime 1 ⟨0, .connecting, true⟩ rfl
  cases hlate

end WebSocketStream
end SocFabric
