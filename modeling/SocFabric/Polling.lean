import SocFabric.Lib.Lts
import SocFabric.Lib.Slots
import Mathlib.Data.List.Pairwise

/-!
# A page that polls (`shared/hooks/usePolling.ts`)

An effect run polls at once, and its timer polls again once the answer is dealt with. Its cleanup
aborts the request in `abortRef` and clears the timer it knows of. A request that is answered can no
longer be aborted, so a cleanup between the answer and `setTimeout` stops nothing. A run of one hook
interleaves effect runs, cleanups, answers, callbacks and timers in any order; `late` records
what is done for an effect run after its cleanup.
-/

namespace SocFabric
namespace Polling
open Lts

/-- An effect run, with the values that it closes over. -/
structure Effect where
  id : Nat
  url : String
  intervalMs : Nat
deriving DecidableEq, Repr

/-- What is thrown, as far as the `catch` block looks at it. -/
inductive Thrown
  | canceledError
  | error
  -- `null` or `undefined`, whose `name` cannot be read
  | nullish
deriving DecidableEq, Repr

inductive Answer (T : Type)
  | data (d : T)
  | rejected (err : Thrown)

inductive Phase (T : Type)
  | pending
  -- what `await` or the call of `onData` came to, with the code behind it still to run
  | settled (answer : Answer T)
  -- `setTimeout` comes next
  | handled
  | finished

/-- Neither a callback nor a timer can come of it any more. -/
def Phase.stopped {T : Type} : Phase T → Bool
  | .finished | .settled (.rejected .canceledError) | .settled (.rejected .nullish) => true
  | .pending | .settled (.data _) | .settled (.rejected .error) | .handled => false

structure Poll (T : Type) where
  effect : Effect
  late : Bool
  phase : Phase T

/-- A call of `onData` with data, or of `onError`. -/
structure Call (T : Type) where
  poll : Nat
  url : String
  late : Bool
  data : Option T

/-- A hook with its polls and armed timers, by number; each poll has the controller of its number.
`timeoutId` is the variable of that name of each effect run, and `active` the effect run whose
cleanup is still to come. -/
structure Hook (T : Type) where
  abortRef : Option Nat := none
  polls : Nat → Option (Poll T) := fun _ => none
  started : Nat := 0
  timers : Nat → Option Effect := fun _ => none
  armed : Nat := 0
  timeoutId : Nat → Option Nat := fun _ => none
  effects : Nat := 0
  active : Option Effect := none
  calls : List (Call T) := []

namespace Hook

variable {T : Type}

def poll (s : Hook T) (e : Effect) : Hook T :=
  { s with
    abortRef := some s.started
    polls := Function.update s.polls s.started (some ⟨e, s.active ≠ some e, .pending⟩)
    started := s.started + 1 }

def setPhase (s : Hook T) (i : Nat) (phase : Phase T) : Hook T :=
  { s with polls := Function.update s.polls i ((s.polls i).map ({ · with phase })) }

/-- `abortRef.current?.abort()`, which does nothing to a request that is answered. -/
def abort (s : Hook T) : Hook T :=
  match s.abortRef with
  | none => s
  | some i =>
    match s.polls i with
    | some ⟨_, _, .pending⟩ => s.setPhase i (.settled (.rejected .canceledError))
    | _ => s

def clearTimeout (s : Hook T) : Option Nat → Hook T
  | some τ => { s with timers := Function.update s.timers τ none }
  | none => s

def call (s : Hook T) (i : Nat) (p : Poll T) (data : Option T) : Hook T :=
  { s with calls := s.calls ++ [⟨i, p.effect.url, s.active ≠ some p.effect, data⟩] }

def setTimeout (s : Hook T) (e : Effect) : Hook T :=
  { s with
    timers := Function.update s.timers s.armed (some e)
    armed := s.armed + 1
    timeoutId := Function.update s.timeoutId e.id (some s.armed) }

end Hook

inductive Act (T : Type)
  | effect (url : String) (intervalMs : Nat)
  | cleanup
  | answer (i : Nat) (data : Option T)
  -- `onData` is called, and what it throws
  | onData (i : Nat) (thrown : Option Thrown)
  -- the `catch` block: there is no `onError`, or it throws or not
  | onError (i : Nat) (throws : Option Bool)
  | setTimeout (i : Nat)
  | timer (τ : Nat)

variable {T : Type}

def step (s : Hook T) : Act T → Option (Hook T)
  | .effect url intervalMs =>
    if s.active = none then
      let e : Effect := ⟨s.effects, url, intervalMs⟩
      some (({ s with effects := s.effects + 1, active := some e } : Hook T).poll e)
    else none
  | .cleanup => s.active.map fun e => { (s.abort.clearTimeout (s.timeoutId e.id)) with active := none }
  | .answer i data =>
    match s.polls i with
    | some ⟨_, _, .pending⟩ => some (s.setPhase i (.settled (data.elim (.rejected .error) .data)))
    | _ => none
  | .onData i thrown =>
    match s.polls i with
    | some ⟨e, late, .settled (.data d)⟩ =>
      some ((s.call i ⟨e, late, .settled (.data d)⟩ (some d)).setPhase i
        (thrown.elim .handled fun err => .settled (.rejected err)))
    | _ => none
  | .onError i throws =>
    match s.polls i with
    | some ⟨_, _, .settled (.rejected .canceledError)⟩ => some (s.setPhase i .finished)
    | some ⟨_, _, .settled (.rejected .nullish)⟩ => some (s.setPhase i .finished)
    | some ⟨e, late, .settled (.rejected .error)⟩ =>
      match throws with
      | none => some (s.setPhase i .handled)
      | some throws =>
        some ((s.call i ⟨e, late, .settled (.rejected .error)⟩ none).setPhase i (if throws then .finished else .handled))
    | _ => none
  | .setTimeout i =>
    match s.polls i with
    | some ⟨e, _, .handled⟩ => some ((s.setTimeout e).setPhase i .finished)
    | _ => none
  | .timer τ => (s.timers τ).map fun e => ({ s with timers := Function.update s.timers τ none } : Hook T).poll e

/-! ### What a run is to keep -/

/-- Nothing of an effect run goes on after its cleanup. -/
structure CleanedUp (s : Hook T) : Prop where
  polls : ∀ i p, s.polls i = some p → p.phase.stopped = false → s.active = some p.effect
  timers : ∀ τ e, s.timers τ = some e → s.active = some e

/-- No poll and no callback comes after its cleanup, one poll at a time is under way while no timer
runs, and the callbacks come in the order of the polls. -/
structure OneLoop (s : Hook T) : Prop where
  polls : ∀ i p, s.polls i = some p → p.late = false
  calls : ∀ c ∈ s.calls, c.late = false
  single : ∀ i j p q, s.polls i = some p → s.polls j = some q → p.phase.stopped = false →
    q.phase.stopped = false → i = j
  timers : ∀ i p τ e, s.polls i = some p → p.phase.stopped = false → s.timers τ ≠ some e
  ordered : s.calls.Pairwise fun c d => c.poll ≤ d.poll

/-- A cleanup comes while no poll is between its answer and `setTimeout`. -/
def CleansUpInTime (s : Hook T) : Act T → Prop
  | .cleanup => ∀ i p, s.polls i = some p → p.phase = .pending ∨ p.phase.stopped
  | _ => True

/-- The hook is not mounted again. -/
def NotMounting (_ : Hook T) : Act T → Prop
  | .effect _ _ => False
  | _ => True

/-! ### One step -/

def AllStopped (s : Hook T) : Prop := ∀ i p, s.polls i = some p → p.phase.stopped

/-- Where a hook is if its cleanups came in time. -/
inductive At (s : Hook T) : Prop
  -- not mounted, or its loop has ended with an exception
  | quiet (hstopped : AllStopped s) (htimers : ∀ τ, s.timers τ = none)
  | polling (i : Nat) (p : Poll T) (hactive : s.active = some p.effect) (hi : s.polls i = some p)
      (hp : p.phase.stopped = false) (hlast : i + 1 = s.started) (habort : p.phase = .pending → s.abortRef = some i)
      (hothers : ∀ j q, s.polls j = some q → j ≠ i → q.phase.stopped) (htimers : ∀ τ, s.timers τ = none)
  | waiting (τ : Nat) (e : Effect) (hactive : s.active = some e) (hstopped : AllStopped s)
      (hτ : s.timers τ = some e) (hothers : ∀ τ', τ' ≠ τ → s.timers τ' = none) (hid : s.timeoutId e.id = some τ)

structure Tidy (s : Hook T) : Prop where
  polls : ∀ i p, s.polls i = some p → p.late = false
  calls : ∀ c ∈ s.calls, c.late = false ∧ c.poll < s.started
  ordered : s.calls.Pairwise fun c d => c.poll ≤ d.poll
  place : At s

section
variable {s t : Hook T} {a : Act T} {i : Nat} {p : Poll T} {phase : Phase T}

theorem Tidy.cleanedUp (h : Tidy s) : CleanedUp s := by
  cases h.place with
  | quiet hstopped htimers =>
    refine ⟨fun i p hi hp => ?_, fun τ e hτ => ?_⟩
    · simp [hstopped i p hi] at hp
    · cases (htimers τ).symm.trans hτ
  | polling i p hactive hi _ _ _ hothers htimers =>
    refine ⟨fun j q hj hq => ?_, fun τ e hτ => ?_⟩
    · by_cases hji : j = i
      · subst hji
        cases hi.symm.trans hj
        exact hactive
      · simp [hothers j q hj hji] at hq
    · cases (htimers τ).symm.trans hτ
  | waiting τ e hactive hstopped hτ hothers =>
    refine ⟨fun i p hi hp => ?_, fun τ' e' hτ' => ?_⟩
    · simp [hstopped i p hi] at hp
    · by_cases hττ : τ' = τ
      · subst hττ
        cases hτ.symm.trans hτ'
        exact hactive
      · cases (hothers τ' hττ).symm.trans hτ'

theorem Tidy.oneLoop (h : Tidy s) : OneLoop s := by
  refine ⟨h.polls, fun c hc => (h.calls c hc).1, ?_, ?_, h.ordered⟩
  · intro i j p q hi hj hp hq
    cases h.place with
    | quiet hstopped => simp [hstopped i p hi] at hp
    | waiting _ _ _ hstopped => simp [hstopped i p hi] at hp
    | polling k _ _ _ _ _ _ hothers =>
      have hlive {j : Nat} {q : Poll T} (hj : s.polls j = some q) (hq : q.phase.stopped = false) : j = k := by
        by_contra hjk
        simp [hothers j q hj hjk] at hq
      rw [hlive hi hp, hlive hj hq]
  · intro i p τ e hi hp hτ
    cases h.place with
    | quiet hstopped => simp [hstopped i p hi] at hp
    | waiting _ _ _ hstopped => simp [hstopped i p hi] at hp
    | polling _ _ _ _ _ _ _ _ htimers => cases (htimers τ).symm.trans hτ

/-- A poll is started for the effect run that is mounted while everything else is at rest. -/
theorem Tidy.poll {e : Effect} (hactive : s.active = some e) (hstopped : AllStopped s)
    (htimers : ∀ τ, s.timers τ = none) (hpolls : ∀ i p, s.polls i = some p → p.late = false)
    (hcalls : ∀ c ∈ s.calls, c.late = false ∧ c.poll < s.started)
    (hordered : s.calls.Pairwise fun c d => c.poll ≤ d.poll) : Tidy (s.poll e) := by
  refine ⟨fun i p hi => ?_, fun c hc => ?_, hordered, ?_⟩
  · rcases Slots.update_cases hi with ⟨-, heq⟩ | ⟨-, hi⟩
    · cases heq
      simp [hactive]
    · exact hpolls i p hi
  · exact ⟨(hcalls c hc).1, Nat.lt_succ_of_lt (hcalls c hc).2⟩
  · refine .polling s.started ⟨e, s.active ≠ some e, .pending⟩ hactive (Function.update_self ..) rfl rfl
      (fun _ => rfl) (fun j q hj hjs => ?_) htimers
    rcases Slots.update_cases hj with ⟨hjs', -⟩ | ⟨-, hj⟩
    · exact absurd hjs' hjs
    · exact hstopped j q hj

theorem setPhase_cases {j : Nat} {q : Poll T} (hj : (s.setPhase i phase).polls j = some q) :
    (j = i ∧ ∃ p, s.polls i = some p ∧ q = { p with phase }) ∨ (j ≠ i ∧ s.polls j = some q) :=
  Slots.modify_cases hj

/-- The poll under way gets on. -/
theorem Tidy.setPhase (h : Tidy s) (hi : s.polls i = some p) (hp : p.phase.stopped = false)
    (hphase : phase ≠ .pending) : Tidy (s.setPhase i phase) := by
  refine ⟨fun j q hj => ?_, h.calls, h.ordered, ?_⟩
  · rcases setPhase_cases hj with ⟨-, p', hp', rfl⟩ | ⟨-, hj⟩
    · exact h.polls i p' hp'
    · exact h.polls j q hj
  · cases h.place with
    | quiet hstopped => simp [hstopped i p hi] at hp
    | waiting _ _ _ hstopped => simp [hstopped i p hi] at hp
    | polling k p' hactive hk _ hlast _ hothers htimers =>
      obtain rfl : i = k := by
        by_contra hik
        simp [hothers i p hi hik] at hp
      obtain rfl : p' = p := Option.some.inj (hk.symm.trans hi)
      have hself : (s.setPhase i phase).polls i = some { p' with phase } := by
        simp [Hook.setPhase, hi]
      have hrest (j : Nat) (q : Poll T) (hj : (s.setPhase i phase).polls j = some q) (hji : j ≠ i) :
          q.phase.stopped := by
        rcases setPhase_cases hj with ⟨hji', -⟩ | ⟨-, hj⟩
        · exact absurd hji' hji
        · exact hothers j q hj hji
      cases hs : phase.stopped with
      | true =>
        refine .quiet (fun j q hj => ?_) htimers
        by_cases hji : j = i
        · subst hji
          cases hself.symm.trans hj
          exact hs
        · exact hrest j q hj hji
      | false =>
        exact .polling i { p' with phase } hactive hself hs hlast (fun h' => absurd h' hphase) hrest htimers

/-- A poll that is at rest ends. -/
theorem Tidy.setOver (h : Tidy s) (hi : s.polls i = some p) (hp : p.phase.stopped = true) :
    Tidy (s.setPhase i .finished) := by
  have hpolls (j : Nat) (q : Poll T) (hj : (s.setPhase i .finished).polls j = some q) :
      q.phase.stopped = true ∨ s.polls j = some q := by
    rcases setPhase_cases hj with ⟨-, p', -, rfl⟩ | ⟨-, hj⟩
    · exact .inl rfl
    · exact .inr hj
  refine ⟨fun j q hj => ?_, h.calls, h.ordered, ?_⟩
  · rcases setPhase_cases hj with ⟨-, p', hp', rfl⟩ | ⟨-, hj⟩
    · exact h.polls i p' hp'
    · exact h.polls j q hj
  · cases h.place with
    | quiet hstopped htimers =>
      exact .quiet (fun j q hj => (hpolls j q hj).elim id (hstopped j q)) htimers
    | waiting τ e hactive hstopped hτ hothers hid =>
      exact .waiting τ e hactive (fun j q hj => (hpolls j q hj).elim id (hstopped j q)) hτ hothers hid
    | polling k p' hactive hk hp' hlast habort hothers htimers =>
      have hki : k ≠ i := by
        rintro rfl
        cases hi.symm.trans hk
        simp [hp] at hp'
      exact .polling k p' hactive ((Function.update_of_ne hki ..).trans hk) hp' hlast habort
        (fun j q hj hjk => (hpolls j q hj).elim id (hothers j q · hjk)) htimers

/-- A callback of the poll under way. -/
theorem Tidy.call (h : Tidy s) (hi : s.polls i = some p) (hp : p.phase.stopped = false) (data : Option T) :
    Tidy (s.call i p data) := by
  cases h.place with
  | quiet hstopped => simp [hstopped i p hi] at hp
  | waiting _ _ _ hstopped => simp [hstopped i p hi] at hp
  | polling k p' hactive hk hp' hlast habort hothers htimers =>
    obtain rfl : i = k := by
      by_contra hik
      simp [hothers i p hi hik] at hp
    obtain rfl : p' = p := Option.some.inj (hk.symm.trans hi)
    refine ⟨h.polls, fun c hc => ?_, List.pairwise_append.mpr ⟨h.ordered, List.pairwise_singleton .., ?_⟩,
      .polling i p' hactive hk hp' hlast habort hothers htimers⟩
    · rcases List.mem_append.mp hc with hc | hc
      · exact h.calls c hc
      · rw [List.mem_singleton.mp hc]
        exact ⟨by simp [hactive], by show i < s.started; omega⟩
    · intro c hc d hd
      rw [List.mem_singleton.mp hd]
      have hlt := (h.calls c hc).2
      show c.poll ≤ i
      omega

/-- The loop of the effect run that is mounted waits for its timer. -/
theorem Tidy.setTimeout (h : Tidy s) {e : Effect} {late : Bool} (hi : s.polls i = some ⟨e, late, .handled⟩) :
    Tidy ((s.setTimeout e).setPhase i .finished) := by
  cases h.place with
  | quiet hstopped => cases hstopped i _ hi
  | waiting _ _ _ hstopped => cases hstopped i _ hi
  | polling k p' hactive hk _ _ _ hothers htimers =>
    obtain rfl : i = k := by
      by_contra hik
      cases hothers i _ hi hik
    obtain rfl : p' = ⟨e, late, .handled⟩ := Option.some.inj (hk.symm.trans hi)
    refine ⟨fun j q hj => ?_, h.calls, h.ordered, .waiting s.armed e hactive (fun j q hj => ?_)
      (Function.update_self ..) (fun τ hτ => (Function.update_of_ne hτ ..).trans (htimers τ)) (Function.update_self ..)⟩
    · rcases setPhase_cases hj with ⟨-, p', hp', rfl⟩ | ⟨-, hj⟩
      · exact h.polls i p' hp'
      · exact h.polls j q hj
    · rcases setPhase_cases hj with ⟨-, p', -, rfl⟩ | ⟨hji, hj⟩
      · rfl
      · exact hothers j q hj hji

theorem clearTimeout_polls (τ : Option Nat) : (s.clearTimeout τ).polls = s.polls := by
  cases τ with
  | none => rfl
  | some τ => rfl

theorem clearTimeout_timers (htimers : ∀ τ, s.timers τ = none) (τ : Option Nat) (τ' : Nat) :
    (s.clearTimeout τ).timers τ' = none := by
  cases τ with
  | none => exact htimers τ'
  | some τ => exact Slots.update_none (fun i _ => htimers i) τ'

theorem abort_of_pending (habort : s.abortRef = some i) (hi : s.polls i = some p) (hp : p.phase = .pending) :
    s.abort = s.setPhase i (.settled (.rejected .canceledError)) := by
  obtain ⟨e, late, phase⟩ := p
  cases hp
  simp only [Hook.abort, habort, hi]

/-- An abort stops the poll in `abortRef` if it is pending, and nothing else. -/
theorem abort_cases (s : Hook T) :
    s.abort = s ∨ ∃ i p, s.abortRef = some i ∧ s.polls i = some p ∧ p.phase = .pending ∧
      s.abort = s.setPhase i (.settled (.rejected .canceledError)) := by
  unfold Hook.abort
  split
  · exact .inl rfl
  · rename_i i habort
    split
    · rename_i e late hi
      exact .inr ⟨i, _, habort, hi, rfl, rfl⟩
    · exact .inl rfl

/-- Whatever is aborted is at rest, and what was not pending stays. -/
theorem abort_polls {j : Nat} {q : Poll T} (hj : s.abort.polls j = some q) :
    q.phase.stopped ∨ s.polls j = some q := by
  rcases abort_cases s with heq | ⟨i, p, -, -, -, heq⟩
  · rw [heq] at hj
    exact .inr hj
  · rw [heq] at hj
    rcases setPhase_cases hj with ⟨-, p', -, rfl⟩ | ⟨-, hj⟩
    · exact .inl rfl
    · exact .inr hj

theorem abort_of_settled (hi : s.polls i = some p) (hp : p.phase ≠ .pending) : s.abort.polls i = some p := by
  rcases abort_cases s with heq | ⟨k, p', -, hk, hpending, heq⟩
  · rw [heq]
    exact hi
  · have hik : i ≠ k := by
      rintro rfl
      cases hi.symm.trans hk
      exact hp hpending
    rw [heq]
    exact (Function.update_of_ne hik ..).trans hi

theorem abort_rest (s : Hook T) : s.abort.timers = s.timers ∧ s.abort.timeoutId = s.timeoutId ∧
    s.abort.started = s.started ∧ s.abort.calls = s.calls := by
  rcases abort_cases s with heq | ⟨i, p, -, -, -, heq⟩
  · rw [heq]
    exact ⟨rfl, rfl, rfl, rfl⟩
  · rw [heq]
    exact ⟨rfl, rfl, rfl, rfl⟩

theorem late_abort (hpolls : ∀ i p, s.polls i = some p → p.late = false) {j : Nat} {q : Poll T}
    (hj : s.abort.polls j = some q) : q.late = false := by
  rcases abort_cases s with heq | ⟨i, p, -, hi, -, heq⟩
  · rw [heq] at hj
    exact hpolls j q hj
  · rw [heq] at hj
    rcases setPhase_cases hj with ⟨-, p', hp', rfl⟩ | ⟨-, hj⟩
    · exact hpolls i p' hp'
    · exact hpolls j q hj

theorem clearTimeout_rest (τ : Option Nat) :
    (s.clearTimeout τ).started = s.started ∧ (s.clearTimeout τ).calls = s.calls := by
  cases τ with
  | none => exact ⟨rfl, rfl⟩
  | some τ => exact ⟨rfl, rfl⟩

theorem Tidy.cleanup (h : Tidy s) (hg : CleansUpInTime s .cleanup) {e : Effect} (he : s.active = some e) :
    Tidy ({ (s.abort.clearTimeout (s.timeoutId e.id)) with active := none } : Hook T) := by
  obtain ⟨htimersEq, -, hstarted, hcallsEq⟩ := abort_rest s
  obtain ⟨hstarted', hcalls'⟩ := clearTimeout_rest (s := s.abort) (s.timeoutId e.id)
  have hpolls (j : Nat) (q : Poll T) (hj : (s.abort.clearTimeout (s.timeoutId e.id)).polls j = some q) :
      s.abort.polls j = some q := by
    rwa [clearTimeout_polls] at hj
  refine ⟨fun j q hj => late_abort h.polls (hpolls j q hj), ?_, ?_, .quiet (fun j q hj => ?_) fun τ => ?_⟩
  · show ∀ c ∈ (s.abort.clearTimeout (s.timeoutId e.id)).calls, c.late = false ∧ c.poll < _
    rw [hcalls', hcallsEq]
    show ∀ c ∈ s.calls, c.late = false ∧ c.poll < (s.abort.clearTimeout (s.timeoutId e.id)).started
    rw [hstarted', hstarted]
    exact h.calls
  · show (s.abort.clearTimeout (s.timeoutId e.id)).calls.Pairwise _
    rw [hcalls', hcallsEq]
    exact h.ordered
  · have hj := hpolls j q hj
    rcases abort_polls hj with hq | hjold
    · exact hq
    · cases h.place with
      | quiet hstopped => exact hstopped j q hjold
      | waiting _ _ _ hstopped => exact hstopped j q hjold
      | polling i p _ hi hp _ habort hothers _ =>
        by_cases hji : j = i
        · subst hji
          obtain rfl : p = q := Option.some.inj (hi.symm.trans hjold)
          rcases hg j p hi with hpending | hstopped
          · rw [abort_of_pending (habort hpending) hi hpending] at hj
            rcases setPhase_cases hj with ⟨-, _, -, rfl⟩ | ⟨hne, -⟩
            · rfl
            · exact absurd rfl hne
          · exact hstopped
        · exact hothers j q hjold hji
  · show (s.abort.clearTimeout (s.timeoutId e.id)).timers τ = none
    cases h.place with
    | quiet _ htimers => exact clearTimeout_timers (by rwa [htimersEq]) _ τ
    | polling _ _ _ _ _ _ _ _ htimers => exact clearTimeout_timers (by rwa [htimersEq]) _ τ
    | waiting τ' e' hactive _ _ hothers hid =>
      cases he.symm.trans hactive
      rw [hid]
      exact Slots.update_none (by rwa [htimersEq]) τ

theorem Tidy.effect (h : Tidy s) (hactive : s.active = none) (url : String) (intervalMs : Nat) :
    Tidy (({ s with effects := s.effects + 1, active := some ⟨s.effects, url, intervalMs⟩ } : Hook T).poll
      ⟨s.effects, url, intervalMs⟩) := by
  cases h.place with
  | quiet hstopped htimers => exact Tidy.poll rfl hstopped htimers h.polls h.calls h.ordered
  | polling _ _ hactive' => cases hactive.symm.trans hactive'
  | waiting _ _ hactive' => cases hactive.symm.trans hactive'

theorem Tidy.timer (h : Tidy s) {τ : Nat} {e : Effect} (hτ : s.timers τ = some e) :
    Tidy (({ s with timers := Function.update s.timers τ none } : Hook T).poll e) := by
  cases h.place with
  | quiet _ htimers => cases (htimers τ).symm.trans hτ
  | polling _ _ _ _ _ _ _ _ htimers => cases (htimers τ).symm.trans hτ
  | waiting τ' e' hactive hstopped hτ' hothers =>
    obtain rfl : τ = τ' := by
      by_contra hne
      cases (hothers τ hne).symm.trans hτ
    cases hτ.symm.trans hτ'
    exact Tidy.poll hactive hstopped (Slots.update_none hothers) h.polls h.calls h.ordered

theorem tidy_step (hs : step s a = some t) (h : Tidy s) (hg : CleansUpInTime s a) : Tidy t := by
  cases a <;> simp only [step] at hs
  case effect url intervalMs =>
    split_ifs at hs with hactive
    cases hs
    exact h.effect hactive url intervalMs
  case cleanup =>
    obtain ⟨e, he, rfl⟩ := Option.map_eq_some_iff.mp hs
    exact h.cleanup hg he
  case answer i data =>
    split at hs
    · rename_i hi
      cases hs
      exact h.setPhase hi rfl nofun
    · cases hs
  case onData i thrown =>
    split at hs
    · rename_i d hi
      cases hs
      refine (h.call hi rfl (some d)).setPhase hi rfl ?_
      cases thrown with
      | none => nofun
      | some err => nofun
    · cases hs
  case onError i throws =>
    split at hs
    · rename_i hi
      cases hs
      exact h.setOver hi rfl
    · rename_i hi
      cases hs
      exact h.setOver hi rfl
    · rename_i hi
      split at hs
      · cases hs
        exact h.setPhase hi rfl nofun
      · rename_i throws
        cases hs
        refine (h.call hi rfl none).setPhase hi rfl ?_
        cases throws with
        | false => nofun
        | true => nofun
    · cases hs
  case setTimeout i =>
    split at hs
    · rename_i hi
      cases hs
      exact h.setTimeout hi
    · cases hs
  case timer τ =>
    obtain ⟨e, hτ, rfl⟩ := Option.map_eq_some_iff.mp hs
    exact h.timer hτ

/-! ### A poll left behind -/

/-- A cleanup that is not in time leaves a poll that goes on. -/
theorem left_behind (hs : step s .cleanup = some t) (hg : ¬ CleansUpInTime s .cleanup) :
    t.active = none ∧ ∃ i p, t.polls i = some p ∧ p.phase.stopped = false := by
  obtain ⟨e, -, rfl⟩ := Option.map_eq_some_iff.mp hs
  have hbad : ∃ i p, s.polls i = some p ∧ p.phase ≠ .pending ∧ p.phase.stopped = false := by
    by_contra hnone
    refine hg fun i p hi => ?_
    by_contra hp
    rw [not_or, Bool.not_eq_true] at hp
    exact hnone ⟨i, p, hi, hp⟩
  obtain ⟨i, p, hi, hp, hstopped⟩ := hbad
  refine ⟨rfl, i, p, ?_, hstopped⟩
  show (s.abort.clearTimeout (s.timeoutId e.id)).polls i = some p
  rw [clearTimeout_polls]
  exact abort_of_settled hi hp

theorem not_in_time {d : T} (hi : s.polls i = some p)
    (hp : p.phase = .settled (.data d)) : ¬ CleansUpInTime s .cleanup := by
  intro hg
  rcases hg i p hi with h | h
  · rw [hp] at h
    cases h
  · rw [hp] at h
    cases h

/-- From `setTimeout` to the next request. -/
theorem handled_polls {e : Effect} {late : Bool} (hactive : s.active = none)
    (hi : s.polls i = some ⟨e, late, .handled⟩) :
    ∃ u, Reach step NotMounting s u ∧ u.active = none ∧ u.started = s.started + 1 ∧
      u.polls s.started = some ⟨e, true, .pending⟩ := by
  have hset : step s (.setTimeout i) = some ((s.setTimeout e).setPhase i .finished) := by
    simp only [step, hi]
  have htimer : ((s.setTimeout e).setPhase i .finished).timers s.armed = some e := Function.update_self ..
  refine ⟨_, (Reach.refl.tail trivial hset).tail trivial (a := .timer s.armed)
    (Option.map_eq_some_iff.mpr ⟨_, htimer, rfl⟩), hactive, rfl, ?_⟩
  show Function.update _ s.started _ s.started = _
  rw [Function.update_self]
  simp [Hook.setPhase, Hook.setTimeout, hactive]

/-- Any poll that goes on can go on to the next request. -/
theorem live_polls (hactive : s.active = none) (hi : s.polls i = some p) (hp : p.phase.stopped = false) :
    ∃ u, Reach step NotMounting s u ∧ u.active = none ∧ u.started = s.started + 1 ∧
      ∃ q, u.polls s.started = some q ∧ q.late = true ∧ q.phase = .pending := by
  -- the answer is an error, and there is no `onError`
  have herror {s : Hook T} {e : Effect} {late : Bool} (hactive : s.active = none)
      (hi : s.polls i = some ⟨e, late, .settled (.rejected .error)⟩) :
      ∃ u, Reach step NotMounting s u ∧ u.active = none ∧ u.started = s.started + 1 ∧
        ∃ q, u.polls s.started = some q ∧ q.late = true ∧ q.phase = .pending := by
    have hcaught : step s (.onError i none) = some (s.setPhase i .handled) := by
      simp only [step, hi]
    have hhandled : (s.setPhase i .handled).polls i = some ⟨e, late, .handled⟩ := by
      simp [Hook.setPhase, hi]
    obtain ⟨u, hu, hnone, hstarted, hpoll⟩ := handled_polls (s := s.setPhase i .handled) hactive hhandled
    exact ⟨u, (Reach.refl.tail trivial hcaught).trans hu, hnone, hstarted, _, hpoll, rfl, rfl⟩
  obtain ⟨e, late, phase⟩ := p
  cases phase with
  | pending =>
    have hanswer : step s (.answer i none) = some (s.setPhase i (.settled (.rejected .error))) := by
      simp only [step, hi, Option.elim]
    have hsettled : (s.setPhase i (.settled (.rejected .error))).polls i =
        some ⟨e, late, .settled (.rejected .error)⟩ := by
      simp [Hook.setPhase, hi]
    obtain ⟨u, hu, hrest⟩ := herror (s := s.setPhase i (.settled (.rejected .error))) hactive hsettled
    exact ⟨u, (Reach.refl.tail trivial hanswer).trans hu, hrest⟩
  | settled answer =>
    cases answer with
    | data d =>
      have hdata : step s (.onData i none) =
          some ((s.call i ⟨e, late, .settled (.data d)⟩ (some d)).setPhase i .handled) := by
        simp only [step, hi, Option.elim]
      have hhandled : ((s.call i ⟨e, late, .settled (.data d)⟩ (some d)).setPhase i .handled).polls i =
          some ⟨e, late, .handled⟩ := by
        simp [Hook.setPhase, Hook.call, hi]
      obtain ⟨u, hu, hnone, hstarted, hpoll⟩ :=
        handled_polls (s := (s.call i ⟨e, late, .settled (.data d)⟩ (some d)).setPhase i .handled) hactive hhandled
      exact ⟨u, (Reach.refl.tail trivial hdata).trans hu, hnone, hstarted, _, hpoll, rfl, rfl⟩
    | rejected err =>
      cases err with
      | error => exact herror hactive hi
      | canceledError => cases hp
      | nullish => cases hp
  | handled =>
    obtain ⟨u, hu, hnone, hstarted, hpoll⟩ := handled_polls hactive hi
    exact ⟨u, hu, hnone, hstarted, _, hpoll, rfl, rfl⟩
  | finished => cases hp

/-- A poll that goes on in a hook that is not mounted can do so any number of times. -/
theorem polls_forever (hactive : s.active = none) (hi : s.polls i = some p) (hp : p.phase.stopped = false) (n : Nat) :
    ∃ u, Reach step NotMounting s u ∧ u.active = none ∧ u.started = s.started + n := by
  induction n generalizing s i p with
  | zero => exact ⟨s, .refl, hactive, rfl⟩
  | succ n ih =>
    obtain ⟨t, ht, hnone, hstarted, q, hq, -, hpending⟩ := live_polls hactive hi hp
    obtain ⟨u, hu, hnone', hstarted'⟩ := ih hnone hq (by rw [hpending]; rfl)
    refine ⟨u, ht.trans hu, hnone', ?_⟩
    omega

end

/-! ### A run -/

theorem tidy_init : Tidy ({} : Hook T) := by
  refine ⟨?_, ?_, List.Pairwise.nil, .quiet ?_ fun _ => rfl⟩
  · intro i p hi
    cases hi
  · intro c hc
    cases hc
  · intro i p hi
    cases hi

/-- In all states of a run nothing goes on after its cleanup and there is one loop at most, exactly if
every cleanup of the run comes in time. -/
theorem polling_stops_iff (as : List (Act T)) (s : Hook T) (h : run step free ({} : Hook T) as = some s) :
    (∀ past rest t, as = past ++ rest → run step free {} past = some t → CleanedUp t ∧ OneLoop t) ↔
      ∀ past a rest t, as = past ++ a :: rest → run step free {} past = some t → CleansUpInTime t a := by
  refine forall_reached_iff_of_invariant (J := Tidy) h tidy_init (fun ht => ⟨ht.cleanedUp, ht.oneLoop⟩) tidy_step ?_
  intro t v a hs _ hg hgood
  cases a <;> try exact hg trivial
  obtain ⟨hactive, i, p, hi, hp⟩ := left_behind hs hg
  cases hactive.symm.trans (hgood.1.polls i p hi hp)

/-- The page goes away between an answer and its callback. -/
def leaveBeforeCallback : List (Act String) :=
  [.effect "/metrics/overview" 30000, .answer 0 (some "metrics"), .cleanup]

theorem answered_page_not_cleaned_up :
    ∃ s, run step free {} leaveBeforeCallback = some s ∧
      ¬ ∀ past rest t, leaveBeforeCallback = past ++ rest → run step free {} past = some t →
        CleanedUp t ∧ OneLoop t := by
  refine ⟨_, rfl, fun hgood => ?_⟩
  have hguard := (polling_stops_iff leaveBeforeCallback _ rfl).mp hgood
  exact not_in_time (i := 0) rfl rfl (hguard (leaveBeforeCallback.take 2) .cleanup [] _ rfl rfl)

/-- After a cleanup that is not in time, the hook can send any number of requests without being mounted
again. -/
theorem late_cleanup_polls_forever (s t : Hook T) (hs : step s .cleanup = some t) (hg : ¬ CleansUpInTime s .cleanup)
    (n : Nat) : ∃ u, Reach step NotMounting t u ∧ u.active = none ∧ u.started = t.started + n := by
  obtain ⟨hactive, i, p, hi, hp⟩ := left_behind hs hg
  exact polls_forever hactive hi hp n

theorem answered_page_polls_forever :
    ∃ s t, run step free {} (leaveBeforeCallback.take 2) = some s ∧ step s .cleanup = some t ∧
      ∃ u, Reach step NotMounting t u ∧ u.active = none ∧ u.started = t.started + 100 := by
  obtain ⟨s, hs⟩ : ∃ s, run step free ({} : Hook String) (leaveBeforeCallback.take 2) = some s := ⟨_, rfl⟩
  have hlate : ¬ CleansUpInTime s .cleanup := by
    cases hs
    exact not_in_time (i := 0) rfl rfl
  obtain ⟨t, ht⟩ : ∃ t, step s .cleanup = some t := by
    cases hs
    exact ⟨_, rfl⟩
  exact ⟨s, t, hs, ht, late_cleanup_polls_forever s t ht hlate 100⟩

end Polling
end SocFabric
