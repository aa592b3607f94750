import SocFabric.Playbooks
import SocFabric.WebSocketStream

/-!
# The page of the playbooks (`features/playbooks/ui/PlaybookSandbox.tsx`)

A run opens a socket to `websocket_playbook_execution` and keeps what it shows of a playbook in
`executionCache`. Another run closes the socket in `activeWsRef`, and the stop button closes it for
whichever playbook it is pressed; any close event empties `activeWsRef`. A run of the page
interleaves the analyst, the sockets and the handlers behind them.
-/

namespace SocFabric
namespace PlaybookConsole
open Lts Playbooks
open WebSocketStream (ReadyState)

/-! ### The page -/

inductive Status
  | queued
  | running
  | success
  | failed
deriving DecidableEq, Repr

def Status.unfinished : Status → Bool
  | .queued | .running => true
  | .success | .failed => false

structure ExecutionState where
  status : Status
  output : List String
  exitCode : Option Nat := none
  duration : Option Nat := none
deriving DecidableEq, Repr

def queued : ExecutionState := ⟨.queued, ["> Initiating sandbox execution container..."], none, none⟩

def ExecutionState.line (e : ExecutionState) (line : String) : ExecutionState := { e with output := e.output ++ [line] }

/-- What `onmessage` shows of an output: an empty text is falsy, and the message is shown as it came. -/
def shownLine (line : String) : String := if line = "" then "\x7b\"output\":\"\"\x7d" else line

def ExecutionState.onmessage (e : ExecutionState) : Playbooks.Frame → ExecutionState
  | .output line => e.line (shownLine line)
  | .done exitCode _ duration =>
    { e with
      status := if exitCode = 0 then .success else .failed
      exitCode := some exitCode
      duration := some duration }

/-- A socket; `frames` is what its handler still has to send, once the sandbox has answered. -/
structure Socket where
  playbookId : String
  readyState : ReadyState := .connecting
  frames : Option (List Playbooks.Frame) := none
deriving DecidableEq, Repr

def Socket.live (w : Socket) : Bool := w.readyState = .connecting || w.readyState = .opened

structure Page where
  executionCache : String → Option ExecutionState := fun _ => none
  activeWsRef : Option Nat := none
  sockets : Nat → Option Socket := fun _ => none
  created : Nat := 0

def Page.setSocket (s : Page) (i : Nat) (w : Socket) : Page := { s with sockets := Function.update s.sockets i (some w) }

def Page.modifyCache (s : Page) (playbookId : String) (f : ExecutionState → ExecutionState) : Page :=
  { s with executionCache := Function.update s.executionCache playbookId ((s.executionCache playbookId).map f) }

/-- `close()` of the socket in `activeWsRef`. -/
def Page.closeActive (s : Page) : Page :=
  match s.activeWsRef.bind fun i => (s.sockets i).map fun w => (i, w) with
  | some (i, w) => if w.live then s.setSocket i { w with readyState := .closing } else s
  | none => s

inductive Act
  | runPlaybook (playbookId : String)
  | opened (i : Nat)
  | reply (i : Nat) (r : Reply)
  | message (i : Nat)
  | closed (i : Nat)
  | stopExecution (playbookId : String)

def Page.isRunning (s : Page) (playbookId : String) : Bool :=
  (s.executionCache playbookId).any (·.status = .running)

def step (s : Page) : Act → Option Page
  -- the button is there for a playbook that is not running
  | .runPlaybook playbookId =>
    if s.isRunning playbookId then none
    else
      some { s.closeActive.setSocket s.created { playbookId := playbookId } with
        executionCache := Function.update s.executionCache playbookId (some queued)
        activeWsRef := some s.created
        created := s.created + 1 }
  | .opened i => do
    let w ← s.sockets i
    match w.readyState with
    | .connecting =>
      return (s.setSocket i { w with readyState := .opened }).modifyCache w.playbookId fun e =>
        { e.line "> Connected to sandbox stream..." with status := .running }
    | .opened | .closing | .closed => none
  | .reply i r => do
    let w ← s.sockets i
    match w.frames with
    | none => return s.setSocket i { w with frames := some (streamFrames r) }
    | some _ => none
  | .message i => do
    let w ← s.sockets i
    match w.readyState, w.frames with
    | .opened, some (frame :: frames) =>
      return (s.setSocket i { w with frames := some frames }).modifyCache w.playbookId (·.onmessage frame)
    | _, _ => none
  | .closed i => do
    let w ← s.sockets i
    if w.readyState = .closed then none
    else return { s.setSocket i { w with readyState := .closed } with activeWsRef := none }
  | .stopExecution playbookId =>
    if s.isRunning playbookId then
      match s.activeWsRef with
      | none => some s
      | some _ =>
        some (s.closeActive.modifyCache playbookId fun e =>
          { e.line "> Execution forcibly terminated by user." with status := .failed })
    else none

/-! ### What a run is to keep -/

/-- Only the socket of the last run is live, and it is the one in `activeWsRef`; what the page shows as
queued or running is what this socket runs. -/
structure Honest (s : Page) : Prop where
  live : ∀ i w, s.sockets i = some w → w.live = true → s.activeWsRef = some i
  last : ∀ i, s.activeWsRef = some i → i + 1 = s.created
  unfinished : ∀ p e, s.executionCache p = some e → e.status.unfinished = true →
    ∃ i w, s.activeWsRef = some i ∧ s.sockets i = some w ∧ w.playbookId = p ∧ w.live = true

/-- A run starts while no other playbook is unfinished, and a close event comes while none is and the
socket in `activeWsRef` is not another one that is live. -/
def InTurn (s : Page) : Act → Prop
  | .runPlaybook playbookId => ∀ p e, s.executionCache p = some e → e.status.unfinished = true → p = playbookId
  | .closed i => (∀ p e, s.executionCache p = some e → e.status.unfinished = false) ∧
    ∀ j w, s.activeWsRef = some j → s.sockets j = some w → w.live = true → j = i
  | _ => True

/-! ### One step -/

section
variable {s t : Page} {a : Act} {i : Nat} {w : Socket} {p : String}

/-- Closing the active socket leaves no live one. -/
theorem Honest.closeActive (h : Honest s) {j : Nat} {v : Socket} (hj : s.closeActive.sockets j = some v) :
    v.live = false := by
  have hother (hj : s.sockets j = some v) (hne : s.activeWsRef ≠ some j) : v.live = false := by
    by_contra hlive
    exact hne (h.live j v hj (by simpa using hlive))
  unfold Page.closeActive at hj
  split at hj
  · rename_i k x hactive
    obtain ⟨k', hk', hx⟩ := Option.bind_eq_some_iff.mp hactive
    obtain ⟨x', hx', heq⟩ := Option.map_eq_some_iff.mp hx
    cases heq
    split at hj
    · rcases Slots.update_cases hj with ⟨-, heq⟩ | ⟨hjk, hj⟩
      · cases heq
        rfl
      · refine hother hj fun hactive => hjk ?_
        rw [hk'] at hactive
        exact (Option.some.inj hactive).symm
    · rename_i hdead
      by_cases hjk : j = k
      · subst hjk
        cases hx'.symm.trans hj
        simpa using hdead
      · refine hother hj fun hactive => hjk ?_
        rw [hk'] at hactive
        exact (Option.some.inj hactive).symm
  · rename_i hnone
    refine hother hj fun hactive => ?_
    rw [hactive, Option.bind_some, hj] at hnone
    cases hnone

theorem closeActive_rest (s : Page) : s.closeActive.activeWsRef = s.activeWsRef ∧ s.closeActive.created = s.created ∧
    s.closeActive.executionCache = s.executionCache := by
  unfold Page.closeActive
  split
  · split <;> exact ⟨rfl, rfl, rfl⟩
  · exact ⟨rfl, rfl, rfl⟩

/-- A socket that is as live as before and an entry that is not newly unfinished. -/
theorem Honest.setSocket (h : Honest s) {v : Socket} {f : ExecutionState → ExecutionState} (hi : s.sockets i = some w)
    (hplaybook : v.playbookId = w.playbookId) (hlive : v.live = w.live)
    (hf : ∀ e, (f e).status.unfinished = true → e.status.unfinished = true ∨ w.live = true) :
    Honest ((s.setSocket i v).modifyCache w.playbookId f) := by
  refine ⟨fun j x hj hx => ?_, h.last, fun p e he hunf => ?_⟩
  · rcases Slots.update_cases hj with ⟨rfl, heq⟩ | ⟨-, hj⟩
    · cases heq
      exact h.live j w hi (hlive ▸ hx)
    · exact h.live j x hj hx
  · have hkeep (hwas : ∃ i w, s.activeWsRef = some i ∧ s.sockets i = some w ∧ w.playbookId = p ∧ w.live = true) :
        ∃ k x, s.activeWsRef = some k ∧ Function.update s.sockets i (some v) k = some x ∧ x.playbookId = p ∧
          x.live = true := by
      obtain ⟨k, x, hk, hx, hp, hxlive⟩ := hwas
      by_cases hki : k = i
      · subst hki
        cases hi.symm.trans hx
        exact ⟨k, v, hk, Function.update_self .., hplaybook.trans hp, hlive.trans hxlive⟩
      · exact ⟨k, x, hk, (Function.update_of_ne hki ..).trans hx, hp, hxlive⟩
    rcases Slots.update_cases he with ⟨rfl, heq⟩ | ⟨-, he⟩
    · obtain ⟨e₀, he₀, rfl⟩ := Option.map_eq_some_iff.mp heq
      rcases hf e₀ hunf with hwas | hwlive
      · exact hkeep (h.unfinished _ e₀ he₀ hwas)
      · exact hkeep ⟨i, w, h.live i w hi hwlive, hi, rfl, hwlive⟩
    · exact hkeep (h.unfinished p e he hunf)

theorem Honest.runPlaybook_iff (h : Honest s) (ht : t = { s.closeActive.setSocket s.created { playbookId := p } with
    executionCache := Function.update s.executionCache p (some queued)
    activeWsRef := some s.created
    created := s.created + 1 }) : Honest t ↔ InTurn s (.runPlaybook p) := by
  subst ht
  constructor
  · intro hgood q e he hunf
    by_contra hqp
    obtain ⟨k, x, hk, hx, hplaybook, -⟩ := hgood.unfinished q e ((Function.update_of_ne hqp ..).trans he) hunf
    cases hk
    cases hx.symm.trans (Function.update_self ..)
    exact hqp hplaybook.symm
  · intro hturn
    refine ⟨fun j x hj hx => ?_, fun j hj => ?_, fun q e he hunf => ?_⟩
    · rcases Slots.update_cases hj with ⟨rfl, -⟩ | ⟨-, hj⟩
      · rfl
      · rw [h.closeActive hj] at hx
        cases hx
    · cases hj
      rfl
    · have hqp : q = p := by
        rcases Slots.update_cases he with ⟨hqp, -⟩ | ⟨-, he⟩
        · exact hqp
        · exact hturn q e he hunf
      exact ⟨s.created, _, rfl, Function.update_self .., hqp.symm, rfl⟩

theorem Honest.closed_iff (h : Honest s) (ht : t = { s.setSocket i { w with readyState := .closed } with activeWsRef := none }) :
    Honest t ↔ InTurn s (.closed i) := by
  subst ht
  constructor
  · intro hgood
    refine ⟨fun p e he => ?_, fun j x hj hx hlive => ?_⟩
    · by_contra hunf
      obtain ⟨_, _, hk, -⟩ := hgood.unfinished p e he (by simpa using hunf)
      cases hk
    · by_contra hji
      cases hgood.live j x ((Function.update_of_ne hji ..).trans hx) hlive
  · rintro ⟨hfinished, hactive⟩
    refine ⟨fun j x hj hx => ?_, nofun, fun p e he hunf => ?_⟩
    · rcases Slots.update_cases hj with ⟨-, heq⟩ | ⟨hji, hj⟩
      · cases heq
        cases hx
      · exact absurd (hactive j x (h.live j x hj hx) hj hx) hji
    · rw [hfinished p e he] at hunf
      cases hunf

theorem exists_of_isRunning (h : s.isRunning p = true) : ∃ e, s.executionCache p = some e ∧ e.status = .running := by
  unfold Page.isRunning at h
  cases he : s.executionCache p with
  | none => simp [he] at h
  | some e => exact ⟨e, rfl, by simpa [he] using h⟩

/-- The stop button closes the socket of its own playbook. -/
theorem Honest.stopExecution (h : Honest s) (hrunning : s.isRunning p = true) (f : ExecutionState → ExecutionState)
    (hf : ∀ e, (f e).status = .failed) : Honest (s.closeActive.modifyCache p f) := by
  obtain ⟨hactive, hcreated, hcache⟩ := closeActive_rest s
  refine ⟨fun j x hj hx => ?_, fun j hj => ?_, fun q e he hunf => ?_⟩
  · rw [h.closeActive hj] at hx
    cases hx
  · rw [show (s.closeActive.modifyCache p f).created = s.created from hcreated]
    exact h.last j (hactive ▸ hj)
  · obtain ⟨e₀, he₀, hstatus⟩ := exists_of_isRunning hrunning
    obtain ⟨k, x, hk, hx, hxp, -⟩ := h.unfinished p e₀ he₀ (by rw [hstatus]; rfl)
    unfold Page.modifyCache at he
    rw [hcache] at he
    rcases Slots.update_cases he with ⟨-, heq⟩ | ⟨hqp, he⟩
    · obtain ⟨e₁, -, rfl⟩ := Option.map_eq_some_iff.mp heq
      rw [hf e₁] at hunf
      cases hunf
    · obtain ⟨k', x', hk', hx', hxq, -⟩ := h.unfinished q e he hunf
      cases hk.symm.trans hk'
      cases hx.symm.trans hx'
      exact absurd (hxq.symm.trans hxp) hqp

theorem unfinished_onmessage {e : ExecutionState} {frame : Playbooks.Frame}
    (h : (e.onmessage frame).status.unfinished = true) : e.status.unfinished = true := by
  cases frame with
  | output line => exact h
  | done exitCode status duration =>
    by_cases hexit : exitCode = 0
    · simp [ExecutionState.onmessage, Status.unfinished, hexit] at h
    · simp [ExecutionState.onmessage, Status.unfinished, hexit] at h

theorem modifyCache_id (s : Page) : s.modifyCache p id = s := by
  unfold Page.modifyCache
  rw [Option.map_id_fun, id, Function.update_eq_self]

theorem honest_step (hs : step s a = some t) (h : Honest s) : Honest t ↔ InTurn s a := by
  cases a <;> simp only [step] at hs
  case runPlaybook p =>
    split at hs
    · cases hs
    · cases hs
      exact h.runPlaybook_iff rfl
  case opened i =>
    obtain ⟨w, hw, hs⟩ := Option.bind_eq_some_iff.mp hs
    split at hs
    · rename_i hstate
      cases hs
      have hlive : w.live = true := by simp [Socket.live, hstate]
      exact iff_of_true (h.setSocket hw rfl (by simp [Socket.live, hstate]) fun _ _ => .inr hlive) trivial
    all_goals cases hs
  case reply i r =>
    obtain ⟨w, hw, hs⟩ := Option.bind_eq_some_iff.mp hs
    split at hs
    · cases hs
      have hsame := h.setSocket (v := { w with frames := some (streamFrames r) }) (f := id) hw rfl rfl fun _ => .inl
      rw [modifyCache_id] at hsame
      exact iff_of_true hsame trivial
    · cases hs
  case message i =>
    obtain ⟨w, hw, hs⟩ := Option.bind_eq_some_iff.mp hs
    split at hs
    · cases hs
      exact iff_of_true (h.setSocket hw rfl rfl fun _ hunf => .inl (unfinished_onmessage hunf)) trivial
    · cases hs
  case closed i =>
    obtain ⟨w, hw, hs⟩ := Option.bind_eq_some_iff.mp hs
    split at hs
    · cases hs
    · cases hs
      exact h.closed_iff rfl
  case stopExecution p =>
    split at hs
    · rename_i hrunning
      split at hs <;> cases hs
      · exact iff_of_true h trivial
      · exact iff_of_true (h.stopExecution hrunning _ fun _ => rfl) trivial
    · cases hs

end

/-! ### A run -/

theorem honest_init : Honest {} := ⟨nofun, nofun, nofun⟩

/-- The page is honest in all states of a run, exactly if all runs of playbooks and all close events come
in turn. -/
theorem page_honest_iff (as : List Act) (s : Page) (h : run step free {} as = some s) :
    (∀ past rest t, as = past ++ rest → run step free {} past = some t → Honest t) ↔
      ∀ past a rest t, as = past ++ a :: rest → run step free {} past = some t → InTurn t a :=
  forall_reached_iff h honest_init honest_step

/-- Another playbook is run while the first one runs. -/
def secondRun : List Act := [.runPlaybook "pb-1", .opened 0, .runPlaybook "pb-2"]

theorem second_run_not_honest :
    ∃ s, run step free {} secondRun = some s ∧
      ¬ ∀ past rest t, secondRun = past ++ rest → run step free {} past = some t → Honest t := by
  refine ⟨_, rfl, fun hgood => ?_⟩
  have hturn := (page_honest_iff secondRun _ rfl).mp hgood (secondRun.take 2) (.runPlaybook "pb-2") [] _ rfl rfl
  have hsame := hturn "pb-1" _ rfl rfl
  simp at hsame

/-! ### What the handler answers -/

/-- A reply of `execute_playbook_in_sandbox` to the handler, in some run of the sandbox. -/
def Replies (lib : Library) (playbookId : String) (r : Reply) : Prop :=
  ∃ q q' u j left, Reach (Playbooks.step lib) free Playbooks.init q ∧
    Playbooks.step lib q (.call j playbookId streamContext) = some q' ∧ Reach (Playbooks.step lib) free q' u ∧
    u.calls j = some (.returned r left)

theorem returned_stays {lib : Library} {q q' : Playbooks.State} {a : Playbooks.Act} {j : Nat} {r : Reply}
    {left : Option String} (hs : Playbooks.step lib q a = some q') (hj : q.calls j = some (.returned r left)) :
    q'.calls j = some (.returned r left) := by
  -- a call that has not returned is another one
  have hother {i : Nat} {c : Option Pc} {pc : Pc} (hi : q.calls i = c) (hc : c ≠ some (.returned r left)) :
      (q.goto i pc).calls j = some (.returned r left) := by
    have hji : j ≠ i := by
      rintro rfl
      exact hc (hi.symm.trans hj)
    exact (Function.update_of_ne hji ..).trans hj
  cases a <;> simp only [Playbooks.step] at hs
  case call i playbookId ctx =>
    split at hs
    · cases hs
    · rename_i hi
      split at hs
      · cases hs
        exact hother hi fun hreturned => by cases hreturned
      · split at hs <;> cases hs
        · exact hother hi fun hreturned => by cases hreturned
        · exact hother hi fun hreturned => by cases hreturned
  case create i path =>
    split at hs
    · rename_i hi
      split at hs
      · cases hs
        exact hother hi fun hreturned => by cases hreturned
      · split at hs <;> cases hs
        exact hother hi fun hreturned => by cases hreturned
    · cases hs
  case write i ok =>
    split at hs
    · rename_i hi
      split at hs <;> cases hs
      · exact hother hi fun hreturned => by cases hreturned
      · exact hother hi fun hreturned => by cases hreturned
    · cases hs
  case run i docker time =>
    split at hs
    · rename_i hi
      cases hs
      exact hother hi fun hreturned => by cases hreturned
    · cases hs
  case remove i ok =>
    split at hs
    · rename_i hi
      split at hs <;> cases hs
      · exact hother hi fun hreturned => by cases hreturned
      · exact hother hi fun hreturned => by cases hreturned
    · cases hs

/-- The justification of the handler is too short for every target. -/
theorem streamContext_refused (lib : Library) : ∃ error, isolationTarget lib streamContext = .error error := by
  unfold isolationTarget
  split
  · exact ⟨_, if_neg (by decide)⟩
  · exact ⟨_, rfl⟩

theorem Replies.frames {lib : Library} {playbookId : String} {r : Reply} (h : Replies lib playbookId r) :
    streamFrames r = [.done 1 "error" 120] := by
  obtain ⟨q, q', u, j, left, -, hcall, hu, hreturned⟩ := h
  have herror : ∃ message, q'.calls j = some (.returned (.error message) none) := by
    obtain ⟨error, herror⟩ := streamContext_refused lib
    simp only [Playbooks.step, herror] at hcall
    split at hcall
    · cases hcall
    · split at hcall <;> cases hcall
      · exact ⟨_, Function.update_self ..⟩
      · exact ⟨_, Function.update_self ..⟩
  obtain ⟨message, herror⟩ := herror
  have hsame : u.calls j = some (.returned (.error message) none) :=
    hu.invariant (I := fun q => q.calls j = some (.returned (.error message) none)) herror
      fun _ hs hq => returned_stays hs hq
  cases hreturned.symm.trans hsame
  rfl

/-- The handlers behind the sockets send what the sandbox answers. -/
def FromSandbox (lib : Library) (s : Page) : Act → Prop
  | .reply i r => ∀ w, s.sockets i = some w → Replies lib w.playbookId r
  | _ => True

def pageLines : List String :=
  ["> Initiating sandbox execution container...", "> Connected to sandbox stream...",
    "> Execution forcibly terminated by user."]

/-- No playbook has succeeded, and no line of the terminals came from a sandbox. -/
structure Fruitless (s : Page) : Prop where
  entries : ∀ p e, s.executionCache p = some e → e.status ≠ .success ∧ ∀ line ∈ e.output, line ∈ pageLines
  frames : ∀ i w frames, s.sockets i = some w → w.frames = some frames → ∀ frame ∈ frames, frame = .done 1 "error" 120

section
variable {s t : Page} {a : Act} {lib : Library}

theorem Fruitless.setSocket (h : Fruitless s) {i : Nat} {v : Socket}
    (hv : ∀ frames, v.frames = some frames → ∀ frame ∈ frames, frame = .done 1 "error" 120) : Fruitless (s.setSocket i v) := by
  refine ⟨h.entries, fun j x frames hj hx => ?_⟩
  rcases Slots.update_cases hj with ⟨-, heq⟩ | ⟨-, hj⟩
  · cases heq
    exact hv frames hx
  · exact h.frames j x frames hj hx

theorem Fruitless.modifyCache (h : Fruitless s) {p : String} {f : ExecutionState → ExecutionState}
    (hf : ∀ e, (e.status ≠ .success ∧ ∀ line ∈ e.output, line ∈ pageLines) →
      (f e).status ≠ .success ∧ ∀ line ∈ (f e).output, line ∈ pageLines) : Fruitless (s.modifyCache p f) := by
  refine ⟨fun q e he => ?_, h.frames⟩
  rcases Slots.update_cases he with ⟨-, heq⟩ | ⟨-, he⟩
  · obtain ⟨e₀, he₀, rfl⟩ := Option.map_eq_some_iff.mp heq
    exact hf e₀ (h.entries _ e₀ he₀)
  · exact h.entries q e he

theorem Fruitless.closeActive (h : Fruitless s) : Fruitless s.closeActive := by
  unfold Page.closeActive
  split
  · rename_i i w hactive
    obtain ⟨i', -, hw⟩ := Option.bind_eq_some_iff.mp hactive
    obtain ⟨w', hw', heq⟩ := Option.map_eq_some_iff.mp hw
    cases heq
    split
    · exact h.setSocket fun frames hframes => h.frames i w frames hw' hframes
    · exact h
  · exact h

theorem mem_line {e : ExecutionState} {line : String} (h : ∀ line ∈ e.output, line ∈ pageLines) (hline : line ∈ pageLines) :
    ∀ x ∈ (e.line line).output, x ∈ pageLines := by
  intro x hx
  rcases List.mem_append.mp hx with hx | hx
  · exact h x hx
  · rw [List.mem_singleton.mp hx]
    exact hline

theorem fruitless_step (hs : step s a = some t) (h : Fruitless s) (hg : FromSandbox lib s a) : Fruitless t := by
  cases a <;> simp only [step] at hs
  case runPlaybook p =>
    split at hs
    · cases hs
    · cases hs
      have hsocket : Fruitless (s.closeActive.setSocket s.created { playbookId := p }) := h.closeActive.setSocket nofun
      refine ⟨fun q e he => ?_, hsocket.frames⟩
      rcases Slots.update_cases he with ⟨-, heq⟩ | ⟨-, he⟩
      · cases heq
        exact ⟨by simp [queued], by simp [queued, pageLines]⟩
      · exact h.entries q e he
  case opened i =>
    obtain ⟨w, hw, hs⟩ := Option.bind_eq_some_iff.mp hs
    split at hs
    · cases hs
      have hsocket : Fruitless (s.setSocket i { w with readyState := .opened }) :=
        h.setSocket fun frames hframes => h.frames i w frames hw hframes
      refine hsocket.modifyCache fun e he => ⟨by simp, ?_⟩
      exact mem_line he.2 (by simp [pageLines])
    all_goals cases hs
  case reply i r =>
    obtain ⟨w, hw, hs⟩ := Option.bind_eq_some_iff.mp hs
    split at hs
    · cases hs
      refine h.setSocket fun frames hframes frame hframe => ?_
      cases hframes
      rw [(hg w hw).frames] at hframe
      exact List.mem_singleton.mp hframe
    · cases hs
  case message i =>
    obtain ⟨w, hw, hs⟩ := Option.bind_eq_some_iff.mp hs
    split at hs
    · rename_i frame frames _ hframes
      cases hs
      have hall := h.frames i w _ hw hframes
      refine (h.setSocket fun rest hrest f hf => ?_).modifyCache fun e he => ?_
      · cases hrest
        exact hall f (List.mem_cons_of_mem _ hf)
      · rw [hall frame List.mem_cons_self]
        exact ⟨by simp [ExecutionState.onmessage], he.2⟩
    · cases hs
  case closed i =>
    obtain ⟨w, hw, hs⟩ := Option.bind_eq_some_iff.mp hs
    split at hs
    · cases hs
    · cases hs
      have hsocket : Fruitless (s.setSocket i { w with readyState := .closed }) :=
        h.setSocket fun frames hframes => h.frames i w frames hw hframes
      exact ⟨hsocket.entries, hsocket.frames⟩
  case stopExecution p =>
    split at hs
    · split at hs <;> cases hs
      · exact h
      · refine h.closeActive.modifyCache fun e he => ⟨by simp, ?_⟩
        exact mem_line he.2 (by simp [pageLines])
    · cases hs

end

/-- Whatever the sandbox can do, no playbook that is run on the page succeeds, and none shows a line of its
sandbox: the handler's justification is refused before anything runs. -/
theorem page_runs_fruitless (lib : Library) (s : Page) (h : Reach step (FromSandbox lib) {} s) (p : String)
    (e : ExecutionState) (he : s.executionCache p = some e) :
    e.status ≠ .success ∧ ∀ line ∈ e.output, line ∈ pageLines := by
  have hfruitless : Fruitless s :=
    h.invariant ⟨nofun, nofun⟩ fun hg hs hf => fruitless_step hs hf hg
  exact hfruitless.entries p e he

theorem stream_run_fails :
    ∃ s e, Reach step (FromSandbox dockerPy) {} s ∧ s.executionCache "pb-1" = some e ∧ e.status = .failed ∧
      e.exitCode = some 1 ∧ ∀ line ∈ e.output, line ∈ pageLines := by
  have hreply : Replies dockerPy "pb-1" (.error "Sandbox aborted: value is not a valid IPv4 or IPv6 address") :=
    ⟨Playbooks.init, _, _, 0, none, .refl, rfl, .refl, rfl⟩
  have hfrom (s : Page) (hs : s.sockets 0 = some { playbookId := "pb-1", readyState := .opened }) :
      FromSandbox dockerPy s (.reply 0 (.error "Sandbox aborted: value is not a valid IPv4 or IPv6 address")) := by
    intro w hw
    cases hs.symm.trans hw
    exact hreply
  have hreach : Reach step (FromSandbox dockerPy) {} _ :=
    (((Reach.refl.tail (a := Act.runPlaybook "pb-1") trivial rfl).tail (a := Act.opened 0) trivial rfl).tail
      (hfrom _ rfl) rfl).tail (a := Act.message 0) trivial rfl
  exact ⟨_, _, hreach, rfl, rfl, rfl, (page_runs_fruitless dockerPy _ hreach "pb-1" _ rfl).2⟩

end PlaybookConsole
end SocFabric
