import SocFabric.Lib.BoundedQueue
import SocFabric.WebSocketStream

/-!
# The log stream of an investigation (`hooks/useInvestigationStream.ts`)

Each effect run of `useInvestigationStream` opens a socket for the investigation that is shown, and
every message of any socket goes into one list of logs. The list is not emptied for another
investigation, and the cleanup closes a socket only if it is open, so that one that is still
connecting delivers its messages later. The copy of the hook under `features/investigations` has the
same body. `logs_isolated` is about the runs in which the investigation changes only while there are
no logs and no socket is connecting.
-/

namespace SocFabric
namespace InvestigationStream
open Lts BoundedQueue
open WebSocketStream (ReadyState)

structure Socket where
  investigationID : String
  readyState : ReadyState
deriving DecidableEq, Repr

/-- A message with the socket it came on; `late` records that the effect run of the socket had been
cleaned up. -/
structure Message where
  socket : Nat
  investigationID : String
  late : Bool
  data : String
deriving DecidableEq, Repr

/-- The hook. `active` is the socket of the effect run whose cleanup is still to come, and
`received`, which the code does not have, are the messages that the hook was given. -/
structure Hook where
  investigationID : Option String := none
  logs : List Message := []
  isConnected : Bool := false
  wsRef : Option Nat := none
  sockets : Nat → Option Socket := fun _ => none
  created : Nat := 0
  active : Option Nat := none
  mounted : Bool := true
  received : List Message := []

def maxLogs : Nat := 1000

/-- The update of `setLogs`. -/
def append (prevLogs : List Message) (m : Message) : List Message :=
  if (prevLogs ++ [m]).length > maxLogs then
    (prevLogs ++ [m]).drop ((prevLogs ++ [m]).length - maxLogs)
  else prevLogs ++ [m]

namespace Hook

def setReadyState (s : Hook) (i : Nat) (state : ReadyState) : Hook :=
  { s with
    sockets := Function.update s.sockets i ((s.sockets i).map ({ · with readyState := state })) }

/-- An unmounted component has no state to set. -/
def setIsConnected (s : Hook) (b : Bool) : Hook :=
  if s.mounted then { s with isConnected := b } else s

def effect (s : Hook) (investigationID : Option String) : Hook :=
  match investigationID.filter (· ≠ "") with
  | none => { s with investigationID }
  | some id =>
    { s with
      investigationID
      sockets := Function.update s.sockets s.created (some ⟨id, .connecting⟩)
      created := s.created + 1
      wsRef := some s.created
      active := some s.created }

/-- `if (wsRef.current && wsRef.current.readyState === WebSocket.OPEN) wsRef.current.close()`. -/
def closeRef (s : Hook) : Hook :=
  match s.wsRef with
  | some i =>
    if (s.sockets i).map Socket.readyState = some .opened then s.setReadyState i .closing else s
  | none => s

/-- The cleanup of the effect run, if the last one returned one. -/
def cleanup (s : Hook) : Hook :=
  match s.active with
  | some _ => { s.closeRef with active := none }
  | none => s

def onmessage (s : Hook) (i : Nat) (w : Socket) (data : String) : Hook :=
  if s.mounted then
    { s with
      logs := append s.logs ⟨i, w.investigationID, s.active ≠ some i, data⟩
      received := s.received ++ [⟨i, w.investigationID, s.active ≠ some i, data⟩] }
  else s

end Hook

inductive Act
  | setInvestigationID (investigationID : Option String)
  | unmount
  | opened (i : Nat)
  | message (i : Nat) (data : String)
  | error (i : Nat)
  | closed (i : Nat)
deriving DecidableEq, Repr

def step (s : Hook) : Act → Option Hook
  | .setInvestigationID investigationID =>
    if s.mounted ∧ investigationID ≠ s.investigationID then
      some (s.cleanup.effect investigationID)
    else none
  | .unmount => if s.mounted then some { s.cleanup with mounted := false } else none
  | .opened i =>
    match s.sockets i with
    | some w =>
      if w.readyState = .connecting then some ((s.setReadyState i .opened).setIsConnected true)
      else none
    | none => none
  -- the browser hands over the messages of open sockets only
  | .message i data =>
    match s.sockets i with
    | some w => if w.readyState = .opened then some (s.onmessage i w data) else none
    | none => none
  | .error i => if (s.sockets i).isSome then some (s.setIsConnected false) else none
  | .closed i =>
    match s.sockets i with
    | some w =>
      if w.readyState = .closed then none
      else some ((s.setReadyState i .closed).setIsConnected false)
    | none => none

/-! ### What a run is to keep -/

/-- The logs are the end of the messages of the current investigation, and none came after its
cleanup. -/
structure Isolated (s : Hook) : Prop where
  logs : s.logs =
    (s.received.filter fun m => some m.investigationID = s.investigationID).rtake maxLogs
  inTime : ∀ m ∈ s.received, m.late = false

/-- The investigation changes only while there are no logs and the socket of the effect run is not
connecting. -/
def ChangesQuietly (s : Hook) : Act → Prop
  | .setInvestigationID _ =>
    s.logs = [] ∧ ∀ i w, s.active = some i → s.sockets i = some w → w.readyState ≠ .connecting
  | _ => True

/-- Only the sockets go on: the investigation does not change, and the page stays. -/
def SocketsOnly (_ : Hook) : Act → Prop
  | .setInvestigationID _ | .unmount => False
  | .opened _ | .message _ _ | .error _ | .closed _ => True

/-! ### One step -/

theorem append_eq (prevLogs : List Message) (m : Message) :
    append prevLogs m = push maxLogs prevLogs m := by
  unfold append push
  split_ifs with hfull
  · rfl
  · exact (rtake_of_length_le (not_lt.mp hfull)).symm

/-- Where a hook is if no change has left a socket or logs behind. -/
structure Tidy (s : Hook) : Prop where
  logs : s.logs = s.received.rtake maxLogs
  received : ∀ m ∈ s.received, m.late = false ∧ s.investigationID = some m.investigationID
  active : ∀ i, s.active = some i →
    s.wsRef = some i ∧ ∃ w, s.sockets i = some w ∧ s.investigationID = some w.investigationID
  others : s.mounted = true → ∀ i w, s.sockets i = some w → s.active ≠ some i →
    w.readyState = .closing ∨ w.readyState = .closed
  fresh : ∀ i, s.created ≤ i → s.sockets i = none

section
variable {s t : Hook} {a : Act} {i : Nat} {w : Socket} {state : ReadyState}

theorem Tidy.isolated (h : Tidy s) : Isolated s := by
  refine ⟨?_, fun m hm => (h.received m hm).1⟩
  rw [h.logs, List.filter_eq_self.mpr]
  intro m hm
  simpa using (h.received m hm).2.symm

theorem Tidy.setIsConnected (h : Tidy s) (b : Bool) : Tidy (s.setIsConnected b) := by
  unfold Hook.setIsConnected
  split_ifs
  · exact ⟨h.logs, h.received, h.active, h.others, h.fresh⟩
  · exact h

/-- A socket of the effect run may change as it likes, any other may only go on to its end. -/
theorem Tidy.setReadyState (h : Tidy s)
    (hstate : s.mounted = true → s.active ≠ some i → state = .closing ∨ state = .closed) :
    Tidy (s.setReadyState i state) := by
  refine ⟨h.logs, h.received, ?_, ?_, fun j hj => Slots.modify_of_none (h.fresh j hj)⟩
  · intro j hj
    obtain ⟨href, w, hw, hid⟩ := h.active j hj
    refine ⟨href, ?_⟩
    by_cases hji : j = i
    · subst hji
      exact ⟨{ w with readyState := state }, by simp [Hook.setReadyState, hw], hid⟩
    · exact ⟨w, (Function.update_of_ne hji ..).trans hw, hid⟩
  · intro hmounted j v hj hactive
    rcases Slots.modify_cases hj with ⟨rfl, w, -, rfl⟩ | ⟨-, hj⟩
    · exact hstate hmounted hactive
    · exact h.others hmounted j v hj hactive

theorem Tidy.closeRef (h : Tidy s) : Tidy s.closeRef := by
  unfold Hook.closeRef
  split
  · split_ifs
    · exact h.setReadyState fun _ _ => .inl rfl
    · exact h
  · exact h

theorem closeRef_sockets (hi : s.sockets i = some w) (href : s.wsRef = some i) :
    s.closeRef.sockets i =
      some (if w.readyState = .opened then { w with readyState := .closing } else w) := by
  unfold Hook.closeRef
  rw [href]
  dsimp only
  split_ifs with hopened hopened' hopened'
  · simp [Hook.setReadyState, hi]
  · simp [hi, hopened'] at hopened
  · simp [hi, hopened'] at hopened
  · exact hi

@[simp]
theorem closeRef_active (s : Hook) : s.closeRef.active = s.active := by
  unfold Hook.closeRef
  split
  · split_ifs <;> rfl
  · rfl

/-- A cleanup changes nothing but the socket. -/
theorem cleanup_frame (s : Hook) :
    s.cleanup.logs = s.logs ∧ s.cleanup.received = s.received ∧ s.cleanup.mounted = s.mounted ∧
      s.cleanup.created = s.created := by
  have hclose : s.closeRef.logs = s.logs ∧ s.closeRef.received = s.received ∧
      s.closeRef.mounted = s.mounted ∧ s.closeRef.created = s.created := by
    unfold Hook.closeRef
    split
    · split_ifs <;> exact ⟨rfl, rfl, rfl, rfl⟩
    · exact ⟨rfl, rfl, rfl, rfl⟩
  unfold Hook.cleanup
  split
  · exact hclose
  · exact ⟨rfl, rfl, rfl, rfl⟩

/-- An effect run leaves the logs and the sockets that there are. -/
theorem effect_frame (s : Hook) (investigationID : Option String) :
    (s.effect investigationID).logs = s.logs ∧ (s.effect investigationID).received = s.received ∧
      (s.effect investigationID).mounted = s.mounted ∧
      (s.effect investigationID).investigationID = investigationID ∧
      ∀ i < s.created, (s.effect investigationID).sockets i = s.sockets i := by
  unfold Hook.effect
  split
  · exact ⟨rfl, rfl, rfl, rfl, fun _ _ => rfl⟩
  · exact ⟨rfl, rfl, rfl, rfl, fun _ hi => Function.update_of_ne hi.ne ..⟩

/-- A cleanup that does not find its socket connecting leaves no socket that could deliver a
message. -/
theorem Tidy.cleanup (h : Tidy s)
    (hquiet : ∀ i w, s.active = some i → s.sockets i = some w → w.readyState ≠ .connecting) :
    Tidy s.cleanup ∧ s.cleanup.active = none := by
  unfold Hook.cleanup
  cases hactive : s.active with
  | none => exact ⟨h, hactive⟩
  | some i =>
    obtain ⟨href, w, hw, -⟩ := h.active i hactive
    have hclose := h.closeRef
    refine ⟨⟨hclose.logs, hclose.received, ?_, ?_, hclose.fresh⟩, rfl⟩
    · intro j hj
      cases hj
    · intro hmounted j v hj _
      by_cases hji : s.closeRef.active = some j
      · rw [closeRef_active, hactive] at hji
        cases hji
        have hne := hquiet i w hactive hw
        cases (closeRef_sockets hw href).symm.trans hj
        cases hstate : w.readyState with
        | connecting => exact absurd hstate hne
        | opened => simp
        | closing => simp [hstate]
        | closed => simp [hstate]
      · exact hclose.others hmounted j v hj hji

theorem Tidy.unmount (h : Tidy s) : Tidy { s.cleanup with mounted := false } := by
  unfold Hook.cleanup
  split
  · exact ⟨h.closeRef.logs, h.closeRef.received, nofun, nofun, h.closeRef.fresh⟩
  · exact ⟨h.logs, h.received, h.active, nofun, h.fresh⟩

theorem Tidy.received_eq_nil (h : Tidy s) (hlogs : s.logs = []) : s.received = [] := by
  have hlen := length_rtake maxLogs s.received
  rw [← h.logs, hlogs, List.length_nil] at hlen
  refine List.eq_nil_of_length_eq_zero ?_
  simp only [maxLogs] at hlen
  omega

theorem Tidy.effect (h : Tidy s) (hactive : s.active = none) (hlogs : s.logs = [])
    (investigationID : Option String) :
    Tidy (s.effect investigationID) := by
  have hreceived := h.received_eq_nil hlogs
  have hnone : ∀ m ∈ s.received, m.late = false ∧ investigationID = some m.investigationID := by
    simp [hreceived]
  unfold Hook.effect
  split
  · refine ⟨h.logs, hnone, fun i hi => ?_, h.others, h.fresh⟩
    cases hactive.symm.trans hi
  · next id hid =>
    refine ⟨h.logs, hnone, ?_, ?_, ?_⟩
    · intro i hi
      cases hi
      exact ⟨rfl, ⟨id, .connecting⟩, Function.update_self .., (Option.filter_eq_some_iff.mp hid).1⟩
    · intro hmounted i w hi hne
      have hi' : i ≠ s.created := fun heq => hne (by rw [heq])
      exact h.others hmounted i w ((Function.update_of_ne hi' ..).symm.trans hi) (by simp [hactive])
    · intro i hi
      exact (Function.update_of_ne (Nat.ne_of_gt hi) ..).trans (h.fresh i (Nat.le_of_succ_le hi))

/-- Only the socket of the effect run is open. -/
theorem Tidy.onmessage (h : Tidy s) (hi : s.sockets i = some w) (hopened : w.readyState = .opened)
    (data : String) :
    Tidy (s.onmessage i w data) := by
  unfold Hook.onmessage
  split_ifs with hmounted
  · have hactive : s.active = some i := by
      by_contra hne
      rcases h.others hmounted i w hi hne with hstate | hstate <;>
        rw [hopened] at hstate <;> cases hstate
    obtain ⟨-, w', hw', hid⟩ := h.active i hactive
    cases hi.symm.trans hw'
    refine ⟨?_, ?_, h.active, h.others, h.fresh⟩
    · dsimp only
      rw [append_eq, h.logs, rtake_push]
    · intro m hm
      rcases List.mem_append.mp hm with hm | hm
      · exact h.received m hm
      · rw [List.mem_singleton.mp hm]
        exact ⟨by simp [hactive], hid⟩
  · exact h

theorem tidy_step (hg : ChangesQuietly s a) (hs : step s a = some t) (h : Tidy s) : Tidy t := by
  cases a with
  | setInvestigationID investigationID =>
    obtain ⟨-, hs⟩ := Option.ite_none_right_eq_some.mp hs
    cases hs
    obtain ⟨hcleanup, hactive⟩ := h.cleanup hg.2
    exact hcleanup.effect hactive ((cleanup_frame s).1.trans hg.1) investigationID
  | unmount =>
    obtain ⟨-, hs⟩ := Option.ite_none_right_eq_some.mp hs
    cases hs
    exact h.unmount
  | opened i =>
    simp only [step] at hs
    split at hs
    · next w hi =>
      obtain ⟨hstate, hs⟩ := Option.ite_none_right_eq_some.mp hs
      cases hs
      refine (h.setReadyState fun hmounted hactive => ?_).setIsConnected true
      rcases h.others hmounted i w hi hactive with hw | hw <;> rw [hstate] at hw <;> cases hw
    · cases hs
  | message i data =>
    simp only [step] at hs
    split at hs
    · next w hi =>
      obtain ⟨hstate, hs⟩ := Option.ite_none_right_eq_some.mp hs
      cases hs
      exact h.onmessage hi hstate data
    · cases hs
  | error i =>
    obtain ⟨-, hs⟩ := Option.ite_none_right_eq_some.mp hs
    cases hs
    exact h.setIsConnected false
  | closed i =>
    simp only [step] at hs
    split at hs
    · split_ifs at hs
      cases hs
      exact (h.setReadyState fun _ _ => .inr rfl).setIsConnected false
    · cases hs

/-! ### What is left behind -/

theorem mem_rtake {n : Nat} {l : List Message} {m : Message} (h : m ∈ l.rtake n) : m ∈ l :=
  (rtake_sublist n l).mem h

/-- The logs of one investigation are shown for another. -/
theorem Tidy.not_isolated_of_logs (h : Tidy s) {investigationID : Option String}
    (hne : investigationID ≠ s.investigationID) (hlogs : s.logs ≠ []) :
    ¬ Isolated (s.cleanup.effect investigationID) := by
  intro hisolated
  obtain ⟨hlogs', hreceived, -, hid, -⟩ := effect_frame s.cleanup investigationID
  obtain ⟨m, hm⟩ := List.exists_mem_of_ne_nil _ hlogs
  have hold : s.investigationID = some m.investigationID :=
    (h.received m (mem_rtake (h.logs ▸ hm))).2
  have hnew : m ∈ (s.cleanup.effect investigationID).logs := by
    rw [hlogs', (cleanup_frame s).1]
    exact hm
  rw [hisolated.logs, hid] at hnew
  have hfilter := (List.mem_filter.mp (mem_rtake hnew)).2
  exact hne (by simpa [hold] using (of_decide_eq_true hfilter).symm)

/-- A socket that was connecting when its effect run was cleaned up delivers a message. -/
theorem late_of_connecting (hmounted : s.mounted = true) (hi : s.sockets i = some w)
    (hconnecting : w.readyState = .connecting) (hactive : s.active ≠ some i) :
    ∃ u, Reach step SocketsOnly s u ∧ ¬ Isolated u := by
  have hopened : step s (.opened i) = some ((s.setReadyState i .opened).setIsConnected true) := by
    simp only [step, hi, if_pos hconnecting]
  have hsocket : ((s.setReadyState i .opened).setIsConnected true).sockets i =
      some { w with readyState := .opened } := by
    simp [Hook.setIsConnected, Hook.setReadyState, hmounted, hi]
  have hmessage : step ((s.setReadyState i .opened).setIsConnected true) (.message i "") =
      some (((s.setReadyState i .opened).setIsConnected true).onmessage i
        { w with readyState := .opened } "") := by
    simp only [step, hsocket, if_true]
  have hreach : Reach step SocketsOnly s _ :=
    (Reach.refl.tail (a := .opened i) trivial hopened).tail (a := .message i "") trivial hmessage
  refine ⟨_, hreach, fun hisolated => ?_⟩
  have hlate := hisolated.inTime ⟨i, w.investigationID, true, ""⟩ (by
    simp [Hook.onmessage, Hook.setIsConnected, Hook.setReadyState, hmounted, hactive])
  cases hlate

theorem Tidy.left_behind (h : Tidy s) (hs : step s a = some t) (hg : ¬ ChangesQuietly s a) :
    ∃ u, Reach step SocketsOnly t u ∧ ¬ Isolated u := by
  cases a with
  | setInvestigationID investigationID =>
    obtain ⟨⟨hmounted, hne⟩, hs⟩ := Option.ite_none_right_eq_some.mp hs
    cases hs
    by_cases hlogs : s.logs = []
    · have hconnecting : ∃ i w, s.active = some i ∧ s.sockets i = some w ∧
          w.readyState = .connecting := by
        by_contra hno
        refine hg ⟨hlogs, fun i w hactive hi hstate => hno ⟨i, w, hactive, hi, hstate⟩⟩
      obtain ⟨i, w, hactive, hi, hstate⟩ := hconnecting
      obtain ⟨href, -⟩ := h.active i hactive
      have hlt : i < s.created := by
        by_contra hge
        cases (h.fresh i (not_lt.mp hge)).symm.trans hi
      -- the cleanup passes over the socket
      have hcleanup : s.cleanup.sockets i = some w := by
        unfold Hook.cleanup
        rw [hactive]
        simpa [hstate] using closeRef_sockets hi href
      obtain ⟨-, -, hmounted', hcreated⟩ := cleanup_frame s
      obtain ⟨-, -, hmounted'', -, hsockets⟩ := effect_frame s.cleanup investigationID
      refine late_of_connecting (hmounted''.trans (hmounted'.trans hmounted))
        ((hsockets i (hcreated ▸ hlt)).trans hcleanup) hstate ?_
      have hnone : s.cleanup.active = none := by
        unfold Hook.cleanup
        rw [hactive]
      unfold Hook.effect
      split
      · rw [hnone]
        exact nofun
      · exact fun heq => hlt.ne' (hcreated ▸ Option.some.inj heq)
    · exact ⟨_, .refl, h.not_isolated_of_logs hne hlogs⟩
  | unmount | opened _ | message _ _ | error _ | closed _ => exact absurd trivial hg

/-! ### Runs -/

theorem tidy_init : Tidy {} := ⟨rfl, nofun, nofun, nofun, fun _ _ => rfl⟩

theorem changesQuietly_of_socketsOnly (s : Hook) (a : Act) (h : SocketsOnly s a) : ChangesQuietly s a := by
  cases a with
  | setInvestigationID _ => exact h.elim
  | unmount | opened _ | message _ _ | error _ | closed _ => exact trivial

end

/-- While the investigation changes only when there are no logs and no socket is connecting, the
logs are the end of what the sockets of the current investigation have sent, and no message comes
after its cleanup. The next change is such a one exactly if the sockets alone cannot bring about
anything else after it. -/
theorem logs_isolated (s : Hook) (h : Reach step ChangesQuietly {} s) :
    Isolated s ∧ ∀ a t, step s a = some t →
      (ChangesQuietly s a ↔ ∀ u, Reach step SocketsOnly t u → Isolated u) := by
  have htidy : Tidy s := h.invariant tidy_init tidy_step
  refine ⟨htidy.isolated, fun a t ht => ?_⟩
  exact guard_iff_forall_reach ht htidy Tidy.isolated tidy_step changesQuietly_of_socketsOnly fun hg =>
    htidy.left_behind ht hg

/-- An investigation is left before its socket has sent anything, and the next one has a message. -/
theorem quiet_change_isolated :
    ∃ s, Reach step ChangesQuietly {} s ∧ s.investigationID = some "inv-2" ∧
      s.logs.map Message.data = ["second"] ∧ Isolated s := by
  have hreach : Reach step ChangesQuietly {} _ :=
    (((((Reach.refl.tail (a := .setInvestigationID (some "inv-1")) ⟨rfl, nofun⟩ rfl).tail
      (a := .opened 0) trivial rfl).tail
      (a := .setInvestigationID (some "inv-2")) ⟨rfl, by rintro i w ⟨⟩ ⟨⟩; decide⟩ rfl).tail
      (a := .opened 1) trivial rfl).tail (a := .message 1 "second") trivial rfl)
  exact ⟨_, hreach, rfl, rfl, (logs_isolated _ hreach).1⟩

/-- Another investigation is shown after the first one has sent a message. -/
def changeInvestigation : List Act :=
  [.setInvestigationID (some "inv-1"), .opened 0, .message 0 "first",
    .setInvestigationID (some "inv-2")]

theorem changed_investigation_keeps_logs : ¬ ∀ s : Hook, Reach step free {} s → Isolated s := by
  intro h
  have hlogs := (h _ (.of_run changeInvestigation rfl)).logs
  revert hlogs
  decide

end InvestigationStream
end SocFabric
