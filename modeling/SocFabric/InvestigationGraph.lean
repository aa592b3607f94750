import Mathlib.Logic.Function.Basic
import SocFabric.Lib.Lts
import SocFabric.Lib.Text

/-!
# The live graph of an investigation (`features/investigations/ui/InvestigationGraph.tsx`)

The effect of a session opens its stream, flushes the updates received every 250 ms and fetches a
snapshot. The updates wait in `pendingUpdates` until `isSnapshotLoaded`; both are refs, so they
outlive the session, and the fetch of an earlier session is not cancelled. A run interleaves
messages, ticks, responses and session changes in any order; `graph_consistent` is about the runs in
which none of this carries over.
-/

namespace SocFabric
namespace InvestigationGraph
open Lts Text

structure GraphNode where
  id : String
  label : Option String
  status : String
  type : Option String := none
  role : Option String := none
  properties : Option String := none
  isGateway : Option Bool := none
  isSuspicious : Option Bool := none
  hasActiveAlert : Option Bool := none
  category : Option String := none
  ip : Option String := none
deriving DecidableEq, Repr

structure GraphEdge where
  sourceId : String
  targetId : String
  relation : String
  action : Option String := none
  width : Option Rat := none
deriving DecidableEq, Repr

/-- A frame of the stream of type `node_execution`. -/
structure Update where
  nodeId : String
  agentName : Option String := none
  label : Option String := none
  status : String
deriving DecidableEq, Repr

/-- The places of a response that nodes and edges may be at. -/
structure Layers (α : Type) where
  top : Option (List α) := none
  graphData : Option (List α) := none
  graphLayout : Option (List α) := none
deriving DecidableEq, Repr

structure Response where
  nodes : Layers GraphNode := {}
  edges : Layers GraphEdge := {}
deriving DecidableEq, Repr

/-- A list is truthy even if it is empty. -/
def Layers.pick {α : Type} (l : Layers α) : List α := ((l.top.or l.graphData).or l.graphLayout).getD []

/-- WiFi 6 router flow. -/
def baselineNodes : List GraphNode :=
  [{ id := "router-gw", label := some "WiFi 6 Router Gateway (192.168.1.1)", type := some "RouterHost"
     isGateway := some true, status := "success"
     properties := some "Gateway: 192.168.1.1\nRadio: 802.11ax\nRole: Default Router" },
    { id := "client-192.168.1.105", label := some "Station: 192.168.1.105", type := some "ClientHost"
      ip := some "192.168.1.105", status := "failed", isSuspicious := some true
      properties := some "IP: 192.168.1.105\nMAC: 34:2e:b7:aa:bb:cc\nRole: Station" },
    { id := "domain-c2-malicious.org", label := some "c2-malicious.org", type := some "ExternalDomain"
      category := some "known_c2", isSuspicious := some true, status := "failed"
      properties := some "Domain: c2-malicious.org\nCategory: Known C2\nAction: DROP" }]

def baselineEdges : List GraphEdge :=
  [{ sourceId := "client-192.168.1.105", targetId := "router-gw", relation := "ROUTED_THROUGH"
     action := some "ALLOW", width := some (5 / 2) },
    { sourceId := "router-gw", targetId := "domain-c2-malicious.org", relation := "WAN_EGRESS"
      action := some "DROP", width := some (7 / 2) },
    { sourceId := "client-192.168.1.105", targetId := "domain-c2-malicious.org", relation := "VISITED_SITE"
      action := some "OBSERVED", width := some (3 / 2) }]

def Response.historicalNodes (r : Response) : List GraphNode :=
  if r.nodes.pick = [] then baselineNodes else r.nodes.pick

def Response.historicalEdges (r : Response) : List GraphEdge :=
  if r.nodes.pick = [] then baselineEdges else r.edges.pick

/-- One round of the flush: the first node of that id gets the status, or a new node is added. -/
def applyUpdate (nodes : List GraphNode) (u : Update) : List GraphNode :=
  match nodes.findIdx? (·.id = u.nodeId) with
  | some i => nodes.modify i ({ · with status := u.status })
  | none => nodes ++ [{ id := u.nodeId, label := (truthy u.agentName).or u.label, status := u.status }]

/-- The component. `session` counts the runs of the effect and `inFlight` says whose fetch has not
settled; `received` and `snapshot` are what the current session got so far. -/
structure Graph where
  nodes : List GraphNode := []
  edges : List GraphEdge := []
  pendingUpdates : List Update := []
  isSnapshotLoaded : Bool := false
  session : Nat := 0
  inFlight : Nat → Bool := (· = 0)
  received : List Update := []
  snapshot : Option (List GraphNode) := none

inductive Act
  -- a frame of the current stream; `none` is one that does not parse or is of another type
  | message (u : Option Update)
  | tick
  | loaded (i : Nat) (r : Response)
  | failed (i : Nat)
  | changeSession

def onmessage (s : Graph) : Option Update → Graph
  | some u => { s with pendingUpdates := s.pendingUpdates ++ [u], received := s.received ++ [u] }
  | none => s

def flush (s : Graph) : Graph :=
  if s.isSnapshotLoaded = false ∨ s.pendingUpdates = [] then s
  else { s with nodes := s.pendingUpdates.foldl applyUpdate s.nodes, pendingUpdates := [] }

def step (s : Graph) : Act → Option Graph
  | .message u => some (onmessage s u)
  | .tick => some (flush s)
  | .loaded i r =>
    if s.inFlight i then
      some { s with
        nodes := r.historicalNodes
        edges := r.historicalEdges
        isSnapshotLoaded := true
        inFlight := Function.update s.inFlight i false
        snapshot := if i = s.session then some r.historicalNodes else s.snapshot }
    else none
  | .failed i =>
    if s.inFlight i then
      some { s with isSnapshotLoaded := true, inFlight := Function.update s.inFlight i false }
    else none
  | .changeSession =>
    -- the old stream and ticker are gone; the refs and the nodes stay
    some { s with
      session := s.session + 1
      inFlight := Function.update s.inFlight (s.session + 1) true
      received := []
      snapshot := none }

/-! ### What a run is to keep -/

/-- With nothing pending, the graph is the snapshot of the session overlaid with its messages in
order. -/
def Consistent (s : Graph) : Prop :=
  ∀ base, s.snapshot = some base → s.isSnapshotLoaded = true → s.pendingUpdates = [] →
    s.nodes = s.received.foldl applyUpdate base

/-- Nothing carries over from one session to the next: no update is pending when the session
changes, none is flushed while the snapshot of the current session is on its way, and no response
for an earlier session comes after it. -/
def Separated (s : Graph) : Act → Prop
  | .message _ => True
  | .tick => s.isSnapshotLoaded = true → s.pendingUpdates ≠ [] → s.inFlight s.session = false
  | .loaded i _ => i ≠ s.session → s.snapshot = none
  | .failed _ => True
  | .changeSession => s.pendingUpdates = []

/-! ### One step -/

/-- Until the fetch of the session settles, all its messages are pending; afterwards those not
pending are on top of the snapshot, if it came. -/
structure InSession (s : Graph) : Prop where
  waiting : s.inFlight s.session = true → s.snapshot = none ∧ s.pendingUpdates = s.received
  overlaid : ∀ base, s.snapshot = some base →
    ∃ applied, s.received = applied ++ s.pendingUpdates ∧ s.nodes = applied.foldl applyUpdate base

section
variable {s t : Graph} {a : Act}

theorem InSession.consistent (h : InSession s) : Consistent s := by
  intro base hbase _ hpending
  obtain ⟨applied, hreceived, hnodes⟩ := h.overlaid base hbase
  rw [hpending, List.append_nil] at hreceived
  rw [hreceived, hnodes]

theorem InSession.message (h : InSession s) (u : Update) : InSession (onmessage s (some u)) := by
  constructor
  · intro hflight
    obtain ⟨hsnap, hpending⟩ := h.waiting hflight
    exact ⟨hsnap, by simp only [onmessage, hpending]⟩
  · intro base hbase
    obtain ⟨applied, hreceived, hnodes⟩ := h.overlaid base hbase
    exact ⟨applied, by simp only [onmessage, hreceived, List.append_assoc], hnodes⟩

theorem InSession.tick (h : InSession s) (hsep : Separated s .tick) : InSession (flush s) := by
  unfold flush
  split
  · exact h
  · rename_i hne
    obtain ⟨hloaded, hpending⟩ := not_or.mp hne
    have hsettled : s.inFlight s.session = false := hsep (by simpa using hloaded) hpending
    constructor
    · intro hflight
      cases hsettled.symm.trans hflight
    · intro base hbase
      obtain ⟨applied, hreceived, hnodes⟩ := h.overlaid base hbase
      refine ⟨applied ++ s.pendingUpdates, by simp only [hreceived, List.append_nil], ?_⟩
      rw [List.foldl_append, ← hnodes]

theorem InSession.loaded {i : Nat} {r : Response} (h : InSession s) (hsep : Separated s (.loaded i r))
    (hi : s.inFlight i = true) (hs : step s (.loaded i r) = some t) : InSession t := by
  simp only [InvestigationGraph.step, if_pos hi, Option.some.injEq] at hs
  subst hs
  by_cases hsession : i = s.session
  · subst hsession
    obtain ⟨-, hpending⟩ := h.waiting hi
    constructor
    · intro hflight
      simp only [Function.update_self] at hflight
      cases hflight
    · intro base hbase
      simp only [if_true, Option.some.injEq] at hbase
      exact ⟨[], hpending.symm, hbase⟩
  · -- a response for an earlier session, which the snapshot of this one will replace
    have hnone := hsep hsession
    constructor
    · intro hflight
      simp only [Function.update_of_ne (Ne.symm hsession)] at hflight
      simp only [if_neg hsession]
      exact h.waiting hflight
    · intro base hbase
      simp only [if_neg hsession, hnone] at hbase
      cases hbase

theorem InSession.failed {i : Nat} (h : InSession s) (hs : step s (.failed i) = some t) : InSession t := by
  simp only [InvestigationGraph.step] at hs
  split_ifs at hs
  cases hs
  refine ⟨?_, h.overlaid⟩
  intro hflight
  by_cases hsession : s.session = i
  · simp only [hsession, Function.update_self] at hflight
    cases hflight
  · simp only [Function.update_of_ne hsession] at hflight
    exact h.waiting hflight

theorem inSession_step (hsep : Separated s a) (hs : step s a = some t) (h : InSession s) : InSession t := by
  cases a with
  | message u =>
    cases hs
    cases u with
    | none => exact h
    | some u => exact h.message u
  | tick =>
    cases hs
    exact h.tick hsep
  | loaded i r =>
    by_cases hi : s.inFlight i = true
    · exact h.loaded hsep hi hs
    · simp only [step, if_neg hi] at hs
      cases hs
  | failed i => exact h.failed hs
  | changeSession =>
    cases hs
    refine ⟨fun _ => ⟨rfl, hsep⟩, ?_⟩
    intro base hbase
    cases hbase

end

/-! ### A run -/

theorem inSession_init : InSession {} := by
  refine ⟨fun _ => ⟨rfl, rfl⟩, ?_⟩
  intro base hbase
  cases hbase

/-- In a run where nothing carries over between sessions, the graph is consistent in every state. -/
theorem graph_consistent (s : Graph) (h : Reach step Separated {} s) : Consistent s :=
  (h.invariant inSession_init inSession_step).consistent

def agentRuns : Update := { nodeId := "agent-1", agentName := some "triage", status := "running" }

/-- A session whose snapshot comes before its first message is flushed. -/
theorem snapshot_then_message_consistent :
    ∃ s, Reach step Separated {} s ∧ s.nodes.length = 4 ∧ Consistent s := by
  have hloaded : Reach step Separated {} _ := Reach.refl.tail (a := .loaded 0 {}) (fun h => absurd rfl h) rfl
  have hmessage : Reach step Separated {} _ := hloaded.tail (a := .message (some agentRuns)) trivial rfl
  have hreach : Reach step Separated {} _ := hmessage.tail (a := .tick) (fun _ _ => rfl) rfl
  exact ⟨_, hreach, by decide, graph_consistent _ hreach⟩

/-- A message of the second session is flushed onto the graph of the first, and lost when the
snapshot comes. -/
def switchSession : List Act :=
  [.loaded 0 {}, .changeSession, .message (some agentRuns), .tick, .loaded 1 {}]

theorem switched_session_loses_update : ¬ ∀ s : Graph, Reach step free {} s → Consistent s := by
  intro h
  have hnodes := h _ (.of_run switchSession rfl) baselineNodes rfl rfl rfl
  revert hnodes
  decide

end InvestigationGraph
end SocFabric
