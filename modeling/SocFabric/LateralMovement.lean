import SocFabric.Lib.Search
import SocFabric.NetworkMap

/-!
# Simulated lateral movement (`pages/assets/NetworkMapPage.tsx`)

`reachableNodes` searches the edges of the map from the selected node, taking them in both directions.
It ends on every list of edges and finds the component of the node (`reachableNodes_eq_component`). The
map of the backend is connected, so there it is the whole map (`reachableNodes_getNetworkMap`).
-/

namespace SocFabric
namespace NetworkMap

/-- An endpoint as the response has it, or the object that the force graph puts in its place. -/
inductive EndPoint
  | text (id : String)
  | object (id : String)
deriving DecidableEq, Repr

def EndPoint.id : EndPoint → String
  | text id | object id => id

structure MapEdge where
  source : EndPoint
  target : EndPoint
deriving DecidableEq, Repr

/-- One edge of the `forEach`. -/
def scanEdge (curr : String) (s : Search.State String) (e : MapEdge) : Search.State String :=
  let srcId := e.source.id
  let tgtId := e.target.id
  let s := if srcId = curr ∧ tgtId ∉ s.visited then ⟨s.visited ++ [tgtId], s.queue ++ [tgtId]⟩ else s
  if tgtId = curr ∧ srcId ∉ s.visited then ⟨s.visited ++ [srcId], s.queue ++ [srcId]⟩ else s

def bfsLoop (edges : List MapEdge) : Nat → Search.State String → Option (List String)
  | 0, _ => none
  | fuel + 1, ⟨visited, queue⟩ =>
    match queue with
    | [] => some visited
    | curr :: queue => bfsLoop edges fuel (edges.foldl (scanEdge curr) ⟨visited, queue⟩)

/-- `none` is for a loop that has not ended after `fuel` rounds. -/
def reachableNodes (fuel : Nat) (simulatingPath : Bool) (selectedNode : Option String)
    (data : Option (List MapEdge)) : Option (List String) :=
  match simulatingPath, selectedNode, data with
  | true, some selected, some edges => bfsLoop edges fuel ⟨[selected], [selected]⟩
  | _, _, _ => some []

/-! ### The component -/

def Linked (edges : List MapEdge) (a b : String) : Prop :=
  ∃ e ∈ edges, e.source.id = a ∧ e.target.id = b

/-- The other ends of the edges at a node, in the order in which the round sees them. -/
def neighbours (edges : List MapEdge) (curr : String) : List String :=
  edges.flatMap fun e =>
    (if e.source.id = curr then [e.target.id] else []) ++ if e.target.id = curr then [e.source.id] else []

section
variable {edges : List MapEdge} {curr a b : String} {s : Search.State String}

theorem mem_neighbours : b ∈ neighbours edges a ↔ Relation.SymmGen (Linked edges) a b := by
  rw [neighbours, List.mem_flatMap]
  simp only [List.mem_append]
  constructor
  · rintro ⟨e, he, hb | hb⟩
    · split_ifs at hb with hcurr
      · exact .inl ⟨e, he, hcurr, (List.mem_singleton.mp hb).symm⟩
      · cases hb
    · split_ifs at hb with hcurr
      · exact .inr ⟨e, he, (List.mem_singleton.mp hb).symm, hcurr⟩
      · cases hb
  · rintro (⟨e, he, rfl, rfl⟩ | ⟨e, he, rfl, rfl⟩)
    · exact ⟨e, he, .inl (by rw [if_pos rfl]; exact List.mem_singleton_self _)⟩
    · exact ⟨e, he, .inr (by rw [if_pos rfl]; exact List.mem_singleton_self _)⟩

theorem neighbours_subset (edges : List MapEdge) (a : String) :
    neighbours edges a ⊆ edges.map (·.source.id) ++ edges.map (·.target.id) := by
  intro b hb
  rcases mem_neighbours.mp hb with ⟨e, he, -, rfl⟩ | ⟨e, he, rfl, -⟩
  · exact List.mem_append_right _ (List.mem_map_of_mem he)
  · exact List.mem_append_left _ (List.mem_map_of_mem he)

/-- Marking on the way into the queue. -/
theorem enqueue_eq (p : Prop) [Decidable p] :
    (if p ∧ a ∉ s.visited then (⟨s.visited ++ [a], s.queue ++ [a]⟩ : Search.State String) else s) =
      (if p then [a] else []).foldl Search.visit s := by
  by_cases hp : p
  · rw [if_pos hp, List.foldl_cons, List.foldl_nil, Search.visit]
    by_cases ha : a ∈ s.visited
    · rw [if_pos ha, if_neg fun h => h.2 ha]
    · rw [if_neg ha, if_pos ⟨hp, ha⟩]
  · rw [if_neg hp, if_neg fun h => hp h.1, List.foldl_nil]

theorem foldl_scanEdge :
    edges.foldl (scanEdge curr) s = (neighbours edges curr).foldl Search.visit s := by
  induction edges generalizing s with
  | nil => rfl
  | cons e edges ih =>
    have hneighbours : neighbours (e :: edges) curr = ((if e.source.id = curr then [e.target.id] else []) ++
        if e.target.id = curr then [e.source.id] else []) ++ neighbours edges curr := List.flatMap_cons
    rw [List.foldl_cons, ih, hneighbours, List.foldl_append, List.foldl_append, scanEdge, enqueue_eq, enqueue_eq]

theorem bfsLoop_eq (n : Nat) : bfsLoop edges n s = Search.loop (neighbours edges) n s := by
  induction n generalizing s with
  | zero => rfl
  | succ n ih =>
    obtain ⟨visited, queue⟩ := s
    cases queue with
    | nil => rfl
    | cons curr queue =>
      rw [bfsLoop, Search.loop, foldl_scanEdge]
      exact ih

theorem reaches_iff : Search.Reaches (neighbours edges) a b ↔ Relation.EqvGen (Linked edges) a b := by
  have hnext : (fun a b => b ∈ neighbours edges a) = Relation.SymmGen (Linked edges) := by
    funext a b
    exact propext mem_neighbours
  rw [Search.Reaches, hnext, Relation.EqvGen.reflTransGen_symmGen]

theorem bfsLoop_eq_component (edges : List MapEdge) (selected : String) :
    ∃ visited, (∀ n, 2 * edges.length + 1 < n → bfsLoop edges n ⟨[selected], [selected]⟩ = some visited) ∧
      visited.Nodup ∧ ∀ id, id ∈ visited ↔ Relation.EqvGen (Linked edges) selected id := by
  obtain ⟨visited, hloop, hnodup, hmem⟩ := Search.loop_start (neighbours_subset edges) selected
  refine ⟨visited, fun n hn => (bfsLoop_eq n).trans (hloop n ?_), hnodup, fun id => (hmem id).trans reaches_iff⟩
  rw [List.length_append, List.length_map, List.length_map]
  omega

end

/-- The simulation ends, within two rounds for each edge and one for the node, with its component. -/
theorem reachableNodes_eq_component (edges : List MapEdge) (selected : String) :
    ∃ visited, (∀ n, 2 * edges.length + 1 < n →
        reachableNodes n true (some selected) (some edges) = some visited) ∧
      visited.Nodup ∧ ∀ id, id ∈ visited ↔ Relation.EqvGen (Linked edges) selected id :=
  bfsLoop_eq_component edges selected

/-! ### The map of the backend -/

def Graph.mapEdges (g : Graph) : List MapEdge := g.edges.map fun e => ⟨.text e.source, .text e.target⟩

theorem linked_mapEdges (g : Graph) : Linked g.mapEdges = g.dirGraph.Arc := by
  funext a b
  simp [Linked, Graph.mapEdges, Graph.dirGraph, EndPoint.id]

/-- Whichever node is selected, all are reached. -/
theorem reachableNodes_getNetworkMap (lib : PyLib) (rows : List EndpointRow) :
    ∀ selected ∈ (getNetworkMap lib rows).ids, ∃ visited n,
      reachableNodes n true (some selected) (some (getNetworkMap lib rows).mapEdges) = some visited ∧
        ∀ id, id ∈ visited ↔ id ∈ (getNetworkMap lib rows).ids := by
  intro selected hselected
  obtain ⟨visited, hloop, -, hmem⟩ := bfsLoop_eq_component (getNetworkMap lib rows).mapEdges selected
  refine ⟨visited, _, hloop _ (Nat.lt_succ_self _), fun id => (hmem id).trans ?_⟩
  rw [linked_mapEdges]
  exact connected_getNetworkMap.eqvGen_iff hselected

end NetworkMap
end SocFabric
