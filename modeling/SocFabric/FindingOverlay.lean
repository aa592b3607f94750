import Mathlib.Data.List.Sort
import SocFabric.FindingLifecycle
import SocFabric.Lib.KeyedStore
import SocFabric.Lib.RaisingLoop
import SocFabric.NetworkMap

/-!
# The findings overlay (`pages/assets/NetworkMapPage.tsx`)

`NetworkMapPage` puts the findings under `evidence.source_ip`, or without one under `endpoint_id`, and
looks a node up under `ip`, or without one under `id`. A node of `get_network_map` always has an
address, so what is put under an endpoint id is not found again: the overlay is faithful exactly if no
finding depends on it (`overlay_faithful_iff`).
-/

namespace SocFabric
namespace NetworkMap

open Findings (FindingStatus)

/-! ### The index -/

/-- The columns of `get_security_findings` that the page reads. -/
structure Finding where
  findingId : Uuid
  endpointId : Option Uuid
  category : String
  score : Int
  evidence : Json
  status : FindingStatus

/-- The property key of a value that is no string, with `none` for one that cannot be converted, and
`Math.floor(Math.random() * 40)` for the node of an index. -/
structure JsLib where
  convert : Json → Option String
  random : Nat → Int

def JsLib.propertyKey (lib : JsLib) : Json → Option String
  | .str s => some s
  | v => lib.convert v

/-- The properties of `Object.prototype`, which an object literal inherits. -/
def inherited : List String :=
  ["constructor", "__defineGetter__", "__defineSetter__", "hasOwnProperty", "__lookupGetter__",
    "__lookupSetter__", "isPrototypeOf", "propertyIsEnumerable", "toString", "valueOf", "__proto__",
    "toLocaleString"]

/-- The own property that a value names; an inherited one holds no array. -/
def JsLib.ownKey (lib : JsLib) (v : Json) : Option String :=
  (lib.propertyKey v).filter (· ∉ inherited)

/-- `evidence?.source_ip`. -/
def Finding.sourceIp (f : Finding) : Option Json :=
  match f.evidence with
  | .obj members => members.lookup "source_ip"
  | _ => none

def Finding.endpointText (f : Finding) : Option String := f.endpointId.map Uuid.text

def Finding.key (f : Finding) : Option Json :=
  (f.sourceIp.filter Json.jsTruth).or (f.endpointText.map .str)

def addFinding (lib : JsLib) (index : List (String × List Finding)) (f : Finding) :
    Option (List (String × List Finding)) :=
  match f.key with
  | none => some index
  | some key => do
    -- `push` of an inherited property raises
    let key ← lib.ownKey key
    return KeyedStore.put key ((index.lookup key).getD [] ++ [f]) index

def findingsByIp (lib : JsLib) (findings : List Finding) : Option (List (String × List Finding)) :=
  findings.foldlM (addFinding lib) []

/-! ### The nodes -/

inductive PageNodeType
  | clientHost
  | routerHost
  | externalDomain
  | externalIP
  | container
  | containerHost
  | generic
deriving DecidableEq, Repr

/-- Detect node type from the backend `type` field. -/
def nodeType : NodeType → PageNodeType
  | .routerHost => .routerHost
  | .clientHost => .clientHost
  | .externalDomain => .externalDomain
  | .container => .container
  | .containerHost => .containerHost

inductive Segment
  | dmz
  | production
  | corporate
deriving DecidableEq, Repr

/-- A node of the response, and the fields that the page sets. -/
structure EnhancedNode where
  node : Node
  riskScore : Int
  segment : Segment
  isNew : Bool
  nodeType : PageNodeType
  findings : List Finding
  findingCategory : Option String
  hasActiveAlert : Bool

def nodeFindingKey (n : Node) : Json := if n.ip.jsTruth then n.ip else .str n.id

def enhance (lib : JsLib) (index : List (String × List Finding)) (n : Node) (i : Nat) :
    Option EnhancedNode := do
  -- an inherited property has no `sort`
  let key ← lib.ownKey (nodeFindingKey n)
  let nodeFindings := ((index.lookup key).getD []).insertionSort fun a b => b.score ≤ a.score
  let topFinding := nodeFindings.head?
  return {
    node := n
    riskScore := (topFinding.map (·.score)).getD (lib.random i)
    segment := if i % 3 = 0 then .dmz else if i % 2 = 0 then .production else .corporate
    isNew := i = 4
    nodeType := nodeType n.type
    findings := nodeFindings
    findingCategory := topFinding.map (·.category)
    hasActiveAlert := nodeFindings.any fun f => f.status = .opened && 50 ≤ f.score }

/-- The nodes of the page, unless it raises. -/
def overlay (lib : JsLib) (findings : List Finding) (nodes : List Node) : Option (List EnhancedNode) := do
  let index ← findingsByIp lib findings
  nodes.zipIdx.mapM fun n => enhance lib index n.1 n.2

/-! ### Findings and nodes -/

/-- The finding names the node or its address. -/
def Related (f : Finding) (n : Node) : Prop := f.endpointText = some n.id ∨ f.sourceIp = some n.ip

structure Shown (findings : List Finding) (e : EnhancedNode) : Prop where
  own : ∀ f ∈ findings, Related f e.node → f ∈ e.findings
  only : ∀ f ∈ e.findings, f ∈ findings ∧ Related f e.node
  alert : e.hasActiveAlert = true ↔
    ∃ f ∈ findings, Related f e.node ∧ f.status = .opened ∧ 50 ≤ f.score

/-- Every finding is shown on the nodes that it names, and on no other. -/
def IsFaithful (lib : JsLib) (findings : List Finding) (nodes : List Node) : Prop :=
  ∃ page, overlay lib findings nodes = some page ∧ page.map (·.node) = nodes ∧
    ∀ e ∈ page, Shown findings e

/-- What the overlay relies on, for a finding. -/
structure Findable (lib : JsLib) (nodes : List Node) (f : Finding) : Prop where
  usable : ∀ v, f.key = some v → (lib.ownKey v).isSome = true
  own : ∀ n ∈ nodes, f.endpointText = some n.id → f.key.bind lib.propertyKey = lib.propertyKey n.ip
  other : ∀ n ∈ nodes, f.endpointText ≠ some n.id →
    f.key.bind lib.propertyKey = lib.propertyKey n.ip → f.sourceIp = some n.ip

section
variable {lib : JsLib} {findings : List Finding} {nodes : List Node} {n : Node} {f : Finding}
  {index index' : List (String × List Finding)} {k : String} {v : Json}

theorem ownKey_eq_some_iff : lib.ownKey v = some k ↔ lib.propertyKey v = some k ∧ k ∉ inherited := by
  rw [JsLib.ownKey, Option.filter_eq_some_iff, decide_eq_true_iff]

theorem addFinding_cases (h : addFinding lib index f = some index') :
    (f.key = none ∧ index' = index) ∨ ∃ v k, f.key = some v ∧ lib.ownKey v = some k ∧
      index' = KeyedStore.put k ((index.lookup k).getD [] ++ [f]) index := by
  unfold addFinding at h
  cases hkey : f.key with
  | none =>
    rw [hkey] at h
    exact .inl ⟨rfl, (Option.some.inj h).symm⟩
  | some v =>
    rw [hkey] at h
    obtain ⟨k, hk, hput⟩ := Option.bind_eq_some_iff.mp h
    exact .inr ⟨v, k, rfl, hk, (Option.some.inj hput).symm⟩

theorem isSome_addFinding (index : List (String × List Finding)) :
    (addFinding lib index f).isSome = true ↔ ∀ v, f.key = some v → (lib.ownKey v).isSome = true := by
  unfold addFinding
  cases f.key with
  | none => simp
  | some v => cases h : lib.ownKey v <;> simp [h]

theorem isSome_findingsByIp (index : List (String × List Finding)) :
    (findings.foldlM (addFinding lib) index).isSome = true ↔
      ∀ f ∈ findings, ∀ v, f.key = some v → (lib.ownKey v).isSome = true := by
  induction findings generalizing index with
  | nil => simp
  | cons f findings ih =>
    rw [List.foldlM_cons, List.forall_mem_cons, ← isSome_addFinding index]
    cases h : addFinding lib index f with
    | none => simp
    | some index' => simp [ih]

/-- The findings under a key, in their order. -/
theorem lookup_findingsByIp (h : findings.foldlM (addFinding lib) index = some index') (k : String) :
    (index'.lookup k).getD [] =
      (index.lookup k).getD [] ++ findings.filter fun f => f.key.bind lib.propertyKey = some k := by
  induction findings generalizing index with
  | nil =>
    cases h
    exact (List.append_nil _).symm
  | cons f findings ih =>
    rw [List.foldlM_cons] at h
    obtain ⟨mid, hmid, hrest⟩ := Option.bind_eq_some_iff.mp h
    rw [ih hrest]
    rcases addFinding_cases hmid with ⟨hkey, rfl⟩ | ⟨v, k', hkey, hk', rfl⟩
    · rw [List.filter_cons_of_neg (by simp [hkey])]
    · have hprop : f.key.bind lib.propertyKey = some k' := by
        rw [hkey]
        exact (ownKey_eq_some_iff.mp hk').1
      rw [KeyedStore.lookup_put]
      by_cases hk : k = k'
      · subst hk
        rw [if_pos rfl, List.filter_cons_of_pos (by simp [hprop]), Option.getD_some, List.append_assoc]
        rfl
      · rw [if_neg hk, List.filter_cons_of_neg (by simpa [hprop] using Ne.symm hk)]

theorem isSome_enhance {i : Nat} :
    (enhance lib index n i).isSome = (lib.ownKey (nodeFindingKey n)).isSome := by
  unfold enhance
  cases lib.ownKey (nodeFindingKey n) with
  | none => rfl
  | some k => rfl

/-- A node is given what is put under its key. -/
theorem enhance_spec {i : Nat} {e : EnhancedNode} (h : enhance lib index n i = some e) :
    e.node = n ∧
      (∃ k, lib.ownKey (nodeFindingKey n) = some k ∧ e.findings.Perm ((index.lookup k).getD [])) ∧
      e.hasActiveAlert = e.findings.any fun f => f.status = .opened && 50 ≤ f.score := by
  obtain ⟨k, hk, he⟩ := Option.bind_eq_some_iff.mp h
  cases he
  exact ⟨rfl, ⟨k, hk, List.perm_insertionSort _ _⟩, rfl⟩

/-- What the page returns for nodes with addresses. -/
structure IsPage (lib : JsLib) (findings : List Finding) (nodes : List Node) (page : List EnhancedNode) :
    Prop where
  nodes : page.map (·.node) = nodes
  mem : ∀ e ∈ page, ∀ f,
    f ∈ e.findings ↔ f ∈ findings ∧ f.key.bind lib.propertyKey = lib.propertyKey e.node.ip
  alert : ∀ e ∈ page, e.hasActiveAlert = e.findings.any fun f => f.status = .opened && 50 ≤ f.score

theorem isPage_overlay (htruth : ∀ n ∈ nodes, n.ip.jsTruth = true) {page : List EnhancedNode}
    (h : overlay lib findings nodes = some page) : IsPage lib findings nodes page := by
  obtain ⟨index, hindex, hpage⟩ := Option.bind_eq_some_iff.mp h
  refine ⟨?_, fun e he f => ?_, fun e he => ?_⟩
  · rw [RaisingLoop.map_of_mapM hpage fun n e hne => (enhance_spec hne).1, List.zipIdx_map_fst]
  · obtain ⟨⟨n, i⟩, hn, hne⟩ := RaisingLoop.exists_of_mem_of_mapM hpage he
    obtain ⟨hnode, ⟨k, hk, hperm⟩, -⟩ := enhance_spec hne
    rw [nodeFindingKey, if_pos (htruth n (List.fst_mem_of_mem_zipIdx hn))] at hk
    rw [hperm.mem_iff, lookup_findingsByIp hindex, hnode, (ownKey_eq_some_iff.mp hk).1]
    simp
  · obtain ⟨⟨n, i⟩, -, hne⟩ := RaisingLoop.exists_of_mem_of_mapM hpage he
    exact (enhance_spec hne).2.2

theorem isSome_overlay (htruth : ∀ n ∈ nodes, n.ip.jsTruth = true) :
    (overlay lib findings nodes).isSome = true ↔ (∀ n ∈ nodes, (lib.ownKey n.ip).isSome = true) ∧
      ∀ f ∈ findings, ∀ v, f.key = some v → (lib.ownKey v).isSome = true := by
  have hnodes (index : List (String × List Finding)) :
      (nodes.zipIdx.mapM fun n => enhance lib index n.1 n.2).isSome = true ↔
        ∀ n ∈ nodes, (lib.ownKey n.ip).isSome = true := by
    rw [RaisingLoop.isSome_mapM_iff]
    constructor
    · intro h n hn
      obtain ⟨x, hx, rfl⟩ := List.mem_map.mp ((List.zipIdx_map_fst 0 nodes).symm ▸ hn)
      have henhance := h x hx
      rwa [isSome_enhance, nodeFindingKey, if_pos (htruth x.1 hn)] at henhance
    · intro h x hx
      have hmem := List.fst_mem_of_mem_zipIdx hx
      rw [isSome_enhance, nodeFindingKey, if_pos (htruth x.1 hmem)]
      exact h x.1 hmem
  rw [overlay, ← isSome_findingsByIp [], ← findingsByIp]
  cases findingsByIp lib findings with
  | none => simp
  | some index => simp [hnodes index]

/-- A page shows what the nodes' addresses find. -/
theorem shown_iff {page : List EnhancedNode} (hpage : IsPage lib findings nodes page) :
    (∀ e ∈ page, Shown findings e) ↔ ∀ f ∈ findings, ∀ n ∈ nodes,
      (Related f n ↔ f.key.bind lib.propertyKey = lib.propertyKey n.ip) := by
  constructor
  · intro h f hf n hn
    obtain ⟨e, he, rfl⟩ := List.mem_map.mp (hpage.nodes.symm ▸ hn)
    constructor
    · exact fun hrelated => ((hpage.mem e he f).mp ((h e he).own f hf hrelated)).2
    · exact fun hkey => ((h e he).only f ((hpage.mem e he f).mpr ⟨hf, hkey⟩)).2
  · intro h e he
    have hn : e.node ∈ nodes := hpage.nodes ▸ List.mem_map_of_mem he
    have hmem : ∀ f, f ∈ e.findings ↔ f ∈ findings ∧ Related f e.node := fun f => by
      rw [hpage.mem e he]
      exact and_congr_right fun hf => (h f hf _ hn).symm
    refine ⟨fun f hf hrelated => (hmem f).mpr ⟨hf, hrelated⟩, fun f hf => (hmem f).mp hf, ?_⟩
    rw [hpage.alert e he, List.any_eq_true]
    constructor
    · rintro ⟨f, hf, hopen⟩
      obtain ⟨hfindings, hrelated⟩ := (hmem f).mp hf
      exact ⟨f, hfindings, hrelated, by simpa using hopen⟩
    · rintro ⟨f, hfindings, hrelated, hopen⟩
      exact ⟨f, (hmem f).mpr ⟨hfindings, hrelated⟩, by simpa using hopen⟩

/-- An address that a finding names is the key of the finding. -/
theorem key_of_sourceIp (htruth : n.ip.jsTruth = true) (h : f.sourceIp = some n.ip) : f.key = some n.ip := by
  rw [Finding.key, h, Option.filter_some, if_pos htruth]
  rfl

theorem related_iff_key (htruth : n.ip.jsTruth = true) :
    (Related f n ↔ f.key.bind lib.propertyKey = lib.propertyKey n.ip) ↔
      (f.endpointText = some n.id → f.key.bind lib.propertyKey = lib.propertyKey n.ip) ∧
        (f.endpointText ≠ some n.id → f.key.bind lib.propertyKey = lib.propertyKey n.ip →
          f.sourceIp = some n.ip) := by
  constructor
  · exact fun h => ⟨fun hid => h.mp (.inl hid), fun hid hkey => (h.mpr hkey).resolve_left hid⟩
  · rintro ⟨hown, hother⟩
    constructor
    · rintro (hid | hip)
      · exact hown hid
      · rw [key_of_sourceIp htruth hip]
        rfl
    · intro hkey
      by_cases hid : f.endpointText = some n.id
      · exact .inl hid
      · exact .inr (hother hid hkey)

end

theorem overlay_faithful_iff (lib : JsLib) (pyLib : PyLib) (rows : List EndpointRow) (findings : List Finding) :
    IsFaithful lib findings (getNetworkMap pyLib rows).nodes ↔
      (∀ n ∈ (getNetworkMap pyLib rows).nodes, (lib.ownKey n.ip).isSome = true) ∧
        ∀ f ∈ findings, Findable lib (getNetworkMap pyLib rows).nodes f := by
  have htruth : ∀ n ∈ (getNetworkMap pyLib rows).nodes, n.ip.jsTruth = true := fun n hn =>
    Json.jsTruth_of_truth (truth_ip hn)
  constructor
  · rintro ⟨page, hpage, -, hshown⟩
    obtain ⟨hnodes, hfindings⟩ := (isSome_overlay htruth).mp (Option.isSome_of_eq_some hpage)
    have hkeys := (shown_iff (isPage_overlay htruth hpage)).mp hshown
    refine ⟨hnodes, fun f hf => ⟨hfindings f hf, fun n hn => ?_, fun n hn => ?_⟩⟩
    · exact ((related_iff_key (htruth n hn)).mp (hkeys f hf n hn)).1
    · exact ((related_iff_key (htruth n hn)).mp (hkeys f hf n hn)).2
  · rintro ⟨hnodes, hfindings⟩
    obtain ⟨page, hpage⟩ := Option.isSome_iff_exists.mp
      ((isSome_overlay htruth).mpr ⟨hnodes, fun f hf => (hfindings f hf).usable⟩)
    have hisPage := isPage_overlay htruth hpage
    refine ⟨page, hpage, hisPage.nodes, (shown_iff hisPage).mpr fun f hf n hn => ?_⟩
    exact (related_iff_key (htruth n hn)).mpr ⟨(hfindings f hf).own n hn, (hfindings f hf).other n hn⟩

/-- Objects and lists are not converted, and the draws are zero. -/
def sampleJs : JsLib where
  convert _ := none
  random _ := 0

/-- An open finding of the first sample endpoint, with no address. -/
def enrolledFinding : Finding where
  findingId := .repeated 10
  endpointId := some (.repeated 1)
  category := "rat"
  score := 90
  evidence := .obj [("process_name", .str "nc.exe")]
  status := .opened

theorem enrolled_finding_lost :
    ¬ ∀ findings rows, IsFaithful sampleJs findings (getNetworkMap sampleLib rows).nodes := by
  intro h
  obtain ⟨page, hpage, -, hshown⟩ := h [enrolledFinding] sampleRows
  have hisPage := isPage_overlay (fun n hn => Json.jsTruth_of_truth (truth_ip hn)) hpage
  have hkeys := (shown_iff hisPage).mp hshown enrolledFinding (.head _)
    ((getNetworkMap sampleLib sampleRows).nodes.get ⟨1, by decide⟩) (List.get_mem _ _)
  have hkey := hkeys.mp (.inl rfl)
  revert hkey
  decide

end NetworkMap
end SocFabric
