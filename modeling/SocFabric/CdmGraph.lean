import SocFabric.CdmParser
import SocFabric.Lib.DirGraph

/-!
# The shape of a provenance graph

Every step of `ParseToCDM` hangs one node below nodes that are there already, so its graph has no
dangling edge and no part that the host does not reach (`parseToCDM_closed_and_reachable`).
`mem_ids_parseToCDM` lists the node ids of a payload.
-/

namespace SocFabric
namespace Cdm

namespace ProvenanceGraph

def ids (g : ProvenanceGraph) : List String := g.nodes.map (·.id)

def Edge (g : ProvenanceGraph) (a b : String) : Prop := ∃ e ∈ g.edges, e.sourceID = a ∧ e.targetID = b

/-- No dangling edges. -/
def Closed (g : ProvenanceGraph) : Prop := ∀ e ∈ g.edges, e.sourceID ∈ g.ids ∧ e.targetID ∈ g.ids

/-- No dangling edges, and no ghost graphs apart from the root. -/
structure WellFormed (g : ProvenanceGraph) (root : String) : Prop where
  closed : g.Closed
  root_mem : root ∈ g.ids
  reachable : ∀ n ∈ g.nodes, Relation.ReflTransGen g.Edge root n.id

def toDirGraph (g : ProvenanceGraph) : DirGraph String := ⟨{x | x ∈ g.ids}, g.Edge⟩

variable {g : ProvenanceGraph} {root : String}

theorem closed_iff : g.Closed ↔ g.toDirGraph.Closed := by
  constructor
  · intro h
    refine ⟨?_, ?_⟩
    · rintro a b ⟨e, he, rfl, rfl⟩
      exact (h e he).1
    · rintro a b ⟨e, he, rfl, rfl⟩
      exact (h e he).2
  · intro h e he
    exact ⟨h.source ⟨e, he, rfl, rfl⟩, h.target ⟨e, he, rfl, rfl⟩⟩

theorem wellFormed_iff : g.WellFormed root ↔ g.toDirGraph.Rooted root := by
  constructor
  · intro h
    refine ⟨closed_iff.mp h.closed, h.root_mem, ?_⟩
    intro a ha
    obtain ⟨n, hn, rfl⟩ := List.mem_map.mp ha
    exact h.reachable n hn
  · intro h
    exact ⟨closed_iff.mpr h.toClosed, h.root_mem, fun n hn => h.reachable (List.mem_map_of_mem hn)⟩

@[simp] theorem mem_ids_add (node : GraphNode) (edges : List GraphEdge) (x : String) :
    x ∈ (g.add node edges).ids ↔ x ∈ g.ids ∨ x = node.id := by
  simp [ids, add]

/-- The extension of a graph by a batch of nodes and edges. -/
theorem toDirGraph_append (nodes : List GraphNode) (edges : List GraphEdge) :
    toDirGraph ⟨g.nodes ++ nodes, g.edges ++ edges⟩ =
      g.toDirGraph.extend {x | ∃ n ∈ nodes, n.id = x}
        (fun a b => ∃ e ∈ edges, e.sourceID = a ∧ e.targetID = b) := by
  simp only [toDirGraph, DirGraph.extend, DirGraph.mk.injEq]
  constructor
  · ext x
    simp [ids]
  · funext a b
    simp only [Edge, List.mem_append, or_and_right, exists_or]

/-- A node hung below nodes of the graph. -/
theorem WellFormed.add (h : g.WellFormed root) {node : GraphNode} {edges : List GraphEdge} (hne : edges ≠ [])
    (hedges : ∀ e ∈ edges, e.sourceID ∈ g.ids ∧ e.targetID = node.id) : (g.add node edges).WellFormed root := by
  rw [wellFormed_iff] at h ⊢
  rw [ProvenanceGraph.add, toDirGraph_append]
  apply h.extend
  · rintro a b ⟨e, he, rfl, rfl⟩
    exact ⟨(hedges e he).1, node, List.mem_singleton_self node, (hedges e he).2.symm⟩
  · rintro b ⟨n, hn, rfl⟩
    rw [List.mem_singleton.mp hn]
    obtain ⟨e, he⟩ := List.exists_mem_of_ne_nil edges hne
    exact ⟨e.sourceID, e, he, rfl, (hedges e he).2⟩

end ProvenanceGraph

open ProvenanceGraph

section
variable {clock : Clock} {p : RemoteLogPayload} {tenantID : String} {g : ProvenanceGraph} {root : String}

/-! ### Node ids, step by step -/

theorem mem_ids_addFile (x : String) :
    x ∈ (addFile clock p tenantID g).ids ↔ x ∈ g.ids ∨ (p.rawData.targetFile ≠ "" ∧ x = fileID p tenantID) := by
  unfold addFile
  split_ifs with h <;> simp [h]

theorem mem_ids_addFlow (properties x : String) :
    x ∈ (addFlow p tenantID properties g).ids ↔
      x ∈ g.ids ∨ (p.rawData.destinationPort ≠ 0 ∧ x = flowID p tenantID) := by
  unfold addFlow
  split_ifs with h <;> simp [h]

theorem mem_ids_addConnection (x : String) :
    x ∈ (addConnection clock p tenantID g).ids ↔
      x ∈ g.ids ∨ (p.rawData.destinationIP ≠ "" ∧
        (x = destID p tenantID ∨ (p.rawData.destinationPort ≠ 0 ∧ x = flowID p tenantID))) := by
  unfold addConnection
  split_ifs with h
  · simp [h]
  · simp [mem_ids_addFlow, h, or_assoc]

theorem mem_ids_addDns (x : String) :
    x ∈ (addDns clock p tenantID g).ids ↔
      x ∈ g.ids ∨ (p.rawData.dnsDomain ≠ "" ∧ x = dnsID tenantID p.rawData.dnsDomain) := by
  unfold addDns
  split_ifs with h <;> simp [h]

theorem mem_ids_addProcess (x : String) :
    x ∈ (addProcess clock p tenantID g).ids ↔
      x ∈ g.ids ∨ (p.rawData.processName ≠ "" ∧
        (x = procID clock p tenantID ∨ (p.rawData.targetFile ≠ "" ∧ x = fileID p tenantID) ∨
          (p.rawData.destinationIP ≠ "" ∧
            (x = destID p tenantID ∨ (p.rawData.destinationPort ≠ 0 ∧ x = flowID p tenantID))) ∨
          (p.rawData.dnsDomain ≠ "" ∧ x = dnsID tenantID p.rawData.dnsDomain))) := by
  unfold addProcess
  split_ifs with h
  · simp [h]
  · simp [mem_ids_addDns, mem_ids_addConnection, mem_ids_addFile, h, or_assoc]

theorem mem_ids_addInterface (x : String) :
    x ∈ (addInterface p tenantID g).ids ↔
      x ∈ g.ids ∨ (p.rawData.routerInterface ≠ "" ∧ x = ifaceID p tenantID) := by
  unfold addInterface
  split_ifs with h <;> simp [h]

theorem mem_ids_addDestination (x : String) :
    x ∈ (addDestination p tenantID g).ids ↔
      x ∈ g.ids ∨ (p.rawData.destinationIP ≠ "" ∧
        (x = destID p tenantID ∨ (p.rawData.destinationPort ≠ 0 ∧ x = flowID p tenantID))) := by
  unfold addDestination
  split_ifs with h
  · simp [h]
  · simp [mem_ids_addFlow, h, or_assoc]

theorem mem_ids_addSite (x : String) :
    x ∈ (addSite p tenantID g).ids ↔
      x ∈ g.ids ∨ (siteDomain p ≠ "" ∧ x = dnsID tenantID (siteDomain p)) := by
  unfold addSite
  split_ifs with h <;> simp [h]

theorem mem_ids_addRouter (x : String) :
    x ∈ (addRouter p tenantID g).ids ↔
      x ∈ g.ids ∨ (isRouterFlow p ∧
        (x = routerID tenantID ∨ (p.rawData.routerInterface ≠ "" ∧ x = ifaceID p tenantID) ∨
          (p.rawData.destinationIP ≠ "" ∧
            (x = destID p tenantID ∨ (p.rawData.destinationPort ≠ 0 ∧ x = flowID p tenantID))) ∨
          (siteDomain p ≠ "" ∧ x = dnsID tenantID (siteDomain p)))) := by
  unfold addRouter
  split_ifs with h
  · simp [mem_ids_addSite, mem_ids_addDestination, mem_ids_addInterface, h, or_assoc]
  · simp [h]

theorem mem_ids_addScript (x : String) :
    x ∈ (addScript clock p tenantID g).ids ↔
      x ∈ g.ids ∨ ((p.rawData.commandLine ≠ "" ∧
        Text.contains (Text.goLower p.rawData.commandLine) "powershell" = true) ∧
        x = scriptID clock tenantID) := by
  unfold addScript
  split_ifs with h <;> simp [h]

/-! ### Well-formedness, step by step -/

theorem ProvenanceGraph.WellFormed.addFile (h : g.WellFormed root) (hproc : procID clock p tenantID ∈ g.ids) :
    (addFile clock p tenantID g).WellFormed root := by
  unfold Cdm.addFile
  split_ifs
  · exact h
  · exact h.add (by simp) (by simpa using hproc)

theorem ProvenanceGraph.WellFormed.addFlow (h : g.WellFormed root) (hdest : destID p tenantID ∈ g.ids)
    (properties : String) : (addFlow p tenantID properties g).WellFormed root := by
  unfold Cdm.addFlow
  split_ifs
  · exact h
  · exact h.add (by simp) (by simpa using hdest)

theorem ProvenanceGraph.WellFormed.addConnection (h : g.WellFormed root)
    (hproc : procID clock p tenantID ∈ g.ids) : (addConnection clock p tenantID g).WellFormed root := by
  unfold Cdm.addConnection
  split_ifs
  · exact h
  · exact (h.add (by simp) (by simpa using hproc)).addFlow (by simp) _

theorem ProvenanceGraph.WellFormed.addDns (h : g.WellFormed root) (hproc : procID clock p tenantID ∈ g.ids) :
    (addDns clock p tenantID g).WellFormed root := by
  unfold Cdm.addDns
  split_ifs
  · exact h
  · exact h.add (by simp) (by simpa using hproc)

theorem ProvenanceGraph.WellFormed.addProcess (h : g.WellFormed root) (hhost : hostID p tenantID ∈ g.ids) :
    (addProcess clock p tenantID g).WellFormed root := by
  unfold Cdm.addProcess
  split_ifs
  · exact h
  · -- Each of the three hangs its nodes below the process, which the steps before it keep.
    refine ((h.add (by simp) (by simpa using hhost)).addFile ?_).addConnection ?_ |>.addDns ?_
    · simp
    · simp [mem_ids_addFile]
    · simp [mem_ids_addConnection, mem_ids_addFile]

theorem ProvenanceGraph.WellFormed.addInterface (h : g.WellFormed root)
    (hrouter : routerID tenantID ∈ g.ids) :
    (addInterface p tenantID g).WellFormed root := by
  unfold Cdm.addInterface
  split_ifs
  · exact h
  · exact h.add (by simp) (by simpa using hrouter)

theorem ProvenanceGraph.WellFormed.addDestination (h : g.WellFormed root)
    (hrouter : routerID tenantID ∈ g.ids) : (addDestination p tenantID g).WellFormed root := by
  unfold Cdm.addDestination
  split_ifs
  · exact h
  · exact (h.add (by simp) (by simpa using hrouter)).addFlow (by simp) _

theorem ProvenanceGraph.WellFormed.addSite (h : g.WellFormed root) (hrouter : routerID tenantID ∈ g.ids)
    (hhost : hostID p tenantID ∈ g.ids) : (addSite p tenantID g).WellFormed root := by
  unfold Cdm.addSite
  split_ifs
  · exact h
  · exact h.add (by simp) (by simp [hrouter, hhost])

theorem ProvenanceGraph.WellFormed.addRouter (h : g.WellFormed root) (hhost : hostID p tenantID ∈ g.ids) :
    (addRouter p tenantID g).WellFormed root := by
  unfold Cdm.addRouter
  split_ifs
  · refine ((h.add (by simp) (by simpa using hhost)).addInterface ?_).addDestination ?_ |>.addSite ?_ ?_
    · simp
    · simp [mem_ids_addInterface]
    · simp [mem_ids_addDestination, mem_ids_addInterface]
    · simp [mem_ids_addDestination, mem_ids_addInterface, hhost]
  · exact h

theorem ProvenanceGraph.WellFormed.addScript (h : g.WellFormed root) (hhost : hostID p tenantID ∈ g.ids) :
    (addScript clock p tenantID g).WellFormed root := by
  unfold Cdm.addScript
  split_ifs
  · exact h.add (by simp) (by simpa using hhost)
  · exact h

theorem wellFormed_host (node : GraphNode) : (ProvenanceGraph.add {} node []).WellFormed node.id := by
  rw [wellFormed_iff]
  apply DirGraph.Rooted.singleton
  · ext x
    simp [toDirGraph, ids, ProvenanceGraph.add]
  · rintro a b ⟨e, he, -⟩
    simp [ProvenanceGraph.add] at he

end

/-! ### Tenant scope -/

/-- The form of all node ids. -/
def tenantScoped (tenantID s : String) : String := tenantID ++ "_" ++ s

theorem toList_tenantScoped (tenantID s : String) :
    (tenantScoped tenantID s).toList = tenantID.toList ++ '_' :: s.toList := by
  simp [tenantScoped]

theorem tenantScoped_inj {tenantID a b : String} :
    tenantScoped tenantID a = tenantScoped tenantID b ↔ a = b := by
  rw [← String.toList_inj, toList_tenantScoped, toList_tenantScoped, List.append_cancel_left_eq,
    List.cons_inj_right, String.toList_inj]

/-- The id of a node of some kind. -/
theorem append_kind (tenantID kind s : String) :
    tenantID ++ ("_" ++ kind) ++ s = tenantScoped tenantID (kind ++ s) := by
  simp only [tenantScoped, String.append_assoc]

section
variable (clock : Clock) (p : RemoteLogPayload) (tenantID : String)

theorem hostID_eq : hostID p tenantID = tenantScoped tenantID (hostIP p) := rfl

theorem destID_eq : destID p tenantID = tenantScoped tenantID p.rawData.destinationIP := rfl

theorem procID_eq :
    procID clock p tenantID =
      tenantScoped tenantID ("proc_" ++ (p.rawData.processName ++ "_" ++ toString clock.process)) := by
  have h : p.rawData.processName ++ ("_" ++ toString clock.process) =
      p.rawData.processName ++ "_" ++ toString clock.process := String.append_assoc.symm
  rw [procID, String.append_assoc, String.append_assoc, h]
  exact append_kind tenantID "proc_" _

theorem fileID_eq : fileID p tenantID = tenantScoped tenantID ("file_" ++ hex p.rawData.targetFile) :=
  append_kind tenantID "file_" _

theorem flowID_eq :
    flowID p tenantID = tenantScoped tenantID
      ("flow_" ++ (p.rawData.destinationIP ++ "_" ++ toString p.rawData.destinationPort)) := by
  have h : p.rawData.destinationIP ++ ("_" ++ toString p.rawData.destinationPort) =
      p.rawData.destinationIP ++ "_" ++ toString p.rawData.destinationPort := String.append_assoc.symm
  rw [flowID, String.append_assoc, String.append_assoc, h]
  exact append_kind tenantID "flow_" _

theorem dnsID_eq (domain : String) : dnsID tenantID domain = tenantScoped tenantID ("dns_" ++ domain) :=
  append_kind tenantID "dns_" _

theorem routerID_eq : routerID tenantID = tenantScoped tenantID ("router_" ++ routerIP) :=
  append_kind tenantID "router_" _

theorem ifaceID_eq : ifaceID p tenantID = tenantScoped tenantID ("iface_" ++ p.rawData.routerInterface) :=
  append_kind tenantID "iface_" _

theorem scriptID_eq : scriptID clock tenantID = tenantScoped tenantID ("script_" ++ toString clock.script) :=
  append_kind tenantID "script_" _

end

/-! ### The graph of a payload -/

variable (clock : Clock) (p : RemoteLogPayload) (tenantID : String)

theorem wellFormed_parseToCDM : (parseToCDM clock p tenantID).WellFormed (hostID p tenantID) := by
  refine ((wellFormed_host _).addProcess ?_).addRouter ?_ |>.addScript ?_
  · simp
  · simp [mem_ids_addProcess]
  · simp [mem_ids_addRouter, mem_ids_addProcess]

/-- The graph of a payload has no dangling edge, and the host reaches all of it. -/
theorem parseToCDM_closed_and_reachable :
    (∀ e ∈ (parseToCDM clock p tenantID).edges,
      e.sourceID ∈ (parseToCDM clock p tenantID).ids ∧ e.targetID ∈ (parseToCDM clock p tenantID).ids) ∧
    hostID p tenantID ∈ (parseToCDM clock p tenantID).ids ∧
    ∀ n ∈ (parseToCDM clock p tenantID).nodes,
      Relation.ReflTransGen (parseToCDM clock p tenantID).Edge (hostID p tenantID) n.id := by
  have h := wellFormed_parseToCDM clock p tenantID
  exact ⟨h.closed, h.root_mem, h.reachable⟩

/-- The node ids of a payload's graph. The destination and its flow are mapped whether the payload
names a process or not. -/
theorem mem_ids_parseToCDM (x : String) :
    x ∈ (parseToCDM clock p tenantID).ids ↔
      x = hostID p tenantID ∨
      (p.rawData.destinationIP ≠ "" ∧
        (x = destID p tenantID ∨ (p.rawData.destinationPort ≠ 0 ∧ x = flowID p tenantID))) ∨
      (p.rawData.processName ≠ "" ∧
        (x = procID clock p tenantID ∨ (p.rawData.targetFile ≠ "" ∧ x = fileID p tenantID) ∨
          (p.rawData.dnsDomain ≠ "" ∧ x = dnsID tenantID p.rawData.dnsDomain))) ∨
      (isRouterFlow p ∧
        (x = routerID tenantID ∨ (p.rawData.routerInterface ≠ "" ∧ x = ifaceID p tenantID) ∨
          (siteDomain p ≠ "" ∧ x = dnsID tenantID (siteDomain p)))) ∨
      ((p.rawData.commandLine ≠ "" ∧
        Text.contains (Text.goLower p.rawData.commandLine) "powershell" = true) ∧
        x = scriptID clock tenantID) := by
  have hroute : p.rawData.destinationIP ≠ "" → p.rawData.processName ≠ "" ∨ isRouterFlow p := by
    intro hdest
    by_cases hproc : p.rawData.processName = ""
    · exact .inr (by simp [isRouterFlow, hproc, hdest])
    · exact .inl hproc
  rw [parseToCDM, mem_ids_addScript, mem_ids_addRouter, mem_ids_addProcess, mem_ids_add]
  simp only [ids, List.map_nil, List.not_mem_nil, false_or]
  constructor
  · rintro (((h | ⟨hp, h | h | h | h⟩) | ⟨hr, h | h | h | h⟩) | h)
    · exact .inl h
    · exact .inr (.inr (.inl ⟨hp, .inl h⟩))
    · exact .inr (.inr (.inl ⟨hp, .inr (.inl h)⟩))
    · exact .inr (.inl h)
    · exact .inr (.inr (.inl ⟨hp, .inr (.inr h)⟩))
    · exact .inr (.inr (.inr (.inl ⟨hr, .inl h⟩)))
    · exact .inr (.inr (.inr (.inl ⟨hr, .inr (.inl h)⟩)))
    · exact .inr (.inl h)
    · exact .inr (.inr (.inr (.inl ⟨hr, .inr (.inr h)⟩)))
    · exact .inr (.inr (.inr (.inr h)))
  · rintro (h | h | ⟨hp, h | h | h⟩ | ⟨hr, h | h | h⟩ | h)
    · exact .inl (.inl (.inl h))
    · rcases hroute h.1 with hp | hr
      · exact .inl (.inl (.inr ⟨hp, .inr (.inr (.inl h))⟩))
      · exact .inl (.inr ⟨hr, .inr (.inr (.inl h))⟩)
    · exact .inl (.inl (.inr ⟨hp, .inl h⟩))
    · exact .inl (.inl (.inr ⟨hp, .inr (.inl h)⟩))
    · exact .inl (.inl (.inr ⟨hp, .inr (.inr (.inr h))⟩))
    · exact .inl (.inr ⟨hr, .inl h⟩)
    · exact .inl (.inr ⟨hr, .inr (.inl h)⟩)
    · exact .inl (.inr ⟨hr, .inr (.inr (.inr h))⟩)
    · exact .inr h

theorem exists_tenantScoped {x : String} (h : x ∈ (parseToCDM clock p tenantID).ids) :
    ∃ s, x = tenantScoped tenantID s := by
  rw [mem_ids_parseToCDM] at h
  rcases h with rfl | ⟨-, rfl | ⟨-, rfl⟩⟩ | ⟨-, rfl | ⟨-, rfl⟩ | ⟨-, rfl⟩⟩ |
    ⟨-, rfl | ⟨-, rfl⟩ | ⟨-, rfl⟩⟩ | ⟨-, rfl⟩
  · exact ⟨_, hostID_eq p tenantID⟩
  · exact ⟨_, destID_eq p tenantID⟩
  · exact ⟨_, flowID_eq p tenantID⟩
  · exact ⟨_, procID_eq clock p tenantID⟩
  · exact ⟨_, fileID_eq p tenantID⟩
  · exact ⟨_, dnsID_eq tenantID _⟩
  · exact ⟨_, routerID_eq tenantID⟩
  · exact ⟨_, ifaceID_eq p tenantID⟩
  · exact ⟨_, dnsID_eq tenantID _⟩
  · exact ⟨_, scriptID_eq clock tenantID⟩

/-- The payload's graph holds the flow node that an event id names only where some other id happens
to read as that: the host's or the destination's address, or the destination and port. -/
theorem flow_mem_ids_iff (eventID : String) :
    tenantID ++ "_flow_" ++ eventID ∈ (parseToCDM clock p tenantID).ids ↔
      hostIP p = "flow_" ++ eventID ∨
      (p.rawData.destinationIP ≠ "" ∧
        (p.rawData.destinationIP = "flow_" ++ eventID ∨
          (p.rawData.destinationPort ≠ 0 ∧
            p.rawData.destinationIP ++ "_" ++ toString p.rawData.destinationPort = eventID))) := by
  have hflow : tenantID ++ "_flow_" ++ eventID = tenantScoped tenantID ("flow_" ++ eventID) :=
    append_kind tenantID "flow_" eventID
  have hkind : ∀ kind ∈ ["proc_", "file_", "dns_", "router_", "iface_", "script_"], ∀ s,
      "flow_" ++ eventID ≠ kind ++ s := by
    intro kind hk s h
    have hlist := congrArg String.toList h
    rw [String.toList_append, String.toList_append] at hlist
    simp only [List.mem_cons, List.not_mem_nil, or_false] at hk
    rcases hk with rfl | rfl | rfl | rfl | rfl | rfl <;> simp at hlist
  have hinj : ∀ s, "flow_" ++ eventID = "flow_" ++ s ↔ s = eventID := by
    intro s
    rw [← String.toList_inj, String.toList_append, String.toList_append, List.append_cancel_left_eq,
      String.toList_inj, eq_comm]
  rw [mem_ids_parseToCDM, hflow, hostID_eq, destID_eq, procID_eq, fileID_eq, flowID_eq, dnsID_eq, dnsID_eq,
    routerID_eq, ifaceID_eq, scriptID_eq]
  simp only [tenantScoped_inj, hinj, hkind "proc_" (by simp), hkind "file_" (by simp), hkind "dns_" (by simp),
    hkind "router_" (by simp), hkind "iface_" (by simp), hkind "script_" (by simp), and_false, or_false,
    eq_comm (a := "flow_" ++ eventID)]

end Cdm
end SocFabric
