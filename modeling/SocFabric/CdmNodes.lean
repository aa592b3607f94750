import Mathlib.Data.Finset.Card
import Mathlib.Data.List.Nodup
import SocFabric.CdmGraph
import SocFabric.Lib.Joined

/-!
# Distinct node ids (`core-ingest/cdm_parser.go`)

A node of `ParseToCDM` stands for an address or for an entity of some kind, and its id is the text of
that in the tenant's scope (`ids_parseToCDM`). Kinds never clash, but the router's view adds the
destination and the domain again that the process tree has, and an address can be any text. So the
ids of a graph are distinct exactly if neither happens (`unique_ids_iff`).
-/

namespace SocFabric
namespace Cdm
open ProvenanceGraph

/-! ### Entities -/

inductive Kind
  | proc
  | file
  | flow
  | dns
  | router
  | iface
  | script
deriving DecidableEq, Repr

def Kind.name : Kind → String
  | proc => "proc"
  | file => "file"
  | flow => "flow"
  | dns => "dns"
  | router => "router"
  | iface => "iface"
  | script => "script"

/-- What a node stands for. -/
inductive Entity
  | address (a : String)
  | kinded (kind : Kind) (s : String)
deriving DecidableEq, Repr

def Entity.text : Entity → String
  | address a => a
  | kinded kind s => kind.name ++ "_" ++ s

theorem Entity.kinded_text_inj {k k' : Kind} {s s' : String}
    (h : (kinded k s).text = (kinded k' s').text) : kinded k s = kinded k' s' := by
  have hlist := congrArg String.toList h
  simp only [text, String.toList_append, List.append_assoc] at hlist
  have hname : ∀ k : Kind, '_' ∉ k.name.toList := by
    intro k
    cases k <;> decide
  obtain ⟨hkind, hs⟩ := Joined.left_injective (c := '_') hlist (hname k) (hname k')
  have hk : k = k' := by
    cases k <;> cases k' <;> first | rfl | exact absurd hkind (by decide)
  rw [hk, String.toList_inj.mp hs]

section
variable (clock : Clock) (p : RemoteLogPayload)

/-- The destination and its flow. -/
def connectionEntities : List Entity :=
  if p.rawData.destinationIP = "" then []
  else
    .address p.rawData.destinationIP ::
      if p.rawData.destinationPort = 0 then []
      else [.kinded .flow (p.rawData.destinationIP ++ "_" ++ toString p.rawData.destinationPort)]

def processEntities : List Entity :=
  if p.rawData.processName = "" then []
  else
    .kinded .proc (p.rawData.processName ++ "_" ++ toString clock.process) ::
      ((if p.rawData.targetFile = "" then [] else [.kinded .file (hex p.rawData.targetFile)]) ++
        connectionEntities p ++
        if p.rawData.dnsDomain = "" then [] else [.kinded .dns p.rawData.dnsDomain])

def routerEntities : List Entity :=
  if isRouterFlow p then
    .kinded .router routerIP ::
      ((if p.rawData.routerInterface = "" then [] else [.kinded .iface p.rawData.routerInterface]) ++
        connectionEntities p ++
        if siteDomain p = "" then [] else [.kinded .dns (siteDomain p)])
  else []

def scriptEntities : List Entity :=
  if p.rawData.commandLine ≠ "" ∧
      Text.contains (Text.goLower p.rawData.commandLine) "powershell" = true then
    [.kinded .script (toString clock.script)]
  else []

def entities : List Entity :=
  .address (hostIP p) :: (processEntities clock p ++ routerEntities p ++ scriptEntities clock p)

end

section
variable (clock : Clock) (p : RemoteLogPayload) (tenantID : String) (g : ProvenanceGraph)

theorem ids_add (node : GraphNode) (edges : List GraphEdge) :
    (g.add node edges).ids = g.ids ++ [node.id] := by
  simp [ids, ProvenanceGraph.add]

/-- The id of an entity. -/
def entityID (e : Entity) : String := tenantScoped tenantID e.text

/-- A step that may add one node. -/
theorem ids_ite_add {c : Prop} [Decidable c] {node : GraphNode} {edges : List GraphEdge} {e : Entity}
    (h : node.id = entityID tenantID e) :
    (if c then g else g.add node edges).ids =
      g.ids ++ (if c then [] else [e]).map (entityID tenantID) := by
  split_ifs
  · simp
  · rw [ids_add, h]
    rfl

theorem ids_addFile :
    (addFile clock p tenantID g).ids = g.ids ++ (if p.rawData.targetFile = "" then []
      else [Entity.kinded .file (hex p.rawData.targetFile)]).map (entityID tenantID) :=
  ids_ite_add tenantID g (fileID_eq p tenantID)

theorem ids_addFlow (properties : String) :
    (addFlow p tenantID properties g).ids = g.ids ++ (if p.rawData.destinationPort = 0 then []
      else [Entity.kinded .flow (p.rawData.destinationIP ++ "_" ++
        toString p.rawData.destinationPort)]).map (entityID tenantID) :=
  ids_ite_add tenantID g (flowID_eq p tenantID)

theorem ids_addDns :
    (addDns clock p tenantID g).ids = g.ids ++ (if p.rawData.dnsDomain = "" then []
      else [Entity.kinded .dns p.rawData.dnsDomain]).map (entityID tenantID) :=
  ids_ite_add tenantID g (dnsID_eq tenantID _)

theorem ids_addInterface :
    (addInterface p tenantID g).ids = g.ids ++ (if p.rawData.routerInterface = "" then []
      else [Entity.kinded .iface p.rawData.routerInterface]).map (entityID tenantID) :=
  ids_ite_add tenantID g (ifaceID_eq p tenantID)

theorem ids_addSite :
    (addSite p tenantID g).ids = g.ids ++ (if siteDomain p = "" then []
      else [Entity.kinded .dns (siteDomain p)]).map (entityID tenantID) :=
  ids_ite_add tenantID g (dnsID_eq tenantID _)

/-- A step that adds the destination and its flow. -/
theorem ids_ite_addFlow (properties : String) (type : String) (destProperties : String)
    (edges : List GraphEdge) :
    (if p.rawData.destinationIP = "" then g
      else addFlow p tenantID properties
        (g.add ⟨destID p tenantID, type, destProperties⟩ edges)).ids =
      g.ids ++ (connectionEntities p).map (entityID tenantID) := by
  unfold connectionEntities
  split_ifs with hdest hport
  · simp
  · rw [ids_addFlow, if_pos hport, ids_add]
    simp [destID_eq, entityID, Entity.text]
  · rw [ids_addFlow, if_neg hport, ids_add]
    simp [destID_eq, entityID, Entity.text]

theorem ids_addConnection :
    (addConnection clock p tenantID g).ids =
      g.ids ++ (connectionEntities p).map (entityID tenantID) :=
  ids_ite_addFlow p tenantID g _ _ _ _

theorem ids_addDestination :
    (addDestination p tenantID g).ids =
      g.ids ++ (connectionEntities p).map (entityID tenantID) :=
  ids_ite_addFlow p tenantID g _ _ _ _

theorem ids_addProcess :
    (addProcess clock p tenantID g).ids =
      g.ids ++ (processEntities clock p).map (entityID tenantID) := by
  unfold addProcess processEntities
  by_cases hproc : p.rawData.processName = ""
  · simp [hproc]
  · rw [if_neg hproc, if_neg hproc, ids_addDns, ids_addConnection, ids_addFile, ids_add, procID_eq]
    simp only [List.map_cons, List.map_append, List.append_assoc, List.cons_append, List.nil_append]
    rfl

theorem ids_addRouter :
    (addRouter p tenantID g).ids = g.ids ++ (routerEntities p).map (entityID tenantID) := by
  unfold addRouter routerEntities
  by_cases hrouter : isRouterFlow p = true
  · rw [if_pos hrouter, if_pos hrouter, ids_addSite, ids_addDestination, ids_addInterface, ids_add,
      routerID_eq]
    simp only [List.map_cons, List.map_append, List.append_assoc, List.cons_append, List.nil_append]
    rfl
  · simp [hrouter]

theorem ids_addScript :
    (addScript clock p tenantID g).ids =
      g.ids ++ (scriptEntities clock p).map (entityID tenantID) := by
  unfold addScript scriptEntities
  split_ifs
  · rw [ids_add, scriptID_eq]
    rfl
  · simp

theorem ids_parseToCDM :
    (parseToCDM clock p tenantID).ids = (entities clock p).map (entityID tenantID) := by
  rw [parseToCDM, ids_addScript, ids_addRouter, ids_addProcess, ids_add, entities, List.map_cons,
    List.map_append, List.map_append]
  simp [ids, entityID, Entity.text, hostID_eq]

end

/-! ### Entities that are added once -/

section
variable {clock : Clock} {p : RemoteLogPayload} {e : Entity}

theorem mem_connectionEntities :
    e ∈ connectionEntities p ↔ p.rawData.destinationIP ≠ "" ∧
      (e = .address p.rawData.destinationIP ∨ (p.rawData.destinationPort ≠ 0 ∧
        e = .kinded .flow (p.rawData.destinationIP ++ "_" ++ toString p.rawData.destinationPort))) := by
  unfold connectionEntities
  split_ifs <;> simp [*]

theorem mem_processEntities :
    e ∈ processEntities clock p ↔ p.rawData.processName ≠ "" ∧
      (e = .kinded .proc (p.rawData.processName ++ "_" ++ toString clock.process) ∨
        (p.rawData.targetFile ≠ "" ∧ e = .kinded .file (hex p.rawData.targetFile)) ∨
        e ∈ connectionEntities p ∨
        (p.rawData.dnsDomain ≠ "" ∧ e = .kinded .dns p.rawData.dnsDomain)) := by
  unfold processEntities
  split_ifs <;> simp [*]

theorem mem_routerEntities :
    e ∈ routerEntities p ↔ isRouterFlow p = true ∧
      (e = .kinded .router routerIP ∨
        (p.rawData.routerInterface ≠ "" ∧ e = .kinded .iface p.rawData.routerInterface) ∨
        e ∈ connectionEntities p ∨
        (siteDomain p ≠ "" ∧ e = .kinded .dns (siteDomain p))) := by
  unfold routerEntities
  split_ifs <;> simp [*]

theorem mem_scriptEntities (h : e ∈ scriptEntities clock p) :
    e = .kinded .script (toString clock.script) := by
  unfold scriptEntities at h
  split_ifs at h
  · exact List.mem_singleton.mp h
  · cases h

theorem nodup_processEntities : (processEntities clock p).Nodup := by
  unfold processEntities connectionEntities
  split_ifs <;> simp

theorem nodup_routerEntities : (routerEntities p).Nodup := by
  unfold routerEntities connectionEntities
  split_ifs <;> simp

/-- The router's view adds again what the process tree has of the network. -/
theorem disjoint_entities_iff :
    List.Disjoint (processEntities clock p) (routerEntities p) ↔
      ¬ (p.rawData.processName ≠ "" ∧ isRouterFlow p = true ∧
        (p.rawData.destinationIP ≠ "" ∨ p.rawData.dnsDomain ≠ "")) := by
  constructor
  · rintro hdisjoint ⟨hproc, hrouter, hdest | hdns⟩
    · have hmem : .address p.rawData.destinationIP ∈ connectionEntities p :=
        mem_connectionEntities.mpr ⟨hdest, .inl rfl⟩
      exact hdisjoint (mem_processEntities.mpr ⟨hproc, .inr (.inr (.inl hmem))⟩)
        (mem_routerEntities.mpr ⟨hrouter, .inr (.inr (.inl hmem))⟩)
    · have hsite : siteDomain p = p.rawData.dnsDomain := if_neg hdns
      exact hdisjoint (mem_processEntities.mpr ⟨hproc, .inr (.inr (.inr ⟨hdns, rfl⟩))⟩)
        (mem_routerEntities.mpr ⟨hrouter, .inr (.inr (.inr ⟨hsite ▸ hdns, by rw [hsite]⟩))⟩)
  · intro hapart e hp hr
    obtain ⟨hproc, hp⟩ := mem_processEntities.mp hp
    obtain ⟨hrouter, hr⟩ := mem_routerEntities.mp hr
    have hdest : p.rawData.destinationIP = "" := by
      by_contra h
      exact hapart ⟨hproc, hrouter, .inl h⟩
    have hdns : p.rawData.dnsDomain = "" := by
      by_contra h
      exact hapart ⟨hproc, hrouter, .inr h⟩
    rcases hp with rfl | ⟨-, rfl⟩ | hp | ⟨hne, -⟩
    · simp [mem_connectionEntities] at hr
    · simp [mem_connectionEntities] at hr
    · exact (mem_connectionEntities.mp hp).1 hdest
    · exact hne hdns

/-- Of a process or the network's view of it, some part names the destination. -/
theorem address_mem_iff {a : String} :
    .address a ∈ processEntities clock p ++ routerEntities p ++ scriptEntities clock p ↔
      p.rawData.destinationIP ≠ "" ∧ a = p.rawData.destinationIP := by
  have hroute : p.rawData.destinationIP ≠ "" → p.rawData.processName ≠ "" ∨ isRouterFlow p := by
    intro hdest
    by_cases hproc : p.rawData.processName = ""
    · exact .inr (by simp [isRouterFlow, hproc, hdest])
    · exact .inl hproc
  have hscript : .address a ∉ scriptEntities clock p := fun h => by cases mem_scriptEntities h
  rw [List.mem_append, List.mem_append, mem_processEntities, mem_routerEntities,
    mem_connectionEntities]
  simp only [hscript, reduceCtorEq, Entity.address.injEq, and_false, or_false, false_or, ne_eq]
  tauto

theorem entities_nodup_iff :
    (entities clock p).Nodup ↔
      (p.rawData.destinationIP ≠ "" → p.rawData.destinationIP ≠ hostIP p) ∧
      ¬ (p.rawData.processName ≠ "" ∧ isRouterFlow p = true ∧
        (p.rawData.destinationIP ≠ "" ∨ p.rawData.dnsDomain ≠ "")) := by
  have hscript : (scriptEntities clock p).Nodup := by
    unfold scriptEntities
    split_ifs <;> simp
  have hapart : List.Disjoint (processEntities clock p ++ routerEntities p)
      (scriptEntities clock p) := by
    intro e he hs
    rw [mem_scriptEntities hs, List.mem_append, mem_processEntities, mem_routerEntities] at he
    simp [mem_connectionEntities] at he
  rw [entities, List.nodup_cons, address_mem_iff, List.nodup_append', List.nodup_append',
    disjoint_entities_iff]
  simp only [nodup_processEntities, nodup_routerEntities, hscript, hapart, true_and, and_true,
    not_and, ne_comm (a := hostIP p), ne_eq]

/-! ### Ids -/

/-- An address reads as the id of an entity of some kind. -/
def ReadsAsKind (clock : Clock) (p : RemoteLogPayload) : Prop :=
  ∃ a kind s, .address a ∈ entities clock p ∧ .kinded kind s ∈ entities clock p ∧
    a = kind.name ++ "_" ++ s

theorem ids_nodup_iff (tenantID : String) :
    (parseToCDM clock p tenantID).ids.Nodup ↔
      (entities clock p).Nodup ∧ ¬ ReadsAsKind clock p := by
  rw [ids_parseToCDM]
  constructor
  · intro h
    refine ⟨h.of_map, ?_⟩
    rintro ⟨a, kind, s, ha, hk, rfl⟩
    cases List.inj_on_of_nodup_map h ha hk rfl
  · rintro ⟨hnodup, hreads⟩
    refine hnodup.map_on fun x hx y hy heq => ?_
    have htext : x.text = y.text := tenantScoped_inj.mp heq
    cases x with
    | address a =>
      cases y with
      | address b => exact congrArg Entity.address htext
      | kinded kind s => exact absurd ⟨a, kind, s, hx, hy, htext⟩ hreads
    | kinded kind s =>
      cases y with
      | address b => exact absurd ⟨b, kind, s, hy, hx, htext.symm⟩ hreads
      | kinded kind' s' => exact Entity.kinded_text_inj htext

theorem unique_ids_iff (clock : Clock) (p : RemoteLogPayload) (tenantID : String) :
    ((parseToCDM clock p tenantID).ids.Nodup ∧
        (parseToCDM clock p tenantID).nodes.length =
          (parseToCDM clock p tenantID).ids.toFinset.card) ↔
      ¬ (p.rawData.processName ≠ "" ∧ isRouterFlow p = true ∧
          (p.rawData.destinationIP ≠ "" ∨ p.rawData.dnsDomain ≠ "")) ∧
        (p.rawData.destinationIP ≠ "" → p.rawData.destinationIP ≠ hostIP p) ∧
        ¬ ReadsAsKind clock p := by
  have hcard : (parseToCDM clock p tenantID).ids.Nodup →
      (parseToCDM clock p tenantID).nodes.length =
        (parseToCDM clock p tenantID).ids.toFinset.card := by
    intro h
    rw [List.toFinset_card_of_nodup h, ids, List.length_map]
  rw [and_iff_left_of_imp hcard, ids_nodup_iff, entities_nodup_iff]
  tauto

/-- The gateway bridge reports a process and its destination: the destination is there twice. -/
theorem bridge_process_duplicates_destination :
    ¬ (parseToCDM ⟨1, 2⟩
        { endpointType := "gateway_bridge"
          rawData := { sourceIP := "192.168.1.105", processName := "curl"
                       destinationIP := "203.0.113.55" } } "default").ids.Nodup := by
  decide +kernel

end

end Cdm
end SocFabric
