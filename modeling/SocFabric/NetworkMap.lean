import SocFabric.Lib.DirGraph
import SocFabric.Lib.Json
import SocFabric.Lib.Text
import SocFabric.Lib.Uuid

/-!
# The network map (`interfaces/api_routes.py`)

`get_network_map` hangs a node for every endpoint on the gateway, and then the stations, the container
host and its containers and the external domains. A client stands in if there is no endpoint, and the
first client has a flow to the malicious domain. Every node is appended with an edge that joins it to
a node already there, so the graph stays connected (`Graph.Connected.hang`); the ids of endpoints are
UUIDs and none of the others is (`isTopology_getNetworkMap`).
-/

namespace SocFabric
namespace NetworkMap
open Text

/-! ### Rows and nodes -/

/-- The columns of the query that the map reads; the driver hands `capabilities` over as a text or
decoded. -/
structure EndpointRow where
  endpointId : Uuid
  hostname : Option String
  status : String
  capabilities : Json
  ipAddress : Option String
  findingCategory : Option String
  findingScore : Option Int

/-- `json.loads`, with `none` for an exception, and the text that an f-string makes of a value. -/
structure PyLib where
  loads : String → Option Json
  format : Json → String

inductive NodeType
  | routerHost
  | clientHost
  | containerHost
  | container
  | externalDomain
deriving DecidableEq, Repr

/-- A key that the source leaves out is `none`. -/
structure Node where
  id : String
  label : String
  type : NodeType
  ip : Json
  subnet : Option String := some "10.0.0.0/24"
  hasActiveAlert : Bool := false
  x : Int := 0
  y : Int := 0
  properties : Option String := none
  containerId : Option Json := none
  containerImage : Option Json := none
  findingCategory : Option String := none
  findingScore : Int

inductive Action
  | allow
  | drop
deriving DecidableEq, Repr

structure Edge where
  source : String
  target : String
  relation : String
  action : Action := .allow
  width : Nat := 2
  findingCategory : Option String := none
deriving DecidableEq, Repr

structure Graph where
  nodes : List Node := []
  edges : List Edge := []

/-- `nodes.append` and `edges.append`. -/
def Graph.hang (g : Graph) (n : Node) (e : Edge) : Graph where
  nodes := g.nodes ++ [n]
  edges := g.edges ++ [e]

/-! ### Endpoints -/

def gatewayId : String := "router-gw-10-0-0-10"

/-- WiFi 6 Router Gateway (Center of LAN Topology). -/
def gateway : Node where
  id := gatewayId
  label := "WiFi 6 Gateway (10.0.0.10)"
  type := .routerHost
  ip := .str "10.0.0.10"
  properties := some
    "Model: Intel / 802.11ax WiFi 6 AP\nGateway IP: 10.0.0.10\nSubnet: 10.0.0.0/24\nMode: Layer-3 Forwarding"
  containerId := some (.str "")
  containerImage := some (.str "")
  findingScore := 0

/-- A value that is neither an object nor a list leaves the dict empty, and so does malformed text. -/
def caps (lib : PyLib) (capabilities : Json) : List (String × Json) :=
  let rawCaps := match capabilities with
    | .str s => lib.loads s
    | v => some v
  match rawCaps with
  | some (.obj members) => members
  | some (.arr elems) => [("features", .arr elems)]
  | _ => []

def epIp (r : EndpointRow) (caps : List (String × Json)) : Json :=
  match ((truthy r.ipAddress).map Json.str).getD ((Json.getTrue caps "ip").getD (.str "10.0.0.33")) with
  | .str s => if s = "Local Network (Air-gapped)" ∨ s = "Unknown" then .str "10.0.0.33" else .str s
  | v => v

/-- `bool(r["finding_category"])`. -/
def EndpointRow.hasFinding (r : EndpointRow) : Bool := (truthy r.findingCategory).isSome

def EndpointRow.score (r : EndpointRow) : Int :=
  match r.findingScore with
  | some score => if score = 0 then if r.hasFinding then 75 else 20 else score
  | none => if r.hasFinding then 75 else 20

def endpointNode (lib : PyLib) (r : EndpointRow) : Node :=
  let caps := caps lib r.capabilities
  let ip := epIp r caps
  { id := r.endpointId.text
    label := pyOr r.hostname "Agent Host" ++ " (" ++ lib.format ip ++ ")"
    type := .clientHost
    hasActiveAlert := r.status ≠ "active" || r.hasFinding
    ip := ip
    containerId := some ((caps.lookup "container_id").getD (.str ""))
    containerImage := some ((caps.lookup "container_image").getD (.str ""))
    findingCategory := r.findingCategory
    findingScore := r.score }

/-- Connect Client Host to Gateway Router. -/
def routedThrough (id : String) (finding : Option String) : Edge where
  source := id
  target := gatewayId
  relation := "ROUTED_THROUGH"
  findingCategory := finding

/-- The loop variables: the graph and `primary_client_id`. -/
structure Clients where
  graph : Graph
  primary : Option String

/-- `not primary_client_id`. -/
def Clients.noPrimary (s : Clients) : Bool := (truthy s.primary).isNone

def addEndpoint (lib : PyLib) (s : Clients) (r : EndpointRow) : Clients where
  graph := s.graph.hang (endpointNode lib r) (routedThrough r.endpointId.text r.findingCategory)
  primary := if s.noPrimary then some r.endpointId.text else s.primary

def fallbackClient : Node where
  id := "client-10-0-0-33"
  label := "Host LOQ-PC03 (10.0.0.33)"
  type := .clientHost
  ip := .str "10.0.0.33"
  properties := some "Intel Wi-Fi 6 AX203\nIP: 10.0.0.33"
  findingScore := 25

/-- Fallback if no endpoints enrolled yet. -/
def addFallback (s : Clients) : Clients :=
  if s.noPrimary then
    { graph := s.graph.hang fallbackClient (routedThrough fallbackClient.id none)
      primary := some fallbackClient.id }
  else s

/-! ### Infrastructure -/

structure Station where
  id : String
  label : String
  ip : String

def discoveredStations : List Station :=
  [⟨"client-10-0-0-32", "Station (10.0.0.32)", "10.0.0.32"⟩,
    ⟨"client-10-0-0-38", "Station (10.0.0.38)", "10.0.0.38"⟩]

def Station.node (s : Station) : Node where
  id := s.id
  label := s.label
  type := .clientHost
  ip := .str s.ip
  properties := some ("Active WiFi 6 Station\nIP: " ++ s.ip)
  findingScore := 15

def containerHostId : String := "container-host-docker"

def containerHost : Node where
  id := containerHostId
  label := "Docker Host Runtime (172.28.0.1)"
  type := .containerHost
  ip := .str "172.28.0.1"
  subnet := some "172.28.0.0/16"
  properties := some "Docker Compose Bridge Network"
  findingScore := 10

structure Container where
  id : String
  name : String
  ip : String

def containers : List Container :=
  [⟨"c-ai-backend", "soc-python-ai-backend", "172.28.0.4"⟩,
    ⟨"c-go-ingest", "soc-go-ingest-core", "172.28.0.3"⟩,
    ⟨"c-clickhouse", "soc-clickhouse-analytics", "172.28.0.5"⟩,
    ⟨"c-postgres", "soc-postgres-state", "172.28.0.2"⟩]

def Container.node (c : Container) : Node where
  id := c.id
  label := c.name
  type := .container
  ip := .str c.ip
  subnet := some "172.28.0.0/16"
  containerId := some (.str c.name)
  containerImage := some (.str ("homelab/" ++ c.name ++ ":latest"))
  findingScore := 10

structure Domain where
  id : String
  label : String
  ip : String
  suspicious : Bool
  finding : Option String
  score : Int

def maliciousId : String := "domain-c2-malicious"

def domains : List Domain :=
  [⟨"domain-google", "google.com", "142.250.80.14", false, none, 5⟩,
    ⟨"domain-cloudflare", "cloudflare.com", "104.16.132.229", false, none, 5⟩,
    ⟨"domain-github", "github.com", "140.82.112.4", false, none, 5⟩,
    ⟨maliciousId, "c2-malicious.org", "203.0.113.55", true, some "rat", 85⟩]

def Domain.node (d : Domain) : Node where
  id := d.id
  label := d.label
  type := .externalDomain
  ip := .str d.ip
  subnet := none
  hasActiveAlert := d.suspicious
  properties := some ("External Domain: " ++ d.label ++ "\nIP: " ++ d.ip)
  findingCategory := d.finding
  findingScore := d.score

/-- Gateway Egress edge. -/
def Domain.edge (d : Domain) : Edge where
  source := gatewayId
  target := d.id
  relation := "WAN_EGRESS"
  action := if d.suspicious then .drop else .allow
  findingCategory := d.finding
  width := if d.suspicious then 3 else 1

def Container.edge (c : Container) : Edge where
  source := c.id
  target := containerHostId
  relation := "HOSTED_ON"
  width := 1

def bridgeUplink : Edge where
  source := containerHostId
  target := gatewayId
  relation := "BRIDGE_UPLINK"

/-- Direct suspicious flow edge from primary client station to c2 domain. -/
def suspiciousFlow (primary : String) : Edge where
  source := primary
  target := maliciousId
  relation := "SUSPICIOUS_C2_FLOW"
  action := .drop
  findingCategory := some "rat"

def addInfrastructure (g : Graph) : Graph :=
  let g := discoveredStations.foldl (fun g s => g.hang s.node (routedThrough s.id none)) g
  let g := g.hang containerHost bridgeUplink
  let g := containers.foldl (fun g c => g.hang c.node c.edge) g
  domains.foldl (fun g d => g.hang d.node d.edge) g

def getNetworkMap (lib : PyLib) (rows : List EndpointRow) : Graph :=
  let clients := addFallback (rows.foldl (addEndpoint lib) ⟨{ nodes := [gateway] }, none⟩)
  let g := addInfrastructure clients.graph
  { g with edges := g.edges ++ [suspiciousFlow (clients.primary.getD "")] }

/-! ### Connection -/

namespace Graph

variable {g : Graph} {n : Node} {e : Edge} {hub : String}

def ids (g : Graph) : List String := g.nodes.map (·.id)

def dirGraph (g : Graph) : DirGraph String where
  vertices := {a | a ∈ g.ids}
  Arc a b := ∃ e ∈ g.edges, e.source = a ∧ e.target = b

/-- The edge joins the node to the hub. -/
def Joins (hub : String) (n : Node) (e : Edge) : Prop :=
  (e.source = n.id ∧ e.target = hub) ∨ (e.source = hub ∧ e.target = n.id)

@[simp] theorem ids_hang : (g.hang n e).ids = g.ids ++ [n.id] := List.map_append

theorem dirGraph_hang :
    (g.hang n e).dirGraph = g.dirGraph.extend {n.id} fun a b => e.source = a ∧ e.target = b := by
  simp only [dirGraph, DirGraph.extend, DirGraph.mk.injEq]
  refine ⟨?_, ?_⟩
  · ext a
    simp [or_comm]
  · ext a b
    simp [hang, or_and_right, exists_or]

theorem dirGraph_addEdge :
    ({ g with edges := g.edges ++ [e] } : Graph).dirGraph =
      g.dirGraph.extend ∅ fun a b => e.source = a ∧ e.target = b := by
  simp only [dirGraph, DirGraph.extend, DirGraph.mk.injEq]
  refine ⟨?_, ?_⟩
  · ext a
    simp [ids]
  · ext a b
    simp [or_and_right, exists_or]

/-- A node that hangs on a node of the graph. -/
theorem connected_hang (h : g.dirGraph.Connected) (hhub : hub ∈ g.ids) (he : Joins hub n e) :
    (g.hang n e).dirGraph.Connected := by
  rw [dirGraph_hang]
  refine h.extend hhub ?_ ?_
  · rintro a b ⟨rfl, rfl⟩
    rcases he with ⟨hsource, htarget⟩ | ⟨hsource, htarget⟩
    · exact ⟨.inr hsource, .inl (htarget ▸ hhub)⟩
    · exact ⟨.inl (hsource ▸ hhub), .inr htarget⟩
  · rintro b rfl
    exact ⟨hub, hhub, he.symm⟩

theorem connected_addEdge (h : g.dirGraph.Connected) (hsource : e.source ∈ g.ids) (htarget : e.target ∈ g.ids) :
    ({ g with edges := g.edges ++ [e] } : Graph).dirGraph.Connected := by
  rw [dirGraph_addEdge]
  refine h.extend hsource ?_ ?_
  · rintro a b ⟨rfl, rfl⟩
    exact ⟨.inl hsource, .inl htarget⟩
  · exact fun b hb => hb.elim

section
variable {X : Type} {node : X → Node} {edge : X → Edge} {xs : List X}

theorem nodes_foldl_hang :
    (xs.foldl (fun g x => g.hang (node x) (edge x)) g).nodes = g.nodes ++ xs.map node := by
  induction xs generalizing g with
  | nil => exact (List.append_nil _).symm
  | cons x xs ih =>
    rw [List.foldl_cons, ih, hang, List.append_assoc]
    rfl

theorem ids_foldl_hang :
    (xs.foldl (fun g x => g.hang (node x) (edge x)) g).ids = g.ids ++ xs.map fun x => (node x).id := by
  rw [ids, nodes_foldl_hang, List.map_append, List.map_map]
  rfl

/-- A group of nodes that hang on one hub. -/
theorem connected_foldl_hang (h : g.dirGraph.Connected) (hhub : hub ∈ g.ids)
    (he : ∀ x, Joins hub (node x) (edge x)) :
    (xs.foldl (fun g x => g.hang (node x) (edge x)) g).dirGraph.Connected := by
  induction xs generalizing g with
  | nil => exact h
  | cons x xs ih =>
    rw [List.foldl_cons]
    exact ih (connected_hang h hhub (he x)) (by simp [hhub])

end

end Graph

/-! ### The clients -/

section
variable {lib : PyLib} {rows : List EndpointRow} {s : Clients} {g : Graph}

theorem graph_foldl_addEndpoint :
    (rows.foldl (addEndpoint lib) s).graph = rows.foldl (fun g r =>
      g.hang (endpointNode lib r) (routedThrough r.endpointId.text r.findingCategory)) s.graph := by
  induction rows generalizing s with
  | nil => rfl
  | cons r rows ih => exact ih

/-- The first endpoint is the primary client. -/
theorem primary_foldl_addEndpoint :
    (rows.foldl (addEndpoint lib) s).primary =
      if s.noPrimary then (rows.head?.map (·.endpointId.text)).or s.primary else s.primary := by
  induction rows generalizing s with
  | nil => rw [List.foldl_nil, List.head?_nil, Option.map_none, Option.none_or, ite_self]
  | cons r rows ih =>
    rw [List.foldl_cons, ih]
    by_cases hs : s.noPrimary = true
    · have hprimary : (addEndpoint lib s r).primary = some r.endpointId.text := if_pos hs
      have hsome : (addEndpoint lib s r).noPrimary = false := by
        rw [Clients.noPrimary, hprimary, truthy_some (Uuid.text_ne_empty _)]
        rfl
      rw [if_neg (by rw [hsome]; decide), hprimary, if_pos hs]
      rfl
    · have hprimary : (addEndpoint lib s r).primary = s.primary := if_neg hs
      rw [hprimary, if_neg hs, if_neg (by rwa [Clients.noPrimary, hprimary])]

/-- The loop and the fallback, from the gateway on. -/
def clientsOf (lib : PyLib) (rows : List EndpointRow) : Clients :=
  addFallback (rows.foldl (addEndpoint lib) ⟨{ nodes := [gateway] }, none⟩)

theorem clientsOf_cons (r : EndpointRow) (rows : List EndpointRow) :
    clientsOf lib (r :: rows) =
      ⟨(r :: rows).foldl (fun g r =>
          g.hang (endpointNode lib r) (routedThrough r.endpointId.text r.findingCategory))
        { nodes := [gateway] }, some r.endpointId.text⟩ := by
  have hprimary : ((r :: rows).foldl (addEndpoint lib) ⟨{ nodes := [gateway] }, none⟩).primary =
      some r.endpointId.text := primary_foldl_addEndpoint
  have hsome : ((r :: rows).foldl (addEndpoint lib) ⟨{ nodes := [gateway] }, none⟩).noPrimary = false := by
    rw [Clients.noPrimary, hprimary, truthy_some (Uuid.text_ne_empty _)]
    rfl
  rw [clientsOf, addFallback, if_neg (by rw [hsome]; decide)]
  exact congrArg₂ Clients.mk graph_foldl_addEndpoint hprimary

theorem nodes_clientsOf :
    (clientsOf lib rows).graph.nodes =
      gateway :: (rows.map (endpointNode lib) ++ if rows.isEmpty then [fallbackClient] else []) := by
  cases rows with
  | nil => rfl
  | cons r rows =>
    rw [clientsOf_cons, Graph.nodes_foldl_hang]
    exact congrArg (gateway :: ·) (List.append_nil _).symm

theorem connected_gateway : ({ nodes := [gateway] } : Graph).dirGraph.Connected := by
  have hvertices : ({ nodes := [gateway] } : Graph).dirGraph.vertices = {gatewayId} := by
    ext a
    simp [Graph.dirGraph, Graph.ids, gateway]
  exact .singleton hvertices fun _ _ ⟨_, he, _⟩ => List.not_mem_nil he

theorem connected_clientsOf : (clientsOf lib rows).graph.dirGraph.Connected := by
  have hgateway : gatewayId ∈ ({ nodes := [gateway] } : Graph).ids := List.mem_singleton_self _
  cases rows with
  | nil => exact Graph.connected_hang connected_gateway hgateway (.inl ⟨rfl, rfl⟩)
  | cons r rows =>
    rw [clientsOf_cons]
    exact Graph.connected_foldl_hang connected_gateway hgateway fun _ => .inl ⟨rfl, rfl⟩

theorem primary_mem_clientsOf : (clientsOf lib rows).primary.getD "" ∈ (clientsOf lib rows).graph.ids := by
  rw [Graph.ids, nodes_clientsOf]
  cases rows with
  | nil => exact .tail _ (.head _)
  | cons r rows =>
    rw [clientsOf_cons]
    exact .tail _ (.head _)

end

/-! ### The whole map -/

/-- The nodes that no endpoint gives rise to. -/
def infrastructure (noEndpoints : Bool) : List Node :=
  (if noEndpoints then [fallbackClient] else []) ++ discoveredStations.map Station.node ++ [containerHost] ++
    containers.map Container.node ++ domains.map Domain.node

/-- The clients of the endpoints and the infrastructure, joined to one another. -/
structure IsTopology (rows : List EndpointRow) (g : Graph) : Prop where
  nodup : g.ids.Nodup
  connected : g.dirGraph.Connected
  nodes : ∃ clients,
    g.nodes.Perm (clients ++ gateway :: infrastructure rows.isEmpty) ∧
      List.Forall₂ (fun (r : EndpointRow) n => n.type = .clientHost ∧ n.id = r.endpointId.text) rows clients

section
variable {lib : PyLib} {rows : List EndpointRow} {g : Graph}

theorem nodes_addInfrastructure :
    (addInfrastructure g).nodes = g.nodes ++ (discoveredStations.map Station.node ++ [containerHost] ++
      containers.map Container.node ++ domains.map Domain.node) := by
  rw [addInfrastructure, Graph.nodes_foldl_hang, Graph.nodes_foldl_hang, Graph.hang,
    Graph.nodes_foldl_hang]
  simp only [List.append_assoc]

theorem connected_addInfrastructure (h : g.dirGraph.Connected) (hg : gatewayId ∈ g.ids) :
    (addInfrastructure g).dirGraph.Connected := by
  have hstations : ∀ s : Station, Graph.Joins gatewayId s.node (routedThrough s.id none) := fun _ =>
    .inl ⟨rfl, rfl⟩
  have hcontainers : ∀ c : Container, Graph.Joins containerHostId c.node c.edge := fun _ => .inl ⟨rfl, rfl⟩
  have hdomains : ∀ d : Domain, Graph.Joins gatewayId d.node d.edge := fun _ => .inr ⟨rfl, rfl⟩
  have hhost : Graph.Joins gatewayId containerHost bridgeUplink := .inl ⟨rfl, rfl⟩
  rw [addInfrastructure]
  refine Graph.connected_foldl_hang (Graph.connected_foldl_hang
    (Graph.connected_hang (Graph.connected_foldl_hang h hg hstations) ?_ hhost) ?_ hcontainers) ?_ hdomains
  · rw [Graph.ids_foldl_hang]
    exact List.mem_append_left _ hg
  · rw [Graph.ids_hang]
    exact List.mem_append_right _ (.head _)
  · rw [Graph.ids_foldl_hang, Graph.ids_hang, Graph.ids_foldl_hang, List.append_assoc, List.append_assoc]
    exact List.mem_append_left _ hg

theorem nodes_getNetworkMap :
    (getNetworkMap lib rows).nodes =
      gateway :: (rows.map (endpointNode lib) ++ infrastructure rows.isEmpty) := by
  rw [getNetworkMap, nodes_addInfrastructure]
  rw [← clientsOf, nodes_clientsOf, infrastructure]
  simp only [List.append_assoc, List.cons_append]

theorem connected_getNetworkMap : (getNetworkMap lib rows).dirGraph.Connected := by
  have hgateway : gatewayId ∈ (clientsOf lib rows).graph.ids := by
    rw [Graph.ids, nodes_clientsOf]
    exact .head _
  have hids (a : String) (ha : a ∈ (clientsOf lib rows).graph.ids) :
      a ∈ (addInfrastructure (clientsOf lib rows).graph).ids := by
    rw [Graph.ids, nodes_addInfrastructure, List.map_append]
    exact List.mem_append_left _ ha
  refine Graph.connected_addEdge (connected_addInfrastructure connected_clientsOf hgateway)
    (hids _ primary_mem_clientsOf) ?_
  rw [Graph.ids, nodes_addInfrastructure]
  simp [domains, suspiciousFlow, Domain.node]

/-- No fixed id has the length of a UUID. -/
theorem infrastructure_ids (b : Bool) :
    ((gateway :: infrastructure b).map (·.id)).Nodup ∧
      (gateway :: infrastructure b).all (·.id.length ≠ 36) = true := by
  cases b <;> decide

theorem truth_epIp (r : EndpointRow) (caps : List (String × Json)) : (epIp r caps).truth = true := by
  have hcaps : ((Json.getTrue caps "ip").getD (.str "10.0.0.33")).truth = true := by
    cases h : Json.getTrue caps "ip" with
    | none => rfl
    | some v => exact Json.truth_getTrue h
  have hor : (((truthy r.ipAddress).map Json.str).getD
      ((Json.getTrue caps "ip").getD (.str "10.0.0.33"))).truth = true := by
    cases h : truthy r.ipAddress with
    | none => exact hcaps
    | some s => exact decide_eq_true (ne_empty_of_truthy h)
  unfold epIp
  split
  next s hs =>
    split_ifs
    · rfl
    · rwa [hs] at hor
  next => exact hor

/-- Every node has an address. -/
theorem truth_ip {n : Node} (h : n ∈ (getNetworkMap lib rows).nodes) : n.ip.truth = true := by
  have hfixed : (gateway :: infrastructure rows.isEmpty).all (·.ip.truth) = true := by
    cases rows.isEmpty <;> decide
  rw [nodes_getNetworkMap, List.perm_middle.symm.mem_iff, List.mem_append] at h
  rcases h with hclient | hn
  · obtain ⟨r, -, rfl⟩ := List.mem_map.mp hclient
    exact truth_epIp r _
  · exact List.all_eq_true.mp hfixed n hn

end

theorem isTopology_getNetworkMap (lib : PyLib) (rows : List EndpointRow)
    (h : rows.Pairwise fun r r' => r.endpointId ≠ r'.endpointId) :
    IsTopology rows (getNetworkMap lib rows) where
  nodup := by
    obtain ⟨hfixed, hlength⟩ := infrastructure_ids rows.isEmpty
    have hclients : (rows.map fun r => r.endpointId.text).Nodup := by
      rw [List.Nodup, List.pairwise_map]
      exact h.imp fun hne heq => hne (Uuid.text_inj.mp heq)
    have hperm : (getNetworkMap lib rows).ids.Perm
        ((rows.map fun r => r.endpointId.text) ++ (gateway :: infrastructure rows.isEmpty).map (·.id)) := by
      rw [Graph.ids, nodes_getNetworkMap, List.map_cons, List.map_append, List.map_map]
      exact List.perm_middle.symm
    rw [hperm.nodup_iff]
    refine hclients.append hfixed fun id hclient hid => ?_
    obtain ⟨r, -, rfl⟩ := List.mem_map.mp hclient
    obtain ⟨n, hn, hid⟩ := List.mem_map.mp hid
    exact of_decide_eq_true (List.all_eq_true.mp hlength n hn) (hid ▸ Uuid.length_text _)
  connected := connected_getNetworkMap
  nodes := by
    refine ⟨rows.map (endpointNode lib), ?_, ?_⟩
    · rw [nodes_getNetworkMap]
      exact List.perm_middle.symm
    · rw [List.forall₂_map_right_iff, List.forall₂_same]
      exact fun r _ => ⟨rfl, rfl⟩

def sampleLib : PyLib where
  loads _ := none
  format
    | .str s => s
    | _ => ""

/-- An active host with a malformed column, and one that has never reported. -/
def sampleRows : List EndpointRow :=
  [⟨.repeated 1, some "LOQ-PC03", "active", .str "\x7b\"ip\": ", some "10.0.0.33", none, none⟩,
    ⟨.repeated 2, none, "pending_register", .arr [], none, some "rat", some 85⟩]

theorem isTopology_sampleRows :
    sampleRows.Pairwise (fun r r' => r.endpointId ≠ r'.endpointId) ∧
      IsTopology sampleRows (getNetworkMap sampleLib sampleRows) := by
  have hrows : sampleRows.Pairwise fun r r' => r.endpointId ≠ r'.endpointId := by decide
  exact ⟨hrows, isTopology_getNetworkMap sampleLib sampleRows hrows⟩

end NetworkMap
end SocFabric
