import SocFabric.ActionApi
import SocFabric.CredentialRotation
import SocFabric.InvestigationDetails
import SocFabric.Lib.RaisingLoop

/-!
# The consoles over the endpoint table (`interfaces/api_routes.py`)

Four pages list `endpoint_inventory`: the hosts, the enrolment health, the asset inventory and the
candidates for isolation. Each has a query of its own, so that the same endpoint is read through
four derivations; what they say of it is compared here over all runs of the routes that write the
table. The order in which a query returns the rows is a parameter, as is `last_seen_at`.
-/

namespace SocFabric
namespace EndpointConsoles
open Credentials Text

/-- A row as the queries return it. -/
structure Row extends Endpoint where
  lastSeenAt : Option Nat := none

/-- The rows are those of the table, in some order. -/
def Listed (s : Credentials.State) (rows : List Row) : Prop := (rows.map (·.toEndpoint)).Perm s.rows

def column (f : Metadata → String) (row : Endpoint) : Option String := row.metadata.map f

def ipColumn (row : Endpoint) : Option String := row.metadata.bind (·.ipAddress)

def unknownAddresses : List String := ["Local Network (Air-gapped)", "Unknown"]

/-! ### `get_hosts` -/

structure Host where
  id : String
  hostname : String
  type : String
  os : String
  agentVersion : String
  latestVersion : String := "1.0.0"
  health : String
  lastCheckIn : Option Nat
  tenantId : String
  region : String
  ipAddress : String

def hostHealth (status : String) : String :=
  if status = "active" then "healthy" else if status = "pending_register" then "stale" else "offline"

def hostAddress (row : Endpoint) : String :=
  match truthy (ipColumn row) with
  | some ip => if ip ∉ unknownAddresses then ip else "10.0.0.33"
  | none => "10.0.0.33"

def host (row : Row) : Host where
  id := row.endpointId
  hostname := pyOr (column (·.hostname) row.toEndpoint) "(unregistered)"
  type := pyOr (column (·.type) row.toEndpoint) "iaas"
  os := pyOr (column (·.os) row.toEndpoint) "Unknown"
  agentVersion := pyOr (column (·.agentVersion) row.toEndpoint) "1.0.0"
  health := hostHealth row.status
  lastCheckIn := row.lastSeenAt
  tenantId := row.tenantId
  region := pyOr (column (·.region) row.toEndpoint) "local"
  ipAddress := hostAddress row.toEndpoint

def getHosts (rows : List Row) : List Host := (rows.take 200).map host

/-! ### `get_agent_health_panel` -/

structure Summary where
  totalEndpoints : Nat
  activeEndpoints : Nat
  pendingEndpoints : Nat
  lastSeenAt : Option Nat

def agentHealthSummary (rows : List Row) : Summary where
  totalEndpoints := rows.length
  activeEndpoints := rows.countP (·.status = "active")
  pendingEndpoints := rows.countP (·.status = "pending_register")
  lastSeenAt := (rows.filterMap (·.lastSeenAt)).max?

/-! ### `get_asset_inventory` -/

structure Asset where
  id : String
  hostname : String
  ipAddress : Json
  type : String
  criticality : String
  owner : String

/-- The column as `json.loads` reads it, `'[]'` by default. -/
def capabilities (row : Endpoint) : List (String × Json) :=
  match row.metadata.map Metadata.capabilities with
  | some (.obj members) => members
  | some (.arr elems) => [("features", .arr elems)]
  | some _ => []
  | none => [("features", .arr [])]

/-- `v == s` for a text `s`. -/
def isText (s : String) : Json → Bool
  | .str t => t = s
  | _ => false

def assetAddress (row : Endpoint) : Json :=
  let ip := (((truthy (ipColumn row)).map Json.str).or (Json.getTrue (capabilities row) "ip")).getD (.str "10.0.0.33")
  if unknownAddresses.any fun a => isText a ip then .str "10.0.0.33" else ip

/-- A set of Python holds no list and no dictionary. -/
def hashable : Json → Bool
  | .arr _ | .obj _ => false
  | _ => true

/-- `none` is an exception: an address that no set can hold, or `replace` of no text. -/
def asset (row : Row) : Option Asset := do
  let ip := assetAddress row.toEndpoint
  let ip ← if hashable ip then some ip else none
  let hostname ←
    match truthy (column (·.hostname) row.toEndpoint), ip with
    | some hostname, _ => some hostname
    | none, .str a => some ("station-" ++ replaceChar '.' '-' a)
    | none, _ => none
  return {
    id := row.endpointId
    hostname := hostname
    ipAddress := ip
    type := pyOr (column (·.type) row.toEndpoint) "iaas"
    criticality := "Tier 2"
    owner := pyOr (some row.tenantId) "SecOps Team" }

/-- A device of the LAN that is listed unless an endpoint has its address. -/
structure LanDevice where
  id : String
  hostname : String
  ipAddress : String
  type : String
  criticality : String
  owner : String

def LanDevice.asset (d : LanDevice) : Asset := ⟨d.id, d.hostname, .str d.ipAddress, d.type, d.criticality, d.owner⟩

def lanDiscovered : List LanDevice :=
  [⟨"asset-gw-10-0-0-10", "WiFi6-Gateway-Router (10.0.0.10)", "10.0.0.10", "network_device", "Tier 1",
      "Network Infrastructure"⟩,
    ⟨"asset-station-10-0-0-32", "LAN-Station-32", "10.0.0.32", "workstation", "Tier 2", "Engineering"⟩,
    ⟨"asset-station-10-0-0-38", "LAN-Station-38", "10.0.0.38", "workstation", "Tier 3", "Finance Operations"⟩]

/-- The assets so far with `seen_ips`. -/
def addDevice (x : List Asset × List Json) (d : LanDevice) : List Asset × List Json :=
  if x.2.any (isText d.ipAddress) then x else (x.1 ++ [d.asset], x.2 ++ [.str d.ipAddress])

def getAssetInventory (rows : List Row) : Option (List Asset) := do
  let assets ← (rows.take 500).mapM asset
  return (lanDiscovered.foldl addDevice (assets, assets.map (·.ipAddress))).1

/-! ### `get_isolation_candidates` -/

/-- A row of `audit_logs`, with `context->>'target'`. -/
structure AuditRow where
  target : Option String
  agent : String
  action : String
  timestamp : Nat

structure AuditEntry where
  action : String
  agent : String
  timestamp : Nat

def AuditRow.entry (a : AuditRow) : AuditEntry := ⟨a.action, a.agent, a.timestamp⟩

/-- `audit_map.setdefault(target, []).append(...)`. -/
def addAudit (map : List (String × List AuditEntry)) (a : AuditRow) : List (String × List AuditEntry) :=
  match truthy a.target with
  | some target => KeyedStore.put target ((map.lookup target).getD [] ++ [a.entry]) map
  | none => map

structure Candidate where
  id : String
  hostname : String
  ipAddress : String
  isIsolated : Bool
  isolatedAt : Option Nat
  isolatedBy : Option String
  auditTrail : List AuditEntry

/-- `lib` has `zlib.crc32` of the encoded text. -/
def candidateAddress (lib : InvestigationDetails.PyLib) (row : Endpoint) : String :=
  match (truthy (row.metadata.bind (·.cfTunnelUrl))).filter (contains · "http") with
  | some url =>
    let rest := InvestigationDetails.dropOccurrences "http://".toList 0
      (InvestigationDetails.dropOccurrences "https://".toList 0 url.toList)
    .ofList (rest.takeWhile (· ≠ '/'))
  | none =>
    let hashVal := lib.crc32 row.endpointId
    "10.0." ++ toString (hashVal / 256 % 256) ++ "." ++ toString (hashVal % 256)

def candidate (lib : InvestigationDetails.PyLib) (auditMap : List (String × List AuditEntry)) (row : Row) :
    Candidate :=
  let hostname := pyOr (column (·.hostname) row.toEndpoint) "(unregistered)"
  let isIsolated := row.status == "isolated"
  let own := (auditMap.lookup row.endpointId).getD []
  let epAudits := if own.isEmpty then (auditMap.lookup hostname).getD [] else own
  { id := row.endpointId
    hostname := hostname
    ipAddress := candidateAddress lib row.toEndpoint
    isIsolated := isIsolated
    isolatedAt :=
      if isIsolated then epAudits.head?.elim row.lastSeenAt fun a => some a.timestamp else none
    isolatedBy :=
      if isIsolated then epAudits.head?.elim (some "ResponseAgent") fun a => some a.agent else none
    auditTrail := epAudits }

def getIsolationCandidates (lib : InvestigationDetails.PyLib) (rows : List Row) (auditRows : List AuditRow) :
    List Candidate :=
  (rows.take 100).map (candidate lib ((auditRows.take 100).foldl addAudit []))

/-! ### The rows that the routes leave -/

variable {s s' : Credentials.State} {a : Credentials.Act}

def Known (row : Endpoint) : Prop := row.status = "active" ∨ row.status = "pending_register"

theorem known_step (hs : Credentials.step s a = some s') (h : ∀ row ∈ s.rows, Known row) :
    ∀ row ∈ s'.rows, Known row := by
  intro row hrow
  rcases step_effect hs with ⟨hrows⟩ | ⟨new, ha, -, hrows⟩ | ⟨-, -, -, hrows⟩ | ⟨-, e, change, -, hrows⟩ |
    ⟨-, old, d, -, -, -, -, hrows⟩
  · exact h row (hrows ▸ hrow)
  · rw [hrows] at hrow
    rcases List.mem_append.mp hrow with hrow | hrow
    · exact h row hrow
    · rw [ha] at hs
      rw [Credentials.step] at hs
      split_ifs at hs
      cases hs
      have hnew := List.append_cancel_left hrows
      rw [List.mem_singleton.mp hrow, ← List.singleton_inj.mp hnew]
      exact .inr rfl
  · exact h row (hrows ▸ hrow)
  · rw [hrows] at hrow
    obtain ⟨before, hbefore, rfl⟩ := List.mem_map.mp hrow
    split_ifs
    · exact .inl rfl
    · exact h before hbefore
  · rw [hrows] at hrow
    obtain ⟨before, hbefore, rfl⟩ := List.mem_map.mp hrow
    split_ifs
    · exact .inr rfl
    · exact h before hbefore

theorem known_of_reach (h : Lts.Reach Credentials.step Lts.free Credentials.init s) : ∀ row ∈ s.rows, Known row := by
  refine h.invariant ?_ fun _ hs => known_step hs
  intro row hrow
  cases hrow

/-- The table has the column `ip_address`. -/
def HasIpColumn (_ : Credentials.State) : Credentials.Act → Prop
  | .advance _ d => d.missingIpColumn = false
  | _ => True

instance (s : Credentials.State) : (a : Credentials.Act) → Decidable (HasIpColumn s a)
  | .advance _ d => inferInstanceAs (Decidable (d.missingIpColumn = false))
  | .arrive _ _ | .enroll _ _ _ => .isTrue trivial

/-- The capabilities name the address of the column. -/
def OneAddress (row : Endpoint) : Prop := (capabilities row).lookup "ip" = (ipColumn row).map Json.str

def isFallback : Pc → Bool
  | .registerFallback .. => true
  | _ => false

structure Uniform (s : Credentials.State) : Prop where
  rows (row : Endpoint) : row ∈ s.rows → OneAddress row
  requests (i : Nat) (pc : Pc) : s.requests i = some pc → isFallback pc = false

theorem lookup_capsData (req : RegisterRequest) (conn : Connection) :
    (capsData req conn).lookup "ip" = some (.str (realIp req conn)) := by
  have hgateway (v : Json) (xs : List (String × Json)) :
      (KeyedStore.put "gateway" v xs).lookup "ip" = xs.lookup "ip" := by
    rw [KeyedStore.lookup_put, if_neg (by decide)]
  have hsubnet (v : Json) (xs : List (String × Json)) :
      (KeyedStore.put "subnet" v xs).lookup "ip" = xs.lookup "ip" := by
    rw [KeyedStore.lookup_put, if_neg (by decide)]
  have hdevices (v : Json) (xs : List (String × Json)) :
      (KeyedStore.put "devices" v xs).lookup "ip" = xs.lookup "ip" := by
    rw [KeyedStore.lookup_put, if_neg (by decide)]
  have hip (xs : List (String × Json)) :
      (KeyedStore.put "ip" (.str (realIp req conn)) xs).lookup "ip" = some (.str (realIp req conn)) := by
    rw [KeyedStore.lookup_put, if_pos rfl]
  unfold capsData
  cases truthy req.gateway <;> cases truthy req.subnet <;>
    simp only [Option.elim] <;> split <;> simp only [hgateway, hsubnet, hdevices, hip]

theorem Uniform.setRequest (h : Uniform s) {i : Nat} {pc : Pc} (hpc : isFallback pc = false) :
    Uniform (s.setRequest i pc) := by
  refine ⟨h.rows, fun j pc' hj => ?_⟩
  simp only [State.setRequest, Function.update_apply] at hj
  split_ifs at hj with hji
  · cases hj
    exact hpc
  · exact h.requests j pc' hj

theorem Uniform.register (h : Uniform s) {i : Nat} {pc : Pc} (hpc : isFallback pc = false) (e : String)
    (req : RegisterRequest) (conn : Connection) :
    Uniform { s.setRequest i pc with
      rows := markActive e (fun _ => metadata req (.obj (capsData req conn)) (some (realIp req conn))) s.rows } := by
  refine ⟨fun row hrow => ?_, (h.setRequest hpc).requests⟩
  obtain ⟨before, hbefore, rfl⟩ := List.mem_map.mp hrow
  split_ifs
  · exact lookup_capsData req conn
  · exact h.rows before hbefore

theorem Uniform.rotate (h : Uniform s) {i : Nat} {pc : Pc} (hpc : isFallback pc = false) (e secret : String)
    (issued : List String) (log : List Event) :
    Uniform { s.setRequest i pc with rows := replaceSecret e secret s.rows, issued := issued, log := log } := by
  refine ⟨fun row hrow => ?_, (h.setRequest hpc).requests⟩
  obtain ⟨before, hbefore, rfl⟩ := List.mem_map.mp hrow
  split_ifs <;> exact h.rows before hbefore

theorem uniform_stepRequest {i : Nat} {d : Draw} {pc : Pc} (hd : d.missingIpColumn = false)
    (hpc : isFallback pc = false) (hs : stepRequest s i d pc = some s') (h : Uniform s) : Uniform s' := by
  cases pc with
  | auth authorization xTenantId route =>
    simp only [stepRequest] at hs
    split_ifs at hs
    · cases hs
      exact h.setRequest rfl
    · split at hs
      · cases hs
        exact h.setRequest rfl
      · rename_i endpoint _
        cases hs
        have hnext : isFallback (afterAuth endpoint route) = false := by cases route <;> rfl
        exact ⟨h.rows, (h.setRequest hnext).requests⟩
  | registerUpdate endpoint req conn =>
    rw [stepRequest, if_neg (by simp [hd])] at hs
    split_ifs at hs <;> cases hs
    · exact h.setRequest rfl
    · exact h.register rfl endpoint.endpointId req conn
  | registerFallback endpoint req conn => cases hpc
  | serve endpoint route =>
    cases hs
    exact h.setRequest rfl
  | rotateSelect endpointId =>
    simp only [stepRequest] at hs
    split_ifs at hs
    · cases hs
      exact h.setRequest rfl
    · split at hs <;> cases hs <;> exact h.setRequest rfl
  | rotateUpdate endpointId tenantId =>
    simp only [stepRequest] at hs
    split_ifs at hs
    · cases hs
      exact h.setRequest rfl
    · split at hs <;> cases hs
      · exact h.setRequest rfl
      · exact h.rotate rfl endpointId d.secret _ _
  | rotateAudit endpointId tenantId =>
    simp only [stepRequest] at hs
    split_ifs at hs <;> cases hs <;> exact h.setRequest rfl
  | replied reply => cases hs

theorem uniform_step (ha : HasIpColumn s a) (hs : Credentials.step s a = some s') (h : Uniform s) : Uniform s' := by
  cases a with
  | arrive i request =>
    simp only [Credentials.step] at hs
    split at hs <;> cases hs <;> exact h.setRequest rfl
  | advance i d =>
    obtain ⟨pc, hpc, hs⟩ := Option.bind_eq_some_iff.mp hs
    exact uniform_stepRequest ha (h.requests i pc hpc) hs h
  | enroll endpointId tenantId secret =>
    simp only [Credentials.step] at hs
    split_ifs at hs
    cases hs
    refine ⟨fun row hrow => ?_, h.requests⟩
    rcases List.mem_append.mp hrow with hrow | hrow
    · exact h.rows row hrow
    · rw [List.mem_singleton.mp hrow]
      rfl

theorem uniform_of_reach (h : Lts.Reach Credentials.step HasIpColumn Credentials.init s) : Uniform s := by
  refine h.invariant ⟨?_, ?_⟩ fun ha hs => uniform_step ha hs
  · intro row hrow
    cases hrow
  · intro i pc hpc
    cases hpc

theorem ids_step (hs : Credentials.step s a = some s') (h : (s.rows.map (·.endpointId)).Nodup) :
    (s'.rows.map (·.endpointId)).Nodup := by
  rcases step_effect hs with ⟨hrows⟩ | ⟨new, -, hnew, hrows⟩ | ⟨-, -, -, hrows⟩ | ⟨-, e, change, -, hrows⟩ |
    ⟨-, old, d, -, -, -, -, hrows⟩ <;> rw [hrows]
  · exact h
  · rw [List.map_append, List.map_singleton, ← List.concat_eq_append]
    exact h.concat hnew
  · exact h
  · rwa [map_endpointId_markActive]
  · rwa [map_endpointId_replaceSecret]

theorem ids_of_reach {guard : Credentials.State → Credentials.Act → Prop}
    (h : Lts.Reach Credentials.step guard Credentials.init s) : (s.rows.map (·.endpointId)).Nodup :=
  h.invariant List.nodup_nil fun _ hs => ids_step hs

/-! ### The health of the hosts -/

variable {rows byLastSeen byHostname : List Row}

theorem Listed.mem (h : Listed s rows) {row : Row} (hrow : row ∈ rows) : row.toEndpoint ∈ s.rows :=
  h.mem_iff.mp (List.mem_map_of_mem hrow)

theorem Listed.countP (h : Listed s rows) (p : Endpoint → Bool) :
    rows.countP (fun row => p row.toEndpoint) = s.rows.countP p := by
  rw [← h.countP_eq, List.countP_map]
  rfl

theorem hostHealth_eq_healthy {status : String} : hostHealth status = "healthy" ↔ status = "active" := by
  unfold hostHealth
  split_ifs with hactive hpending <;> simp [hactive]

theorem hostHealth_eq_stale {status : String} : hostHealth status = "stale" ↔ status = "pending_register" := by
  unfold hostHealth
  split_ifs with hactive hpending
  · simp [hactive]
  · simp [hpending]
  · simp [hpending]

theorem countP_getHosts {p : Host → Bool} {q : Endpoint → Bool} (h : ∀ row, p (host row) = q row.toEndpoint) :
    (getHosts rows).countP p = (rows.take 200).countP fun row => q row.toEndpoint := by
  rw [getHosts, List.countP_map]
  exact List.countP_congr fun row _ => by rw [Function.comp_apply, h]

/-- Where each element is of one of two kinds, the two counts add up. -/
theorem countP_known (h : ∀ row ∈ rows, Known row.toEndpoint) :
    rows.countP (·.status = "active") + rows.countP (·.status = "pending_register") = rows.length := by
  induction rows with
  | nil => rfl
  | cons row rows ih =>
    have hrest := ih fun row' hrow' => h row' (List.mem_cons_of_mem row hrow')
    rw [List.countP_cons, List.countP_cons, List.length_cons]
    rcases h row List.mem_cons_self with hrow | hrow <;> simp [hrow] <;> omega

/-- In every run no host is offline, the panel's two counts add up to its total, and the list of the
hosts has the counts of the panel exactly as long as its query is not cut off. -/
theorem health_adds_up (h : Lts.Reach Credentials.step Lts.free Credentials.init s) {panel : List Row}
    (hseen : Listed s byLastSeen) (hpanel : Listed s panel) :
    (agentHealthSummary panel).totalEndpoints =
        (agentHealthSummary panel).activeEndpoints + (agentHealthSummary panel).pendingEndpoints ∧
      (∀ x ∈ getHosts byLastSeen, x.health = "healthy" ∨ x.health = "stale") ∧
      (((getHosts byLastSeen).countP (·.health = "healthy") = (agentHealthSummary panel).activeEndpoints ∧
          (getHosts byLastSeen).countP (·.health = "stale") = (agentHealthSummary panel).pendingEndpoints) ↔
        (agentHealthSummary panel).totalEndpoints ≤ 200) := by
  have hknown := known_of_reach h
  have htotal := countP_known fun row hrow => hknown _ (hpanel.mem hrow)
  have hlisted : ∀ row ∈ byLastSeen.take 200, Known row.toEndpoint := fun row hrow =>
    hknown _ (hseen.mem (List.mem_of_mem_take hrow))
  have hcut := countP_known hlisted
  have hlength : byLastSeen.length = panel.length := by
    have hperm := (hseen.trans hpanel.symm).length_eq
    rwa [List.length_map, List.length_map] at hperm
  have hhealthy : (getHosts byLastSeen).countP (·.health = "healthy") =
      (byLastSeen.take 200).countP (·.status = "active") :=
    countP_getHosts (q := fun row => row.status = "active") fun row => decide_eq_decide.mpr hostHealth_eq_healthy
  have hstale : (getHosts byLastSeen).countP (·.health = "stale") =
      (byLastSeen.take 200).countP (·.status = "pending_register") :=
    countP_getHosts (q := fun row => row.status = "pending_register") fun row =>
      decide_eq_decide.mpr hostHealth_eq_stale
  have hactive : byLastSeen.countP (·.status = "active") = panel.countP (·.status = "active") :=
    (hseen.countP (·.status = "active")).trans (hpanel.countP (·.status = "active")).symm
  have hpending : byLastSeen.countP (·.status = "pending_register") = panel.countP (·.status = "pending_register") :=
    (hseen.countP (·.status = "pending_register")).trans (hpanel.countP (·.status = "pending_register")).symm
  refine ⟨htotal.symm, ?_, ?_⟩
  · intro x hx
    obtain ⟨row, hrow, rfl⟩ := List.mem_map.mp hx
    rcases hlisted row hrow with hstatus | hstatus
    · exact .inl (hostHealth_eq_healthy.mpr hstatus)
    · exact .inr (hostHealth_eq_stale.mpr hstatus)
  · rw [hhealthy, hstale]
    constructor
    · rintro ⟨hact, hpend⟩
      -- the hosts are as many as the endpoints
      have hall : (byLastSeen.take 200).length = panel.length := by rw [← hcut, ← htotal, hact, hpend]; rfl
      rw [List.length_take] at hall
      show panel.length ≤ 200
      omega
    · intro hle
      have hshort : byLastSeen.length ≤ 200 := hlength ▸ hle
      rw [List.take_of_length_le hshort]
      exact ⟨hactive, hpending⟩

/-- A row that has never been seen. -/
def unseen (rows : List Endpoint) : List Row := rows.map fun row => { toEndpoint := row }

theorem listed_unseen (s : Credentials.State) : Listed s (unseen s.rows) := by
  rw [Listed, unseen, List.map_map]
  simp [Function.comp_def]

def stationRegistration : Route :=
  .register { hostname := "srv-7", label := "l", type := "iaas", capabilities := .arr [], agentVersion := "1",
              os := "linux", region := "eu", ipAddress := some "10.0.0.32" } {}

/-- One endpoint is registered from the address of a LAN device, another one only enrolled. -/
def stationRun : List Credentials.Act :=
  [.enroll "e-7" "acme-corp" "old", .arrive 0 (.agent (some "Bearer old") none stationRegistration), .advance 0 {},
    .advance 0 {}, .enroll "e-8" "acme-corp" "other"]

theorem stationRun_done : (Lts.run Credentials.step HasIpColumn Credentials.init stationRun).isSome = true := by
  decide +kernel

def stationState : Credentials.State :=
  (Lts.run Credentials.step HasIpColumn Credentials.init stationRun).get stationRun_done

theorem reach_stationState : Lts.Reach Credentials.step HasIpColumn Credentials.init stationState :=
  .get_run stationRun stationRun_done

theorem one_host_healthy_one_stale :
    (getHosts (unseen stationState.rows)).map (·.health) = ["healthy", "stale"] ∧
      (agentHealthSummary (unseen stationState.rows)).totalEndpoints =
        (agentHealthSummary (unseen stationState.rows)).activeEndpoints +
          (agentHealthSummary (unseen stationState.rows)).pendingEndpoints :=
  ⟨by decide +kernel,
    (health_adds_up reach_stationState.toFree (listed_unseen stationState) (listed_unseen stationState)).1⟩

/-! ### The addresses of the endpoints -/

theorem getTrue_of_empty {members : List (String × Json)} {key : String} (h : members.lookup key = some (.str "")) :
    Json.getTrue members key = none := by
  rw [Json.getTrue, h]
  rfl

/-- The inventory shows the address that the list of the hosts shows. -/
theorem assetAddress_eq {row : Endpoint} (h : OneAddress row) : assetAddress row = .str (hostAddress row) := by
  have hunknown (ip : String) : (unknownAddresses.any fun a => isText a (.str ip)) = decide (ip ∈ unknownAddresses) := by
    simp [unknownAddresses, isText]
  have hdefault : (unknownAddresses.any fun a => isText a (.str "10.0.0.33")) = false := by decide
  unfold assetAddress hostAddress
  cases hip : truthy (ipColumn row) with
  | some ip =>
    simp only [Option.map_some, Option.some_or, Option.getD_some, hunknown, decide_eq_true_eq]
    by_cases hin : ip ∈ unknownAddresses <;> simp [hin]
  | none =>
    have hcaps : Json.getTrue (capabilities row) "ip" = none := by
      unfold OneAddress at h
      cases hcol : ipColumn row with
      | none =>
        rw [hcol] at h
        rw [Json.getTrue, h]
        rfl
      | some ip =>
        rw [hcol] at h hip
        have hempty : ip = "" := by
          by_contra hne
          rw [truthy_some hne] at hip
          cases hip
        exact getTrue_of_empty (hempty ▸ h)
    simp [hcaps, hdefault]

theorem asset_eq {row : Row} (h : OneAddress row.toEndpoint) :
    ∃ x, asset row = some x ∧ x.id = row.endpointId ∧ x.ipAddress = .str (hostAddress row.toEndpoint) := by
  unfold asset
  rw [assetAddress_eq h]
  simp only [hashable, if_true, Option.bind_eq_bind, Option.bind_some]
  cases truthy (column (·.hostname) row.toEndpoint) <;> exact ⟨_, rfl, rfl, rfl⟩

theorem isText_str (s t : String) : isText s (.str t) = decide (t = s) := rfl

/-- The loop over devices of different addresses. -/
theorem foldl_addDevice {ds : List LanDevice} (hds : (ds.map (·.ipAddress)).Nodup) (xs : List Asset)
    (seen : List Json) :
    (ds.foldl addDevice (xs, seen)).1 = xs ++ ((ds.filter fun d => !seen.any (isText d.ipAddress)).map (·.asset)) := by
  induction ds generalizing xs seen with
  | nil => simp
  | cons d ds ih =>
    rw [List.map_cons, List.nodup_cons] at hds
    rw [List.foldl_cons, addDevice]
    split_ifs with hin
    · rw [ih hds.2, List.filter_cons_of_neg (by simpa using hin)]
    · rw [ih hds.2, List.filter_cons_of_pos (by simpa using hin), List.map_cons, List.append_assoc,
        List.singleton_append]
      -- what was added has another address than what follows
      have hsame : (ds.filter fun d' => !(seen ++ [Json.str d.ipAddress]).any (isText d'.ipAddress)) =
          ds.filter fun d' => !seen.any (isText d'.ipAddress) := by
        refine List.filter_congr fun d' hd' => ?_
        have hne : d.ipAddress ≠ d'.ipAddress := fun heq => hds.1 (heq ▸ List.mem_map_of_mem hd')
        simp [List.any_append, isText_str, hne]
      rw [hsame]

theorem getAssetInventory_eq (h : ∀ row ∈ rows, OneAddress row.toEndpoint) :
    ∃ assets, (rows.take 500).mapM asset = some assets ∧
      getAssetInventory rows = some (assets ++
        ((lanDiscovered.filter fun d => !assets.any fun x => isText d.ipAddress x.ipAddress).map (·.asset))) := by
  have hread : ((rows.take 500).mapM asset).isSome = true := by
    refine RaisingLoop.isSome_mapM_iff.mpr fun row hrow => ?_
    obtain ⟨x, hx, -⟩ := asset_eq (h row (List.mem_of_mem_take hrow))
    rw [hx]
    rfl
  obtain ⟨assets, hassets⟩ := Option.isSome_iff_exists.mp hread
  refine ⟨assets, hassets, ?_⟩
  have hdistinct : (lanDiscovered.map (·.ipAddress)).Nodup := by decide
  rw [getAssetInventory, hassets, Option.bind_eq_bind, Option.bind_some, foldl_addDevice hdistinct]
  simp only [List.any_map, Function.comp_def, Option.pure_def]

/-- Where the table has the column `ip_address`, the inventory is the endpoints of its query in their
order, followed by the devices of the LAN whose address none of them has; and it shows each endpoint
under the address that the list of the hosts shows. -/
theorem addresses_agree (h : Lts.Reach Credentials.step HasIpColumn Credentials.init s)
    (hseen : Listed s byLastSeen) (hname : Listed s byHostname) :
    ∃ assets, getAssetInventory byHostname = some (assets ++
        ((lanDiscovered.filter fun d => !assets.any fun x => isText d.ipAddress x.ipAddress).map (·.asset))) ∧
      assets.map (·.id) = (byHostname.take 500).map (·.endpointId) ∧
      ∀ x ∈ assets, ∀ y ∈ getHosts byLastSeen, y.id = x.id → x.ipAddress = .str y.ipAddress := by
  have huniform := uniform_of_reach h
  have hone : ∀ row ∈ byHostname, OneAddress row.toEndpoint := fun row hrow => huniform.rows _ (hname.mem hrow)
  obtain ⟨assets, hread, hinventory⟩ := getAssetInventory_eq hone
  refine ⟨assets, hinventory, ?_, ?_⟩
  · refine List.ext_getElem? fun i => ?_
    rw [List.getElem?_map, List.getElem?_map, RaisingLoop.getElem?_of_mapM hread]
    cases hrow : (byHostname.take 500)[i]? with
    | none => rfl
    | some row =>
      obtain ⟨x, hx, hid, -⟩ := asset_eq (hone row (List.mem_of_mem_take (List.mem_of_getElem? hrow)))
      rw [Option.bind_some, hx, Option.map_some, Option.map_some, hid]
  · intro x hx y hy hid
    obtain ⟨row, hrow, hasset⟩ := RaisingLoop.exists_of_mem_of_mapM hread hx
    obtain ⟨row', hrow', rfl⟩ := List.mem_map.mp hy
    have hmem := List.mem_of_mem_take hrow
    obtain ⟨x', hx', hid', hip⟩ := asset_eq (hone row hmem)
    rw [hx'] at hasset
    cases hasset
    -- one endpoint is one row
    have hsame : row'.toEndpoint = row.toEndpoint :=
      List.inj_on_of_nodup_map (ids_of_reach h) (hseen.mem (List.mem_of_mem_take hrow')) (hname.mem hmem)
        (hid.trans hid')
    rw [hip, ← hsame]
    rfl

theorem station_hides_lan_device :
    (getAssetInventory (unseen stationState.rows)).map (·.map (·.id)) =
        some ["e-7", "e-8", "asset-gw-10-0-0-10", "asset-station-10-0-0-38"] ∧
      ∃ assets, getAssetInventory (unseen stationState.rows) = some (assets ++
        ((lanDiscovered.filter fun d => !assets.any fun x => isText d.ipAddress x.ipAddress).map (·.asset))) := by
  obtain ⟨assets, hinventory, -⟩ :=
    addresses_agree reach_stationState (listed_unseen stationState) (listed_unseen stationState)
  exact ⟨by decide +kernel, assets, hinventory⟩

/-! ### Isolation -/

/-- The table with the hosts whose isolation was answered with a success. -/
structure Site where
  endpoints : Credentials.State := Credentials.init
  isolated : List String := []

def Site.answered (s : Site) (action target : String) : Site :=
  if action = "isolate_host" then { s with isolated := s.isolated ++ [target] }
  else if action = "release_host" then { s with isolated := s.isolated.filter (· ≠ target) }
  else s

inductive Act
  | endpoint (a : Credentials.Act)
  | executeAction (payload : ActionApi.ActionExecuteRequest)
  | isolateHost (hostId : String) (payload : Option ActionApi.IsolateHostRequest)
  | releaseHost (hostId : String) (payload : Option ActionApi.IsolateHostRequest)

/-- `execute_action`, `isolate_host` and `release_host` answer, and write nothing. -/
def step (s : Site) : Act → Option Site
  | .endpoint a => (Credentials.step s.endpoints a).map fun endpoints => { s with endpoints := endpoints }
  | .executeAction payload =>
    some (if (ActionApi.executeAction payload).accepts then s.answered payload.action payload.target else s)
  | .isolateHost hostId payload =>
    some (if (ActionApi.isolateHost hostId payload).accepts then s.answered "isolate_host" hostId else s)
  | .releaseHost hostId payload =>
    some (if (ActionApi.releaseHost hostId payload).accepts then s.answered "release_host" hostId else s)

theorem endpoints_answered (s : Site) (action target : String) : (s.answered action target).endpoints = s.endpoints := by
  unfold Site.answered
  split_ifs <;> rfl

theorem known_of_site {s : Site} (h : Lts.Reach step Lts.free {} s) : ∀ row ∈ s.endpoints.rows, Known row := by
  refine h.invariant (I := fun s => ∀ row ∈ s.endpoints.rows, Known row) ?_ ?_
  · intro row hrow
    cases hrow
  · intro t u a _ hs ht
    cases a with
    | endpoint a =>
      obtain ⟨endpoints, hnext, rfl⟩ := Option.map_eq_some_iff.mp hs
      exact known_step hnext ht
    | executeAction payload | isolateHost hostId payload | releaseHost hostId payload =>
      cases hs
      split_ifs
      · rwa [endpoints_answered]
      · exact ht

/-- What was audited of a target. -/
def auditsOf (auditRows : List AuditRow) (target : String) : List AuditEntry :=
  (auditRows.filter fun a => truthy a.target = some target).map (·.entry)

theorem lookup_foldl_addAudit (auditRows : List AuditRow) (map : List (String × List AuditEntry)) (target : String) :
    ((auditRows.foldl addAudit map).lookup target).getD [] = (map.lookup target).getD [] ++ auditsOf auditRows target := by
  induction auditRows generalizing map with
  | nil => simp [auditsOf]
  | cons a auditRows ih =>
    rw [List.foldl_cons, ih]
    unfold addAudit auditsOf
    cases ha : truthy a.target with
    | none => rw [List.filter_cons_of_neg (by simp [ha])]
    | some t =>
      simp only [KeyedStore.lookup_put]
      by_cases hsame : t = target
      · rw [if_pos hsame.symm, List.filter_cons_of_pos (by simp [ha, hsame]), hsame]
        simp
      · rw [if_neg (Ne.symm hsame), List.filter_cons_of_neg (by simp [ha, hsame])]

/-- Whatever isolations were asked for and answered with a success, no run shows a candidate as
isolated; the trail of a candidate is what was audited of its id or, where that is nothing, of its
hostname. -/
theorem candidates_never_isolated (lib : InvestigationDetails.PyLib) {s : Site} (h : Lts.Reach step Lts.free {} s)
    (hrows : Listed s.endpoints rows) (auditRows : List AuditRow) (c : Candidate)
    (hc : c ∈ getIsolationCandidates lib rows auditRows) :
    c.isIsolated = false ∧ c.isolatedAt = none ∧ c.isolatedBy = none ∧
      c.auditTrail = if auditsOf (auditRows.take 100) c.id = [] then auditsOf (auditRows.take 100) c.hostname
        else auditsOf (auditRows.take 100) c.id := by
  obtain ⟨row, hrow, rfl⟩ := List.mem_map.mp hc
  have hmap (target : String) :
      (((auditRows.take 100).foldl addAudit []).lookup target).getD [] = auditsOf (auditRows.take 100) target :=
    lookup_foldl_addAudit _ _ _
  have hnot : (row.status == "isolated") = false := by
    rcases known_of_site h _ (hrows.mem (List.mem_of_mem_take hrow)) with hstatus | hstatus <;> rw [hstatus] <;> decide
  unfold candidate
  simp only [hnot, hmap, List.isEmpty_iff]
  exact ⟨trivial, if_neg Bool.false_ne_true, if_neg Bool.false_ne_true, trivial⟩

/-- Both hosts are isolated with the second key, and the first one's audit is there. -/
def isolationRun : List Act :=
  stationRun.map .endpoint ++
    [.isolateHost "e-7" (some { twoKeyToken := some "key" }),
      .executeAction { action := "isolate_host", target := "e-8", justification := "beacon",
                       risk := "HIGH_IMPACT_WRITE", twoKeyToken := some "key" }]

theorem isolationRun_done : (Lts.run step Lts.free {} isolationRun).isSome = true := by decide +kernel

def isolationSite : Site := (Lts.run step Lts.free {} isolationRun).get isolationRun_done

def isolationAudit : AuditRow := ⟨some "e-7", "ResponseAgent", "isolate_host", 5⟩

theorem isolated_host_still_candidate :
    isolationSite.isolated = ["e-7", "e-8"] ∧
      ∃ c ∈ getIsolationCandidates ⟨fun _ => "", fun _ => 0⟩ (unseen isolationSite.endpoints.rows) [isolationAudit],
        c.id = "e-7" ∧ c.isIsolated = false ∧ c.isolatedBy = none := by
  refine ⟨by decide +kernel, _, List.mem_map_of_mem List.mem_cons_self, by decide +kernel, ?_⟩
  have hc := candidates_never_isolated ⟨fun _ => "", fun _ => 0⟩ (.get_run isolationRun isolationRun_done)
    (listed_unseen isolationSite.endpoints) [isolationAudit] _ (List.mem_map_of_mem List.mem_cons_self)
  exact ⟨hc.1, hc.2.2.1⟩

end EndpointConsoles
end SocFabric
