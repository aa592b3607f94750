import SocFabric.Lib.Regex
import SocFabric.NetworkEvidence

/-!
# Discovery of the local network (`hybrid-siem-agent/agent_poller.py`)

`detect_local_network` lists the devices of the agent's network: the dynamic entries of the ARP cache,
the gateway of the routing table and two expected peers. Entries are taken by a textual prefix of their
address, none is compared with the others, and the list of detected addresses is drawn up before the
gateway is put in. The list is consistent exactly if the entries are distinct addresses of the subnet
and the gateway is one of them, or an address of the subnet that is neither the agent's nor a peer's
(`detectLocalNetwork_consistent_iff`).
-/

namespace SocFabric
namespace LanDiscovery
open Text Triage

/-! ### Commands -/

/-- What the calls to the system answer; `none` is a call that raises. -/
structure Host where
  sockname : Option Ipv4
  routeOutput : Option (List UInt8)
  arpOutput : Option (List UInt8)

/-- `decode("latin1")`. -/
def decodeLatin1 (bytes : List UInt8) : String := .ofList (bytes.map fun b => Char.ofNat b.toNat)

def Host.localIp (h : Host) : String := (h.sockname.getD (.ofNats 10 0 0 33)).text

def subnetPrefix (localIp : String) : String := ".".intercalate ((splitChar '.' localIp).take 3)

/-- `(\d+\.\d+\.\d+\.\d+)`. -/
def addressGroup : List Regex.Token :=
  Regex.group [.many Regex.digit, .one (· = '.'), .many Regex.digit, .one (· = '.'), .many Regex.digit,
    .one (· = '.'), .many Regex.digit]

def routePattern : List Regex.Token :=
  Regex.lit "0.0.0.0" ++ .many pySpace :: (Regex.lit "0.0.0.0" ++ .many pySpace :: addressGroup)

/-- `\s*` is before a digit, so a lazy run ends where a greedy one does. -/
def interfacePattern : List Regex.Token :=
  Regex.lit "Interface:" ++ .lazyAny pySpace :: addressGroup

/-- The default gateway from the OS routing table. -/
def Host.gateway (h : Host) : String :=
  ((h.routeOutput.map decodeLatin1).bind (Regex.find1 routePattern)).getD
    (subnetPrefix h.localIp ++ ".10")

/-! ### Devices -/

inductive Role
  | gateway
  | lanStation
  | wifiStation
deriving DecidableEq, Repr

def Role.text : Role → String
  | gateway => "WiFi 6 Gateway / AP"
  | lanStation => "LAN Station Client"
  | wifiStation => "WiFi 6 802.11ax Station"

structure Device where
  ip : String
  mac : String
  role : Role
deriving DecidableEq, Repr

structure LocalNetwork where
  localIp : String
  gateway : String
  subnet : String
  devices : List Device
deriving DecidableEq, Repr

/-- An entry of the ARP cache that is taken, with its address and its hardware address. -/
def arpEntry (localIp : String) (line : String) : Option (String × String) :=
  match split line with
  | ip :: mac :: tip :: _ =>
    if pyLower tip = "dynamic" ∧ startsWith ip (subnetPrefix localIp) = true ∧ ip ≠ localIp then
      some (ip, mac)
    else none
  | _ => none

structure ArpScan where
  currentInterface : Option String := none
  devices : List Device := []

def arpDevice (gateway : String) (e : String × String) : Device where
  ip := e.1
  mac := replaceChar '-' ':' e.2
  role := if e.1 = gateway then .gateway else .lanStation

def scanLine (localIp gateway : String) (s : ArpScan) (line : String) : ArpScan :=
  let line := strip pySpace line
  if contains line "Interface:" then
    match Regex.find1 interfacePattern line with
    | some ip => { s with currentInterface := some ip }
    | none => s
  else if s.currentInterface = some localIp ∧ line ≠ "" then
    { s with devices := s.devices ++ (arpEntry localIp line).toList.map (arpDevice gateway) }
  else s

def arpDevices (localIp gateway : String) (arpOutput : Option (List UInt8)) : List Device :=
  match arpOutput with
  | some bytes => ((splitLines (decodeLatin1 bytes)).foldl (scanLine localIp gateway) {}).devices
  | none => []

def addGateway (detectedIps : List String) (gateway : String) (devices : List Device) : List Device :=
  if gateway ∈ detectedIps then devices else ⟨gateway, "00:55:b1:e6:93:50", .gateway⟩ :: devices

def addPeer (detectedIps : List String) (localIp : String) (devices : List Device) (peerIp : String) :
    List Device :=
  if peerIp ∉ detectedIps ∧ peerIp ≠ localIp then
    let lastByte := (splitChar '.' peerIp).getLast?.getD ""
    devices ++ [⟨peerIp, "34:2e:b7:" ++ lastByte ++ ":aa:bb", .wifiStation⟩]
  else devices

def peerIps (localIp : String) : List String :=
  [subnetPrefix localIp ++ ".32", subnetPrefix localIp ++ ".38"]

def detectLocalNetwork (h : Host) : LocalNetwork :=
  let devices := arpDevices h.localIp h.gateway h.arpOutput
  -- a set; it is not brought up to date below
  let detectedIps := devices.map (·.ip)
  { localIp := h.localIp
    gateway := h.gateway
    subnet := subnetPrefix h.localIp ++ ".0/24"
    devices := (peerIps h.localIp).foldl (addPeer detectedIps h.localIp)
      (addGateway detectedIps h.gateway devices) }

/-! ### Consistency -/

/-- An IPv4 address of the /24 with this text. -/
def InSubnet (subnet ip : String) : Prop :=
  ∃ x : Ipv4, subnet = x.network.text ++ "/24" ∧ ip = x.text

def Host.subnet (h : Host) : String := subnetPrefix h.localIp ++ ".0/24"

structure IsConsistent (n : LocalNetwork) : Prop where
  distinct : (n.devices.map (·.ip)).Nodup
  inSubnet : ∀ d ∈ n.devices, InSubnet n.subnet d.ip
  notLocal : ∀ d ∈ n.devices, d.ip ≠ n.localIp
  gateway : n.devices.countP (·.role = .gateway) ≤ 1

/-- The lines of the ARP output that stand below the agent's own interface. -/
def interfaceLines (localIp : String) : Option String → List String → List String
  | _, [] => []
  | current, line :: lines =>
    let line := strip pySpace line
    if contains line "Interface:" then
      interfaceLines localIp ((Regex.find1 interfacePattern line).or current) lines
    else if current = some localIp ∧ line ≠ "" then line :: interfaceLines localIp current lines
    else interfaceLines localIp current lines

/-- The entries that the scan takes. -/
def Host.arpEntries (h : Host) : List (String × String) :=
  (interfaceLines h.localIp none ((h.arpOutput.map fun b => splitLines (decodeLatin1 b)).getD [])).filterMap
    (arpEntry h.localIp)

/-- The addresses of the dynamic entries that begin with the first three octets. -/
def Host.arpAddresses (h : Host) : List String := h.arpEntries.map Prod.fst

/-! ### The subnet -/

section
variable {x : Ipv4} {d : Fin 256} {s ip : String}

theorem subnetPrefix_text (x : Ipv4) :
    (subnetPrefix x.text).toList =
      Ipv4.octet x.a ++ '.' :: (Ipv4.octet x.b ++ '.' :: Ipv4.octet x.c) := by
  have hoctet (n : Fin 256) : ∀ c ∈ Ipv4.octet n, decide (c = '.') = false := fun c hc =>
    decide_eq_false (ne_of_mem_of_not_mem hc (Ipv4.dot_notMem_octet n))
  have hsplit : splitChar '.' x.text = [.ofList (Ipv4.octet x.a), .ofList (Ipv4.octet x.b),
      .ofList (Ipv4.octet x.c)] ++ (splitBy (· = '.') [] (Ipv4.octet x.d)).map .ofList := by
    rw [splitChar, Ipv4.text, String.toList_ofList, splitBy_append (hoctet _) (by decide),
      splitBy_append (hoctet _) (by decide), splitBy_append (hoctet _) (by decide)]
    rfl
  have htake : (splitChar '.' x.text).take 3 =
      [.ofList (Ipv4.octet x.a), .ofList (Ipv4.octet x.b), .ofList (Ipv4.octet x.c)] := by
    rw [hsplit]
    rfl
  rw [subnetPrefix, htake]
  simp

/-- The prefix, and the last octet behind it. -/
theorem subnetPrefix_append (hs : s.toList = '.' :: Ipv4.octet d) :
    subnetPrefix x.text ++ s = (⟨x.a, x.b, x.c, d⟩ : Ipv4).text := by
  apply String.toList_injective
  rw [String.toList_append, subnetPrefix_text, hs, Ipv4.text, String.toList_ofList]
  simp

theorem inSubnet_iff :
    InSubnet (subnetPrefix x.text ++ ".0/24") ip ↔ ∃ d, ip = (⟨x.a, x.b, x.c, d⟩ : Ipv4).text := by
  have hzero : subnetPrefix x.text ++ ".0" = x.network.text :=
    subnetPrefix_append (by decide)
  have hsubnet : subnetPrefix x.text ++ ".0/24" = x.network.text ++ "/24" := by
    rw [← hzero, String.append_assoc]
    rfl
  rw [InSubnet, hsubnet]
  constructor
  · rintro ⟨y, hy, rfl⟩
    have hbase := Ipv4.text_inj.mp ((String.append_left_inj _).mp hy)
    cases x
    cases y
    cases hbase
    exact ⟨_, rfl⟩
  · rintro ⟨d, rfl⟩
    exact ⟨⟨x.a, x.b, x.c, d⟩, rfl, rfl⟩

end

/-! ### The devices -/

section
variable {localIp gateway : String} {s : ArpScan} {lines : List String}

theorem foldl_scanLine :
    (lines.foldl (scanLine localIp gateway) s).devices = s.devices ++
      ((interfaceLines localIp s.currentInterface lines).filterMap (arpEntry localIp)).map
        (arpDevice gateway) := by
  induction lines generalizing s with
  | nil => exact (List.append_nil _).symm
  | cons line lines ih =>
    rw [List.foldl_cons, ih, interfaceLines, scanLine]
    split_ifs with hinterface hentry
    · cases Regex.find1 interfacePattern (strip pySpace line) <;> rfl
    · rw [List.filterMap_cons, List.append_assoc]
      cases arpEntry localIp (strip pySpace line) <;> simp
    · rfl

theorem ne_local_of_arpEntry {line : String} {e : String × String} (h : arpEntry localIp line = some e) :
    e.1 ≠ localIp := by
  unfold arpEntry at h
  split at h
  · split_ifs at h with hdynamic
    cases h
    exact hdynamic.2.2
  · cases h

theorem countP_arpDevice (entries : List (String × String)) :
    (entries.map (arpDevice gateway)).countP (·.role = .gateway) = (entries.map Prod.fst).count gateway := by
  rw [List.countP_map, List.count, List.countP_map]
  refine List.countP_congr fun e _ => ?_
  by_cases he : e.1 = gateway <;> simp [arpDevice, he]

end

section
variable {h : Host}

theorem arpDevices_eq :
    arpDevices h.localIp h.gateway h.arpOutput = h.arpEntries.map (arpDevice h.gateway) := by
  unfold arpDevices Host.arpEntries
  cases h.arpOutput with
  | none => rfl
  | some bytes => exact foldl_scanLine.trans (List.nil_append _)

theorem ips_arpDevices :
    (arpDevices h.localIp h.gateway h.arpOutput).map (·.ip) = h.arpAddresses := by
  rw [arpDevices_eq, List.map_map]
  rfl

theorem ne_local_of_mem_arpAddresses {ip : String} (hip : ip ∈ h.arpAddresses) : ip ≠ h.localIp := by
  obtain ⟨e, he, rfl⟩ := List.mem_map.mp hip
  obtain ⟨line, -, hline⟩ := List.mem_filterMap.mp he
  exact ne_local_of_arpEntry hline

/-- The peers that are put in. -/
def Host.missingPeers (h : Host) : List String :=
  (peerIps h.localIp).filter fun ip => ip ∉ h.arpAddresses ∧ ip ≠ h.localIp

/-- The devices before the peers are put in. -/
def Host.listed (h : Host) : List String :=
  if h.gateway ∈ h.arpAddresses then h.arpAddresses else h.gateway :: h.arpAddresses

theorem ips_foldl_addPeer {detected peers : List String} {localIp : String} {devices : List Device} :
    (peers.foldl (addPeer detected localIp) devices).map (·.ip) =
        devices.map (·.ip) ++ peers.filter (fun ip => ip ∉ detected ∧ ip ≠ localIp) ∧
      (peers.foldl (addPeer detected localIp) devices).countP (·.role = .gateway) =
        devices.countP (·.role = .gateway) := by
  induction peers generalizing devices with
  | nil => exact ⟨(List.append_nil _).symm, rfl⟩
  | cons peer peers ih =>
    rw [List.foldl_cons, ih.1, ih.2, addPeer]
    split_ifs with hpeer
    · rw [List.filter_cons_of_pos (by simpa using hpeer), List.map_append, List.append_assoc, List.countP_append]
      exact ⟨rfl, rfl⟩
    · rw [List.filter_cons_of_neg (by simpa using hpeer)]
      exact ⟨rfl, rfl⟩

theorem ips_detectLocalNetwork :
    (detectLocalNetwork h).devices.map (·.ip) = h.listed ++ h.missingPeers := by
  rw [detectLocalNetwork, ips_foldl_addPeer.1, ips_arpDevices, Host.missingPeers, Host.listed, addGateway]
  split_ifs
  · rw [ips_arpDevices]
  · rw [List.map_cons, ips_arpDevices]

theorem countP_detectLocalNetwork :
    (detectLocalNetwork h).devices.countP (·.role = .gateway) = h.listed.count h.gateway := by
  have harp : (arpDevices h.localIp h.gateway h.arpOutput).countP (·.role = .gateway) =
      h.arpAddresses.count h.gateway := by
    rw [arpDevices_eq, countP_arpDevice]
    rfl
  rw [detectLocalNetwork, ips_foldl_addPeer.2, ips_arpDevices, Host.listed, addGateway]
  split_ifs
  · exact harp
  · rw [List.countP_cons_of_pos (by simp), harp, List.count_cons_self]

theorem mem_missingPeers {ip : String} :
    ip ∈ h.missingPeers ↔ ip ∈ peerIps h.localIp ∧ ip ∉ h.arpAddresses ∧ ip ≠ h.localIp := by
  rw [Host.missingPeers, List.mem_filter, decide_eq_true_iff]

theorem mem_listed {ip : String} : ip ∈ h.listed ↔ ip = h.gateway ∨ ip ∈ h.arpAddresses := by
  unfold Host.listed
  split_ifs with hgateway
  · exact (or_iff_right_of_imp fun hip => hip ▸ hgateway).symm
  · exact List.mem_cons

theorem nodup_listed : h.listed.Nodup ↔ h.arpAddresses.Nodup := by
  unfold Host.listed
  split_ifs with hgateway
  · exact Iff.rfl
  · exact List.nodup_cons.trans (and_iff_right hgateway)

theorem peerIps_spec (h : Host) :
    (peerIps h.localIp).Nodup ∧
      ∀ ip ∈ peerIps h.localIp, InSubnet h.subnet ip := by
  rw [Host.subnet, Host.localIp]
  generalize h.sockname.getD (.ofNats 10 0 0 33) = x
  have h32 : subnetPrefix x.text ++ ".32" = (⟨x.a, x.b, x.c, 32⟩ : Ipv4).text := subnetPrefix_append (by decide)
  have h38 : subnetPrefix x.text ++ ".38" = (⟨x.a, x.b, x.c, 38⟩ : Ipv4).text := subnetPrefix_append (by decide)
  rw [peerIps, h32, h38]
  constructor
  · rw [List.nodup_cons, List.mem_singleton, Ipv4.text_inj, Ipv4.mk.injEq]
    exact ⟨fun heq => absurd heq.2.2.2 (by decide), List.nodup_singleton _⟩
  · intro ip hip
    rcases List.mem_pair.mp hip with rfl | rfl
    · exact inSubnet_iff.mpr ⟨32, rfl⟩
    · exact inSubnet_iff.mpr ⟨38, rfl⟩

/-- Distinct addresses leave one gateway. -/
theorem isConsistent_iff :
    IsConsistent (detectLocalNetwork h) ↔ (h.listed ++ h.missingPeers).Nodup ∧
      ∀ ip ∈ h.listed ++ h.missingPeers, InSubnet h.subnet ip ∧ ip ≠ h.localIp := by
  rw [← ips_detectLocalNetwork]
  constructor
  · intro hconsistent
    refine ⟨hconsistent.distinct, fun ip hip => ?_⟩
    obtain ⟨d, hd, rfl⟩ := List.mem_map.mp hip
    exact ⟨hconsistent.inSubnet d hd, hconsistent.notLocal d hd⟩
  · rintro ⟨hnodup, hall⟩
    refine ⟨hnodup, fun d hd => ?_, fun d hd => ?_, ?_⟩
    · exact (hall _ (List.mem_map_of_mem hd)).1
    · exact (hall _ (List.mem_map_of_mem hd)).2
    · rw [ips_detectLocalNetwork, List.nodup_append'] at hnodup
      rw [countP_detectLocalNetwork]
      exact List.nodup_iff_count_le_one.mp hnodup.1 _

end

theorem detectLocalNetwork_consistent_iff (h : Host) :
    IsConsistent (detectLocalNetwork h) ↔
      h.arpAddresses.Nodup ∧ (∀ ip ∈ h.arpAddresses, InSubnet h.subnet ip) ∧
        (h.gateway ∈ h.arpAddresses ∨
          InSubnet h.subnet h.gateway ∧ h.gateway ≠ h.localIp ∧ h.gateway ∉ peerIps h.localIp) := by
  obtain ⟨hpeers, hsubnet⟩ := peerIps_spec h
  rw [isConsistent_iff, List.nodup_append', nodup_listed, List.forall_mem_append]
  constructor
  · rintro ⟨⟨hnodup, -, hdisjoint⟩, hlisted, -⟩
    refine ⟨hnodup, fun ip hip => (hlisted ip (mem_listed.mpr (.inr hip))).1, ?_⟩
    obtain ⟨hin, hne⟩ := hlisted h.gateway (mem_listed.mpr (.inl rfl))
    refine or_iff_not_imp_left.mpr fun hnot => ⟨hin, hne, fun hpeer => ?_⟩
    exact hdisjoint (mem_listed.mpr (.inl rfl)) (mem_missingPeers.mpr ⟨hpeer, hnot, hne⟩)
  · rintro ⟨hnodup, harp, hgateway⟩
    refine ⟨⟨hnodup, hpeers.filter _, fun ip hlist hmissing => ?_⟩, fun ip hip => ?_, fun ip hip => ?_⟩
    · obtain ⟨hpeer, hnot, -⟩ := mem_missingPeers.mp hmissing
      obtain rfl := (mem_listed.mp hlist).resolve_right hnot
      exact hgateway.elim hnot fun hgateway => hgateway.2.2 hpeer
    · rcases mem_listed.mp hip with rfl | hentry
      · rcases hgateway with hentry | ⟨hin, hne, -⟩
        · exact ⟨harp _ hentry, ne_local_of_mem_arpAddresses hentry⟩
        · exact ⟨hin, hne⟩
      · exact ⟨harp ip hentry, ne_local_of_mem_arpAddresses hentry⟩
    · obtain ⟨hpeer, -, hne⟩ := mem_missingPeers.mp hip
      exact ⟨hsubnet ip hpeer, hne⟩

/-! ### A neighbour of another subnet -/

def encodeLatin1 (s : String) : List UInt8 := s.toList.map fun c => UInt8.ofNat c.toNat

theorem decodeLatin1_encodeLatin1 {s : String} (hs : s.toList.all (·.toNat < 256)) :
    decodeLatin1 (encodeLatin1 s) = s := by
  have hchar : ∀ c ∈ s.toList, Char.ofNat (UInt8.ofNat c.toNat).toNat = c := by
    intro c hc
    have hlt := decide_eq_true_iff.mp (List.all_eq_true.mp hs c hc)
    rw [UInt8.toNat_ofNat', Nat.mod_eq_of_lt hlt, Char.ofNat_toNat]
  rw [decodeLatin1, encodeLatin1, List.map_map]
  refine (congrArg String.ofList ?_).trans String.ofList_toList
  exact (List.map_congr_left hchar).trans (List.map_id _)

/-- A host of a wider network, whose cache holds a neighbour in 10.0.12.0/24. -/
def widerHost : Host where
  sockname := some (.ofNats 10 0 1 5)
  routeOutput := none
  arpOutput := some (encodeLatin1
    "Interface: 10.0.1.5 --- 0xb\r\n  10.0.12.7    34-2e-b7-00-00-07   dynamic\r\n")

theorem neighbour_outside_subnet : ¬ ∀ h : Host, IsConsistent (detectLocalNetwork h) := by
  intro h
  have hmem : "10.0.12.7" ∈ (detectLocalNetwork widerHost).devices.map (·.ip) := by
    rw [ips_detectLocalNetwork]
    refine List.mem_append_left _ (mem_listed.mpr (.inr ?_))
    rw [Host.arpAddresses, Host.arpEntries, widerHost, Option.map_some, Option.getD_some,
      decodeLatin1_encodeLatin1 (by decide +kernel)]
    have hlines : splitLines
        "Interface: 10.0.1.5 --- 0xb\r\n  10.0.12.7    34-2e-b7-00-00-07   dynamic\r\n" =
        ["Interface: 10.0.1.5 --- 0xb", "  10.0.12.7    34-2e-b7-00-00-07   dynamic"] := by
      decide +kernel
    rw [hlines]
    decide +kernel
  obtain ⟨d, hd, hip⟩ := List.mem_map.mp hmem
  obtain ⟨last, hlast⟩ := inSubnet_iff.mp (hip ▸ (h widerHost).inSubnet d hd)
  have htext : (⟨10, 0, 12, 7⟩ : Ipv4).text = (⟨10, 0, 1, last⟩ : Ipv4).text := hlast
  cases Ipv4.text_inj.mp htext

end LanDiscovery
end SocFabric
