import SocFabric.Lib.PyNum
import SocFabric.Lib.Text

/-!
# Flow forensics (`domain/investigations/AntigravityTriageAgent.py`)

`classify_domain` and `NetworkForensicsSubagent.analyze_flow_features`. Telemetry is a dict of any
decoded values; an analysis that meets a value of the wrong type raises, and has no result here.
-/

namespace SocFabric
namespace Triage

/-! ### Domains -/

inductive DomainCategory
  | unknown
  | cdn
  | login
  | banking
  | knownC2
  | malwareHost
  | general
deriving DecidableEq, Repr

def DomainCategory.text : DomainCategory → String
  | unknown => "unknown"
  | cdn => "cdn"
  | login => "login"
  | banking => "banking"
  | knownC2 => "known_c2"
  | malwareHost => "malware_host"
  | general => "general"

def knownDomainCategories : List (String × DomainCategory) :=
  [("google.com", .cdn), ("googleapis.com", .cdn), ("cloudflare.com", .cdn), ("github.com", .cdn),
    ("chase.com", .banking), ("bankofamerica.com", .banking), ("wellsfargo.com", .banking),
    ("login.microsoftonline.com", .login), ("accounts.google.com", .login),
    ("c2-malicious.org", .knownC2), ("bad-domain.net", .malwareHost), ("exfil-traffic.xyz", .knownC2)]

/-- The terms that give away a category, in the order they are tried. -/
def categoryTerms : List (List String × DomainCategory) :=
  [(["cdn", "static", "assets", "akamai", "fastly"], .cdn),
    (["login", "auth", "sso", "identity", "oauth"], .login),
    (["bank", "pay", "credit", "financial", "treasury"], .banking),
    (["c2", "command", "beacon", "exfil", "botnet"], .knownC2),
    (["malware", "exploit", "trojan", "ransomware", "dropper"], .malwareHost)]

def classifyDomain (domain : String) : DomainCategory :=
  if domain = "" then .unknown else
  match knownDomainCategories.find? fun entry => Text.contains (Text.pyLower domain) entry.1 with
  | some entry => entry.2
  | none =>
    match categoryTerms.find? fun entry => entry.1.any fun term => Text.contains (Text.pyLower domain) term with
    | some entry => entry.2
    | none => .general

/-- The categories that make a flow an exfiltration risk. -/
def DomainCategory.isMalicious (c : DomainCategory) : Bool := c = .knownC2 || c = .malwareHost

/-! ### Telemetry -/

abbrev Telemetry (R : Type) := List (String × PyVal R)

variable {R : Type}

/-- `telemetry.get(key, default)`. -/
def Telemetry.get (t : Telemetry R) (key : String) (default : PyVal R) : PyVal R := (t.lookup key).getD default

/-- Python `a or b`. -/
def orElse [PyNum R] (a b : PyVal R) : PyVal R := if a.truth then a else b

def Telemetry.domain [PyNum R] (t : Telemetry R) : PyVal R :=
  orElse (t.get "domain" .none) (orElse (t.get "dst_hostname" .none) (t.get "dns_domain" (.str "")))

/-- The RFC 1918 test of the analysis, with all of 172/8. -/
def isInternal (ip : String) : Bool :=
  Text.startsWith ip "10." || Text.startsWith ip "192.168." || Text.startsWith ip "172." || ip = "127.0.0.1"

inductive FlowDirection
  | outbound
  | inbound
  | internal
deriving DecidableEq, Repr

def FlowDirection.text : FlowDirection → String
  | outbound => "Client -> Router -> External"
  | inbound => "External -> Router -> Client"
  | internal => "Internal LAN Flow"

def flowDirection (sourceIP destIP : String) : FlowDirection :=
  if isInternal sourceIP && !isInternal destIP && destIP ≠ "" then .outbound
  else if !isInternal sourceIP && isInternal destIP && sourceIP ≠ "" then .inbound
  else .internal

/-- Dropped or blocked by the router. -/
def isRouterDrop (app : String) : Bool :=
  Text.contains (Text.pyLower app) "drop" || Text.contains (Text.pyLower app) "block"

section
variable [PyNum R]

/-- The category of a domain that may be missing; a value that is no string raises. -/
def domainCategory (domain : PyVal R) : Option DomainCategory :=
  if domain.truth then domain.text.map classifyDomain else some .unknown

def asymmetryRatio (bytesOut bytesIn : PyVal R) : Option R := do
  let sent ← bytesOut.number
  let idle : R := if PyNum.lt (PyNum.ofInt 50000) sent && bytesIn.eqZero then PyNum.lit 100 else PyNum.lit 1
  if PyNum.lt (PyNum.ofInt 0) sent then
    -- the received bytes are compared only after the sent ones
    let received ← bytesIn.number
    if PyNum.lt (PyNum.ofInt 0) received then PyNum.div sent received else return idle
  else return idle

def exfiltrationRisk (ratio : R) (category : DomainCategory) (bytesOut : PyVal R) : Bool :=
  PyNum.le (PyNum.lit 50) ratio ||
    (PyNum.le (PyNum.lit 10) ratio &&
      (category.isMalicious || bytesOut.number.any fun sent => PyNum.le (PyNum.ofInt 100000) sent)) ||
    category.isMalicious

end

structure FlowFindings (R : Type) where
  sourceIP : String
  destinationIP : String
  destinationPort : PyVal R
  protocol : String
  domain : PyVal R
  domainCategory : DomainCategory
  flowDirection : FlowDirection
  isRouterFirewallDrop : Bool
  isDhcpLease : Bool
  isWifi6Association : Bool
  exfiltrationRisk : Bool
  isOutboundWan : Bool
  asymmetryRatio : R
  bytesOut : PyVal R
  bytesIn : PyVal R
deriving DecidableEq, Repr

variable [PyNum R]

def analyzeFlowFeatures (t : Telemetry R) : Option (FlowFindings R) := do
  let app ← (t.get "application" (.str "")).text
  let protocol ← (t.get "protocol" (.str "TCP")).text
  let destIP ← (t.get "destination_ip" (.str "")).text
  let sourceIP ← (t.get "source_ip" (.str "")).text
  let category ← Triage.domainCategory t.domain
  let ratio ← Triage.asymmetryRatio (t.get "bytes_out" (.int 0)) (t.get "bytes_in" (.int 0))
  return {
    sourceIP := sourceIP
    destinationIP := destIP
    destinationPort := t.get "destination_port" (.int 0)
    protocol := protocol
    domain := t.domain
    domainCategory := category
    flowDirection := Triage.flowDirection sourceIP destIP
    isRouterFirewallDrop := isRouterDrop app
    isDhcpLease := Text.contains (Text.pyLower app) "dhcp"
    isWifi6Association :=
      Text.contains (Text.pyLower protocol) "802.11ax" || Text.contains (Text.pyLower app) "wifi6"
    exfiltrationRisk := Triage.exfiltrationRisk ratio category (t.get "bytes_out" (.int 0))
    isOutboundWan := !isInternal destIP && destIP ≠ ""
    asymmetryRatio := PyNum.round2 ratio
    bytesOut := t.get "bytes_out" (.int 0)
    bytesIn := t.get "bytes_in" (.int 0) }

/-- The domain, where the flow has one. -/
def FlowFindings.site (f : FlowFindings R) : Option String := if f.domain.truth then f.domain.text else none

/-! ### What the analysis reads -/

/-- The addresses and the drop flag of the findings are those of the telemetry. -/
theorem analyzeFlowFeatures_eq_some {t : Telemetry R} {f : FlowFindings R}
    (h : analyzeFlowFeatures t = some f) :
    t.get "source_ip" (.str "") = .str f.sourceIP ∧ t.get "destination_ip" (.str "") = .str f.destinationIP ∧
      ∃ app, t.get "application" (.str "") = .str app ∧ f.isRouterFirewallDrop = isRouterDrop app := by
  have htext : ∀ {v : PyVal R} {s : String}, v.text = some s → v = .str s := by
    intro v s hv
    cases v <;> cases hv
    rfl
  obtain ⟨app, happ, h⟩ := Option.bind_eq_some_iff.mp h
  obtain ⟨protocol, -, h⟩ := Option.bind_eq_some_iff.mp h
  obtain ⟨destIP, hdest, h⟩ := Option.bind_eq_some_iff.mp h
  obtain ⟨sourceIP, hsource, h⟩ := Option.bind_eq_some_iff.mp h
  obtain ⟨category, -, h⟩ := Option.bind_eq_some_iff.mp h
  obtain ⟨ratio, -, h⟩ := Option.bind_eq_some_iff.mp h
  cases h
  refine ⟨?_, ?_, app, ?_, ?_⟩
  · exact htext hsource
  · exact htext hdest
  · exact htext happ
  · dsimp only

end Triage
end SocFabric
