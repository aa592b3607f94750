import SocFabric.BeaconDetection
import SocFabric.Lib.RaisingLoop

/-!
# The checks of the RAT detector (`domain/investigations/RatDetector.py`)

`_check_unknown_binary`, `_check_gui_spawn_script`, `_check_novel_destination`, `_check_c2_domain`
and `_primary_source_ip` on dicts of any values; with `_check_beacon_pattern` they are the checks of
`analyze` (`ratChecks`). A round of a loop over the flows adds to the score and writes keys of the
evidence (`Effect`), or raises.
-/

namespace SocFabric
namespace Rat
open Triage RaisingLoop

/-! ### Configuration -/

def scoreUnknownBinary : Int := 25

def scoreGuiSpawnScript : Int := 30

def scoreNovelDest : Int := 15

def scoreLongLivedConn : Int := 10

def scoreSuspiciousPort : Int := 10

def scoreC2Domain : Int := 30

def benignProcessAllowlist : List String :=
  ["chrome", "firefox", "safari", "edge", "msedge", "outlook", "thunderbird", "slack", "teams",
    "zoom", "explorer", "explorer.exe", "finder", "svchost.exe", "services.exe", "lsass.exe",
    "systemd", "init", "launchd", "curl", "wget", "apt", "yum", "pip", "python3", "node", "npm",
    "yarn", "git", "ssh", "scp", "rsync", "dockerd", "containerd", "runc", "fluent-bit",
    "agent_poller", "agent_poller.py"]

def scriptEngineNames : List String :=
  ["python", "python3", "python.exe", "powershell", "powershell.exe", "pwsh", "pwsh.exe", "bash",
    "sh", "zsh", "dash", "fish", "wscript.exe", "cscript.exe", "cmd.exe", "perl", "perl.exe",
    "ruby", "ruby.exe", "node", "node.exe"]

def guiProcessNames : List String :=
  ["explorer.exe", "explorer", "finder", "taskbar.exe", "winlogon.exe", "dwm.exe"]

def suspiciousRatPorts : List Int :=
  [4444, 4445, 4446, 1337, 31337, 8888, 8080, 8443, 5555, 9001, 9002, 6666, 6667, 6668]

/-- What else the checks use of Python. -/
structure RatLib (R : Type) extends BeaconLib R where
  times1000 : PyVal R → Option (PyVal R) -- `v * 1000` of a value that is no number
  str : PyVal R → String

variable {R : Type} [PyNum R]

/-! ### Rounds -/

/-- What a round adds to the score, the keys it writes, and the names it puts into the set. -/
structure Effect where
  score : Int := 0
  writes : List (String × Json) := []
  binaries : List String := []

def Effect.and (e e' : Effect) : Effect :=
  ⟨e.score + e'.score, e.writes ++ e'.writes, e.binaries ++ e'.binaries⟩

/-- A set is kept as a list in the order of insertion. -/
structure Tally where
  score : Int := 0
  evidence : List (String × Json) := []
  binaries : List String := []

def Tally.add (t : Tally) (e : Effect) : Tally where
  score := t.score + e.score
  evidence := e.writes.foldl (fun evidence w => KeyedStore.put w.1 w.2 evidence) t.evidence
  binaries :=
    e.binaries.foldl (fun binaries b => if b ∈ binaries then binaries else binaries ++ [b])
      t.binaries

/-- `evidence if evidence else None`. -/
def orNone (evidence : List (String × Json)) : Option (List (String × Json)) :=
  if evidence.isEmpty then none else some evidence

/-- `(v or "").lower()`. -/
def lowered (v : PyVal R) : Option String := if v.truth then v.text.map Text.pyLower else some ""

def destinationIp (f : Telemetry R) : PyVal R := f.get "destination_ip" (.str "")

/-! ### Unknown binaries -/

def pidStep (names : List (Int × String)) (p : Telemetry R) : Option (List (Int × String)) := do
  let name ← lowered (p.get "process_name" .none)
  if (p.get "pid" .none).truth ∧ name ≠ "" then
    return KeyedStore.put (← (p.get "pid" .none).toInt) name names
  else return names

def pidToName (procEvents : List (Telemetry R)) : Option (List (Int × String)) :=
  procEvents.foldlM pidStep []

/-- `pid_to_name.get(pid)`, which raises for a list or a dict. -/
def nameOfPid (names : List (Int × String)) (pid : PyVal R) : Option (Option String) :=
  if hashable pid then some ((names.find? fun x => pyEq pid (.int x.1)).map Prod.snd) else none

def processName (names : List (Int × String)) (f : Telemetry R) : Option String :=
  if (f.get "process_name" .none).truth then lowered (f.get "process_name" .none)
  else do
    match ← nameOfPid names (f.get "pid" .none) with
    | some name => return Text.pyLower name
    | none => lowered (f.get "application" .none)

def times1000 (lib : RatLib R) : PyVal R → Option (PyVal R)
  | .bool b => some (.int (if b then 1000 else 0))
  | .int n => some (.int (n * 1000))
  | .num x => (PyNum.mul x (PyNum.ofInt 1000)).map .num
  | v => lib.times1000 v

def flowDuration (lib : RatLib R) (f : Telemetry R) : Option (PyVal R) :=
  if (f.get "flow_duration_ms" (.int 0)).truth then some (f.get "flow_duration_ms" (.int 0))
  else times1000 lib (f.get "flow_duration" (.int 0))

def longLivedEffect (lib : RatLib R) (f : Telemetry R) : Option Effect := do
  let duration ← flowDuration lib f
  if duration.truth then
    if PyNum.lt (PyNum.ofInt 60000) (← duration.toFloat) then
      return {
        score := scoreLongLivedConn
        writes := [("long_lived_connection_ms", lib.json duration)] }
    else return {}
  else return {}

def unknownBinaryEffect (lib : RatLib R) (names : List (Int × String)) (f : Telemetry R) :
    Option Effect := do
  if ← isExternalIp (destinationIp f) then
    let name ← processName names f
    if name = "" then return {}
    else
      let unknown : Effect :=
        if name ∈ benignProcessAllowlist then {}
        else
          { score := scoreUnknownBinary
            writes := [("suspicious_process", .str name)]
            binaries := [name] }
      return unknown.and (← longLivedEffect lib f)
  else return {}

def Tally.unknownBinary (t : Tally) : CheckResult where
  score := t.score
  evidence := orNone <|
    if t.binaries.isEmpty then t.evidence
    else KeyedStore.put "suspicious_binaries" (.arr (t.binaries.map .str)) t.evidence

def checkUnknownBinary (lib : RatLib R) (flows procEvents : List (Telemetry R)) :
    Option CheckResult := do
  let names ← pidToName procEvents
  return (← forEach (unknownBinaryEffect lib names) Tally.add flows {}).unknownBinary

/-! ### Script engines -/

def checkGuiSpawnScript (lib : RatLib R) : List (Telemetry R) → Option CheckResult
  | [] => some ⟨0, none⟩
  | p :: procEvents => do
    let pname ← lowered (p.get "process_name" .none)
    let parent ← lowered (p.get "parent_process_name" .none)
    if pname ∈ scriptEngineNames ∧ parent ∈ guiProcessNames then
      return ⟨scoreGuiSpawnScript, some [("parent_process", .str parent),
        ("child_process", .str pname), ("command_line", lib.json (p.get "command_line" (.str ""))),
        ("pattern", .str "gui_spawns_script_engine")]⟩
    else checkGuiSpawnScript lib procEvents

/-! ### Novel destinations -/

def novelEffect (lib : RatLib R) (f : Telemetry R) : Option Effect := do
  let port ← (f.get "destination_port" (.int 0)).toInt
  let sent ← (f.get "bytes_out" (.int 0)).toInt
  let received ← (f.get "bytes_in" (.int 0)).toInt
  -- the numbers of an internal flow are read as well
  if ← isExternalIp (destinationIp f) then
    let suspicious : Effect :=
      if port ∈ suspiciousRatPorts then
        { score := scoreSuspiciousPort
          writes := [("suspicious_port", .num port), ("dst_ip", lib.json (destinationIp f))] }
      else {}
    let novel : Effect :=
      if 0 < sent + received ∧ sent + received < 512 then
        { score := scoreNovelDest
          writes := [("novel_external_dest", lib.json (destinationIp f)),
            ("keepalive_bytes", .num ((sent + received : Int) : Rat))] }
      else {}
    return suspicious.and novel
  else return {}

def checkNovelDestination (lib : RatLib R) (flows : List (Telemetry R)) : Option CheckResult := do
  let t ← forEach (novelEffect lib) Tally.add flows {}
  return ⟨t.score, orNone t.evidence⟩

/-! ### C2 domains -/

def flowDomain (f : Telemetry R) : PyVal R :=
  orElse (f.get "domain" .none) (orElse (f.get "dst_hostname" .none)
    (orElse (f.get "dns_domain" .none) (.str "")))

/-- The entry of a flow whose domain is a C2 or malware host. -/
def c2Entry (f : Telemetry R) : Option (Option Json) :=
  if (flowDomain f).truth then
    (flowDomain f).text.map fun domain =>
      if (classifyDomain domain).isMalicious then
        some (.obj [("domain", .str domain), ("category", .str (classifyDomain domain).text)])
      else none
  else some none

def checkC2Domain (flows : List (Telemetry R)) : Option CheckResult := do
  let domains ← forEach c2Entry (fun domains entry => domains ++ entry.toList) flows []
  return if domains.isEmpty then ⟨0, none⟩ else ⟨scoreC2Domain, some [("c2_domains", .arr domains)]⟩

/-! ### The primary source -/

/-- A source that is counted; a list or a dict raises. -/
def countedSource (f : Telemetry R) : Option (Option (PyVal R)) :=
  if (f.get "source_ip" (.str "")).truth then
    if hashable (f.get "source_ip" (.str "")) then
      some (some (f.get "source_ip" (.str "")))
    else none
  else some none

def countSource (counts : List (PyVal R × Nat)) : Option (PyVal R) → List (PyVal R × Nat)
  | none => counts
  | some ip =>
    match counts.findIdx? fun x => pyEq ip x.1 with
    | some i => counts.modify i fun x => (x.1, x.2 + 1)
    | none => counts ++ [(ip, 1)]

def primarySourceIp (lib : RatLib R) (flows : List (Telemetry R)) : Option String := do
  let counts ← forEach countedSource countSource flows []
  return match DDoS.mostFrequent (counts.map fun x => (lib.str x.1, x.2)) with
    | some x => x.1
    | none => "unknown"

/-! ### The detector -/

def ratChecks (lib : RatLib R) : Checks (Telemetry R) (Telemetry R) where
  beaconPattern := checkBeaconPattern lib.toBeaconLib
  unknownBinary := checkUnknownBinary lib
  guiSpawnScript := checkGuiSpawnScript lib
  novelDestination := checkNovelDestination lib
  c2Domain := checkC2Domain
  primarySourceIP := primarySourceIp lib

end Rat
end SocFabric
