import SocFabric.Credentials
import SocFabric.LanDiscovery

/-!
# Bootstrap of an agent (`hybrid-siem-agent/agent_poller.py`)

The process of one agent next to the hub of `SocFabric.Credentials`. It loads a stored identity and
registers it, or gets an enrolment token, enrols, stores what it was given and registers that; then
it polls. Its requests are requests of the hub like any other, so that all statements of the hub
interleave with it; every answer may be lost, and the process may end at any point and be started
again, with what is on disk. `enrolled`, `failures` and `unsaved` are no part of the program: they
record the identities the hub has given out to this agent, the registrations of a stored identity
that failed, and the enrolments whose identity did not get to the disk.
-/

namespace SocFabric.AgentBootstrap
open Text Credentials

/-! ### The environment and the disk -/

structure Identity where
  endpointId : String
  endpointSecret : String
  tenantId : String
deriving DecidableEq, Repr

structure Env where
  hubBaseUrl : String := "http://localhost:81"
  enrollmentToken : String := ""
  endpointSecret : String := ""
  endpointId : String := ""
  tenantId : String := "acme-corp"
  webhookPort : Nat := 0
  hostname : String := "agent-host"
  endpointType : String := "iaas"
  credentialsFile : String := ".agent_credentials.json"
  cfTunnelDomain : Option String := none
  windows : Bool := false
  baseDir : String := "/app"
  -- the file that a path names
  resolve : String → String := id

def Env.identity (env : Env) : Identity := ⟨env.endpointId, env.endpointSecret, env.tenantId⟩

/-- The members of a credentials file that are read; a member may be missing. -/
structure Stored where
  endpointSecret : Option String
  endpointId : Option String
  tenantId : Option String
deriving DecidableEq, Repr

inductive File
  | unreadable -- also a text that is no JSON object
  | stored (data : Stored)
deriving DecidableEq, Repr

abbrev Disk := String → Option File

/-- `os.path.join` of a POSIX host. -/
def joinPath (a b : String) : String :=
  if startsWith b "/" = true then b
  else if a = "" ∨ a.toList.getLast? = some '/' then a ++ b
  else a ++ "/" ++ b

def candidatePaths (env : Env) : List String :=
  [joinPath env.baseDir env.credentialsFile, joinPath env.baseDir ".agent_credentials.json",
    joinPath (joinPath (joinPath env.baseDir "..") "deploy") ".siem_credentials.json",
    joinPath env.baseDir ".siem_credentials.json"]

def Stored.identity (data : Stored) : Option Identity :=
  (truthy data.endpointSecret).map fun secret =>
    ⟨data.endpointId.getD "", secret, data.tenantId.getD "acme-corp"⟩

def File.identity : Option File → Option Identity
  | some (.stored data) => data.identity
  | some .unreadable => none
  | none => none

/-- The identity that the environment gives, with a tenant or an endpoint to go with the secret. -/
def Env.given (env : Env) : Option Identity :=
  if env.endpointSecret ≠ "" ∧ (env.endpointId ≠ "" ∨ env.tenantId ≠ "") then some env.identity else none

/-- `load_stored_credentials`: the globals when it returns `True`. -/
def loadStoredCredentials (env : Env) (disk : Disk) : Option Identity :=
  env.given.or ((candidatePaths env).findSome? fun path => File.identity (disk (env.resolve path)))

def targetPath (env : Env) : String := joinPath env.baseDir ".agent_credentials.json"

/-- How the attempt to write the file ends: opening it for writing empties it. -/
inductive Write
  | written
  | refused
  | truncated
deriving DecidableEq, Repr

def saveCredentials (env : Env) (id : Identity) (outcome : Write) (disk : Disk) : Disk :=
  match outcome with
  | .written =>
    Function.update disk (env.resolve (targetPath env))
      (some (.stored ⟨some id.endpointSecret, some id.endpointId, some id.tenantId⟩))
  | .refused => disk
  | .truncated => Function.update disk (env.resolve (targetPath env)) (some .unreadable)

/-! ### Registration -/

/-- `s.replace(p, "")`; the counter is what is left of an occurrence. -/
def removeFrom (p : List Char) : Nat → List Char → List Char
  | _, [] => []
  | k + 1, _ :: s => removeFrom p k s
  | 0, c :: s => if (afterPrefix p (c :: s)).isSome then removeFrom p (p.length - 1) s else c :: removeFrom p 0 s

def hubDomain (env : Env) : String :=
  let host := removeFrom "https://".toList 0 (removeFrom "http://".toList 0 env.hubBaseUrl.toList)
  .ofList (host.takeWhile (· ≠ ':'))

def tunnelUrl (env : Env) (id : Identity) (net : LanDiscovery.LocalNetwork) : Option String :=
  if env.webhookPort = 0 then none
  else
    match truthy env.cfTunnelDomain with
    | some domain => some ("https://" ++ id.endpointId ++ "." ++ domain)
    | none =>
      if hubDomain env ∉ ["localhost", "127.0.0.1"] then
        some ("https://" ++ id.endpointId ++ "." ++ hubDomain env)
      else some ("http://" ++ net.localIp ++ ":" ++ toString env.webhookPort)

def deviceJson (d : LanDiscovery.Device) : Json :=
  .obj [("ip", .str d.ip), ("mac", .str d.mac), ("role", .str d.role.text)]

def registerPayload (env : Env) (id : Identity) (net : LanDiscovery.LocalNetwork) : RegisterRequest where
  hostname := env.hostname
  label := env.endpointType ++ "-" ++ env.hostname
  type := env.endpointType
  cfTunnelUrl := tunnelUrl env id net
  capabilities := .arr [.str "can_execute_docker", .str "has_agent_v1", .str ("lan_ip:" ++ net.localIp),
    .str ("gw:" ++ net.gateway)]
  agentVersion := "1.0.0"
  os := if env.windows then "windows" else "linux"
  region := "local-lan"
  ipAddress := some net.localIp
  ip := some net.localIp
  gateway := some net.gateway
  subnet := some net.subnet
  devices := some (net.devices.map deviceJson)

def Identity.bearer (id : Identity) : Option String := some ("Bearer " ++ id.endpointSecret)

def registerRequest (env : Env) (id : Identity) (net : LanDiscovery.LocalNetwork) (conn : Connection) :
    Credentials.Request :=
  .agent id.bearer (some id.tenantId) (.register (registerPayload env id net) conn)

/-! ### The process -/

/-- Where the process stands. -/
inductive Phase
  | down
  -- `register_with_hub`, with its request once it has reached the hub
  | registering (stored : Bool) (request : Option Nat)
  | acquiring
  -- the enrolment is on its way to the hub
  | enrolling
  -- the hub has enrolled, its answer is on its way
  | answered (id : Identity)
  | saving
  | polling
deriving DecidableEq, Repr

structure State where
  hub : Credentials.State
  disk : Disk
  memory : Identity
  phase : Phase
  enrolled : List Identity
  failures : Nat
  unsaved : Nat

def init : State where
  hub := Credentials.init
  disk := fun _ => none
  memory := ⟨"", "", ""⟩
  phase := .down
  enrolled := []
  failures := 0
  unsaved := 0

inductive Act
  | start
  | register (i : Nat) (net : LanDiscovery.LocalNetwork) (conn : Connection)
  -- the answer to the registration is read
  | registered
  -- the registration times out, or its connection fails
  | registerFails
  -- `minted` is the token that a hub in development gives out
  | token (minted : Option String)
  | enroll (endpointId tenantId secret : String)
  | enrollFails
  | deliver
  | lose
  | save (outcome : Write)
  | crash
  -- a statement of the hub, for this agent's requests or for others
  | hub (a : Credentials.Act)

/-- `register_with_hub` has returned `False`. -/
def State.registrationFailed (s : State) (stored : Bool) : State :=
  if stored then { s with phase := .acquiring, failures := s.failures + 1 } else { s with phase := .down }

def step (env : Env) (s : State) : Act → Option State
  | .start =>
    if s.phase ≠ .down then none
    else
      match loadStoredCredentials env s.disk with
      | some id => some { s with memory := id, phase := .registering true none }
      | none => some { s with memory := env.identity, phase := .acquiring }
  | .register i net conn =>
    match s.phase with
    | .registering stored none =>
      (Credentials.step s.hub (.arrive i (registerRequest env s.memory net conn))).map fun hub =>
        { s with hub := hub, phase := .registering stored (some i) }
    | _ => none
  | .registered =>
    match s.phase with
    | .registering stored (some i) =>
      match s.hub.requests i with
      | some (.replied (.registered _)) => some { s with phase := .polling }
      | some (.replied _) => some (s.registrationFailed stored)
      | _ => none
    | _ => none
  | .registerFails =>
    match s.phase with
    | .registering stored _ => some (s.registrationFailed stored)
    | _ => none
  | .token minted =>
    if s.phase ≠ .acquiring then none
    else if ((truthy (some env.enrollmentToken)).or (truthy minted)).isSome then
      some { s with phase := .enrolling }
    else some { s with phase := .down }
  | .enroll endpointId tenantId secret =>
    if s.phase ≠ .enrolling then none
    else
      (Credentials.step s.hub (.enroll endpointId tenantId secret)).map fun hub =>
        { s with
          hub := hub
          phase := .answered ⟨endpointId, secret, tenantId⟩
          enrolled := s.enrolled ++ [⟨endpointId, secret, tenantId⟩] }
  | .enrollFails => if s.phase = .enrolling then some { s with phase := .down } else none
  | .deliver =>
    match s.phase with
    | .answered id => some { s with memory := id, phase := .saving }
    | _ => none
  | .lose =>
    match s.phase with
    | .answered _ => some { s with phase := .down, unsaved := s.unsaved + 1 }
    | _ => none
  | .save outcome =>
    if s.phase ≠ .saving then none
    else
      some { s with
        disk := saveCredentials env s.memory outcome s.disk
        phase := .registering false none
        unsaved := if outcome = .written then s.unsaved else s.unsaved + 1 }
  | .crash =>
    match s.phase with
    | .down => none
    | .answered _ | .saving => some { s with phase := .down, unsaved := s.unsaved + 1 }
    | _ => some { s with phase := .down }
  | .hub a => (Credentials.step s.hub a).map fun hub => { s with hub := hub }

/-! ### The credentials file -/

section
variable {env : Env} {disk : Disk} {id : Identity}

theorem identity_saved (env : Env) (disk : Disk) (h : id.endpointSecret ≠ "") :
    File.identity (saveCredentials env id .written disk (env.resolve (targetPath env))) = some id := by
  simp [saveCredentials, File.identity, Stored.identity, truthy_some h]

/-- What is loaded after a save is what was saved, exactly if the environment gives no other identity
and the file that is looked at first is the one that was written, or holds no other identity. -/
theorem load_save_iff (h : id.endpointSecret ≠ "") :
    loadStoredCredentials env (saveCredentials env id .written disk) = some id ↔
      (∀ i, env.given = some i → i = id) ∧
        (env.given = none → ∀ i, File.identity (disk (env.resolve (joinPath env.baseDir env.credentialsFile))) = some i →
          env.resolve (joinPath env.baseDir env.credentialsFile) ≠ env.resolve (targetPath env) → i = id) := by
  have hsaved := identity_saved env disk h
  rw [loadStoredCredentials]
  cases hgiven : env.given with
  | some i => simp
  | none =>
    rw [Option.none_or, candidatePaths, List.findSome?_cons]
    by_cases hsame : env.resolve (joinPath env.baseDir env.credentialsFile) = env.resolve (targetPath env)
    · rw [hsame, hsaved]
      simp
    · have hother : saveCredentials env id .written disk (env.resolve (joinPath env.baseDir env.credentialsFile)) =
          disk (env.resolve (joinPath env.baseDir env.credentialsFile)) := Function.update_of_ne hsame ..
      rw [hother, List.findSome?_cons]
      cases hfirst : File.identity (disk (env.resolve (joinPath env.baseDir env.credentialsFile))) with
      | some i => simp [hsame]
      | none =>
        rw [targetPath] at hsaved
        simp [hsaved]

end

def otherIdentity : File := .stored ⟨some "s-1", some "e-1", some "acme-corp"⟩

/-- The file that `CREDENTIALS_FILE` names holds an older identity, and is looked at first. -/
theorem named_file_hides_saved :
    loadStoredCredentials { credentialsFile := "/etc/agent.json" }
      (saveCredentials { credentialsFile := "/etc/agent.json" } ⟨"e-7", "s-7", "acme-corp"⟩ .written
        fun path => if path = "/etc/agent.json" then some otherIdentity else none) ≠ some ⟨"e-7", "s-7", "acme-corp"⟩ := by
  rw [Ne, load_save_iff (by simp)]
  rintro ⟨-, hfirst⟩
  have heq := hfirst (by decide) ⟨"e-1", "s-1", "acme-corp"⟩ (by decide) (by decide)
  exact absurd heq (by decide)

end SocFabric.AgentBootstrap
