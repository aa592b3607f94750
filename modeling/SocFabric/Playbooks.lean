import SocFabric.Lib.Json
import SocFabric.Lib.Lts
import SocFabric.Lib.Slots
import SocFabric.Lib.Text
import Mathlib.Data.List.Basic

/-!
# Playbooks in the sandbox

The registry (`domain/playbooks/registry.py`), `execute_playbook_in_sandbox`
(`Infrastructure/SandBox/Runner.py`) and its two callers in `interfaces/api_routes.py`. Calls run in
threads, so that their statements interleave; `files` are the scripts in the directory for
temporary files, and `containers` records what `docker` has started. `pydantic`, `docker` and the
agent behind an `endpoint_url` are parameters: which texts are addresses, which arguments
`containers.run` knows, and what the agent answers.
-/

namespace SocFabric.Playbooks
open Text

/-! ### The registry -/

structure Playbook where
  id : String
  name : String
  trigger : String
  code : String
deriving DecidableEq, Repr

def script (answer : String) : String :=
  "import sys\n\ndef run(target):\n    return f'[SUCCESS] " ++ answer ++
    "'\n\nif __name__ == '__main__':\n    print(run(sys.argv[1]))\n"

def playbooksDb : List Playbook :=
  [⟨"pb-1", "Auto-Isolate Malware", "Malware_Detected", script "Host \x7btarget\x7d processed successfully in sandbox."⟩,
    ⟨"pb-2", "Block Malicious IP", "C2_Beacon_Detected", script "IP \x7btarget\x7d added to block-list."⟩]

def findPlaybook (playbookId : String) : Option Playbook := playbooksDb.find? (·.id = playbookId)

/-! ### The target -/

structure Library where
  -- an address as `IPvAnyAddress` prints it, if the text is one
  ipAddress : String → Option String
  -- the text of the error for a target and a justification
  invalid : String → String → String
  -- the names of the arguments that `containers.run` takes, and its error for others
  keywords : List String
  unexpected : List String → String

structure Context where
  target : String
  justification : String := "Manual execution"
deriving DecidableEq, Repr

/-- `IsolationTarget`, at the risk level `DESTRUCTIVE`. -/
def isolationTarget (lib : Library) (ctx : Context) : Except String String :=
  match lib.ipAddress ctx.target with
  | some ip =>
    if 10 ≤ ctx.justification.length ∧ ctx.justification.length ≤ 255 then .ok ip
    else .error (lib.invalid ctx.target ctx.justification)
  | none => .error (lib.invalid ctx.target ctx.justification)

/-! ### The container -/

def containerArgs (target path : String) : List (String × Json) :=
  [("image", .str "playbook-sandbox:latest"),
    ("command", .arr [.str "python", .str "/sandbox/playbook.py", .str target]),
    ("remove", .bool true),
    ("network_mode", .str "none"),
    ("mem_limit", .str "128m"),
    ("nano_cpus", .num 500000000),
    ("user", .str "playbook_user"),
    ("pids_limit", .num 50),
    ("memsw_limit", .str "128m"),
    ("cap_drop", .arr [.str "ALL"]),
    ("read_only", .bool true),
    ("security_opt", .arr [.str "no-new-privileges:true"]),
    ("tmpfs", .obj [("/tmp", .str "rw,size=16m"), ("/home/playbook_user/.cache", .str "rw,size=16m")]),
    ("volumes", .obj [(path, .obj [("bind", .str "/sandbox/playbook.py"), ("mode", .str "ro")])])]

/-- What comes of `containers.run` once its arguments are accepted. -/
inductive Outcome
  | output (text : String)
  -- the container has run, and its exit or its output is an error
  | failed (error : String)
  | notStarted (error : String)
deriving DecidableEq, Repr

inductive Docker
  -- the SDK is missing, or the client cannot be made
  | noClient (error : String)
  -- `closing` is the error of `client.close()`
  | client (outcome : Outcome) (closing : Option String)
deriving DecidableEq, Repr

/-- `containers.run` raises for arguments that it does not know. -/
def runContainer (lib : Library) (args : List (String × Json)) (outcome : Outcome) : Outcome :=
  match (args.map (·.1)).filter (· ∉ lib.keywords) with
  | [] => outcome
  | unknown => .notStarted (lib.unexpected unknown)

/-! ### The call -/

structure Result where
  status : String
  playbookId : String
  executionTime : String
  logs : List String
  actionsTaken : List String
deriving DecidableEq, Repr

inductive Reply
  | error (message : String)
  | result (r : Result)
  -- an exception that the function does not catch
  | raised
deriving DecidableEq, Repr

/-- What the `try` block adds: the status, the logs and the actions. -/
def sandboxed (lib : Library) (args : List (String × Json)) : Docker → String × List String × List String
  | .noClient error => ("failed", ["Sandbox error: " ++ error], [])
  | .client outcome closing =>
    match runContainer lib args outcome, closing with
    | .output text, none => ("success", ["Container output:\n" ++ strip pySpace text], ["Playbook executed."])
    | .output text, some error =>
      ("success", ["Container output:\n" ++ strip pySpace text, "Sandbox error: " ++ error], ["Playbook executed."])
    | .failed error, none | .notStarted error, none => ("failed", ["Sandbox error: " ++ error], [])
    | .failed _, some error | .notStarted _, some error => ("failed", ["Sandbox error: " ++ error], [])

def result (lib : Library) (playbook : Playbook) (target path time : String) (docker : Docker) : Result :=
  let tried := sandboxed lib (containerArgs target path) docker
  ⟨tried.1, playbook.id, time, ("Target entity: " ++ target) :: tried.2.1, tried.2.2⟩

def Docker.started (lib : Library) (args : List (String × Json)) : Docker → Bool
  | .noClient _ => false
  | .client outcome _ =>
    match runContainer lib args outcome with
    | .output _ | .failed _ => true
    | .notStarted _ => false

inductive Pc
  | creating (playbook : Playbook) (target : String)
  | writing (playbook : Playbook) (target path : String)
  | running (playbook : Playbook) (target path : String)
  | removing (r : Result) (path : String)
  -- `left` is a script that stays behind
  | returned (reply : Reply) (left : Option String)
deriving DecidableEq, Repr

structure Container where
  args : List (String × Json)
  script : Option String -- what is mounted at `/sandbox/playbook.py`

structure State where
  calls : Nat → Option Pc
  files : String → Option String
  containers : List Container

def init : State := ⟨fun _ => none, fun _ => none, []⟩

inductive Act
  | call (i : Nat) (playbookId : String) (ctx : Context)
  -- `NamedTemporaryFile`, with a name that no file has
  | create (i : Nat) (path : Option String)
  | write (i : Nat) (ok : Bool)
  | run (i : Nat) (docker : Docker) (time : String)
  | remove (i : Nat) (ok : Bool)

def State.goto (s : State) (i : Nat) (pc : Pc) : State := { s with calls := Function.update s.calls i (some pc) }

def step (lib : Library) (s : State) : Act → Option State
  | .call i playbookId ctx =>
    match s.calls i with
    | some _ => none
    | none =>
      match findPlaybook playbookId with
      | none => some (s.goto i (.returned (.error ("Playbook '" ++ playbookId ++ "' not found.")) none))
      | some playbook =>
        match isolationTarget lib ctx with
        | .error error => some (s.goto i (.returned (.error ("Sandbox aborted: " ++ error)) none))
        | .ok target => some (s.goto i (.creating playbook target))
  | .create i path =>
    match s.calls i with
    | some (.creating playbook target) =>
      match path with
      | none => some (s.goto i (.returned .raised none))
      | some path =>
        if s.files path = none then
          some { s.goto i (.writing playbook target path) with files := Function.update s.files path (some "") }
        else none
    | _ => none
  | .write i ok =>
    match s.calls i with
    | some (.writing playbook target path) =>
      if ok then
        some { s.goto i (.running playbook target path) with files := Function.update s.files path (some playbook.code) }
      -- the path is not yet assigned, and there is no `finally` around it
      else some (s.goto i (.returned .raised (some path)))
    | _ => none
  | .run i docker time =>
    match s.calls i with
    | some (.running playbook target path) =>
      let args := containerArgs target path
      some { s.goto i (.removing (result lib playbook target path time docker) path) with
        containers := s.containers ++ if docker.started lib args then [⟨args, s.files path⟩] else [] }
    | _ => none
  | .remove i ok =>
    match s.calls i with
    | some (.removing r path) =>
      if ok then some { s.goto i (.returned (.result r) none) with files := Function.update s.files path none }
      -- the error of `os.remove` leaves the `finally`, and the result is lost
      else some (s.goto i (.returned .raised (some path)))
    | _ => none

/-! ### The callers -/

structure PlaybookRunContext extends Context where
  endpointUrl : Option String := none

/-- `json` is what `resp.json()` returns, if anything. -/
structure Response where
  statusCode : Nat
  text : String
  json : Option Json

/-- The service token in the environment, and `execute_playbook_on_endpoint`, which may raise. -/
structure Remote where
  cfClientId : String
  cfClientSecret : String
  execute : String → PlaybookRunContext → Option Response

inductive Answer
  | httpException (statusCode : Nat) (detail : Json)
  | sandbox (r : Result)
  | remote (body : Json)

/-- The message of a dict with the status `error`. -/
def errorMessage : Json → Option Json
  | .obj members =>
    match members.lookup "status" with
    | some (.str "error") => some ((members.lookup "message").getD .null)
    | _ => none
  | _ => none

/-- An exception is a 500. -/
def internalServerError : Answer := .httpException 500 (.str "Internal Server Error")

def runRemote (remote : Remote) (playbookId : String) (ctx : PlaybookRunContext) : Answer :=
  if remote.cfClientId = "" ∨ remote.cfClientSecret = "" then
    .httpException 500
      (.str "CF_ACCESS_CLIENT_ID or CF_ACCESS_CLIENT_SECRET is not configured for remote execution.")
  else
    match remote.execute playbookId ctx with
    | none => internalServerError
    | some resp =>
      if resp.statusCode ≠ 200 then .httpException 400 (.str ("Remote Execution Failed: " ++ resp.text))
      else
        match resp.json with
        | none => internalServerError
        | some body =>
          match errorMessage body with
          | some message => .httpException 400 message
          | none => .remote body

/-- `run_playbook`; `reply` is what the sandbox replies if it is called. -/
def runPlaybook (remote : Remote) (playbookId : String) (ctx : PlaybookRunContext) (reply : Reply) : Answer :=
  if ctx.endpointUrl.getD "" ≠ "" then runRemote remote playbookId ctx
  else
    match reply with
    | .error message => .httpException 400 (.str message)
    | .result r => .sandbox r
    | .raised => internalServerError

/-- The context of `websocket_playbook_execution`. -/
def streamContext : Context := ⟨"demo_target", "WS"⟩

inductive Frame
  | output (line : String)
  | done (exitCode : Nat) (status : String) (duration : Nat)
deriving DecidableEq, Repr

def streamFrames : Reply → List Frame
  | .error _ => [.done 1 "error" 120]
  | .result r => r.logs.map .output ++ [.done (if r.status = "success" then 0 else 1) r.status 120]
  | .raised => []

/-! ### What runs -/

def Pc.path : Pc → Option String
  | .creating .. => none
  | .writing _ _ path | .running _ _ path | .removing _ path => some path
  | .returned _ left => left

def Pc.subject : Pc → Option (Playbook × String)
  | .creating playbook target | .writing playbook target _ | .running playbook target _ => some (playbook, target)
  | .removing .. | .returned .. => none

/-- The playbook is in the registry, and the target comes of a valid context. -/
def Permitted (lib : Library) (playbook : Playbook) (target : String) : Prop :=
  playbook ∈ playbooksDb ∧ ∃ ctx : Context, lib.ipAddress ctx.target = some target ∧
    10 ≤ ctx.justification.length ∧ ctx.justification.length ≤ 255

structure Inv (lib : Library) (s : State) : Prop where
  held (i : Nat) (pc : Pc) (path : String) : s.calls i = some pc → pc.path = some path →
    ∃ content, s.files path = some content ∧ ∀ playbook target, pc = .running playbook target path → content = playbook.code
  owned (path : String) : s.files path ≠ none → ∃ i pc, s.calls i = some pc ∧ pc.path = some path
  distinct (i j : Nat) (pc pc' : Pc) (path : String) : s.calls i = some pc → s.calls j = some pc' →
    pc.path = some path → pc'.path = some path → i = j
  subject (i : Nat) (pc : Pc) (playbook : Playbook) (target : String) : s.calls i = some pc →
    pc.subject = some (playbook, target) → Permitted lib playbook target
  containers (c : Container) : c ∈ s.containers →
    ∃ playbook target path, Permitted lib playbook target ∧ c = ⟨containerArgs target path, some playbook.code⟩

section
variable {lib : Library} {s s' : State} {a : Act} {i : Nat} {pc pc' : Pc}

theorem permitted_of_target {playbookId : String} {playbook : Playbook} {ctx : Context} {target : String}
    (hfind : findPlaybook playbookId = some playbook) (hok : isolationTarget lib ctx = .ok target) :
    Permitted lib playbook target := by
  refine ⟨List.mem_of_find?_eq_some hfind, ctx, ?_⟩
  unfold isolationTarget at hok
  split at hok
  · rename_i ip hip
    split at hok
    · rename_i hlen
      cases hok
      exact ⟨hip, hlen⟩
    · cases hok
  · cases hok

namespace Inv

theorem init : Inv lib init where
  held _ _ _ h := by cases h
  owned _ h := absurd rfl h
  distinct _ _ _ _ _ h := by cases h
  subject _ _ _ _ h := by cases h
  containers _ h := by cases h

/-- A call gets on without a change of the files. -/
theorem goto (hinv : Inv lib s) (hpath : (s.calls i).bind Pc.path = pc'.path)
    (hrunning : ∀ playbook target path, pc' ≠ .running playbook target path)
    (hsubject : ∀ playbook target, pc'.subject = some (playbook, target) → Permitted lib playbook target) :
    Inv lib (s.goto i pc') := by
  have hback {j : Nat} {pc : Pc} {path : String} (hj : (s.goto i pc').calls j = some pc) (hp : pc.path = some path) :
      ∃ pc₀, s.calls j = some pc₀ ∧ pc₀.path = some path := by
    rcases Slots.update_cases hj with ⟨rfl, heq⟩ | ⟨-, hold⟩
    · cases heq
      exact Option.bind_eq_some_iff.mp (hpath.trans hp)
    · exact ⟨pc, hold, hp⟩
  refine ⟨fun j pc path hj hp => ?_, fun path hfile => ?_, fun j k pc pc₁ path hj hk hp hp₁ => ?_,
    fun j pc playbook target hj hsub => ?_, hinv.containers⟩
  · obtain ⟨pc₀, hj₀, hp₀⟩ := hback hj hp
    obtain ⟨content, hfile, hcode⟩ := hinv.held j pc₀ path hj₀ hp₀
    refine ⟨content, hfile, fun playbook target hrun => ?_⟩
    rcases Slots.update_cases hj with ⟨-, heq⟩ | ⟨-, hold⟩
    · cases heq
      exact absurd hrun (hrunning playbook target path)
    · obtain rfl : pc₀ = pc := Option.some.inj (hj₀.symm.trans hold)
      exact hcode playbook target hrun
  · obtain ⟨j, pc, hj, hp⟩ := hinv.owned path hfile
    by_cases hji : j = i
    · subst hji
      exact ⟨j, pc', Function.update_self .., by rw [← hpath, hj]; exact hp⟩
    · exact ⟨j, pc, (Function.update_of_ne hji ..).trans hj, hp⟩
  · obtain ⟨pc₀, hj₀, hp₀⟩ := hback hj hp
    obtain ⟨pc₂, hk₂, hp₂⟩ := hback hk hp₁
    exact hinv.distinct j k pc₀ pc₂ path hj₀ hk₂ hp₀ hp₂
  · rcases Slots.update_cases hj with ⟨-, heq⟩ | ⟨-, hold⟩
    · cases heq
      exact hsubject playbook target hsub
    · exact hinv.subject j pc playbook target hold hsub

/-- A call gets on and writes or removes its script, a file that no other call has. -/
theorem gotoFile (hinv : Inv lib s) {path : String} {content : Option String}
    (hmine : ∀ j pc, s.calls j = some pc → pc.path = some path → j = i)
    (hold : ∀ other, (s.calls i).bind Pc.path = some other → other = path)
    (hpath : pc'.path = content.map fun _ => path)
    (hrunning : ∀ playbook target q, pc' = .running playbook target q → content = some playbook.code)
    (hsubject : ∀ playbook target, pc'.subject = some (playbook, target) → Permitted lib playbook target) :
    Inv lib { s.goto i pc' with files := Function.update s.files path content } := by
  have hother {j : Nat} {pc : Pc} {q : String} (hj : s.calls j = some pc) (hp : pc.path = some q) (hji : j ≠ i) :
      q ≠ path := fun heq => hji (hmine j pc hj (heq ▸ hp))
  refine ⟨fun j pc q hj hp => ?_, fun q hfile => ?_, fun j k pc pc₁ q hj hk hp hp₁ => ?_,
    fun j pc playbook target hj hsub => ?_, hinv.containers⟩
  · rcases Slots.update_cases hj with ⟨-, heq⟩ | ⟨hji, hj⟩
    · cases heq
      obtain ⟨text, htext, rfl⟩ := Option.map_eq_some_iff.mp (hpath.symm.trans hp)
      refine ⟨text, by rw [htext]; exact Function.update_self .., fun playbook target hrun => ?_⟩
      exact Option.some.inj (htext.symm.trans (hrunning playbook target _ hrun))
    · obtain ⟨text, htext, hcode⟩ := hinv.held j pc q hj hp
      exact ⟨text, (Function.update_of_ne (hother hj hp hji) ..).trans htext, hcode⟩
  · by_cases hq : q = path
    · subst hq
      have hsome : content ≠ none := by simpa using hfile
      obtain ⟨text, htext⟩ := Option.ne_none_iff_exists'.mp hsome
      exact ⟨i, pc', Function.update_self .., by rw [hpath, htext]; rfl⟩
    · obtain ⟨j, pc, hj, hp⟩ := hinv.owned q (by simpa [hq] using hfile)
      have hji : j ≠ i := fun hji => hq (hold q (by rw [← hji, hj]; exact hp))
      exact ⟨j, pc, (Function.update_of_ne hji ..).trans hj, hp⟩
  · have hown {k : Nat} {pc : Pc} (hk : s.calls k = some pc) (hp : pc.path = some q) (hki : k ≠ i)
        (hq : pc'.path = some q) : False := by
      obtain ⟨_, -, rfl⟩ := Option.map_eq_some_iff.mp (hpath.symm.trans hq)
      exact hother hk hp hki rfl
    rcases Slots.update_cases hj with ⟨rfl, heq⟩ | ⟨hji, hj⟩
    · cases heq
      rcases Slots.update_cases hk with ⟨rfl, -⟩ | ⟨hki, hk⟩
      · rfl
      · exact (hown hk hp₁ hki hp).elim
    · have hji' := hown hj hp hji
      rcases Slots.update_cases hk with ⟨-, heq⟩ | ⟨-, hk⟩
      · cases heq
        exact (hji' hp₁).elim
      · exact hinv.distinct j k pc pc₁ q hj hk hp hp₁
  · rcases Slots.update_cases hj with ⟨-, heq⟩ | ⟨-, hj⟩
    · cases heq
      exact hsubject playbook target hsub
    · exact hinv.subject j pc playbook target hj hsub

theorem of_step (hinv : Inv lib s) (hs : step lib s a = some s') : Inv lib s' := by
  cases a <;> simp only [step] at hs
  case call i playbookId ctx =>
    split at hs
    · cases hs
    · rename_i hi
      split at hs
      · cases hs
        exact hinv.goto (by rw [hi]; rfl) nofun nofun
      · rename_i playbook hfind
        split at hs <;> cases hs
        · exact hinv.goto (by rw [hi]; rfl) nofun nofun
        · rename_i target hok
          refine hinv.goto (by rw [hi]; rfl) nofun fun _ _ hsub => ?_
          cases hsub
          exact permitted_of_target hfind hok
  case create i path =>
    split at hs
    · rename_i playbook target hi
      split at hs
      · cases hs
        exact hinv.goto (by rw [hi]; rfl) nofun nofun
      · rename_i path
        split at hs <;> cases hs
        rename_i hnew
        refine hinv.gotoFile (fun j pc hj hp => ?_) ?_ rfl nofun fun _ _ hsub => ?_
        · obtain ⟨_, hfile, -⟩ := hinv.held j pc path hj hp
          rw [hnew] at hfile
          cases hfile
        · rw [hi]
          nofun
        · exact hinv.subject i _ _ _ hi hsub
    · cases hs
  case write i ok =>
    split at hs
    · rename_i playbook target path hi
      split at hs <;> cases hs
      · refine hinv.gotoFile (fun j pc hj hp => hinv.distinct j i pc _ path hj hi hp rfl) ?_ rfl ?_ fun _ _ hsub => ?_
        · rw [hi]
          exact fun other h => (Option.some.inj h).symm
        · intro _ _ _ hrun
          cases hrun
          rfl
        · exact hinv.subject i _ _ _ hi hsub
      · exact hinv.goto (by rw [hi]; rfl) nofun nofun
    · cases hs
  case run i docker time =>
    split at hs
    · rename_i playbook target path hi
      cases hs
      have hgoto : Inv lib (s.goto i (.removing (result lib playbook target path time docker) path)) :=
        hinv.goto (by rw [hi]; rfl) nofun nofun
      refine ⟨hgoto.held, hgoto.owned, hgoto.distinct, hgoto.subject, fun c hc => ?_⟩
      rcases List.mem_append.mp hc with hc | hc
      · exact hinv.containers c hc
      · split at hc
        · obtain ⟨content, hfile, hcode⟩ := hinv.held i _ path hi rfl
          refine ⟨playbook, target, path, hinv.subject i _ _ _ hi rfl, ?_⟩
          rw [List.mem_singleton.mp hc, hfile, hcode playbook target rfl]
        · cases hc
    · cases hs
  case remove i ok =>
    split at hs
    · rename_i r path hi
      split at hs <;> cases hs
      · refine hinv.gotoFile (fun j pc hj hp => hinv.distinct j i pc _ path hj hi hp rfl) ?_ rfl nofun nofun
        rw [hi]
        exact fun other h => (Option.some.inj h).symm
      · exact hinv.goto (by rw [hi]; rfl) nofun nofun
    · cases hs

end Inv

end

/-- However calls interleave, a container gets the code of a registered playbook and a valid address,
and a script is on disk exactly while a call has it, or after its writing or its removal failed. -/
theorem sandbox_contained (lib : Library) (s : State) (h : Lts.Reach (step lib) Lts.free init s) :
    (∀ path, s.files path ≠ none ↔ ∃ i pc, s.calls i = some pc ∧ pc.path = some path) ∧
      ∀ c ∈ s.containers, ∃ playbook target path, Permitted lib playbook target ∧
        c = ⟨containerArgs target path, some playbook.code⟩ := by
  have hinv : Inv lib s := h.invariant .init fun _ hs hinv => hinv.of_step hs
  refine ⟨fun path => ⟨hinv.owned path, ?_⟩, hinv.containers⟩
  rintro ⟨i, pc, hi, hp⟩
  obtain ⟨content, hfile, -⟩ := hinv.held i pc path hi hp
  rw [hfile]
  nofun

/-- The arguments of `containers.run` in `docker-py` that the call uses, under their names there. -/
def dockerPy : Library where
  ipAddress text := if text = "10.0.0.9" then some text else none
  invalid _ _ := "value is not a valid IPv4 or IPv6 address"
  keywords := ["image", "command", "remove", "network_mode", "mem_limit", "memswap_limit", "nano_cpus", "user",
    "pids_limit", "cap_drop", "read_only", "security_opt", "tmpfs", "volumes"]
  unexpected names := "run() got an unexpected keyword argument '" ++ ", ".intercalate names ++ "'"

def isolateTarget : List Act :=
  [.call 0 "pb-1" { target := "10.0.0.9" }, .create 0 (some "/tmp/a.py"), .write 0 true,
    .run 0 (.client (.output "[SUCCESS]") none) "t", .remove 0 true]

/-- A client that takes the misspelt argument as well. -/
def lenientDocker : Library := { dockerPy with keywords := "memsw_limit" :: dockerPy.keywords }

theorem script_on_disk_until_removed :
    ∃ s, Lts.run (step lenientDocker) Lts.free init (isolateTarget.take 4) = some s ∧
      s.files "/tmp/a.py" ≠ none ∧ s.containers.length = 1 ∧ ∀ c ∈ s.containers, c.script ≠ none := by
  refine ⟨_, rfl, ?_⟩
  obtain ⟨hfiles, hcontainers⟩ :=
    sandbox_contained lenientDocker _ (Lts.Reach.of_run (isolateTarget.take 4) rfl)
  refine ⟨(hfiles "/tmp/a.py").mpr ⟨0, _, rfl, rfl⟩, by decide, fun c hc => ?_⟩
  obtain ⟨_, _, _, -, rfl⟩ := hcontainers c hc
  simp

/-! ### What `docker` accepts -/

def Pc.result : Pc → Option Result
  | .removing r _ | .returned (.result r) _ => some r
  | _ => none

section
variable {lib : Library} {s s' : State} {a : Act}

theorem not_started (h : "memsw_limit" ∉ lib.keywords) (target path : String) (outcome : Outcome) :
    ∃ error, runContainer lib (containerArgs target path) outcome = .notStarted error := by
  have hmem : "memsw_limit" ∈ ((containerArgs target path).map (·.1)).filter (· ∉ lib.keywords) := by
    rw [List.mem_filter]
    exact ⟨by simp [containerArgs], decide_eq_true h⟩
  unfold runContainer
  split
  · rename_i hnil
    rw [hnil] at hmem
    cases hmem
  · exact ⟨_, rfl⟩

theorem result_failed (h : "memsw_limit" ∉ lib.keywords) (playbook : Playbook) (target path time : String)
    (docker : Docker) : (result lib playbook target path time docker).status = "failed" ∧
      docker.started lib (containerArgs target path) = false := by
  cases docker with
  | noClient error => exact ⟨rfl, rfl⟩
  | client outcome closing =>
    obtain ⟨error, hrun⟩ := not_started h target path outcome
    simp only [result, sandboxed, Docker.started, hrun]
    cases closing with
    | none => simp
    | some closing => simp

/-- No call has a result of its own but a failure. -/
structure Idle (s : State) : Prop where
  containers : s.containers = []
  failed (i : Nat) (pc : Pc) (r : Result) : s.calls i = some pc → pc.result = some r → r.status = "failed"

theorem Idle.goto (hidle : Idle s) {i : Nat} {pc : Pc} (hcalls : s'.calls = Function.update s.calls i (some pc))
    (hcontainers : s'.containers = s.containers) (hpc : ∀ r, pc.result = some r → r.status = "failed") : Idle s' where
  containers := hcontainers.trans hidle.containers
  failed j pc' r hj hr := by
    rw [hcalls] at hj
    rcases Slots.update_cases hj with ⟨-, heq⟩ | ⟨-, hj⟩
    · cases heq
      exact hpc r hr
    · exact hidle.failed j pc' r hj hr

theorem Idle.of_step (h : "memsw_limit" ∉ lib.keywords) (hidle : Idle s) (hs : step lib s a = some s') : Idle s' := by
  cases a <;> simp only [step] at hs
  case call i playbookId ctx =>
    split at hs
    · cases hs
    · split at hs
      · cases hs
        exact hidle.goto rfl rfl nofun
      · split at hs <;> cases hs
        · exact hidle.goto rfl rfl nofun
        · exact hidle.goto rfl rfl nofun
  case create i path =>
    split at hs
    · split at hs
      · cases hs
        exact hidle.goto rfl rfl nofun
      · split at hs <;> cases hs
        exact hidle.goto rfl rfl nofun
    · cases hs
  case write i ok =>
    split at hs
    · split at hs <;> cases hs
      · exact hidle.goto rfl rfl nofun
      · exact hidle.goto rfl rfl nofun
    · cases hs
  case run i docker time =>
    split at hs
    · rename_i playbook target path hi
      cases hs
      obtain ⟨hfailed, hstarted⟩ := result_failed h playbook target path time docker
      refine hidle.goto rfl (by simp [hstarted]) fun r hr => ?_
      cases hr
      exact hfailed
    · cases hs
  case remove i ok =>
    split at hs
    · rename_i r path hi
      split at hs <;> cases hs
      · refine hidle.goto rfl rfl fun r' hr => ?_
        cases hr
        exact hidle.failed i _ r hi rfl
      · exact hidle.goto rfl rfl nofun
    · cases hs

end

theorem runPlaybook_local {remote : Remote} {playbookId : String} {ctx : PlaybookRunContext} {reply : Reply}
    (h : ctx.endpointUrl.getD "" = "") : runPlaybook remote playbookId ctx reply =
      match reply with
      | .error message => .httpException 400 (.str message)
      | .result r => .sandbox r
      | .raised => internalServerError :=
  if_neg (not_not.mpr h)

/-- The argument `memsw_limit` is misspelt: while `docker` does not know it, no container is ever
started, no run without an `endpoint_url` succeeds, and no stream ends with the exit code 0. -/
theorem sandbox_never_runs (lib : Library) (h : "memsw_limit" ∉ lib.keywords) (s : State)
    (hs : Lts.Reach (step lib) Lts.free init s) :
    s.containers = [] ∧ ∀ i reply left, s.calls i = some (.returned reply left) →
      (∀ remote playbookId (ctx : PlaybookRunContext), ctx.endpointUrl.getD "" = "" →
        (∃ code detail, runPlaybook remote playbookId ctx reply = .httpException code detail) ∨
          ∃ r, runPlaybook remote playbookId ctx reply = .sandbox r ∧ r.status = "failed") ∧
        ∀ status duration, .done 0 status duration ∉ streamFrames reply := by
  have hidle : Idle s :=
    hs.invariant ⟨rfl, fun _ _ _ hi => by cases hi⟩ fun _ hstep hidle => hidle.of_step h hstep
  refine ⟨hidle.containers, fun i reply left hi => ?_⟩
  cases reply with
  | error message =>
    exact ⟨fun remote playbookId ctx hctx => .inl ⟨_, _, runPlaybook_local hctx⟩, by simp [streamFrames]⟩
  | raised =>
    exact ⟨fun remote playbookId ctx hctx => .inl ⟨_, _, runPlaybook_local hctx⟩, by simp [streamFrames]⟩
  | result r =>
    have hfailed : r.status = "failed" := hidle.failed i _ r hi rfl
    refine ⟨fun remote playbookId ctx hctx => .inr ⟨r, runPlaybook_local hctx, hfailed⟩,
      fun status duration hmem => ?_⟩
    simp [streamFrames, hfailed] at hmem

theorem valid_target_not_run :
    ∃ s, Lts.run (step dockerPy) Lts.free init isolateTarget = some s ∧ s.containers = [] ∧
      ∃ r, s.calls 0 = some (.returned (.result r) none) ∧ r.status = "failed" ∧
        runPlaybook ⟨"", "", fun _ _ => none⟩ "pb-1" { target := "10.0.0.9" } (.result r) = .sandbox r := by
  refine ⟨_, rfl, ?_, _, rfl, ?_⟩
  · exact (sandbox_never_runs dockerPy (by decide) _ (Lts.Reach.of_run isolateTarget rfl)).1
  · have hreturned := (sandbox_never_runs dockerPy (by decide) _ (Lts.Reach.of_run isolateTarget rfl)).2 0 _ none rfl
    rcases hreturned.1 ⟨"", "", fun _ _ => none⟩ "pb-1" { target := "10.0.0.9" } rfl with ⟨_, _, h⟩ | ⟨r, h, hfailed⟩
    · cases h
    · cases h
      exact ⟨hfailed, rfl⟩

end SocFabric.Playbooks
