import SocFabric.Credentials
import SocFabric.Lib.Lts
import SocFabric.SignIn
import SocFabric.TenantIsolation

/-!
# A tab of the console (`soc-frontend`, `interfaces/auth.py`, `interfaces/api_routes.py`)

Three gates answer what a tab sends. `get_session` is content with any cookie, `verify_internal_auth`
wants one that verifies, and `get_tenant_context` a tenant besides, which for a session of this
backend only nginx can name, from the host. The interceptor of `apiClient` takes a 401 of any gate
for a missing session and leaves the page for `/login`, and a 403 for `/unauthorized`. Requests in
flight are answered in any order.
-/

namespace SocFabric
namespace ConsoleTab
open SignIn Text

/-! ### The gates -/

def labelChar (c : Char) : Bool := c.isAlphanum || c == '-'

/-- The `tenant_id` that the dashboard's server of nginx takes from a host: its first label, if
another one follows. -/
def edgeTenant (host : String) : Option String :=
  let label := host.toList.takeWhile labelChar
  match host.toList.dropWhile labelChar with
  | '.' :: _ :: _ => if label = [] then none else some (.ofList label)
  | _ => none

inductive Gate
  | session
  | internal
  | tenant
deriving DecidableEq, Repr

/-- The element that `App` renders for a path of the console. -/
inductive Page
  | commandCenter
  | investigationDashboard
  | playbookSandbox
  | overview
  | executive
  | compliance
  | alertRules
  | iocSearch
  | threatFeeds
  | hostManagement
  | isolationControls
  | edrLogs
  | activeIncidents
  | closedIncidents
  | warRoom
  | assetInventory
  | networkMap
  | vulnerabilities
  | marketplace
  | settings
  | profile
  | notFound
deriving DecidableEq, Repr

/-- The deployment and the browser: `pageOf` is React Router's matching of a path, and `accessToken`
the cookie. -/
structure Site where
  jwt : Jwt
  env : Env
  host : String
  accessToken : Option String
  pageOf : String → Page

/-- What arrives of a request at the backend: nginx passes no empty header on. -/
def Site.request (site : Site) : Request where
  headers := ((edgeTenant site.host).map fun tenant => ("x-tenant-id", tenant)).toList
  cookies := (site.accessToken.map fun token => ("access_token", token)).toList

def getSession (r : Request) : Except HttpError Json :=
  match (truthy (r.cookie "access_token")).or (truthy (Credentials.bearerSecret (r.header "authorization"))) with
  | none => .error ⟨401, "No active session"⟩
  | some _ => .ok (.obj [("user", .obj [("email", .str "analyst@soc.internal"), ("role", .str "agent_orchestrator")])])

/-- The router's dependency comes before that of the route. -/
def Site.answer (site : Site) : Gate → Except HttpError Unit
  | .session => (getSession site.request).map fun _ => ()
  | .internal => verifyInternalAuth site.jwt site.env site.request
  | .tenant => do
    verifyInternalAuth site.jwt site.env site.request
    let _ ← getTenantContext site.jwt site.env site.request

/-! ### The tab -/

inductive Purpose
  | verify -- by `ProtectedRoute`
  | check -- by the sign-in page
  | load -- by a page
  | poll -- by `usePolling`
deriving DecidableEq, Repr

structure Call where
  purpose : Purpose
  gate : Gate
deriving DecidableEq, Repr

/-- What a page asks for through `apiClient` when it is shown. -/
def Page.calls : Page → List Call
  | .commandCenter => [⟨.load, .internal⟩, ⟨.poll, .tenant⟩] -- `/alerts`, `/metrics/overview`
  | .overview => [⟨.load, .tenant⟩, ⟨.load, .internal⟩] -- `/metrics/overview`, `/alerts`
  | .networkMap => [⟨.load, .internal⟩, ⟨.load, .internal⟩]
  | .profile => [⟨.load, .session⟩]
  | .iocSearch | .warRoom | .settings | .notFound => []
  | _ => [⟨.load, .internal⟩]

inductive View
  | verifying (path : String)
  | page (path : String)
  | login (redirect : String)
  | unauthorized
deriving DecidableEq, Repr

/-- `timer` is the call that `usePolling` repeats when its interval is over. -/
structure Tab where
  view : View
  flight : List Call := []
  timer : Option Call := none
deriving DecidableEq, Repr

def verifyCall : Call := ⟨.verify, .session⟩

def checkCall : Call := ⟨.check, .session⟩

/-- A protected path is entered from outside of the console. -/
def opened (path : String) : Tab := { view := .verifying path, flight := [verifyCall] }

/-- The sign-in page after a new load of the application. -/
def loginPage (url : String) : Tab := { view := .login (redirectOf url), flight := [checkCall] }

/-- `window.location.href` of the interceptor, which drops what is in flight. -/
def refused (s : Tab) (rest : List Call) (statusCode : Nat) : Tab :=
  if statusCode = 401 then
    match s.view with
    | .verifying path | .page path => loginPage (loginUrl path)
    | .login _ => { s with flight := rest }
    | .unauthorized => loginPage (loginUrl "/unauthorized")
  else if statusCode = 403 then { view := .unauthorized }
  else { s with flight := rest }

def served (site : Site) (s : Tab) (rest : List Call) (call : Call) : Tab :=
  match call.purpose, s.view with
  | .verify, .verifying path => { view := .page path, flight := rest ++ (site.pageOf path).calls }
  | .check, .login redirect => { view := .verifying redirect, flight := rest ++ [verifyCall] }
  | .poll, _ => { s with flight := rest, timer := some call }
  | _, _ => { s with flight := rest }

/-- A call without an answer of these gates: another status, or no connection. -/
def failed (s : Tab) (rest : List Call) (call : Call) : Tab :=
  match call.purpose, s.view with
  | .verify, .verifying path => { view := .login (redirectOf (loginUrl path)), flight := rest ++ [checkCall] }
  | .poll, _ => { s with flight := rest, timer := some call }
  | _, _ => { s with flight := rest }

inductive Act
  | answer (i : Nat)
  | fail (i : Nat)
  | tick
  -- a page asks again: live tail, a retry, an event of `/ws/endpoints`
  | reload (call : Call)
  | visit (path : String)
deriving DecidableEq, Repr

def step (site : Site) (s : Tab) : Act → Option Tab
  | .answer i =>
    (s.flight[i]?).map fun call =>
      match site.answer call.gate with
      | .ok _ => served site s (s.flight.eraseIdx i) call
      | .error e => refused s (s.flight.eraseIdx i) e.statusCode
  | .fail i => (s.flight[i]?).map fun call => failed s (s.flight.eraseIdx i) call
  | .tick => s.timer.map fun call => { s with flight := s.flight ++ [call], timer := none }
  | .reload call =>
    match s.view with
    | .page path =>
      if call ∈ (site.pageOf path).calls ∧ call.purpose = .load then some { s with flight := s.flight ++ [call] } else none
    | _ => none
  | .visit path =>
    match s.view with
    | .page _ => -- leaving a page aborts its polls
      some { view := .page path, flight := s.flight.filter (·.purpose ≠ .poll) ++ (site.pageOf path).calls }
    | .unauthorized =>
      if path = "/" then some { view := .verifying path, flight := s.flight ++ [verifyCall] } else none
    | _ => none

/-- Every call is answered, and the user visits the paths of `V`. -/
def Within (V : Set String) (_ : Tab) : Act → Prop
  | .fail _ => False
  | .visit path => path ∈ V
  | _ => True

/-- Every call is answered, and the user stays away. -/
def Alone (_ : Tab) : Act → Prop
  | .fail _ | .visit _ => False
  | _ => True

def View.inside (V : Set String) : View → Prop
  | .verifying path | .page path => path ∈ V
  | _ => False

/-! ### What the gates say -/

variable {site : Site} {V : Set String} {s t : Tab} {a : Act}

theorem statusCode_internal {e : HttpError} (he : verifyInternalAuth site.jwt site.env site.request = .error e) :
    e.statusCode = 401 := by
  unfold verifyInternalAuth at he
  split_ifs at he
  cases he
  rfl

theorem statusCode_session {e : HttpError} (he : site.answer .session = .error e) : e.statusCode = 401 := by
  simp only [Site.answer, getSession] at he
  split at he <;> cases he
  rfl

theorem statusCode_tenant {e : HttpError} (hinternal : site.answer .internal = .ok ())
    (he : site.answer .tenant = .error e) : e.statusCode = 403 := by
  have hverify : verifyInternalAuth site.jwt site.env site.request = .ok () := hinternal
  simp only [Site.answer, hverify, bind, Except.bind] at he
  split at he
  · rename_i e' hcontext
    cases he
    unfold getTenantContext at hcontext
    split at hcontext
    · cases hcontext
    · split at hcontext
      · cases hcontext
      · split_ifs at hcontext
        · split at hcontext <;> cases hcontext
          rfl
        · cases hcontext
          rfl
  · cases he

theorem statusCode_of_error {gate : Gate} {e : HttpError} (h : site.answer gate = .error e) :
    e.statusCode = 401 ∨ e.statusCode = 403 := by
  cases gate with
  | session => exact .inl (statusCode_session h)
  | internal => exact .inl (statusCode_internal h)
  | tenant =>
    cases hverify : verifyInternalAuth site.jwt site.env site.request with
    | ok u => exact .inr (statusCode_tenant hverify h)
    | error e' =>
      rw [Site.answer, hverify] at h
      cases h
      exact .inl (statusCode_internal hverify)

theorem header_request : site.request.header "x-tenant-id" = edgeTenant site.host := by
  unfold Site.request Request.header
  cases edgeTenant site.host <;> simp

theorem hasInternalKey_request : hasInternalKey site.env site.request = false := by
  have hnone : site.request.header "x-internal-service-key" = none := by
    unfold Site.request Request.header
    cases edgeTenant site.host <;> simp
  rw [hasInternalKey, hnone]
  rfl

theorem truthy_edgeTenant (host : String) : truthy (edgeTenant host) = edgeTenant host := by
  cases h : edgeTenant host with
  | none => rfl
  | some tenant =>
    refine truthy_some ?_
    unfold edgeTenant at h
    simp only at h
    split at h
    · split_ifs at h with hlabel
      cases h
      rwa [Ne, String.ofList_eq_empty_iff]
    · cases h

/-- Nothing of a session of this backend names a tenant: only the host does. -/
theorem answer_tenant_of_minted {claims : Claims} (hclaims : sessionClaims site.jwt site.env site.request = some claims)
    (hminted : Minted claims) : site.answer .tenant = .ok () ↔ (edgeTenant site.host).isSome := by
  have hinternal : verifyInternalAuth site.jwt site.env site.request = .ok () := by simp [verifyInternalAuth, hclaims]
  have hclaim : tenantClaim site.jwt site.env site.request = none := by
    rw [tenantClaim, hclaims]
    exact hminted.no_tenant
  simp only [Site.answer, hinternal, getTenantContext, hclaim, hasInternalKey_request, header_request,
    truthy_edgeTenant, hclaims, bind, Except.bind]
  cases edgeTenant site.host with
  | none => simp
  | some tenant => exact iff_of_true rfl rfl

theorem no_authorization : site.request.header "authorization" = none := by
  unfold Site.request Request.header
  cases edgeTenant site.host <;> simp

theorem cookie_request : site.request.cookie "access_token" = site.accessToken := by
  unfold Site.request Request.cookie
  cases site.accessToken <;> simp

theorem answer_session_iff : site.answer .session = .ok () ↔ (truthy site.accessToken).isSome := by
  simp only [Site.answer, getSession, no_authorization, cookie_request]
  cases truthy site.accessToken with
  | none => exact iff_of_false (by simp [Credentials.bearerSecret, truthy, Except.map]) (by simp)
  | some token => exact iff_of_true rfl rfl

theorem answer_session_of_claims {claims : Claims}
    (hclaims : sessionClaims site.jwt site.env site.request = some claims) :
    site.answer .session = .ok () := by
  rw [answer_session_iff]
  cases htoken : truthy site.accessToken with
  | some token => rfl
  | none =>
    have hnoToken : sessionToken site.request = none := by
      rw [sessionToken, cookie_request, htoken, no_authorization]
      rfl
    rw [sessionClaims, hnoToken] at hclaims
    cases hclaims

/-! ### Staying -/

theorem not_inside_refused {rest : List Call} {n : Nat} (hs : s.view.inside V) (hn : n = 401 ∨ n = 403) :
    ¬ (refused s rest n).view.inside V := by
  rcases hn with rfl | rfl
  · cases hview : s.view with
    | verifying path | page path => simp [refused, hview, loginPage, View.inside]
    | login redirect | unauthorized => simp [hview, View.inside] at hs
  · simp [refused, View.inside]

/-- All that is in flight will be served. -/
structure Settled (site : Site) (V : Set String) (s : Tab) : Prop where
  inside : s.view.inside V
  flight (call : Call) : call ∈ s.flight → site.answer call.gate = .ok ()
  timer (call : Call) : s.timer = some call → site.answer call.gate = .ok ()

/-- The gates serve whatever the pages of `V` ask for. -/
def Serves (site : Site) (V : Set String) : Prop :=
  site.answer .session = .ok () ∧ ∀ path ∈ V, ∀ call ∈ (site.pageOf path).calls, site.answer call.gate = .ok ()

theorem settled_opened {asked : String} (hserves : Serves site V) (hasked : asked ∈ V) :
    Settled site V (opened asked) where
  inside := hasked
  flight call hcall := by
    rw [List.mem_singleton.mp hcall]
    exact hserves.1
  timer call hcall := by cases hcall

theorem Settled.answer (h : Settled site V s) (hserves : Serves site V) {i : Nat} {call : Call}
    (hcall : s.flight[i]? = some call) : Settled site V (served site s (s.flight.eraseIdx i) call) := by
  have hrest : ∀ x ∈ s.flight.eraseIdx i, site.answer x.gate = .ok () := fun x hx =>
    h.flight x (List.mem_of_mem_eraseIdx hx)
  have hok := h.flight call (List.mem_of_getElem? hcall)
  have hdone : Settled site V { s with flight := s.flight.eraseIdx i } := ⟨h.inside, hrest, h.timer⟩
  unfold served
  split
  · rename_i path hpurpose hview
    have hpath : path ∈ V := by simpa [hview, View.inside] using h.inside
    refine ⟨hpath, fun x hx => ?_, nofun⟩
    rcases List.mem_append.mp hx with hx | hx
    · exact hrest x hx
    · exact hserves.2 path hpath x hx
  · rename_i redirect hpurpose hview
    have hinside := h.inside
    simp [hview, View.inside] at hinside
  · refine ⟨h.inside, hrest, fun x hx => ?_⟩
    cases hx
    exact hok
  · exact hdone

theorem settled_step (hserves : Serves site V) (ha : Within V s a) (hs : step site s a = some t)
    (h : Settled site V s) : Settled site V t := by
  cases a with
  | answer i =>
    obtain ⟨call, hcall, rfl⟩ := Option.map_eq_some_iff.mp hs
    rw [h.flight call (List.mem_of_getElem? hcall)]
    exact h.answer hserves hcall
  | fail i => cases ha
  | tick =>
    obtain ⟨call, hcall, rfl⟩ := Option.map_eq_some_iff.mp hs
    refine ⟨h.inside, fun x hx => ?_, nofun⟩
    rcases List.mem_append.mp hx with hx | hx
    · exact h.flight x hx
    · rw [List.mem_singleton.mp hx]
      exact h.timer call hcall
  | reload call =>
    simp only [step] at hs
    split at hs
    · rename_i path hview
      split_ifs at hs with hmem
      cases hs
      have hpath : path ∈ V := by simpa [hview, View.inside] using h.inside
      refine ⟨h.inside, fun x hx => ?_, h.timer⟩
      rcases List.mem_append.mp hx with hx | hx
      · exact h.flight x hx
      · rw [List.mem_singleton.mp hx]
        exact hserves.2 path hpath call hmem.1
    · cases hs
  | visit path =>
    simp only [step] at hs
    split at hs
    · cases hs
      refine ⟨ha, fun x hx => ?_, nofun⟩
      rcases List.mem_append.mp hx with hx | hx
      · exact h.flight x (List.mem_of_mem_filter hx)
      · exact hserves.2 path ha x hx
    · rename_i hview
      have hinside := h.inside
      simp [hview, View.inside] at hinside
    · cases hs

theorem reach_page {asked : String} (guard : Tab → Act → Prop) (hguard : guard (opened asked) (.answer 0))
    (hsession : site.answer .session = .ok ()) :
    Lts.Reach (step site) guard (opened asked) { view := .page asked, flight := (site.pageOf asked).calls } := by
  refine Lts.Reach.refl.tail hguard ?_
  simp [step, opened, verifyCall, hsession, served]

/-- Whatever the user visits, a tab stays on the pages of `V` exactly if the gates serve what these
pages ask for. -/
theorem stays_iff {asked : String} (hasked : asked ∈ V) :
    (∀ s, Lts.Reach (step site) (Within V) (opened asked) s → s.view.inside V) ↔ Serves site V := by
  constructor
  · intro h
    have hleaves {s : Tab} (hreach : Lts.Reach (step site) (Within V) (opened asked) s) {i : Nat} {call : Call}
        (hcall : s.flight[i]? = some call) : site.answer call.gate = .ok () := by
      cases hanswer : site.answer call.gate with
      | ok u => rfl
      | error e =>
        have hnext : step site s (.answer i) = some (refused s (s.flight.eraseIdx i) e.statusCode) := by
          simp [step, hcall, hanswer]
        exact absurd (h _ (hreach.tail (a := .answer i) trivial hnext)) (not_inside_refused (h s hreach) (statusCode_of_error hanswer))
    have hsession : site.answer .session = .ok () := hleaves (i := 0) .refl rfl
    refine ⟨hsession, fun path hpath call hcall => ?_⟩
    have hpage : Lts.Reach (step site) (Within V) (opened asked)
        { view := .page asked, flight := (site.pageOf asked).calls } :=
      reach_page (Within V) trivial hsession
    have hvisit : Lts.Reach (step site) (Within V) (opened asked)
        { view := .page path, flight := (site.pageOf asked).calls.filter (·.purpose ≠ .poll) ++ (site.pageOf path).calls } :=
      hpage.tail (a := .visit path) hpath rfl
    obtain ⟨i, hi⟩ := List.mem_iff_getElem?.mp
      (List.mem_append_right ((site.pageOf asked).calls.filter (·.purpose ≠ .poll)) hcall)
    exact hleaves hvisit hi
  · intro hserves s hs
    exact (hs.invariant (I := Settled site V) (settled_opened hserves hasked) fun ha hstep =>
      settled_step hserves ha hstep).inside

theorem tenant_mem_calls_iff (page : Page) :
    (∃ call ∈ page.calls, call.gate = .tenant) ↔ page = .commandCenter ∨ page = .overview := by
  cases page <;> simp [Page.calls]

/-- With a session that the backend has signed, a tab stays on the pages it visits exactly if the
first label of the host names a tenant, or none of these pages shows the metrics. -/
theorem minted_session_stays_iff (site : Site) (V : Set String) (asked : String) (hasked : asked ∈ V)
    (claims : Claims) (hclaims : sessionClaims site.jwt site.env site.request = some claims) (hminted : Minted claims) :
    (∀ s, Lts.Reach (step site) (Within V) (opened asked) s → s.view.inside V) ↔
      (edgeTenant site.host).isSome ∨ ∀ path ∈ V, site.pageOf path ≠ .commandCenter ∧ site.pageOf path ≠ .overview := by
  have hsession := answer_session_of_claims hclaims
  have hinternal : site.answer .internal = .ok () := by simp [Site.answer, verifyInternalAuth, hclaims]
  rw [stays_iff hasked, Serves, ← answer_tenant_of_minted hclaims hminted]
  constructor
  · rintro ⟨-, hcalls⟩
    by_cases htenant : site.answer .tenant = .ok ()
    · exact .inl htenant
    · refine .inr fun path hpath => ?_
      have hnone : ¬ ∃ call ∈ (site.pageOf path).calls, call.gate = .tenant := by
        rintro ⟨call, hcall, hgate⟩
        exact htenant (hgate ▸ hcalls path hpath call hcall)
      rwa [tenant_mem_calls_iff, not_or] at hnone
  · intro hor
    refine ⟨hsession, fun path hpath call hcall => ?_⟩
    cases hgate : call.gate with
    | session => exact hsession
    | internal => exact hinternal
    | tenant =>
      rcases hor with htenant | hpages
      · exact htenant
      · have hpage := (tenant_mem_calls_iff (site.pageOf path)).mp ⟨call, hcall, hgate⟩
        exact absurd hpage (not_or.mpr (hpages path hpath))

/-- A signed-in analyst in production, at the address of the console. -/
def analystSite (host : String) : Site where
  jwt := sessionJwt (googleClaims "analyst@acme.com" "tier_1_analyst" (.str "Analyst") (.str "") 28800)
  env := production
  host := host
  accessToken := some "session"
  pageOf path := if path = "/" then .commandCenter else .notFound

theorem local_command_center_left :
    (¬ ∀ s, Lts.Reach (step (analystSite "localhost")) (Within {"/"}) (opened "/") s → s.view.inside {"/"}) ∧
      ∀ s, Lts.Reach (step (analystSite "soc.acme.internal")) (Within {"/"}) (opened "/") s → s.view.inside {"/"} := by
  constructor
  · rw [minted_session_stays_iff (analystSite "localhost") {"/"} "/" rfl _ rfl (.google ..), not_or]
    refine ⟨by decide, fun h => (h "/" rfl).1 rfl⟩
  · exact (minted_session_stays_iff (analystSite "soc.acme.internal") {"/"} "/" rfl _ rfl (.google ..)).mpr
      (.inl (by decide))

/-! ### Rest -/

theorem answer_getElem? {i : Nat} {call : Call} (hcall : s.flight[i]? = some call) :
    step site s (.answer i) = some (match site.answer call.gate with
      | .ok _ => served site s (s.flight.eraseIdx i) call
      | .error e => refused s (s.flight.eraseIdx i) e.statusCode) := by
  rw [step, hcall]
  rfl

/-- A tab outside of the pages to which nothing is due. -/
structure Idle (s : Tab) : Prop where
  flight : s.flight = []
  timer : s.timer = none
  outside (path : String) : s.view ≠ .page path

theorem Idle.rests (h : Idle s) (hr : Lts.Reach (step site) Alone s t) : t = s := by
  refine hr.invariant (I := fun t => t = s) rfl ?_
  rintro t u a ha hs rfl
  cases a with
  | answer i => simp [step, h.flight] at hs
  | fail i => cases ha
  | tick => simp [step, h.timer] at hs
  | reload call =>
    simp only [step] at hs
    split at hs
    · rename_i path hview
      exact absurd hview (h.outside path)
    · cases hs
  | visit path => cases ha

/-- A page whose calls are all served is not left. -/
theorem Settled.rests {path : String} (hserves : Serves site {path}) (h : Settled site {path} s)
    (hpage : s.view = .page path) (hr : Lts.Reach (step site) Alone s t) : t.view = s.view := by
  have hkept : Settled site {path} t ∧ t.view = .page path := by
    refine hr.invariant (I := fun t => Settled site {path} t ∧ t.view = .page path) ⟨h, hpage⟩ ?_
    rintro t u a ha hs ⟨ht, hview⟩
    have hwithin : Within {path} t a := by
      cases a with
      | fail i | visit path => cases ha
      | answer i | tick | reload call => trivial
    refine ⟨settled_step hserves hwithin hs ht, ?_⟩
    cases a with
    | answer i =>
      obtain ⟨call, hcall, rfl⟩ := Option.map_eq_some_iff.mp hs
      rw [ht.flight call (List.mem_of_getElem? hcall)]
      obtain ⟨purpose, gate⟩ := call
      cases purpose <;> simp [served, hview]
    | fail i | visit path => cases ha
    | tick =>
      obtain ⟨call, hcall, rfl⟩ := Option.map_eq_some_iff.mp hs
      exact hview
    | reload call =>
      simp only [step, hview] at hs
      split_ifs at hs
      cases hs
      rfl
  rw [hkept.2, hpage]

/-- The three views between which a refused session is sent around, each with the call that moves it
on. -/
inductive Looping (asked : String) (s : Tab) : Prop
  | verifying : s.view = .verifying asked → verifyCall ∈ s.flight → Looping asked s
  | page (call : Call) : s.view = .page asked → call ∈ s.flight → call.gate ≠ .session → Looping asked s
  | login : s.view = .login asked → checkCall ∈ s.flight → Looping asked s

/-- The session is there for `get_session`, and for nothing else. -/
structure Refused (site : Site) : Prop where
  session : site.answer .session = .ok ()
  internal : site.answer .internal ≠ .ok ()

theorem Refused.error (h : Refused site) {gate : Gate} (hgate : gate ≠ .session) :
    ∃ e, site.answer gate = .error e ∧ e.statusCode = 401 := by
  have hinternal : site.answer .internal = verifyInternalAuth site.jwt site.env site.request := rfl
  cases hverify : verifyInternalAuth site.jwt site.env site.request with
  | ok u => exact absurd (hinternal.trans hverify) h.internal
  | error e =>
    refine ⟨e, ?_, statusCode_internal hverify⟩
    cases gate with
    | session => exact absurd rfl hgate
    | internal => exact hverify
    | tenant =>
      rw [Site.answer, hverify]
      rfl

theorem mem_eraseIdx {l : List Call} {i : Nat} {x call : Call} (hx : x ∈ l) (hcall : l[i]? = some call) (hne : x ≠ call) :
    x ∈ l.eraseIdx i := by
  obtain ⟨j, hj⟩ := List.mem_iff_getElem?.mp hx
  refine List.mem_eraseIdx_iff_getElem?.mpr ⟨j, ?_, hj⟩
  rintro rfl
  exact hne (Option.some.inj (hj.symm.trans hcall))

section
variable {asked : String}

theorem looping_loginPage (hasked : asked ≠ "") : Looping asked (loginPage (loginUrl asked)) := by
  refine .login ?_ List.mem_cons_self
  rw [loginPage, redirectOf_loginUrl hasked]

/-- The answer of the call that moves a view on. -/
theorem Looping.next (h : Looping asked s) (hasked : asked ≠ "") (hrefused : Refused site)
    (hcalls : ∃ call ∈ (site.pageOf asked).calls, call.gate ≠ .session) :
    ∃ i t, step site s (.answer i) = some t ∧ Looping asked t ∧ t.view ≠ s.view := by
  cases h with
  | verifying hview hcall =>
    obtain ⟨i, hi⟩ := List.mem_iff_getElem?.mp hcall
    obtain ⟨call, hmem, hgate⟩ := hcalls
    refine ⟨i, { view := .page asked, flight := s.flight.eraseIdx i ++ (site.pageOf asked).calls }, ?_, ?_, ?_⟩
    · simp [answer_getElem? hi, verifyCall, hrefused.session, served, hview]
    · exact .page call rfl (List.mem_append_right _ hmem) hgate
    · simp [hview]
  | page call hview hcall hgate =>
    obtain ⟨i, hi⟩ := List.mem_iff_getElem?.mp hcall
    obtain ⟨e, he, hstatus⟩ := hrefused.error hgate
    refine ⟨i, loginPage (loginUrl asked), ?_, looping_loginPage hasked, ?_⟩
    · simp [answer_getElem? hi, he, refused, hstatus, hview]
    · simp [hview, loginPage]
  | login hview hcall =>
    obtain ⟨i, hi⟩ := List.mem_iff_getElem?.mp hcall
    refine ⟨i, { view := .verifying asked, flight := s.flight.eraseIdx i ++ [verifyCall] }, ?_, ?_, ?_⟩
    · simp [answer_getElem? hi, checkCall, hrefused.session, served, hview]
    · exact .verifying rfl (List.mem_append_right _ List.mem_cons_self)
    · simp [hview]

/-- What is added to the flight does not hide what is due. -/
theorem Looping.mono (h : Looping asked s) (hview : t.view = s.view) (hflight : ∀ call ∈ s.flight, call ∈ t.flight) :
    Looping asked t := by
  cases h with
  | verifying hs hcall => exact .verifying (hview.trans hs) (hflight _ hcall)
  | page call hs hcall hgate => exact .page call (hview.trans hs) (hflight call hcall) hgate
  | login hs hcall => exact .login (hview.trans hs) (hflight _ hcall)

theorem Looping.served (h : Looping asked s) (hcalls : ∃ call ∈ (site.pageOf asked).calls, call.gate ≠ .session)
    {i : Nat} {call : Call} (hcall : s.flight[i]? = some call) (hgate : call.gate = .session) :
    Looping asked (served site s (s.flight.eraseIdx i) call) := by
  obtain ⟨purpose, gate⟩ := call
  cases h with
  | verifying hview hmem =>
    cases purpose with
    | verify =>
      obtain ⟨call, hmem, hgate⟩ := hcalls
      simp only [ConsoleTab.served, hview]
      exact .page call rfl (List.mem_append_right _ hmem) hgate
    | check | load | poll =>
      have hkept := mem_eraseIdx hmem hcall (by simp [verifyCall])
      simp only [ConsoleTab.served, hview]
      exact .verifying rfl hkept
  | page other hview hmem hother =>
    have hkept : other ∈ s.flight.eraseIdx i := by
      refine mem_eraseIdx hmem hcall ?_
      rintro rfl
      exact hother hgate
    cases purpose <;> (simp only [ConsoleTab.served, hview]; exact .page other rfl hkept hother)
  | login hview hmem =>
    cases purpose with
    | check =>
      simp only [ConsoleTab.served, hview]
      exact .verifying rfl (List.mem_append_right _ List.mem_cons_self)
    | verify | load | poll =>
      have hkept := mem_eraseIdx hmem hcall (by simp [checkCall])
      simp only [ConsoleTab.served, hview]
      exact .login rfl hkept

theorem Looping.refused (h : Looping asked s) (hasked : asked ≠ "") {i : Nat} {call : Call}
    (hcall : s.flight[i]? = some call) (hgate : call.gate ≠ .session) :
    Looping asked (refused s (s.flight.eraseIdx i) 401) := by
  cases h with
  | verifying hview hmem | page other hview hmem hother =>
    simp only [ConsoleTab.refused, hview]
    exact looping_loginPage hasked
  | login hview hmem =>
    have hkept : checkCall ∈ s.flight.eraseIdx i := by
      refine mem_eraseIdx hmem hcall ?_
      rintro rfl
      exact hgate rfl
    simp only [ConsoleTab.refused, hview]
    exact .login rfl hkept

theorem Looping.answer (h : Looping asked s) (hasked : asked ≠ "") (hrefused : Refused site)
    (hcalls : ∃ call ∈ (site.pageOf asked).calls, call.gate ≠ .session) {i : Nat} {call : Call}
    (hcall : s.flight[i]? = some call) (hs : step site s (.answer i) = some t) : Looping asked t := by
  rw [answer_getElem? hcall] at hs
  by_cases hgate : call.gate = .session
  · rw [hgate, hrefused.session] at hs
    cases hs
    exact h.served hcalls hcall hgate
  · obtain ⟨e, he, hstatus⟩ := hrefused.error hgate
    rw [he] at hs
    cases hs
    show Looping asked (ConsoleTab.refused s (s.flight.eraseIdx i) e.statusCode)
    rw [hstatus]
    exact h.refused hasked hcall hgate

theorem looping_step (hasked : asked ≠ "") (hrefused : Refused site)
    (hcalls : ∃ call ∈ (site.pageOf asked).calls, call.gate ≠ .session) (ha : Alone s a) (hs : step site s a = some t)
    (h : Looping asked s) : Looping asked t := by
  cases a with
  | answer i =>
    obtain ⟨call, hcall, -⟩ := Option.map_eq_some_iff.mp hs
    exact h.answer hasked hrefused hcalls hcall hs
  | fail i | visit path => cases ha
  | tick =>
    obtain ⟨call, hcall, rfl⟩ := Option.map_eq_some_iff.mp hs
    exact h.mono rfl fun x hx => List.mem_append_left _ hx
  | reload call =>
    simp only [step] at hs
    split at hs
    · split_ifs at hs
      cases hs
      exact h.mono rfl fun x hx => List.mem_append_left _ hx
    · cases hs

/-- A tab that nobody touches comes to no rest exactly if the session is refused behind
`get_session`: then it goes from the page to `/login` and back for ever. -/
theorem never_rests_iff (site : Site) (asked : String) (hasked : asked ≠ "")
    (hcalls : ∃ call ∈ (site.pageOf asked).calls, call.gate ≠ .session) :
    (∀ s, Lts.Reach (step site) Alone (opened asked) s → ∃ t, Lts.Reach (step site) Alone s t ∧ t.view ≠ s.view) ↔
      site.answer .session = .ok () ∧ site.answer .internal ≠ .ok () := by
  constructor
  · intro h
    have hrests {s : Tab} (hreach : Lts.Reach (step site) Alone (opened asked) s)
        (hkept : ∀ t, Lts.Reach (step site) Alone s t → t.view = s.view) : False := by
      obtain ⟨t, ht, hview⟩ := h s hreach
      exact hview (hkept t ht)
    have hidle {s : Tab} (hreach : Lts.Reach (step site) Alone (opened asked) s) (hs : Idle s) : False :=
      hrests hreach fun t ht => congrArg Tab.view (hs.rests ht)
    have hsession : site.answer .session = .ok () := by
      by_contra hne
      cases hanswer : site.answer .session with
      | ok u => exact hne hanswer
      | error e =>
        have hstatus := statusCode_session hanswer
        have hlogin : Lts.Reach (step site) Alone (opened asked) (loginPage (loginUrl asked)) := by
          refine Lts.Reach.refl.tail (a := .answer 0) trivial ?_
          simp [step, opened, verifyCall, hanswer, hstatus, refused]
        have hstays : Lts.Reach (step site) Alone (opened asked) { view := .login (redirectOf (loginUrl asked)) } := by
          refine hlogin.tail (a := .answer 0) trivial ?_
          simp [step, loginPage, checkCall, hanswer, hstatus, refused]
        exact hidle hstays ⟨rfl, rfl, nofun⟩
    refine ⟨hsession, fun hinternal => ?_⟩
    have hpage : Lts.Reach (step site) Alone (opened asked)
        { view := .page asked, flight := (site.pageOf asked).calls } :=
      reach_page Alone trivial hsession
    by_cases hserved : ∀ call ∈ (site.pageOf asked).calls, site.answer call.gate = .ok ()
    · have hserves : Serves site {asked} := ⟨hsession, fun path hpath => by rw [hpath]; exact hserved⟩
      have hsettled : Settled site {asked} { view := .page asked, flight := (site.pageOf asked).calls } :=
        ⟨rfl, hserved, nofun⟩
      exact hrests hpage fun t ht => hsettled.rests hserves rfl ht
    · -- the tenant is missing
      obtain ⟨call, hcall, hfails⟩ : ∃ call ∈ (site.pageOf asked).calls, site.answer call.gate ≠ .ok () := by
        simpa using hserved
      obtain ⟨i, hi⟩ := List.mem_iff_getElem?.mp hcall
      cases hanswer : site.answer call.gate with
      | ok u => exact hfails hanswer
      | error e =>
        have hgate : call.gate = .tenant := by
          cases hgate : call.gate with
          | session => exact absurd (hgate ▸ hsession) hfails
          | internal => exact absurd (hgate ▸ hinternal) hfails
          | tenant => rfl
        have hstatus := statusCode_tenant hinternal (hgate ▸ hanswer)
        have hthrown : Lts.Reach (step site) Alone (opened asked) { view := .unauthorized } := by
          refine hpage.tail (a := .answer i) trivial ?_
          simp [step, hi, hanswer, hstatus, refused]
        exact hidle hthrown ⟨rfl, rfl, nofun⟩
  · rintro ⟨hsession, hinternal⟩ s hs
    have hrefused : Refused site := ⟨hsession, hinternal⟩
    have hloop : Looping asked s := by
      refine hs.invariant (I := Looping asked) (.verifying rfl List.mem_cons_self) fun ha hstep =>
        looping_step hasked hrefused hcalls ha hstep
    obtain ⟨i, t, hnext, -, hview⟩ := hloop.next hasked hrefused hcalls
    exact ⟨t, Lts.Reach.refl.tail (a := .answer i) trivial hnext, hview⟩

/-- A cookie that no key verifies any more. -/
def staleSite : Site := { analystSite "soc.acme.internal" with accessToken := some "stale" }

theorem stale_session_never_rests :
    ¬ ∃ s, Lts.Reach (step staleSite) Alone (opened "/") s ∧ ∀ t, Lts.Reach (step staleSite) Alone s t → t.view = s.view := by
  rintro ⟨s, hs, hrests⟩
  have hmoves := (never_rests_iff staleSite "/" (by decide) ⟨⟨.load, .internal⟩, by decide, by decide⟩).mpr
    ⟨by decide, by decide⟩
  obtain ⟨t, ht, hview⟩ := hmoves s hs
  exact hview (hrests t ht)

end

end ConsoleTab
end SocFabric
