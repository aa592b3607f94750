import Mathlib.Data.List.Induction
import SocFabric.Lib.Mealy
import SocFabric.Lib.Slots
import SocFabric.Lib.Text
import SocFabric.TenantContext

/-!
# The in-memory enrolment of spokes (`interfaces/api_routes.py`)

`generate_enrollment_token` and the older `enroll_endpoint`, over the module's dictionaries. Neither
handler awaits, so a run is a list of calls; a call carries the clock readings and random texts it
draws. A token enables one enrolment, but the registry key may be the caller's: `legacy_enrollment`
is about the runs whose enrolments name no registered endpoint.
-/

namespace SocFabric
namespace LegacyEnrollment
open Text

structure EndpointRegistration where
  id : Option String := none
  hostname : String
  label : String
  type : String
  cfTunnelUrl : Option String := none
  cfClientId : Option String := none
  cfClientSecret : Option String := none
  capabilities : List String
  agentVersion : String
  os : String
  region : String
deriving DecidableEq, Repr

/-- A value of `ENDPOINT_REGISTRY`; `registration` is what of `reg.dict()` is not overwritten.
Instants are microseconds. -/
structure Endpoint where
  registration : EndpointRegistration
  id : String
  cfClientId : String
  cfClientSecret : String
  lastCheckinAt : Int
  status : String
deriving DecidableEq, Repr

structure Registry where
  endpointRegistry : String → Option Endpoint
  enrollmentTokens : String → Option Int

def Registry.init : Registry := ⟨fun _ => none, fun _ => none⟩

structure GenerateRequest where
  -- `uuid.uuid4().hex`
  token : String
  now : Int

structure EnrollRequest where
  reg : EndpointRegistration
  -- the header `X-Enrollment-Token`
  token : Option String
  now : Int
  -- the first eight digits of two `uuid4`s, and two whole ones for the secret
  clientHex : String
  endpointHex : String
  secretHex : String × String
  encrypt : String → String
  checkinAt : Int

inductive Call
  | generate (r : GenerateRequest)
  | enroll (r : EnrollRequest)

inductive Reply
  | token (token : String) (expiresIn : Nat)
  | enrolled (endpointId cfClientId cfClientSecret : String)
  | error (e : HttpError)
deriving DecidableEq, Repr

/-- `timedelta(minutes=15)`. -/
def lifetime : Int := 15 * 60 * 1000000

def generateEnrollmentToken (s : Registry) (r : GenerateRequest) : Registry × Reply :=
  ({ s with enrollmentTokens := Function.update s.enrollmentTokens r.token (some (r.now + lifetime)) },
    .token r.token 900)

def EnrollRequest.endpointId (r : EnrollRequest) : String := pyOr r.reg.id ("ep-" ++ r.endpointHex)

def EnrollRequest.cfClientId (r : EnrollRequest) : String := r.reg.hostname ++ "-cf-id-" ++ r.clientHex

def EnrollRequest.cfClientSecret (r : EnrollRequest) : String := r.secretHex.1 ++ r.secretHex.2

def EnrollRequest.endpoint (r : EnrollRequest) : Endpoint where
  registration := { r.reg with id := none, cfClientId := none, cfClientSecret := none }
  id := r.endpointId
  cfClientId := r.cfClientId
  cfClientSecret := r.encrypt r.cfClientSecret
  lastCheckinAt := r.checkinAt
  status := "healthy"

def enrollEndpoint (s : Registry) (r : EnrollRequest) : Registry × Reply :=
  match truthy r.token with
  | none => (s, .error ⟨403, "Invalid or missing enrollment token"⟩)
  | some token =>
    match s.enrollmentTokens token with
    | none => (s, .error ⟨403, "Invalid or missing enrollment token"⟩)
    | some expiry =>
      let s := { s with enrollmentTokens := Function.update s.enrollmentTokens token none }
      if expiry < r.now then (s, .error ⟨403, "Enrollment token expired"⟩)
      else
        ({ s with endpointRegistry := Function.update s.endpointRegistry r.endpointId (some r.endpoint) },
          .enrolled r.endpointId r.cfClientId r.cfClientSecret)

def step (s : Registry) : Call → Registry × Reply
  | .generate r => generateEnrollmentToken s r
  | .enroll r => enrollEndpoint s r

def after (calls : List Call) : Registry := calls.foldl (fun s c => (step s c).1) .init

/-- The calls of a run with their replies. -/
def history (calls : List Call) : List (Call × Reply) := Mealy.outputs step .init calls

/-! ### What a run is to keep -/

/-- The call issues `token`, or enrols with it. -/
def Concerns (token : String) : Call × Reply → Prop
  | (.generate r, _) => r.token = token
  | (.enroll r, .enrolled _ _ _) => r.token = some token
  | (.enroll _, _) => False

/-- The last that happened to `token` is that it was issued, at most its lifetime before `now`. -/
def Unspent (past : List (Call × Reply)) (token : String) (now : Int) : Prop :=
  ∃ before r reply later, past = before ++ (.generate r, reply) :: later ∧ r.token = token ∧
    now ≤ r.now + lifetime ∧ ∀ x ∈ later, ¬ Concerns token x

structure KeepsEnrollment (past : List Call) (r : EnrollRequest) : Prop where
  singleUse : ∀ a b c, (enrollEndpoint (after past) r).2 = .enrolled a b c →
    ∃ token, r.token = some token ∧ Unspent (history past) token r.now
  frame : ∀ a b c, (enrollEndpoint (after past) r).2 = .enrolled a b c →
    ∀ k e, (after past).endpointRegistry k = some e →
      (enrollEndpoint (after past) r).1.endpointRegistry k = some e

/-- If the token of the request is stored and has not expired, the endpoint that it names is not
registered. -/
def NamesUnregistered (s : Registry) (r : EnrollRequest) : Prop :=
  ∀ token expiry, truthy r.token = some token → s.enrollmentTokens token = some expiry → r.now ≤ expiry →
    s.endpointRegistry r.endpointId = none

/-! ### One call -/

section
variable {s : Registry} {r : EnrollRequest}

/-- A request is turned away, finds its token expired, or enrols. -/
theorem enrollEndpoint_cases (s : Registry) (r : EnrollRequest) :
    (∃ e, enrollEndpoint s r = (s, .error e)) ∨
      ∃ token expiry, truthy r.token = some token ∧ s.enrollmentTokens token = some expiry ∧
        ((∃ e, enrollEndpoint s r =
            ({ s with enrollmentTokens := Function.update s.enrollmentTokens token none }, .error e)) ∨
          r.now ≤ expiry ∧ enrollEndpoint s r =
            (⟨Function.update s.endpointRegistry r.endpointId (some r.endpoint),
              Function.update s.enrollmentTokens token none⟩,
              .enrolled r.endpointId r.cfClientId r.cfClientSecret)) := by
  unfold enrollEndpoint
  cases hr : truthy r.token with
  | none => exact .inl ⟨_, rfl⟩
  | some token =>
    cases ht : s.enrollmentTokens token with
    | none => exact .inl ⟨⟨403, "Invalid or missing enrollment token"⟩, by simp only [ht]⟩
    | some expiry =>
      refine .inr ⟨token, expiry, rfl, ht, ?_⟩
      by_cases hexp : expiry < r.now
      · exact .inl ⟨⟨403, "Enrollment token expired"⟩, by simp only [ht, if_pos hexp]⟩
      · exact .inr ⟨Int.not_lt.mp hexp, by simp only [ht, if_neg hexp]⟩

theorem enrolled_cases {a b c : String} (h : (enrollEndpoint s r).2 = .enrolled a b c) :
    ∃ token expiry, truthy r.token = some token ∧ s.enrollmentTokens token = some expiry ∧ r.now ≤ expiry ∧
      (enrollEndpoint s r).1.endpointRegistry =
        Function.update s.endpointRegistry r.endpointId (some r.endpoint) := by
  rcases enrollEndpoint_cases s r with ⟨e, he⟩ | ⟨token, expiry, htok, hexp, ⟨e, he⟩ | ⟨hnow, heq⟩⟩
  · rw [he] at h
    cases h
  · rw [he] at h
    cases h
  · exact ⟨token, expiry, htok, hexp, hnow, by rw [heq]⟩

theorem enrolled_frame {a b c : String} (hr : NamesUnregistered s r)
    (h : (enrollEndpoint s r).2 = .enrolled a b c) {k : String} {e : Endpoint} (hk : s.endpointRegistry k = some e) :
    (enrollEndpoint s r).1.endpointRegistry k = some e := by
  obtain ⟨token, expiry, htok, hexp, hnow, hreg⟩ := enrolled_cases h
  have hfree := hr token expiry htok hexp hnow
  rw [hreg, Function.update_of_ne, hk]
  rintro rfl
  rw [hfree] at hk
  cases hk

end

/-! ### A run -/

theorem after_concat (past : List Call) (c : Call) : after (past ++ [c]) = (step (after past) c).1 := by
  rw [after, List.foldl_concat]
  rfl

theorem history_concat (past : List Call) (c : Call) :
    history (past ++ [c]) = history past ++ [(c, (step (after past) c).2)] :=
  Mealy.outputs_concat Registry.init past c

/-- What is stored after a token was deleted is another one, and was stored before. -/
theorem of_deleted {tokens : String → Option Int} {token token' : String} {expiry : Int}
    (h : Function.update tokens token' none token = some expiry) : token ≠ token' ∧ tokens token = some expiry := by
  rcases Slots.update_cases h with ⟨-, hnone⟩ | hkept
  · cases hnone
  · exact hkept

/-- A call that does not concern a token leaves it unspent. -/
theorem Unspent.concat {past : List (Call × Reply)} {token : String} {now : Int} (h : Unspent past token now)
    {x : Call × Reply} (hx : ¬ Concerns token x) : Unspent (past ++ [x]) token now := by
  obtain ⟨before, r, reply, later, rfl, htok, hnow, hlater⟩ := h
  refine ⟨before, r, reply, later ++ [x], by simp, htok, hnow, ?_⟩
  intro y hy
  rcases List.mem_append.mp hy with hy | hy
  · exact hlater y hy
  · rw [List.mem_singleton.mp hy]
    exact hx

/-- A stored token is unspent until the instant it is stored with. -/
theorem unspent_of_stored {past : List Call} {token : String} {expiry : Int}
    (h : (after past).enrollmentTokens token = some expiry) : Unspent (history past) token expiry := by
  induction past using List.reverseRecOn generalizing expiry with
  | nil => cases h
  | append_singleton past c ih =>
    rw [after_concat] at h
    rw [history_concat]
    cases c with
    | generate g =>
      change Function.update (after past).enrollmentTokens g.token (some (g.now + lifetime)) token = some expiry at h
      rcases Slots.update_cases h with ⟨hg, hnew⟩ | ⟨hg, h⟩
      · cases hnew
        exact ⟨history past, g, _, [], rfl, hg.symm, Int.le_refl _, fun x hx => by cases hx⟩
      · exact (ih h).concat fun hc => hg hc.symm
    | enroll r =>
      change (enrollEndpoint (after past) r).1.enrollmentTokens token = some expiry at h
      change Unspent (history past ++ [(.enroll r, (enrollEndpoint (after past) r).2)]) token expiry
      rcases enrollEndpoint_cases (after past) r with
        ⟨e, he⟩ | ⟨token', expiry', htok', hexp', ⟨e, he⟩ | ⟨hnow, heq⟩⟩
      · rw [he] at h ⊢
        exact (ih h).concat fun hc => hc
      · rw [he] at h ⊢
        exact (ih (of_deleted h).2).concat fun hc => hc
      · rw [heq] at h ⊢
        obtain ⟨hne, hstored⟩ := of_deleted h
        refine (ih hstored).concat fun hc => hne ?_
        have hsome : r.token = some token := hc
        rw [truthy_eq_some htok'] at hsome
        exact (Option.some.inj hsome).symm

theorem Unspent.mono {past : List (Call × Reply)} {token : String} {now now' : Int}
    (h : Unspent past token now) (hle : now' ≤ now) : Unspent past token now' := by
  obtain ⟨before, r, reply, later, hpast, htok, hnow, hlater⟩ := h
  exact ⟨before, r, reply, later, hpast, htok, Int.le_trans hle hnow, hlater⟩

/-- Whatever it names, an enrolment is the first with its token, which has not expired. -/
theorem enrolled_unspent {past : List Call} {r : EnrollRequest} {a b c : String}
    (h : (enrollEndpoint (after past) r).2 = .enrolled a b c) :
    ∃ token, r.token = some token ∧ Unspent (history past) token r.now := by
  obtain ⟨token, expiry, htok, hexp, hnow, -⟩ := enrolled_cases h
  exact ⟨token, truthy_eq_some htok, (unspent_of_stored hexp).mono hnow⟩

/-- In a run whose enrolments name no endpoint that is registered then, every enrolment spends a
token of its own and leaves the registered endpoints alone. -/
theorem legacy_enrollment (calls : List Call)
    (h : ∀ past r rest, calls = past ++ .enroll r :: rest → NamesUnregistered (after past) r) :
    ∀ past r rest, calls = past ++ .enroll r :: rest → KeepsEnrollment past r := by
  intro past r rest hcalls
  refine ⟨fun a b c hr => enrolled_unspent hr, ?_⟩
  intro a b c hr k e hk
  exact enrolled_frame (h past r rest hcalls) hr hk

def spoke (id : Option String) : EndpointRegistration where
  id := id
  hostname := "pi"
  label := "Pi"
  type := "linux"
  capabilities := []
  agentVersion := "1.0"
  os := "linux"
  region := "lab"

/-- An enrolment of `spoke id` with `token`, at the epoch, which draws `hex`. -/
def enrollSpoke (id : Option String) (token hex : String) : EnrollRequest where
  reg := spoke id
  token := some token
  now := 0
  clientHex := hex
  endpointHex := hex
  secretHex := (hex, hex)
  encrypt := fun s => s
  checkinAt := 0

/-- A spoke that leaves its id to the backend. -/
def firstEnrollment : List Call := [.generate ⟨"t1", 0⟩, .enroll (enrollSpoke none "t1" "a")]

theorem first_enrollment_kept :
    (after firstEnrollment).endpointRegistry "ep-a" = some (enrollSpoke none "t1" "a").endpoint ∧
      KeepsEnrollment [.generate ⟨"t1", 0⟩] (enrollSpoke none "t1" "a") := by
  refine ⟨by decide, legacy_enrollment firstEnrollment ?_ _ _ [] rfl⟩
  intro past r rest hcalls
  match past, hcalls with
  | [], hcalls => cases hcalls
  | [_], hcalls =>
    cases hcalls
    intro _ _ _ _ _
    rfl
  | _ :: _ :: past, hcalls => simp [firstEnrollment] at hcalls

/-- A second registration under the id of the first replaces its credentials. -/
theorem registered_spoke_overwritten :
    ¬ ∀ calls past r rest, calls = past ++ .enroll r :: rest → KeepsEnrollment past r := by
  intro h
  have hkeeps := h _ (firstEnrollment ++ [.generate ⟨"t2", 0⟩]) (enrollSpoke (some "ep-a") "t2" "b") [] rfl
  have hframe := hkeeps.frame "ep-a" "pi-cf-id-b" "bb" (by decide) "ep-a" (enrollSpoke none "t1" "a").endpoint
    (by decide)
  revert hframe
  decide

end LegacyEnrollment
end SocFabric
