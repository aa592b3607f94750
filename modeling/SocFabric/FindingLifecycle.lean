import Mathlib.Data.List.Induction
import Mathlib.Logic.Function.Basic
import Mathlib.Logic.Relation
import SocFabric.Lib.Json
import SocFabric.TenantContext

/-!
# The life of a security finding (`interfaces/api_routes.py`, `postgres_migration_v2_security_findings.sql`)

`update_finding_status` documents the transitions open → pending_approval → actioned |
false_positive | closed, checks that the requested status is one of the five, and writes it whatever
the stored one is. A run is a list of requests, each with the database's answer and clock;
`lifecycle_iff` says which runs keep to the documented transitions.
-/

namespace SocFabric
namespace Findings

inductive FindingStatus
  | opened
  | pendingApproval
  | actioned
  | falsePositive
  | closed
deriving DecidableEq, Repr

def FindingStatus.text : FindingStatus → String
  | opened => "open"
  | pendingApproval => "pending_approval"
  | actioned => "actioned"
  | falsePositive => "false_positive"
  | closed => "closed"

def allowed : List FindingStatus := [.opened, .pendingApproval, .actioned, .falsePositive, .closed]

def ofText (s : String) : Option FindingStatus := allowed.find? (·.text = s)

/-- The columns of `security_findings` that an update touches; a trigger keeps `updatedAt`. -/
structure Finding where
  status : FindingStatus
  updatedAt : Int
deriving DecidableEq, Repr

/-- `security_findings` by primary key. -/
abbrev Table (U : Type) := U → Option Finding

/-- What the route takes from Python and the driver: `str` of a decoded value, `str` of the set of
allowed statuses, and the conversion of a text to a UUID, or its error. -/
structure RouteLib (U : Type) where
  str : Json → String
  allowedText : String
  uuid : String → Except String U

/-- A request; `body` is `none` if it is no JSON, and `dbError` is what the database raises
otherwise, if anything. -/
structure PatchRequest where
  findingId : String
  body : Option Json
  dbError : Option String := none
  now : Int := 0

def internalError : HttpError := ⟨500, "Internal Server Error"⟩

variable {U : Type} [DecidableEq U] (lib : RouteLib U)

/-- `body.get("status")` and the check of it. A body that is no object has no `get`, and a list or
an object is not hashable. -/
def requestedStatus (body : Option Json) : Except HttpError FindingStatus :=
  match body with
  | some (.obj members) =>
    let newStatus := (members.lookup "status").getD .null
    match newStatus with
    | .arr _ | .obj _ => .error internalError
    | .str s =>
      match ofText s with
      | some status => .ok status
      | none => .error ⟨400, "Invalid status: " ++ s ++ ". Allowed: " ++ lib.allowedText⟩
    | v => .error ⟨400, "Invalid status: " ++ lib.str v ++ ". Allowed: " ++ lib.allowedText⟩
  | _ => .error internalError

/-- `UPDATE security_findings SET status = $1 WHERE finding_id = $2::UUID`, and the number of
rows. -/
def execUpdate (t : Table U) (status : FindingStatus) (r : PatchRequest) : Except String (Table U × Nat) :=
  match r.dbError, lib.uuid r.findingId with
  | some e, _ => .error e
  | none, .error e => .error e
  | none, .ok u =>
    match t u with
    | some _ => .ok (Function.update t u (some ⟨status, r.now⟩), 1)
    | none => .ok (t, 0)

def updateFindingStatus (t : Table U) (r : PatchRequest) : Table U × Except HttpError (String × String) :=
  match requestedStatus lib r.body with
  | .error e => (t, .error e)
  | .ok status =>
    match execUpdate lib t status r with
    | .error e => (t, .error ⟨500, "Database error: " ++ e⟩)
    | .ok (_, 0) => (t, .error ⟨404, "SecurityFinding " ++ r.findingId ++ " not found"⟩)
    | .ok (t', _) => (t', .ok (r.findingId, status.text))

def tableAfter (t : Table U) (reqs : List PatchRequest) : Table U :=
  reqs.foldl (fun t r => (updateFindingStatus lib t r).1) t

/-! ### The documented life -/

inductive Documented : FindingStatus → FindingStatus → Prop
  | propose : Documented .opened .pendingApproval
  | action : Documented .pendingApproval .actioned
  | dismiss : Documented .pendingApproval .falsePositive
  | close : Documented .pendingApproval .closed

/-- What a request may do to the table. -/
structure KeepsLifecycle (t : Table U) (r : PatchRequest) : Prop where
  documented : ∀ u f g, t u = some f → (updateFindingStatus lib t r).1 u = some g → f.status ≠ g.status →
    Documented f.status g.status
  rejected : ∀ e, (updateFindingStatus lib t r).2 = .error e → (updateFindingStatus lib t r).1 = t
  others : ∀ u, lib.uuid r.findingId ≠ .ok u → (updateFindingStatus lib t r).1 u = t u

/-- A request that the database executes on a stored finding asks for the status it has, or for a
documented transition from it. -/
def AsksDocumented (t : Table U) (r : PatchRequest) : Prop :=
  ∀ u f status, lib.uuid r.findingId = .ok u → t u = some f → requestedStatus lib r.body = .ok status →
    r.dbError = none → f.status = status ∨ Documented f.status status

/-! ### One request -/

section
variable {lib} {t : Table U} {r : PatchRequest}

/-- An update is of one stored finding; everything else leaves the table as it is. -/
theorem updateFindingStatus_cases (lib : RouteLib U) (t : Table U) (r : PatchRequest) :
    ((updateFindingStatus lib t r).1 = t ∧ (∃ e, (updateFindingStatus lib t r).2 = .error e) ∧
        AsksDocumented lib t r) ∨
      ∃ u f status, lib.uuid r.findingId = .ok u ∧ t u = some f ∧ requestedStatus lib r.body = .ok status ∧
        r.dbError = none ∧ (updateFindingStatus lib t r).1 = Function.update t u (some ⟨status, r.now⟩) ∧
        (updateFindingStatus lib t r).2 = .ok (r.findingId, status.text) := by
  unfold updateFindingStatus AsksDocumented
  cases hs : requestedStatus lib r.body with
  | error e => exact .inl ⟨rfl, ⟨e, rfl⟩, fun u f status _ _ h => by cases h⟩
  | ok status =>
    unfold execUpdate
    cases hdb : r.dbError with
    | some e => exact .inl ⟨rfl, ⟨_, rfl⟩, fun u f status _ _ _ h => by cases h⟩
    | none =>
      cases hu : lib.uuid r.findingId with
      | error e => exact .inl ⟨rfl, ⟨_, rfl⟩, fun u f status h => by cases h⟩
      | ok u =>
        cases hf : t u with
        | none =>
          refine .inl ⟨by simp only [hf], ⟨_, by simp only [hf]; rfl⟩, ?_⟩
          intro u' f status' hu' hf'
          cases hu'
          rw [hf] at hf'
          cases hf'
        | some f => exact .inr ⟨u, f, status, rfl, hf, rfl, rfl, by simp only [hf], by simp only [hf]⟩

theorem keepsLifecycle_iff : KeepsLifecycle lib t r ↔ AsksDocumented lib t r := by
  rcases updateFindingStatus_cases lib t r with ⟨hsame, -, hasks⟩ | ⟨u, f, status, hu, hf, hs, hdb, hafter, hreply⟩
  · refine iff_of_true ⟨?_, fun _ _ => hsame, fun u _ => by rw [hsame]⟩ hasks
    intro u f g hf hg hne
    rw [hsame, hf] at hg
    cases hg
    exact absurd rfl hne
  · constructor
    · intro h u' f' status' hu' hf' hs' _
      rw [hu] at hu'
      cases hu'
      rw [hf] at hf'
      cases hf'
      rw [hs] at hs'
      cases hs'
      by_cases heq : f.status = status
      · exact .inl heq
      · exact .inr (h.documented u f ⟨status, r.now⟩ hf (by rw [hafter, Function.update_self]) heq)
    · intro h
      refine ⟨?_, ?_, ?_⟩
      · intro u' f' g hf' hg hne
        rw [hafter] at hg
        by_cases hu' : u' = u
        · subst hu'
          rw [Function.update_self] at hg
          cases hg
          rw [hf] at hf'
          cases hf'
          exact (h u' f status hu hf hs hdb).resolve_left hne
        · rw [Function.update_of_ne hu', hf'] at hg
          cases hg
          exact absurd rfl hne
      · intro e he
        rw [hreply] at he
        cases he
      · intro u' hu'
        rw [hafter, Function.update_of_ne]
        rintro rfl
        exact hu' hu

end

/-! ### A run -/

/-- A run keeps to the documented life exactly if every request of it asks for no more than that, in
the state that the requests before it left. -/
theorem lifecycle_iff (t : Table U) (reqs : List PatchRequest) :
    (∀ past r rest, reqs = past ++ r :: rest → KeepsLifecycle lib (tableAfter lib t past) r) ↔
      ∀ past r rest, reqs = past ++ r :: rest → AsksDocumented lib (tableAfter lib t past) r := by
  simp only [keepsLifecycle_iff]

/-- In such a run the status of a finding is where documented transitions lead. -/
theorem documented_path {lib : RouteLib U} {t : Table U} {reqs : List PatchRequest}
    (h : ∀ past r rest, reqs = past ++ r :: rest → AsksDocumented lib (tableAfter lib t past) r) {u : U} {f : Finding}
    (hf : t u = some f) :
    ∃ g, tableAfter lib t reqs u = some g ∧ Relation.ReflTransGen Documented f.status g.status := by
  induction reqs using List.reverseRecOn with
  | nil => exact ⟨f, hf, .refl⟩
  | append_singleton past r ih =>
    obtain ⟨g, hg, hpath⟩ := ih fun past' r' rest hpast => h past' r' (rest ++ [r]) (by rw [hpast]; simp)
    have hkeeps := keepsLifecycle_iff.mpr (h past r [] rfl)
    have hstep : tableAfter lib t (past ++ [r]) = (updateFindingStatus lib (tableAfter lib t past) r).1 := by
      rw [tableAfter, List.foldl_concat]
      rfl
    obtain ⟨g', hg'⟩ : ∃ g', tableAfter lib t (past ++ [r]) u = some g' := by
      rw [hstep]
      rcases updateFindingStatus_cases lib (tableAfter lib t past) r with
        ⟨hsame, -⟩ | ⟨u', f', status, -, -, -, -, hafter, -⟩
      · exact ⟨g, by rw [hsame, hg]⟩
      · rw [hafter]
        by_cases hu : u = u'
        · exact ⟨_, by rw [hu, Function.update_self]⟩
        · exact ⟨g, by rw [Function.update_of_ne hu, hg]⟩
    refine ⟨g', hg', ?_⟩
    by_cases hstatus : g.status = g'.status
    · rw [← hstatus]
      exact hpath
    · rw [hstep] at hg'
      exact hpath.tail (hkeeps.documented u g g' hg hg' hstatus)

/-- A library with one finding. -/
def oneFinding : RouteLib Unit := ⟨fun _ => "", "", fun _ => .ok ()⟩

def closeRequest : PatchRequest := { findingId := "f-1", body := some (.obj [("status", .str "closed")]) }

/-- A finding that nobody has reviewed is closed. -/
theorem open_finding_closed :
    ¬ ∀ (lib : RouteLib Unit) (t : Table Unit) (reqs : List PatchRequest) (past : List PatchRequest) (r : PatchRequest)
        (rest : List PatchRequest), reqs = past ++ r :: rest → KeepsLifecycle lib (tableAfter lib t past) r := by
  intro h
  have hkeeps := h oneFinding (fun _ => some ⟨.opened, 0⟩) [closeRequest] [] closeRequest [] rfl
  have hclosed := hkeeps.documented () ⟨.opened, 0⟩ ⟨.closed, 0⟩ rfl (by decide) (by decide)
  cases hclosed

end Findings
end SocFabric
