import SocFabric.ActionApi
import SocFabric.Lib.Mealy

/-!
# The console's side of the two-key gate (`soc-frontend`)

`InvestigationContext` keeps a modal in which the analyst types the target of a destructive action,
and `IsolationControlsPage` a dialog in which they type a hostname. Both then post to a route that
asks for a `twoKeyToken`. What the analyst types is compared in the browser and is not part of any
body, so that every request that either of them can send is refused (`outputs_refused`).
-/

namespace SocFabric
namespace TwoKeyConsole
open ActionApi Text

/-! ### Bodies -/

/-- A JSON object. -/
abbrev Body := List (String × Json)

def stringField (body : Body) (key : String) : Option String :=
  match body.lookup key with
  | some (.str s) => some s
  | _ => none

/-- An optional string that may be missing or null; `none` if the value is neither. -/
def optionalField (body : Body) (key : String) : Option (Option String) :=
  match body.lookup key with
  | none | some .null => some none
  | some (.str s) => some (some s)
  | some _ => none

/-- The body as `ActionExecuteRequest`; `none` is a 422. -/
def parseActionExecute (body : Body) : Option ActionExecuteRequest := do
  return {
    action := ← stringField body "action"
    target := ← stringField body "target"
    justification := ← stringField body "justification"
    risk := ← stringField body "risk"
    twoKeyToken := ← optionalField body "twoKeyToken" }

def parseIsolateHost (body : Body) : Option IsolateHostRequest := do
  return { twoKeyToken := ← optionalField body "twoKeyToken" }

/-! ### The modal of an investigation -/

structure ActionInfo where
  action : String
  target : String
  justification : String
  risk : Risk
deriving DecidableEq, Repr

structure TwoKeyModal where
  shown : Bool := false
  action : Option ActionInfo := none
  input : String := ""
deriving DecidableEq, Repr

/-- White space and line terminators of `String.prototype.trim`. -/
def jsSpace (c : Char) : Bool :=
  c.val ∈ ([0x9, 0xa, 0xb, 0xc, 0xd, 0x20, 0xa0, 0x1680, 0x2028, 0x2029, 0x202f, 0x205f, 0x3000, 0xfeff] : List UInt32) ||
    (0x2000 ≤ c.val && c.val ≤ 0x200a)

def jsTrim (s : String) : String := strip jsSpace s

def isTwoKeyRisk (risk : Risk) : Bool := risk = .destructive ∨ risk = .highImpactWrite

def handleActionApprove (m : TwoKeyModal) (action : ActionInfo) : TwoKeyModal :=
  if isTwoKeyRisk action.risk then { shown := true, action := some action } else m

def ActionInfo.body (a : ActionInfo) : Body :=
  [("action", .str a.action), ("target", .str a.target), ("justification", .str a.justification),
    ("risk", .str a.risk.text)]

/-- The modal after it, and the body that is posted to `/data/actions/execute`. -/
def confirmTwoKeyAction (m : TwoKeyModal) : TwoKeyModal × Option Body :=
  match m.action with
  | some action => if jsTrim m.input = action.target then ({}, some action.body) else ({}, none)
  | none => ({}, none)

inductive ModalEvent
  | approve (action : ActionInfo)
  | edit (input : String)
  | cancel
  | confirm

def TwoKeyModal.step (m : TwoKeyModal) : ModalEvent → TwoKeyModal × Option Body
  | .approve action => (handleActionApprove m action, none)
  | .edit input => ({ m with input := input }, none)
  | .cancel => ({}, none)
  | .confirm => confirmTwoKeyAction m

/-- `execute_action` validates and accepts the body. -/
def executeAccepts (body : Body) : Bool := (parseActionExecute body).any fun p => (executeAction p).accepts

/-! ### The dialog of the isolation page -/

structure Host where
  id : String
  hostname : String
deriving DecidableEq, Repr

inductive HostAction
  | isolate
  | release
deriving DecidableEq, Repr

structure IsolationControls where
  pendingAction : Option (Host × HostAction) := none
  twoKeyInput : String := ""
  autoReleaseHours : Rat := 0
deriving DecidableEq, Repr

/-- A post to `/endpoints/{id}/isolate` or `/release`, the latter without a body. -/
structure HostRequest where
  id : String
  action : HostAction
  body : Option Body

def performAction (p : IsolationControls) : IsolationControls × Option HostRequest :=
  match p.pendingAction with
  | none => (p, none)
  | some (host, .isolate) => ({}, some ⟨host.id, .isolate, some [("autoReleaseHours", .num p.autoReleaseHours)]⟩)
  | some (host, .release) => ({}, some ⟨host.id, .release, none⟩)

inductive PageEvent
  | choose (host : Host) (action : HostAction)
  | edit (input : String)
  | setHours (hours : Rat)
  | cancel
  | execute

/-- The button is disabled unless the input is the hostname. -/
def IsolationControls.confirmed (p : IsolationControls) : Bool :=
  p.pendingAction.any fun x => p.twoKeyInput = x.1.hostname

def IsolationControls.step (p : IsolationControls) : PageEvent → IsolationControls × Option HostRequest
  | .choose host action => ({ p with pendingAction := some (host, action) }, none)
  | .edit input => ({ p with twoKeyInput := input }, none)
  | .setHours hours => ({ p with autoReleaseHours := hours }, none)
  | .cancel => ({ p with pendingAction := none, twoKeyInput := "" }, none)
  | .execute => if p.confirmed then performAction p else (p, none)

def HostRequest.handler (r : HostRequest) : Option IsolateHostRequest → ActionApi.Outcome :=
  match r.action with
  | .isolate => isolateHost r.id
  | .release => releaseHost r.id

/-- `isolate_host` or `release_host` validates and accepts the request. -/
def HostRequest.accepted (r : HostRequest) : Bool :=
  match r.body with
  | none => (r.handler none).accepts
  | some body => (parseIsolateHost body).any fun p => (r.handler (some p)).accepts

/-! ### No token -/

theorem parse_body (a : ActionInfo) :
    parseActionExecute a.body = some { action := a.action, target := a.target, justification := a.justification,
                                       risk := a.risk.text } := by
  rfl

theorem executeAccepts_body {a : ActionInfo} (h : isTwoKeyRisk a.risk = true) :
    executeAccepts a.body = false := by
  have hrisk : a.risk.text ∈ ["DESTRUCTIVE", "HIGH_IMPACT_WRITE"] := by
    rcases of_decide_eq_true h with hr | hr <;> rw [hr] <;> decide
  rw [executeAccepts, parse_body, Option.any_some, executeAction, if_pos ⟨hrisk, rfl⟩]
  rfl

theorem confirm_sends {m : TwoKeyModal} {a : ActionInfo} (ha : m.action = some a)
    (hinput : jsTrim m.input = a.target) :
    confirmTwoKeyAction m = ({}, some a.body) := by
  rw [confirmTwoKeyAction, ha]
  exact if_pos hinput

theorem handler_of_no_token (r : HostRequest) (payload : Option IsolateHostRequest)
    (h : payload.bind (·.twoKeyToken) = none) : (r.handler payload).accepts = false := by
  unfold HostRequest.handler
  cases r.action <;> simp only [isolateHost, releaseHost, twoKeyHostAction, h] <;> rfl

theorem performAction_refused (p : IsolationControls) (r : HostRequest) (hr : (performAction p).2 = some r) :
    r.accepted = false := by
  unfold performAction at hr
  split at hr <;> cases hr
  · have hparse (hours : Rat) : parseIsolateHost [("autoReleaseHours", .num hours)] = some {} := rfl
    unfold HostRequest.accepted
    dsimp only
    rw [hparse, Option.any_some]
    exact handler_of_no_token _ (some {}) rfl
  · exact handler_of_no_token _ none rfl

/-! ### All paths -/

/-- The modal is only ever opened for actions that need the second key. -/
def TwoKeyModal.Guarded (m : TwoKeyModal) : Prop := ∀ a, m.action = some a → isTwoKeyRisk a.risk = true

theorem guarded_start : ({} : TwoKeyModal).Guarded := by
  intro a ha
  cases ha

theorem guarded_step (m : TwoKeyModal) (e : ModalEvent) (h : m.Guarded) : (m.step e).1.Guarded := by
  cases e with
  | approve action =>
    rw [TwoKeyModal.step, handleActionApprove]
    split_ifs with hrisk
    · intro a ha
      cases ha
      exact hrisk
    · exact h
  | edit input => exact h
  | cancel => exact guarded_start
  | confirm =>
    have hclosed : (confirmTwoKeyAction m).1 = {} := by
      unfold confirmTwoKeyAction
      split
      · split_ifs <;> rfl
      · rfl
    rw [TwoKeyModal.step, hclosed]
    exact guarded_start

theorem modal_refused (m : TwoKeyModal) (e : ModalEvent) (h : m.Guarded) (body : Body)
    (hb : (m.step e).2 = some body) :
    executeAccepts body = false := by
  cases e with
  | approve | edit | cancel => cases hb
  | confirm =>
    rw [TwoKeyModal.step, confirmTwoKeyAction] at hb
    split at hb
    · rename_i a ha
      split_ifs at hb
      cases hb
      exact executeAccepts_body (h a ha)
    · cases hb

theorem page_refused (p : IsolationControls) (e : PageEvent) (r : HostRequest) (hr : (p.step e).2 = some r) :
    r.accepted = false := by
  cases e with
  | choose | edit | setHours | cancel => cases hr
  | execute =>
    rw [IsolationControls.step] at hr
    split_ifs at hr
    exact performAction_refused p r hr

/-- Whatever happens in the modal and on the page, no request that is sent is accepted. -/
theorem outputs_refused (events : List ModalEvent) (pageEvents : List PageEvent) :
    (∀ x ∈ Mealy.outputs TwoKeyModal.step {} events, ∀ body, x.2 = some body → executeAccepts body = false) ∧
    ∀ x ∈ Mealy.outputs IsolationControls.step {} pageEvents, ∀ r, x.2 = some r → r.accepted = false := by
  constructor
  · refine (Mealy.forall_outputs_iff TwoKeyModal.Guarded (P := fun _ o => ∀ body, o = some body → executeAccepts body = false)
      (C := fun _ => True) guarded_step ?_ guarded_start).mpr fun _ _ => trivial
    exact fun m e hm => iff_of_true (modal_refused m e hm) trivial
  · refine (Mealy.forall_outputs_iff (fun _ => True) (P := fun _ o => ∀ r : HostRequest, o = some r → r.accepted = false)
      (C := fun _ => True) (fun _ _ _ => trivial) ?_ trivial).mpr fun _ _ => trivial
    exact fun p e _ => iff_of_true (page_refused p e) trivial

/-- Every confirmed action of the two risks is sent and refused, and so is every confirmed host. -/
theorem confirmed_requests_refused (m : TwoKeyModal) (a : ActionInfo) (p : IsolationControls) (host : Host)
    (action : HostAction) :
    (m.action = some a → isTwoKeyRisk a.risk = true → jsTrim m.input = a.target →
      ∃ body, (m.step .confirm).2 = some body ∧ executeAccepts body = false) ∧
    (p.pendingAction = some (host, action) → p.twoKeyInput = host.hostname →
      ∃ r, (p.step .execute).2 = some r ∧ r.id = host.id ∧ r.action = action ∧ r.accepted = false) := by
  constructor
  · intro ha hrisk hinput
    refine ⟨a.body, ?_, executeAccepts_body hrisk⟩
    rw [TwoKeyModal.step, confirm_sends ha hinput]
  · intro hp hinput
    have hconfirmed : p.confirmed = true := by simp [IsolationControls.confirmed, hp, hinput]
    have hstep : p.step .execute = performAction p := by rw [IsolationControls.step, if_pos hconfirmed]
    rw [hstep]
    have hrefused := performAction_refused p
    cases action with
    | isolate | release =>
      rw [performAction, hp] at hrefused ⊢
      exact ⟨_, rfl, rfl, rfl, hrefused _ rfl⟩

def isolateAction : ActionInfo := ⟨"isolate_host", "10.0.0.7", "RAT beacon", .destructive⟩

/-- The analyst approves the isolation of a host and types its address. -/
def isolateModal : TwoKeyModal := { shown := true, action := some isolateAction, input := " 10.0.0.7\n" }

def releaseControls : IsolationControls :=
  { pendingAction := some (⟨"host-1", "srv-01"⟩, .release), twoKeyInput := "srv-01" }

theorem isolateModal_refused :
    (∃ body, (isolateModal.step .confirm).2 = some body ∧ executeAccepts body = false) ∧
    ∃ r, (releaseControls.step .execute).2 = some r ∧ r.id = "host-1" ∧ r.action = .release ∧ r.accepted = false :=
  have h := confirmed_requests_refused isolateModal isolateAction releaseControls ⟨"host-1", "srv-01"⟩ .release
  ⟨h.1 rfl rfl (by decide +kernel), h.2 rfl rfl⟩

theorem two_key_gate_disagrees :
    ¬ ((∀ (m : TwoKeyModal) (a : ActionInfo), m.action = some a → isTwoKeyRisk a.risk = true →
        jsTrim m.input = a.target → ∃ body, (m.step .confirm).2 = some body ∧ executeAccepts body = true) ∧
      ∀ (p : IsolationControls) (host : Host) (action : HostAction), p.pendingAction = some (host, action) →
        p.twoKeyInput = host.hostname → ∃ r, (p.step .execute).2 = some r ∧ r.id = host.id ∧ r.action = action ∧
          r.accepted = true) := by
  rintro ⟨hmodal, -⟩
  obtain ⟨body, hsent, haccepted⟩ := hmodal isolateModal isolateAction rfl rfl (by decide +kernel)
  have hrefused := modal_refused isolateModal .confirm (fun a ha => by cases ha; rfl) body hsent
  rw [haccepted] at hrefused
  cases hrefused

end TwoKeyConsole
end SocFabric
