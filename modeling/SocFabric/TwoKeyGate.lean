import SocFabric.Lib.Mealy
import SocFabric.ActionApi

/-!
# The two-key gate over the whole API

Whether an accepted destructive action was gated, request by request over any sequence. The host
routes ask for a token but never look at the target; `execute_action` asks for one only when the
client's own `risk` string says so; `assign_agent_task` asks for nothing. `GateCondition` is what a
request must bring along for its acceptance to be gated all the same.
-/

namespace SocFabric.ActionApi
open Text

def Protected (target : Json) : Prop := ∃ ip ∈ criticalInfrastructureIPs, target = .str ip

/-- If the request was accepted and its action is destructive, it carried a token and its target is
not protected. -/
def GateOk (db : Db) (c : Call) (o : Outcome) : Prop :=
  o.accepts = true → Destructive c.action → c.carriesToken = true ∧ ¬ Protected (c.target db)

/-- The request is turned away before its action is accepted, or its action is not destructive, or
it brings the token and an unprotected target although the route does not insist on them. -/
def GateCondition (jwt : Jwt) (env : Env) (db : Db) (q : Request × Call × Draw) : Prop :=
  (∃ err, verifyInternalAuth jwt env q.1 = .error err) ∨
  match q.2.1 with
  | .executeAction p => p.action ∉ quarantineActions ++ containerActions ∨
      if truthy p.twoKeyToken = none then p.risk ∈ ["DESTRUCTIVE", "HIGH_IMPACT_WRITE"]
      else p.target ∉ criticalInfrastructureIPs
  | .isolateHost hostId payload =>
      truthy (payload.bind (·.twoKeyToken)) = none ∨ hostId ∉ criticalInfrastructureIPs
  | .releaseHost .. => True
  | .assignAgentTask endpointId body =>
      db.endpointInventory.find? (·.endpointId = endpointId) = none ∨ q.2.2.insertFails = true ∨
      body.action ∉ quarantineActions ++ containerActions ∨
      (q.2.1.carriesToken = true ∧ ¬ Protected (q.2.1.target db))

section
variable {jwt : Jwt} {env : Env} {db s : Db}

theorem protected_str {s : String} : Protected (.str s) ↔ s ∈ criticalInfrastructureIPs := by
  simp only [Protected, Json.str.injEq]
  exact ⟨fun ⟨_, hip, h⟩ => h ▸ hip, fun h => ⟨s, h, rfl⟩⟩

theorem reject_accepts (err : HttpError) : (Outcome.reject err).accepts = false := rfl

theorem gateOk_of_not_accepts {c : Call} {o : Outcome} (h : o.accepts = false) : GateOk db c o :=
  fun ha => by rw [h] at ha; cases ha

theorem executeAction_gateOk_iff (p : ActionExecuteRequest) :
    GateOk db (.executeAction p) (executeAction p) ↔
      (p.action ∉ quarantineActions ++ containerActions ∨
        if truthy p.twoKeyToken = none then p.risk ∈ ["DESTRUCTIVE", "HIGH_IMPACT_WRITE"]
        else p.target ∉ criticalInfrastructureIPs) := by
  unfold executeAction
  cases ht : truthy p.twoKeyToken with
  | none =>
    by_cases hr : p.risk ∈ ["DESTRUCTIVE", "HIGH_IMPACT_WRITE"]
    · simp only [hr, and_self, if_true, or_true, iff_true]
      exact gateOk_of_not_accepts rfl
    · simp only [GateOk, Outcome.accepts, Reply.isError, ht, hr, Call.carriesToken, Call.action,
        destructive_iff, false_and, if_false, if_true, Option.isSome_none]
      simp
  | some tok =>
    simp only [GateOk, Outcome.accepts, Reply.isError, ht, Call.carriesToken, Call.action, Call.target,
      destructive_iff, protected_str]
    simp [imp_iff_not_or]

theorem isolateHost_gateOk_iff (hostId : String) (payload : Option IsolateHostRequest) :
    GateOk db (.isolateHost hostId payload) (isolateHost hostId payload) ↔
      (truthy (payload.bind (·.twoKeyToken)) = none ∨ hostId ∉ criticalInfrastructureIPs) := by
  have hd : Destructive "isolate_host" := destructive_iff.mpr (by decide)
  unfold isolateHost twoKeyHostAction
  cases ht : truthy (payload.bind (·.twoKeyToken)) with
  | none =>
    simp only [if_true, true_or, iff_true]
    exact gateOk_of_not_accepts rfl
  | some tok =>
    simp only [GateOk, Outcome.accepts, Reply.isError, ht, Call.carriesToken, Call.action, Call.target,
      protected_str]
    simp [hd]

theorem releaseHost_gateOk (hostId : String) (payload : Option IsolateHostRequest) :
    GateOk db (.releaseHost hostId payload) (releaseHost hostId payload) :=
  fun _ hd => absurd (destructive_iff.mp hd) (show "release_host" ∉ _ by decide)

theorem assignAgentTask_accepts (endpointId : String) (body : TaskBody) (d : Draw) :
    (assignAgentTask s endpointId body d).2.accepts = true ↔
      s.endpointInventory.find? (·.endpointId = endpointId) ≠ none ∧ d.insertFails = false := by
  unfold assignAgentTask
  cases hf : s.endpointInventory.find? (·.endpointId = endpointId) with
  | none => simp [reject_accepts]
  | some endpoint =>
    cases hi : d.insertFails with
    | true => simp [reject_accepts]
    | false =>
      cases hu : truthy endpoint.cfTunnelUrl with
      | none => simp [hu, Outcome.accepts]
      | some url => cases hw : d.webhook <;> simp [hu, Outcome.accepts]

@[simp] theorem handle_inventory (q : Request × Call × Draw) :
    (handle jwt env s q).1.endpointInventory = s.endpointInventory := by
  unfold handle
  split
  · rfl
  split
  any_goals rfl
  unfold assignAgentTask
  repeat' split
  all_goals rfl

theorem handle_gateOk_iff (hs : s.endpointInventory = db.endpointInventory)
    (q : Request × Call × Draw) :
    GateOk db q.2.1 (handle jwt env s q).2 ↔ GateCondition jwt env db q := by
  obtain ⟨r, c, d⟩ := q
  unfold handle GateCondition
  cases hv : verifyInternalAuth jwt env r with
  | error err =>
    simp only [Except.error.injEq, exists_eq', true_or, iff_true]
    exact gateOk_of_not_accepts rfl
  | ok u =>
    simp only [reduceCtorEq, exists_false, false_or]
    cases c with
    | executeAction p => exact executeAction_gateOk_iff p
    | isolateHost hostId payload => exact isolateHost_gateOk_iff hostId payload
    | releaseHost hostId payload => exact iff_of_true (releaseHost_gateOk hostId payload) trivial
    | assignAgentTask endpointId body =>
      simp only [GateOk, assignAgentTask_accepts, hs, Call.action, destructive_iff]
      cases hi : d.insertFails <;> simp [imp_iff_not_or]

end

/-- Over any sequence of requests: every accepted destructive action was gated exactly if every
request meets `GateCondition`. -/
theorem gateOk_run_iff (jwt : Jwt) (env : Env) (db : Db) (qs : List (Request × Call × Draw)) :
    (∀ x ∈ Mealy.outputs (handle jwt env) db qs, GateOk db x.1.2.1 x.2) ↔
      ∀ q ∈ qs, GateCondition jwt env db q :=
  Mealy.forall_outputs_iff (fun s => s.endpointInventory = db.endpointInventory)
    (fun s q hs => by rw [handle_inventory, hs]) (fun _ q hs => handle_gateOk_iff hs q) rfl

/-- A client that calls a destructive action `READ_ONLY` needs no second key. -/
theorem gate_passed_without_token :
    ¬ ∀ (jwt : Jwt) (env : Env) (db : Db) (qs : List (Request × Call × Draw)),
      ∀ x ∈ Mealy.outputs (handle jwt env) db qs, GateOk db x.1.2.1 x.2 := by
  intro h
  have hok := h (sessionJwt []) production ⟨[], []⟩
    [(⟨[("x-internal-service-key", "service-key")], []⟩,
      .executeAction ⟨"isolate_host", "10.0.0.7", "containment", "READ_ONLY", none⟩, ⟨0, false, none⟩)]
    _ (List.mem_cons_self ..) rfl (destructive_iff.mpr (by decide))
  exact absurd hok.1 (by decide)

end SocFabric.ActionApi
