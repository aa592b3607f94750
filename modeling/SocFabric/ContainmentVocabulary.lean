import SocFabric.AgentExecutor
import SocFabric.DDoSTarget
import SocFabric.RatDetector

/-!
# One vocabulary for containment

The detectors recommend actions by name. The policy classes them, the network map submits them as
tasks (`NetworkMapPage.tsx`, `handleResponseAction`), and the agent executes them, each with its own
list of names. The names agree except for one: the DDoS detector's `throttle_container` is
`throttle_container_network` everywhere else.
-/

namespace SocFabric
namespace ContainmentVocabulary
open ActionApi Agent Text
open Triage (SecurityFinding RecommendedAction FindingCategory)

/-! ### From the finding to the task -/

def recommendedText : RecommendedAction → String
  | .isolateHost => "isolate_host"
  | .isolateLanClient => "isolate_lan_client"
  | .throttleContainer => "throttle_container"
  | .none => "none"

/-- A node of the map. -/
structure EnhancedNode where
  id : String
  ip : Option String := none
  containerId : Option String := none

/-- The body that is posted to `/admin/endpoints/{id}/tasks`. -/
def handleResponseAction (node : EnhancedNode) (findingId recommendedAction : String) : Option TaskBody :=
  if recommendedAction = "none" then none
  else
    some
      { action := recommendedAction
        params := some
          [("target_ip", .str ((truthy node.ip).getD node.id)), ("container_id", .str ((truthy node.containerId).getD "")),
            ("finding_id", .str findingId)]
        twoKeyToken := none }

/-- The task comes to the agent from a request with this body, by the webhook or polled. -/
inductive Submitted (body : TaskBody) : Task → Prop
  | pushed (db : Db) (endpointId : String) (d : Draw) (formatId : Nat → String) {url : String} {payload : WebhookPayload} :
      (assignAgentTask db endpointId body d).2.posted = some (url, payload) → Submitted body (ofWebhook formatId payload)
  | polled (db : Db) (endpointId : String) (d : Draw) (formatId : Nat → String)
      (jsonbText : List (String × Json) → String) {row : TaskRow} :
      (assignAgentTask db endpointId body d).2.inserted = some row → Submitted body (ofRecord formatId jsonbText row)

/-- The policy classes the action as destructive, and the agent knows it. -/
structure Understood (container : Bool) (action : String) : Prop where
  destructive : ∀ target, target ∉ criticalInfrastructureIPs → (evaluateContainmentSafety action target).risk = .destructive
  known : ∀ node findingId body task env, (container = true → (truthy node.containerId).isSome) →
    handleResponseAction node findingId action = some body → Submitted body task →
      ∀ name, executeTask env task ≠ failed ("Unknown action: " ++ name)

/-- The recommendation of the finding is none, or a name that everyone understands. -/
def OneVocabulary (category : FindingCategory) (recommended : RecommendedAction) : Prop :=
  recommendedText recommended ≠ "none" → Understood (category = .containerAbuse) (recommendedText recommended)

/-! ### What the agent does with a task -/

theorem action_of_submitted {body : TaskBody} {task : Task} (h : Submitted body task) :
    task.action = body.action := by
  cases h with
  | pushed db endpointId d formatId h =>
    rw [assignAgentTask_posted h]
    rfl
  | polled db endpointId d formatId jsonbText h => exact (assignAgentTask_inserted h).1

/-- Errors of known actions start otherwise. -/
theorem failed_ne_unknown {err : String} (h : err.toList.head? ≠ some 'U') (name : String) :
    failed err ≠ failed ("Unknown action: " ++ name) := by
  intro heq
  rw [failed_inj heq, String.toList_append] at h
  exact h rfl

theorem executeTask_ne_unknown {task : Task} (h : task.action ∈ paramActions) (env : AgentEnv)
    (name : String) :
    executeTask env task ≠ failed ("Unknown action: " ++ name) := by
  have hreads : readsParams task.action ≠ none := fun hnone => (readsParams_eq_none_iff _).mp hnone h
  obtain ⟨run, hrun⟩ := Option.ne_none_iff_exists'.mp hreads
  unfold executeTask
  rw [hrun]
  cases hp : task.params with
  | none => exact failed_ne_unknown (by decide) name
  | text s => exact failed_ne_unknown (by decide) name
  | dict members =>
    rcases readsParams_reads hrun env fun key => members.lookup key with hok | hmiss
    · intro heq
      simp only [Params.get] at heq
      rw [heq] at hok
      have hstatus : (failed ("Unknown action: " ++ name)).status = "failed" := rfl
      rw [hstatus] at hok
      exact absurd hok (by decide)
    · simp only [Params.get]
      rw [hmiss]
      exact failed_ne_unknown (by decide) name

theorem understood_of_quarantine {action : String} (h : action ∈ quarantineActions) (container : Bool) :
    Understood container action := by
  have hparam : ∀ a ∈ quarantineActions, a ∈ paramActions := by decide
  refine ⟨?_, ?_⟩
  · intro target ht
    exact evaluateContainmentSafety_risk_eq_destructive.mpr ⟨ht, List.mem_append_left _ h⟩
  · intro node findingId body task env _ hbody htask name
    refine executeTask_ne_unknown ?_ env name
    rw [action_of_submitted htask]
    unfold handleResponseAction at hbody
    split_ifs at hbody
    cases hbody
    exact hparam action h

theorem not_understood_throttle (container : Bool) : ¬ Understood container "throttle_container" := by
  intro h
  have hrisk := h.destructive "" (by decide)
  exact absurd hrisk (by decide)

/-- The agent answers every submission of the detector's throttle with an error. -/
theorem throttle_unknown {node : EnhancedNode} {findingId : String} {body : TaskBody} {task : Task}
    (hbody : handleResponseAction node findingId "throttle_container" = some body) (htask : Submitted body task)
    (env : AgentEnv) : executeTask env task = failed "Unknown action: throttle_container" := by
  have haction : task.action = "throttle_container" := by
    rw [action_of_submitted htask]
    cases hbody
    rfl
  unfold executeTask
  rw [haction]
  rfl

theorem oneVocabulary_iff (category : FindingCategory) (r : RecommendedAction) :
    OneVocabulary category r ↔ r ≠ .throttleContainer := by
  cases r with
  | isolateHost | isolateLanClient =>
    exact iff_of_true (fun _ => understood_of_quarantine (by decide) _) nofun
  | throttleContainer => exact iff_of_false (fun h => not_understood_throttle _ (h (by decide))) (by decide)
  | none => exact iff_of_true (fun h => absurd rfl h) nofun

/-! ### The detectors -/

section
variable {R : Type} [PyNum R] {s : DDoS.Baselines R} {c : DDoS.Call R} {threshold : Nat}

omit [PyNum R] in
theorem ofDDoSFinding_throttle (f : DDoS.Finding R) :
    (Triage.ofDDoSFinding f).recommendedAction = .throttleContainer ↔ f.recommendedAction = .throttleContainer := by
  unfold Triage.ofDDoSFinding
  cases f.recommendedAction <;> simp

omit [PyNum R] in
theorem buildFinding_throttles {flow : DDoS.Acc R} {container : DDoS.ContainerAcc R} {f : DDoS.Finding R}
    (h : DDoS.buildFinding c threshold flow container = some f) :
    f.recommendedAction = .throttleContainer ↔ container.2 = true := by
  unfold DDoS.buildFinding at h
  split_ifs at h with hlt habuse
  · cases h
    exact iff_of_true rfl habuse
  · cases h
    refine iff_of_false ?_ habuse
    dsimp only [DDoS.recommendedAction]
    split_ifs <;> nofun

/-- The DDoS detector stays within the vocabulary exactly if it finds no container abuse. -/
theorem ddos_vocabulary_iff :
    (∀ f, (DDoS.analyze threshold s c).2 = .returned (some f) →
        OneVocabulary (Triage.ofDDoSFinding f).category (Triage.ofDDoSFinding f).recommendedAction) ↔
      DDoS.AnalysisRaises s c ∨ DDoS.totalScore (DDoS.callTriggers s c) < threshold ∨ DDoS.containerAbuse s c = false := by
  simp only [oneVocabulary_iff, ne_eq, ofDDoSFinding_throttle]
  by_cases hr : DDoS.AnalysisRaises s c
  · rw [DDoS.analyze_of_raises hr]
    exact iff_of_true nofun (.inl hr)
  · obtain ⟨flow, container, hres, hscore, habuse⟩ := DDoS.analyze_of_not_raises threshold hr
    rw [hres, or_iff_right hr, ← hscore, ← habuse]
    cases hf : DDoS.buildFinding c threshold flow container with
    | none =>
      refine iff_of_true nofun (.inl ?_)
      unfold DDoS.buildFinding at hf
      split_ifs at hf with hlt
      exact hlt
    | some f =>
      have hlt : ¬ flow.score + container.1.score < threshold := by
        intro hlt
        rw [DDoS.buildFinding, if_pos hlt] at hf
        cases hf
      have hthrottles := buildFinding_throttles hf
      rw [or_iff_right hlt]
      constructor
      · intro h
        exact Bool.eq_false_of_not_eq_true fun habuse => h f rfl (hthrottles.mpr habuse)
      · intro hno f' hf' habuse
        cases hf'
        rw [hthrottles.mp habuse] at hno
        cases hno

end

theorem rat_vocabulary {F P : Type} {checks : Rat.Checks F P} {threshold : Int} {flowEvents : List F}
    {processEvents : Option (List P)} {endpointID : Option String} {tenantID : String} (f : Rat.Finding)
    (h : Rat.analyze checks threshold flowEvents processEvents endpointID tenantID = .returned (some f)) :
    OneVocabulary f.category f.recommendedAction := by
  rw [oneVocabulary_iff]
  rcases (Rat.analyze_finding h).2 with hact | hact <;> rw [hact] <;> nofun

/-- For all inputs of both detectors, every recommendation in their findings is understood by the
policy and the agent if and only if the DDoS detector raises, or scores below its threshold, or sees
no container abuse. -/
theorem containment_vocabulary_iff {R F P : Type} [PyNum R] (s : DDoS.Baselines R) (c : DDoS.Call R) (threshold : Nat)
    (checks : Rat.Checks F P) (ratThreshold : Int) (flowEvents : List F) (processEvents : Option (List P))
    (endpointID : Option String) (tenantID : String) :
    ((∀ f, (DDoS.analyze threshold s c).2 = .returned (some f) →
        OneVocabulary (Triage.ofDDoSFinding f).category (Triage.ofDDoSFinding f).recommendedAction) ∧
      ∀ f, Rat.analyze checks ratThreshold flowEvents processEvents endpointID tenantID = .returned (some f) →
        OneVocabulary f.category f.recommendedAction) ↔
      DDoS.AnalysisRaises s c ∨ DDoS.totalScore (DDoS.callTriggers s c) < threshold ∨
        DDoS.containerAbuse s c = false := by
  rw [ddos_vocabulary_iff, and_iff_left rat_vocabulary]

/-- A container restarts in a storm and the detector recommends to throttle it. -/
theorem throttle_container_not_understood :
    ¬ ∀ (R : Type) [PyNum R] (s : DDoS.Baselines R) (c : DDoS.Call R) (f : DDoS.Finding R),
      (DDoS.analyze DDoS.scoreThreshold s c).2 = .returned (some f) →
        OneVocabulary (Triage.ofDDoSFinding f).category (Triage.ofDDoSFinding f).recommendedAction := by
  intro h
  rcases ddos_vocabulary_iff.mp (h Rat DDoS.freshBaselines DDoS.abuseCall) with (hflows | hmetrics) | hscore | habuse
  · have hsome : (DDoS.analyzeFlows DDoS.freshBaselines DDoS.abuseCall.flowEvents).2.isSome = true := by decide +kernel
    rw [hflows] at hsome
    cases hsome
  · have hsome : (DDoS.analyzeContainerMetrics (DDoS.afterFlows DDoS.freshBaselines DDoS.abuseCall)
        DDoS.abuseCall.containerMetrics).2.isSome = true := by decide +kernel
    rw [hmetrics] at hsome
    cases hsome
  · exact absurd hscore (by decide +kernel)
  · exact absurd habuse (by decide +kernel)

end ContainmentVocabulary
end SocFabric
