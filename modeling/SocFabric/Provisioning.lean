import SocFabric.Enrollment
import SocFabric.IngestServer

/-!
# What `provision_tenant` answers

The three routes that insert into `tenant_registry` leave a row that exists as it is (`ON CONFLICT
DO NOTHING`), so the first insertion of a tenant decides its secret and database for good
(`registry_kept`). `provision_tenant` answers with the secret it has just drawn, whether its row
went in or not. The answers match the registry in every run in which each of its `INSERT`s finds no
row of the tenant (`provisioned_matches_registry`), and the second of two calls already breaks it
(`second_provisioning_answers_unstored_secret`).
-/

namespace SocFabric.Enrollment
open Lts

variable {s s' : State}

/-! ### Signatures -/

/-- What `FetchConfig` loads from a row of the registry; `llmText` is the text of the `llm_key`
column. -/
def loadConfig (llmText : LlmKey → String) (tenantId : String) (row : TenantRow) : Option TenantConfig :=
  (Sha256.hexDecode row.webhookSecret.toList).map fun secret =>
    ⟨tenantId, secret, row.clickhouseDb, llmText row.llmKey⟩

/-- The text is the signature of the payload under a secret that is given in hex. -/
def Signs (webhookSecret : String) (payload : List UInt8) (signatureHex : String) : Prop :=
  ∃ key, Sha256.hexDecode webhookSecret.toList = some key ∧
    Sha256.hexDecode signatureHex.toList = some (Sha256.hmac key payload)

theorem assertSignature_of_signs {llmText : LlmKey → String} {tenantId : String} {row : TenantRow}
    {config : TenantConfig} (hconfig : loadConfig llmText tenantId row = some config) {payload : List UInt8}
    {signatureHex : String} (h : Signs row.webhookSecret payload signatureHex) :
    assertSignature payload signatureHex config.webhookSecret = true := by
  obtain ⟨key, hkey, hsig⟩ := h
  rw [loadConfig, hkey, Option.map_some] at hconfig
  cases hconfig
  rw [assertSignature, hsig]
  exact decide_eq_true rfl

/-! ### The property -/

/-- The tenant's row has the answered secret and database, so a payload signed with the answer
passes core-ingest. -/
structure Matches (db : Db) (tenantId clickhouseDb webhookSecret : String) : Prop where
  stored : ∃ row, db.tenantRegistry tenantId = some row ∧ row.webhookSecret = webhookSecret ∧
    row.clickhouseDb = clickhouseDb
  signed (llmText : LlmKey → String) (row : TenantRow) (config : TenantConfig) (payload : List UInt8)
    (signatureHex : String) : db.tenantRegistry tenantId = some row → loadConfig llmText tenantId row = some config →
    Signs webhookSecret payload signatureHex → assertSignature payload signatureHex config.webhookSecret = true

/-- Every answer of `provision_tenant` so far matches the registry. -/
def AnswersMatch (s : State) : Prop :=
  ∀ tenantId clickhouseDb webhookSecret status,
    .replied (.provisioned tenantId clickhouseDb webhookSecret status) ∈ s.requests →
      Matches s.db tenantId clickhouseDb webhookSecret

theorem matches_of_stored {db : Db} {tenantId : String} {row : TenantRow}
    (h : db.tenantRegistry tenantId = some row) :
    Matches db tenantId row.clickhouseDb row.webhookSecret where
  stored := ⟨row, h, rfl, rfl⟩
  signed llmText row' config payload signatureHex h' hconfig hsigns := by
    cases h.symm.trans h'
    exact assertSignature_of_signs hconfig hsigns

/-! ### The registry -/

theorem insertTenant_kept {db : Db} {tenantId t : String} {row row' : TenantRow}
    (h : db.tenantRegistry t = some row) : (db.insertTenant tenantId row').tenantRegistry t = some row := by
  unfold Db.insertTenant
  split
  · exact h
  · rename_i hnone
    have hne : t ≠ tenantId := fun he => by rw [he, hnone] at h; cases h
    exact (Function.update_of_ne hne ..).trans h

theorem enroll_registry {db db' : Db} {token : String} {record : TokenRow} {readAt : Int} {d : Draw}
    (h : db.enroll token record readAt d = some db') : db'.tenantRegistry = db.tenantRegistry := by
  unfold Db.enroll at h
  split_ifs at h
  split at h
  · cases h
    rfl
  · split_ifs at h
    cases h
    rfl

theorem insertToken_registry {db db' : Db} {token : String} {req : AdminEnrollmentTokenRequest}
    {expiresAt : Int}
    (h : db.insertToken token req expiresAt = some db') : db'.tenantRegistry = db.tenantRegistry := by
  unfold Db.insertToken at h
  split_ifs at h
  cases h
  rfl

/-- No statement changes or removes a row of the registry. -/
theorem registry_kept {db : Db} {t : String} {row : TenantRow} (d : Draw) (pc : Pc)
    (h : db.tenantRegistry t = some row) : (stepRequest db d pc).1.tenantRegistry t = some row := by
  unfold stepRequest
  split
  · exact h
  · cases pc with
    | enrollSelect token =>
      simp only
      split <;> exact h
    | enrollTenant token record readAt =>
      simp only
      split <;> exact h
    | enrollProvision token record readAt => exact insertTenant_kept h
    | enrollTransaction token record readAt =>
      simp only
      split
      · exact h
      · rename_i hdb
        rw [enroll_registry hdb]
        exact h
    | createTenant req =>
      simp only
      split <;> exact h
    | createProvision req => exact insertTenant_kept h
    | createInsert req =>
      simp only
      split
      · exact h
      · rename_i hdb
        rw [insertToken_registry hdb]
        exact h
    | createAudit token expiresAt => exact h
    | provisionInsert req => exact insertTenant_kept h
    | replied reply => exact h

theorem matches_kept {db : Db} {d : Draw} {pc : Pc} {tenantId clickhouseDb webhookSecret : String}
    (h : Matches db tenantId clickhouseDb webhookSecret) :
    Matches (stepRequest db d pc).1 tenantId clickhouseDb webhookSecret := by
  obtain ⟨⟨row, hrow, rfl, rfl⟩, -⟩ := h
  exact matches_of_stored (registry_kept d pc hrow)

/-- The only statement that answers a provisioning is its `INSERT`. -/
theorem provisioned_of_stepRequest {db : Db} {d : Draw} {pc : Pc}
    {t clickhouseDb webhookSecret status : String} (hpc : ∀ reply, pc ≠ .replied reply)
    (h : (stepRequest db d pc).2 = .replied (.provisioned t clickhouseDb webhookSecret status)) :
    ∃ req, pc = .provisionInsert req ∧ t = req.tenantId ∧
      clickhouseDb = "clickhouse_db_" ++ underscored req.tenantId ∧ webhookSecret = d.secretHex ∧
      (stepRequest db d pc).1 =
        db.insertTenant req.tenantId ⟨d.secretHex, clickhouseDb, .object (llmKeys req)⟩ := by
  unfold stepRequest at h ⊢
  split at h
  · cases h
  · rename_i hok
    cases pc with
    | provisionInsert req =>
      rw [if_neg hok]
      cases h
      exact ⟨req, rfl, rfl, rfl, rfl, rfl⟩
    | replied reply => exact absurd rfl (hpc reply)
    | enrollSelect token =>
      simp only at h
      split at h
      · rename_i reply hv
        unfold validateToken at hv
        split at hv
        · cases hv
          cases h
        · split_ifs at hv <;> cases hv <;> cases h
      · cases h
    | enrollTenant token record readAt =>
      simp only at h
      split at h <;> cases h
    | enrollProvision token record readAt => cases h
    | enrollTransaction token record readAt =>
      simp only at h
      split at h <;> cases h
    | createTenant req =>
      simp only at h
      split at h <;> cases h
    | createProvision req => cases h
    | createInsert req =>
      simp only at h
      split at h <;> cases h
    | createAudit token expiresAt => cases h

/-! ### Runs -/

/-- A `provision_tenant` runs its `INSERT` while the tenant has no row. -/
def FirstInsert (s : State) : Act → Prop
  | .arrive _ => True
  | .advance i _ => ∀ req, s.requests[i]? = some (.provisionInsert req) → s.db.tenantRegistry req.tenantId = none

theorem answersMatch_step {a : Act} (hguard : FirstInsert s a) (hs : step s a = some s')
    (h : AnswersMatch s) :
    AnswersMatch s' := by
  cases a with
  | arrive req =>
    cases hs
    intro t clickhouseDb webhookSecret status hmem
    rcases List.mem_append.mp hmem with hmem | hmem
    · exact h t clickhouseDb webhookSecret status hmem
    · cases req <;> cases List.mem_singleton.mp hmem
  | advance i d =>
    simp only [step] at hs
    split at hs
    · cases hs
    · cases hs
    · rename_i pc hnot hi
      cases hs
      intro t clickhouseDb webhookSecret status hmem
      rcases List.mem_or_eq_of_mem_set hmem with hmem | heq
      · exact matches_kept (h t clickhouseDb webhookSecret status hmem)
      · obtain ⟨req, rfl, rfl, rfl, rfl, hdb⟩ := provisioned_of_stepRequest hnot heq.symm
        have hnone : s.db.tenantRegistry req.tenantId = none := hguard req hi
        have hrow : (stepRequest s.db d (.provisionInsert req)).1.tenantRegistry req.tenantId =
            some ⟨d.secretHex, "clickhouse_db_" ++ underscored req.tenantId, .object (llmKeys req)⟩ := by
          simp only [hdb, Db.insertTenant, hnone, Function.update_self]
        exact matches_of_stored hrow

/-- In every run in which each `provision_tenant` is the first to insert its tenant, its answers
carry the secret and the database that the registry holds. -/
theorem provisioned_matches_registry (s₀ s : State) (h₀ : Initial s₀) (h : Reach step FirstInsert s₀ s) :
    AnswersMatch s := by
  refine h.invariant ?_ answersMatch_step
  intro t clickhouseDb webhookSecret status hmem
  rw [h₀.requests] at hmem
  cases hmem

def emptyState : State := ⟨⟨fun _ => none, fun _ => none, []⟩, []⟩

def provisionDraw (secretHex : String) : Draw := ⟨0, "token-1", secretHex, "secret", 1, "", false⟩

theorem initial_emptyState : Initial emptyState := ⟨fun _ => rfl, rfl, rfl⟩

def provisionActs (secrets : List String) : List Act :=
  secrets.zipIdx.flatMap fun (secretHex, i) =>
    [.arrive (.provisionTenant { tenantId := "acme" }), .advance i (provisionDraw secretHex)]

def provisionedOnce : State := (run step free emptyState (provisionActs ["aa"])).getD emptyState

theorem reach_provisionedOnce : Reach step FirstInsert emptyState provisionedOnce := by
  have harrive : Reach step FirstInsert emptyState
      ⟨emptyState.db, [.provisionInsert { tenantId := "acme" }]⟩ :=
    Reach.refl.tail (a := .arrive (.provisionTenant { tenantId := "acme" })) trivial rfl
  refine harrive.tail (a := .advance 0 (provisionDraw "aa")) ?_ rfl
  intro req _
  rfl

theorem first_provisioning_answers_stored_secret :
    AnswersMatch provisionedOnce ∧
      provisionedOnce.requests = [.replied (.provisioned "acme" "clickhouse_db_acme" "aa" "provisioned")] :=
  ⟨provisioned_matches_registry emptyState provisionedOnce initial_emptyState reach_provisionedOnce, by decide⟩

def provisionedTwice : State := (run step free emptyState (provisionActs ["aa", "bb"])).getD emptyState

/-- The second answer carries a secret that was never stored. -/
theorem second_provisioning_answers_unstored_secret :
    ¬ ∀ s₀ s : State, Initial s₀ → Reach step free s₀ s → AnswersMatch s := by
  intro h
  have hmatch := h emptyState provisionedTwice initial_emptyState (.of_run (provisionActs ["aa", "bb"]) rfl)
    "acme" "clickhouse_db_acme" "bb" "provisioned" (by decide)
  obtain ⟨row, hrow, hsecret, -⟩ := hmatch.stored
  cases hrow
  exact absurd hsecret (by decide)

end SocFabric.Enrollment
