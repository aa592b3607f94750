import SocFabric.Enrollment

/-!
# The cap of an enrolment token

`enroll_endpoint` checks `uses >= max_use` on the record it read, and consumes a use in a later
transaction whose `UPDATE` has no `WHERE uses < max_use`. In every run a token's `uses` counts the
endpoints created from it and no expired token is used (`Inv`), but the cap itself is kept only when
a request is admitted while the uses already *promised* leave room (`capGuard`): the uses consumed
so far plus the admitted requests that have not reached their transaction.
-/

namespace SocFabric.Enrollment
open Lts

/-- The token a request was admitted with and when it read it, from the checks on the record until
the transaction. -/
def Pc.admitted : Pc → Option (String × Int)
  | .enrollTenant token _ readAt | .enrollProvision token _ readAt
  | .enrollTransaction token _ readAt => some (token, readAt)
  | _ => none

def Pc.holds (token : String) (pc : Pc) : Bool :=
  match pc.admitted with
  | some (tk, _) => tk = token
  | none => false

/-- The admitted requests for `token` that have not run their transaction. -/
def State.inFlight (s : State) (token : String) : Nat := s.requests.countP (Pc.holds token)

def Db.rowsFrom (db : Db) (token : String) : Nat :=
  db.endpointInventory.countP (fun row => row.token = token)

/-- A token's endpoints are as many as its `uses` and at most its `max_use`, and no endpoint was
created from a token that had expired when its request read it. -/
structure CapOk (db : Db) : Prop where
  uses_eq : ∀ token t, db.enrollmentTokens token = some t → (db.rowsFrom token : Int) = t.uses
  cap : ∀ token t, db.enrollmentTokens token = some t → (db.rowsFrom token : Int) ≤ t.maxUse
  fresh : ∀ row ∈ db.endpointInventory, ∃ t,
    db.enrollmentTokens row.token = some t ∧ row.readAt ≤ t.expiresAt

/-- The step is no admission beyond the promised uses, and no token with a negative `max_use` is
issued. -/
def capGuard (s : State) : Act → Prop
  | .arrive _ => True
  | .advance i d =>
    match s.requests[i]? with
    | some (.enrollSelect token) =>
      match s.db.enrollmentTokens token with
      | some t => d.now ≤ t.expiresAt → t.uses < t.maxUse → t.uses + s.inFlight token < t.maxUse
      | none => True
    | some (.createInsert req) => 0 ≤ req.maxUse
    | _ => True

instance (s : State) (a : Act) : Decidable (capGuard s a) := by
  unfold capGuard
  repeat' split
  all_goals infer_instance

/-! ### What a statement can do -/

section
variable {db : Db} {d : Draw} {pc : Pc}

theorem validateToken_ok {record : Option TokenRow} {now : Int} {t : TokenRow}
    (h : validateToken record now = .ok t) : record = some t ∧ now ≤ t.expiresAt ∧ t.uses < t.maxUse := by
  unfold validateToken at h
  split at h
  · cases h
  split_ifs at h with he hm
  cases h
  exact ⟨rfl, by omega, by omega⟩

@[simp] theorem insertTenant_tokens (tenantId : String) (row : TenantRow) :
    (db.insertTenant tenantId row).enrollmentTokens = db.enrollmentTokens := by
  unfold Db.insertTenant; split <;> rfl

@[simp] theorem insertTenant_inventory (tenantId : String) (row : TenantRow) :
    (db.insertTenant tenantId row).endpointInventory = db.endpointInventory := by
  unfold Db.insertTenant; split <;> rfl

theorem enroll_some {token : String} {record : TokenRow} {readAt : Int} {db' : Db}
    (h : db.enroll token record readAt d = some db') :
    (∃ row, row.token = token ∧ row.readAt = readAt ∧
      db'.endpointInventory = row :: db.endpointInventory) ∧
    ∀ tk, db'.enrollmentTokens tk = if tk = token
      then (db.enrollmentTokens token).map fun t => { t with uses := t.uses + 1 }
      else db.enrollmentTokens tk := by
  unfold Db.enroll at h
  split_ifs at h
  split at h
  · rename_i hn
    cases h
    refine ⟨⟨_, rfl, rfl, rfl⟩, fun tk => ?_⟩
    split_ifs with htk
    · rw [htk, hn]; rfl
    · rfl
  · rename_i t ht
    split_ifs at h
    cases h
    refine ⟨⟨_, rfl, rfl, rfl⟩, fun tk => ?_⟩
    simp only [Function.update_apply, ht, Option.map_some]

theorem insertToken_some {token : String} {req : AdminEnrollmentTokenRequest} {expiresAt : Int}
    {db' : Db} (h : db.insertToken token req expiresAt = some db') :
    db.enrollmentTokens token = none ∧ db' = { db with
      enrollmentTokens := Function.update db.enrollmentTokens token
        (some ⟨req.tenantId, expiresAt, req.maxUse, 0⟩) } := by
  unfold Db.insertToken at h
  split_ifs at h with hc
  cases h
  simp only [Bool.or_eq_true, not_or, Option.isSome_iff_ne_none, ne_eq, not_not] at hc
  exact ⟨hc.1.1, rfl⟩

/-- Every outcome of a statement: the tokens and the inventory stay and the request is admitted no
further; or it is admitted; or a token is issued; or an enrolment commits. -/
theorem stepRequest_cases (db : Db) (d : Draw) (pc : Pc) :
    ((stepRequest db d pc).1.enrollmentTokens = db.enrollmentTokens ∧
      (stepRequest db d pc).1.endpointInventory = db.endpointInventory ∧
      ((stepRequest db d pc).2.admitted = pc.admitted ∨ (stepRequest db d pc).2.admitted = none)) ∨
    (∃ token t, pc = .enrollSelect token ∧ validateToken (db.enrollmentTokens token) d.now = .ok t ∧
      stepRequest db d pc = (db, .enrollTenant token t d.now)) ∨
    (∃ req expiresAt, pc = .createInsert req ∧ (stepRequest db d pc).2.admitted = none ∧
      db.insertToken d.token req expiresAt = some (stepRequest db d pc).1) ∨
    (∃ token record readAt, pc = .enrollTransaction token record readAt ∧
      (stepRequest db d pc).2.admitted = none ∧
      db.enroll token record readAt d = some (stepRequest db d pc).1) := by
  by_cases he : d.dbError = true
  · exact .inl ⟨by simp [stepRequest, he], by simp [stepRequest, he],
      .inr (by simp [stepRequest, he, Pc.admitted])⟩
  cases pc with
  | enrollSelect token =>
    cases hv : validateToken (db.enrollmentTokens token) d.now with
    | error reply => exact .inl (by simp [stepRequest, he, hv, Pc.admitted])
    | ok t => exact .inr (.inl ⟨token, t, rfl, hv, by simp [stepRequest, he, hv]⟩)
  | enrollTenant token record readAt =>
    refine .inl ?_
    cases ht : db.tenantRegistry record.tenantId <;> simp [stepRequest, he, ht, Pc.admitted]
  | enrollTransaction token record readAt =>
    cases ht : db.enroll token record readAt d with
    | none => exact .inl (by simp [stepRequest, he, ht, Pc.admitted])
    | some db' =>
      exact .inr (.inr (.inr ⟨token, record, readAt, rfl, by simp [stepRequest, he, ht, Pc.admitted],
        by simp [stepRequest, he, ht]⟩))
  | createTenant req =>
    refine .inl ?_
    cases ht : db.tenantRegistry req.tenantId <;> simp [stepRequest, he, ht, Pc.admitted]
  | createInsert req =>
    cases ht : db.insertToken d.token req (d.now + req.expiresIn * 1000000) with
    | none => exact .inl (by simp [stepRequest, he, ht, Pc.admitted])
    | some db' =>
      exact .inr (.inr (.inl ⟨req, d.now + req.expiresIn * 1000000, rfl,
        by simp [stepRequest, he, ht, Pc.admitted], by simp [stepRequest, he, ht]⟩))
  | _ => exact .inl (by simp [stepRequest, he, Pc.admitted])

end

/-! ### Invariants -/

/-- What every run keeps, whatever the interleaving. -/
structure Inv (s : State) : Prop where
  uses_eq : ∀ token t, s.db.enrollmentTokens token = some t → (s.db.rowsFrom token : Int) = t.uses
  fresh : ∀ row ∈ s.db.endpointInventory, ∃ t,
    s.db.enrollmentTokens row.token = some t ∧ row.readAt ≤ t.expiresAt
  admitted : ∀ pc ∈ s.requests, ∀ token readAt, pc.admitted = some (token, readAt) →
    ∃ t, s.db.enrollmentTokens token = some t ∧ readAt ≤ t.expiresAt

def Promised (s : State) : Prop :=
  ∀ token t, s.db.enrollmentTokens token = some t → t.uses + s.inFlight token ≤ t.maxUse

section
variable {s s' : State}

theorem step_advance {i : Nat} {d : Draw} (h : step s (.advance i d) = some s') :
    ∃ pc, s.requests[i]? = some pc ∧
      s' = ⟨(stepRequest s.db d pc).1, s.requests.set i (stepRequest s.db d pc).2⟩ := by
  simp only [step] at h
  split at h
  · cases h
  · cases h
  · cases h
    exact ⟨_, ‹_›, rfl⟩

theorem holds_iff {token : String} {pc : Pc} :
    pc.holds token = true ↔ ∃ readAt, pc.admitted = some (token, readAt) := by
  unfold Pc.holds
  split
  · rename_i tk readAt h
    simp [h]
  · rename_i h
    simp [h]

theorem holds_congr {token : String} {pc pc' : Pc} (h : pc'.admitted = pc.admitted) :
    pc'.holds token = pc.holds token := by
  unfold Pc.holds; rw [h]

theorem holds_of_none {token : String} {pc : Pc} (h : pc.admitted = none) : pc.holds token = false := by
  unfold Pc.holds; rw [h]

theorem inFlight_set {i : Nat} {pc : Pc} (hi : s.requests[i]? = some pc) (db : Db) (pc' : Pc)
    (token : String) :
    (State.mk db (s.requests.set i pc')).inFlight token + (pc.holds token).toNat =
      s.inFlight token + (pc'.holds token).toNat := by
  obtain ⟨hlt, rfl⟩ := List.getElem?_eq_some_iff.mp hi
  have hle := List.boole_getElem_le_countP (p := Pc.holds token) hlt
  have hnat : ∀ b : Bool, b.toNat = if b = true then 1 else 0 := by
    intro b
    cases b with
    | false => rfl
    | true => rfl
  simp only [State.inFlight, List.countP_set hlt, hnat]
  omega

/-- Tokens stay, with the expiry they were issued with. -/
def KeepsTokens (db db' : Db) : Prop :=
  ∀ token t, db.enrollmentTokens token = some t →
    ∃ t', db'.enrollmentTokens token = some t' ∧ t'.expiresAt = t.expiresAt

theorem keepsTokens_of_eq {db db' : Db} (h : db'.enrollmentTokens = db.enrollmentTokens) :
    KeepsTokens db db' := by
  intro token t ht
  exact ⟨t, by rw [h]; exact ht, rfl⟩

theorem keepsTokens_insert {db : Db} {token : String} (hn : db.enrollmentTokens token = none)
    (t₀ : TokenRow) :
    KeepsTokens db { db with enrollmentTokens := Function.update db.enrollmentTokens token (some t₀) } := by
  intro tk t ht
  have hne : tk ≠ token := by
    rintro rfl
    rw [hn] at ht
    cases ht
  exact ⟨t, by simp only [Function.update_of_ne hne]; exact ht, rfl⟩

theorem keepsTokens_enroll {db db' : Db} {token : String}
    (h : ∀ tk, db'.enrollmentTokens tk = if tk = token
      then (db.enrollmentTokens token).map fun t => { t with uses := t.uses + 1 }
      else db.enrollmentTokens tk) : KeepsTokens db db' := by
  intro tk t ht
  rw [h tk]
  split_ifs with htk
  · subst htk
    exact ⟨{ t with uses := t.uses + 1 }, by rw [ht]; rfl, rfl⟩
  · exact ⟨t, ht, rfl⟩

namespace Inv

theorem rowsFrom_eq_zero (h : Inv s) {token : String} (hn : s.db.enrollmentTokens token = none) :
    s.db.rowsFrom token = 0 := by
  refine List.countP_eq_zero.mpr fun row hrow htk => ?_
  obtain ⟨t, ht, -⟩ := h.fresh row hrow
  rw [of_decide_eq_true htk, hn] at ht
  cases ht

theorem inFlight_eq_zero (h : Inv s) {token : String} (hn : s.db.enrollmentTokens token = none) :
    s.inFlight token = 0 := by
  refine List.countP_eq_zero.mpr fun pc hpc htk => ?_
  obtain ⟨readAt, ha⟩ := holds_iff.mp htk
  obtain ⟨t, ht, -⟩ := h.admitted pc hpc token readAt ha
  rw [hn] at ht
  cases ht

/-- The requests of the next state hold admissions the old requests held, or the one just read. -/
theorem admitted_set (h : Inv s) {db' : Db} {i : Nat} {pc' : Pc} (hkeep : KeepsTokens s.db db')
    (hnew : ∀ token readAt, pc'.admitted = some (token, readAt) →
      ∃ t, s.db.enrollmentTokens token = some t ∧ readAt ≤ t.expiresAt) :
    ∀ pc ∈ s.requests.set i pc', ∀ token readAt, pc.admitted = some (token, readAt) →
      ∃ t, db'.enrollmentTokens token = some t ∧ readAt ≤ t.expiresAt := by
  intro pc hpc token readAt ha
  obtain ⟨t, ht, hle⟩ : ∃ t, s.db.enrollmentTokens token = some t ∧ readAt ≤ t.expiresAt := by
    rcases List.mem_or_eq_of_mem_set hpc with hpc | rfl
    · exact h.admitted pc hpc token readAt ha
    · exact hnew token readAt ha
  obtain ⟨t', ht', he⟩ := hkeep token t ht
  exact ⟨t', ht', he ▸ hle⟩

theorem fresh_keep (h : Inv s) {db' : Db} (hkeep : KeepsTokens s.db db') {row : EndpointRow}
    (hrow : row ∈ s.db.endpointInventory) :
    ∃ t, db'.enrollmentTokens row.token = some t ∧ row.readAt ≤ t.expiresAt := by
  obtain ⟨t, ht, hle⟩ := h.fresh row hrow
  obtain ⟨t', ht', he⟩ := hkeep _ t ht
  exact ⟨t', ht', he ▸ hle⟩

end Inv

theorem inv_initial (h : Initial s) : Inv s where
  uses_eq token t ht := by rw [h.tokens token] at ht; cases ht
  fresh row hrow := by rw [h.inventory] at hrow; cases hrow
  admitted pc hpc := by rw [h.requests] at hpc; cases hpc

theorem inv_advance {i : Nat} {d : Draw} {pc : Pc} (hi : s.requests[i]? = some pc) (h : Inv s) :
    Inv ⟨(stepRequest s.db d pc).1, s.requests.set i (stepRequest s.db d pc).2⟩ := by
  have hmem := List.mem_of_getElem? hi
  rcases stepRequest_cases s.db d pc with ⟨ht, hinv, ha⟩ | ⟨token, t, rfl, hv, he⟩ |
    ⟨req, expiresAt, rfl, ha, hins⟩ | ⟨token, record, readAt, rfl, ha, henr⟩
  · have hkeep := keepsTokens_of_eq ht
    refine ⟨fun token t htk => ?_, fun row hrow => h.fresh_keep hkeep (hinv ▸ hrow),
      h.admitted_set hkeep fun token readAt hpc => ?_⟩
    · rw [ht] at htk
      simpa only [Db.rowsFrom, hinv] using h.uses_eq token t htk
    · rcases ha with ha | ha
      · exact h.admitted pc hmem token readAt (ha ▸ hpc)
      · rw [ha] at hpc; cases hpc
  · rw [he]
    refine ⟨h.uses_eq, h.fresh, h.admitted_set (keepsTokens_of_eq rfl) fun tk readAt hpc => ?_⟩
    obtain ⟨htk, hle, -⟩ := validateToken_ok hv
    cases hpc
    exact ⟨t, htk, hle⟩
  · obtain ⟨hn, hdb⟩ := insertToken_some hins
    rw [hdb]
    have hkeep := keepsTokens_insert hn ⟨req.tenantId, expiresAt, req.maxUse, 0⟩
    refine ⟨fun token t htk => ?_, fun row hrow => h.fresh_keep hkeep hrow,
      h.admitted_set hkeep fun token readAt hpc => by rw [ha] at hpc; cases hpc⟩
    rcases eq_or_ne token d.token with rfl | hne
    · -- the issued token: nothing was created from it yet
      simp only [Function.update_self, Option.some.injEq] at htk
      subst htk
      exact congrArg Int.ofNat (h.rowsFrom_eq_zero hn)
    · simp only [Function.update_of_ne hne] at htk
      exact h.uses_eq token t htk
  · obtain ⟨⟨row, hrt, hra, hinv⟩, htok⟩ := enroll_some henr
    have hkeep := keepsTokens_enroll htok
    obtain ⟨t₀, ht₀, hle₀⟩ := h.admitted _ hmem token readAt rfl
    refine ⟨fun tk t htk => ?_, fun row' hrow => ?_,
      h.admitted_set hkeep fun token readAt hpc => by rw [ha] at hpc; cases hpc⟩
    · rw [htok tk] at htk
      simp only [Db.rowsFrom, hinv, List.countP_cons, hrt, decide_eq_true_eq]
      split_ifs at htk with hcase
      · subst hcase
        rw [ht₀] at htk
        cases htk
        have := h.uses_eq tk t₀ ht₀
        simp only [Db.rowsFrom] at this
        simp only [if_true]
        omega
      · rw [if_neg (Ne.symm hcase), Nat.add_zero]
        exact h.uses_eq tk t htk
    · rw [hinv] at hrow
      rcases List.mem_cons.mp hrow with rfl | hrow
      · obtain ⟨t', ht', he⟩ := hkeep token t₀ ht₀
        exact ⟨t', hrt ▸ ht', by rw [he, hra]; exact hle₀⟩
      · exact h.fresh_keep hkeep hrow

theorem inv_step {a : Act} (hs : step s a = some s') (h : Inv s) : Inv s' := by
  cases a with
  | arrive req =>
    cases hs
    refine ⟨h.uses_eq, h.fresh, fun pc hpc token readAt ha => ?_⟩
    rcases List.mem_append.mp hpc with hpc | hpc
    · exact h.admitted pc hpc token readAt ha
    · rw [List.mem_singleton.mp hpc] at ha
      cases req <;> cases ha
  | advance i d =>
    obtain ⟨pc, hi, rfl⟩ := step_advance hs
    exact inv_advance hi h

/-- One guarded step keeps the promise: an admission needs room, a commit turns one promised use
into a consumed one, an issued token has no promises yet. -/
theorem promised_advance {i : Nat} {d : Draw} {pc : Pc} (hi : s.requests[i]? = some pc)
    (hg : capGuard s (.advance i d)) (h : Inv s) (hp : Promised s) :
    Promised ⟨(stepRequest s.db d pc).1, s.requests.set i (stepRequest s.db d pc).2⟩ := by
  intro tk t htk
  have hset := inFlight_set hi (stepRequest s.db d pc).1 (stepRequest s.db d pc).2 tk
  simp only [capGuard, hi] at hg
  rcases stepRequest_cases s.db d pc with ⟨ht, -, ha⟩ | ⟨token, t₀, rfl, hv, he⟩ |
    ⟨req, expiresAt, rfl, ha, hins⟩ | ⟨token, record, readAt, rfl, ha, henr⟩
  · have hle : ((stepRequest s.db d pc).2.holds tk).toNat ≤ (pc.holds tk).toNat := by
      rcases ha with ha | ha
      · exact Nat.le_of_eq (congrArg Bool.toNat (holds_congr ha))
      · simp [holds_of_none ha]
    have := hp tk t (by rw [← ht]; exact htk)
    omega
  · rw [he] at htk hset ⊢
    simp only at htk hset ⊢
    obtain ⟨hrow, hle, hlt⟩ := validateToken_ok hv
    have hpc : ((Pc.enrollSelect token).holds tk).toNat = 0 := rfl
    have hold := hp tk t htk
    by_cases heq : tk = token
    · subst heq
      rw [hrow] at htk
      cases htk
      simp only [hrow] at hg
      have hroom := hg hle hlt
      have hone := Bool.toNat_le ((Pc.enrollTenant tk t d.now).holds tk)
      omega
    · have hzero : ((Pc.enrollTenant token t₀ d.now).holds tk).toNat = 0 := by
        simp [Pc.holds, Pc.admitted, Ne.symm heq]
      omega
  · obtain ⟨hn, hdb⟩ := insertToken_some hins
    rw [hdb] at htk
    have hz : ((stepRequest s.db d (.createInsert req)).2.holds tk).toNat = 0 := by
      simp [holds_of_none ha]
    rcases eq_or_ne tk d.token with rfl | hne
    · simp only [Function.update_self, Option.some.injEq] at htk
      have := h.inFlight_eq_zero hn
      subst htk
      have hg : 0 ≤ req.maxUse := hg
      simp only
      omega
    · simp only [Function.update_of_ne hne] at htk
      have := hp tk t htk
      omega
  · obtain ⟨-, htok⟩ := enroll_some henr
    have hz : ((stepRequest s.db d (.enrollTransaction token record readAt)).2.holds tk).toNat = 0 := by
      simp [holds_of_none ha]
    simp only [htok tk] at htk
    split_ifs at htk with hcase
    · subst hcase
      obtain ⟨t₀, ht₀, rfl⟩ := Option.map_eq_some_iff.mp htk
      have hself : ((Pc.enrollTransaction tk record readAt).holds tk).toNat = 1 := by
        simp [Pc.holds, Pc.admitted]
      have := hp tk t₀ ht₀
      simp only
      omega
    · have := hp tk t htk
      omega

theorem promised_step {a : Act} (hg : capGuard s a) (hs : step s a = some s') (h : Inv s)
    (hp : Promised s) : Promised s' := by
  cases a with
  | arrive req =>
    cases hs
    intro tk t htk
    have hz : req.entry.holds tk = false := by cases req <;> rfl
    have := hp tk t htk
    simpa [State.inFlight, List.countP_append, List.countP_cons, hz] using this
  | advance i d =>
    obtain ⟨pc, hi, rfl⟩ := step_advance hs
    exact promised_advance hi hg h hp

end

theorem inv_of_reach {s₀ s : State} (h₀ : Initial s₀) (h : Reach step free s₀ s) : Inv s :=
  h.invariant (inv_initial h₀) fun _ hs => inv_step hs

/-! ### The cap over runs -/

def seeded : State where
  db := {
    tenantRegistry := fun tenant => if tenant = "acme-corp" then
      some ⟨"0123456789abcdef", "clickhouse_db_acme", .text "sk-proj-mockopenai-key-acme"⟩ else none
    enrollmentTokens := fun _ => none
    endpointInventory := [] }
  requests := []

def drawAt (now : Int) (uuid : Nat) : Draw := ⟨now, "token-1", "feed", "secret", uuid, "", false⟩

def issue : List Act :=
  [.arrive (.createEnrollmentToken ⟨"acme-corp", 900, 1⟩), .advance 0 (drawAt 0 0), .advance 0 (drawAt 1 0)]

theorem initial_seeded : Initial seeded := ⟨fun _ => rfl, rfl, rfl⟩

/-- In every run whose admissions leave room for the uses already promised, every state keeps every
token's cap. -/
theorem capOk_of_guarded_run {s₀ s : State} (h₀ : Initial s₀) (h : Reach step capGuard s₀ s) :
    CapOk s.db := by
  have hinv := inv_of_reach h₀ h.toFree
  have hp : Inv s ∧ Promised s := by
    refine h.invariant (I := fun s => Inv s ∧ Promised s) ⟨inv_initial h₀, fun tk t ht => ?_⟩
      fun hg hs ⟨hi, hp⟩ => ⟨inv_step hs hi, promised_step hg hs hi hp⟩
    rw [h₀.tokens tk] at ht
    cases ht
  refine ⟨hinv.uses_eq, fun token t ht => ?_, hinv.fresh⟩
  have h₁ := hinv.uses_eq token t ht
  have h₂ := hp.2 token t ht
  omega

def inTurn : List Act := issue ++
  [.arrive (.enrollEndpoint "token-1"), .advance 1 (drawAt 2 0), .advance 1 (drawAt 3 0),
    .advance 1 (drawAt 4 101), .arrive (.enrollEndpoint "token-1"), .advance 2 (drawAt 5 0)]

def enrolledOnce : State := (run step capGuard seeded inTurn).getD seeded

theorem capOk_of_guarded_run_in_turn :
    CapOk enrolledOnce.db ∧ enrolledOnce.db.rowsFrom "token-1" = 1 :=
  ⟨capOk_of_guarded_run initial_seeded (Reach.of_run inTurn rfl), by decide⟩

/-- Both requests read the token before either transaction commits. -/
def race : List Act := issue ++
  [.arrive (.enrollEndpoint "token-1"), .arrive (.enrollEndpoint "token-1"),
    .advance 1 (drawAt 2 0), .advance 2 (drawAt 3 0), .advance 1 (drawAt 4 0), .advance 2 (drawAt 5 0),
    .advance 1 (drawAt 6 101), .advance 2 (drawAt 7 102)]

def raced : State := (run step free seeded race).getD seeded

theorem cap_exceeded_by_race :
    ¬ ∀ s₀ s : State, Initial s₀ → Reach step free s₀ s → CapOk s.db := by
  intro h
  have hr : Reach step free seeded raced := Reach.of_run race rfl
  have := (h seeded raced initial_seeded hr).cap "token-1" ⟨"acme-corp", 900000001, 1, 2⟩ (by decide)
  revert this
  decide

end SocFabric.Enrollment
