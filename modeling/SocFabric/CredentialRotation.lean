import SocFabric.Credentials
import Mathlib.Data.List.Nodup

/-!
# What a rotation revokes

After a rotation's `UPDATE` the old secret authenticates nobody (`Ordered`), and the endpoint is not
active until a registration with the new secret has been authenticated (`awaiting`). Both hold in
every run whose drawn secrets are new and whose rotations find no registration of the endpoint
between its authentication and its `UPDATE` (`rotation_revokes`). A registration that is in between
when the rotation commits makes the endpoint active again by its `endpoint_id`
(`rotated_endpoint_active_again`).
-/

namespace SocFabric.Credentials

variable {s s' : State} {a : Act} {e : String}

/-! ### The property -/

/-- A secret that was rotated out is not authenticated later. -/
def Ordered (earlier later : Event) : Prop :=
  ∀ e old new register e', earlier = .rotated e old new → later ≠ .authenticated register e' old

def awaitingStep (e : String) (acc : Option String) : Event → Option String
  | .rotated e' _ new => if e' = e then some new else acc
  | .authenticated register e' secret => if register ∧ e' = e ∧ acc = some secret then none else acc

/-- The secret of the endpoint's last rotation, until a registration that presents it is
authenticated. -/
def awaiting (e : String) (log : List Event) : Option String := log.foldl (awaitingStep e) none

/-- The rotations of the run have revoked what they replaced. -/
structure Revoked (s : State) : Prop where
  ordered : s.log.Pairwise Ordered
  inactive (row : Endpoint) : row ∈ s.rows → awaiting row.endpointId s.log ≠ none → row.status ≠ "active"

/-! ### What a step does -/

/-- The endpoint that a request between its authentication and its `UPDATE` registers. -/
def Pc.registers : Pc → Option String
  | .registerUpdate endpoint _ _ => some endpoint.endpointId
  | .registerFallback endpoint _ _ => some endpoint.endpointId
  | _ => none

def State.Registering (s : State) (i : Nat) (e : String) : Prop := (s.requests i).bind Pc.registers = some e

inductive Effect (s : State) (a : Act) (s' : State) : Prop
  | quiet : s'.rows = s.rows → s'.issued = s.issued → s'.log = s.log →
      (∀ j e, s'.Registering j e → s.Registering j e) → Effect s a s'
  | enroll (row : Endpoint) : a = .enroll row.endpointId row.tenantId row.endpointSecret →
      row.endpointId ∉ s.rows.map (·.endpointId) → s'.rows = s.rows ++ [row] →
      s'.issued = s.issued ++ [row.endpointSecret] → s'.log = s.log →
      (∀ j e, s'.Registering j e → s.Registering j e) → Effect s a s'
  | authenticate (row : Endpoint) (register : Bool) : row ∈ s.rows → s'.rows = s.rows → s'.issued = s.issued →
      s'.log = s.log ++ [.authenticated register row.endpointId row.endpointSecret] →
      (∀ j e, s'.Registering j e → s.Registering j e ∨ (register = true ∧ e = row.endpointId)) → Effect s a s'
  | activate (i : Nat) (e : String) (change : Option Metadata → Metadata) : s.Registering i e →
      s'.rows = markActive e change s.rows → s'.issued = s.issued → s'.log = s.log →
      (∀ j e, s'.Registering j e → s.Registering j e) → Effect s a s'
  | rotate (i : Nat) (row : Endpoint) (d : Draw) (tenantId : String) : a = .advance i d →
      s.requests i = some (.rotateUpdate row.endpointId tenantId) → row ∈ s.rows →
      s'.rows = replaceSecret row.endpointId d.secret s.rows → s'.issued = s.issued ++ [d.secret] →
      s'.log = s.log ++ [.rotated row.endpointId row.endpointSecret d.secret] →
      (∀ j e, s'.Registering j e → s.Registering j e) → Effect s a s'

theorem registering_setRequest {i j : Nat} {pc : Pc} (h : (s.setRequest i pc).Registering j e) :
    s.Registering j e ∨ (j = i ∧ pc.registers = some e) := by
  by_cases hj : j = i
  · simp only [State.Registering, State.setRequest, hj, Function.update_self] at h
    exact .inr ⟨hj, h⟩
  · simp only [State.Registering, State.setRequest, Function.update_of_ne hj] at h
    exact .inl h

/-- A request that moves to a place outside a registration. -/
theorem registering_of_setRequest {i j : Nat} (pc : Pc) (hpc : pc.registers = none)
    (h : (s.setRequest i pc).Registering j e) : s.Registering j e := by
  rcases registering_setRequest h with h | ⟨-, h⟩
  · exact h
  · rw [hpc] at h
    cases h

theorem quiet_setRequest {i : Nat} {pc : Pc} (hpc : pc.registers = none) : Effect s a (s.setRequest i pc) :=
  .quiet rfl rfl rfl fun _ _ => registering_of_setRequest pc hpc

/-- Who passes authentication presented the secret of a row. -/
theorem authenticate_ok {rows : List Endpoint} {authorization xTenantId : Option String} {route : Route}
    {endpoint : Context} (h : authenticate rows authorization xTenantId route = .ok endpoint) :
    ∃ row ∈ rows, bearerSecret authorization = some row.endpointSecret ∧ endpoint.endpointId = row.endpointId := by
  unfold authenticate at h
  have hbase : getBaseEndpointContext rows authorization xTenantId = .ok endpoint := by
    cases hb : getBaseEndpointContext rows authorization xTenantId with
    | error failure =>
      rw [hb] at h
      cases h
    | ok c =>
      rw [hb] at h
      simp only [bind, Except.bind, verifyEndpointSecret, verifyEndpointSecretForRegistration] at h
      split at h <;> split at h <;> cases h <;> rfl
  unfold getBaseEndpointContext at hbase
  split at hbase
  · cases hbase
  · rename_i secret hsecret
    split at hbase
    · cases hbase
    · rename_i row hrow
      split at hbase
      · cases hbase
      · cases hbase
        have hsame : row.endpointSecret = secret := by simpa using List.find?_some hrow
        exact ⟨row, List.mem_of_find?_eq_some hrow, hsame ▸ hsecret, rfl⟩

theorem stepRequest_effect {i : Nat} {d : Draw} {pc : Pc} (hi : s.requests i = some pc)
    (h : stepRequest s i d pc = some s') : Effect s (.advance i d) s' := by
  cases pc with
  | auth authorization xTenantId route =>
    simp only [stepRequest] at h
    split at h
    · cases h
      exact quiet_setRequest rfl
    · split at h
      · cases h
        exact quiet_setRequest rfl
      · rename_i endpoint hok
        cases h
        obtain ⟨row, hrow, hsecret, hid⟩ := authenticate_ok hok
        refine .authenticate row route.isRegister hrow rfl rfl (by rw [hsecret, hid]; rfl) ?_
        intro j e hj
        rcases registering_setRequest hj with hj | ⟨-, hpc⟩
        · exact .inl hj
        · cases route with
          | register req conn =>
            cases hpc
            exact .inr ⟨rfl, hid⟩
          | _ => cases hpc
  | registerUpdate endpoint req conn =>
    have hreg : s.Registering i endpoint.endpointId := by rw [State.Registering, hi]; rfl
    simp only [stepRequest] at h
    split at h
    · cases h
      refine .quiet rfl rfl rfl fun j e hj => ?_
      rcases registering_setRequest hj with hj | ⟨rfl, hpc⟩
      · exact hj
      · cases hpc
        exact hreg
    · split at h <;> cases h
      · exact quiet_setRequest rfl
      · exact .activate i endpoint.endpointId
          (fun _ => metadata req (.obj (capsData req conn)) (some (realIp req conn))) hreg rfl rfl rfl fun j e =>
          registering_of_setRequest (.replied _) rfl
  | registerFallback endpoint req conn =>
    have hreg : s.Registering i endpoint.endpointId := by rw [State.Registering, hi]; rfl
    simp only [stepRequest] at h
    split at h <;> cases h
    · exact quiet_setRequest rfl
    · exact .activate i endpoint.endpointId
        (fun old => metadata req req.capabilities (old.bind (·.ipAddress))) hreg rfl rfl rfl fun j e =>
        registering_of_setRequest (.replied _) rfl
  | serve endpoint route =>
    cases h
    exact quiet_setRequest rfl
  | rotateSelect endpointId =>
    simp only [stepRequest] at h
    split at h
    · cases h
      exact quiet_setRequest rfl
    · split at h <;> cases h <;> exact quiet_setRequest rfl
  | rotateUpdate endpointId tenantId =>
    simp only [stepRequest] at h
    split at h
    · cases h
      exact quiet_setRequest rfl
    · split at h
      · cases h
        exact quiet_setRequest rfl
      · rename_i row hrow
        cases h
        have hid : row.endpointId = endpointId := by simpa using List.find?_some hrow
        subst hid
        exact .rotate i row d tenantId rfl hi (List.mem_of_find?_eq_some hrow) rfl rfl rfl fun j e =>
          registering_of_setRequest (.rotateAudit _ _) rfl
  | rotateAudit endpointId tenantId =>
    simp only [stepRequest] at h
    split at h <;> cases h <;> exact quiet_setRequest rfl
  | replied reply => cases h

theorem step_effect (h : step s a = some s') : Effect s a s' := by
  cases a with
  | arrive i request =>
    simp only [step] at h
    split at h <;> cases h <;> exact quiet_setRequest rfl
  | advance i d =>
    obtain ⟨pc, hpc, h⟩ := Option.bind_eq_some_iff.mp h
    exact stepRequest_effect hpc h
  | enroll endpointId tenantId secret =>
    simp only [step] at h
    split at h <;> cases h
    rename_i hnew
    exact .enroll ⟨endpointId, tenantId, secret, "pending_register", none⟩ rfl hnew rfl rfl rfl fun _ _ h => h

/-! ### The invariant -/

theorem awaiting_append (log : List Event) (ev : Event) :
    awaiting e (log ++ [ev]) = awaitingStep e (awaiting e log) ev := by
  rw [awaiting, List.foldl_append]
  rfl

structure Inv (s : State) : Prop where
  ids : (s.rows.map (·.endpointId)).Nodup
  secrets : (s.rows.map (·.endpointSecret)).Nodup
  issued (row : Endpoint) : row ∈ s.rows → row.endpointSecret ∈ s.issued
  revoked (e old new : String) : .rotated e old new ∈ s.log →
    old ∈ s.issued ∧ ∀ row ∈ s.rows, row.endpointSecret ≠ old
  ordered : s.log.Pairwise Ordered
  waiting (e new : String) : awaiting e s.log = some new →
    (∃ row ∈ s.rows, row.endpointId = e) ∧
      (∀ row ∈ s.rows, row.endpointId = e → row.endpointSecret = new ∧ row.status ≠ "active") ∧
        ∀ i, ¬ s.Registering i e

def Pc.drawsSecret : Pc → Bool
  | .rotateUpdate _ _ => true
  | _ => false

/-- Drawn secrets are new. -/
def FreshSecrets (s : State) : Act → Prop
  | .advance i d => (s.requests i).any Pc.drawsSecret → d.secret ∉ s.issued
  | .enroll _ _ secret => secret ∉ s.issued
  | .arrive _ _ => True

instance (s : State) : (a : Act) → Decidable (FreshSecrets s a)
  | .advance i d => inferInstanceAs (Decidable ((s.requests i).any Pc.drawsSecret → d.secret ∉ s.issued))
  | .enroll _ _ secret => inferInstanceAs (Decidable (secret ∉ s.issued))
  | .arrive _ _ => .isTrue trivial

/-- Drawn secrets are new, and a rotation commits while no registration of the endpoint is between
its authentication and its `UPDATE`. -/
def NoneRegistering (s : State) (a : Act) : Prop :=
  FreshSecrets s a ∧ ∀ i d e tenantId, a = .advance i d → s.requests i = some (.rotateUpdate e tenantId) →
    ∀ j, ¬ s.Registering j e

theorem inv_init : Inv init where
  ids := List.nodup_nil
  secrets := List.nodup_nil
  issued _ h := by cases h
  revoked _ _ _ h := by cases h
  ordered := List.Pairwise.nil
  waiting _ _ h := by cases h

theorem map_endpointId_markActive (change : Option Metadata → Metadata) (rows : List Endpoint) :
    (markActive e change rows).map (·.endpointId) = rows.map (·.endpointId) := by
  rw [markActive]
  refine KeyedStore.map_update_column ?_ rows
  exact fun _ => rfl

theorem map_endpointSecret_markActive (change : Option Metadata → Metadata) (rows : List Endpoint) :
    (markActive e change rows).map (·.endpointSecret) = rows.map (·.endpointSecret) := by
  rw [markActive]
  refine KeyedStore.map_update_column ?_ rows
  exact fun _ => rfl

theorem map_endpointId_replaceSecret (new : String) (rows : List Endpoint) :
    (replaceSecret e new rows).map (·.endpointId) = rows.map (·.endpointId) := by
  rw [replaceSecret]
  refine KeyedStore.map_update_column ?_ rows
  exact fun _ => rfl

theorem mem_markActive {change : Option Metadata → Metadata} {rows : List Endpoint} {row : Endpoint}
    (h : row ∈ markActive e change rows) :
    ∃ old ∈ rows, row.endpointId = old.endpointId ∧ row.endpointSecret = old.endpointSecret ∧
      (old.endpointId ≠ e → row.status = old.status) := by
  obtain ⟨old, hold, rfl⟩ := List.mem_map.mp h
  refine ⟨old, hold, ?_⟩
  split
  · rename_i he
    exact ⟨rfl, rfl, fun hne => absurd he hne⟩
  · exact ⟨rfl, rfl, fun _ => rfl⟩

/-- After a rotation a row is the endpoint's with the new secret, or another one as it was. -/
theorem mem_replaceSecret {new : String} {rows : List Endpoint} {row : Endpoint}
    (h : row ∈ replaceSecret e new rows) :
    (row.endpointId = e ∧ row.endpointSecret = new ∧ row.status = "pending_register") ∨
      (row ∈ rows ∧ row.endpointId ≠ e) := by
  obtain ⟨old, hold, rfl⟩ := List.mem_map.mp h
  split
  · rename_i he
    exact .inl ⟨he, rfl, rfl⟩
  · rename_i hne
    exact .inr ⟨hold, hne⟩

theorem nodup_replaceSecret {new : String} {rows : List Endpoint} (hids : (rows.map (·.endpointId)).Nodup)
    (hsecrets : (rows.map (·.endpointSecret)).Nodup) (hnew : new ∉ rows.map (·.endpointSecret)) :
    ((replaceSecret e new rows).map (·.endpointSecret)).Nodup := by
  induction rows with
  | nil => exact List.nodup_nil
  | cons row rows ih =>
    rw [List.map_cons, List.nodup_cons] at hids hsecrets
    rw [List.map_cons, List.mem_cons, not_or] at hnew
    have htail := ih hids.2 hsecrets.2 hnew.2
    rw [replaceSecret, List.map_cons, List.map_cons, List.nodup_cons]
    refine ⟨fun hmem => ?_, htail⟩
    obtain ⟨row', hrow', hsame⟩ := List.mem_map.mp hmem
    rcases mem_replaceSecret hrow' with ⟨hid, hsec, -⟩ | ⟨hold, hne⟩
    · split at hsame
      · -- two rows of one endpoint
        rename_i he
        obtain ⟨old, hold, rfl⟩ := List.mem_map.mp hrow'
        refine hids.1 (List.mem_map.mpr ⟨old, hold, ?_⟩)
        rw [he, ← hid]
        split <;> rfl
      · exact hnew.1 (hsec.symm.trans hsame)
    · split at hsame
      · exact hnew.2 (List.mem_map.mpr ⟨row', hold, hsame⟩)
      · exact hsecrets.1 (List.mem_map.mpr ⟨row', hold, hsame⟩)

namespace Inv

/-- A secret that was never drawn is in no row. -/
theorem unused (hinv : Inv s) {secret : String} (hnew : secret ∉ s.issued) :
    secret ∉ s.rows.map (·.endpointSecret) := by
  intro h
  obtain ⟨row, hrow, hsame⟩ := List.mem_map.mp h
  exact hnew (hsame ▸ hinv.issued row hrow)

theorem of_enroll (hinv : Inv s) {row : Endpoint} (hid : row.endpointId ∉ s.rows.map (·.endpointId))
    (hnew : row.endpointSecret ∉ s.issued) (hrows : s'.rows = s.rows ++ [row])
    (hissued : s'.issued = s.issued ++ [row.endpointSecret]) (hlog : s'.log = s.log)
    (hreg : ∀ j e, s'.Registering j e → s.Registering j e) : Inv s' := by
  have hmem : ∀ {row'}, row' ∈ s'.rows → row' ∈ s.rows ∨ row' = row := by
    intro row' h
    rw [hrows, List.mem_append, List.mem_singleton] at h
    exact h
  have hunused := hinv.unused hnew
  refine ⟨?_, ?_, ?_, ?_, ?_, ?_⟩
  · rw [hrows, List.map_append]
    exact List.nodup_append.mpr ⟨hinv.ids, by simp, fun x hx y hy hxy => hid (by simp_all)⟩
  · rw [hrows, List.map_append]
    exact List.nodup_append.mpr ⟨hinv.secrets, by simp, fun x hx y hy hxy => hunused (by simp_all)⟩
  · intro row' h
    rw [hissued, List.mem_append, List.mem_singleton]
    exact (hmem h).imp (hinv.issued row') fun h => by rw [h]
  · intro e old new h
    obtain ⟨hold, hrows'⟩ := hinv.revoked e old new (hlog ▸ h)
    refine ⟨hissued ▸ List.mem_append_left _ hold, fun row' h' heq => ?_⟩
    rcases hmem h' with h' | rfl
    · exact hrows' row' h' heq
    · exact hnew (heq ▸ hold)
  · rw [hlog]
    exact hinv.ordered
  · intro e new h
    rw [hlog] at h
    obtain ⟨⟨row₀, hrow₀, he₀⟩, hrest, hnone⟩ := hinv.waiting e new h
    refine ⟨⟨row₀, hrows ▸ List.mem_append_left _ hrow₀, he₀⟩, fun row' h' he => ?_, fun j hj => hnone j (hreg j e hj)⟩
    rcases hmem h' with h' | rfl
    · exact hrest row' h' he
    · exact absurd (List.mem_map.mpr ⟨row₀, hrow₀, he₀.trans he.symm⟩) hid

theorem of_authenticate (hinv : Inv s) {row : Endpoint} {register : Bool} (hrow : row ∈ s.rows)
    (hrows : s'.rows = s.rows) (hissued : s'.issued = s.issued)
    (hlog : s'.log = s.log ++ [.authenticated register row.endpointId row.endpointSecret])
    (hreg : ∀ j e, s'.Registering j e → s.Registering j e ∨ (register = true ∧ e = row.endpointId)) : Inv s' := by
  refine ⟨hrows ▸ hinv.ids, hrows ▸ hinv.secrets, fun row' h => hissued ▸ hinv.issued row' (hrows ▸ h), ?_, ?_, ?_⟩
  · intro e old new h
    rw [hlog, List.mem_append, List.mem_singleton] at h
    rcases h with h | h
    · rw [hissued, hrows]
      exact hinv.revoked e old new h
    · cases h
  · rw [hlog, List.pairwise_append]
    refine ⟨hinv.ordered, List.pairwise_singleton .., fun ev hev ev' hev' => ?_⟩
    rw [List.mem_singleton] at hev'
    subst hev'
    rintro e old new register' e' rfl heq
    cases heq
    exact (hinv.revoked e _ new hev).2 row hrow rfl
  · intro e new h
    rw [hlog, awaiting_append, awaitingStep] at h
    split at h
    · cases h
    · rename_i hother
      obtain ⟨⟨row₀, hrow₀, he₀⟩, hrest, hnone⟩ := hinv.waiting e new h
      rw [hrows]
      refine ⟨⟨row₀, hrow₀, he₀⟩, hrest, fun j hj => ?_⟩
      -- a registration of the endpoint has presented the secret that is waited for
      rcases hreg j e hj with hj | ⟨hr, rfl⟩
      · exact hnone j hj
      · exact hother ⟨hr, rfl, by rw [h, (hrest row hrow rfl).1]⟩

theorem of_activate (hinv : Inv s) {i : Nat} {change : Option Metadata → Metadata} (hi : s.Registering i e)
    (hrows : s'.rows = markActive e change s.rows) (hissued : s'.issued = s.issued) (hlog : s'.log = s.log)
    (hreg : ∀ j e, s'.Registering j e → s.Registering j e) : Inv s' := by
  refine ⟨?_, ?_, ?_, ?_, hlog ▸ hinv.ordered, ?_⟩
  · rw [hrows, map_endpointId_markActive]
    exact hinv.ids
  · rw [hrows, map_endpointSecret_markActive]
    exact hinv.secrets
  · intro row h
    obtain ⟨old, hold, -, hsec, -⟩ := mem_markActive (hrows ▸ h)
    rw [hissued, hsec]
    exact hinv.issued old hold
  · intro e' old new h
    obtain ⟨hmem, hne⟩ := hinv.revoked e' old new (hlog ▸ h)
    refine ⟨hissued ▸ hmem, fun row hrow => ?_⟩
    obtain ⟨row', hrow', -, hsec, -⟩ := mem_markActive (hrows ▸ hrow)
    rw [hsec]
    exact hne row' hrow'
  · intro e' new h
    rw [hlog] at h
    obtain ⟨⟨row₀, hrow₀, he₀⟩, hrest, hnone⟩ := hinv.waiting e' new h
    have hother : e' ≠ e := fun he => hnone i (he ▸ hi)
    have hid : e' ∈ s'.rows.map (·.endpointId) := by
      rw [hrows, map_endpointId_markActive]
      exact List.mem_map.mpr ⟨row₀, hrow₀, he₀⟩
    refine ⟨List.mem_map.mp hid, fun row hrow he => ?_, fun j hj => hnone j (hreg j e' hj)⟩
    obtain ⟨old, hold, hid, hsec, hstatus⟩ := mem_markActive (hrows ▸ hrow)
    obtain ⟨hsecret, hinactive⟩ := hrest old hold (hid.symm.trans he)
    rw [hsec, hstatus fun h => hother (he.symm.trans (hid.trans h))]
    exact ⟨hsecret, hinactive⟩

theorem of_rotate (hinv : Inv s) {row : Endpoint} {new : String} (hrow : row ∈ s.rows) (hnew : new ∉ s.issued)
    (hnone : ∀ j, ¬ s.Registering j row.endpointId) (hrows : s'.rows = replaceSecret row.endpointId new s.rows)
    (hissued : s'.issued = s.issued ++ [new])
    (hlog : s'.log = s.log ++ [.rotated row.endpointId row.endpointSecret new])
    (hreg : ∀ j e, s'.Registering j e → s.Registering j e) : Inv s' := by
  have hunused := hinv.unused hnew
  refine ⟨?_, ?_, ?_, ?_, ?_, ?_⟩
  · rw [hrows, map_endpointId_replaceSecret]
    exact hinv.ids
  · rw [hrows]
    exact nodup_replaceSecret hinv.ids hinv.secrets hunused
  · intro row' h
    rw [hissued, List.mem_append, List.mem_singleton]
    rcases mem_replaceSecret (hrows ▸ h) with ⟨-, hsec, -⟩ | ⟨hold, -⟩
    · exact .inr hsec
    · exact .inl (hinv.issued row' hold)
  · intro e old new' h
    have hrevoked : old ∈ s.issued ∧ ∀ row' ∈ s.rows, row'.endpointId ≠ row.endpointId → row'.endpointSecret ≠ old := by
      rw [hlog, List.mem_append, List.mem_singleton] at h
      rcases h with h | h
      · obtain ⟨hold, hne⟩ := hinv.revoked e old new' h
        exact ⟨hold, fun row' hrow' _ => hne row' hrow'⟩
      · cases h
        refine ⟨hinv.issued row hrow, fun row' hrow' hne heq => ?_⟩
        exact hne (congrArg _ (List.inj_on_of_nodup_map hinv.secrets hrow' hrow heq))
    refine ⟨hissued ▸ List.mem_append_left _ hrevoked.1, fun row' h' heq => ?_⟩
    rcases mem_replaceSecret (hrows ▸ h') with ⟨-, hsec, -⟩ | ⟨hold, hne⟩
    · exact hnew (hsec ▸ heq ▸ hrevoked.1)
    · exact hrevoked.2 row' hold hne heq
  · rw [hlog, List.pairwise_append]
    refine ⟨hinv.ordered, List.pairwise_singleton .., fun ev _ ev' hev' => ?_⟩
    rw [List.mem_singleton] at hev'
    subst hev'
    rintro e old new register e' - heq
    cases heq
  · intro e new' h
    have hid : ∀ {e}, (∃ row' ∈ s.rows, row'.endpointId = e) → ∃ row' ∈ s'.rows, row'.endpointId = e := by
      intro e he
      have hmem : e ∈ s'.rows.map (·.endpointId) := by
        rw [hrows, map_endpointId_replaceSecret]
        exact List.mem_map.mpr he
      exact List.mem_map.mp hmem
    rw [hlog, awaiting_append, awaitingStep] at h
    split at h
    · rename_i he
      cases h
      subst he
      refine ⟨hid ⟨row, hrow, rfl⟩, fun row' hrow' he => ?_, fun j hj => hnone j (hreg j _ hj)⟩
      rcases mem_replaceSecret (hrows ▸ hrow') with ⟨-, hsec, hstatus⟩ | ⟨-, hne⟩
      · exact ⟨hsec, by rw [hstatus]; decide⟩
      · exact absurd he hne
    · rename_i he
      obtain ⟨hex, hrest, hnone'⟩ := hinv.waiting e new' h
      refine ⟨hid hex, fun row' hrow' he' => ?_, fun j hj => hnone' j (hreg j e hj)⟩
      rcases mem_replaceSecret (hrows ▸ hrow') with ⟨hsame, -, -⟩ | ⟨hold, -⟩
      · exact absurd (hsame.symm.trans he') he
      · exact hrest row' hold he'

theorem of_step (hinv : Inv s) (hguard : NoneRegistering s a) (h : step s a = some s') : Inv s' := by
  obtain ⟨hfresh, hsettled⟩ := hguard
  cases step_effect h with
  | quiet hrows hissued hlog hreg =>
    refine ⟨hrows ▸ hinv.ids, hrows ▸ hinv.secrets, fun row h => hissued ▸ hinv.issued row (hrows ▸ h), ?_,
      hlog ▸ hinv.ordered, ?_⟩
    · rw [hlog, hissued, hrows]
      exact hinv.revoked
    · intro e new h
      rw [hrows]
      obtain ⟨hex, hrest, hnone⟩ := hinv.waiting e new (hlog ▸ h)
      exact ⟨hex, hrest, fun j hj => hnone j (hreg j e hj)⟩
  | enroll row ha hid hrows hissued hlog hreg =>
    subst ha
    exact hinv.of_enroll hid hfresh hrows hissued hlog hreg
  | authenticate row register hrow hrows hissued hlog hreg =>
    exact hinv.of_authenticate hrow hrows hissued hlog hreg
  | activate i e change hi hrows hissued hlog hreg => exact hinv.of_activate hi hrows hissued hlog hreg
  | rotate i row d tenantId ha hi hrow hrows hissued hlog hreg =>
    subst ha
    have hnew : d.secret ∉ s.issued := hfresh (by rw [hi]; rfl)
    exact hinv.of_rotate hrow hnew (hsettled i d _ tenantId rfl hi) hrows hissued hlog hreg

theorem revokes (hinv : Inv s) : Revoked s where
  ordered := hinv.ordered
  inactive row hrow hne := by
    obtain ⟨new, hnew⟩ := Option.ne_none_iff_exists'.mp hne
    exact ((hinv.waiting _ new hnew).2.1 row hrow rfl).2

end Inv

/-- In every run that draws new secrets and rotates an endpoint only while none of its registrations
is between authentication and `UPDATE`, the rotations revoke what they replace. -/
theorem rotation_revokes (s : State) (h : Lts.Reach step NoneRegistering init s) : Revoked s :=
  (h.invariant (I := Inv) inv_init fun hguard hstep hinv => hinv.of_step hguard hstep).revokes

/-! ### Two runs -/

def enrolledRow (secret : String) : Endpoint := ⟨"e-7", "acme-corp", secret, "pending_register", none⟩

def enrolledState : State := { init with rows := [enrolledRow "old"], issued := ["old"] }

def rotating (pc : Pc) (s : State) : State := s.setRequest 1 pc

def rotatedState : State :=
  { rotating (.rotateAudit "e-7" "acme-corp")
      (rotating (.rotateUpdate "e-7" "acme-corp") (rotating (.rotateSelect "e-7") enrolledState)) with
    rows := [enrolledRow "new"], issued := ["old", "new"], log := [.rotated "e-7" "old" "new"] }

theorem rotating_idle {pc pc' : Pc} (hpc : pc.registers = none) (hpc' : pc'.registers = none) (j : Nat) :
    ¬ (rotating pc' (rotating pc enrolledState)).Registering j "e-7" := by
  intro h
  have henrolled := registering_of_setRequest pc hpc (registering_of_setRequest pc' hpc' h)
  cases henrolled

theorem reach_rotatedState : Lts.Reach step NoneRegistering init rotatedState := by
  have henroll : Lts.Reach step NoneRegistering init enrolledState :=
    Lts.Reach.refl.tail (a := .enroll "e-7" "acme-corp" "old") ⟨by decide, nofun⟩ rfl
  have harrive : Lts.Reach step NoneRegistering init (rotating (.rotateSelect "e-7") enrolledState) :=
    henroll.tail (a := .arrive 1 (.rotate "e-7")) ⟨trivial, nofun⟩ rfl
  have hselect : Lts.Reach step NoneRegistering init
      (rotating (.rotateUpdate "e-7" "acme-corp") (rotating (.rotateSelect "e-7") enrolledState)) := by
    refine harrive.tail (a := .advance 1 {}) ⟨by decide, ?_⟩ rfl
    intro i d e tenantId ha hi
    cases ha
    cases hi
  refine hselect.tail (a := .advance 1 { secret := "new" }) ⟨by decide, ?_⟩ rfl
  intro i d e tenantId ha hi
  cases ha
  cases hi
  exact rotating_idle rfl rfl

theorem rotated_endpoint_revoked : Revoked rotatedState ∧ awaiting "e-7" rotatedState.log = some "new" :=
  ⟨rotation_revokes rotatedState reach_rotatedState, rfl⟩

def registration : Route :=
  .register { hostname := "h", label := "l", type := "iaas", capabilities := .arr [], agentVersion := "1",
              os := "linux", region := "eu" } {}

/-- The registration is authenticated before the rotation and writes after it. -/
def registerAcrossRotation : List Act :=
  [.enroll "e-7" "acme-corp" "old", .arrive 0 (.agent (some "Bearer old") none registration), .advance 0 {},
    .arrive 1 (.rotate "e-7"), .advance 1 {}, .advance 1 { secret := "new" }, .advance 0 {}]

theorem rotated_endpoint_active_again : ¬ ∀ s, Lts.Reach step FreshSecrets init s → Revoked s := by
  intro h
  have hrevoked := h _ (Lts.Reach.get_run registerAcrossRotation (by decide +kernel))
  refine hrevoked.inactive _ (List.mem_cons_self ..) ?_ ?_
  · decide +kernel
  · decide +kernel

end SocFabric.Credentials
