import SocFabric.TenantContext

/-!
# Where the tenant of a request comes from

A `tenant_id` claim of the session always wins in `get_tenant_context`; without one the answer is
the `X-Tenant-ID` header. The middleware only ever reads the header, so the two resolutions agree
exactly on requests whose header repeats the claim, and a session minted by `login` or the Google
callback, which carries no such claim, speaks for whichever tenant its header names.
-/

namespace SocFabric
open Text

def SameButTenant (r r' : Request) : Prop :=
  r.withoutHeader "x-tenant-id" = r'.withoutHeader "x-tenant-id"

/-- The non-empty `X-Tenant-ID` header, or the rejection of a request that names no tenant. -/
def headerTenant (r : Request) : Except HttpError Json :=
  match truthy (r.header "x-tenant-id") with
  | some s => .ok (.str s)
  | none => .error noTenantContext

section
variable {r r' : Request} {jwt : Jwt} {env : Env}

theorem lookup_filter_ne {name name' : String} (h : name ≠ name') (l : List (String × String)) :
    (l.filter (·.1 != name')).lookup name = l.lookup name := by
  induction l with
  | nil => rfl
  | cons p l ih =>
    obtain ⟨k, v⟩ := p
    by_cases hk : k = name'
    · subst hk
      have hf : ((name == k) = false) := by simpa using h
      simp [List.lookup_cons, hf, ih]
    · rw [List.filter_cons_of_pos (by simpa using hk)]
      simp only [List.lookup_cons, ih]

theorem SameButTenant.header_eq (h : SameButTenant r r') (name : String) (hn : name ≠ "x-tenant-id") :
    r.header name = r'.header name := by
  have := congrArg (fun q : Request => q.headers.lookup name) h
  simpa only [Request.withoutHeader, Request.header, lookup_filter_ne hn] using this

theorem SameButTenant.cookies_eq (h : SameButTenant r r') : r.cookies = r'.cookies := by
  have := congrArg (fun q : Request => q.cookies) h
  exact this

theorem SameButTenant.sessionClaims_eq (h : SameButTenant r r') (jwt : Jwt) (env : Env) :
    sessionClaims jwt env r = sessionClaims jwt env r' := by
  simp only [sessionClaims, sessionToken, Request.cookie, h.cookies_eq,
    h.header_eq "authorization" (by decide)]

theorem SameButTenant.tenantClaim_eq (h : SameButTenant r r') (jwt : Jwt) (env : Env) :
    tenantClaim jwt env r = tenantClaim jwt env r' := by
  simp only [tenantClaim, h.sessionClaims_eq jwt env]

theorem getTenantContext_of_claim {t : Json} (h : tenantClaim jwt env r = some t) :
    getTenantContext jwt env r = .ok t := by
  simp only [getTenantContext, h]

/-- Without a claim the only possible tenant is a non-empty `X-Tenant-ID` header. -/
theorem getTenantContext_cases {T : Json} (h : getTenantContext jwt env r = .ok T) :
    tenantClaim jwt env r = some T ∨
      (tenantClaim jwt env r = none ∧ ∃ s, truthy (r.header "x-tenant-id") = some s ∧ T = .str s) := by
  cases hc : tenantClaim jwt env r with
  | some t =>
    rw [getTenantContext_of_claim hc] at h
    cases h
    exact .inl rfl
  | none =>
    refine .inr ⟨rfl, ?_⟩
    simp only [getTenantContext, hc] at h
    cases ht : truthy (r.header "x-tenant-id") with
    | some s =>
      refine ⟨s, rfl, ?_⟩
      cases hk : hasInternalKey env r with
      | false =>
        simp only [ht, hk] at h
        split_ifs at h
        cases h; rfl
      | true =>
        simp only [ht, hk] at h
        cases h; rfl
    | none =>
      cases hk : hasInternalKey env r <;> simp only [ht, hk] at h <;> split_ifs at h

theorem getTenantContext_of_session (hs : (sessionClaims jwt env r).isSome)
    (hc : tenantClaim jwt env r = none) : getTenantContext jwt env r = headerTenant r := by
  simp only [getTenantContext, headerTenant, hc, hs, Bool.true_or, if_true]
  cases truthy (r.header "x-tenant-id") <;> cases hasInternalKey env r <;> rfl

end

/-! ### The two resolutions -/

/-- The tenant in `tenant_id_ctx`, and with it the tenant evidence is fetched under, is `T`. -/
def ContextIs (r : Request) (T : Json) : Prop :=
  Json.str (contextTenant r) = T ∧ ∀ m, evidenceTenant (contextTenant r) = some m → Json.str m = T

/-- The `X-Tenant-ID` header names the tenant `t`; a missing header stands for the default. -/
def HeaderNames (r : Request) (t : Json) : Prop :=
  match r.header "x-tenant-id" with
  | some s => t = .str s
  | none => t = .str defaultFallbackTenant

theorem contextIs_iff_headerNames (r : Request) (T : Json) : ContextIs r T ↔ HeaderNames r T := by
  have hctx : HeaderNames r T ↔ Json.str (contextTenant r) = T := by
    unfold HeaderNames contextTenant
    cases r.header "x-tenant-id" <;> exact eq_comm
  rw [hctx, ContextIs, and_iff_left_iff_imp]
  rintro rfl m hm
  unfold evidenceTenant at hm
  split_ifs at hm
  cases hm; rfl

/-- Where `get_tenant_context` answers, the middleware has the same tenant exactly if the session
carries no `tenant_id` claim or the header repeats it. -/
theorem contextIs_tenant_iff (jwt : Jwt) (env : Env) (r : Request) {T : Json}
    (h : getTenantContext jwt env r = .ok T) :
    ContextIs r T ↔ ∀ t, tenantClaim jwt env r = some t → HeaderNames r t := by
  rw [contextIs_iff_headerNames]
  rcases getTenantContext_cases h with hc | ⟨hc, s, hs, rfl⟩
  · rw [hc]
    exact ⟨fun h t ht => by cases ht; exact h, fun h => h T rfl⟩
  · rw [hc]
    refine iff_of_true ?_ fun t ht => by cases ht
    simp only [HeaderNames, truthy_eq_some hs]

/-! ### A deployment -/

def asTenant (tenant : String) : Request := ⟨[("x-tenant-id", tenant)], [("access_token", "session")]⟩

theorem contextIs_tenant_iff_repeated : ContextIs (asTenant "tenant-a") (.str "tenant-a") :=
  (contextIs_tenant_iff (sessionJwt [("tenant_id", .str "tenant-a")]) production (asTenant "tenant-a")
    rfl).mpr fun t ht => by cases ht; rfl

/-- The claim says `tenant-a`, the header `tenant-b`: evidence is fetched under `tenant-b`. -/
theorem context_differs_from_tenant :
    ¬ ∀ (jwt : Jwt) (env : Env) (r : Request) (T : Json),
      getTenantContext jwt env r = .ok T → ContextIs r T := by
  intro h
  have := (h (sessionJwt [("tenant_id", .str "tenant-a")]) production (asTenant "tenant-b")
    (.str "tenant-a") rfl).1
  exact absurd (Json.str.inj this) (by decide)

/-! ### Sessions of the two login routes -/

theorem Minted.no_tenant {c : Claims} (h : Minted c) : Json.getTrue c "tenant_id" = none := by
  cases h <;> rfl

theorem headerTenant_inj {r r' : Request} :
    headerTenant r = headerTenant r' ↔
      truthy (r.header "x-tenant-id") = truthy (r'.header "x-tenant-id") := by
  unfold headerTenant
  cases truthy (r.header "x-tenant-id") <;> cases truthy (r'.header "x-tenant-id") <;> simp

/-- Of two requests that differ only in `X-Tenant-ID`, a session minted by a login route answers
each with its own header, and a session with a `tenant_id` claim answers both with the claim. -/
theorem getTenantContext_session (jwt : Jwt) (env : Env) {r r' : Request} (hsame : SameButTenant r r') :
    (∀ c, sessionClaims jwt env r = some c → Minted c →
      getTenantContext jwt env r = headerTenant r ∧ getTenantContext jwt env r' = headerTenant r' ∧
      (getTenantContext jwt env r = getTenantContext jwt env r' ↔
        truthy (r.header "x-tenant-id") = truthy (r'.header "x-tenant-id"))) ∧
    ∀ t, tenantClaim jwt env r = some t →
      getTenantContext jwt env r = .ok t ∧ getTenantContext jwt env r' = .ok t := by
  refine ⟨fun c hc hm => ?_, fun t ht => ?_⟩
  · have hclaim : tenantClaim jwt env r = none := by
      simp only [tenantClaim, hc, Option.bind_some, hm.no_tenant]
    have hr := getTenantContext_of_session (by rw [hc]; rfl) hclaim
    have hr' : getTenantContext jwt env r' = headerTenant r' :=
      getTenantContext_of_session (by rw [← hsame.sessionClaims_eq, hc]; rfl)
        (by rw [← hsame.tenantClaim_eq]; exact hclaim)
    exact ⟨hr, hr', by rw [hr, hr']; exact headerTenant_inj⟩
  · exact ⟨getTenantContext_of_claim ht,
      getTenantContext_of_claim (by rw [← hsame.tenantClaim_eq]; exact ht)⟩

theorem getTenantContext_session_analyst :
    getTenantContext (sessionJwt (loginClaims "analyst" "tier_1_analyst" 0)) production
        (asTenant "tenant-a") = .ok (.str "tenant-a") ∧
      getTenantContext (sessionJwt (loginClaims "analyst" "tier_1_analyst" 0)) production
        (asTenant "tenant-b") = .ok (.str "tenant-b") := by
  have h := (getTenantContext_session (sessionJwt (loginClaims "analyst" "tier_1_analyst" 0)) production
    (show SameButTenant (asTenant "tenant-a") (asTenant "tenant-b") from rfl)).1 _ rfl (.login ..)
  exact ⟨h.1, h.2.1⟩

theorem session_tenant_follows_header :
    ¬ ∀ (jwt : Jwt) (env : Env) (r r' : Request) (c : Claims), env.isDevelopment = false →
      SameButTenant r r' → sessionClaims jwt env r = some c → Minted c → hasInternalKey env r = false →
      getTenantContext jwt env r = getTenantContext jwt env r' := by
  intro h
  have heq := h (sessionJwt (loginClaims "analyst" "tier_1_analyst" 0)) production (asTenant "tenant-a")
    (asTenant "tenant-b") _ (by decide) rfl rfl (.login ..) rfl
  have : Except.ok (ε := HttpError) (Json.str "tenant-a") = .ok (.str "tenant-b") := heq
  exact absurd (Json.str.inj (Except.ok.inj this)) (by decide)

end SocFabric
