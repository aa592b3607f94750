import SocFabric.TenantContext

/-!
# Whom `verify_internal_auth` lets in

Outside development a caller has to show a session token signed under a key of the deployment, or
the service key. The signature is checked against what the clean-up leaves of `JWT_PUBLIC_KEY`, or
of `JWT_PRIVATE_KEY` where that is unset or empty. Where the clean-up leaves nothing, the token is
decoded with its signature unchecked, whatever `ENVIRONMENT` says, and whoever can write a token is
let in.
-/

namespace SocFabric
open Text

/-! ### What a request shows -/

/-- The token stands in the `access_token` cookie or behind `Bearer` in the `Authorization`
header. -/
def Request.Carries (r : Request) (token : String) : Prop :=
  r.cookie "access_token" = some token ∨ r.header "authorization" = some ("Bearer " ++ token)

/-- The keys of a deployment: what the clean-up leaves of each variable that is set, if anything. -/
def Env.jwtKeys (env : Env) : List String :=
  (([env.jwtPublicKey, env.jwtPrivateKey].filterMap id).map unquoteKey).filter (· ≠ "")

/-- What PyJWT documents: decoding under a key checks the RS256 signature and the expiry, and
decoding with `verify_signature` off reads any well-formed token, such as one of `alg: none`, which
is signed under no key. -/
structure Jwt.Rs256 (jwt : Jwt) (signed : (token key : String) → Prop) (expired : (token : String) → Prop) :
    Prop where
  decode_signed : ∀ {token key claims}, jwt.decode token key = some claims → signed token key
  decode_unexpired : ∀ {token key claims}, jwt.decode token key = some claims → ¬ expired token
  unsigned : ∃ token, token ≠ "" ∧ (jwt.decodeUnverified token).isSome ∧ ∀ key, ¬ signed token key

section
variable (signed : (token key : String) → Prop) (expired : (token : String) → Prop)

/-- The request carries an unexpired token signed under a key of the deployment. -/
def HasSession (env : Env) (r : Request) : Prop :=
  ∃ token, r.Carries token ∧ ¬ expired token ∧ ∃ key ∈ env.jwtKeys, signed token key

/-- The request names the service key of the deployment, and there is one. -/
def HasServiceKey (env : Env) (r : Request) : Prop :=
  ∃ key, key ≠ "" ∧ r.header "x-internal-service-key" = some key ∧
    pyOr env.internalServiceKey env.serviceKeyAtImport = key

end

/-! ### The two credentials as the code reads them -/

theorem newlines_eq_nil_iff {l : List Char} : unquoteKey.newlines l = [] ↔ l = [] := by
  fun_cases unquoteKey.newlines l <;> simp

/-- The clean-up of a key leaves nothing exactly if the key is made of quotes. -/
theorem unquoteKey_eq_empty_iff {key : String} :
    unquoteKey key = "" ↔ ∀ c ∈ key.toList, c ∈ "\"'".toList := by
  have hnil : unquoteKey key = "" ↔ (strip (fun c => "\"'".toList.contains c) key).toList = [] := by
    rw [unquoteKey, String.ofList_eq_empty_iff, newlines_eq_nil_iff]
  rw [hnil, strip_toList_eq_nil_iff]
  simp only [List.contains_iff_mem]

theorem carries_of_sessionToken {r : Request} {token : String} (h : sessionToken r = some token) :
    r.Carries token := by
  unfold sessionToken at h
  split at h
  next token' hc =>
    cases h
    exact .inl (truthy_eq_some hc)
  next hc =>
    have hb := truthy_eq_some h
    rw [Option.map_eq_some_iff] at hb
    obtain ⟨t, ht, rfl⟩ := hb
    have htext := afterPrefix_eq_some ht
    cases hh : r.header "authorization" with
    | none =>
      rw [hh] at htext
      exact absurd htext (by simp)
    | some text =>
      rw [hh, Option.getD_some] at htext
      refine .inr ?_
      rw [hh, ← String.ofList_toList (s := text), htext, String.ofList_append, String.ofList_toList]

theorem hasServiceKey_of_hasInternalKey {env : Env} {r : Request} (h : hasInternalKey env r = true) :
    HasServiceKey env r := by
  unfold hasInternalKey at h
  split at h
  next key hk => exact ⟨key, ne_empty_of_truthy hk, truthy_eq_some hk, of_decide_eq_true h⟩
  next => cases h

/-! ### Which deployments check the signature -/

/-- The text of the key `verify_internal_auth` uses, before its clean-up. -/
def Env.keyText (env : Env) : String := pyOr env.jwtPublicKey (env.jwtPrivateKey.getD "")

theorem sessionClaims_of_token {r : Request} {token : String} (jwt : Jwt) (env : Env)
    (h : sessionToken r = some token) :
    sessionClaims jwt env r =
      if unquoteKey env.keyText ≠ "" then jwt.decode token (unquoteKey env.keyText)
      else jwt.decodeUnverified token := by
  rw [sessionClaims, h]
  rfl

theorem verifyInternalAuth_eq_ok_iff {jwt : Jwt} {env : Env} {r : Request}
    (hprod : env.isDevelopment = false) :
    verifyInternalAuth jwt env r = .ok () ↔
      (sessionClaims jwt env r).isSome ∨ hasInternalKey env r = true := by
  rw [verifyInternalAuth, hprod, Bool.or_false]
  split_ifs with h
  · simpa using h
  · simpa using h

theorem keyText_mem_jwtKeys {env : Env} (h : unquoteKey env.keyText ≠ "") :
    unquoteKey env.keyText ∈ env.jwtKeys := by
  have hkey : some env.keyText ∈ [env.jwtPublicKey, env.jwtPrivateKey] := by
    unfold Env.keyText pyOr at h ⊢
    cases hpub : truthy env.jwtPublicKey with
    | some text =>
      rw [truthy_eq_some hpub]
      exact List.mem_cons_self
    | none =>
      rw [hpub, Option.getD_none] at h
      cases hpriv : env.jwtPrivateKey with
      | some text => exact List.mem_cons_of_mem _ List.mem_cons_self
      | none =>
        rw [hpriv] at h
        exact absurd rfl h
  rw [Env.jwtKeys, List.mem_filter]
  exact ⟨List.mem_map_of_mem (List.mem_filterMap.2 ⟨_, hkey, rfl⟩), decide_eq_true h⟩

section
variable {jwt : Jwt} {signed : (token key : String) → Prop} {expired : (token : String) → Prop} {env : Env}
  {r : Request}

/-- With a key left by the clean-up, a session the code accepts is signed and unexpired. -/
theorem hasSession_of_sessionClaims (hjwt : jwt.Rs256 signed expired) (hkey : unquoteKey env.keyText ≠ "")
    (h : (sessionClaims jwt env r).isSome) : HasSession signed expired env r := by
  obtain ⟨claims, hclaims⟩ := Option.isSome_iff_exists.1 h
  cases ht : sessionToken r with
  | none => simp only [sessionClaims, ht, reduceCtorEq] at hclaims
  | some token =>
    rw [sessionClaims_of_token jwt env ht, if_pos hkey] at hclaims
    exact ⟨token, carries_of_sessionToken ht, hjwt.decode_unexpired hclaims,
      _, keyText_mem_jwtKeys hkey, hjwt.decode_signed hclaims⟩

end

/-- A request whose only credential is the cookie `token`. -/
def withCookie (token : String) : Request := ⟨[], [("access_token", token)]⟩

theorem sessionToken_withCookie {token : String} (h : token ≠ "") :
    sessionToken (withCookie token) = some token := by
  simp [sessionToken, withCookie, Request.cookie, truthy, h]

theorem carries_withCookie_iff {token token' : String} : (withCookie token).Carries token' ↔ token = token' := by
  simp [Request.Carries, withCookie, Request.cookie, Request.header]

theorem not_hasServiceKey_withCookie (env : Env) (token : String) :
    ¬ HasServiceKey env (withCookie token) := by
  simp [HasServiceKey, withCookie, Request.header]

/-- Without a key the code lets in any cookie that decodes. -/
theorem unsigned_accepted {env : Env} {token : String} (jwt : Jwt) (hprod : env.isDevelopment = false)
    (hkey : unquoteKey env.keyText = "") (hne : token ≠ "") (h : (jwt.decodeUnverified token).isSome) :
    verifyInternalAuth jwt env (withCookie token) = .ok () := by
  rw [verifyInternalAuth_eq_ok_iff hprod, sessionClaims_of_token jwt env (sessionToken_withCookie hne),
    if_neg (not_not_intro hkey)]
  exact .inl h

/-- A deployment outside development lets in nobody but callers with a signed, unexpired session or
the service key, exactly if the key it verifies with has a character besides quotes. -/
theorem authenticated_iff_keyed (jwt : Jwt) (signed : (token key : String) → Prop)
    (expired : (token : String) → Prop) (env : Env) (hjwt : jwt.Rs256 signed expired)
    (hprod : env.isDevelopment = false) :
    (∀ r, verifyInternalAuth jwt env r = .ok () → HasSession signed expired env r ∨ HasServiceKey env r) ↔
      ∃ c ∈ (pyOr env.jwtPublicKey (env.jwtPrivateKey.getD "")).toList, c ∉ "\"'".toList := by
  have hkeyed : unquoteKey env.keyText ≠ "" ↔ ∃ c ∈ env.keyText.toList, c ∉ "\"'".toList := by
    rw [ne_eq, unquoteKey_eq_empty_iff]
    simp only [not_forall, exists_prop]
  refine Iff.trans ⟨fun h => ?_, fun hkey r hr => ?_⟩ hkeyed
  · intro hkey
    obtain ⟨token, hne, hdec, hunsigned⟩ := hjwt.unsigned
    rcases h _ (unsigned_accepted jwt hprod hkey hne hdec) with ⟨token', ht, -, key, -, hs⟩ | hs
    · rw [carries_withCookie_iff] at ht
      exact hunsigned key (ht ▸ hs)
    · exact not_hasServiceKey_withCookie env token hs
  · rcases (verifyInternalAuth_eq_ok_iff hprod).1 hr with hs | hs
    · exact .inl (hasSession_of_sessionClaims hjwt hkey hs)
    · exact .inr (hasServiceKey_of_hasInternalKey hs)

/-! ### A deployment -/

/-- The token with header `alg: none` and the one claim `sub: admin`. -/
def unsignedToken : String := "eyJhbGciOiJub25lIn0.eyJzdWIiOiJhZG1pbiJ9."

/-- PyJWT on the token `session`, signed under `public-key`, and the unsigned one. -/
def keyedJwt : Jwt where
  decode token key := if token = "session" ∧ key = "public-key" then some [("sub", .str "analyst")] else none
  decodeUnverified token :=
    if token = "session" then some [("sub", .str "analyst")]
    else if token = unsignedToken then some [("sub", .str "admin")] else none

theorem keyedJwt_rs256 :
    keyedJwt.Rs256 (fun token key => token = "session" ∧ key = "public-key") (fun _ => False) where
  decode_signed h := by
    simp only [keyedJwt] at h
    split_ifs at h with hs
    exact hs
  decode_unexpired _ := not_false
  unsigned := ⟨unsignedToken, by decide, by decide, fun key hs => absurd hs.1 (by decide)⟩

theorem production_authenticated :
    verifyInternalAuth keyedJwt production (withCookie "session") = .ok () ∧
      verifyInternalAuth keyedJwt production (withCookie unsignedToken) ≠ .ok () ∧
      ∀ r, verifyInternalAuth keyedJwt production r = .ok () →
        HasSession (fun token key => token = "session" ∧ key = "public-key") (fun _ => False) production r ∨
          HasServiceKey production r :=
  ⟨by decide, by decide,
    (authenticated_iff_keyed keyedJwt _ _ production keyedJwt_rs256 (by decide)).2 ⟨'p', by decide, by decide⟩⟩

/-- A production deployment with both key variables unset takes the unsigned token for a session. -/
theorem unkeyed_production_trusts_unsigned :
    ¬ ∀ (jwt : Jwt) (signed : (token key : String) → Prop) (expired : (token : String) → Prop) (env : Env)
        (r : Request), jwt.Rs256 signed expired → env.isDevelopment = false →
      verifyInternalAuth jwt env r = .ok () → HasSession signed expired env r ∨ HasServiceKey env r := by
  intro h
  have hok : verifyInternalAuth keyedJwt ⟨none, none, none, "", some "production"⟩ (withCookie unsignedToken) =
      .ok () := by decide
  rcases h keyedJwt _ _ _ _ keyedJwt_rs256 (by decide) hok with ⟨token, -, -, key, hkey, -⟩ | hs
  · exact absurd hkey List.not_mem_nil
  · exact not_hasServiceKey_withCookie _ _ hs

end SocFabric
