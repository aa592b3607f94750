import SocFabric.Lib.Sha256
import SocFabric.Lib.Text

/-!
# The ingest middleware (`core-ingest/main.go`, `core-ingest/tenant_registry.go`)

`IngestionServer.ServeHTTP` up to the point where it hands the request to a handler, with
`AssertSignature`. What `Registry.FetchConfig` answers for a tenant is the argument `fetchConfig`.
The middleware checks a signature that is present, and nothing when none is: a request is
authenticated whenever it is delegated exactly if it brings a signature header or the internal key
(`delegates_authenticated_iff`).
-/

namespace SocFabric

/-- `TenantConfig`, without the cache's `UpdatedAt`. -/
structure TenantConfig where
  tenantID : String
  webhookSecret : List UInt8
  clickHouseDB : String
  llmProviderKey : String
deriving DecidableEq, Repr

def assertSignature (payload : List UInt8) (signatureHex : String) (secret : List UInt8) : Bool :=
  match Sha256.hexDecode signatureHex.toList with
  | none => false
  | some actualMac => actualMac = Sha256.hmac secret payload

namespace Ingest

/-- A request to core-ingest; headers under their canonical names. `bodyFails` is a body the client
stops sending. -/
structure Request where
  method : String
  path : String
  headers : List (String × String)
  body : List UInt8
  bodyFails : Bool := false
deriving DecidableEq, Repr

def Request.header (r : Request) (name : String) : String := (r.headers.lookup name).getD ""

/-- `io.ReadAll` behind `http.MaxBytesReader(w, r.Body, 2<<20)`. -/
def Request.readBody (r : Request) : Option (List UInt8) :=
  if r.bodyFails || 2097152 < r.body.length then none else some r.body

inductive Handler
  | databaseWebhook
  | agentPush
deriving DecidableEq, Repr

inductive Result
  | ok
  | error (statusCode : Nat) (message : String)
  | delegate (handler : Handler) (config : TenantConfig) (correlationID : String) (body : List UInt8)
deriving DecidableEq, Repr

def route (path : String) : Option Handler :=
  if path = "/api/v1/database/webhook" then some .databaseWebhook
  else if path = "/api/v1/agent/push" ∨ path = "/ingest/" ∨ path = "/ingest" then some .agentPush
  else none

def signature (r : Request) : String :=
  if r.header "X-Supabase-Signature" = "" then r.header "X-Signature-Auth"
  else r.header "X-Supabase-Signature"

def isInternalService (internalKey : String) (r : Request) : Bool :=
  internalKey ≠ "" && (r.header "Authorization" = "Bearer " ++ internalKey ||
    r.header "X-Internal-Service-Key" = internalKey)

def correlationID (newID : String) (r : Request) : String :=
  if r.header "X-Correlation-ID" = "" then newID else r.header "X-Correlation-ID"

def serveHTTP (internalKey : String) (fetchConfig : String → Option TenantConfig) (newID : String)
    (r : Request) : Result :=
  if r.path = "/" ∨ r.path = "/health" then .ok else
  if r.header "X-Tenant-ID" = "" then
    .error 400 "Access Denied: Missing X-Tenant-ID perimeter identifier" else
  match fetchConfig (r.header "X-Tenant-ID") with
  | none => .error 403 "Access Denied: Tenant context registration unauthorized"
  | some config =>
    match r.readBody with
    | none => .error 413 "Payload limit exceeded"
    | some body =>
      if !isInternalService internalKey r ∧ signature r ≠ "" ∧
          assertSignature body (signature r) config.webhookSecret = false then
        .error 403 "Access Denied: Cryptographic signature mismatch verification failed"
      else
        match route r.path with
        | some handler => .delegate handler config (correlationID newID r) body
        | none => .error 404 "Not Found"

/-! ### Authentication -/

/-- The request carries a signature of `body` under the tenant's secret, or the configured internal
service key. -/
def Authenticated (internalKey : String) (r : Request) (config : TenantConfig) (body : List UInt8) :
    Prop :=
  (∃ name ∈ ["X-Supabase-Signature", "X-Signature-Auth"], ∃ sig,
    r.headers.lookup name = some sig ∧ assertSignature body sig config.webhookSecret = true) ∨
  (internalKey ≠ "" ∧ (r.headers.lookup "Authorization" = some ("Bearer " ++ internalKey) ∨
    r.headers.lookup "X-Internal-Service-Key" = some internalKey))

/-- The request is turned away before the signature is looked at. -/
def TurnedAway (fetchConfig : String → Option TenantConfig) (r : Request) : Prop :=
  r.path = "/" ∨ r.path = "/health" ∨ r.header "X-Tenant-ID" = "" ∨
    fetchConfig (r.header "X-Tenant-ID") = none ∨ r.readBody = none ∨ route r.path = none

section
variable {internalKey newID : String} {fetchConfig : String → Option TenantConfig} {r : Request}
  {config : TenantConfig} {body : List UInt8}

theorem lookup_of_header {name v : String} (h : r.header name = v) (hv : v ≠ "") :
    r.headers.lookup name = some v := by
  unfold Request.header at h
  cases hl : r.headers.lookup name with
  | none => rw [hl] at h; exact absurd h.symm hv
  | some v' => rw [hl] at h; exact congrArg some h

theorem header_of_lookup {name v : String} (h : r.headers.lookup name = some v) : r.header name = v := by
  simp [Request.header, h]

theorem assertSignature_empty (payload secret : List UInt8) : assertSignature payload "" secret = false := by
  have hlen := Sha256.length_hmac secret payload
  have hne : [] ≠ Sha256.hmac secret payload := by
    intro h
    rw [← h] at hlen
    simp at hlen
  show decide ([] = Sha256.hmac secret payload) = false
  exact decide_eq_false hne

theorem isInternalService_iff : isInternalService internalKey r = true ↔
    internalKey ≠ "" ∧ (r.headers.lookup "Authorization" = some ("Bearer " ++ internalKey) ∨
      r.headers.lookup "X-Internal-Service-Key" = some internalKey) := by
  simp only [isInternalService, Bool.and_eq_true, Bool.or_eq_true, decide_eq_true_eq]
  refine and_congr_right fun hk => or_congr ⟨fun h => ?_, header_of_lookup⟩ ⟨fun h => ?_, header_of_lookup⟩
  · refine lookup_of_header h fun he => ?_
    have := congrArg String.length he
    simp [String.length_append] at this
  · exact lookup_of_header h hk

theorem authenticated_of_signature (hs : signature r ≠ "")
    (ha : assertSignature body (signature r) config.webhookSecret = true) :
    Authenticated internalKey r config body := by
  by_cases hsup : r.header "X-Supabase-Signature" = ""
  · have he : signature r = r.header "X-Signature-Auth" := by simp [signature, hsup]
    rw [he] at hs ha
    exact .inl ⟨_, by simp, _, lookup_of_header rfl hs, ha⟩
  · have he : signature r = r.header "X-Supabase-Signature" := by simp [signature, hsup]
    rw [he] at ha
    exact .inl ⟨_, by simp, _, lookup_of_header rfl hsup, ha⟩

theorem not_authenticated (hs : signature r = "") (hi : isInternalService internalKey r = false) :
    ¬ Authenticated internalKey r config body := by
  have hboth : r.header "X-Supabase-Signature" = "" ∧ r.header "X-Signature-Auth" = "" := by
    unfold signature at hs
    split_ifs at hs with h
    · exact ⟨h, hs⟩
    · exact absurd hs h
  rintro (⟨name, hname, sig, hl, ha⟩ | hint)
  · have hsig : sig = "" := by
      rw [← header_of_lookup hl]
      rcases List.mem_cons.mp hname with rfl | hname
      · exact hboth.1
      · rw [List.mem_singleton.mp hname]; exact hboth.2
    rw [hsig, assertSignature_empty] at ha
    cases ha
  · rw [isInternalService_iff.mpr hint] at hi
    cases hi

/-- A delegated request was not turned away, and its signature, if it shows one, holds or it shows
the internal key. -/
theorem serveHTTP_delegate {handler : Handler} {cid : String}
    (h : serveHTTP internalKey fetchConfig newID r = .delegate handler config cid body) :
    ¬ TurnedAway fetchConfig r ∧ (isInternalService internalKey r = true ∨ signature r = "" ∨
      assertSignature body (signature r) config.webhookSecret = true) := by
  unfold serveHTTP at h
  split_ifs at h with hp ht
  split at h
  · cases h
  rename_i hf
  split at h
  · cases h
  rename_i hb
  split_ifs at h with hsig
  split at h
  · rename_i hr
    cases h
    have hpath := not_or.mp hp
    refine ⟨fun hta => ?_, ?_⟩
    · rcases hta with h | h | h | h | h | h
      · exact hpath.1 h
      · exact hpath.2 h
      · exact ht h
      · rw [hf] at h; cases h
      · rw [hb] at h; cases h
      · rw [hr] at h; cases h
    · by_contra hno
      simp only [not_or, Bool.not_eq_true] at hno
      exact hsig ⟨by rw [hno.1]; rfl, hno.2.1, hno.2.2⟩
  · cases h

theorem serveHTTP_of_unsigned (h : ¬ TurnedAway fetchConfig r) (hs : signature r = "") :
    ∃ handler config cid body,
      serveHTTP internalKey fetchConfig newID r = .delegate handler config cid body := by
  simp only [TurnedAway, not_or] at h
  obtain ⟨hp, hh, ht, hf, hb, hr⟩ := h
  obtain ⟨config, hf⟩ := Option.ne_none_iff_exists'.mp hf
  obtain ⟨body, hb⟩ := Option.ne_none_iff_exists'.mp hb
  obtain ⟨handler, hr⟩ := Option.ne_none_iff_exists'.mp hr
  refine ⟨handler, config, correlationID newID r, body, ?_⟩
  simp [serveHTTP, hp, hh, ht, hf, hb, hr, hs]

end

/-- A request that is delegated is authenticated exactly if it is one that brings a signature header
or the internal key, or is turned away before that is looked at. -/
theorem delegates_authenticated_iff (internalKey : String) (fetchConfig : String → Option TenantConfig)
    (newID : String) (r : Request) :
    (∀ handler config cid body,
      serveHTTP internalKey fetchConfig newID r = .delegate handler config cid body →
        Authenticated internalKey r config body) ↔
      TurnedAway fetchConfig r ∨ isInternalService internalKey r = true ∨ signature r ≠ "" := by
  constructor
  · intro h
    by_contra hno
    simp only [not_or, not_not, Bool.not_eq_true] at hno
    obtain ⟨hta, hi, hs⟩ := hno
    obtain ⟨handler, config, cid, body, hd⟩ := serveHTTP_of_unsigned hta hs
    exact not_authenticated hs hi (h handler config cid body hd)
  · intro hc handler config cid body hd
    obtain ⟨hta, hsig⟩ := serveHTTP_delegate hd
    rcases hsig with hi | hs | ha
    · exact .inr (isInternalService_iff.mp hi)
    · rcases hc with hc | hi | hne
      · exact absurd hc hta
      · exact .inr (isInternalService_iff.mp hi)
      · exact absurd hs hne
    · rcases hc with hc | hi | hne
      · exact absurd hc hta
      · exact .inr (isInternalService_iff.mp hi)
      · exact authenticated_of_signature hne ha

/-- Anyone who knows a tenant id can push telemetry for it. -/
theorem unsigned_push_delegated :
    ¬ ∀ (internalKey : String) (fetchConfig : String → Option TenantConfig) (newID : String) (r : Request),
      ∀ handler config cid body,
        serveHTTP internalKey fetchConfig newID r = .delegate handler config cid body →
          Authenticated internalKey r config body := by
  intro h
  have hpush := h "service-key" (fun _ => some ⟨"acme-corp", [1, 35], "clickhouse_db_acme", "sk"⟩) "corr-1"
    ⟨"POST", "/ingest/", [("X-Tenant-ID", "acme-corp")], [123, 125], false⟩ .agentPush _ _ _ rfl
  exact not_authenticated rfl (by decide) hpush

end Ingest
end SocFabric
