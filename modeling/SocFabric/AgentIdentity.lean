import SocFabric.AgentBootstrap
import SocFabric.CredentialRotation

/-!
# The identity of an agent

What an agent holds, in memory, on disk or on the wire, is the identity of a row of the hub, or one
whose secret a rotation has replaced (`Holds`). A polling agent has been registered under its
secret, so that its polls are let in exactly as long as the secret has not been rotated out
(`poll_authenticates_iff`); a rotation that falls into the registration itself makes no exception.
The identities an agent has been given are at most one more than its failures
(`enrolled_length_le`).
-/

namespace SocFabric.AgentBootstrap
open Text Credentials

/-! ### Rows and secrets of the hub -/

/-- What the primary key and the drawn secrets give. -/
structure Keyed (h : Credentials.State) : Prop where
  ids : (h.rows.map (·.endpointId)).Nodup
  secrets : (h.rows.map (·.endpointSecret)).Nodup
  issued (row : Endpoint) : row ∈ h.rows → row.endpointSecret ∈ h.issued
  revoked (e old new : String) : .rotated e old new ∈ h.log →
    old ∈ h.issued ∧ ∀ row ∈ h.rows, row.endpointSecret ≠ old

def IsRow (id : Identity) (row : Endpoint) : Prop :=
  row.endpointId = id.endpointId ∧ row.endpointSecret = id.endpointSecret ∧ row.tenantId = id.tenantId

/-- A rotation of the endpoint has replaced the secret. -/
def RotatedOut (h : Credentials.State) (id : Identity) : Prop :=
  ∃ new, .rotated id.endpointId id.endpointSecret new ∈ h.log

/-- The identity is that of a row with a status as said, unless its secret has been rotated out. -/
def Holds (P : String → Prop) (h : Credentials.State) (id : Identity) : Prop :=
  (∃ row ∈ h.rows, IsRow id row ∧ P row.status) ∨ RotatedOut h id

abbrev Known (h : Credentials.State) (id : Identity) : Prop := Holds (fun _ => True) h id

abbrev Registered (h : Credentials.State) (id : Identity) : Prop := Holds (· = "active") h id

section
variable {h h' : Credentials.State} {a : Credentials.Act} {id : Identity} {P : String → Prop}

theorem keyed_init : Keyed Credentials.init where
  ids := List.nodup_nil
  secrets := List.nodup_nil
  issued _ hmem := by cases hmem
  revoked _ _ _ hmem := by cases hmem

theorem Keyed.eq_of_id (hk : Keyed h) {row row' : Endpoint} (hrow : row ∈ h.rows) (hrow' : row' ∈ h.rows)
    (hid : row.endpointId = row'.endpointId) : row = row' :=
  List.inj_on_of_nodup_map hk.ids hrow hrow' hid

theorem Keyed.eq_of_secret (hk : Keyed h) {row row' : Endpoint} (hrow : row ∈ h.rows) (hrow' : row' ∈ h.rows)
    (hsec : row.endpointSecret = row'.endpointSecret) : row = row' :=
  List.inj_on_of_nodup_map hk.secrets hrow hrow' hsec

theorem Keyed.unused (hk : Keyed h) {secret : String} (hnew : secret ∉ h.issued) :
    secret ∉ h.rows.map (·.endpointSecret) := by
  intro hmem
  obtain ⟨row, hrow, rfl⟩ := List.mem_map.mp hmem
  exact hnew (hk.issued row hrow)

theorem Keyed.of_enroll (hk : Keyed h) {row : Endpoint} (hid : row.endpointId ∉ h.rows.map (·.endpointId))
    (hnew : row.endpointSecret ∉ h.issued) (hrows : h'.rows = h.rows ++ [row])
    (hissued : h'.issued = h.issued ++ [row.endpointSecret]) (hlog : h'.log = h.log) : Keyed h' := by
  have hunused := hk.unused hnew
  refine ⟨?_, ?_, ?_, ?_⟩
  · rw [hrows, List.map_append]
    exact List.nodup_append.mpr ⟨hk.ids, by simp, fun x hx y hy hxy => hid (by simp_all)⟩
  · rw [hrows, List.map_append]
    exact List.nodup_append.mpr ⟨hk.secrets, by simp, fun x hx y hy hxy => hunused (by simp_all)⟩
  · intro row' hrow'
    rw [hrows, List.mem_append, List.mem_singleton] at hrow'
    rw [hissued, List.mem_append, List.mem_singleton]
    exact hrow'.imp (hk.issued row') fun heq => by rw [heq]
  · intro e old new hmem
    obtain ⟨hold, hrows'⟩ := hk.revoked e old new (hlog ▸ hmem)
    refine ⟨hissued ▸ List.mem_append_left _ hold, fun row' hrow' heq => ?_⟩
    rw [hrows, List.mem_append, List.mem_singleton] at hrow'
    rcases hrow' with hrow' | rfl
    · exact hrows' row' hrow' heq
    · exact hnew (heq ▸ hold)

theorem Keyed.of_activate (hk : Keyed h) {e : String} {change : Option Metadata → Metadata}
    (hrows : h'.rows = markActive e change h.rows) (hissued : h'.issued = h.issued) (hlog : h'.log = h.log) :
    Keyed h' := by
  refine ⟨?_, ?_, ?_, ?_⟩
  · rw [hrows, map_endpointId_markActive]
    exact hk.ids
  · rw [hrows, map_endpointSecret_markActive]
    exact hk.secrets
  · intro row hrow
    obtain ⟨old, hold, -, hsec, -⟩ := mem_markActive (hrows ▸ hrow)
    rw [hissued, hsec]
    exact hk.issued old hold
  · intro e' old new hmem
    obtain ⟨hissue, hne⟩ := hk.revoked e' old new (hlog ▸ hmem)
    refine ⟨hissued ▸ hissue, fun row hrow => ?_⟩
    obtain ⟨row', hrow', -, hsec, -⟩ := mem_markActive (hrows ▸ hrow)
    rw [hsec]
    exact hne row' hrow'

theorem Keyed.of_rotate (hk : Keyed h) {row : Endpoint} {new : String} (hrow : row ∈ h.rows)
    (hnew : new ∉ h.issued) (hrows : h'.rows = replaceSecret row.endpointId new h.rows)
    (hissued : h'.issued = h.issued ++ [new])
    (hlog : h'.log = h.log ++ [.rotated row.endpointId row.endpointSecret new]) : Keyed h' := by
  refine ⟨?_, ?_, ?_, ?_⟩
  · rw [hrows, map_endpointId_replaceSecret]
    exact hk.ids
  · rw [hrows]
    exact nodup_replaceSecret hk.ids hk.secrets (hk.unused hnew)
  · intro row' hrow'
    rw [hissued, List.mem_append, List.mem_singleton]
    rcases mem_replaceSecret (hrows ▸ hrow') with ⟨-, hsec, -⟩ | ⟨hold, -⟩
    · exact .inr hsec
    · exact .inl (hk.issued row' hold)
  · intro e old new' hmem
    have hold : old ∈ h.issued ∧ ∀ row' ∈ h.rows, row'.endpointId ≠ row.endpointId → row'.endpointSecret ≠ old := by
      rw [hlog, List.mem_append, List.mem_singleton] at hmem
      rcases hmem with hmem | heq
      · obtain ⟨hissue, hne⟩ := hk.revoked e old new' hmem
        exact ⟨hissue, fun row' hrow' _ => hne row' hrow'⟩
      · cases heq
        exact ⟨hk.issued row hrow, fun row' hrow' hne hsec => hne (congrArg _ (hk.eq_of_secret hrow' hrow hsec))⟩
    refine ⟨hissued ▸ List.mem_append_left _ hold.1, fun row' hrow' hsec => ?_⟩
    rcases mem_replaceSecret (hrows ▸ hrow') with ⟨-, hnew', -⟩ | ⟨hrow'', hne⟩
    · exact hnew (hnew' ▸ hsec ▸ hold.1)
    · exact hold.2 row' hrow'' hne hsec

theorem Keyed.of_step (hk : Keyed h) (hfresh : FreshSecrets h a) (hs : Credentials.step h a = some h') :
    Keyed h' := by
  cases step_effect hs with
  | quiet hrows hissued hlog _ =>
    exact ⟨hrows ▸ hk.ids, hrows ▸ hk.secrets, hrows ▸ hissued ▸ hk.issued, hlog ▸ hissued ▸ hrows ▸ hk.revoked⟩
  | enroll row ha hid hrows hissued hlog _ =>
    subst ha
    exact hk.of_enroll hid hfresh hrows hissued hlog
  | authenticate row register _ hrows hissued hlog _ =>
    refine ⟨hrows ▸ hk.ids, hrows ▸ hk.secrets, hrows ▸ hissued ▸ hk.issued, fun e old new hmem => ?_⟩
    rw [hlog, List.mem_append, List.mem_singleton] at hmem
    rw [hissued, hrows]
    rcases hmem with hmem | heq
    · exact hk.revoked e old new hmem
    · cases heq
  | activate i e change _ hrows hissued hlog _ => exact hk.of_activate hrows hissued hlog
  | rotate i row d tenantId ha hi hrow hrows hissued hlog _ =>
    subst ha
    have hnew : d.secret ∉ h.issued := hfresh (by rw [hi]; rfl)
    exact hk.of_rotate hrow hnew hrows hissued hlog

/-! ### Identities over a step of the hub -/

theorem RotatedOut.of_step (hr : RotatedOut h id) (hs : Credentials.step h a = some h') : RotatedOut h' id := by
  obtain ⟨new, hmem⟩ := hr
  refine ⟨new, ?_⟩
  cases step_effect hs with
  | quiet _ _ hlog _ => exact hlog ▸ hmem
  | enroll _ _ _ _ _ hlog _ => exact hlog ▸ hmem
  | authenticate _ _ _ _ _ hlog _ => exact hlog ▸ List.mem_append_left _ hmem
  | activate _ _ _ _ _ _ hlog _ => exact hlog ▸ hmem
  | rotate _ _ _ _ _ _ _ _ _ hlog _ => exact hlog ▸ List.mem_append_left _ hmem

/-- A row as the registration of an endpoint leaves it. -/
theorem marked_mem (id : Identity) (e : String) (change : Option Metadata → Metadata) {rows : List Endpoint}
    {row : Endpoint} (hrow : row ∈ rows) :
    ∃ row' ∈ markActive e change rows, (IsRow id row → IsRow id row') ∧
      (row.endpointId = e → row'.status = "active") ∧ (row'.status = "active" ∨ row'.status = row.status) := by
  refine ⟨_, List.mem_map_of_mem hrow, ?_, ?_, ?_⟩
  · split
    · exact fun hid => hid
    · exact fun hid => hid
  · intro he
    rw [if_pos he]
  · split
    · exact .inl rfl
    · exact .inr rfl

/-- Only a rotation of the endpoint takes the row from an identity, and it logs the secret. -/
theorem Holds.of_step (hh : Holds P h id) (hP : P "active") (hk : Keyed h)
    (hs : Credentials.step h a = some h') : Holds P h' id := by
  rcases hh with ⟨row, hrow, hid, hstatus⟩ | hr
  · cases step_effect hs with
    | quiet hrows _ _ _ => exact .inl ⟨row, hrows ▸ hrow, hid, hstatus⟩
    | enroll _ _ _ hrows _ _ _ => exact .inl ⟨row, hrows ▸ List.mem_append_left _ hrow, hid, hstatus⟩
    | authenticate _ _ _ hrows _ _ _ => exact .inl ⟨row, hrows ▸ hrow, hid, hstatus⟩
    | activate i e change _ hrows _ _ _ =>
      obtain ⟨row', hrow', hkeep, -, hactive⟩ := marked_mem id e change hrow
      refine .inl ⟨row', hrows ▸ hrow', hkeep hid, ?_⟩
      rcases hactive with hactive | hsame
      · exact hactive ▸ hP
      · exact hsame ▸ hstatus
    | rotate i row' d tenantId _ _ hrow' hrows _ hlog _ =>
      by_cases hsame : row.endpointId = row'.endpointId
      · obtain rfl := hk.eq_of_id hrow hrow' hsame
        refine .inr ⟨d.secret, ?_⟩
        rw [hlog, ← hid.1, ← hid.2.1]
        exact List.mem_append_right _ List.mem_cons_self
      · refine .inl ⟨row, ?_, hid, hstatus⟩
        rw [hrows, replaceSecret]
        exact List.mem_map.mpr ⟨row, hrow, if_neg hsame⟩
  · exact .inr (hr.of_step hs)

/-- The row of a registration that the hub commits for the endpoint. -/
theorem Holds.markActive (hh : Known h id) {e : String} (change : Option Metadata → Metadata)
    (he : e = id.endpointId) (hrows : h'.rows = markActive e change h.rows) (hlog : h'.log = h.log) :
    Registered h' id := by
  rcases hh with ⟨row, hrow, hid, -⟩ | ⟨new, hmem⟩
  · obtain ⟨row', hrow', hkeep, hactive, -⟩ := marked_mem id e change hrow
    exact .inl ⟨row', hrows ▸ hrow', hkeep hid, hactive (hid.1.trans he.symm)⟩
  · exact .inr ⟨new, hlog ▸ hmem⟩

/-! ### Authentication -/

/-- A secret that a header can carry: `token_urlsafe` draws no blank. -/
def Sendable (secret : String) : Prop := secret ≠ "" ∧ ' ' ∉ secret.toList

theorem bearerSecret_bearer (hsend : Sendable id.endpointSecret) :
    bearerSecret id.bearer = some id.endpointSecret := by
  have hne : "Bearer " ++ id.endpointSecret ≠ "" := fun h => by
    have hlen := congrArg (fun s : String => s.toList.length) h
    simp at hlen
  have hall : id.endpointSecret.toList.takeWhile (· ≠ ' ') = id.endpointSecret.toList :=
    List.takeWhile_eq_self_iff.mpr fun c hc => decide_eq_true fun heq => hsend.2 (heq ▸ hc)
  rw [bearerSecret, Identity.bearer, truthy_some hne, Option.bind_some, String.toList_append, afterPrefix_append,
    Option.map_some, hall, String.ofList_toList]

/-- Who is let in under the secret of an identity is the endpoint of that identity. -/
theorem endpoint_of_authenticate (hk : Keyed h) (hknown : Known h id) (hsend : Sendable id.endpointSecret)
    {x : Option String} {route : Route} {endpoint : Context}
    (hok : authenticate h.rows id.bearer x route = .ok endpoint) :
    endpoint.endpointId = id.endpointId ∧ ¬ RotatedOut h id := by
  obtain ⟨row, hrow, hsecret, hid⟩ := authenticate_ok hok
  rw [bearerSecret_bearer hsend, Option.some.injEq] at hsecret
  have hnot : ¬ RotatedOut h id := by
    rintro ⟨new, hmem⟩
    exact (hk.revoked _ _ _ hmem).2 row hrow hsecret.symm
  obtain ⟨row', hrow', hid', -⟩ := hknown.resolve_right hnot
  obtain rfl := hk.eq_of_secret hrow hrow' (hsecret.symm.trans hid'.2.1.symm)
  exact ⟨hid.trans hid'.1, hnot⟩

theorem authenticate_of_active (hk : Keyed h) (hsend : Sendable id.endpointSecret) {row : Endpoint}
    (hrow : row ∈ h.rows) (hid : IsRow id row) (hstatus : row.status = "active") {x : Option String}
    (hx : ∀ t ∈ x, t = id.tenantId) {route : Route} (hroute : route.isRegister = false) :
    authenticate h.rows id.bearer x route = .ok ⟨id.endpointId, id.tenantId, "active"⟩ := by
  have hfind : h.rows.find? (·.endpointSecret = id.endpointSecret) = some row := by
    cases hf : h.rows.find? (·.endpointSecret = id.endpointSecret) with
    | none =>
      have hno := List.find?_eq_none.mp hf row hrow
      simp [hid.2.1] at hno
    | some row' =>
      have hsec : row'.endpointSecret = id.endpointSecret := by simpa using List.find?_some hf
      rw [hk.eq_of_secret (List.mem_of_find?_eq_some hf) hrow (hsec.trans hid.2.1.symm)]
  have htenant : (truthy x).any (· ≠ row.tenantId) = false := by
    cases ht : truthy x with
    | none => rfl
    | some t => simp [hx t (truthy_eq_some ht), hid.2.2]
  have hbase : getBaseEndpointContext h.rows id.bearer x = .ok ⟨id.endpointId, id.tenantId, "active"⟩ := by
    rw [getBaseEndpointContext, bearerSecret_bearer hsend]
    simp only [hfind, htenant, Bool.false_eq_true, if_false]
    rw [hid.1, hid.2.2, hstatus]
  rw [authenticate, hbase]
  simp [hroute, verifyEndpointSecret, bind, Except.bind]

/-! ### The registration under way -/

/-- What the agent's own registration, at its place in the hub, knows of the agent's identity. -/
def OwnRequest (h : Credentials.State) (id : Identity) : Pc → Prop
  | .auth authorization _ route => authorization = id.bearer ∧ route.isRegister = true
  | .registerUpdate endpoint _ _ => endpoint.endpointId = id.endpointId
  | .registerFallback endpoint _ _ => endpoint.endpointId = id.endpointId
  | .replied (.registered _) => Registered h id
  | .replied _ => True
  | _ => False

theorem OwnRequest.of_step {pc : Pc} (ho : OwnRequest h id pc) (hk : Keyed h)
    (hs : Credentials.step h a = some h') : OwnRequest h' id pc := by
  cases pc with
  | replied reply =>
    cases reply with
    | registered response =>
      show Registered h' id
      have hreg : Registered h id := ho
      exact hreg.of_step rfl hk hs
    | _ => trivial
  | _ => exact ho

theorem ownRequest_advance {i : Nat} {d : Credentials.Draw} {pc : Pc} (ho : OwnRequest h id pc)
    (hk : Keyed h) (hknown : Known h id) (hsend : Sendable id.endpointSecret)
    (hs : stepRequest h i d pc = some h') :
    ∃ pc', h'.requests i = some pc' ∧ OwnRequest h' id pc' := by
  have hset (t : Credentials.State) (pc' : Pc) : (t.setRequest i pc').requests i = some pc' := Function.update_self ..
  cases pc with
  | auth authorization x route =>
    obtain ⟨rfl, hroute⟩ := ho
    simp only [stepRequest] at hs
    split at hs
    · cases hs
      exact ⟨_, hset .., trivial⟩
    · split at hs
      · cases hs
        exact ⟨_, hset .., trivial⟩
      · rename_i endpoint hok
        cases hs
        refine ⟨_, hset .., ?_⟩
        cases route with
        | register req conn => exact (endpoint_of_authenticate hk hknown hsend hok).1
        | _ => cases hroute
  | registerUpdate endpoint req conn =>
    simp only [stepRequest] at hs
    split at hs
    · cases hs
      exact ⟨_, hset .., ho⟩
    · split at hs
      · cases hs
        exact ⟨_, hset .., trivial⟩
      · cases hs
        exact ⟨_, hset .., hknown.markActive (fun _ => metadata req (.obj (capsData req conn)) (some (realIp req conn)))
          ho rfl rfl⟩
  | registerFallback endpoint req conn =>
    simp only [stepRequest] at hs
    split at hs
    · cases hs
      exact ⟨_, hset .., trivial⟩
    · cases hs
      exact ⟨_, hset .., hknown.markActive (fun old => metadata req req.capabilities (old.bind (·.ipAddress)))
        ho rfl rfl⟩
  | replied reply => cases hs
  | serve _ _ => cases ho
  | rotateSelect _ => cases ho
  | rotateUpdate _ _ => cases ho
  | rotateAudit _ _ => cases ho

/-- A statement moves one request. -/
theorem stepRequest_requests {i : Nat} {d : Credentials.Draw} {pc : Pc} (hs : stepRequest h i d pc = some h') :
    ∃ pc', h'.requests = Function.update h.requests i (some pc') := by
  cases pc <;> simp only [stepRequest] at hs
  case auth => split at hs <;> [skip; split at hs] <;> cases hs <;> exact ⟨_, rfl⟩
  case registerUpdate => split at hs <;> [skip; split at hs] <;> cases hs <;> exact ⟨_, rfl⟩
  case registerFallback => split at hs <;> cases hs <;> exact ⟨_, rfl⟩
  case serve => cases hs; exact ⟨_, rfl⟩
  case rotateSelect => split at hs <;> [skip; split at hs] <;> cases hs <;> exact ⟨_, rfl⟩
  case rotateUpdate => split at hs <;> [skip; split at hs] <;> cases hs <;> exact ⟨_, rfl⟩
  case rotateAudit => split at hs <;> cases hs <;> exact ⟨_, rfl⟩
  case replied => cases hs

theorem ownRequest_step {i : Nat} {pc : Pc} (hi : h.requests i = some pc) (ho : OwnRequest h id pc)
    (hk : Keyed h) (hknown : Known h id) (hsend : Sendable id.endpointSecret)
    (hs : Credentials.step h a = some h') : ∃ pc', h'.requests i = some pc' ∧ OwnRequest h' id pc' := by
  have hkeep (hsame : h'.requests i = h.requests i) : ∃ pc', h'.requests i = some pc' ∧ OwnRequest h' id pc' :=
    ⟨pc, hsame.trans hi, ho.of_step hk hs⟩
  cases a with
  | arrive j request =>
    by_cases hj : j = i
    · simp [Credentials.step, hj, hi] at hs
    · refine hkeep ?_
      simp only [Credentials.step] at hs
      split at hs <;> cases hs <;> exact Function.update_of_ne (Ne.symm hj) ..
  | advance j d =>
    obtain ⟨pc', hpc', hs'⟩ := Option.bind_eq_some_iff.mp hs
    by_cases hj : j = i
    · subst hj
      obtain rfl : pc' = pc := Option.some.inj (hpc'.symm.trans hi)
      exact ownRequest_advance ho hk hknown hsend hs'
    · refine hkeep ?_
      obtain ⟨pc'', hrequests⟩ := stepRequest_requests hs'
      rw [hrequests]
      exact Function.update_of_ne (Ne.symm hj) ..
  | enroll endpointId tenantId secret =>
    refine hkeep ?_
    simp only [Credentials.step] at hs
    split at hs <;> cases hs
    rfl

end

/-! ### Runs of the agent -/

variable {env : Env} {s s' : State} {a : Act} {id : Identity}

/-- Drawn secrets are new, and can be sent. -/
def Drawn (s : State) : Act → Prop
  | .enroll e t secret => FreshSecrets s.hub (.enroll e t secret) ∧ Sendable secret
  | .hub a => FreshSecrets s.hub a
  | _ => True

/-- An identity that the hub has given out. -/
def Genuine (h : Credentials.State) (id : Identity) : Prop := Known h id ∧ Sendable id.endpointSecret

/-- The process relies on the identity in its memory. -/
def Phase.identified : Phase → Bool
  | .registering .. | .saving | .polling => true
  | _ => false

structure Inv (s : State) : Prop where
  keyed : Keyed s.hub
  disk (path : String) (id : Identity) : File.identity (s.disk path) = some id → Genuine s.hub id
  memory : s.phase.identified = true → Genuine s.hub s.memory
  wire (id : Identity) : s.phase = .answered id → Genuine s.hub id
  request (stored : Bool) (i : Nat) : s.phase = .registering stored (some i) →
    ∃ pc, s.hub.requests i = some pc ∧ OwnRequest s.hub s.memory pc
  polling : s.phase = .polling → Registered s.hub s.memory

theorem inv_init : Inv init where
  keyed := keyed_init
  disk _ _ h := by cases h
  memory h := by cases h
  wire _ h := by cases h
  request _ _ h := by cases h
  polling h := by cases h

theorem Genuine.of_step (hg : Genuine s.hub id) (hk : Keyed s.hub) {b : Credentials.Act} {h' : Credentials.State}
    (hs : Credentials.step s.hub b = some h') : Genuine h' id :=
  ⟨hg.1.of_step trivial hk hs, hg.2⟩

/-- What a statement of the hub leaves of the invariant, while the process stays where it is. -/
theorem Inv.of_hub (hinv : Inv s) {b : Credentials.Act} {h' : Credentials.State} (hfresh : FreshSecrets s.hub b)
    (hs : Credentials.step s.hub b = some h') : Inv { s with hub := h' } where
  keyed := hinv.keyed.of_step hfresh hs
  disk path id h := (hinv.disk path id h).of_step hinv.keyed hs
  memory h := (hinv.memory h).of_step hinv.keyed hs
  wire id h := (hinv.wire id h).of_step hinv.keyed hs
  request stored i h := by
    obtain ⟨pc, hpc, ho⟩ := hinv.request stored i h
    have hmemory := hinv.memory (by rw [h]; rfl)
    exact ownRequest_step hpc ho hinv.keyed hmemory.1 hmemory.2 hs
  polling h := (hinv.polling h).of_step rfl hinv.keyed hs

/-- A process that is in no phase with an identity in use. -/
theorem Inv.of_idle (hinv : Inv s) (hhub : s'.hub = s.hub) (hdisk : s'.disk = s.disk)
    (hphase : s'.phase.identified = false) (hwire : ∀ id, s'.phase ≠ .answered id) : Inv s' where
  keyed := hhub ▸ hinv.keyed
  disk := hhub ▸ hdisk ▸ hinv.disk
  memory h := by rw [hphase] at h; cases h
  wire id h := absurd h (hwire id)
  request stored i h := by rw [h] at hphase; cases hphase
  polling h := by rw [h] at hphase; cases hphase

/-- A process that has an identity, and no answer or request on its way. -/
theorem Inv.of_identity (hkeyed : Keyed s.hub)
    (hdisk : ∀ path id, File.identity (s.disk path) = some id → Genuine s.hub id) (hmemory : Genuine s.hub s.memory)
    (hphase : s.phase = .saving ∨ ∃ stored, s.phase = .registering stored none) : Inv s where
  keyed := hkeyed
  disk := hdisk
  memory _ := hmemory
  wire id h := by
    rcases hphase with hphase | ⟨stored, hphase⟩
    · cases hphase.symm.trans h
    · cases hphase.symm.trans h
  request stored' i h := by
    rcases hphase with hphase | ⟨stored, hphase⟩
    · cases hphase.symm.trans h
    · cases hphase.symm.trans h
  polling h := by
    rcases hphase with hphase | ⟨stored, hphase⟩
    · cases hphase.symm.trans h
    · cases hphase.symm.trans h

theorem Inv.of_registrationFailed (hinv : Inv s) (stored : Bool) : Inv (s.registrationFailed stored) := by
  unfold State.registrationFailed
  split
  · exact hinv.of_idle rfl rfl rfl nofun
  · exact hinv.of_idle rfl rfl rfl nofun

theorem genuine_of_load (hinv : Inv s) (henv : env.endpointSecret = "")
    (h : loadStoredCredentials env s.disk = some id) : Genuine s.hub id := by
  have hgiven : env.given = none := if_neg fun hand => hand.1 henv
  rw [loadStoredCredentials, hgiven, Option.none_or] at h
  obtain ⟨path, -, hpath⟩ := List.exists_of_findSome?_eq_some h
  exact hinv.disk _ _ hpath

theorem genuine_of_saved (hinv : Inv s) (hmemory : Genuine s.hub s.memory) {outcome : Write} {path : String}
    (h : File.identity (saveCredentials env s.memory outcome s.disk path) = some id) : Genuine s.hub id := by
  cases outcome with
  | refused => exact hinv.disk path id h
  | written =>
    by_cases hpath : path = env.resolve (targetPath env)
    · subst hpath
      rw [identity_saved env s.disk hmemory.2.1] at h
      cases h
      exact hmemory
    · rw [saveCredentials, Function.update_of_ne hpath] at h
      exact hinv.disk path id h
  | truncated =>
    by_cases hpath : path = env.resolve (targetPath env)
    · subst hpath
      rw [saveCredentials, Function.update_self] at h
      cases h
    · rw [saveCredentials, Function.update_of_ne hpath] at h
      exact hinv.disk path id h

theorem Inv.of_start (hinv : Inv s) (henv : env.endpointSecret = "") (hs : step env s .start = some s') : Inv s' := by
  simp only [step] at hs
  split at hs
  · cases hs
  · split at hs <;> cases hs
    · rename_i id hload
      have hgen := genuine_of_load hinv henv hload
      exact Inv.of_identity hinv.keyed hinv.disk hgen (.inr ⟨true, rfl⟩)
    · exact hinv.of_idle rfl rfl rfl fun _ h => by cases h

/-- The agent's registration is a request of its own at the hub. -/
theorem Inv.of_register (hinv : Inv s) {i : Nat} {net : LanDiscovery.LocalNetwork} {conn : Connection}
    (hs : step env s (.register i net conn) = some s') : Inv s' := by
  simp only [step] at hs
  split at hs
  · rename_i stored hphase
    obtain ⟨h', hstep, rfl⟩ := Option.map_eq_some_iff.mp hs
    have hhub := hinv.of_hub (b := .arrive i (registerRequest env s.memory net conn)) trivial hstep
    have hmemory := hhub.memory (by simp [hphase, Phase.identified])
    refine ⟨hhub.keyed, hhub.disk, fun _ => hmemory, fun _ h => (by cases h), fun stored' j h => ?_,
      fun h => (by cases h)⟩
    cases h
    simp only [Credentials.step, registerRequest] at hstep
    split at hstep <;> cases hstep
    · rename_i hreq
      cases hreq
      exact ⟨_, Function.update_self .., rfl, rfl⟩
    · rename_i hreq
      cases hreq
  · cases hs

theorem Inv.of_registered (hinv : Inv s) (hs : step env s .registered = some s') : Inv s' := by
  simp only [step] at hs
  split at hs
  · rename_i stored i hphase
    obtain ⟨pc, hpc, ho⟩ := hinv.request stored i hphase
    split at hs <;> cases hs
    · rename_i response hreplied
      obtain rfl : pc = _ := Option.some.inj (hpc.symm.trans hreplied)
      have hmemory := hinv.memory (by simp [hphase, Phase.identified])
      exact ⟨hinv.keyed, hinv.disk, fun _ => hmemory, fun _ h => (by cases h), fun _ _ h => (by cases h),
        fun _ => ho⟩
    · exact hinv.of_registrationFailed stored
  · cases hs

/-- The identity that is given out is the one of the new row. -/
theorem Inv.of_enroll (hinv : Inv s) {e t secret : String} (hg : Drawn s (.enroll e t secret))
    (hs : step env s (.enroll e t secret) = some s') : Inv s' := by
  simp only [step] at hs
  split at hs
  · cases hs
  · obtain ⟨h', hstep, rfl⟩ := Option.map_eq_some_iff.mp hs
    have hhub := hinv.of_hub hg.1 hstep
    refine ⟨hhub.keyed, hhub.disk, fun h => (by cases h), fun id h => ?_, fun _ _ h => (by cases h),
      fun h => (by cases h)⟩
    cases h
    refine ⟨.inl ⟨⟨e, t, secret, "pending_register", none⟩, ?_, ⟨rfl, rfl, rfl⟩, trivial⟩, hg.2⟩
    simp only [Credentials.step] at hstep
    split at hstep <;> cases hstep
    exact List.mem_append_right _ List.mem_cons_self

theorem Inv.of_save (hinv : Inv s) {outcome : Write} (hs : step env s (.save outcome) = some s') : Inv s' := by
  simp only [step] at hs
  split at hs
  · cases hs
  · rename_i hphase
    cases hs
    have hmemory := hinv.memory (by simp [not_not.mp hphase, Phase.identified])
    have hsaved (path : String) (id : Identity)
        (h : File.identity (saveCredentials env s.memory outcome s.disk path) = some id) : Genuine s.hub id :=
      genuine_of_saved hinv hmemory h
    exact Inv.of_identity hinv.keyed hsaved hmemory (.inr ⟨false, rfl⟩)

theorem Inv.of_step (hinv : Inv s) (henv : env.endpointSecret = "") (hg : Drawn s a)
    (hs : step env s a = some s') : Inv s' := by
  cases a with
  | start => exact hinv.of_start henv hs
  | register i net conn => exact hinv.of_register hs
  | registered => exact hinv.of_registered hs
  | registerFails =>
    simp only [step] at hs
    split at hs <;> cases hs
    exact hinv.of_registrationFailed _
  | token minted =>
    simp only [step] at hs
    split at hs
    · cases hs
    · split at hs <;> cases hs
      · exact hinv.of_idle rfl rfl rfl fun _ h => by cases h
      · exact hinv.of_idle rfl rfl rfl fun _ h => by cases h
  | enroll e t secret => exact hinv.of_enroll hg hs
  | enrollFails =>
    simp only [step] at hs
    split at hs <;> cases hs
    exact hinv.of_idle rfl rfl rfl fun _ h => by cases h
  | deliver =>
    simp only [step] at hs
    split at hs <;> cases hs
    rename_i id hphase
    exact Inv.of_identity hinv.keyed hinv.disk (hinv.wire id hphase) (.inl rfl)
  | lose =>
    simp only [step] at hs
    split at hs <;> cases hs
    exact hinv.of_idle rfl rfl rfl fun _ h => by cases h
  | save outcome => exact hinv.of_save hs
  | crash =>
    simp only [step] at hs
    split at hs <;> cases hs <;> exact hinv.of_idle rfl rfl rfl fun _ h => by cases h
  | hub b =>
    obtain ⟨h', hstep, rfl⟩ := Option.map_eq_some_iff.mp hs
    exact hinv.of_hub hg hstep

/-- A polling agent is let in exactly as long as no rotation has replaced its secret. -/
theorem poll_authenticates_iff (henv : env.endpointSecret = "") (hreach : Lts.Reach (step env) Drawn init s)
    (hphase : s.phase = .polling) {x : Option String} (hx : ∀ t ∈ x, t = s.memory.tenantId) {route : Route}
    (hroute : route.isRegister = false) :
    authenticate s.hub.rows s.memory.bearer x route = .ok ⟨s.memory.endpointId, s.memory.tenantId, "active"⟩ ↔
      ¬ RotatedOut s.hub s.memory := by
  have hinv : Inv s := hreach.invariant inv_init fun hg hs hinv => hinv.of_step henv hg hs
  obtain ⟨hknown, hsend⟩ := hinv.memory (by rw [hphase]; rfl)
  constructor
  · exact fun hok => (endpoint_of_authenticate hinv.keyed hknown hsend hok).2
  · intro hnot
    obtain ⟨row, hrow, hid, hactive⟩ := (hinv.polling hphase).resolve_right hnot
    exact authenticate_of_active hinv.keyed hsend hrow hid hactive hx hroute

instance (secret : String) : Decidable (Sendable secret) := inferInstanceAs (Decidable (_ ∧ _))

instance decidableDrawn : ∀ (s : State) (a : Act), Decidable (Drawn s a)
  | s, .enroll e t secret => inferInstanceAs (Decidable (FreshSecrets s.hub (.enroll e t secret) ∧ Sendable secret))
  | s, .hub b => inferInstanceAs (Decidable (FreshSecrets s.hub b))
  | _, .start | _, .register .. | _, .registered | _, .registerFails | _, .token _ | _, .enrollFails | _, .deliver
  | _, .lose | _, .save _ | _, .crash => isTrue trivial

def tokenEnv : Env := { enrollmentToken := "token" }

def sampleNet : LanDiscovery.LocalNetwork := ⟨"10.0.0.5", "10.0.0.1", "10.0.0.0/24", []⟩

def bootstrap (secret : String) (request : Nat) : List Act :=
  [.start, .token none, .enroll secret "acme-corp" secret, .deliver, .save .written, .register request sampleNet {},
    .hub (.advance request {}), .hub (.advance request {}), .registered]

def polls : State := (Lts.run (step tokenEnv) Drawn init (bootstrap "s-7" 0)).get (by decide +kernel)

theorem bootstrapped_agent_polls :
    authenticate polls.hub.rows polls.memory.bearer (some "acme-corp") .agentTasks =
      .ok ⟨polls.memory.endpointId, polls.memory.tenantId, "active"⟩ ↔ ¬ RotatedOut polls.hub polls.memory :=
  poll_authenticates_iff (show tokenEnv.endpointSecret = "" from rfl)
    (Lts.Reach.get_run (bootstrap "s-7" 0) (by decide +kernel))
    (by decide +kernel) (x := some "acme-corp") (by decide +kernel) rfl

/-! ### How often an agent is enrolled -/

/-- The identities that the process has, or will have when it goes on without an enrolment. -/
def State.owned (env : Env) (s : State) : Nat :=
  match s.phase with
  | .acquiring | .enrolling => 0
  | .answered _ | .saving => 1
  | _ => if (loadStoredCredentials env s.disk).isSome then 1 else 0

structure Accounted (env : Env) (s : State) : Prop where
  enrolled : s.enrolled.length ≤ s.failures + s.unsaved + s.owned env
  wire (id : Identity) : s.phase = .answered id → id.endpointSecret ≠ ""
  memory : s.phase = .saving → s.memory.endpointSecret ≠ ""

theorem State.owned_le (env : Env) (s : State) : s.owned env ≤ 1 := by
  unfold State.owned
  split
  · exact Nat.zero_le 1
  · exact Nat.zero_le 1
  · exact Nat.le_refl 1
  · exact Nat.le_refl 1
  · split
    · exact Nat.le_refl 1
    · exact Nat.zero_le 1

theorem isSome_load_saved {disk : Disk} (h : id.endpointSecret ≠ "") :
    (loadStoredCredentials env (saveCredentials env id .written disk)).isSome = true := by
  have hsaved := identity_saved env disk h
  rw [targetPath] at hsaved
  rw [loadStoredCredentials, Option.isSome_or, Bool.or_eq_true, List.findSome?_isSome_iff]
  refine .inr ⟨joinPath env.baseDir ".agent_credentials.json", by simp [candidatePaths], ?_⟩
  rw [hsaved]
  rfl

theorem accounted_init (env : Env) : Accounted env init where
  enrolled := Nat.zero_le _
  wire _ h := by cases h
  memory h := by cases h

/-- A step that ends an attempt, and leaves the rest to the next start. -/
theorem Accounted.of_down (hacc : Accounted env s) (hphase : s'.phase = .down) (henr : s'.enrolled = s.enrolled)
    (hle : s.failures + s.unsaved + s.owned env ≤ s'.failures + s'.unsaved + s'.owned env) : Accounted env s' where
  enrolled := henr ▸ hacc.enrolled.trans hle
  wire id h := by rw [hphase] at h; cases h
  memory h := by rw [hphase] at h; cases h

theorem Accounted.of_registrationFailed (hacc : Accounted env s) {stored : Bool} {request : Option Nat}
    (hphase : s.phase = .registering stored request) : Accounted env (s.registrationFailed stored) := by
  unfold State.registrationFailed
  split
  · have hle := hacc.enrolled
    have hone := s.owned_le env
    exact ⟨show s.enrolled.length ≤ s.failures + 1 + s.unsaved + 0 by omega, nofun, nofun⟩
  · refine hacc.of_down rfl rfl (Nat.le_of_eq ?_)
    simp [State.owned, hphase]

theorem Accounted.of_start (hacc : Accounted env s) (hs : step env s .start = some s') : Accounted env s' := by
  have hle := hacc.enrolled
  simp only [step] at hs
  split at hs
  · cases hs
  · rename_i hphase
    split at hs <;> cases hs
    · refine ⟨?_, nofun, nofun⟩
      simpa [State.owned, not_not.mp hphase] using hle
    · rename_i hload
      refine ⟨?_, nofun, nofun⟩
      simpa [State.owned, not_not.mp hphase, hload] using hle

theorem Accounted.of_register (hacc : Accounted env s) {i : Nat} {net : LanDiscovery.LocalNetwork} {conn : Connection}
    (hs : step env s (.register i net conn) = some s') : Accounted env s' := by
  have hle := hacc.enrolled
  simp only [step] at hs
  split at hs
  · rename_i stored hphase
    obtain ⟨h', -, rfl⟩ := Option.map_eq_some_iff.mp hs
    refine ⟨?_, nofun, nofun⟩
    simpa [State.owned, hphase] using hle
  · cases hs

theorem Accounted.of_registered (hacc : Accounted env s) (hs : step env s .registered = some s') :
    Accounted env s' := by
  have hle := hacc.enrolled
  simp only [step] at hs
  split at hs
  · rename_i stored i hphase
    split at hs <;> cases hs
    · refine ⟨?_, nofun, nofun⟩
      simpa [State.owned, hphase] using hle
    · exact hacc.of_registrationFailed hphase
  · cases hs

theorem Accounted.of_token (hacc : Accounted env s) {minted : Option String}
    (hs : step env s (.token minted) = some s') : Accounted env s' := by
  have hle := hacc.enrolled
  simp only [step] at hs
  split at hs
  · cases hs
  · rename_i hphase
    have hzero : s.owned env = 0 := by simp [State.owned, not_not.mp hphase]
    rw [hzero] at hle
    split at hs <;> cases hs
    · exact ⟨hle, nofun, nofun⟩
    · exact hacc.of_down rfl rfl (by rw [hzero]; exact Nat.le_add_right _ _)

/-- One identity more is given out, and it is on its way. -/
theorem Accounted.of_enroll (hacc : Accounted env s) {endpointId tenantId secret : String}
    (hsend : Sendable secret) (hs : step env s (.enroll endpointId tenantId secret) = some s') : Accounted env s' := by
  have hle := hacc.enrolled
  simp only [step] at hs
  split at hs
  · cases hs
  · rename_i hphase
    obtain ⟨h', -, rfl⟩ := Option.map_eq_some_iff.mp hs
    have hzero : s.owned env = 0 := by simp [State.owned, not_not.mp hphase]
    refine ⟨?_, fun id h => ?_, nofun⟩
    · show (s.enrolled ++ [_]).length ≤ s.failures + s.unsaved + 1
      rw [List.length_append, List.length_singleton]
      omega
    · cases h
      exact hsend.1

theorem Accounted.of_enrollFails (hacc : Accounted env s) (hs : step env s .enrollFails = some s') :
    Accounted env s' := by
  simp only [step] at hs
  split at hs <;> cases hs
  rename_i hphase
  have hzero : s.owned env = 0 := by simp [State.owned, hphase]
  exact hacc.of_down rfl rfl (by rw [hzero]; exact Nat.le_add_right _ _)

theorem Accounted.of_deliver (hacc : Accounted env s) (hs : step env s .deliver = some s') : Accounted env s' := by
  have hle := hacc.enrolled
  simp only [step] at hs
  split at hs <;> cases hs
  rename_i id hphase
  refine ⟨?_, nofun, fun _ => hacc.wire id hphase⟩
  simpa [State.owned, hphase] using hle

theorem Accounted.of_lose (hacc : Accounted env s) (hs : step env s .lose = some s') : Accounted env s' := by
  have hone := s.owned_le env
  simp only [step] at hs
  split at hs <;> cases hs
  refine hacc.of_down rfl rfl ?_
  show _ ≤ s.failures + (s.unsaved + 1) + _
  omega

/-- The identity is on disk, or counts as unsaved. -/
theorem Accounted.of_save (hacc : Accounted env s) {outcome : Write} (hs : step env s (.save outcome) = some s') :
    Accounted env s' := by
  have hle := hacc.enrolled
  have hone := s.owned_le env
  simp only [step] at hs
  split at hs
  · cases hs
  · rename_i hphase
    have hmemory := hacc.memory (not_not.mp hphase)
    cases hs
    refine ⟨?_, nofun, nofun⟩
    show s.enrolled.length ≤ s.failures + (if outcome = .written then s.unsaved else s.unsaved + 1) +
      if (loadStoredCredentials env (saveCredentials env s.memory outcome s.disk)).isSome then 1 else 0
    by_cases hw : outcome = .written
    · subst hw
      rw [isSome_load_saved hmemory, if_pos rfl, if_pos rfl]
      omega
    · rw [if_neg hw]
      omega

/-- What is in memory only is lost, and counts as unsaved. -/
theorem Accounted.of_crash (hacc : Accounted env s) (hs : step env s .crash = some s') : Accounted env s' := by
  have hone := s.owned_le env
  simp only [step] at hs
  split at hs
  · cases hs
  · cases hs
    exact hacc.of_down rfl rfl (show _ ≤ s.failures + (s.unsaved + 1) + _ by omega)
  · cases hs
    exact hacc.of_down rfl rfl (show _ ≤ s.failures + (s.unsaved + 1) + _ by omega)
  · rename_i hdown hanswered hsaving
    cases hs
    refine hacc.of_down rfl rfl (Nat.add_le_add_left ?_ _)
    unfold State.owned
    split
    · exact Nat.zero_le _
    · exact Nat.zero_le _
    · exact absurd ‹_› (hanswered _)
    · exact absurd ‹_› hsaving
    · exact Nat.le_refl _

theorem Accounted.of_step (hacc : Accounted env s) (hg : Drawn s a) (hs : step env s a = some s') :
    Accounted env s' := by
  cases a with
  | start => exact hacc.of_start hs
  | register i net conn => exact hacc.of_register hs
  | registered => exact hacc.of_registered hs
  | registerFails =>
    simp only [step] at hs
    split at hs <;> cases hs
    rename_i hphase
    exact hacc.of_registrationFailed hphase
  | token minted => exact hacc.of_token hs
  | enroll e t secret => exact hacc.of_enroll hg.2 hs
  | enrollFails => exact hacc.of_enrollFails hs
  | deliver => exact hacc.of_deliver hs
  | lose => exact hacc.of_lose hs
  | save outcome => exact hacc.of_save hs
  | crash => exact hacc.of_crash hs
  | hub b =>
    obtain ⟨h', -, rfl⟩ := Option.map_eq_some_iff.mp hs
    exact ⟨hacc.enrolled, hacc.wire, hacc.memory⟩

/-- However often the agent is started anew, it is enrolled again only after a registration of its
stored identity has failed, or an enrolment has not got to its disk. -/
theorem enrolled_length_le (hreach : Lts.Reach (step env) Drawn init s) :
    s.enrolled.length ≤ s.failures + s.unsaved + 1 := by
  have hacc : Accounted env s := hreach.invariant (accounted_init env) fun hg hs hacc => hacc.of_step hg hs
  have hone := s.owned_le env
  have hle := hacc.enrolled
  omega

/-- The first answer is lost, and the second start finds nothing on disk. -/
def lostAnswer : List Act := [.start, .token none, .enroll "s-6" "acme-corp" "s-6", .lose] ++ bootstrap "s-7" 0

theorem lost_answer_enrolled_twice :
    ((Lts.run (step tokenEnv) Drawn init lostAnswer).get (by decide +kernel)).enrolled.length ≤
      ((Lts.run (step tokenEnv) Drawn init lostAnswer).get (by decide +kernel)).failures +
        ((Lts.run (step tokenEnv) Drawn init lostAnswer).get (by decide +kernel)).unsaved + 1 :=
  enrolled_length_le (Lts.Reach.get_run lostAnswer (by decide +kernel))

end SocFabric.AgentBootstrap
