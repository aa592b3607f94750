import SocFabric.GoogleAuth
import SocFabric.Lib.Url

/-!
# The state parameter of a sign-in (`interfaces/auth_google.py`)

The state token carries the redirect of the login, goes unescaped into the authorization URL, is
stored in a `VARCHAR(255)` column and comes back through the query of a URL. `state_round_trip_iff`
says for which redirects, and which settings, it comes back as it was stored.
-/

namespace SocFabric
namespace GoogleAuth
open Text

/-! ### The way through the browser -/

/-- What Starlette's `RedirectResponse` leaves unescaped in the `Location` header. -/
def starletteSafe : Char → Bool := Url.pySafe ":/%#?=@[]!$&'()*+,;"

/-- `location` is the `Location` header of a `RedirectResponse`. -/
def QuotesLocation (location : String → String) : Prop :=
  ∀ url, location url = .ofList (Url.quote starletteSafe url.toList)

def stateName : List Char := ['s', 't', 'a', 't', 'e']

/-- The state that Google reads from the URL of a `Location` header, and sends back. -/
def returnedState (location : String) : Option String :=
  (Url.param location.toList stateName).map String.ofList

theorem quotesUrl_starletteSafe : Url.QuotesUrl starletteSafe where
  percent := by decide
  plus := by decide
  hex := by
    intro c x h
    unfold Url.hexValue at h
    unfold starletteSafe Url.pySafe
    split_ifs at h with h₁ h₂ h₃
    · simp [h₁]
    · simp [h₂.1, Char.le_trans h₂.2 (by decide : 'F' ≤ 'Z')]
    · simp [h₃.1, Char.le_trans h₃.2 (by decide : 'f' ≤ 'z')]
  hash := ⟨by decide, by decide, by decide⟩
  question := ⟨by decide, by decide, by decide⟩
  ampersand := ⟨by decide, by decide, by decide⟩
  equals := ⟨by decide, by decide, by decide⟩

theorem plainName_state : Url.PlainName starletteSafe stateName where
  safe := by simp [stateName, starletteSafe, Url.pySafe]
  plain := by simp [stateName]
  reads := by decide

section
variable {location : String → String} (hloc : QuotesLocation location) (c : Credentials)

/-- The authorization URL as characters. -/
theorem toList_url (token : String) :
    (authorizationUrl c ++ "&state=" ++ token).toList =
      (authorizationUrl c).toList ++ '&' :: (stateName ++ '=' :: token.toList) := by
  have hname : "&state=".toList = '&' :: (stateName ++ ['=']) := rfl
  rw [String.toList_append, String.toList_append, hname]
  simp

theorem question_mem_authorizationUrl : '?' ∈ (authorizationUrl c).toList := by
  have h : '?' ∈ "?response_type=code&client_id=".toList := List.mem_cons_self
  simp only [authorizationUrl, String.toList_append, List.mem_append]
  exact .inl (.inl (.inl (.inl (.inr h))))

include hloc in
theorem toList_location (url : String) : (location url).toList = Url.quote starletteSafe url.toList := by
  rw [hloc, String.toList_ofList]

include hloc in
theorem returnedState_url (hhash : '#' ∉ (authorizationUrl c).toList) (token : String) :
    returnedState (location (authorizationUrl c ++ "&state=" ++ token)) =
      (returnedState (location (authorizationUrl c))).or
        (some (.ofList (Url.component ((token.toList.takeWhile (· ≠ '#')).takeWhile (· ≠ '&'))))) := by
  have hparam : Url.param (Url.quote starletteSafe ((authorizationUrl c).toList ++ '&' :: (stateName ++ '=' :: token.toList)))
      stateName = _ :=
    Url.param_quote_append quotesUrl_starletteSafe plainName_state hhash (question_mem_authorizationUrl c)
  rw [returnedState, returnedState, toList_location hloc, toList_location hloc, toList_url, hparam,
    Option.map_or]
  rfl

include hloc in
theorem returnedState_url_of_hash (hhash : '#' ∈ (authorizationUrl c).toList) (token : String) :
    returnedState (location (authorizationUrl c ++ "&state=" ++ token)) = returnedState (location (authorizationUrl c)) := by
  have hquery := Url.queryOf_quote_of_hash quotesUrl_starletteSafe hhash ('&' :: (stateName ++ '=' :: token.toList))
  rw [returnedState, returnedState, toList_location hloc, toList_location hloc, toList_url,
    Url.param, hquery, Url.param]

end

/-! ### Tokens -/

/-- What `secrets.token_urlsafe(32)` draws from. -/
def UrlSafe (rawState : String) : Prop :=
  rawState.toList.length = 43 ∧ ∀ c ∈ rawState.toList, c.isAlphanum = true ∨ c = '-' ∨ c = '_'

section
variable {raw raw' redirect redirect' : String}

theorem UrlSafe.not_mem (h : UrlSafe raw) {x : Char} (hx : x.isAlphanum = false) (hdash : x ≠ '-')
    (hlow : x ≠ '_') :
    x ∉ raw.toList := by
  intro hmem
  rcases h.2 x hmem with halpha | rfl | rfl
  · rw [hx] at halpha
    cases halpha
  · exact hdash rfl
  · exact hlow rfl

theorem toList_stateToken (raw redirect : String) :
    (stateToken raw redirect).toList = raw.toList ++ ':' :: ':' :: redirect.toList := by
  have hcolons : "::".toList = [':', ':'] := rfl
  rw [stateToken, String.toList_append, String.toList_append, hcolons]
  simp

theorem mem_stateToken (h : UrlSafe raw) {x : Char} (hx : x.isAlphanum = false) (hdash : x ≠ '-')
    (hlow : x ≠ '_')
    (hcolon : x ≠ ':') : x ∈ (stateToken raw redirect).toList ↔ x ∈ redirect.toList := by
  rw [toList_stateToken, List.mem_append, List.mem_cons, List.mem_cons]
  simp [h.not_mem hx hdash hlow, hcolon]

theorem hasEscape_stateToken (h : UrlSafe raw) :
    Url.hasEscape (stateToken raw redirect).toList = Url.hasEscape redirect.toList := by
  rw [toList_stateToken, Url.hasEscape_append_of_not_mem (h.not_mem (by decide) (by decide) (by decide)),
    Url.hasEscape_cons_of_ne (by decide), Url.hasEscape_cons_of_ne (by decide)]

theorem length_stateToken (h : UrlSafe raw) :
    (stateToken raw redirect).toList.length = 45 + redirect.toList.length := by
  rw [toList_stateToken, List.length_append, h.1, List.length_cons, List.length_cons]
  omega

theorem take_stateToken (h : UrlSafe raw) : (stateToken raw redirect).toList.take 43 = raw.toList := by
  rw [toList_stateToken, ← h.1, List.take_left]

theorem afterColons_append {l : List Char} (h : ':' ∉ l) (s : List Char) :
    afterColons (l ++ ':' :: ':' :: s) = some s := by
  induction l with
  | nil => rfl
  | cons c l ih =>
    rw [List.mem_cons, not_or] at h
    rw [List.cons_append, afterColons, ih h.2]
    rintro s' rfl
    exact absurd rfl h.1

/-- The callback takes the redirect out of the token that it was put into. -/
theorem redirectUrl_stateToken (h : UrlSafe raw) : redirectUrl (stateToken raw redirect) = redirect := by
  rw [redirectUrl, toList_stateToken, afterColons_append (h.not_mem (by decide) (by decide) (by decide))]
  simp

/-- The texts that the column takes as they are. -/
theorem varchar255_eq_self_iff {s : String} : varchar255 s = some s ↔ '\x00' ∉ s.toList ∧ s.toList.length ≤ 255 := by
  unfold varchar255
  split_ifs with hnul hlen hspaces
  · simp [hnul]
  · simp [hnul, hlen]
  · refine iff_of_false ?_ fun hshort => hlen hshort.2
    intro heq
    have hlist := congrArg (fun s : String => s.toList.length) (Option.some.inj heq)
    simp only [String.toList_ofList, List.length_take] at hlist
    omega
  · simp [hlen]

theorem insertState_of_ne {rows : String → Option Int} {token token' : String}
    (h : varchar255 token' ≠ some token)
    (now : Int) : insertState rows token' now token = rows token := by
  unfold insertState
  cases hv : varchar255 token' with
  | none => rfl
  | some stored =>
    cases hrow : rows stored with
    | some _ => simp only [hrow]
    | none =>
      simp only [hrow]
      rw [Function.update_of_ne]
      rintro rfl
      exact h hv

/-- A new token is stored under its own name if the column takes it as it is. -/
theorem insertState_self_iff {rows : String → Option Int} {token : String} (h : rows token = none)
    (now : Int) :
    insertState rows token now token = some (now + fiveMinutes) ↔ varchar255 token = some token := by
  by_cases hv : varchar255 token = some token
  · simp [insertState, hv, h]
  · rw [insertState_of_ne hv, h]
    exact iff_of_false (fun hnone => by cases hnone) hv

/-- A token with another draw is stored under another name. -/
theorem varchar255_ne (h : UrlSafe raw) (h' : UrlSafe raw') (hne : raw' ≠ raw) :
    varchar255 (stateToken raw' redirect') ≠ some (stateToken raw redirect) := by
  have hstored {token : String} (hv : varchar255 (stateToken raw' redirect') = some token) :
      token.toList.take 43 = raw'.toList := by
    unfold varchar255 at hv
    split_ifs at hv
    · cases hv
      exact take_stateToken h'
    · cases hv
      rw [String.toList_ofList, List.take_take, Nat.min_eq_left (by decide), take_stateToken h']
  intro hv
  have htake := hstored hv
  rw [take_stateToken h] at htake
  exact hne (String.toList_inj.mp htake.symm)

end

/-! ### Callbacks -/

section
variable {lower : String → String} {al : Allowlist} {env : Settings} {w : World} {r : Callback}

theorem authGoogleCallback_fst (db : OauthStates) :
    (authGoogleCallback lower al env w db r).1 = (verifyOauthState db r.state w.now).1 := by
  unfold authGoogleCallback
  split
  · rename_i db' hverify
    rw [hverify]
  · rename_i db' hverify
    rw [hverify]

theorem fetchUserInfo_ne_antiForgery (c : Credentials) (code : String) :
    fetchUserInfo c w code ≠ .error antiForgery := by
  intro h
  unfold fetchUserInfo at h
  simp only [bind, Except.bind, throw, throwThe, MonadExceptOf.throw, Except.mapError] at h
  split_ifs at h
  · cases h
  · cases h
  generalize w.postToken _ = answer at h
  cases answer with
  | error e => cases h
  | ok tokenR =>
    simp only at h
    split_ifs at h
    · simp [antiForgery] at h
    split at h
    · rename_i tokens _
      generalize w.getUserInfo _ = answer at h
      cases answer with
      | error e => cases h
      | ok userInfoR =>
        simp only at h
        split_ifs at h
        · simp [antiForgery] at h
        split at h
        · cases h
        · cases h
    · cases h

theorem authorize_ne_antiForgery (email : String) : authorize lower al email ≠ .error antiForgery := by
  unfold authorize
  simp only
  split_ifs
  · decide
  · exact nofun
  · exact nofun

theorem signSession_ne_antiForgery (claims : Claims) : signSession env w claims ≠ .error antiForgery := by
  unfold signSession
  split
  · decide
  · split
    · decide
    · exact nofun

theorem admitUser_ne_antiForgery (state : String) (userInfo : List (String × Json)) :
    admitUser lower al env w state userInfo ≠ .error antiForgery := by
  intro h
  unfold admitUser at h
  split at h
  · rename_i email _
    simp only [bind, Except.bind] at h
    split at h
    · rename_i e hrole
      cases h
      exact authorize_ne_antiForgery email hrole
    · split at h
      · rename_i e hsign
        cases h
        exact signSession_ne_antiForgery _ hsign
      · cases h
  · cases h

/-- Only a state that is not stored, or has expired, is reported as such. -/
theorem antiForgery_iff (db : OauthStates) :
    (authGoogleCallback lower al env w db r).2 = .error antiForgery ↔ (verifyOauthState db r.state w.now).2 = false := by
  unfold authGoogleCallback
  split
  · rename_i db' hverify
    rw [hverify]
    exact iff_of_true rfl rfl
  · rename_i db' hverify
    rw [hverify]
    refine iff_of_false ?_ (by simp)
    simp only [bind, Except.bind]
    intro h
    split at h
    · rename_i e hfetch
      cases h
      exact fetchUserInfo_ne_antiForgery _ _ hfetch
    · exact admitUser_ne_antiForgery _ _ h

end

/-! ### Runs -/

/-- A request that reaches the state store. -/
inductive StateAct
  | login (env : Settings) (req : Incoming) (redirect rawState : String) (now : Int)
  | callback (al : Allowlist) (env : Settings) (w : World) (r : Callback)

def StateAct.apply (lower : String → String) (db : OauthStates) : StateAct → OauthStates
  | .login env req redirect rawState now => (loginGoogle env db req redirect rawState now).1
  | .callback al env w r => (authGoogleCallback lower al env w db r).1

def statesAfter (lower : String → String) (db : OauthStates) (acts : List StateAct) : OauthStates :=
  acts.foldl (StateAct.apply lower) db

/-- A login draws another random text than `rawState`. -/
def StateAct.OtherDraw (rawState : String) : StateAct → Prop
  | .login _ _ _ rawState' _ => UrlSafe rawState' ∧ rawState' ≠ rawState
  | .callback _ _ _ _ => True

/-- A callback brings the token before it expires. -/
def StateAct.Presents (token : String) (expiresAt : Int) : StateAct → Prop
  | .login _ _ _ _ _ => False
  | .callback _ _ w r => r.state = token ∧ w.now < expiresAt

section
variable {lower : String → String} {raw redirect : String} {rows : String → Option Int} {expiresAt : Int}

theorem stateToken_ne_empty (raw redirect : String) : stateToken raw redirect ≠ "" := by
  intro h
  have hlist := congrArg String.toList h
  rw [toList_stateToken] at hlist
  simp at hlist

theorem verifyOauthState_stored {token : String} (h : rows token = some expiresAt)
    (htoken : token ≠ "") (now : Int) :
    verifyOauthState (some rows) token now =
      if now < expiresAt then (some (Function.update rows token none), true) else (some rows, false) := by
  simp [verifyOauthState, h, htoken]

/-- A callback with another token leaves a row alone. -/
theorem verifyOauthState_other (rows : String → Option Int) {state token : String}
    (h : state ≠ token) (now : Int) :
    ∃ rows', (verifyOauthState (some rows) state now).1 = some rows' ∧ rows' token = rows token := by
  unfold verifyOauthState
  simp only
  split
  · exact ⟨rows, rfl, rfl⟩
  · split_ifs
    · exact ⟨_, rfl, Function.update_of_ne (Ne.symm h) ..⟩
    · exact ⟨rows, rfl, rfl⟩

/-- The row of a token goes with the callback that presents it, and stays otherwise. -/
theorem apply_row (lower : String → String) (hraw : UrlSafe raw) {a : StateAct} (ha : a.OtherDraw raw)
    (h : rows (stateToken raw redirect) = none ∨ rows (stateToken raw redirect) = some expiresAt) :
    ∃ rows', a.apply lower (some rows) = some rows' ∧
      (a.Presents (stateToken raw redirect) expiresAt → rows' (stateToken raw redirect) = none) ∧
        (¬ a.Presents (stateToken raw redirect) expiresAt →
          rows' (stateToken raw redirect) = rows (stateToken raw redirect)) := by
  cases a with
  | login env req redirect' raw' now =>
    unfold StateAct.apply loginGoogle
    simp only
    split_ifs
    · exact ⟨rows, rfl, False.elim, fun _ => rfl⟩
    · exact ⟨rows, rfl, False.elim, fun _ => rfl⟩
    · exact ⟨_, rfl, False.elim, fun _ => insertState_of_ne (varchar255_ne hraw ha.1 ha.2) now⟩
  | callback al env w r =>
    unfold StateAct.apply
    simp only [authGoogleCallback_fst]
    by_cases hstate : r.state = stateToken raw redirect
    · rw [hstate]
      rcases h with hnone | hsome
      · refine ⟨rows, by simp [verifyOauthState, hnone], fun _ => hnone, fun _ => rfl⟩
      · rw [verifyOauthState_stored hsome (stateToken_ne_empty raw redirect)]
        split_ifs with hnow
        · exact ⟨_, rfl, fun _ => Function.update_self .., fun hnot => absurd ⟨hstate, hnow⟩ hnot⟩
        · exact ⟨rows, rfl, fun hpres => absurd hpres.2 hnow, fun _ => rfl⟩
    · obtain ⟨rows', hrows', hrow⟩ := verifyOauthState_other rows hstate w.now
      exact ⟨rows', hrows', fun hpres => absurd hpres.1 hstate, fun _ => hrow⟩

theorem statesAfter_row (lower : String → String) (hraw : UrlSafe raw) {acts : List StateAct}
    (hacts : ∀ a ∈ acts, a.OtherDraw raw)
    (h : rows (stateToken raw redirect) = none ∨ rows (stateToken raw redirect) = some expiresAt) :
    ∃ rows', statesAfter lower (some rows) acts = some rows' ∧
      ((∃ a ∈ acts, a.Presents (stateToken raw redirect) expiresAt) → rows' (stateToken raw redirect) = none) ∧
        ((∀ a ∈ acts, ¬ a.Presents (stateToken raw redirect) expiresAt) →
          rows' (stateToken raw redirect) = rows (stateToken raw redirect)) := by
  induction acts generalizing rows with
  | nil =>
    refine ⟨rows, rfl, ?_, fun _ => rfl⟩
    rintro ⟨a, ha, -⟩
    cases ha
  | cons a acts ih =>
    obtain ⟨rows₁, hstep, hspent, hkept⟩ := apply_row lower hraw (hacts a List.mem_cons_self) h
    have hacts' : ∀ a ∈ acts, a.OtherDraw raw := fun a ha => hacts a (List.mem_cons_of_mem _ ha)
    have hrow₁ : rows₁ (stateToken raw redirect) = none ∨ rows₁ (stateToken raw redirect) = some expiresAt := by
      by_cases hpres : a.Presents (stateToken raw redirect) expiresAt
      · exact .inl (hspent hpres)
      · rw [hkept hpres]
        exact h
    obtain ⟨rows', hrest, hspent', hkept'⟩ := ih hacts' hrow₁
    refine ⟨rows', ?_, ?_, ?_⟩
    · rw [statesAfter, List.foldl_cons, hstep]
      exact hrest
    · rintro ⟨b, hb, hpres⟩
      rcases List.mem_cons.mp hb with rfl | hb
      · -- spent in the first step, so no later callback finds it
        by_cases hlater : ∃ c ∈ acts, c.Presents (stateToken raw redirect) expiresAt
        · exact hspent' hlater
        · rw [hkept' fun c hc hcp => hlater ⟨c, hc, hcp⟩]
          exact hspent hpres
      · exact hspent' ⟨b, hb, hpres⟩
    · intro hnone
      rw [hkept' fun c hc => hnone c (List.mem_cons_of_mem _ hc)]
      exact hkept (hnone a List.mem_cons_self)

/-- A stored token is accepted until it expires, by the first callback that brings it. -/
theorem accepted_iff (hraw : UrlSafe raw) (h : rows (stateToken raw redirect) = some expiresAt)
    {acts : List StateAct}
    (hacts : ∀ a ∈ acts, a.OtherDraw raw) {al : Allowlist} {env : Settings} {w : World} {r : Callback}
    (hstate : r.state = stateToken raw redirect) :
    (authGoogleCallback lower al env w (statesAfter lower (some rows) acts) r).2 ≠ .error antiForgery ↔
      w.now < expiresAt ∧ ∀ a ∈ acts, ¬ a.Presents (stateToken raw redirect) expiresAt := by
  obtain ⟨rows', hafter, hspent, hkept⟩ := statesAfter_row lower hraw hacts (.inr h)
  rw [Ne, antiForgery_iff, hafter, hstate]
  by_cases hpres : ∃ a ∈ acts, a.Presents (stateToken raw redirect) expiresAt
  · have hnone : (verifyOauthState (some rows') (stateToken raw redirect) w.now).2 = false := by
      simp [verifyOauthState, hspent hpres]
    refine iff_of_false (not_not.mpr hnone) ?_
    rintro ⟨-, hall⟩
    obtain ⟨a, ha, hp⟩ := hpres
    exact hall a ha hp
  · have hall : ∀ a ∈ acts, ¬ a.Presents (stateToken raw redirect) expiresAt := fun a ha hp => hpres ⟨a, ha, hp⟩
    have hrow : rows' (stateToken raw redirect) = some expiresAt := (hkept hall).trans h
    rw [verifyOauthState_stored hrow (stateToken_ne_empty raw redirect)]
    by_cases hnow : w.now < expiresAt
    · rw [if_pos hnow]
      exact iff_of_true (by simp) ⟨hnow, hall⟩
    · rw [if_neg hnow]
      exact iff_of_false (by simp) fun haccepted => hnow haccepted.1

end

/-! ### The round trip -/

/-- What is to hold of a login that draws `raw` and leaves `rows` and `url`: Google sends back the
token that was stored; the first callback that brings it in time is accepted, and no other; and it
redirects where the login said. -/
structure RoundTrip (lower : String → String) (location : String → String) (raw redirect : String) (now : Int)
    (rows : String → Option Int) (url : String) : Prop where
  returned : returnedState (location url) = some (stateToken raw redirect)
  stored : rows (stateToken raw redirect) = some (now + fiveMinutes)
  accepted : ∀ acts, (∀ a ∈ acts, a.OtherDraw raw) → ∀ al env w r, r.state = stateToken raw redirect →
    ((authGoogleCallback lower al env w (statesAfter lower (some rows) acts) r).2 ≠ .error antiForgery ↔
      w.now < now + fiveMinutes ∧ ∀ a ∈ acts, ¬ a.Presents (stateToken raw redirect) (now + fiveMinutes))
  redirected : ∀ al env w db r s, r.state = stateToken raw redirect →
    (authGoogleCallback lower al env w db r).2 = .ok s → s.url = redirect

/-- Every login with this redirect makes the round trip, whatever new token it draws. -/
def RoundTrips (lower : String → String) (location : String → String) (env : Settings) (req : Incoming)
    (redirect : String) : Prop :=
  ∀ raw now rows rows' url, UrlSafe raw → rows (stateToken raw redirect) = none →
    loginGoogle env (some rows) req redirect raw now = (some rows', .ok url) →
      RoundTrip lower location raw redirect now rows' url

/-- The redirect fits the column and has no character that a query takes for something else. -/
structure CleanRedirect (redirect : String) : Prop where
  short : redirect.toList.length ≤ 210
  noNul : '\x00' ∉ redirect.toList
  noHash : '#' ∉ redirect.toList
  noAmpersand : '&' ∉ redirect.toList
  noPlus : '+' ∉ redirect.toList
  noEscape : Url.hasEscape redirect.toList = false

/-- The rest of the authorization URL has no fragment and no state of its own. -/
structure CleanUrl (location : String → String) (c : Credentials) : Prop where
  noHash : '#' ∉ (authorizationUrl c).toList
  noState : returnedState (location (authorizationUrl c)) = none

/-- The checks of `login_google`. -/
structure Configured (c : Credentials) : Prop where
  present : c.clientId ≠ ""
  decrypted : startsWith c.clientId "encrypted:" = false

section
variable {lower : String → String} {location : String → String} {env : Settings} {req : Incoming} {raw redirect : String}

theorem loginGoogle_configured (hc : Configured (getOauthCredentials env req))
    (rows : String → Option Int) (now : Int) :
    loginGoogle env (some rows) req redirect raw now =
      (some (insertState rows (stateToken raw redirect) now),
        .ok (authorizationUrl (getOauthCredentials env req) ++ "&state=" ++ stateToken raw redirect)) := by
  unfold loginGoogle
  simp only [if_neg hc.present, hc.decrypted]
  rfl

theorem varchar255_stateToken_iff (hraw : UrlSafe raw) :
    varchar255 (stateToken raw redirect) = some (stateToken raw redirect) ↔
      '\x00' ∉ redirect.toList ∧ redirect.toList.length ≤ 210 := by
  rw [varchar255_eq_self_iff, mem_stateToken hraw (by decide) (by decide) (by decide) (by decide),
    length_stateToken hraw]
  refine and_congr_right fun _ => ?_
  omega

/-- What comes back of the token, if the rest of the URL lets it through. -/
theorem component_stateToken_iff (hraw : UrlSafe raw) :
    Url.component (((stateToken raw redirect).toList.takeWhile (· ≠ '#')).takeWhile (· ≠ '&')) =
        (stateToken raw redirect).toList ↔
      '#' ∉ redirect.toList ∧ '&' ∉ redirect.toList ∧ Url.hasEscape redirect.toList = false ∧ '+' ∉ redirect.toList := by
  rw [Url.component_takeWhile_eq_iff, hasEscape_stateToken hraw,
    mem_stateToken hraw (by decide) (by decide) (by decide) (by decide),
    mem_stateToken hraw (by decide) (by decide) (by decide) (by decide),
    mem_stateToken hraw (by decide) (by decide) (by decide) (by decide)]

theorem roundTrip_of_clean (hloc : QuotesLocation location) (hc : Configured (getOauthCredentials env req))
    (hurl : CleanUrl location (getOauthCredentials env req)) (hr : CleanRedirect redirect) :
    RoundTrips lower location env req redirect := by
  intro raw now rows rows' url hraw hrows hlogin
  rw [loginGoogle_configured hc] at hlogin
  cases hlogin
  have hstored : insertState rows (stateToken raw redirect) now (stateToken raw redirect) = some (now + fiveMinutes) :=
    (insertState_self_iff hrows now).mpr ((varchar255_stateToken_iff hraw).mpr ⟨hr.noNul, hr.short⟩)
  refine ⟨?_, hstored, ?_, ?_⟩
  · rw [returnedState_url hloc _ hurl.noHash, hurl.noState, Option.none_or,
      (component_stateToken_iff hraw).mpr ⟨hr.noHash, hr.noAmpersand, hr.noEscape, hr.noPlus⟩, String.ofList_toList]
  · intro acts hacts al env' w r hstate
    exact accepted_iff hraw hstored hacts hstate
  · intro al env' w db r s hstate hs
    obtain ⟨-, -, -, -, -, -, -, -, -, hredirect⟩ := authGoogleCallback_eq_ok lower hs
    rw [hredirect, hstate, redirectUrl_stateToken hraw]

/-- A draw of one character over and over. -/
def sameDraw (c : Char) : String := .ofList (List.replicate 43 c)

theorem urlSafe_sameDraw {c : Char} (h : c.isAlphanum = true) : UrlSafe (sameDraw c) := by
  refine ⟨by rw [sameDraw, String.toList_ofList, List.length_replicate], ?_⟩
  intro x hx
  rw [sameDraw, String.toList_ofList] at hx
  exact .inl (by rw [List.eq_of_mem_replicate hx, h])

theorem stateToken_sameDraw_ne (redirect : String) :
    stateToken (sameDraw 'a') redirect ≠ stateToken (sameDraw 'b') redirect := by
  intro h
  have htake := congrArg (fun s : String => s.toList.take 43) h
  simp only [take_stateToken (urlSafe_sameDraw (c := 'a') rfl), take_stateToken (urlSafe_sameDraw (c := 'b') rfl)] at htake
  revert htake
  decide

/-- A state that does not depend on the draw is not the token of every draw. -/
theorem not_constant {o : Option String} (ha : o = some (stateToken (sameDraw 'a') redirect))
    (hb : o = some (stateToken (sameDraw 'b') redirect)) : False := by
  have heq := ha.symm.trans hb
  exact stateToken_sameDraw_ne redirect (Option.some.inj heq)

theorem clean_of_roundTrips (hloc : QuotesLocation location) (hc : Configured (getOauthCredentials env req))
    (h : RoundTrips lower location env req redirect) :
    CleanRedirect redirect ∧ CleanUrl location (getOauthCredentials env req) := by
  have htrip (c : Char) (hraw : UrlSafe (sameDraw c)) := h (sameDraw c) 0 (fun _ => none) _ _ hraw rfl
    (loginGoogle_configured hc _ 0)
  have ha : UrlSafe (sameDraw 'a') := urlSafe_sameDraw (by decide)
  have hb : UrlSafe (sameDraw 'b') := urlSafe_sameDraw (by decide)
  have hhash : '#' ∉ (authorizationUrl (getOauthCredentials env req)).toList := by
    intro hmem
    have hconst (c : Char) := returnedState_url_of_hash hloc _ hmem (stateToken (sameDraw c) redirect)
    exact not_constant ((hconst 'a').symm.trans (htrip 'a' ha).returned) ((hconst 'b').symm.trans (htrip 'b' hb).returned)
  have hreturned (c : Char) := returnedState_url hloc _ hhash (stateToken (sameDraw c) redirect)
  have hnone : returnedState (location (authorizationUrl (getOauthCredentials env req))) = none := by
    by_contra hne
    obtain ⟨v, hv⟩ := Option.ne_none_iff_exists'.mp hne
    simp only [hv, Option.some_or] at hreturned
    exact not_constant ((hreturned 'a').symm.trans (htrip 'a' ha).returned)
      ((hreturned 'b').symm.trans (htrip 'b' hb).returned)
  have hstored := (varchar255_stateToken_iff ha).mp ((insertState_self_iff rfl 0).mp (htrip 'a' ha).stored)
  have hback := (htrip 'a' ha).returned
  rw [hreturned, hnone, Option.none_or, Option.some.injEq, ← String.toList_inj, String.toList_ofList,
    component_stateToken_iff ha] at hback
  obtain ⟨hnoHash, hnoAmpersand, hnoEscape, hnoPlus⟩ := hback
  exact ⟨⟨hstored.2, hstored.1, hnoHash, hnoAmpersand, hnoPlus, hnoEscape⟩, ⟨hhash, hnone⟩⟩

end

/-- The state makes the round trip exactly if the redirect is clean, and the rest of the
authorization URL is. -/
theorem state_round_trip_iff (lower : String → String) (location : String → String) (hloc : QuotesLocation location)
    (env : Settings) (req : Incoming) (redirect : String) (hc : Configured (getOauthCredentials env req)) :
    RoundTrips lower location env req redirect ↔
      CleanRedirect redirect ∧ CleanUrl location (getOauthCredentials env req) :=
  ⟨clean_of_roundTrips hloc hc, fun h => roundTrip_of_clean hloc hc h.2 h.1⟩

/-- The `Location` header as Starlette writes it. -/
def starletteLocation (url : String) : String := .ofList (Url.quote starletteSafe url.toList)

theorem signingSettings_credentials :
    getOauthCredentials signingSettings pureState.toIncoming = ⟨"client", "secret", "https://soc.example/callback"⟩ := by
  decide +kernel

theorem cleanUrl_signingSettings :
    CleanUrl starletteLocation (getOauthCredentials signingSettings pureState.toIncoming) := by
  rw [signingSettings_credentials]
  constructor
  · simp only [authorizationUrl, authorizationEndpoint, String.toList_append]
    decide +kernel
  · rw [returnedState, starletteLocation, String.toList_ofList]
    simp only [authorizationUrl, authorizationEndpoint, String.toList_append]
    decide +kernel

theorem plain_redirect_round_trips :
    RoundTrips pyLower starletteLocation signingSettings pureState.toIncoming "/incidents?id=7" := by
  refine (state_round_trip_iff pyLower starletteLocation (fun _ => rfl) signingSettings pureState.toIncoming _ ?_).mpr
    ⟨?_, cleanUrl_signingSettings⟩
  · exact ⟨by decide, by decide⟩
  · exact ⟨by decide, by decide, by decide, by decide, by decide, by decide⟩

/-- A redirect with two parameters loses the second. -/
theorem second_parameter_lost :
    ¬ ∀ redirect, RoundTrips pyLower starletteLocation signingSettings pureState.toIncoming redirect := by
  intro h
  have hclean := (clean_of_roundTrips (fun _ => rfl) ⟨by decide, by decide⟩ (h "/incidents?id=7&tab=graph")).1
  exact hclean.noAmpersand (by decide)

end GoogleAuth
end SocFabric
