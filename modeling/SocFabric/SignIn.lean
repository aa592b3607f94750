import SocFabric.OauthState

/-!
# A sign-in from page to page (`soc-frontend`, `interfaces/auth_google.py`)

Who opens a page without a session is sent to the sign-in page, from there to Google, and by the
callback back to the console. The address of the page is written and read four times on this way:
into the query of the sign-in page and of the login route, into the state token, and into the header
that ends the callback. `deep_link_returns_iff` says for which pages it arrives.
-/

namespace SocFabric
namespace SignIn
open GoogleAuth Text

/-! ### The console -/

/-- What `encodeURIComponent` leaves unescaped. -/
def uriComponentSafe (c : Char) : Bool :=
  'a' ≤ c && c ≤ 'z' || 'A' ≤ c && c ≤ 'Z' || '0' ≤ c && c ≤ '9' || "-_.!~*'()".toList.contains c

def encodeURIComponent (s : String) : String := .ofList (Url.quote uriComponentSafe s.toList)

/-- A parameter as `URLSearchParams` and Starlette read it. -/
def searchParam (url name : String) : Option String := (Url.param url.toList name.toList).map String.ofList

def withRedirect (url redirect : String) : String := url ++ "?redirect=" ++ encodeURIComponent redirect

/-- Where `ProtectedRoute` and the interceptor of `apiClient` send who has no session. -/
def loginUrl (pathname : String) : String := withRedirect "/login" pathname

/-- The parameter of the sign-in page, whose default is `/`. -/
def redirectOf (url : String) : String := pyOr (searchParam url "redirect") "/"

/-- The button of the sign-in page. -/
def signInUrl (url : String) : String := withRedirect "/api/auth/google/login" (redirectOf url)

/-! ### The way back -/

/-- The parameter of `login_google`. -/
def loginRedirect (url : String) : String := (searchParam url "redirect").getD "/"

inductive Landing
  | page (pathname : String)
  | elsewhere (url : String)
deriving DecidableEq, Repr

/-- How a browser follows a `Location`; two slashes begin the name of another host. -/
def follow (location : String) : Landing :=
  if startsWith location "//" then .elsewhere location
  else if startsWith location "/" then .page (.ofList (location.toList.takeWhile fun c => c ≠ '?' && c ≠ '#'))
  else .elsewhere location

/-- The path of a URL, as `location.pathname` shows it. -/
structure Pathname (p : String) : Prop where
  absolute : startsWith p "/" = true
  noQuestion : '?' ∉ p.toList
  noHash : '#' ∉ p.toList
  noSpace : ' ' ∉ p.toList

/-- What `login_google` is asked for in the end. -/
def askedRedirect (pathname : String) : String := loginRedirect (signInUrl (loginUrl pathname))

/-- Whoever signs in from this page is let through by the callback in time and, with a session, lands
on it. -/
def ReturnsTo (lower location : String → String) (env : Settings) (req : Incoming) (asked : String) : Prop :=
  ∀ raw now rows rows' url, UrlSafe raw → rows (stateToken raw (askedRedirect asked)) = none →
    loginGoogle env (some rows) req (askedRedirect asked) raw now = (some rows', .ok url) →
      ∃ state, returnedState (location url) = some state ∧
        ∀ al env' w r, r.state = state → w.now < now + fiveMinutes →
          (authGoogleCallback lower al env' w (some rows') r).2 ≠ .error antiForgery ∧
            ∀ s, (authGoogleCallback lower al env' w (some rows') r).2 = .ok s → follow (location s.url) = .page asked

/-! ### There -/

theorem quotesValue_uriComponentSafe : Url.QuotesValue uriComponentSafe where
  percent := by decide
  plus := by decide
  hash := by decide
  ampersand := by decide

theorem plainName_redirect : Url.PlainName uriComponentSafe "redirect".toList where
  safe := by simp [uriComponentSafe]
  plain := by simp
  reads := by decide

theorem searchParam_withRedirect {url : String} (hhash : '#' ∉ url.toList) (hquestion : '?' ∉ url.toList)
    (redirect : String) :
    searchParam (withRedirect url redirect) "redirect" = some redirect := by
  have htext : (withRedirect url redirect).toList =
      url.toList ++ '?' :: ("redirect".toList ++ '=' :: Url.quote uriComponentSafe redirect.toList) := by
    have hname : "?redirect=".toList = '?' :: ("redirect".toList ++ ['=']) := rfl
    rw [withRedirect, String.toList_append, String.toList_append, hname, encodeURIComponent, String.toList_ofList]
    simp
  rw [searchParam, htext, Url.param_quote_value quotesValue_uriComponentSafe plainName_redirect hhash hquestion]
  simp

variable {p : String}

theorem Pathname.ne_empty (h : Pathname p) : p ≠ "" := by
  rintro rfl
  have habs := h.absolute
  revert habs
  decide

theorem redirectOf_loginUrl (h : p ≠ "") : redirectOf (loginUrl p) = p := by
  have hthere : searchParam (loginUrl p) "redirect" = some p := searchParam_withRedirect (by decide) (by decide) p
  rw [redirectOf, hthere, pyOr_some h]

/-- The page's address reaches `login_google` as it is. -/
theorem askedRedirect_eq (h : p ≠ "") : askedRedirect p = p := by
  have hback : searchParam (signInUrl (loginUrl p)) "redirect" = some (redirectOf (loginUrl p)) :=
    searchParam_withRedirect (by decide) (by decide) _
  rw [askedRedirect, loginRedirect, hback, Option.getD_some, redirectOf_loginUrl h]

/-! ### Back -/

theorem follow_of_quoted (h : Pathname p) {location : String → String} (hloc : QuotesLocation location) :
    follow (location p) =
      if startsWith (location p) "//" then .elsewhere (location p)
      else if startsWith (location p) "/" then .page (location p) else .elsewhere (location p) := by
  have hquestion : '?' ∉ (location p).toList := by
    rw [toList_location hloc, Url.mem_quote_iff quotesUrl_starletteSafe.question]
    exact h.noQuestion
  have hhash : '#' ∉ (location p).toList := by
    rw [toList_location hloc, Url.mem_quote_iff quotesUrl_starletteSafe.hash]
    exact h.noHash
  have hwhole : ((location p).toList.takeWhile fun c => c ≠ '?' && c ≠ '#') = (location p).toList := by
    refine List.takeWhile_eq_self_iff.mpr fun c hc => ?_
    have hc' : c ≠ '?' ∧ c ≠ '#' := ⟨fun heq => hquestion (heq ▸ hc), fun heq => hhash (heq ▸ hc)⟩
    simpa using hc'
  rw [follow, hwhole, String.ofList_toList]

/-- The header names a page of the console exactly if it has one slash in front. -/
theorem follow_eq_page_iff (h : Pathname p) {location : String → String} (hloc : QuotesLocation location) :
    follow (location p) = .page p ↔ startsWith p "//" = false ∧ ∀ c ∈ p.toList, starletteSafe c = true := by
  have hsame : location p = p ↔ ∀ c ∈ p.toList, starletteSafe c = true := by
    rw [← Url.quote_eq_self_iff, ← toList_location hloc, String.toList_inj]
  rw [follow_of_quoted h hloc, ← hsame]
  constructor
  · intro hpage
    split_ifs at hpage with htwo hone
    have heq := Landing.page.inj hpage
    exact ⟨by simpa [heq] using htwo, heq⟩
  · rintro ⟨htwo, heq⟩
    rw [heq, htwo, if_neg Bool.false_ne_true, if_pos h.absolute]

variable {lower location : String → String} {env : Settings} {req : Incoming}

theorem lt_fiveMinutes (now : Int) : now < now + fiveMinutes := by
  unfold fiveMinutes
  omega

/-- A state that the callback lets through is one that was stored. -/
theorem stored_of_verify {token state : String} {now now' : Int} (hspace : ' ' ∉ token.toList)
    (h : (verifyOauthState (some (insertState (fun _ => none) token now)) state now').2 = true) :
    varchar255 token = some token ∧ state = token := by
  have hrow : insertState (fun _ => none) token now state ≠ none := by
    intro hnone
    simp [verifyOauthState, hnone] at h
  unfold insertState at hrow
  cases hv : varchar255 token with
  | none => simp [hv] at hrow
  | some stored =>
    have hstate : state = stored := by
      by_contra hne
      simp [hv, hne] at hrow
    have hself : stored = token := by
      unfold varchar255 at hv
      split_ifs at hv with hnul hlen hcut
      · exact (Option.some.inj hv).symm
      · -- what is cut off is made of spaces
        have hpos : 0 < (token.toList.drop 255).length := by
          rw [List.length_drop]
          omega
        obtain ⟨c, hc⟩ := List.exists_mem_of_length_pos hpos
        have hcspace : c = ' ' := by simpa using List.all_eq_true.mp hcut c hc
        exact absurd (List.mem_of_mem_drop (hcspace ▸ hc)) hspace
    exact ⟨by rw [hself], hstate.trans hself⟩

/-- A profile that is let in gets a session. -/
theorem callback_mints (lower : String → String) {db db' : OauthStates} {state : String} {now : Int}
    (hverify : verifyOauthState db state now = (db', true)) :
    ∃ s, (authGoogleCallback lower ⟨none, none⟩ signingSettings { profileWorld "analyst@soc.internal" with now := now } db
      { pureState with state := state }).2 = .ok s := by
  have hlisted : entries (⟨none, none⟩ : Allowlist).authorizedEmails = [] := by decide
  -- the clock and the state do not matter to Google
  have hinfo : fetchUserInfo (getOauthCredentials signingSettings { pureState with state := state }.toIncoming)
      { profileWorld "analyst@soc.internal" with now := now } { pureState with state := state }.code =
        .ok [("email", .str "analyst@soc.internal")] :=
    fetchUserInfo_profileWorld "analyst@soc.internal"
  unfold authGoogleCallback
  simp only [hverify, hinfo, bind, Except.bind, admitUser]
  have hemail : ([("email", Json.str "analyst@soc.internal")].lookup "email").getD (.str "") =
      .str "analyst@soc.internal" := rfl
  simp only [hemail, authorize_of_unlisted hlisted]
  exact ⟨_, rfl⟩

theorem returnsTo_of_clean (hloc : QuotesLocation location) (hc : Configured (getOauthCredentials env req))
    (h : Pathname p) (hclean : CleanRedirect p) (hurl : CleanUrl location (getOauthCredentials env req))
    (hfollow : follow (location p) = .page p) : ReturnsTo lower location env req p := by
  intro raw now rows rows' url hraw hrows hlogin
  rw [askedRedirect_eq h.ne_empty] at hrows hlogin
  have htrip : RoundTrip lower location raw p now rows' url :=
    roundTrip_of_clean hloc hc hurl hclean raw now rows rows' url hraw hrows hlogin
  refine ⟨stateToken raw p, htrip.returned, fun al env' w r hstate hnow => ⟨?_, fun s hs => ?_⟩⟩
  · have haccepted := htrip.accepted [] (by simp) al env' w r hstate
    rw [statesAfter, List.foldl_nil] at haccepted
    exact haccepted.mpr ⟨hnow, by simp⟩
  · rw [htrip.redirected al env' w _ r s hstate hs]
    exact hfollow

theorem roundTrips_of_returnsTo (hc : Configured (getOauthCredentials env req))
    (h : Pathname p) (hreturns : ReturnsTo lower location env req p) : RoundTrips lower location env req p := by
  intro raw now rows rows' url hraw hrows hlogin
  rw [loginGoogle_configured hc] at hlogin
  cases hlogin
  -- the same login with an empty table
  obtain ⟨state, hstate, hall⟩ := hreturns raw now (fun _ => none) _ _ hraw rfl (loginGoogle_configured hc _ now)
  rw [askedRedirect_eq h.ne_empty] at hstate hall
  have hspace : ' ' ∉ (stateToken raw p).toList := by
    rw [mem_stateToken hraw (by decide) (by decide) (by decide) (by decide)]
    exact h.noSpace
  have hverified := (hall ⟨none, none⟩ signingSettings { profileWorld "" with now := now }
    { pureState with state := state } rfl (lt_fiveMinutes now)).1
  rw [Ne, antiForgery_iff, Bool.not_eq_false] at hverified
  obtain ⟨hfits, hsame⟩ := stored_of_verify hspace hverified
  have hstored := (insertState_self_iff hrows now).mpr hfits
  refine ⟨hstate.trans (congrArg some hsame), hstored, ?_, ?_⟩
  · intro acts hacts al env' w r hr
    exact accepted_iff hraw hstored hacts hr
  · intro al env' w db r s hr hs
    obtain ⟨-, -, -, -, -, -, -, -, -, hredirect⟩ := authGoogleCallback_eq_ok lower hs
    rw [hredirect, hr, redirectUrl_stateToken hraw]

theorem follow_of_returnsTo (hc : Configured (getOauthCredentials env req)) (h : Pathname p)
    (hreturns : ReturnsTo lower location env req p) (htrips : RoundTrips lower location env req p) :
    follow (location p) = .page p := by
  have hraw : UrlSafe (sameDraw 'a') := urlSafe_sameDraw (by decide)
  have htrip := htrips (sameDraw 'a') 0 (fun _ => none) _ _ hraw rfl (loginGoogle_configured hc _ 0)
  obtain ⟨state, hstate, hall⟩ := hreturns (sameDraw 'a') 0 (fun _ => none) _ _ hraw rfl (loginGoogle_configured hc _ 0)
  rw [askedRedirect_eq h.ne_empty] at hstate hall
  have hsame : state = stateToken (sameDraw 'a') p := Option.some.inj (hstate.symm.trans htrip.returned)
  have hverify : verifyOauthState (some (insertState (fun _ => none) (stateToken (sameDraw 'a') p) 0)) state 0 =
      (some (Function.update (insertState (fun _ => none) (stateToken (sameDraw 'a') p) 0) state none), true) := by
    rw [hsame, verifyOauthState_stored htrip.stored (stateToken_ne_empty _ p), if_pos (lt_fiveMinutes 0)]
  obtain ⟨s, hs⟩ := callback_mints lower hverify
  have hlanding := (hall _ _ { profileWorld "analyst@soc.internal" with now := 0 } _ rfl (lt_fiveMinutes 0)).2 s hs
  rwa [htrip.redirected _ _ _ _ _ s hsame hs] at hlanding

/-- A sign-in that begins at a page of the console ends there exactly if the address fits the state
and nothing in it is taken for something else: by the query of Google's URL, by the header that
Starlette writes, or by the browser, for which two slashes begin another host. -/
theorem deep_link_returns_iff (lower location : String → String) (hloc : QuotesLocation location) (env : Settings)
    (req : Incoming) (hc : Configured (getOauthCredentials env req)) (asked : String) (h : Pathname asked) :
    ReturnsTo lower location env req asked ↔
      CleanRedirect asked ∧ CleanUrl location (getOauthCredentials env req) ∧ startsWith asked "//" = false ∧
        ∀ c ∈ asked.toList, starletteSafe c = true := by
  rw [← follow_eq_page_iff h hloc]
  constructor
  · intro hreturns
    have htrips := roundTrips_of_returnsTo hc h hreturns
    obtain ⟨hclean, hurl⟩ := clean_of_roundTrips hloc hc htrips
    exact ⟨hclean, hurl, follow_of_returnsTo hc h hreturns htrips⟩
  · rintro ⟨hclean, hurl, hfollow⟩
    exact returnsTo_of_clean hloc hc h hclean hurl hfollow

theorem incident_page_returns :
    ReturnsTo pyLower starletteLocation signingSettings pureState.toIncoming "/incidents/war-room/7" := by
  refine (deep_link_returns_iff pyLower starletteLocation (fun _ => rfl) signingSettings pureState.toIncoming
    ⟨by decide, by decide⟩ _ ⟨by decide, by decide, by decide, by decide⟩).mpr ⟨?_, cleanUrl_signingSettings, ?_, ?_⟩
  · exact ⟨by decide, by decide, by decide, by decide, by decide, by decide⟩
  · decide
  · simp [starletteSafe, Url.pySafe]

end SignIn
end SocFabric
