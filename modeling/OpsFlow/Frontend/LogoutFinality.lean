import OpsFlow.Frontend.RefreshCoalescing

namespace OpsFlow.Frontend
open Transition

variable {User : Type} {page page' : Page User} {event : Event User} {events : List (Event User)}

/-! ## Where the token of the page comes from -/

inductive Origin
  | refresh (promise : ℕ)
  | login (login : ℕ)

def Event.stores : Event User → Option Origin
  | .refreshRead promise body => (accessTokenOf body).map fun _ => .refresh promise
  | .loginRead l body _ => body.map fun _ => .login l
  | _ => none

def Login.waiting : Login → Bool
  | requested => true
  | reading => true
  | _ => false

def Origin.Outstanding (page : Page User) : Origin → Prop
  | refresh promise => page.InFlight promise
  | login l => ∃ login, page.logins[l]? = some login ∧ login.waiting

def Origin.ToCome (page : Page User) : Origin → Prop
  | refresh promise => page.refreshes.length ≤ promise
  | login l => page.logins.length ≤ l

/-- Once a logout has completed, there is no token until a refresh or a login that has been started
after it brings one. -/
def LogoutFinal (events : List (Event User)) : Prop :=
  ∀ before o after rest, events = before ++ .logoutAnswered o :: (after ++ rest) →
    ∀ page page' : Page User, Run Page.Step .start (before ++ [.logoutAnswered o]) page →
      Run Page.Step page after page' →
      (∀ event ∈ after, ∀ origin, event.stores = some origin → ¬ origin.ToCome page) →
      page'.accessToken = none

/-- A refresh or a login that is outstanding when a logout completes brings no token, unless one
that has been started after the logout has brought one before. -/
def OutstandingFail (events : List (Event User)) : Prop :=
  ∀ before o after event rest,
    events = before ++ .logoutAnswered o :: (after ++ event :: rest) →
    ∀ page page' : Page User, Run Page.Step .start (before ++ [.logoutAnswered o]) page →
      Run Page.Step page (after ++ [event]) page' →
      (∀ event ∈ after, ∀ origin, event.stores = some origin → ¬ origin.ToCome page) →
      ∀ origin, event.stores = some origin → ¬ origin.Outstanding page

namespace Page

theorem accessToken_apiFetch (sendable : Bool) :
    (page.apiFetch sendable).accessToken = page.accessToken := by
  cases sendable <;> rfl

theorem accessToken_refreshAccessToken (caller : RefreshCaller) (sendable : Bool) :
    (page.refreshAccessToken caller sendable).accessToken = page.accessToken ∨
      (page.refreshAccessToken caller sendable).accessToken = none := by
  unfold refreshAccessToken
  split
  · exact .inl rfl
  · cases sendable with
    | true => exact .inl rfl
    | false => exact .inr rfl

/-- A token is kept, cleared, or stored for a request that was outstanding. -/
inductive TokenMove (page : Page User) (event : Event User) (page' : Page User) : Prop
  | keeps : event.stores = none → page'.accessToken = page.accessToken → TokenMove page event page'
  | clears : event.stores = none → page'.accessToken = none → TokenMove page event page'
  | stores (origin : Origin) (token : String) : event.stores = some origin →
      origin.Outstanding page → page'.accessToken = some token → TokenMove page event page'

theorem tokenMove_refreshRead {p : ℕ} (hreading : page.refreshes[p]? = some .reading)
    (body : Option Json) : TokenMove page (.refreshRead p body) (page.refreshRead p body) := by
  unfold refreshRead
  split
  next token htoken =>
    refine .stores (.refresh p) token ?_ (.inr hreading) rfl
    rw [Event.stores, htoken, Option.map_some]
  next hnone =>
    refine .clears ?_ rfl
    rw [Event.stores, hnone, Option.map_none]

theorem tokenMove_loginRead {l : ℕ} (hreading : page.logins[l]? = some .reading)
    (body : Option String) (sendable : Bool) :
    TokenMove page (.loginRead l body sendable) (page.loginRead l body sendable) := by
  cases body with
  | none => exact .keeps rfl rfl
  | some token =>
    exact .stores (.login l) token rfl ⟨.reading, hreading, rfl⟩ (accessToken_apiFetch sendable)

theorem tokenMove_refreshAccessToken (hevent : event.stores = none) (caller : RefreshCaller)
    (sendable : Bool)
    (hsame : page'.accessToken = (page.refreshAccessToken caller sendable).accessToken) :
    TokenMove page event page' := by
  obtain hkept | hnone := @accessToken_refreshAccessToken User page caller sendable
  · exact .keeps hevent (hsame.trans hkept)
  · exact .clears hevent (hsame.trans hnone)

theorem tokenMove_refreshAnswered (p : ℕ) (answer : Option Response) :
    TokenMove page (.refreshAnswered p answer) (page.refreshAnswered p answer) := by
  cases answer with
  | none => exact .clears rfl rfl
  | some response =>
    unfold refreshAnswered
    dsimp only
    split_ifs
    · exact .keeps rfl rfl
    · exact .clears rfl rfl

theorem tokenMove_fetchAnswered (i : ℕ) (fetch : ApiFetch) (answer : Option Response)
    (sendable : Bool) :
    TokenMove page (.fetchAnswered i answer sendable)
      (page.fetchAnswered i fetch sendable answer) := by
  cases answer with
  | none => exact .keeps rfl rfl
  | some response =>
    -- no token was sent; it was accepted; a 401 of another type; a 401 that asks for a refresh
    unfold fetchAnswered
    dsimp only
    split_ifs
    · exact .keeps rfl rfl
    · exact .keeps rfl rfl
    · exact .clears rfl rfl
    · exact tokenMove_refreshAccessToken rfl (.apiFetch i) sendable rfl

theorem tokenMove_fetchRefreshed (i : ℕ) (fetch : ApiFetch) (response : Response)
    (replacementToken : Option String) (sendable : Bool) :
    TokenMove page (.fetchRefreshed i sendable)
      (page.fetchRefreshed i fetch response replacementToken sendable) := by
  unfold fetchRefreshed
  split_ifs
  · exact .clears rfl rfl
  · exact .keeps rfl rfl
  · exact .keeps rfl rfl

theorem tokenMove_retryAnswered (i : ℕ) (fetch : ApiFetch) (answer : Option Response) :
    TokenMove page (.retryAnswered i answer) (page.retryAnswered i fetch answer) := by
  cases answer with
  | none => exact .keeps rfl rfl
  | some response =>
    unfold retryAnswered
    dsimp only
    split_ifs
    · exact .clears rfl rfl
    · exact .keeps rfl rfl

end Page

theorem Page.Step.tokenMove (h : Step page event page') : TokenMove page event page' := by
  cases h with
  | apiFetch sendable => exact .keeps rfl (accessToken_apiFetch sendable)
  | refreshAccessToken sendable => exact tokenMove_refreshAccessToken rfl .page sendable rfl
  | login => exact .keeps rfl rfl
  | logout sendable => exact .keeps rfl (accessToken_apiFetch sendable)
  | restoreAuthentication sendable => exact tokenMove_refreshAccessToken rfl .page sendable rfl
  | refreshAnswered answer => exact tokenMove_refreshAnswered _ answer
  | refreshRead body hreading => exact tokenMove_refreshRead hreading body
  | refreshReturned => exact .keeps rfl rfl
  | fetchAnswered answer sendable => exact tokenMove_fetchAnswered _ _ answer sendable
  | fetchRefreshed sendable => exact tokenMove_fetchRefreshed _ _ _ _ sendable
  | retryAnswered answer => exact tokenMove_retryAnswered _ _ answer
  | loginAnswered answer => cases answer <;> exact .keeps rfl rfl
  | loginRead body sendable hreading => exact tokenMove_loginRead hreading body sendable
  | loginUserAnswered sendable =>
    unfold Page.loginUserAnswered
    split_ifs
    · exact .keeps rfl rfl
    · exact .keeps rfl (accessToken_apiFetch sendable)
  | loginUserRead user sendable =>
    cases user with
    | none => exact .keeps rfl (accessToken_apiFetch sendable)
    | some user => exact .keeps rfl rfl
  | loginCleaned => exact .clears rfl rfl
  | logoutAnswered => exact .clears rfl rfl
  | restoreRefreshed sendable =>
    unfold Page.restoreRefreshed
    split_ifs
    · exact .clears rfl rfl
    · exact .keeps rfl (accessToken_apiFetch sendable)
  | restoreUserAnswered =>
    unfold Page.restoreUserAnswered
    split_ifs
    · exact .keeps rfl rfl
    · exact .clears rfl rfl
  | restoreUserRead user =>
    cases user with
    | none => exact .clears rfl rfl
    | some user => exact .keeps rfl rfl

/-! ## A request that is outstanding has been so since it was made -/

/-- What a step does to the logins: one that no longer waits does not wait again. -/
inductive Page.LoginMove (page page' : Page User) : Prop
  | elsewhere : page'.logins = page.logins → LoginMove page page'
  | begins : page'.logins = page.logins ++ [.requested] → LoginMove page page'
  | goesOn {l : ℕ} {login : Login} (login' : Login) : page.logins[l]? = some login →
      (login'.waiting → login.waiting) → page'.logins = page.logins.set l login' →
        LoginMove page page'

namespace Page

theorem logins_apiFetch (sendable : Bool) : (page.apiFetch sendable).logins = page.logins := by
  cases sendable <;> rfl

theorem logins_refreshAccessToken (caller : RefreshCaller) (sendable : Bool) :
    (page.refreshAccessToken caller sendable).logins = page.logins := by
  unfold refreshAccessToken
  split
  · rfl
  · cases sendable <;> rfl

theorem logins_refreshAnswered (p : ℕ) (answer : Option Response) :
    (page.refreshAnswered p answer).logins = page.logins := by
  cases answer with
  | none => rfl
  | some response =>
    unfold refreshAnswered
    dsimp only
    split_ifs <;> rfl

theorem logins_refreshRead (p : ℕ) (body : Option Json) :
    (page.refreshRead p body).logins = page.logins := by
  unfold refreshRead
  split <;> rfl

theorem logins_fetchAnswered (i : ℕ) (fetch : ApiFetch) (answer : Option Response)
    (sendable : Bool) : (page.fetchAnswered i fetch sendable answer).logins = page.logins := by
  cases answer with
  | none => rfl
  | some response =>
    unfold fetchAnswered
    dsimp only
    split_ifs
    · rfl
    · rfl
    · rfl
    · exact logins_refreshAccessToken (.apiFetch i) sendable

theorem logins_fetchRefreshed (i : ℕ) (fetch : ApiFetch) (response : Response)
    (replacementToken : Option String) (sendable : Bool) :
    (page.fetchRefreshed i fetch response replacementToken sendable).logins = page.logins := by
  unfold fetchRefreshed
  split_ifs <;> rfl

theorem logins_retryAnswered (i : ℕ) (fetch : ApiFetch) (answer : Option Response) :
    (page.retryAnswered i fetch answer).logins = page.logins := by
  cases answer with
  | none => rfl
  | some response =>
    unfold retryAnswered
    dsimp only
    split_ifs <;> rfl

theorem logins_restoreRefreshed (token : Option String) (sendable : Bool) :
    (page.restoreRefreshed token sendable).logins = page.logins := by
  unfold restoreRefreshed
  split_ifs
  · rfl
  · exact logins_apiFetch sendable

theorem logins_restoreUserAnswered (answer : Option Response) :
    (page.restoreUserAnswered answer).logins = page.logins := by
  unfold restoreUserAnswered
  split_ifs <;> rfl

theorem logins_restoreUserRead (user : Option User) :
    (page.restoreUserRead user).logins = page.logins := by
  cases user <;> rfl

theorem loginMove_cleanLogin {l : ℕ} {login : Login} (h : page.logins[l]? = some login)
    (sendable : Bool) : LoginMove page (page.cleanLogin l sendable) := by
  refine .goesOn (.cleaning page.fetches.length) h nofun ?_
  change (page.apiFetch sendable).logins.set l _ = _
  rw [logins_apiFetch]

theorem LoginMove.length_le (h : LoginMove page page') :
    page.logins.length ≤ page'.logins.length := by
  cases h with
  | elsewhere hsame => rw [hsame]
  | begins hnew => simp [hnew]
  | goesOn _ _ _ hset => simp [hset]

theorem LoginMove.waiting_before (h : LoginMove page page') {l : ℕ} {login : Login}
    (hlogin : page'.logins[l]? = some login) (hwaits : login.waiting) :
    (∃ login, page.logins[l]? = some login ∧ login.waiting) ∨ page.logins.length ≤ l := by
  cases h with
  | elsewhere hsame => exact .inl ⟨login, hsame ▸ hlogin, hwaits⟩
  | begins hnew =>
    rw [hnew] at hlogin
    obtain hold | ⟨rfl, -⟩ := SingleFlight.getElem?_snoc hlogin
    · exact .inl ⟨login, hold, hwaits⟩
    · exact .inr (Nat.le_refl _)
  | @goesOn l' before after hbefore hwaited hset =>
    rw [hset] at hlogin
    obtain rfl | hne := eq_or_ne l' l
    · obtain ⟨hlt, -⟩ := List.getElem?_eq_some_iff.mp hbefore
      cases (List.getElem?_set_self hlt).symm.trans hlogin
      exact .inl ⟨before, hbefore, hwaited hwaits⟩
    · exact .inl ⟨login, (List.getElem?_set_ne hne).symm.trans hlogin, hwaits⟩

end Page

theorem Page.Step.loginMove (h : Step page event page') : LoginMove page page' := by
  cases h with
  | apiFetch sendable => exact .elsewhere (logins_apiFetch sendable)
  | refreshAccessToken sendable => exact .elsewhere (logins_refreshAccessToken _ sendable)
  | login => exact .begins rfl
  | logout sendable => exact .elsewhere (logins_apiFetch sendable)
  | restoreAuthentication sendable => exact .elsewhere (logins_refreshAccessToken _ sendable)
  | refreshAnswered answer => exact .elsewhere (logins_refreshAnswered _ answer)
  | refreshRead body => exact .elsewhere (logins_refreshRead _ body)
  | refreshReturned => exact .elsewhere rfl
  | fetchAnswered answer sendable => exact .elsewhere (logins_fetchAnswered _ _ answer sendable)
  | fetchRefreshed sendable => exact .elsewhere (logins_fetchRefreshed _ _ _ _ sendable)
  | retryAnswered answer => exact .elsewhere (logins_retryAnswered _ _ answer)
  | loginAnswered answer hlogin =>
    cases answer with
    | none => exact .goesOn (.settled false) hlogin (fun _ => rfl) rfl
    | some response =>
      exact .goesOn (if response.ok then .reading else .settled false) hlogin (fun _ => rfl) rfl
  | loginRead body sendable hlogin =>
    cases body with
    | none => exact .goesOn (.settled false) hlogin (fun _ => rfl) rfl
    | some token =>
      -- the token has been stored, and the login goes on with `GET /auth/me`
      refine .goesOn (.gettingUser page.fetches.length) hlogin (fun _ => rfl) ?_
      change ((page.setAccessToken token).apiFetch sendable).logins.set _ _ = _
      rw [logins_apiFetch]
      rfl
  | loginUserAnswered sendable hlogin =>
    unfold Page.loginUserAnswered
    split_ifs
    · exact .goesOn .readingUser hlogin nofun rfl
    · exact loginMove_cleanLogin hlogin sendable
  | loginUserRead user sendable hlogin =>
    cases user with
    | none => exact loginMove_cleanLogin hlogin sendable
    | some user => exact .goesOn (.settled true) hlogin nofun rfl
  | loginCleaned hlogin => exact .goesOn (.settled false) hlogin nofun rfl
  | logoutAnswered => exact .elsewhere rfl
  | restoreRefreshed sendable => exact .elsewhere (logins_restoreRefreshed _ sendable)
  | restoreUserAnswered => exact .elsewhere (logins_restoreUserAnswered _)
  | restoreUserRead user => exact .elsewhere (logins_restoreUserRead user)

namespace Origin

theorem inFlight_of_underWay {p : ℕ} (h : page.sharing.UnderWay p) : page.InFlight p := by
  change (page.refreshes.map Refresh.result)[p]? = some none at h
  rw [List.getElem?_map, Option.map_eq_some_iff] at h
  obtain ⟨refresh, hrefresh, hresult⟩ := h
  cases refresh with
  | fetching => exact .inl hrefresh
  | reading => exact .inr hrefresh
  | settled _ => cases hresult

theorem Outstanding.before {origin : Origin} (hstep : Page.Step page event page')
    (h : origin.Outstanding page') : origin.Outstanding page ∨ origin.ToCome page := by
  cases origin with
  | refresh p =>
    obtain hsame | hmove := hstep.sharing
    · exact .inl (inFlight_of_underWay (hsame ▸ Page.InFlight.underWay h))
    · obtain hold | hnew := hmove.underWay_before (Page.InFlight.underWay h)
      · exact .inl (inFlight_of_underWay hold)
      · exact .inr (by simpa [Page.sharing, ToCome] using hnew)
  | login l =>
    obtain ⟨login, hlogin, hwaits⟩ := h
    exact hstep.loginMove.waiting_before hlogin hwaits

theorem ToCome.before {origin : Origin} (hstep : Page.Step page event page')
    (h : origin.ToCome page') : origin.ToCome page := by
  cases origin with
  | refresh p =>
    have hgrows : page.refreshes.length ≤ page'.refreshes.length := by
      obtain hsame | hmove := hstep.sharing
      · have hlength := congrArg (List.length ∘ SingleFlight.State.flights) hsame
        simp [Page.sharing] at hlength
        omega
      · simpa [Page.sharing] using hmove.flights_le
    exact hgrows.trans h
  | login l => exact hstep.loginMove.length_le.trans h

/-- Along a run the requests that are outstanding at its end were so at its start or are new. -/
theorem before_run {origin : Origin} (h : Run Page.Step page events page')
    (ho : origin.Outstanding page' ∨ origin.ToCome page') :
    origin.Outstanding page ∨ origin.ToCome page := by
  induction h with
  | nil => exact ho
  | snoc _ hstep ih =>
    refine ih ?_
    obtain ho | ho := ho
    · exact ho.before hstep
    · exact .inr (ho.before hstep)

theorem Outstanding.not_toCome {origin : Origin} (h : origin.Outstanding page) :
    ¬ origin.ToCome page := by
  intro hnew
  cases origin with
  | refresh p =>
    have hnone : page.refreshes[p]? = none := List.getElem?_eq_none hnew
    obtain h | h := h <;> cases hnone.symm.trans h
  | login l =>
    obtain ⟨login, hlogin, -⟩ := h
    cases (List.getElem?_eq_none hnew).symm.trans hlogin

end Origin

/-! ## After a logout -/

/-- From a page without a token a run stores none but for requests that were outstanding or new. -/
theorem accessToken_run {after : List (Event User)} (h : Run Page.Step page after page')
    (hnone : page.accessToken = none)
    (hold : ∀ event ∈ after, ∀ origin, event.stores = some origin → ¬ origin.ToCome page)
    (hfail : ∀ before event rest page', after = before ++ event :: rest →
      Run Page.Step page (before ++ [event]) page' →
      ∀ origin, event.stores = some origin → ¬ origin.Outstanding page) :
    page'.accessToken = none := by
  induction h with
  | nil => exact hnone
  | @snoc now _ earlier event hrun hstep ih =>
    have hnow : now.accessToken = none := by
      refine ih (fun e he => hold e (List.mem_append_left _ he)) ?_
      rintro before e rest page'' rfl
      exact hfail before e (rest ++ [event]) page'' (by simp)
    cases hstep.tokenMove with
    | keeps _ hsame => exact hsame.trans hnow
    | clears _ hcleared => exact hcleared
    | stores origin token hstores hout _ =>
      have hmem : event ∈ earlier ++ [event] := List.mem_append_right _ List.mem_cons_self
      obtain hbefore | hnew := Origin.before_run hrun (.inl hout)
      · exact absurd hbefore (hfail earlier event [] _ rfl (hrun.snoc hstep) origin hstores)
      · exact absurd hnew (hold event hmem origin hstores)

theorem Page.Step.accessToken_logoutAnswered {o : ℕ} (h : Step page (.logoutAnswered o) page') :
    page'.accessToken = none := by
  cases h
  rfl

/-- Logout is final in a run if and only if the requests that are outstanding when it completes
bring no token afterwards. -/
theorem logout_final_iff (events : List (Event User)) :
    LogoutFinal events ↔ OutstandingFail events := by
  constructor
  · intro hfinal before o after event rest hevents page page' hlogout hrun hold origin hstores hout
    have hnone : page'.accessToken = none := by
      refine hfinal before o (after ++ [event]) rest (by simp [hevents]) page page' hlogout hrun ?_
      intro e he origin' hstores'
      obtain he | he := List.mem_append.mp he
      · exact hold e he origin' hstores'
      · obtain rfl := List.mem_singleton.mp he
        obtain rfl := Option.some.inj (hstores.symm.trans hstores')
        exact hout.not_toCome
    obtain ⟨now, -, hlast⟩ := hrun.of_append rfl
    cases (hlast.of_single rfl).tokenMove with
    | keeps hnever _ => cases hnever.symm.trans hstores
    | clears hnever _ => cases hnever.symm.trans hstores
    | stores _ token _ _ htoken => cases htoken.symm.trans hnone
  · intro hfail before o after rest hevents page page' hlogout hrun hold
    obtain ⟨now, -, hlast⟩ := hlogout.of_append rfl
    refine accessToken_run hrun (hlast.of_single rfl).accessToken_logoutAnswered hold ?_
    rintro earlier event later page'' rfl hearlier
    refine hfail before o earlier event (later ++ rest) (by simp [hevents]) page page'' hlogout
      hearlier ?_
    exact fun e he => hold e (List.mem_append_left _ he)

/-- A request is rejected and its refresh is sent; the user logs out before its answer comes. -/
def overtakenRefresh : List (Event Unit) :=
  [.login, .loginAnswered 0 (some ⟨200, none⟩), .loginRead 0 (some "first") true, .apiFetch true,
    .fetchAnswered 0 (some rejection) true, .logout true, .fetchAnswered 2 (some ⟨204, none⟩) true,
    .logoutAnswered 0, .refreshAnswered 0 (some ⟨200, none⟩), .refreshRead 0 renewal]

/-- The token of the refresh is the page's token after the logout. -/
theorem logout_overtaken : ¬ LogoutFinal overtakenRefresh := by
  intro hfinal
  let rejected := busyPage.fetchAnswered 0 ⟨some "first", .sent⟩ true (some rejection)
  let leaving := rejected.logout true
  let left := leaving.fetchAnswered 2 ⟨some "first", .sent⟩ true (some ⟨204, none⟩)
  let page := left.logoutAnswered 0 (some ⟨204, none⟩)
  let page' := (page.refreshAnswered 0 (some ⟨200, none⟩)).refreshRead 0 renewal
  have hrejected : Run Page.Step Page.start _ rejected := busyPage_run.snoc
    (.fetchAnswered (some rejection) true (rfl : busyPage.fetches[0]? = _) rfl)
  have hleft : Run Page.Step Page.start _ left :=
    (hrejected.snoc (.logout true)).snoc (.fetchAnswered (some ⟨204, none⟩) true
      (rfl : leaving.fetches[2]? = _) rfl)
  have hlogout : Run Page.Step Page.start _ page :=
    hleft.snoc (.logoutAnswered (rfl : left.logouts[0]? = _) (rfl : left.fetches[2]? = _))
  have hlater : Run Page.Step page [.refreshAnswered 0 (some ⟨200, none⟩), .refreshRead 0 renewal]
      page' := .cons (.refreshAnswered _ rfl) (.single (.refreshRead _ rfl))
  have hnone := hfinal _ 0 _ [] rfl page page' hlogout hlater ?_
  · cases hnone
  · intro event hevent origin hstores
    simp only [List.mem_cons, List.not_mem_nil, or_false] at hevent
    obtain rfl | rfl := hevent
    · cases hstores
    · cases hstores
      exact Nat.not_succ_le_zero 0

end OpsFlow.Frontend
