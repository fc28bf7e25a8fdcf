import OpsFlow.Frontend.ApiClient
import OpsFlow.Library.SingleFlight

namespace OpsFlow.Frontend
open Transition

variable {User : Type} {page page' page'' : Page User} {event : Event User}
    {events : List (Event User)}

/-! ## The refreshes are shared flights -/

def Refresh.result : Refresh → Option (Option String)
  | settled result => some result
  | _ => none

def RefreshCall.shared (call : RefreshCall) : SingleFlight.Caller (Option String) :=
  ⟨call.promise, call.creator, call.received⟩

namespace Page

def sharing (page : Page User) : SingleFlight.State (Option String) :=
  ⟨page.refreshPromise, page.refreshes.map Refresh.result, page.refreshCalls.map RefreshCall.shared⟩

theorem sharing_apiFetch (sendable : Bool) : (page.apiFetch sendable).sharing = page.sharing := by
  unfold apiFetch
  split <;> rfl

theorem sharing_setRefresh (p : ℕ) (refresh : Refresh) : (page.setRefresh p refresh).sharing =
    { page.sharing with flights := page.sharing.flights.set p refresh.result } := by
  simp [sharing, setRefresh, List.map_set]

theorem underWay_of (p : ℕ) {refresh : Refresh} (h : page.refreshes[p]? = some refresh)
    (hnone : refresh.result = none) : page.sharing.UnderWay p := by
  change (page.refreshes.map Refresh.result)[p]? = some none
  rw [List.getElem?_map, h, Option.map_some, hnone]

/-- A refresh that is still under way is no news. -/
theorem sharing_reading {p : ℕ} (h : page.refreshes[p]? = some .fetching) :
    (page.setRefresh p .reading).sharing = page.sharing := by
  have hflight := underWay_of p h rfl
  obtain ⟨hlt, hget⟩ := List.getElem?_eq_some_iff.mp hflight
  rw [sharing_setRefresh]
  change { page.sharing with flights := page.sharing.flights.set p none } = page.sharing
  rw [← hget, List.set_getElem_self hlt]

theorem sharing_settled {p : ℕ} {refresh : Refresh} (h : page.refreshes[p]? = some refresh)
    (hnone : refresh.result = none) (result : Option String) :
    SingleFlight.Step page.sharing (page.setRefresh p (.settled result)).sharing := by
  rw [sharing_setRefresh]
  exact .land result (underWay_of p h hnone)

theorem sharing_refreshAnswered {p : ℕ} (h : page.refreshes[p]? = some .fetching)
    (answer : Option Response) : (page.refreshAnswered p answer).sharing = page.sharing ∨
      SingleFlight.Step page.sharing (page.refreshAnswered p answer).sharing := by
  cases answer with
  | none => exact .inr (@sharing_settled User page.clearAccessToken p .fetching h rfl none)
  | some response =>
    unfold refreshAnswered
    dsimp only
    split
    · exact .inl (sharing_reading h)
    · exact .inr (@sharing_settled User page.clearAccessToken p .fetching h rfl none)

theorem sharing_refreshRead {p : ℕ} (h : page.refreshes[p]? = some .reading) (body : Option Json) :
    SingleFlight.Step page.sharing (page.refreshRead p body).sharing := by
  unfold refreshRead
  split
  · exact @sharing_settled User (page.setAccessToken _) p .reading h rfl _
  · exact @sharing_settled User page.clearAccessToken p .reading h rfl none

theorem sharing_refreshAccessToken (caller : RefreshCaller) (sendable : Bool) :
    SingleFlight.Step page.sharing (page.refreshAccessToken caller sendable).sharing := by
  unfold refreshAccessToken
  split
  next promise hpromise =>
    have hjoin := SingleFlight.Step.join (s := page.sharing) hpromise
    simpa [sharing, RefreshCall.shared] using hjoin
  next hnone =>
    have hlead : ∀ outcome, SingleFlight.Step page.sharing _ := fun outcome =>
      SingleFlight.Step.lead (s := page.sharing) outcome hnone
    cases sendable with
    | true => simpa [sharing, RefreshCall.shared, performAccessTokenRefresh, Refresh.result]
      using hlead none
    | false =>
      simpa [sharing, RefreshCall.shared, performAccessTokenRefresh, Refresh.result,
        clearAccessToken] using hlead (some none)

theorem sharing_refreshReturned {c : ℕ} {call : RefreshCall} {result : Option String}
    (hcall : page.refreshCalls[c]? = some call) (hwaits : call.received = none)
    (hsettled : page.refreshes[call.promise]? = some (.settled result)) :
    SingleFlight.Step page.sharing (page.refreshReturned c call result).sharing := by
  have hcaller : page.sharing.callers[c]? = some ⟨call.promise, call.creator, none⟩ := by
    change (page.refreshCalls.map RefreshCall.shared)[c]? = _
    rw [List.getElem?_map, hcall, Option.map_some, RefreshCall.shared, hwaits]
  have hflight : page.sharing.flights[call.promise]? = some (some result) := by
    change (page.refreshes.map Refresh.result)[call.promise]? = _
    rw [List.getElem?_map, hsettled]
    rfl
  have hreceive := SingleFlight.Step.receive hcaller hflight
  simpa [sharing, refreshReturned, RefreshCall.shared, List.map_set] using hreceive

theorem sharing_fetchAnswered (i : ℕ) (fetch : ApiFetch) (answer : Option Response)
    (sendable : Bool) :
    (page.fetchAnswered i fetch sendable answer).sharing = page.sharing ∨
      SingleFlight.Step page.sharing (page.fetchAnswered i fetch sendable answer).sharing := by
  cases answer with
  | none => exact .inl rfl
  | some response =>
    -- of the four ways on, only a typed rejection asks for a refresh
    unfold fetchAnswered
    dsimp only
    split_ifs
    · exact .inl rfl
    · exact .inl rfl
    · exact .inl rfl
    · exact .inr (sharing_refreshAccessToken (.apiFetch i) sendable)

theorem sharing_fetchRefreshed (i : ℕ) (fetch : ApiFetch) (response : Response)
    (replacementToken : Option String) (sendable : Bool) :
    (page.fetchRefreshed i fetch response replacementToken sendable).sharing = page.sharing := by
  unfold fetchRefreshed
  split_ifs <;> rfl

theorem sharing_retryAnswered (i : ℕ) (fetch : ApiFetch) (answer : Option Response) :
    (page.retryAnswered i fetch answer).sharing = page.sharing := by
  cases answer with
  | none => rfl
  | some response =>
    unfold retryAnswered
    dsimp only
    split_ifs <;> rfl

theorem sharing_loginUserAnswered (l : ℕ) (answer : Option Response) (sendable : Bool) :
    (page.loginUserAnswered l answer sendable).sharing = page.sharing := by
  unfold loginUserAnswered
  split_ifs
  · rfl
  · exact sharing_apiFetch sendable

theorem sharing_restoreRefreshed (token : Option String) (sendable : Bool) :
    (page.restoreRefreshed token sendable).sharing = page.sharing := by
  unfold restoreRefreshed
  split_ifs
  · rfl
  · exact sharing_apiFetch sendable

theorem sharing_restoreUserAnswered (answer : Option Response) :
    (page.restoreUserAnswered answer).sharing = page.sharing := by
  unfold restoreUserAnswered
  split_ifs <;> rfl

end Page

/-- A step of the page moves the flights by one step of theirs or leaves them as they are. -/
theorem Page.Step.sharing (h : Step page event page') :
    page'.sharing = page.sharing ∨ SingleFlight.Step page.sharing page'.sharing := by
  cases h with
  | apiFetch sendable => exact .inl (sharing_apiFetch sendable)
  | refreshAccessToken sendable => exact .inr (sharing_refreshAccessToken _ sendable)
  | login => exact .inl rfl
  | logout sendable => exact .inl (sharing_apiFetch sendable)
  | restoreAuthentication sendable => exact .inr (sharing_refreshAccessToken _ sendable)
  | refreshAnswered answer hfetching => exact sharing_refreshAnswered hfetching answer
  | refreshRead body hreading => exact .inr (sharing_refreshRead hreading body)
  | refreshReturned hcall hwaits hsettled =>
    exact .inr (sharing_refreshReturned hcall hwaits hsettled)
  | fetchAnswered answer sendable => exact sharing_fetchAnswered _ _ answer sendable
  | fetchRefreshed sendable => exact .inl (sharing_fetchRefreshed _ _ _ _ sendable)
  | retryAnswered answer => exact .inl (sharing_retryAnswered _ _ answer)
  | loginAnswered answer => cases answer <;> exact .inl rfl
  | loginRead body sendable =>
    cases body with
    | none => exact .inl rfl
    | some token => exact .inl (sharing_apiFetch sendable)
  | loginUserAnswered sendable => exact .inl (sharing_loginUserAnswered _ _ sendable)
  | loginUserRead user sendable =>
    cases user with
    | none => exact .inl (sharing_apiFetch sendable)
    | some user => exact .inl rfl
  | loginCleaned => exact .inl rfl
  | logoutAnswered => exact .inl rfl
  | restoreRefreshed sendable => exact .inl (sharing_restoreRefreshed _ sendable)
  | restoreUserAnswered => exact .inl (sharing_restoreUserAnswered _)
  | restoreUserRead user => cases user <;> exact .inl rfl

namespace Page

def InFlight (page : Page User) (p : ℕ) : Prop :=
  page.refreshes[p]? = some .fetching ∨ page.refreshes[p]? = some .reading

def Shares (page : Page User) (c p : ℕ) : Prop :=
  ∃ call, page.refreshCalls[c]? = some call ∧ call.promise = p ∧
    (∀ result, call.received = some result → page.refreshes[p]? = some (.settled result)) ∧
    (call.received = none → ∀ result, page.refreshes[p]? = some (.settled result) →
      Step page (.refreshReturned c) (page.refreshReturned c call result))

theorem InFlight.underWay {p : ℕ} (h : page.InFlight p) : page.sharing.UnderWay p := by
  obtain h | h := h
  · exact underWay_of p h rfl
  · exact underWay_of p h rfl

theorem sharingInv_step (h : page.sharing.Inv) (hstep : Step page event page') :
    page'.sharing.Inv := by
  obtain hsame | hmove := hstep.sharing
  · rw [hsame]
    exact h
  · exact h.step hmove

theorem sharingInv_run (h : Run Step start events page) : page.sharing.Inv :=
  Run.invariant (fun (page : Page User) _ _ (hinv : page.sharing.Inv) hstep =>
    sharingInv_step hinv hstep) h SingleFlight.State.Inv.start

theorem sharing_keeps (h : Run Step page events page') : page.sharing.Keeps page'.sharing := by
  induction h with
  | nil => exact .refl _
  | snoc _ hstep ih =>
    refine ih.trans ?_
    obtain hsame | hmove := hstep.sharing
    · rw [hsame]
      exact .refl _
    · exact hmove.keeps

theorem settled_of_result {p : ℕ} {result : Option String}
    (h : page.sharing.flights[p]? = some (some result)) :
    page.refreshes[p]? = some (.settled result) := by
  change (page.refreshes.map Refresh.result)[p]? = _ at h
  rw [List.getElem?_map, Option.map_eq_some_iff] at h
  obtain ⟨refresh, hrefresh, hresult⟩ := h
  cases refresh with
  | settled _ =>
    cases hresult
    exact hrefresh
  | _ => cases hresult

/-- A call for a refresh shares it, whatever has happened since. -/
theorem shares_of_call {c p : ℕ} {caller : SingleFlight.Caller (Option String)}
    (hinv : page.sharing.Inv) (hcaller : page.sharing.callers[c]? = some caller)
    (hflight : caller.flight = p) : page.Shares c p := by
  change (page.refreshCalls.map RefreshCall.shared)[c]? = _ at hcaller
  rw [List.getElem?_map, Option.map_eq_some_iff] at hcaller
  obtain ⟨call, hcall, rfl⟩ := hcaller
  subst hflight
  refine ⟨call, hcall, rfl, fun result hresult => ?_, fun hwaits result hsettled => ?_⟩
  · refine settled_of_result (hinv.received c call.promise call.creator result ?_)
    change (page.refreshCalls.map RefreshCall.shared)[c]? = _
    rw [List.getElem?_map, hcall, ← hresult]
    rfl
  · exact .refreshReturned hcall hwaits hsettled

/-! ## What a call may still send -/

end Page

def FetchPhase.requestsLeft : FetchPhase → ℕ
  | sent => 1
  | refreshing _ _ => 1
  | retried => 0
  | settled _ => 0

def FetchPhase.refreshesLeft : FetchPhase → ℕ
  | sent => 1
  | _ => 0

namespace Page

def sent (page : Page User) (i : ℕ) : ℕ :=
  page.requests.countP fun request => request.sender = .apiFetch i

def refreshed (page : Page User) (i : ℕ) : ℕ :=
  page.refreshCalls.countP fun call => call.caller = .apiFetch i

/-- Sent or still to be sent; of a call that has not been made all is still to come. -/
def requestBound (page : Page User) (i : ℕ) : ℕ :=
  page.sent i + (page.fetches[i]?).elim 2 fun fetch => fetch.phase.requestsLeft

def refreshBound (page : Page User) (i : ℕ) : ℕ :=
  page.refreshed i + (page.fetches[i]?).elim 1 fun fetch => fetch.phase.refreshesLeft

end Page

/-- What a step does to the calls of `apiFetch`, to their requests and to their refreshes. -/
inductive Page.FetchMove (page : Page User) (event : Event User) (page' : Page User) : Prop
  | elsewhere : page'.fetches = page.fetches → (∀ i, page'.sent i = page.sent i) →
      page.requests ⊆ page'.requests → (∀ i, page'.refreshed i = page.refreshed i) →
        FetchMove page event page'
  | begins (token : Option String) : page'.fetches = page.fetches ++ [⟨token, .sent⟩] →
      page'.requests = page.requests ++ [⟨.apiFetch page.fetches.length, bearer token⟩] →
      page'.refreshCalls = page.refreshCalls → FetchMove page event page'
  | fails (token : Option String) : page'.fetches = page.fetches ++ [⟨token, .settled none⟩] →
      page'.requests = page.requests → page'.refreshCalls = page.refreshCalls →
        FetchMove page event page'
  | settles {i : ℕ} {fetch : ApiFetch} (answer : Option Response) : page.fetches[i]? = some fetch →
      page'.fetches = page.fetches.set i { fetch with phase := .settled answer } →
      page'.requests = page.requests → page'.refreshCalls = page.refreshCalls →
        FetchMove page event page'
  | refreshes {i : ℕ} {fetch : ApiFetch} {response : Response} (sendable : Bool) :
      event = .fetchAnswered i (some response) sendable → page.fetches[i]? = some fetch →
      fetch.phase = .sent → bearer fetch.currentToken ≠ none → response.status = 401 →
      readAuthErrorCode response = some .accessCredentialsInvalid →
      page' = (page.refreshAccessToken (.apiFetch i) sendable).setFetch i
        { fetch with phase := .refreshing response page.refreshCalls.length } →
          FetchMove page event page'
  | retries {i c : ℕ} {fetch : ApiFetch} {response : Response} (token : Option String) :
      page.fetches[i]? = some fetch → fetch.phase = .refreshing response c →
      page'.fetches = page.fetches.set i { fetch with phase := .retried } →
      page'.requests = page.requests ++ [⟨.apiFetch i, token⟩] →
      page'.refreshCalls = page.refreshCalls → FetchMove page event page'

namespace Page

theorem sent_append_other {sender : Sender} (token : Option String) (i : ℕ)
    (h : sender ≠ .apiFetch i) : (page.requests ++ [(⟨sender, token⟩ : Request)]).countP
    (fun request => request.sender = .apiFetch i) =
      page.sent i := by
  rw [List.countP_append, List.countP_singleton]
  simp [h, sent]

theorem FetchMove.quiet (hfetches : page'.fetches = page.fetches)
    (hrequests : page'.requests = page.requests) (hcalls : page'.refreshCalls = page.refreshCalls) :
    FetchMove page event page' := by
  refine .elsewhere hfetches (fun i => ?_) (fun _ hr => ?_) fun i => ?_
  · rw [sent, hrequests, sent]
  · rwa [hrequests]
  · rw [refreshed, hcalls, refreshed]

theorem fetchMove_apiFetch (sendable : Bool) : FetchMove page event (page.apiFetch sendable) := by
  cases sendable with
  | true => exact .begins page.accessToken rfl rfl rfl
  | false => exact .fails page.accessToken rfl rfl rfl

theorem fetchMove_loginRead (token : String) (l : ℕ) (sendable : Bool) :
    FetchMove page event (page.loginRead l (some token) sendable) := by
  cases sendable with
  | true => exact .begins (some token) rfl rfl rfl
  | false => exact .fails (some token) rfl rfl rfl

theorem fetchMove_cleanLogin (l : ℕ) (sendable : Bool) :
    FetchMove page event (page.cleanLogin l sendable) := by
  cases sendable with
  | true => exact .begins page.accessToken rfl rfl rfl
  | false => exact .fails page.accessToken rfl rfl rfl

theorem fetches_refreshAccessToken (caller : RefreshCaller) (sendable : Bool) :
    (page.refreshAccessToken caller sendable).fetches = page.fetches := by
  unfold refreshAccessToken
  split
  · rfl
  · cases sendable <;> rfl

theorem requests_refreshAccessToken (caller : RefreshCaller) (sendable : Bool) :
    (page.refreshAccessToken caller sendable).requests = page.requests ∨
      (page.refreshAccessToken caller sendable).requests =
        page.requests ++ [⟨.refresh page.refreshes.length, none⟩] := by
  unfold refreshAccessToken
  split
  · exact .inl rfl
  · cases sendable with
    | true => exact .inr rfl
    | false => exact .inl rfl

theorem sent_refreshAccessToken (caller : RefreshCaller) (sendable : Bool) (i : ℕ) :
    (page.refreshAccessToken caller sendable).sent i = page.sent i := by
  obtain h | h := @requests_refreshAccessToken User page caller sendable
  · rw [sent, h, sent]
  · rw [sent, h]
    exact sent_append_other none i nofun

theorem refreshed_refreshAccessToken (caller : RefreshCaller) (sendable : Bool) (i : ℕ) :
    (page.refreshAccessToken caller sendable).refreshed i =
      page.refreshed i + if caller = .apiFetch i then 1 else 0 := by
  unfold refreshAccessToken
  split
  · simp [refreshed, List.countP_append, List.countP_singleton]
  · simp [refreshed, List.countP_append, List.countP_singleton]

theorem requests_subset_refreshAccessToken (caller : RefreshCaller) (sendable : Bool) :
    page.requests ⊆ (page.refreshAccessToken caller sendable).requests := by
  obtain h | h := @requests_refreshAccessToken User page caller sendable
  · rw [h]
    exact fun _ hr => hr
  · rw [h]
    exact List.subset_append_left _ _

/-- A refresh that the page asks for is nothing that a call of `apiFetch` has to account for. -/
theorem fetchMove_pageRefresh (sendable : Bool) (hfetches : page'.fetches = page.fetches)
    (hrequests : page'.requests = (page.refreshAccessToken .page sendable).requests)
    (hcalls : page'.refreshCalls = (page.refreshAccessToken .page sendable).refreshCalls) :
    FetchMove page event page' := by
  refine .elsewhere hfetches (fun i => ?_) ?_ fun i => ?_
  · rw [sent, hrequests]
    exact sent_refreshAccessToken .page sendable i
  · rw [hrequests]
    exact requests_subset_refreshAccessToken .page sendable
  · rw [refreshed, hcalls]
    exact refreshed_refreshAccessToken .page sendable i

theorem fetchMove_refreshReturned {c : ℕ} {call : RefreshCall} {result : Option String}
    (hcall : page.refreshCalls[c]? = some call) :
    FetchMove page event (page.refreshReturned c call result) := by
  refine .elsewhere rfl (fun _ => rfl) (fun _ hr => hr) fun i => ?_
  obtain ⟨hlt, hget⟩ := List.getElem?_eq_some_iff.mp hcall
  have hcallers : (page.refreshReturned c call result).refreshCalls.map RefreshCall.caller =
      page.refreshCalls.map RefreshCall.caller := by
    change (page.refreshCalls.set c _).map _ = _
    rw [List.map_set]
    have hlt' : c < (page.refreshCalls.map RefreshCall.caller).length := by simpa using hlt
    have hsame := List.set_getElem_self hlt'
    simpa [hget] using hsame
  have hcount := congrArg (List.countP fun caller => caller = .apiFetch i) hcallers
  rw [List.countP_map, List.countP_map] at hcount
  exact hcount

theorem fetchMove_fetchAnswered {i : ℕ} {fetch : ApiFetch} (answer : Option Response)
    (sendable : Bool) (hfetch : page.fetches[i]? = some fetch) (hsent : fetch.phase = .sent) :
    FetchMove page (.fetchAnswered i answer sendable)
      (page.fetchAnswered i fetch sendable answer) := by
  cases answer with
  | none => exact .settles none hfetch rfl rfl rfl
  | some response =>
    unfold fetchAnswered
    dsimp only
    split_ifs with htoken hstatus hcode
    · exact .settles (some response) hfetch rfl rfl rfl
    · exact .settles (some response) hfetch rfl rfl rfl
    · exact .settles (some response) hfetch rfl rfl rfl
    · exact .refreshes sendable rfl hfetch hsent htoken (not_not.mp hstatus) (not_not.mp hcode) rfl

theorem fetchMove_fetchRefreshed {i c : ℕ} {fetch : ApiFetch} {response : Response}
    (token : Option String) (sendable : Bool) (hfetch : page.fetches[i]? = some fetch)
    (hphase : fetch.phase = .refreshing response c) :
    FetchMove page event (page.fetchRefreshed i fetch response token sendable) := by
  unfold fetchRefreshed
  split_ifs
  · exact .settles (some response) hfetch rfl rfl rfl
  · exact .retries (bearer token) hfetch hphase rfl rfl rfl
  · exact .settles none hfetch rfl rfl rfl

theorem fetchMove_retryAnswered {i : ℕ} {fetch : ApiFetch} (answer : Option Response)
    (hfetch : page.fetches[i]? = some fetch) :
    FetchMove page event (page.retryAnswered i fetch answer) := by
  cases answer with
  | none => exact .settles none hfetch rfl rfl rfl
  | some response =>
    unfold retryAnswered
    dsimp only
    split_ifs
    · exact .settles (some response) hfetch rfl rfl rfl
    · exact .settles (some response) hfetch rfl rfl rfl

end Page

theorem Page.Step.fetchMove (h : Step page event page') : FetchMove page event page' := by
  cases h with
  | apiFetch sendable => exact fetchMove_apiFetch sendable
  | refreshAccessToken sendable =>
    exact fetchMove_pageRefresh sendable (fetches_refreshAccessToken _ _) rfl rfl
  | login =>
    refine .elsewhere rfl (fun i => sent_append_other none i nofun) (List.subset_append_left _ _)
      fun _ => rfl
  | logout sendable =>
    cases sendable with
    | true => exact .begins page.accessToken rfl rfl rfl
    | false => exact .fails page.accessToken rfl rfl rfl
  | restoreAuthentication sendable =>
    exact fetchMove_pageRefresh sendable (fetches_refreshAccessToken _ _) rfl rfl
  | refreshAnswered answer =>
    cases answer with
    | none => exact .quiet rfl rfl rfl
    | some response =>
      unfold Page.refreshAnswered
      dsimp only
      split_ifs <;> exact .quiet rfl rfl rfl
  | refreshRead body =>
    unfold Page.refreshRead
    split <;> exact .quiet rfl rfl rfl
  | refreshReturned hcall => exact fetchMove_refreshReturned hcall
  | fetchAnswered answer sendable hfetch hsent =>
    exact fetchMove_fetchAnswered answer sendable hfetch hsent
  | fetchRefreshed sendable hfetch hphase =>
    exact fetchMove_fetchRefreshed _ sendable hfetch hphase
  | retryAnswered answer hfetch => exact fetchMove_retryAnswered answer hfetch
  | loginAnswered answer => cases answer <;> exact .quiet rfl rfl rfl
  | loginRead body sendable =>
    cases body with
    | none => exact .quiet rfl rfl rfl
    | some token => exact fetchMove_loginRead token _ sendable
  | loginUserAnswered sendable =>
    unfold Page.loginUserAnswered
    split_ifs
    · exact .quiet rfl rfl rfl
    · exact fetchMove_cleanLogin _ sendable
  | loginUserRead user sendable =>
    cases user with
    | none => exact fetchMove_cleanLogin _ sendable
    | some user => exact .quiet rfl rfl rfl
  | loginCleaned => exact .quiet rfl rfl rfl
  | logoutAnswered => exact .quiet rfl rfl rfl
  | restoreRefreshed sendable =>
    unfold Page.restoreRefreshed
    split_ifs
    · exact .quiet rfl rfl rfl
    · cases sendable with
      | true => exact .begins page.accessToken rfl rfl rfl
      | false => exact .fails page.accessToken rfl rfl rfl
  | restoreUserAnswered =>
    unfold Page.restoreUserAnswered
    split_ifs <;> exact .quiet rfl rfl rfl
  | restoreUserRead user => cases user <;> exact .quiet rfl rfl rfl

namespace Page

theorem fetches_of_set {i : ℕ} {fetch fetch' : ApiFetch} (hfetch : page.fetches[i]? = some fetch)
    (hset : page'.fetches = page.fetches.set i fetch') :
    page'.fetches[i]? = some fetch' ∧ ∀ j, j ≠ i → page'.fetches[j]? = page.fetches[j]? := by
  obtain ⟨hlt, -⟩ := List.getElem?_eq_some_iff.mp hfetch
  rw [hset]
  exact ⟨List.getElem?_set_self hlt, fun j hj => List.getElem?_set_ne hj.symm⟩

theorem fetches_of_snoc {fetch : ApiFetch} (hsnoc : page'.fetches = page.fetches ++ [fetch]) :
    page.fetches[page.fetches.length]? = none ∧ page'.fetches[page.fetches.length]? = some fetch ∧
      ∀ j, j ≠ page.fetches.length → page'.fetches[j]? = page.fetches[j]? := by
  rw [hsnoc]
  refine ⟨List.getElem?_eq_none (Nat.le_refl _), by simp, fun j hj => ?_⟩
  rw [List.getElem?_append]
  split_ifs with hlt
  · rfl
  · rw [List.getElem?_eq_none (by simp; omega), List.getElem?_eq_none (by omega)]

theorem fetches_of_refresh {i : ℕ} {fetch : ApiFetch} {caller : RefreshCaller} {sendable : Bool}
    (hpage : page' = (page.refreshAccessToken caller sendable).setFetch i fetch) :
    page'.fetches = page.fetches.set i fetch := by
  rw [hpage, setFetch, fetches_refreshAccessToken]

theorem sent_of_append {i : ℕ} {token : Option String}
    (hrequests : page'.requests = page.requests ++ [⟨.apiFetch i, token⟩]) :
    page'.sent i = page.sent i + 1 ∧ ∀ j, j ≠ i → page'.sent j = page.sent j := by
  refine ⟨?_, fun j hj => ?_⟩
  · rw [sent, hrequests, List.countP_append, List.countP_singleton]
    simp [sent]
  · rw [sent, hrequests]
    exact sent_append_other token j (by simpa using hj.symm)

theorem sent_of_eq (h : page'.requests = page.requests) (i : ℕ) : page'.sent i = page.sent i := by
  rw [sent, h, sent]

theorem refreshed_of_eq (h : page'.refreshCalls = page.refreshCalls) (i : ℕ) :
    page'.refreshed i = page.refreshed i := by
  rw [refreshed, h, refreshed]

/-- No step lets a call send more than it had left. -/
theorem FetchMove.requestBound_le (h : FetchMove page event page') (j : ℕ) :
    page'.requestBound j ≤ page.requestBound j := by
  -- the phases count what is left: two requests before the call, one while its answer or a refresh
  -- is waited for, none after the retry
  unfold requestBound
  cases h with
  | elsewhere hfetches hsent => rw [hfetches, hsent]
  | begins token hfetches hrequests =>
    obtain ⟨hnone, hself, hother⟩ := fetches_of_snoc hfetches
    obtain ⟨hsent, hsame⟩ := sent_of_append hrequests
    by_cases hj : j = page.fetches.length
    · rw [hj, hself, hnone, hsent]
      simp [FetchPhase.requestsLeft]
    · rw [hother j hj, hsame j hj]
  | fails token hfetches hrequests =>
    obtain ⟨hnone, hself, hother⟩ := fetches_of_snoc hfetches
    rw [sent_of_eq hrequests]
    by_cases hj : j = page.fetches.length
    · rw [hj, hself, hnone]
      simp [FetchPhase.requestsLeft]
    · rw [hother j hj]
  | @settles i fetch answer hfetch hfetches hrequests =>
    obtain ⟨hself, hother⟩ := fetches_of_set hfetch hfetches
    rw [sent_of_eq hrequests]
    by_cases hj : j = i
    · rw [hj, hself, hfetch]
      simp [FetchPhase.requestsLeft]
    · rw [hother j hj]
  | @refreshes i fetch response sendable _ hfetch hphase _ _ _ hpage =>
    obtain ⟨hself, hother⟩ := fetches_of_set hfetch (fetches_of_refresh hpage)
    have hsent : page'.sent j = page.sent j := by
      rw [hpage]
      exact sent_refreshAccessToken (.apiFetch i) sendable j
    rw [hsent]
    by_cases hj : j = i
    · rw [hj, hself, hfetch]
      simp [FetchPhase.requestsLeft, hphase]
    · rw [hother j hj]
  | @retries i c fetch response token hfetch hphase hfetches hrequests =>
    obtain ⟨hself, hother⟩ := fetches_of_set hfetch hfetches
    obtain ⟨hsent, hsame⟩ := sent_of_append hrequests
    by_cases hj : j = i
    · rw [hj, hself, hfetch, hsent]
      simp [FetchPhase.requestsLeft, hphase]
    · rw [hother j hj, hsame j hj]

theorem FetchMove.refreshBound_le (h : FetchMove page event page') (j : ℕ) :
    page'.refreshBound j ≤ page.refreshBound j := by
  -- only the answer to the first request leads to a refresh, and it leaves that phase
  unfold refreshBound
  cases h with
  | elsewhere hfetches _ _ hrefreshed => rw [hfetches, hrefreshed]
  | begins token hfetches _ hcalls =>
    obtain ⟨hnone, hself, hother⟩ := fetches_of_snoc hfetches
    rw [refreshed_of_eq hcalls]
    by_cases hj : j = page.fetches.length
    · rw [hj, hself, hnone]
      simp [FetchPhase.refreshesLeft]
    · rw [hother j hj]
  | fails token hfetches _ hcalls =>
    obtain ⟨hnone, hself, hother⟩ := fetches_of_snoc hfetches
    rw [refreshed_of_eq hcalls]
    by_cases hj : j = page.fetches.length
    · rw [hj, hself, hnone]
      simp [FetchPhase.refreshesLeft]
    · rw [hother j hj]
  | @settles i fetch answer hfetch hfetches _ hcalls =>
    obtain ⟨hself, hother⟩ := fetches_of_set hfetch hfetches
    rw [refreshed_of_eq hcalls]
    by_cases hj : j = i
    · rw [hj, hself, hfetch]
      simp [FetchPhase.refreshesLeft]
    · rw [hother j hj]
  | @refreshes i fetch response sendable _ hfetch hphase _ _ _ hpage =>
    obtain ⟨hself, hother⟩ := fetches_of_set hfetch (fetches_of_refresh hpage)
    have hrefreshed : page'.refreshed j =
        page.refreshed j + if RefreshCaller.apiFetch i = .apiFetch j then 1 else 0 := by
      rw [hpage]
      exact refreshed_refreshAccessToken (.apiFetch i) sendable j
    rw [hrefreshed]
    by_cases hj : j = i
    · rw [hj, hself, hfetch]
      simp [FetchPhase.refreshesLeft, hphase]
    · rw [hother j hj]
      simp [Ne.symm hj]
  | @retries i c fetch response token hfetch hphase hfetches _ hcalls =>
    obtain ⟨hself, hother⟩ := fetches_of_set hfetch hfetches
    rw [refreshed_of_eq hcalls]
    by_cases hj : j = i
    · rw [hj, hself, hfetch]
      simp [FetchPhase.refreshesLeft]
    · rw [hother j hj]

/-- A call that waits for its first answer has sent the token that it has taken. -/
def Carried (page : Page User) : Prop := ∀ (i : ℕ) fetch, page.fetches[i]? = some fetch →
  fetch.phase = .sent → ⟨.apiFetch i, bearer fetch.currentToken⟩ ∈ page.requests

theorem Carried.move (hcarried : page.Carried) (h : FetchMove page event page') :
    page'.Carried := by
  intro j fetch' hfetch' hsent
  cases h with
  | elsewhere hfetches _ hrequests =>
    rw [hfetches] at hfetch'
    exact hrequests (hcarried j fetch' hfetch' hsent)
  | begins token hfetches hrequests =>
    obtain ⟨-, hself, hother⟩ := fetches_of_snoc hfetches
    rw [hrequests, List.mem_append]
    by_cases hj : j = page.fetches.length
    · -- the call that is new has just sent its token
      cases hself.symm.trans (hj ▸ hfetch')
      exact .inr (by simp [hj])
    · exact .inl (hcarried j fetch' ((hother j hj).symm.trans hfetch') hsent)
  | fails token hfetches hrequests =>
    obtain ⟨-, hself, hother⟩ := fetches_of_snoc hfetches
    rw [hrequests]
    by_cases hj : j = page.fetches.length
    · cases hself.symm.trans (hj ▸ hfetch')
      cases hsent
    · exact hcarried j fetch' ((hother j hj).symm.trans hfetch') hsent
  | @settles i fetch answer hfetch hfetches hrequests =>
    obtain ⟨hself, hother⟩ := fetches_of_set hfetch hfetches
    rw [hrequests]
    by_cases hj : j = i
    · cases hself.symm.trans (hj ▸ hfetch')
      cases hsent
    · exact hcarried j fetch' ((hother j hj).symm.trans hfetch') hsent
  | @refreshes i fetch response sendable _ hfetch _ _ _ _ hpage =>
    obtain ⟨hself, hother⟩ := fetches_of_set hfetch (fetches_of_refresh hpage)
    by_cases hj : j = i
    · cases hself.symm.trans (hj ▸ hfetch')
      cases hsent
    · rw [hpage]
      exact requests_subset_refreshAccessToken (.apiFetch i) sendable
        (hcarried j fetch' ((hother j hj).symm.trans hfetch') hsent)
  | @retries i c fetch response token hfetch _ hfetches hrequests =>
    obtain ⟨hself, hother⟩ := fetches_of_set hfetch hfetches
    rw [hrequests]
    by_cases hj : j = i
    · cases hself.symm.trans (hj ▸ hfetch')
      cases hsent
    · exact List.mem_append_left _ (hcarried j fetch' ((hother j hj).symm.trans hfetch') hsent)

/-- A call starts or joins a refresh nowhere but at a typed rejection of its token. -/
theorem FetchMove.of_refreshed (h : FetchMove page event page') {i : ℕ}
    (hmore : page.refreshed i < page'.refreshed i) :
    ∃ fetch response sendable, event = .fetchAnswered i (some response) sendable ∧
      page.fetches[i]? = some fetch ∧ fetch.phase = .sent ∧ bearer fetch.currentToken ≠ none ∧
      response.status = 401 ∧ readAuthErrorCode response = some .accessCredentialsInvalid := by
  cases h with
  | elsewhere _ _ _ hrefreshed => exact absurd (hrefreshed i) hmore.ne'
  | begins _ _ _ hcalls => exact absurd (refreshed_of_eq hcalls i) hmore.ne'
  | fails _ _ _ hcalls => exact absurd (refreshed_of_eq hcalls i) hmore.ne'
  | settles _ _ _ _ hcalls => exact absurd (refreshed_of_eq hcalls i) hmore.ne'
  | @refreshes j fetch response sendable hevent hfetch hphase htoken hstatus hcode hpage =>
    have hrefreshed : page'.refreshed i =
        page.refreshed i + if RefreshCaller.apiFetch j = .apiFetch i then 1 else 0 := by
      rw [hpage]
      exact refreshed_refreshAccessToken (.apiFetch j) sendable i
    obtain rfl : j = i := by
      by_contra hne
      simp [hne] at hrefreshed
      omega
    exact ⟨fetch, response, sendable, hevent, hfetch, hphase, htoken, hstatus, hcode⟩
  | retries _ _ _ _ _ hcalls => exact absurd (refreshed_of_eq hcalls i) hmore.ne'

def SignedOut (page page' : Page User) : Prop :=
  page'.accessToken = none ∧ page'.refreshes = page.refreshes ∧
    page'.refreshCalls = page.refreshCalls

theorem requestBound_run (h : Run Step start events page) (i : ℕ) : page.requestBound i ≤ 2 :=
  Run.invariant (fun (page : Page User) _ _ (hbound : page.requestBound i ≤ 2) hstep =>
    (hstep.fetchMove.requestBound_le i).trans hbound) h (Nat.le_refl 2)

theorem refreshBound_run (h : Run Step start events page) (i : ℕ) : page.refreshBound i ≤ 1 :=
  Run.invariant (fun (page : Page User) _ _ (hbound : page.refreshBound i ≤ 1) hstep =>
    (hstep.fetchMove.refreshBound_le i).trans hbound) h (Nat.le_refl 1)

theorem carried_run (h : Run Step start events page) : page.Carried :=
  Run.invariant (fun (page : Page User) _ _ (hcarried : page.Carried) hstep =>
    hcarried.move hstep.fetchMove) h nofun

/-- Whoever calls for a refresh while one is in flight shares it, in every later state. -/
theorem shares_run (h : Run Step start events page) (hstep : Step page event page')
    {later : List (Event User)} (hlater : Run Step page' later page'') {p : ℕ}
    (hp : page.InFlight p) {call : RefreshCall}
    (hcall : page'.refreshCalls = page.refreshCalls ++ [call]) :
    page''.Shares page.refreshCalls.length p := by
  have hinv := sharingInv_run h
  have hcallers : page'.sharing.callers = page.sharing.callers ++ [call.shared] := by
    change page'.refreshCalls.map RefreshCall.shared = _
    rw [hcall, List.map_append]
    rfl
  -- the call joins the flight that is under way; afterwards a caller keeps its flight
  have hflight : call.promise = p := by
    obtain hsame | hmove := hstep.sharing
    · have hlength := congrArg (List.length ∘ SingleFlight.State.callers) hsame
      simp [hcallers] at hlength
    · exact hmove.joins hinv hp.underWay hcallers
  have hnew : page'.sharing.callers[page.refreshCalls.length]? = some call.shared := by
    have hlength : page.refreshCalls.length = page.sharing.callers.length :=
      (List.length_map RefreshCall.shared).symm
    rw [hcallers, hlength]
    exact List.getElem?_concat_length
  obtain ⟨received, hkept⟩ := sharing_keeps hlater _ _ hnew
  exact shares_of_call (sharingInv_run (.append (.snoc h hstep) hlater)) hkept hflight

end Page

open Page in
theorem refresh_coalesced (h : Run Page.Step Page.start events page) :
    (∀ p q, page.InFlight p → page.InFlight q → p = q) ∧
    (∀ event page' later page'', Step page event page' → Run Step page' later page'' →
      ∀ p, page.InFlight p → ∀ call, page'.refreshCalls = page.refreshCalls ++ [call] →
        page''.Shares page.refreshCalls.length p) ∧
    (∀ i, page.sent i ≤ 2 ∧ page.refreshed i ≤ 1) ∧
    (∀ event page' i, Step page event page' → page.refreshed i < page'.refreshed i →
      ∃ token response sendable, event = .fetchAnswered i (some response) sendable ∧
        ⟨.apiFetch i, some token⟩ ∈ page.requests ∧ response.status = 401 ∧
        readAuthErrorCode response = some .accessCredentialsInvalid) ∧
    (∀ i fetch response sendable page',
      Step page (.fetchAnswered i (some response) sendable) page' →
      page.fetches[i]? = some fetch → bearer fetch.currentToken ≠ none → response.status = 401 →
      readAuthErrorCode response ≠ some .accessCredentialsInvalid → page.SignedOut page') ∧
    (∀ i response page', Step page (.retryAnswered i (some response)) page' →
      response.status = 401 → page.SignedOut page') := by
  refine ⟨fun p q hp hq => ?_, fun event page' later page'' hstep hlater p hp call hcall => ?_,
    fun i => ⟨?_, ?_⟩, fun event page' i hstep hmore => ?_,
    fun i fetch response sendable page' hstep hfetch htoken hstatus hcode => ?_,
    fun i response page' hstep hstatus => ?_⟩
  · exact (sharingInv_run h).underWay_unique hp.underWay hq.underWay
  · exact shares_run h hstep hlater hp hcall
  · exact (Nat.le_add_right _ _).trans (requestBound_run h i)
  · exact (Nat.le_add_right _ _).trans (refreshBound_run h i)
  · obtain ⟨fetch, response, sendable, hevent, hfetch, hphase, htoken, hstatus, hcode⟩ :=
      hstep.fetchMove.of_refreshed hmore
    obtain ⟨token, hbearer⟩ := Option.ne_none_iff_exists'.mp htoken
    refine ⟨token, response, sendable, hevent, ?_, hstatus, hcode⟩
    rw [← hbearer]
    exact carried_run h i fetch hfetch hphase
  · cases hstep with
    | fetchAnswered _ _ hfetch' =>
      cases hfetch'.symm.trans hfetch
      unfold fetchAnswered
      dsimp only
      rw [if_neg htoken, if_neg (not_not.mpr hstatus), if_pos hcode]
      exact ⟨rfl, rfl, rfl⟩
  · cases hstep with
    | retryAnswered =>
      unfold retryAnswered
      dsimp only
      rw [if_pos hstatus]
      exact ⟨rfl, rfl, rfl⟩

def rejection : Response := ⟨401, some "AUTH_ACCESS_CREDENTIALS_INVALID"⟩

def renewal : Option Json := some (.object [("access_token", .string "second")])

/-- A page that has logged in and has sent two requests with its token. -/
def busyPage : Page Unit :=
  { (Page.start : Page Unit) with
    accessToken := some "first"
    fetches := [⟨some "first", .sent⟩, ⟨some "first", .sent⟩]
    logins := [.gettingUser 0]
    requests := [⟨.login 0, none⟩, ⟨.apiFetch 0, some "first"⟩, ⟨.apiFetch 1, some "first"⟩] }

theorem busyPage_run : Run Page.Step Page.start
    [.login, .loginAnswered 0 (some ⟨200, none⟩), .loginRead 0 (some "first") true, .apiFetch true]
    busyPage :=
  .cons .login
    (.cons (.loginAnswered _ rfl) (.cons (.loginRead _ _ rfl) (.single (.apiFetch true))))

/-- Both of its requests are rejected: the second call shares the refresh of the first one. -/
theorem refresh_coalesced_two : ∃ page : Page Unit, page.Shares 1 0 ∧
    page.refreshes[0]? = some (.settled (some "second")) := by
  let page := busyPage.fetchAnswered 0 ⟨some "first", .sent⟩ true (some rejection)
  let page' := page.fetchAnswered 1 ⟨some "first", .sent⟩ true (some rejection)
  have hrun : Run Page.Step Page.start _ page := busyPage_run.snoc
    (.fetchAnswered (some rejection) true (rfl : busyPage.fetches[0]? = _) rfl)
  have hjoin : Page.Step page (.fetchAnswered 1 (some rejection) true) page' :=
    .fetchAnswered _ _ rfl rfl
  have hlater : Run Page.Step page' [.refreshAnswered 0 (some ⟨200, none⟩), .refreshRead 0 renewal]
      ((page'.refreshAnswered 0 (some ⟨200, none⟩)).refreshRead 0 renewal) :=
    .cons (.refreshAnswered _ rfl) (.single (.refreshRead _ rfl))
  obtain ⟨-, hshares, -⟩ := refresh_coalesced hrun
  exact ⟨_, hshares _ _ _ _ hjoin hlater 0 (.inl rfl) ⟨.apiFetch 1, 0, false, none⟩ rfl, rfl⟩

end OpsFlow.Frontend
