import OpsFlow.Auth.AnonymousRoutes
import OpsFlow.UrlSplit

namespace OpsFlow.Middleware
open Auth UrlSplit

/-! ## The browser-trust boundary -/

def unsafeMethods : List String := ["POST", "PUT", "PATCH", "DELETE"]

/-- A request with the names of its headers in lower case. `request.url` is parsed from the Host
header when it is read, so that reading it can fail. -/
structure Request where
  method : String
  headers : List (String × List UInt8)
  url : Except UrlError SplitResult

/-- `request.headers.get(name)`: the first such header, decoded as Latin-1 -/
def Request.header (request : Request) (name : String) : Option String :=
  (request.headers.lookup name).map fun value =>
    String.ofList (value.map fun byte => Char.ofNat byte.toNat)

structure JsonResponse where
  statusCode : ℕ
  detail : String
  deriving DecidableEq

/-- What `call_next(request)` returns, or an answer of the middleware's own. -/
inductive Outcome
  | forwarded
  | answered (response : JsonResponse)
  deriving DecidableEq

inductive AllowedOrigins
  | one (origin : String)
  | many (origins : List String)

def AllowedOrigins.toList : AllowedOrigins → List String
  | one origin => [origin]
  | many origins => origins

structure BrowserTrustBoundary where
  allowedOrigins : List String

def BrowserTrustBoundary.init (allowedOrigins : AllowedOrigins) : BrowserTrustBoundary where
  allowedOrigins := allowedOrigins.toList.map withoutTrailingSlash

def originOf (url : SplitResult) : String := url.scheme ++ "://" ++ url.netloc

def originIsAllowed (middleware : BrowserTrustBoundary) (request : Request) (origin : String) :
    Except UrlError Bool :=
  let normalizedOrigin := withoutTrailingSlash origin
  if normalizedOrigin ∈ middleware.allowedOrigins then .ok true
  else do
    let url ← request.url
    .ok (normalizedOrigin = withoutTrailingSlash (originOf url))

def extractOrigin (referer : String) : Except UrlError (Option String) := do
  let parsed ← urlsplit referer
  .ok (if parsed.scheme = "" ∨ parsed.netloc = "" then none else some (originOf parsed))

def forbidden (message : String) : Outcome := .answered ⟨403, message⟩

def dispatch (middleware : BrowserTrustBoundary) (request : Request) : Except UrlError Outcome :=
  if request.method ∉ unsafeMethods then .ok .forwarded
  else if request.header "sec-fetch-site" = some "cross-site" then
    .ok (forbidden "Cross-site state-changing request rejected.")
  else
    match request.header "origin", request.header "referer" with
    | some origin, _ => do
      let allowed ← originIsAllowed middleware request origin
      .ok (if allowed then .forwarded else forbidden "Request origin is not trusted.")
    | none, some referer => do
      match ← extractOrigin referer with
      | none => .ok (forbidden "Request referer is not trusted.")
      | some refererOrigin =>
        let allowed ← originIsAllowed middleware request refererOrigin
        .ok (if allowed then .forwarded else forbidden "Request referer is not trusted.")
    | none, none => .ok .forwarded

/-! ## What the boundary is for -/

def SameUpToSlashes (s t : String) : Prop :=
  ∃ n m, s.toList ++ List.replicate n '/' = t.toList ++ List.replicate m '/'

def Configured (allowedOrigins : AllowedOrigins) (origin : String) : Prop :=
  ∃ configured ∈ allowedOrigins.toList, SameUpToSlashes origin configured

def TrustedOrigin (allowedOrigins : AllowedOrigins) (request : Request) (origin : String) : Prop :=
  Configured allowedOrigins origin ∨
    ∃ url, request.url = .ok url ∧ SameUpToSlashes origin (originOf url)

/-- The scheme and the authority of the Referer form the origin. -/
def FormsOrigin (referer origin : String) : Prop :=
  ∃ scheme authority, Names (cleaned referer.toList) scheme authority ∧ scheme ≠ [] ∧
    authority ≠ [] ∧ origin = originOf ⟨String.ofList scheme, String.ofList authority⟩

/-- The request does not come from another site, as far as its headers tell. -/
def Trusted (allowedOrigins : AllowedOrigins) (request : Request) : Prop :=
  request.header "sec-fetch-site" ≠ some "cross-site" ∧
    match request.header "origin", request.header "referer" with
    | some origin, _ => TrustedOrigin allowedOrigins request origin
    | none, some referer =>
      ∃ origin, FormsOrigin referer origin ∧ TrustedOrigin allowedOrigins request origin
    | none, none => True

/-- The request is forwarded or answered with 403, and forwarded exactly if it is trusted. -/
def Decided (allowedOrigins : AllowedOrigins) (request : Request) : Prop :=
  ∃ outcome, dispatch (.init allowedOrigins) request = .ok outcome ∧
    (outcome = .forwarded ∨ ∃ detail, outcome = .answered ⟨403, detail⟩) ∧
    (outcome = .forwarded ↔ Trusted allowedOrigins request)

/-- The URL of the request is not needed for the comparison, or it can be read. -/
def Comparable (allowedOrigins : AllowedOrigins) (request : Request) (origin : String) : Prop :=
  Configured allowedOrigins origin ∨ ∃ url, request.url = .ok url

/-- Brackets in the authority of a Referer stand around an IP address. -/
def RefererReadable (referer : String) : Prop :=
  ∀ scheme authority, Names (cleaned referer.toList) scheme authority → BracketsValid authority

def Readable (allowedOrigins : AllowedOrigins) (request : Request) : Prop :=
  request.header "sec-fetch-site" = some "cross-site" ∨
    match request.header "origin", request.header "referer" with
    | some origin, _ => Comparable allowedOrigins request origin
    | none, some referer =>
      RefererReadable referer ∧
        ∀ origin, FormsOrigin referer origin → Comparable allowedOrigins request origin
    | none, none => True

variable {allowedOrigins : AllowedOrigins} {middleware : BrowserTrustBoundary} {request : Request}
  {s t origin referer message : String} {n : ℕ}

/-! ## Origins up to slashes -/

theorem rdropWhile_append_replicate (l : List Char) (n : ℕ) :
    (l ++ List.replicate n '/').rdropWhile (· = '/') = l.rdropWhile (· = '/') := by
  induction n with
  | zero => rw [List.replicate_zero, List.append_nil]
  | succ n ih =>
    rw [List.replicate_succ', ← List.append_assoc, List.rdropWhile_concat_pos _ _ _ (by simp), ih]

theorem exists_slashes (l : List Char) :
    ∃ n, l = l.rdropWhile (· = '/') ++ List.replicate n '/' := by
  refine ⟨(l.rtakeWhile (· = '/')).length, ?_⟩
  have hslashes : l.rtakeWhile (· = '/') = List.replicate (l.rtakeWhile (· = '/')).length '/' := by
    apply List.eq_replicate_of_mem
    intro c hc
    simpa using List.mem_rtakeWhile_imp hc
  rw [← hslashes, List.rdropWhile_append_rtakeWhile]

theorem withoutTrailingSlash_eq_iff :
    withoutTrailingSlash s = withoutTrailingSlash t ↔ SameUpToSlashes s t := by
  unfold withoutTrailingSlash SameUpToSlashes
  rw [String.ofList_inj]
  constructor
  · intro heq
    obtain ⟨n, hn⟩ := exists_slashes s.toList
    obtain ⟨m, hm⟩ := exists_slashes t.toList
    refine ⟨m, n, ?_⟩
    calc s.toList ++ List.replicate m '/'
      _ = s.toList.rdropWhile (· = '/') ++ List.replicate (n + m) '/' := by
        rw [List.replicate_add, ← List.append_assoc, ← hn]
      _ = t.toList.rdropWhile (· = '/') ++ List.replicate (m + n) '/' := by
        rw [heq, Nat.add_comm]
      _ = t.toList ++ List.replicate n '/' := by
        rw [List.replicate_add, ← List.append_assoc, ← hm]
  · rintro ⟨n, m, heq⟩
    rw [← rdropWhile_append_replicate s.toList n, heq, rdropWhile_append_replicate]

theorem mem_init_iff :
    withoutTrailingSlash origin ∈ (BrowserTrustBoundary.init allowedOrigins).allowedOrigins ↔
      Configured allowedOrigins origin := by
  unfold BrowserTrustBoundary.init Configured
  simp only [List.mem_map, ← withoutTrailingSlash_eq_iff, eq_comm]

theorem originIsAllowed_of_comparable (h : Comparable allowedOrigins request origin) :
    ∃ allowed, originIsAllowed (.init allowedOrigins) request origin = .ok allowed ∧
      (allowed = true ↔ TrustedOrigin allowedOrigins request origin) := by
  unfold originIsAllowed
  by_cases hconfigured : Configured allowedOrigins origin
  · exact ⟨true, if_pos (mem_init_iff.mpr hconfigured), iff_of_true rfl (.inl hconfigured)⟩
  · obtain ⟨url, hurl⟩ := h.resolve_left hconfigured
    refine ⟨withoutTrailingSlash origin = withoutTrailingSlash (originOf url), ?_, ?_⟩
    · rw [hurl]
      exact if_neg (mt mem_init_iff.mp hconfigured)
    · rw [decide_eq_true_iff, withoutTrailingSlash_eq_iff]
      constructor
      · intro hsame
        exact .inr ⟨url, hurl, hsame⟩
      · intro htrusted
        obtain ⟨url', hurl', hsame⟩ := htrusted.resolve_left hconfigured
        rw [hurl] at hurl'
        rwa [Except.ok.inj hurl']

theorem originIsAllowed_of_not_comparable (h : ¬Comparable allowedOrigins request origin) :
    ∃ e, originIsAllowed (.init allowedOrigins) request origin = .error e := by
  obtain ⟨hconfigured, hurl⟩ := not_or.mp h
  unfold originIsAllowed
  simp only [if_neg (mt mem_init_iff.mp hconfigured)]
  cases hread : request.url with
  | error e => exact ⟨e, rfl⟩
  | ok url => exact absurd ⟨url, hread⟩ hurl

/-! ## The origin of a Referer -/

theorem formsOrigin_iff {scheme authority : List Char}
    (h : Names (cleaned referer.toList) scheme authority) :
    FormsOrigin referer origin ↔ scheme ≠ [] ∧ authority ≠ [] ∧
      origin = originOf ⟨String.ofList scheme, String.ofList authority⟩ := by
  constructor
  · rintro ⟨scheme', authority', h', hforms⟩
    obtain ⟨rfl, rfl⟩ := h.unique h'
    exact hforms
  · intro hforms
    exact ⟨scheme, authority, h, hforms⟩

theorem extractOrigin_of_readable (h : RefererReadable referer) :
    ∃ found, extractOrigin referer = .ok found ∧
      ∀ origin, found = some origin ↔ FormsOrigin referer origin := by
  by_cases hnames : ∃ scheme authority, Names (cleaned referer.toList) scheme authority
  · obtain ⟨scheme, authority, hnames⟩ := hnames
    rw [extractOrigin, urlsplit_of_names hnames (h scheme authority hnames)]
    refine ⟨_, rfl, fun origin => ?_⟩
    rw [formsOrigin_iff hnames]
    dsimp only
    by_cases hempty : scheme = [] ∨ authority = []
    · rw [if_pos (by simpa only [String.ofList_eq_empty_iff] using hempty)]
      constructor
      · intro hnone
        contradiction
      · rintro ⟨hscheme, hauthority, -⟩
        exact absurd hempty (not_or.mpr ⟨hscheme, hauthority⟩)
    · rw [if_neg (by simpa only [String.ofList_eq_empty_iff] using hempty), Option.some.injEq]
      obtain ⟨hscheme, hauthority⟩ := not_or.mp hempty
      constructor
      · intro heq
        exact ⟨hscheme, hauthority, heq.symm⟩
      · rintro ⟨-, -, heq⟩
        exact heq.symm
  · simp only [not_exists] at hnames
    obtain ⟨scheme, hsplit⟩ := urlsplit_of_not_names hnames
    have hnone : extractOrigin referer = .ok none := by
      rw [extractOrigin, hsplit]
      exact congrArg Except.ok (if_pos (.inr rfl))
    refine ⟨none, hnone, fun origin => ?_⟩
    constructor
    · intro hnone
      contradiction
    · rintro ⟨scheme, authority, hnamed, -⟩
      exact absurd hnamed (hnames scheme authority)

theorem extractOrigin_of_not_readable (h : ¬RefererReadable referer) :
    ∃ e, extractOrigin referer = .error e := by
  unfold RefererReadable at h
  push Not at h
  obtain ⟨scheme, authority, hnames, hbrackets⟩ := h
  obtain ⟨e, he⟩ := urlsplit_of_not_bracketsValid hnames hbrackets
  refine ⟨e, ?_⟩
  rw [extractOrigin, he]
  rfl

/-! ## The decision -/

theorem decided_of_answer (allowed : Bool)
    (hdispatch : dispatch (.init allowedOrigins) request =
      .ok (if allowed then .forwarded else forbidden message))
    (htrusted : allowed = true ↔ Trusted allowedOrigins request) :
    Decided allowedOrigins request := by
  refine ⟨_, hdispatch, ?_, ?_⟩
  · cases allowed with
    | true => exact .inl rfl
    | false => exact .inr ⟨message, rfl⟩
  · rw [← htrusted]
    cases allowed with
    | true => exact iff_of_true rfl rfl
    | false => exact iff_of_false nofun nofun

theorem not_decided_of_error {e : UrlError}
    (h : dispatch (.init allowedOrigins) request = .error e) : ¬Decided allowedOrigins request := by
  rintro ⟨outcome, hdispatch, -⟩
  rw [h] at hdispatch
  contradiction

/-- The rest of the dispatch where the trust in the request is that in one origin. -/
theorem decided_iff_comparable
    (hdispatch : dispatch (.init allowedOrigins) request =
      originIsAllowed (.init allowedOrigins) request origin >>= fun allowed =>
        .ok (if allowed then .forwarded else forbidden message))
    (htrusted : Trusted allowedOrigins request ↔ TrustedOrigin allowedOrigins request origin) :
    Decided allowedOrigins request ↔ Comparable allowedOrigins request origin := by
  by_cases hcomparable : Comparable allowedOrigins request origin
  · obtain ⟨allowed, hallowed, hiff⟩ := originIsAllowed_of_comparable hcomparable
    rw [hallowed] at hdispatch
    exact iff_of_true (decided_of_answer allowed hdispatch (hiff.trans htrusted.symm)) hcomparable
  · obtain ⟨e, he⟩ := originIsAllowed_of_not_comparable hcomparable
    rw [he] at hdispatch
    exact iff_of_false (not_decided_of_error hdispatch) hcomparable

section

variable (hmethod : request.method ∈ unsafeMethods)
  (hsite : request.header "sec-fetch-site" ≠ some "cross-site")
include hmethod hsite

theorem decided_iff_of_origin (horigin : request.header "origin" = some origin) :
    Decided allowedOrigins request ↔ Comparable allowedOrigins request origin := by
  apply decided_iff_comparable
  · unfold dispatch
    rw [if_neg (not_not.mpr hmethod), if_neg hsite, horigin]
  · unfold Trusted
    rw [horigin]
    exact and_iff_right hsite

theorem decided_iff_of_referer (horigin : request.header "origin" = none)
    (hreferer : request.header "referer" = some referer) :
    Decided allowedOrigins request ↔ RefererReadable referer ∧
      ∀ origin, FormsOrigin referer origin → Comparable allowedOrigins request origin := by
  have hdispatch : dispatch (.init allowedOrigins) request = (do
      match ← extractOrigin referer with
      | none => .ok (forbidden "Request referer is not trusted.")
      | some refererOrigin =>
        let allowed ← originIsAllowed (.init allowedOrigins) request refererOrigin
        .ok (if allowed then .forwarded else forbidden "Request referer is not trusted.")) := by
    unfold dispatch
    rw [if_neg (not_not.mpr hmethod), if_neg hsite, horigin, hreferer]
  have htrusted : Trusted allowedOrigins request ↔
      ∃ origin, FormsOrigin referer origin ∧ TrustedOrigin allowedOrigins request origin := by
    unfold Trusted
    rw [horigin, hreferer]
    exact and_iff_right hsite
  by_cases hreadable : RefererReadable referer
  · obtain ⟨found, hfound, hforms⟩ := extractOrigin_of_readable hreadable
    rw [hfound] at hdispatch
    simp only [← hforms] at htrusted ⊢
    rw [and_iff_right hreadable]
    cases found with
    | none =>
      simp only [reduceCtorEq, false_and, exists_false, false_implies, implies_true] at htrusted ⊢
      exact iff_of_true (decided_of_answer false hdispatch (iff_of_false nofun htrusted.mp)) trivial
    | some origin =>
      simp only [Option.some.injEq, exists_eq_left', forall_eq'] at htrusted ⊢
      exact decided_iff_comparable hdispatch htrusted
  · obtain ⟨e, he⟩ := extractOrigin_of_not_readable hreadable
    rw [he] at hdispatch
    exact iff_of_false (not_decided_of_error hdispatch) fun h => hreadable h.1

end

/-- The boundary decides a state-changing request exactly if it can read what it looks at. -/
theorem dispatch_decides_iff (hmethod : request.method ∈ unsafeMethods) :
    Decided allowedOrigins request ↔ Readable allowedOrigins request := by
  by_cases hsite : request.header "sec-fetch-site" = some "cross-site"
  · have hdispatch : dispatch (.init allowedOrigins) request =
        .ok (forbidden "Cross-site state-changing request rejected.") := by
      unfold dispatch
      rw [if_neg (not_not.mpr hmethod), if_pos hsite]
    exact iff_of_true (decided_of_answer false hdispatch (iff_of_false nofun fun h => h.1 hsite))
      (.inl hsite)
  · unfold Readable
    rw [or_iff_right hsite]
    cases horigin : request.header "origin" with
    | some origin => exact decided_iff_of_origin hmethod hsite horigin
    | none =>
      cases hreferer : request.header "referer" with
      | some referer => exact decided_iff_of_referer hmethod hsite horigin hreferer
      | none =>
        have hdispatch : dispatch (.init allowedOrigins) request = .ok .forwarded := by
          unfold dispatch
          rw [if_neg (not_not.mpr hmethod), if_neg hsite, horigin, hreferer]
        have htrusted : Trusted allowedOrigins request := by
          unfold Trusted
          rw [horigin, hreferer]
          exact ⟨hsite, trivial⟩
        exact iff_of_true ⟨.forwarded, hdispatch, .inl rfl, iff_of_true rfl htrusted⟩ trivial

def ascii (text : String) : List UInt8 := text.toList.map fun c => UInt8.ofNat c.toNat

def frontendPost : Request where
  method := "POST"
  headers := [("origin", ascii "http://localhost:5173/"), ("sec-fetch-site", ascii "same-site")]
  url := .ok ⟨"http", "localhost:8000"⟩

theorem dispatch_decides_frontendPost : Decided (.one "http://localhost:5173") frontendPost := by
  have horigin : frontendPost.header "origin" = some "http://localhost:5173/" := by decide +kernel
  apply (dispatch_decides_iff (by decide)).mpr
  right
  rw [horigin]
  exact .inl ⟨"http://localhost:5173", List.mem_singleton_self _, 0, 1, by decide +kernel⟩

def openBracketPost : Request where
  method := "POST"
  headers := [("referer", ascii "http://[")]
  url := .ok ⟨"http", "localhost:8000"⟩

theorem openBracketPost_not_decided : openBracketPost.method ∈ unsafeMethods ∧
    dispatch (.init (.one "http://localhost:5173")) openBracketPost = .error .invalidIpv6Url ∧
    ¬Decided (.one "http://localhost:5173") openBracketPost := by
  have hdispatch : dispatch (.init (.one "http://localhost:5173")) openBracketPost =
      .error .invalidIpv6Url := by
    decide +kernel
  exact ⟨by decide, hdispatch, not_decided_of_error hdispatch⟩

/-! ## The dispatch of the anonymous routes -/

/-- The arrival holds what the middleware reads of a POST request. -/
structure ReadAs (request : Request) (arrival : Arrival) : Prop where
  method : request.method = "POST"
  fetchSite : request.header "sec-fetch-site" = arrival.fetchSite
  origin : request.header "origin" = arrival.origin
  referer : (request.header "referer").map extractOrigin = arrival.refererOrigin.map .ok
  url : ∃ url, request.url = .ok url ∧ originOf url = arrival.requestOrigin

def outcomeOf : Option String → Outcome
  | none => .forwarded
  | some message => forbidden message

theorem originIsAllowed_of_url {url : SplitResult} (frontendOrigin origin : String)
    (hurl : request.url = .ok url) :
    originIsAllowed (.init (.many [frontendOrigin])) request origin =
      .ok (withoutTrailingSlash origin = withoutTrailingSlash frontendOrigin ∨
        withoutTrailingSlash origin = withoutTrailingSlash (originOf url)) := by
  have hmem : withoutTrailingSlash origin ∈
      (BrowserTrustBoundary.init (.many [frontendOrigin])).allowedOrigins ↔
        withoutTrailingSlash origin = withoutTrailingSlash frontendOrigin := List.mem_singleton
  unfold originIsAllowed
  by_cases hfrontend : withoutTrailingSlash origin = withoutTrailingSlash frontendOrigin
  · rw [decide_eq_true (Or.inl hfrontend)]
    exact if_pos (hmem.mpr hfrontend)
  · simp only [if_neg (mt hmem.mp hfrontend), hurl, hfrontend, false_or]
    rfl

theorem dispatch_eq_browserTrust {arrival : Arrival} {frontendOrigin : String}
    (h : ReadAs request arrival) :
    dispatch (.init (.many [frontendOrigin])) request =
      .ok (outcomeOf (browserTrust frontendOrigin arrival)) := by
  obtain ⟨url, hurl, hown⟩ := h.url
  have hallowed := fun origin => originIsAllowed_of_url frontendOrigin origin hurl
  have hmethod : request.method ∈ unsafeMethods := by
    rw [h.method]
    decide
  have hanswer (allowed : Bool) (message : String) :
      outcomeOf (if allowed then none else some message) =
        if allowed then .forwarded else forbidden message := by
    cases allowed with
    | true => rfl
    | false => rfl
  unfold dispatch browserTrust
  rw [if_neg (not_not.mpr hmethod), h.fetchSite, h.origin, ← hown]
  by_cases hsite : arrival.fetchSite = some "cross-site"
  · rw [if_pos hsite, if_pos hsite]
    rfl
  · rw [if_neg hsite, if_neg hsite]
    cases arrival.origin with
    | some origin =>
      simp only [hallowed, hanswer]
      rfl
    | none =>
      have hreferer := h.referer
      cases hheader : request.header "referer" with
      | none =>
        rw [hheader, Option.map_none, eq_comm, Option.map_eq_none_iff] at hreferer
        rw [hreferer]
        rfl
      | some referer =>
        rw [hheader, Option.map_some, eq_comm, Option.map_eq_some_iff] at hreferer
        obtain ⟨found, hfound, hextract⟩ := hreferer
        simp only [hfound, ← hextract]
        cases found with
        | none => rfl
        | some refererOrigin =>
          simp only [hallowed, hanswer]
          rfl

end OpsFlow.Middleware
