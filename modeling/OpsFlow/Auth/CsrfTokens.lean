import OpsFlow.Auth.Domain
import OpsFlow.Library.Base64
import OpsFlow.Library.CodePoints
import OpsFlow.Library.Separated
import OpsFlow.Webhook.Signature

namespace OpsFlow.Auth.Csrf
open CodePoints Webhook

/-! ## Session-bound CSRF tokens -/

/-- `secrets.token_urlsafe(32)`, from the bytes that are drawn. -/
def tokenUrlsafe (drawn : Vector UInt8 32) : String :=
  String.ofList (Base64.urlsafeEncode drawn.toList)

/-- What a check of CSRF proof raises; `str.encode` fails on a lone surrogate. -/
inductive CsrfFailure
  | unicodeEncodeError
  | refused (error : AuthError)
  deriving DecidableEq

def encode (text : List CodePoint) : Except CsrfFailure String :=
  match encode? text with
  | some bytes => .ok bytes
  | none => .error .unicodeEncodeError

section

-- HMAC-SHA256: the secret, the message, and the 32 bytes of the code
variable (hmac : String → String → Vector UInt8 32) (csrfSecretKey : String)

def csrfSignature (sessionId : Uuid) (nonce : List CodePoint) :
    Except CsrfFailure (List CodePoint) := do
  let message ← encode (ofString sessionId.str ++ ofChar ':' :: nonce)
  .ok (ofString (digestText hmac csrfSecretKey message))

def createCsrfToken (sessionId : Uuid) (drawn : Vector UInt8 32) :
    Except CsrfFailure (List CodePoint) := do
  let nonce := ofString (tokenUrlsafe drawn)
  let signature ← csrfSignature hmac csrfSecretKey sessionId nonce
  .ok (nonce ++ ofChar '.' :: signature)

def validateCsrfToken (sessionId : Uuid) (csrfToken : List CodePoint) : Except CsrfFailure Bool :=
  match Separated.partition (ofChar '.') csrfToken with
  | (_, none) => .ok false
  | (nonce, some suppliedSignature) =>
    if nonce = [] ∨ suppliedSignature = [] then .ok false
    else do
      let expectedSignature ← csrfSignature hmac csrfSecretKey sessionId nonce
      let supplied ← encode suppliedSignature
      let expected ← encode expectedSignature
      .ok (supplied = expected)

def validateCsrf (sessionId : Uuid) (csrfCookie csrfHeader : Option (List CodePoint)) :
    Except CsrfFailure Unit :=
  match csrfCookie, csrfHeader with
  | some csrfCookie, some csrfHeader => do
    let cookieBytes ← encode csrfCookie
    let headerBytes ← encode csrfHeader
    if cookieBytes ≠ headerBytes then
      .error (.refused (.invalidCsrfToken "CSRF proof does not match."))
    else
      let valid ← validateCsrfToken hmac csrfSecretKey sessionId csrfCookie
      if valid then .ok ()
      else .error (.refused (.invalidCsrfToken "CSRF token signature is invalid."))
  | _, _ => .error (.refused (.invalidCsrfToken "CSRF proof is missing."))

/-! ## Texts -/

def csrfMessage (sessionId : Uuid) (nonce : String) : String := sessionId.str ++ ":" ++ nonce

/-- A nonce, a dot, and the signature of the session and the nonce. -/
def Signed (sessionId : Uuid) (token : String) : Prop :=
  ∃ nonce : String, nonce ≠ "" ∧ '.' ∉ nonce.toList ∧
    token = nonce ++ "." ++ digestText hmac csrfSecretKey (csrfMessage sessionId nonce)

end

variable {hmac : String → String → Vector UInt8 32} {csrfSecretKey : String} {s s' : Uuid}
  {nonce nonce' token bytes : String} {text : List CodePoint} {drawn : Vector UInt8 32}

theorem encode_eq_ok : encode text = .ok bytes ↔ text = ofString bytes := by
  rw [← encode?_eq_some]
  unfold encode
  cases encode? text with
  | none => simp
  | some bytes' => simp

theorem encode_ofString (bytes : String) : encode (ofString bytes) = .ok bytes :=
  encode_eq_ok.mpr rfl

theorem ofString_message (s : Uuid) (nonce : String) :
    ofString s.str ++ ofChar ':' :: ofString nonce = ofString (csrfMessage s nonce) := by
  have hcolon : ":".toList = [':'] := rfl
  simp [ofString, csrfMessage, hcolon]

theorem csrfSignature_ofString (s : Uuid) (nonce : String) :
    csrfSignature hmac csrfSecretKey s (ofString nonce) =
      .ok (ofString (digestText hmac csrfSecretKey (csrfMessage s nonce))) := by
  unfold csrfSignature
  rw [ofString_message, encode_ofString]
  rfl

theorem ofString_token (nonce signature : String) :
    ofString (nonce ++ "." ++ signature) = ofString nonce ++ ofChar '.' :: ofString signature := by
  have hdot : ".".toList = ['.'] := rfl
  simp [ofString, hdot]

theorem ofString_eq_nil : ofString token = [] ↔ token = "" := by
  unfold ofString
  rw [List.map_eq_nil_iff, String.toList_eq_nil_iff]

theorem digestText_ne_empty (message : String) : digestText hmac csrfSecretKey message ≠ "" := by
  intro h
  have hlength := length_digestText hmac csrfSecretKey message
  rw [h] at hlength
  contradiction

/-! ## Nonces -/

theorem notMem_tokenUrlsafe (drawn : Vector UInt8 32) : '.' ∉ (tokenUrlsafe drawn).toList := by
  unfold tokenUrlsafe
  rw [String.toList_ofList]
  intro h
  exact absurd (Base64.mem_urlsafeEncode h) (by decide)

theorem tokenUrlsafe_ne_empty (drawn : Vector UInt8 32) : tokenUrlsafe drawn ≠ "" := by
  have hne : drawn.toList ≠ [] := by
    intro hnil
    have hlength := drawn.length_toList
    rw [hnil] at hlength
    contradiction
  intro h
  apply Base64.urlsafeEncode_ne_nil hne
  rw [← String.toList_ofList (l := Base64.urlsafeEncode drawn.toList)]
  exact congrArg String.toList h

/-! ## What is taken for signed -/

/-- The dot after the nonce is the first one, so that a token is signed in one way only. -/
theorem signed_append {signature : String} (hdot : '.' ∉ nonce.toList) :
    Signed hmac csrfSecretKey s (nonce ++ "." ++ signature) ↔
      nonce ≠ "" ∧ signature = digestText hmac csrfSecretKey (csrfMessage s nonce) := by
  constructor
  · rintro ⟨nonce', hne, hdot', htoken⟩
    obtain ⟨rfl, rfl⟩ := (Separated.string_append_inj rfl hdot hdot').mp htoken
    exact ⟨hne, rfl⟩
  · rintro ⟨hne, rfl⟩
    exact ⟨nonce, hne, hdot, rfl⟩

theorem Signed.dot (h : Signed hmac csrfSecretKey s token) : '.' ∈ token.toList := by
  obtain ⟨nonce, -, -, rfl⟩ := h
  have hdot : ".".toList = ['.'] := rfl
  simp [hdot]

open Classical in
/-- Every text is answered, and taken exactly if it is signed. -/
theorem validateCsrfToken_ofString (s : Uuid) (token : String) :
    validateCsrfToken hmac csrfSecretKey s (ofString token) =
      .ok (decide (Signed hmac csrfSecretKey s token)) := by
  unfold validateCsrfToken
  have htext : ".".toList = ['.'] := rfl
  obtain hdot | ⟨nonce, signature, hdot, rfl⟩ := Separated.string_cases htext token
  · rw [Separated.partition_of_notMem (ofChar_mem_ofString.not.mpr hdot),
      decide_eq_false fun h => hdot h.dot]
  · have hsigned : decide (Signed hmac csrfSecretKey s (nonce ++ "." ++ signature)) =
        decide (nonce ≠ "" ∧ signature = digestText hmac csrfSecretKey (csrfMessage s nonce)) :=
      decide_eq_decide.mpr (signed_append hdot)
    rw [ofString_token, Separated.partition_append (ofChar_mem_ofString.not.mpr hdot), hsigned]
    dsimp only
    by_cases hempty : nonce = "" ∨ signature = ""
    · rw [if_pos (hempty.imp ofString_eq_nil.mpr ofString_eq_nil.mpr), decide_eq_false]
      rintro ⟨hne, hsignature⟩
      obtain hnonce | hnone := hempty
      · exact hne hnonce
      · exact digestText_ne_empty _ (hsignature.symm.trans hnone)
    · rw [if_neg fun h => hempty (h.imp ofString_eq_nil.mp ofString_eq_nil.mp)]
      rw [not_or] at hempty
      simp only [csrfSignature_ofString, bind, Except.bind, encode_ofString, ne_eq, hempty.1,
        not_false_eq_true, true_and]

theorem createCsrfToken_eq (s : Uuid) (drawn : Vector UInt8 32) :
    createCsrfToken hmac csrfSecretKey s drawn = .ok (ofString (tokenUrlsafe drawn ++ "." ++
      digestText hmac csrfSecretKey (csrfMessage s (tokenUrlsafe drawn)))) := by
  unfold createCsrfToken
  dsimp only
  rw [csrfSignature_ofString, ofString_token]
  rfl

/-- The text of an identifier has no colon, so that a message is about one session. -/
theorem csrfMessage_inj : csrfMessage s nonce = csrfMessage s' nonce' ↔
    s = s' ∧ nonce = nonce' := by
  have hcolon (u : Uuid) : ':' ∉ u.str.toList := by
    intro h
    obtain hdash | hhex := mem_str h
    · exact absurd hdash (by decide)
    · exact absurd hhex (by decide)
  unfold csrfMessage
  rw [Separated.string_append_inj rfl (hcolon s) (hcolon s')]
  apply and_congr_left'
  constructor
  · exact str_injective
  · rintro rfl
    rfl

theorem validateCsrfToken_created
    (h : NoCollision hmac csrfSecretKey (csrfMessage s (tokenUrlsafe drawn))
      (csrfMessage s' (tokenUrlsafe drawn))) :
    ∃ token, createCsrfToken hmac csrfSecretKey s drawn = .ok token ∧
      validateCsrfToken hmac csrfSecretKey s' token = .ok (decide (s = s')) := by
  refine ⟨_, createCsrfToken_eq s drawn, ?_⟩
  rw [validateCsrfToken_ofString, Except.ok.injEq, decide_eq_decide,
    signed_append (notMem_tokenUrlsafe drawn), and_iff_right (tokenUrlsafe_ne_empty drawn),
    digestText_inj h, csrfMessage_inj]
  exact and_iff_left rfl

/-! ## Double submission -/

variable {cookie header : Option (List CodePoint)}

/-- Proof is accepted only where cookie and header are one signed text. -/
theorem validateCsrf_eq_ok : validateCsrf hmac csrfSecretKey s cookie header = .ok () ↔
    ∃ token, cookie = some (ofString token) ∧ header = some (ofString token) ∧
      Signed hmac csrfSecretKey s token := by
  classical
  constructor
  · intro h
    unfold validateCsrf at h
    split at h
    · rename_i csrfCookie csrfHeader
      obtain ⟨cookieText, hcookie, h⟩ := bind_eq_ok.mp h
      obtain ⟨headerText, hheader, h⟩ := bind_eq_ok.mp h
      split at h
      · contradiction
      · rename_i hsame
        obtain rfl := not_not.mp hsame
        obtain ⟨valid, hvalid, h⟩ := bind_eq_ok.mp h
        rw [encode_eq_ok] at hcookie hheader
        rw [hcookie, validateCsrfToken_ofString, Except.ok.injEq] at hvalid
        refine ⟨cookieText, by rw [hcookie], by rw [hheader], ?_⟩
        by_contra hunsigned
        rw [decide_eq_false hunsigned] at hvalid
        subst hvalid
        contradiction
    · contradiction
  · rintro ⟨token, rfl, rfl, hsigned⟩
    unfold validateCsrf
    simp only [encode_ofString, bind, Except.bind, ne_eq, not_true_eq_false, if_false,
      validateCsrfToken_ofString, hsigned, decide_true, if_true]

/-! ## The check on texts -/

section Texts

variable {sec : Security}

theorem domain_validateCsrfToken_iff
    (hsec : ∀ nonce, sec.csrfSignature s nonce =
      digestText hmac csrfSecretKey (csrfMessage s nonce)) :
    Auth.validateCsrfToken sec s token = true ↔ Signed hmac csrfSecretKey s token := by
  unfold Auth.validateCsrfToken
  have htext : ".".toList = ['.'] := rfl
  obtain hdot | ⟨nonce, signature, hdot, rfl⟩ := Separated.string_cases htext token
  · have hnone : token.toList.dropWhile (· ≠ '.') = [] := by
      rw [List.dropWhile_eq_nil_iff]
      intro c hc
      exact decide_eq_true fun hsame => hdot (hsame ▸ hc)
    dsimp only
    rw [hnone]
    exact iff_of_false Bool.false_ne_true fun h => hdot h.dot
  · have hnonce : ∀ c ∈ nonce.toList, decide (c ≠ '.') = true := fun c hc =>
      decide_eq_true fun hsame => hdot (hsame ▸ hc)
    have htoken : (nonce ++ "." ++ signature).toList = nonce.toList ++ '.' :: signature.toList := by
      simp [htext]
    have htake : (nonce.toList ++ '.' :: signature.toList).takeWhile (· ≠ '.') = nonce.toList :=
      Separated.takeWhile_append_cons hnonce rfl
    have hdrop : (nonce.toList ++ '.' :: signature.toList).dropWhile (· ≠ '.') =
        '.' :: signature.toList :=
      Separated.dropWhile_append_cons hnonce rfl
    rw [signed_append hdot]
    dsimp only
    rw [htoken, htake, hdrop]
    dsimp only
    rw [decide_eq_true_eq, String.ofList_toList, hsec, String.toList_inj, ne_eq, ne_eq,
      String.toList_eq_nil_iff, String.toList_eq_nil_iff]
    constructor
    · rintro ⟨hne, -, hsignature⟩
      exact ⟨hne, hsignature⟩
    · rintro ⟨hne, rfl⟩
      exact ⟨hne, digestText_ne_empty _, rfl⟩

/-- The model of the check that the routes use answers the same. -/
theorem validateCsrf_texts
    (hsec : ∀ nonce, sec.csrfSignature s nonce =
      digestText hmac csrfSecretKey (csrfMessage s nonce))
    (cookie header : Option String) :
    validateCsrf hmac csrfSecretKey s (cookie.map ofString) (header.map ofString) =
      (Auth.validateCsrf sec s cookie header).mapError .refused := by
  classical
  cases cookie with
  | none => rfl
  | some cookie =>
    cases header with
    | none => rfl
    | some header =>
      have hvalid : Auth.validateCsrfToken sec s cookie =
          decide (Signed hmac csrfSecretKey s cookie) := by
        rw [Bool.eq_iff_iff, decide_eq_true_eq]
        exact domain_validateCsrfToken_iff hsec
      unfold validateCsrf Auth.validateCsrf
      simp only [Option.map_some, encode_ofString, bind, Except.bind, validateCsrfToken_ofString,
        hvalid]
      split
      · rfl
      · split <;> rfl

end Texts

/-- A token is bound to its session, and the text of a token to its nonce. -/
theorem csrf_tokens_bound (hmac : String → String → Vector UInt8 32) (csrfSecretKey : String) :
    (∀ s s' drawn, NoCollision hmac csrfSecretKey (csrfMessage s (tokenUrlsafe drawn))
        (csrfMessage s' (tokenUrlsafe drawn)) →
      ∃ token, createCsrfToken hmac csrfSecretKey s drawn = .ok token ∧
        validateCsrfToken hmac csrfSecretKey s' token = .ok (decide (s = s'))) ∧
    (∀ s token, ∃ valid,
      validateCsrfToken hmac csrfSecretKey s (ofString token) = .ok valid ∧
        (valid = true ↔ Signed hmac csrfSecretKey s token)) ∧
    ∀ s cookie header, validateCsrf hmac csrfSecretKey s cookie header = .ok () ↔
      ∃ token, cookie = some (ofString token) ∧ header = some (ofString token) ∧
        Signed hmac csrfSecretKey s token := by
  classical
  refine ⟨?_, ?_, ?_⟩
  · intro s s' drawn hcollision
    exact validateCsrfToken_created hcollision
  · intro s token
    exact ⟨_, validateCsrfToken_ofString s token, decide_eq_true_iff⟩
  · intro s cookie header
    exact validateCsrf_eq_ok

def countedBytes : Vector UInt8 32 := Vector.ofFn fun i => UInt8.ofNat i

/-- HMAC-SHA256 on the messages of two sessions, with the secret `opsflow-csrf-secret-key`. -/
def knownHmac (_ message : String) : Vector UInt8 32 :=
  if message = csrfMessage 1 (tokenUrlsafe countedBytes) then
    #v[0x3b, 0x04, 0xc6, 0x1d, 0x8c, 0x46, 0x68, 0x57,
      0x31, 0x46, 0xbf, 0xba, 0xfc, 0x3a, 0xdb, 0xa8,
      0x91, 0x46, 0x1b, 0x69, 0x4e, 0x5d, 0xec, 0x11,
      0x6d, 0x97, 0xb5, 0x55, 0xd3, 0x3d, 0x0a, 0x56]
  else
    #v[0xed, 0xc3, 0xa0, 0x68, 0x5b, 0xca, 0xf5, 0x3f,
      0x26, 0xe5, 0x25, 0x76, 0x8b, 0xc0, 0xf8, 0xdb,
      0x54, 0x60, 0x9e, 0x2d, 0x1e, 0x8f, 0x50, 0x95,
      0xae, 0x30, 0xe1, 0xd7, 0xa5, 0xd6, 0xe7, 0x90]

theorem csrf_tokens_bound_otherSession : ∃ token,
    createCsrfToken knownHmac "opsflow-csrf-secret-key" 1 countedBytes = .ok token ∧
      validateCsrfToken knownHmac "opsflow-csrf-secret-key" 2 token = .ok false := by
  refine (csrf_tokens_bound knownHmac "opsflow-csrf-secret-key").1 1 2 countedBytes ?_
  unfold NoCollision
  decide +kernel

end OpsFlow.Auth.Csrf
