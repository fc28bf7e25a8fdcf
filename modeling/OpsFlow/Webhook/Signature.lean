import OpsFlow.Values
import OpsFlow.Library.Separated
import OpsFlow.Library.Utf16
import Mathlib.Algebra.Order.Ring.Rat
import Mathlib.Tactic.NormNum

namespace OpsFlow.Webhook

/-! ## Bytes as hexadecimal digits -/

def hexText (bytes : List UInt8) : List Char := bytes.flatMap fun byte => hexDigits byte.toNat 2

/-- `Buffer.from(text, "hex")`, which ends at the first pair that is no byte. -/
def fromHex : List Char → List UInt8
  | high :: low :: rest =>
    match hexDigit? high, hexDigit? low with
    | some high, some low => UInt8.ofNat (16 * high + low) :: fromHex rest
    | _, _ => []
  | _ => []

def lowerHex (c : Char) : Bool := ('0' ≤ c ∧ c ≤ '9') ∨ ('a' ≤ c ∧ c ≤ 'f')

/-! ## The signature of a webhook -/

def signatureVersion : String := "v1"

def sha256HexLength : ℕ := 64

def minimumSecretBytes : ℕ := 32

inductive SignatureError
  | invalidWebhookSigningSecret (message : String)
  | invalidWebhookTimestamp (message : String)
  deriving DecidableEq

structure WebhookSignatureInput where
  body : String
  timestampSeconds : ℚ
  secret : String

structure WebhookSignatureVerificationInput extends WebhookSignatureInput where
  signatureHeader : String
  currentTimestampSeconds : ℚ
  toleranceSeconds : ℚ

def isSafeInteger (n : ℚ) : Bool := n.den = 1 ∧ n.num.natAbs ≤ 2 ^ 53 - 1

def validateSecret (secret : String) : Except SignatureError Unit :=
  if secret.utf8ByteSize < minimumSecretBytes then
    .error (.invalidWebhookSigningSecret ("Webhook signing secret must contain at least " ++
      toString minimumSecretBytes ++ " UTF-8 bytes."))
  else .ok ()

def validateTimestamp (timestampSeconds : ℚ) : Except SignatureError Unit :=
  if ¬ isSafeInteger timestampSeconds ∨ timestampSeconds ≤ 0 then
    .error (.invalidWebhookTimestamp
      "Webhook timestamp must be a positive safe integer expressed as Unix seconds.")
  else .ok ()

/-- `String(n)`, for a safe integer. -/
def integerText (n : ℚ) : String := toString n.num

def buildSignaturePayload (timestampSeconds : ℚ) (body : String) : String :=
  integerText timestampSeconds ++ "." ++ body

section

-- HMAC-SHA256: the secret, the message, and the 32 bytes of the code
variable (hmac : String → String → Vector UInt8 32)

def calculateDigest (input : WebhookSignatureInput) : Except SignatureError String := do
  validateSecret input.secret
  validateTimestamp input.timestampSeconds
  let payload := buildSignaturePayload input.timestampSeconds input.body
  .ok (String.ofList (hexText (hmac input.secret payload).toList))

/-- The digest of a header; lengths are counted in UTF-16 units. -/
def parseSignatureHeader (value : String) : Option String :=
  let version := (signatureVersion ++ "=").toList
  if ¬ version <+: value.toList then none
  else
    let digest := value.toList.drop version.length
    if (digest.flatMap Utf16.encode).length ≠ sha256HexLength then none
    else if ¬ (digest ≠ [] ∧ digest.all lowerHex) then none
    else some (String.ofList digest)

def createWebhookSignature (input : WebhookSignatureInput) : Except SignatureError String := do
  let digest ← calculateDigest hmac input
  .ok (signatureVersion ++ "=" ++ digest)

def verifyWebhookSignature (input : WebhookSignatureVerificationInput) :
    Except SignatureError Bool := do
  validateSecret input.secret
  validateTimestamp input.timestampSeconds
  validateTimestamp input.currentTimestampSeconds
  if ¬ isSafeInteger input.toleranceSeconds ∨ input.toleranceSeconds < 0 then
    .error (.invalidWebhookTimestamp
      "Webhook signature tolerance must be a non-negative safe integer.")
  else if |input.currentTimestampSeconds - input.timestampSeconds| > input.toleranceSeconds then
    .ok false
  else
    match parseSignatureHeader input.signatureHeader with
    | none => .ok false
    | some actualDigest => do
      let expectedDigest ← calculateDigest hmac input.toWebhookSignatureInput
      let actual := fromHex actualDigest.toList
      let expected := fromHex expectedDigest.toList
      -- `timingSafeEqual` is only asked about buffers of one length
      if actual.length ≠ expected.length then .ok false
      else .ok (decide (actual = expected))

end

/-! ## Digits and bytes determine each other -/

variable {cs : List Char} {c : Char}

theorem hexDigits_two (value : ℕ) :
    hexDigits value 2 = [(value / 16 % 16).digitChar, (value % 16).digitChar] := rfl

theorem fromHex_hexText (bytes : List UInt8) : fromHex (hexText bytes) = bytes := by
  induction bytes with
  | nil => rfl
  | cons byte bytes ih =>
    have hlt : byte.toNat < 256 := byte.toNat_lt
    have hhigh := hexDigit?_digitChar (byte.toNat / 16 % 16) (Nat.mod_lt _ (by omega))
    have hlow := hexDigit?_digitChar (byte.toNat % 16) (Nat.mod_lt _ (by omega))
    have hvalue : 16 * (byte.toNat / 16 % 16) + byte.toNat % 16 = byte.toNat := by omega
    unfold hexText at ih ⊢
    rw [List.flatMap_cons, hexDigits_two, List.cons_append, List.singleton_append, fromHex, hhigh,
      hlow]
    dsimp only
    rw [hvalue, UInt8.ofNat_toNat, ih]

theorem length_hexText (bytes : List UInt8) : (hexText bytes).length = 2 * bytes.length := by
  induction bytes with
  | nil => rfl
  | cons byte bytes ih =>
    unfold hexText at ih ⊢
    rw [List.flatMap_cons, List.length_append, length_hexDigits, ih, List.length_cons]
    omega

theorem lowerHex_digitChar : ∀ d < 16, lowerHex d.digitChar = true := by decide

theorem lowerHex_hexText {bytes : List UInt8} (h : c ∈ hexText bytes) : lowerHex c = true := by
  obtain ⟨byte, -, hc⟩ := List.mem_flatMap.mp h
  obtain ⟨d, hd, rfl⟩ := mem_hexDigits hc
  exact lowerHex_digitChar d hd

/-- A lower-case digit is the one that its value is written with. -/
theorem exists_digit (h : lowerHex c = true) : ∃ d < 16, c = d.digitChar := by
  have hcode : ∀ n < 128, lowerHex (Char.ofNat n) = true →
      ∃ d < 16, Char.ofNat n = d.digitChar := by decide
  have hsmall : c.toNat < 128 := by
    have hle {c' : Char} (hc' : c'.toNat < 128) (hle : c ≤ c') : c.toNat < 128 := by
      have hnat : c.toNat ≤ c'.toNat := hle
      omega
    obtain ⟨-, h⟩ | ⟨-, h⟩ := of_decide_eq_true h
    · exact hle (by decide) h
    · exact hle (by decide) h
  have hdigit := hcode c.toNat hsmall
  rw [Char.ofNat_toNat] at hdigit
  exact hdigit h

/-- An even number of lower-case digits is the text of the bytes that are read from it. -/
theorem hexText_fromHex {n : ℕ} (hlength : cs.length = 2 * n) (h : ∀ c ∈ cs, lowerHex c = true) :
    hexText (fromHex cs) = cs := by
  induction n generalizing cs with
  | zero =>
    obtain rfl := List.length_eq_zero_iff.mp hlength
    rfl
  | succ n ih =>
    -- the digits of a byte come in pairs
    obtain ⟨high, low, rest, rfl⟩ : ∃ high low rest, cs = high :: low :: rest := by
      match cs, hlength with
      | high :: low :: rest, _ => exact ⟨high, low, rest, rfl⟩
    obtain ⟨a, ha, rfl⟩ := exists_digit (h high (by simp))
    obtain ⟨b, hb, rfl⟩ := exists_digit (h low (by simp))
    have hrest := ih (by simpa [Nat.mul_add] using hlength) fun c hc => h c (by simp [hc])
    have hbyte : (UInt8.ofNat (16 * a + b)).toNat = 16 * a + b := by
      rw [UInt8.toNat_ofNat']
      omega
    have hdigits : hexDigits (16 * a + b) 2 = [a.digitChar, b.digitChar] := by
      have ha' : (16 * a + b) / 16 % 16 = a := by omega
      have hb' : (16 * a + b) % 16 = b := by omega
      rw [hexDigits_two, ha', hb']
    rw [fromHex, hexDigit?_digitChar a ha, hexDigit?_digitChar b hb]
    unfold hexText at hrest ⊢
    dsimp only
    rw [List.flatMap_cons, hbyte, hdigits, hrest, List.cons_append, List.singleton_append]

/-! ## The signed text determines the timestamp and the body -/

variable {t t' : ℚ} {body body' secret : String}

theorem toList_integerText (ht : 0 < t) : (integerText t).toList = Nat.toDigits 10 t.num.toNat := by
  have hpos : 0 < t.num := Rat.num_pos.mpr ht
  obtain ⟨n, hn⟩ := Int.eq_ofNat_of_zero_le hpos.le
  unfold integerText
  rw [hn]
  exact Nat.toList_repr

theorem integerText_no_dot (ht : 0 < t) : '.' ∉ (integerText t).toList := by
  intro hdot
  rw [toList_integerText ht] at hdot
  have hdigit := Nat.isDigit_of_mem_toDigits (by omega) (by omega) hdot
  contradiction

theorem den_eq_one (h : isSafeInteger t = true) : t.den = 1 := (of_decide_eq_true h).1

theorem integerText_inj (ht : isSafeInteger t = true) (ht' : isSafeInteger t' = true) (hpos : 0 < t)
    (hpos' : 0 < t') (h : (integerText t).toList = (integerText t').toList) : t = t' := by
  rw [toList_integerText hpos, toList_integerText hpos'] at h
  have hnum : t.num.toNat = t'.num.toNat := by
    rw [← Nat.ofDigitChars_ten_toDigits (n := t.num.toNat), h, Nat.ofDigitChars_ten_toDigits]
  have hn : 0 < t.num := Rat.num_pos.mpr hpos
  have hn' : 0 < t'.num := Rat.num_pos.mpr hpos'
  refine Rat.ext ?_ ((den_eq_one ht).trans (den_eq_one ht').symm)
  omega

theorem buildSignaturePayload_inj (ht : isSafeInteger t = true) (ht' : isSafeInteger t' = true)
    (hpos : 0 < t) (hpos' : 0 < t')
    (h : buildSignaturePayload t body = buildSignaturePayload t' body') :
    t = t' ∧ body = body' := by
  have hboth := (Separated.string_append_inj rfl (integerText_no_dot hpos)
    (integerText_no_dot hpos')).mp h
  exact ⟨integerText_inj ht ht' hpos hpos' (congrArg String.toList hboth.1), hboth.2⟩

/-! ## The header that the signer makes -/

variable {hmac : String → String → Vector UInt8 32} {now tolerance : ℚ} {given digest : String}

theorem validateSecret_eq_ok : validateSecret secret = .ok () ↔ 32 ≤ secret.utf8ByteSize := by
  unfold validateSecret minimumSecretBytes
  split
  · rename_i hshort
    exact iff_of_false (by simp) (Nat.not_le.mpr hshort)
  · rename_i hlong
    exact iff_of_true rfl (Nat.not_lt.mp hlong)

theorem validateTimestamp_eq_ok :
    validateTimestamp t = .ok () ↔ isSafeInteger t = true ∧ 0 < t := by
  unfold validateTimestamp
  split
  · rename_i hinvalid
    refine iff_of_false (by simp) ?_
    rintro ⟨hsafe, hpos⟩
    exact hinvalid.elim (fun h => h hsafe) fun h => absurd hpos (not_lt.mpr h)
  · rename_i hvalid
    exact iff_of_true rfl (by simpa using hvalid)

def digestText (hmac : String → String → Vector UInt8 32) (secret payload : String) : String :=
  String.ofList (hexText (hmac secret payload).toList)

def signatureFor (hmac : String → String → Vector UInt8 32) (secret payload : String) : String :=
  signatureVersion ++ "=" ++ digestText hmac secret payload

theorem calculateDigest_eq (hsecret : 32 ≤ secret.utf8ByteSize) (ht : isSafeInteger t = true)
    (hpos : 0 < t) : calculateDigest hmac ⟨body, t, secret⟩ =
      .ok (digestText hmac secret (buildSignaturePayload t body)) := by
  unfold calculateDigest
  rw [validateSecret_eq_ok.mpr hsecret, validateTimestamp_eq_ok.mpr ⟨ht, hpos⟩]
  rfl

theorem createWebhookSignature_eq (hsecret : 32 ≤ secret.utf8ByteSize)
    (ht : isSafeInteger t = true) (hpos : 0 < t) :
    createWebhookSignature hmac ⟨body, t, secret⟩ =
      .ok (signatureFor hmac secret (buildSignaturePayload t body)) := by
  unfold createWebhookSignature
  rw [calculateDigest_eq hsecret ht hpos]
  rfl

theorem length_digestText (hmac : String → String → Vector UInt8 32) (secret payload : String) :
    (digestText hmac secret payload).toList.length = 64 := by
  unfold digestText
  rw [String.toList_ofList, length_hexText, Vector.length_toList]

theorem lowerHex_digestText (hmac : String → String → Vector UInt8 32) (secret payload : String) :
    ∀ c ∈ (digestText hmac secret payload).toList, lowerHex c = true := by
  intro c hc
  unfold digestText at hc
  rw [String.toList_ofList] at hc
  exact lowerHex_hexText hc

theorem fromHex_digestText (hmac : String → String → Vector UInt8 32) (secret payload : String) :
    fromHex (digestText hmac secret payload).toList = (hmac secret payload).toList := by
  unfold digestText
  rw [String.toList_ofList, fromHex_hexText]

/-- Lower-case digits are one UTF-16 unit each. -/
theorem length_utf16 (h : ∀ c ∈ cs, lowerHex c = true) :
    (cs.flatMap Utf16.encode).length = cs.length := by
  have hunit : ∀ d < 16, (Utf16.encode d.digitChar).length = 1 := by decide
  induction cs with
  | nil => rfl
  | cons c cs ih =>
    obtain ⟨d, hd, rfl⟩ := exists_digit (h c (by simp))
    have hrest := ih fun c hc => h c (by simp [hc])
    rw [List.flatMap_cons, List.length_append, hunit d hd, hrest, List.length_cons]
    omega

/-- The parser takes what has the form of a header, and nothing else. -/
theorem parseSignatureHeader_eq_some : parseSignatureHeader given = some digest ↔
    given = signatureVersion ++ "=" ++ digest ∧ digest.toList.length = 64 ∧
      ∀ c ∈ digest.toList, lowerHex c = true := by
  have hversion : (signatureVersion ++ "=").toList = ['v', '1', '='] := rfl
  unfold parseSignatureHeader sha256HexLength
  rw [hversion]
  dsimp only
  constructor
  · intro h
    split at h
    · contradiction
    · rename_i hstart
      obtain ⟨rest, hrest⟩ := not_not.mp hstart
      have hdrop : given.toList.drop ['v', '1', '='].length = rest := by
        rw [← hrest]
        rfl
      rw [hdrop] at h
      split at h
      · contradiction
      · rename_i hlength
        split at h
        · contradiction
        · rename_i hdigits
          obtain ⟨-, hall⟩ := not_not.mp hdigits
          have hall' := List.all_eq_true.mp hall
          obtain rfl := Option.some.inj h
          rw [length_utf16 hall'] at hlength
          refine ⟨?_, ?_, ?_⟩
          · rw [← String.toList_inj, String.toList_append, hversion, String.toList_ofList, hrest]
          · rw [String.toList_ofList]
            exact not_not.mp hlength
          · rwa [String.toList_ofList]
  · rintro ⟨rfl, hlength, hall⟩
    have hlist : (signatureVersion ++ "=" ++ digest).toList = ['v', '1', '='] ++ digest.toList := by
      rw [String.toList_append, hversion]
    have hdrop : (['v', '1', '='] ++ digest.toList).drop ['v', '1', '='].length = digest.toList :=
      rfl
    have hne : digest.toList ≠ [] := by
      rintro hnil
      rw [hnil] at hlength
      contradiction
    rw [hlist, if_neg (not_not.mpr (List.prefix_append _ _)), hdrop, length_utf16 hall,
      if_neg (not_not.mpr hlength), if_neg (not_not.mpr ⟨hne, List.all_eq_true.mpr hall⟩),
      String.ofList_toList]

/-! ## What a receiver accepts -/

/-- In time, a header is accepted if and only if it is the one that the signer makes. -/
theorem verifyWebhookSignature_eq (hsecret : 32 ≤ secret.utf8ByteSize)
    (ht : isSafeInteger t = true) (hpos : 0 < t) (hnow : isSafeInteger now = true)
    (hnowPos : 0 < now) (htolerance : isSafeInteger tolerance = true) (hnonneg : 0 ≤ tolerance) :
    verifyWebhookSignature hmac ⟨⟨body, t, secret⟩, given, now, tolerance⟩ =
      .ok (decide (given = signatureFor hmac secret (buildSignaturePayload t body) ∧
        |now - t| ≤ tolerance)) := by
  unfold verifyWebhookSignature
  rw [validateSecret_eq_ok.mpr hsecret, validateTimestamp_eq_ok.mpr ⟨ht, hpos⟩,
    validateTimestamp_eq_ok.mpr ⟨hnow, hnowPos⟩]
  simp only [bind, Except.bind]
  rw [if_neg (by simp [htolerance, hnonneg])]
  split
  · rename_i hlate
    simp [not_le.mpr hlate]
  · rename_i hintime
    simp only [not_lt.mp hintime, and_true]
    have hexpected := @calculateDigest_eq t body secret hmac hsecret ht hpos
    generalize buildSignaturePayload t body = payload at hexpected ⊢
    cases hparse : parseSignatureHeader given with
    | none =>
      -- the header that the signer makes does parse
      have hne : given ≠ signatureFor hmac secret payload := by
        rintro rfl
        have hsome := parseSignatureHeader_eq_some.mpr ⟨rfl, length_digestText hmac secret payload,
          lowerHex_digestText hmac secret payload⟩
        rw [signatureFor, hsome] at hparse
        contradiction
      simp [hne]
    | some actualDigest =>
      obtain ⟨rfl, hlength, hall⟩ := parseSignatureHeader_eq_some.mp hparse
      have htext := hexText_fromHex (n := 32) hlength hall
      have hbytes : (fromHex actualDigest.toList).length = 32 := by
        have hcount := length_hexText (fromHex actualDigest.toList)
        rw [htext, hlength] at hcount
        omega
      -- among texts of lower-case digits, equal bytes are equal digits
      have hsame : fromHex actualDigest.toList = (hmac secret payload).toList ↔
          signatureVersion ++ "=" ++ actualDigest = signatureFor hmac secret payload := by
        constructor
        · intro heq
          rw [signatureFor, digestText, ← heq, htext, String.ofList_toList]
        · intro heq
          rw [(String.append_right_inj _).mp heq]
          exact fromHex_digestText hmac secret payload
      dsimp only
      rw [hexpected]
      dsimp only
      rw [fromHex_digestText, if_neg (by rw [hbytes, Vector.length_toList]; simp)]
      simp [hsame]

/-- Two messages do not share their code. HMAC-SHA256 is taken to collide on no two messages. -/
def NoCollision (hmac : String → String → Vector UInt8 32) (secret payload payload' : String) :
    Prop :=
  hmac secret payload = hmac secret payload' → payload = payload'

theorem digestText_inj {payload payload' : String} (h : NoCollision hmac secret payload payload') :
    digestText hmac secret payload = digestText hmac secret payload' ↔ payload = payload' := by
  constructor
  · intro hdigest
    have hbytes : (hmac secret payload).toList = (hmac secret payload').toList := by
      rw [← fromHex_digestText, hdigest, fromHex_digestText]
    exact h (Vector.toList_inj.mp hbytes)
  · rintro rfl
    rfl

theorem signatureFor_inj {payload payload' : String}
    (h : NoCollision hmac secret payload payload') :
    signatureFor hmac secret payload = signatureFor hmac secret payload' ↔ payload = payload' := by
  rw [signatureFor, signatureFor, String.append_right_inj]
  exact digestText_inj h

/-- In time, a header is accepted for the body and the timestamp that it was made for. -/
theorem verifyWebhookSignature_signed (hsecret : 32 ≤ secret.utf8ByteSize)
    (ht : isSafeInteger t = true) (hpos : 0 < t) (ht' : isSafeInteger t' = true) (hpos' : 0 < t')
    (hnow : isSafeInteger now = true) (hnowPos : 0 < now)
    (htolerance : isSafeInteger tolerance = true)
    (hnonneg : 0 ≤ tolerance) (hintime : |now - t'| ≤ tolerance)
    (hcollision : NoCollision hmac secret (buildSignaturePayload t body)
      (buildSignaturePayload t' body')) :
    verifyWebhookSignature hmac ⟨⟨body', t', secret⟩,
      signatureFor hmac secret (buildSignaturePayload t body), now, tolerance⟩ =
        .ok (decide (body' = body ∧ t' = t)) := by
  have hpayload : buildSignaturePayload t body = buildSignaturePayload t' body' ↔
      body' = body ∧ t' = t := by
    constructor
    · intro h
      obtain ⟨rfl, rfl⟩ := buildSignaturePayload_inj ht ht' hpos hpos' h
      exact ⟨rfl, rfl⟩
    · rintro ⟨rfl, rfl⟩
      rfl
  rw [verifyWebhookSignature_eq hsecret ht' hpos' hnow hnowPos htolerance hnonneg]
  simp only [signatureFor_inj hcollision, hpayload, hintime, and_true]

/-- The header for a body and a timestamp is accepted for these in time, no other text is, and for
no other body or timestamp. No text is answered with an error. -/
theorem verifyWebhookSignature_exact (hmac : String → String → Vector UInt8 32)
    {secret body : String} {t now tolerance : ℚ} (hsecret : 32 ≤ secret.utf8ByteSize)
    (ht : isSafeInteger t = true) (hpos : 0 < t) (hnow : isSafeInteger now = true)
    (hnowPos : 0 < now) (htolerance : isSafeInteger tolerance = true) (hnonneg : 0 ≤ tolerance) :
    ∃ header, createWebhookSignature hmac ⟨body, t, secret⟩ = .ok header ∧
      (∀ given, verifyWebhookSignature hmac ⟨⟨body, t, secret⟩, given, now, tolerance⟩ =
        .ok (decide (given = header ∧ |now - t| ≤ tolerance))) ∧
      ∀ body' t', isSafeInteger t' = true → 0 < t' → |now - t'| ≤ tolerance →
        NoCollision hmac secret (buildSignaturePayload t body) (buildSignaturePayload t' body') →
        verifyWebhookSignature hmac ⟨⟨body', t', secret⟩, header, now, tolerance⟩ =
          .ok (decide (body' = body ∧ t' = t)) := by
  refine ⟨_, createWebhookSignature_eq hsecret ht hpos, fun given =>
    verifyWebhookSignature_eq hsecret ht hpos hnow hnowPos htolerance hnonneg, ?_⟩
  intro body' t' ht' hpos' hintime hcollision
  exact verifyWebhookSignature_signed hsecret ht hpos ht' hpos' hnow hnowPos htolerance hnonneg
    hintime
    hcollision

/-- HMAC-SHA256 on two messages, with the secret `0123456789abcdef0123456789abcdef`. -/
def knownHmac (_ payload : String) : Vector UInt8 32 :=
  if payload = "1700000000.\x7b\x7d" then
    #v[0x41, 0x7a, 0xdf, 0x36, 0xb9, 0x01, 0x77, 0x2f,
      0x65, 0x85, 0x97, 0xa7, 0x6d, 0x32, 0x96, 0x94,
      0xe3, 0x35, 0xe6, 0x5f, 0xc0, 0x84, 0x9d, 0x77,
      0x15, 0xc3, 0xca, 0x33, 0x40, 0x63, 0x09, 0xb5]
  else
    #v[0x06, 0x74, 0xb4, 0xdf, 0x31, 0x72, 0xe8, 0x33,
      0x4b, 0x6d, 0x5a, 0x14, 0x7c, 0x01, 0x77, 0xb5,
      0xf0, 0x2f, 0x59, 0x5e, 0x6e, 0xc8, 0xac, 0x48,
      0xf1, 0xa6, 0xe7, 0x6f, 0x8d, 0x1d, 0x33, 0x9b]

/-- The header of an empty object is accepted 100 seconds later, and not for the next second. -/
theorem verifyWebhookSignature_exact_emptyObject : ∃ header,
    createWebhookSignature knownHmac
      ⟨"\x7b\x7d", 1700000000, "0123456789abcdef0123456789abcdef"⟩ = .ok header ∧
    verifyWebhookSignature knownHmac ⟨⟨"\x7b\x7d", 1700000000, "0123456789abcdef0123456789abcdef"⟩,
      header, 1700000100, 300⟩ = .ok true ∧
    verifyWebhookSignature knownHmac ⟨⟨"\x7b\x7d", 1700000001, "0123456789abcdef0123456789abcdef"⟩,
      header, 1700000100, 300⟩ = .ok false := by
  obtain ⟨header, hcreate, hgiven, hother⟩ := @verifyWebhookSignature_exact knownHmac
    "0123456789abcdef0123456789abcdef" "\x7b\x7d" 1700000000 1700000100 300 (by decide) (by decide)
    (by norm_num) (by decide) (by norm_num) (by decide) (by norm_num)
  refine ⟨header, hcreate, ?_, ?_⟩
  · rw [hgiven]
    norm_num
  · have hcollision : NoCollision knownHmac "0123456789abcdef0123456789abcdef"
        (buildSignaturePayload 1700000000 "\x7b\x7d")
        (buildSignaturePayload 1700000001 "\x7b\x7d") := by
      unfold NoCollision
      decide +kernel
    rw [hother "\x7b\x7d" 1700000001 (by decide) (by norm_num) (by norm_num) hcollision]
    norm_num

end OpsFlow.Webhook
