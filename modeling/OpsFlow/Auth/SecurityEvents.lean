import OpsFlow.Values
import OpsFlow.Library.Rekeying

namespace OpsFlow.Auth

open Rekeying

inductive SecurityDetailValue
  | str (text : String)
  | int (n : ℤ)
  | bool (b : Bool)
  | none
  deriving DecidableEq

/-- A flat mapping of details: every key has one entry. -/
abbrev SecurityDetails := AList fun _ : String => SecurityDetailValue

/-- Python's `isalnum` and `lower`, of one character. -/
structure CharacterTables where
  isalnum : Char → Bool
  lower : Char → List Char

namespace SecurityEventLogger

def redactedDetailValue : SecurityDetailValue := .str "[REDACTED]"

def sensitiveDetailKeyMarkers : List String :=
  ["password", "passwd", "token", "secret", "authorization", "cookie", "apikey", "privatekey",
    "signingkey", "hmackey", "bearer", "credential"]

/-- `_clean_text` with its default `max_length`: three control characters become spaces. -/
def cleanText (value : String) : String :=
  let cleaned := value.toList.map fun c => if c = '\r' ∨ c = '\n' ∨ c = '\t' then ' ' else c
  String.ofList (cleaned.take 256)

def cleanValue : SecurityDetailValue → SecurityDetailValue
  | .str text => .str (cleanText text)
  | value => value

variable (tables : CharacterTables)

def normalizeDetailKey (key : String) : String :=
  String.ofList ((key.toList.filter tables.isalnum).flatMap tables.lower)

def isSensitiveDetailKey (key : String) : Bool :=
  let normalizedKey := normalizeDetailKey tables key
  if normalizedKey = "" then false
  else sensitiveDetailKeyMarkers.any fun marker => marker.toList <:+: normalizedKey.toList

/-- `_sanitize_details`: keys are cleaned before they are looked at. -/
def sanitizeDetails (details : SecurityDetails) : SecurityDetails :=
  details.entries.foldl (fun sanitized entry =>
    let cleanedKey := cleanText entry.1
    if isSensitiveDetailKey tables cleanedKey then sanitized.insert cleanedKey redactedDetailValue
    else sanitized.insert cleanedKey (cleanValue entry.2)) ∅

/-! ## What the sanitised details tell -/

/-- The same keys, and the same values where the key as a whole is not sensitive. -/
def AgreeInPublic (details details' : SecurityDetails) : Prop :=
  (∀ key, key ∈ details ↔ key ∈ details') ∧
    ∀ key, isSensitiveDetailKey tables key = false → details.lookup key = details'.lookup key

/-- Nobody can tell the details from others that differ in sensitive values only. -/
def Redacts (details : SecurityDetails) : Prop :=
  ∀ details', AgreeInPublic tables details details' → ∀ key,
    (sanitizeDetails tables details).lookup key = (sanitizeDetails tables details').lookup key

/-- One entry comes out for each that goes in. -/
def Lossless (details : SecurityDetails) : Prop :=
  (sanitizeDetails tables details).keys.length = details.keys.length

variable {tables} {details : SecurityDetails} {key : String} {value : SecurityDetailValue}

def sanitizedValue (tables : CharacterTables) (key : String) (value : SecurityDetailValue) :
    SecurityDetailValue :=
  if isSensitiveDetailKey tables (cleanText key) then redactedDetailValue else cleanValue value

theorem sanitizeDetails_eq (tables : CharacterTables) (details : SecurityDetails) :
    sanitizeDetails tables details = rekey cleanText (sanitizedValue tables) details := by
  unfold sanitizeDetails rekey rekeyEntries
  apply List.foldl_ext
  intro sanitized entry _
  exact (apply_ite (sanitized.insert (cleanText entry.1)) ..).symm

theorem lookup_sanitizeDetails (hinj : Set.InjOn cleanText {key | key ∈ details})
    (h : details.lookup key = some value) :
    (sanitizeDetails tables details).lookup (cleanText key) =
      some (sanitizedValue tables key value) := by
  rw [sanitizeDetails_eq]
  exact lookup_rekey hinj h

theorem lookup_sanitizeDetails_none (h : ∀ original ∈ details, cleanText original ≠ key) :
    (sanitizeDetails tables details).lookup key = none := by
  rw [sanitizeDetails_eq, AList.lookup_eq_none, mem_rekey]
  rintro ⟨original, hmem, heq⟩
  exact h original hmem heq

/-- Where the cleaned keys differ and are sensitive when the keys are, nothing sensitive is told. -/
theorem redacts_of_kept (hinj : Set.InjOn cleanText {key | key ∈ details})
    (hkept : ∀ key ∈ details, isSensitiveDetailKey tables key = true →
      isSensitiveDetailKey tables (cleanText key) = true) : Redacts tables details := by
  rintro details' ⟨hkeys, hpublic⟩ key
  have hinj' : Set.InjOn cleanText {key | key ∈ details'} := by
    intro a ha b hb
    exact hinj ((hkeys a).mpr ha) ((hkeys b).mpr hb)
  by_cases hfrom : ∃ original ∈ details, cleanText original = key
  · obtain ⟨original, hmem, rfl⟩ := hfrom
    obtain ⟨value, hvalue⟩ := Option.isSome_iff_exists.mp (AList.lookup_isSome.mpr hmem)
    obtain ⟨value', hvalue'⟩ :=
      Option.isSome_iff_exists.mp (AList.lookup_isSome.mpr ((hkeys original).mp hmem))
    rw [lookup_sanitizeDetails hinj hvalue, lookup_sanitizeDetails hinj' hvalue']
    unfold sanitizedValue
    split_ifs with hsensitive
    · rfl
    · have hplain : isSensitiveDetailKey tables original = false :=
        Bool.eq_false_iff.mpr fun h => hsensitive (hkept original hmem h)
      have hsame := hpublic original hplain
      rw [hvalue, hvalue', Option.some.injEq] at hsame
      rw [hsame]
  · push Not at hfrom
    rw [lookup_sanitizeDetails_none hfrom, lookup_sanitizeDetails_none fun original hmem =>
      hfrom original ((hkeys original).mpr hmem)]

/-- A sensitive key that cleaning makes harmless tells its value. -/
theorem not_redacts_of_escape (hinj : Set.InjOn cleanText {key | key ∈ details})
    (hmem : key ∈ details) (hsensitive : isSensitiveDetailKey tables key = true)
    (hescape : isSensitiveDetailKey tables (cleanText key) = false) : ¬ Redacts tables details := by
  intro hredacts
  obtain ⟨value, hvalue⟩ := Option.isSome_iff_exists.mp (AList.lookup_isSome.mpr hmem)
  -- another value that the log tells from the first
  obtain ⟨other, hother⟩ : ∃ other, cleanValue other ≠ cleanValue value := by
    by_cases h : cleanValue value = .int 0
    · exact ⟨.int 1, by rw [h]; simp [cleanValue]⟩
    · exact ⟨.int 0, fun heq => h heq.symm⟩
  have hkeys (k : String) : k ∈ details ↔ k ∈ details.insert key other := by
    rw [AList.mem_insert]
    exact ⟨.inr, fun h => h.elim (fun heq => heq ▸ hmem) id⟩
  have hagree : AgreeInPublic tables details (details.insert key other) := by
    refine ⟨hkeys, fun k hplain => ?_⟩
    have hne : k ≠ key := by
      rintro rfl
      exact absurd hsensitive (by simp [hplain])
    exact (AList.lookup_insert_ne hne).symm
  have hinj' : Set.InjOn cleanText {k | k ∈ details.insert key other} := by
    intro a ha b hb
    exact hinj ((hkeys a).mpr ha) ((hkeys b).mpr hb)
  have htold := hredacts _ hagree (cleanText key)
  rw [lookup_sanitizeDetails hinj hvalue,
    lookup_sanitizeDetails hinj' (AList.lookup_insert details), Option.some.injEq] at htold
  unfold sanitizedValue at htold
  rw [if_neg (by simp [hescape]), if_neg (by simp [hescape])] at htold
  exact hother htold.symm

theorem isSensitiveDetailKey_iff : isSensitiveDetailKey tables key = true ↔
    ∃ marker ∈ sensitiveDetailKeyMarkers,
      marker.toList <:+: (key.toList.filter tables.isalnum).flatMap tables.lower := by
  have hmarkers : ∀ marker ∈ sensitiveDetailKeyMarkers, marker.toList ≠ [] := by decide
  unfold isSensitiveDetailKey normalizeDetailKey
  dsimp only
  split_ifs with hnone
  · refine iff_of_false id ?_
    rintro ⟨marker, hmarker, hpart⟩
    rw [String.ofList_eq_empty_iff.mp hnone] at hpart
    exact hmarkers marker hmarker (List.infix_nil.mp hpart)
  · simp only [List.any_eq_true, decide_eq_true_eq, String.toList_ofList]

theorem lossless_iff : Lossless tables details ↔ Set.InjOn cleanText {key | key ∈ details} := by
  unfold Lossless
  rw [sanitizeDetails_eq]
  exact length_rekey_iff

/-- **Redaction.** The sanitised details hide what is sensitive and lose no entry if and only if no
two keys have one cleaned form and every sensitive key is sensitive in its cleaned form too. -/
theorem redacts_and_lossless_iff (tables : CharacterTables) (details : SecurityDetails) :
    Redacts tables details ∧ Lossless tables details ↔
      Set.InjOn cleanText {key | key ∈ details} ∧
        ∀ key ∈ details, isSensitiveDetailKey tables key = true →
          isSensitiveDetailKey tables (cleanText key) = true := by
  constructor
  · rintro ⟨hredacts, hlossless⟩
    have hinj := lossless_iff.mp hlossless
    refine ⟨hinj, fun key hmem hsensitive => ?_⟩
    by_contra hescape
    exact not_redacts_of_escape hinj hmem hsensitive (Bool.eq_false_iff.mpr hescape) hredacts
  · rintro ⟨hinj, hkept⟩
    exact ⟨redacts_of_kept hinj hkept, lossless_iff.mpr hinj⟩

/-! ### A key that is too long -/

def asciiTables : CharacterTables := ⟨Char.isAlphanum, fun c => [c.toLower]⟩

/-- The marker begins after the 256 characters that are kept. -/
def longTokenKey : String := String.ofList (List.replicate 256 'a') ++ "_token"

def longTokenDetails : SecurityDetails := AList.singleton longTokenKey (.str "value")

def tabbedDetails : SecurityDetails :=
  ⟨[⟨"a\tb", .int 1⟩, ⟨"a b", .int 2⟩], List.nodup_cons.mpr ⟨by decide, List.nodup_singleton _⟩⟩

theorem normalized_replicate (n : ℕ) :
    ((List.replicate n 'a').filter asciiTables.isalnum).flatMap asciiTables.lower =
      List.replicate n 'a' := by
  induction n with
  | zero => rfl
  | succ n ih =>
    rw [List.replicate_succ, List.filter_cons_of_pos (by decide), List.flatMap_cons, ih]
    rfl

theorem toList_padded (n : ℕ) (rest : String) :
    (String.ofList (List.replicate n 'a') ++ rest).toList =
      List.replicate n 'a' ++ rest.toList := by
  rw [String.toList_append, String.toList_ofList]

theorem longTokenKey_toList : longTokenKey.toList = List.replicate 256 'a' ++ "_token".toList :=
  toList_padded 256 "_token"

theorem longTokenKey_sensitive : isSensitiveDetailKey asciiTables longTokenKey = true := by
  refine isSensitiveDetailKey_iff.mpr ⟨"token", by decide, ?_⟩
  rw [longTokenKey_toList, List.filter_append, List.flatMap_append, normalized_replicate]
  exact List.infix_append' _ _ _

theorem take_map_replicate {c d : Char} {f : Char → Char} (h : f c = d) (n : ℕ) (rest : List Char) :
    ((List.replicate n c ++ rest).map f).take n = List.replicate n d := by
  rw [List.map_append, List.map_replicate, h]
  exact List.take_left' List.length_replicate

theorem cleanText_longTokenKey :
    cleanText longTokenKey = String.ofList (List.replicate 256 'a') := by
  unfold cleanText
  rw [longTokenKey_toList]
  exact congrArg String.ofList (take_map_replicate (by decide) 256 _)

theorem longTokenKey_escapes :
    isSensitiveDetailKey asciiTables (cleanText longTokenKey) = false := by
  have hmarkers : ∀ marker ∈ sensitiveDetailKeyMarkers,
      (marker.toList.any fun c => decide (c ≠ 'a')) = true := by decide
  rw [cleanText_longTokenKey, ← Bool.not_eq_true, isSensitiveDetailKey_iff, String.toList_ofList,
    normalized_replicate]
  rintro ⟨marker, hmarker, hpart⟩
  obtain ⟨c, hc, hne⟩ := List.any_eq_true.mp (hmarkers marker hmarker)
  exact of_decide_eq_true hne (List.eq_of_mem_replicate (hpart.subset hc))

theorem longTokenDetails_told : ¬ Redacts asciiTables longTokenDetails ∧
    ¬ Lossless asciiTables tabbedDetails := by
  refine ⟨not_redacts_of_escape ?_ (AList.mem_keys.mpr List.mem_cons_self) longTokenKey_sensitive
    longTokenKey_escapes, ?_⟩
  · rintro a ha b hb -
    exact (List.mem_singleton.mp ha).trans (List.mem_singleton.mp hb).symm
  · rw [lossless_iff]
    intro hinj
    have hsame : cleanText "a\tb" = cleanText "a b" := by decide
    exact absurd (hinj (by decide) (by decide) hsame) (by decide)

end SecurityEventLogger

end OpsFlow.Auth
