import OpsFlow.Contracts.Formats

namespace OpsFlow.Contracts

/-! ## Shapes -/

variable {p version variant : Char → Bool} {ps qs : List (Char → Bool)} {cs : List Char}
  {s : String}

theorem fits_cons : fits (p :: ps) cs = true ↔
    ∃ c rest, cs = c :: rest ∧ p c = true ∧ fits ps rest = true := by
  cases cs with
  | nil => simp [fits]
  | cons c rest => simp [fits]

theorem fits_append : fits (ps ++ qs) cs = true ↔
    ∃ as bs, cs = as ++ bs ∧ fits ps as = true ∧ fits qs bs = true := by
  induction ps generalizing cs with
  | nil =>
    constructor
    · exact fun h => ⟨[], cs, rfl, rfl, h⟩
    · rintro ⟨as, bs, rfl, has, hbs⟩
      cases as with
      | nil => exact hbs
      | cons a as => simp [fits] at has
  | cons p ps ih =>
    rw [List.cons_append, fits_cons]
    constructor
    · rintro ⟨c, rest, rfl, hc, hrest⟩
      obtain ⟨as, bs, rfl, has, hbs⟩ := ih.mp hrest
      exact ⟨c :: as, bs, rfl, by simp [fits, hc, has], hbs⟩
    · rintro ⟨as, bs, rfl, has, hbs⟩
      obtain ⟨c, rest, rfl, hc, hrest⟩ := fits_cons.mp has
      exact ⟨c, rest ++ bs, rfl, hc, ih.mpr ⟨rest, bs, rfl, hrest, hbs⟩⟩

theorem fits_replicate {n : ℕ} : fits (List.replicate n p) cs = true ↔
    cs.length = n ∧ ∀ c ∈ cs, p c = true := by
  induction n generalizing cs with
  | zero =>
    cases cs with
    | nil => simp [fits]
    | cons c cs => simp [fits]
  | succ n ih =>
    rw [List.replicate_succ, fits_cons]
    constructor
    · rintro ⟨c, rest, rfl, hc, hrest⟩
      obtain ⟨hlength, hall⟩ := ih.mp hrest
      exact ⟨congrArg (· + 1) hlength, List.forall_mem_cons.mpr ⟨hc, hall⟩⟩
    · rintro ⟨hlength, hall⟩
      cases cs with
      | nil => contradiction
      | cons c rest =>
        obtain ⟨hc, hrest⟩ := List.forall_mem_cons.mp hall
        exact ⟨c, rest, rfl, hc, ih.mpr ⟨Nat.succ.inj hlength, hrest⟩⟩

theorem fits_getElem? {i : ℕ} (h : fits ps cs = true) (hp : ps[i]? = some p) :
    ∃ c, cs[i]? = some c ∧ p c = true := by
  induction ps generalizing cs i with
  | nil => simp at hp
  | cons q ps ih =>
    obtain ⟨c, rest, rfl, hc, hrest⟩ := fits_cons.mp h
    cases i with
    | zero =>
      obtain rfl := Option.some.inj hp
      exact ⟨c, rfl, hc⟩
    | succ i =>
      obtain ⟨c', hc', hp'⟩ := ih hrest (i := i) hp
      exact ⟨c', hc', hp'⟩

theorem hex_iff {c : Char} : hex c = true ↔ c ∈ hexChars := by
  constructor
  · intro h
    obtain ⟨d, hd⟩ := Option.isSome_iff_exists.mp h
    exact (mem_hexChars hd).2
  · intro h
    obtain ⟨d, -, hd⟩ := exists_hexDigit? h
    exact Option.isSome_iff_exists.mpr ⟨d, hd⟩

def HexGroup (n : ℕ) (cs : List Char) : Prop := cs.length = n ∧ ∀ c ∈ cs, c ∈ hexChars

theorem fits_hexGroup {n : ℕ} : fits (List.replicate n hex) cs = true ↔ HexGroup n cs := by
  rw [fits_replicate]
  unfold HexGroup
  simp only [hex_iff]

/-- What fits the shape of a UUID, spelt out. -/
structure UuidText (version variant : Char → Bool) (cs : List Char) : Prop where
  groups : ∃ a b v c w d e, cs = a ++ '-' :: (b ++ '-' :: v :: (c ++ '-' :: w :: (d ++ '-' :: e))) ∧
    HexGroup 8 a ∧ HexGroup 4 b ∧ version v = true ∧ HexGroup 3 c ∧ variant w = true ∧
    HexGroup 3 d ∧ HexGroup 12 e

theorem fits_dash {cs : List Char} : fits (is '-' :: ps) cs = true ↔
    ∃ rest, cs = '-' :: rest ∧ fits ps rest = true := by
  rw [fits_cons]
  constructor
  · rintro ⟨c, rest, rfl, hc, hrest⟩
    obtain rfl := of_decide_eq_true hc
    exact ⟨rest, rfl, hrest⟩
  · rintro ⟨rest, rfl, hrest⟩
    exact ⟨'-', rest, rfl, rfl, hrest⟩

theorem fits_uuidShape : fits (uuidShape version variant) cs = true ↔
    UuidText version variant cs := by
  unfold uuidShape
  constructor
  · intro h
    obtain ⟨a, t₁, rfl, ha, h₁⟩ := fits_append.mp h
    obtain ⟨t₂, rfl, h₂⟩ := fits_dash.mp h₁
    obtain ⟨b, t₃, rfl, hb, h₃⟩ := fits_append.mp h₂
    obtain ⟨t₄, rfl, h₄⟩ := fits_dash.mp h₃
    obtain ⟨v, t₅, rfl, hv, h₅⟩ := fits_cons.mp h₄
    obtain ⟨c, t₆, rfl, hc, h₆⟩ := fits_append.mp h₅
    obtain ⟨t₇, rfl, h₇⟩ := fits_dash.mp h₆
    obtain ⟨w, t₈, rfl, hw, h₈⟩ := fits_cons.mp h₇
    obtain ⟨d, t₉, rfl, hd, h₉⟩ := fits_append.mp h₈
    obtain ⟨e, rfl, he⟩ := fits_dash.mp h₉
    exact ⟨a, b, v, c, w, d, e, rfl, fits_hexGroup.mp ha, fits_hexGroup.mp hb, hv,
      fits_hexGroup.mp hc, hw, fits_hexGroup.mp hd, fits_hexGroup.mp he⟩
  · rintro ⟨a, b, v, c, w, d, e, rfl, ha, hb, hv, hc, hw, hd, he⟩
    refine fits_append.mpr ⟨a, _, rfl, fits_hexGroup.mpr ha, fits_dash.mpr ⟨_, rfl, ?_⟩⟩
    refine fits_append.mpr ⟨b, _, rfl, fits_hexGroup.mpr hb, fits_dash.mpr ⟨_, rfl, ?_⟩⟩
    refine fits_cons.mpr ⟨v, _, rfl, hv, ?_⟩
    refine fits_append.mpr ⟨c, _, rfl, fits_hexGroup.mpr hc, fits_dash.mpr ⟨_, rfl, ?_⟩⟩
    refine fits_cons.mpr ⟨w, _, rfl, hw, ?_⟩
    exact fits_append.mpr ⟨d, _, rfl, fits_hexGroup.mpr hd, fits_dash.mpr ⟨e, rfl,
      fits_hexGroup.mpr he⟩⟩

/-! ## The three readings of `format: uuid` -/

theorem HexGroup.filter {n : ℕ} (h : HexGroup n cs) : cs.filter (· ≠ '-') = cs := by
  have hall : ∀ c ∈ hexChars, decide (c ≠ '-') = true := by decide
  exact List.filter_eq_self.mpr fun c hc => hall c (h.2 c hc)

theorem hex_ne_dash : ∀ c ∈ hexChars, c ≠ '-' := by decide

/-- Python reads every UUID in the form that all agree on. -/
theorem jsonschemaFormat_of_rfcFormat (h : rfcFormat .uuid s = true) :
    jsonschemaFormat .uuid s = true := by
  obtain ⟨a, b, v, c, w, d, e, hs, ha, hb, hv, hc, hw, hd, he⟩ := fits_uuidShape.mp h
  have hchars : ∀ x ∈ s.toList, x = '-' ∨ x ∈ hexChars := by
    rw [hs]
    intro x hx
    simp only [List.mem_append, List.mem_cons] at hx
    obtain hx | rfl | hx | rfl | rfl | hx | rfl | rfl | hx | rfl | hx := hx
    · exact .inr (ha.2 x hx)
    · exact .inl rfl
    · exact .inr (hb.2 x hx)
    · exact .inl rfl
    · exact .inr (hex_iff.mp hv)
    · exact .inr (hc.2 x hx)
    · exact .inl rfl
    · exact .inr (hex_iff.mp hw)
    · exact .inr (hd.2 x hx)
    · exact .inl rfl
    · exact .inr (he.2 x hx)
  have hlength : (s.toList.filter (· ≠ '-')).length = 32 := by
    have hvdash := hex_ne_dash v (hex_iff.mp hv)
    have hwdash := hex_ne_dash w (hex_iff.mp hw)
    rw [hs]
    simp only [List.filter_append, List.filter_cons, ha.filter, hb.filter, hc.filter, hd.filter,
      he.filter, hvdash, hwdash, ne_eq, not_true_eq_false, not_false_eq_true, decide_true,
      decide_false, Bool.false_eq_true, if_true, if_false, List.length_append, List.length_cons,
      ha.1, hb.1, hc.1, hd.1, he.1]
  -- without its hyphens the text is 32 digits, and the hyphens stand where they should
  obtain ⟨value, -, hvalue⟩ := exists_hexValue? fun x (hx : x ∈ s.toList.filter (· ≠ '-')) =>
    (hchars x (List.mem_of_mem_filter hx)).resolve_left
      (of_decide_eq_true (List.mem_filter.mp hx).2)
  have hdashes : [8, 13, 18, 23].all (fun position => s.toList[position]? = some '-') = true := by
    rw [hs]
    simp [List.getElem?_append, List.getElem?_cons, ha.1, hb.1, hc.1, hd.1]
  rw [jsonschemaFormat, parse?_of_hexChars hchars hlength, hvalue, hdashes]
  rfl

/-- The prefix that ajv-formats allows has another character where Python asks for a hyphen. -/
theorem jsonschemaFormat_of_urn
    (h : fits ("urn:uuid:".toList.map anyCase ++ uuidShape hex hex) s.toList = true) :
    jsonschemaFormat .uuid s = false := by
  obtain ⟨c, hc, hcolon⟩ := fits_getElem? (p := anyCase ':') (i := 8) h rfl
  have hcase : Char.toUpper ':' = ':' := by decide
  obtain rfl : c = ':' := by simpa [anyCase, hcase] using hcolon
  rw [jsonschemaFormat]
  simp [hc]

/-! ## The text of a UUID -/

def Uuid.digitAt (u : Uuid) (position : ℕ) : ℕ := u.toNat / 16 ^ (31 - position) % 16

theorem getElem?_hexDigits (value : ℕ) {width i : ℕ} (h : i < width) :
    (hexDigits value width)[i]? = some (value / 16 ^ (width - 1 - i) % 16).digitChar := by
  induction width generalizing value with
  | zero => contradiction
  | succ width ih =>
    have hlength := length_hexDigits (value / 16) width
    by_cases hi : i < width
    · have hexponent : width + 1 - 1 - i = (width - 1 - i) + 1 := by omega
      rw [hexDigits, List.getElem?_append_left (by omega), ih (value / 16) hi, hexponent,
        Nat.pow_succ', Nat.div_div_eq_div_mul]
    · obtain rfl : i = width := by omega
      rw [hexDigits, List.getElem?_append_right (by omega), hlength]
      simp

/-- Thirty-two digits in their groups. -/
theorem fits_grouped {digits : List Char} {v w : Char} (hlength : digits.length = 32)
    (hhex : ∀ c ∈ digits, c ∈ hexChars) (hv : digits[12]? = some v) (hw : digits[16]? = some w)
    (hversion : version v = true) (hvariant : variant w = true) :
    fits (uuidShape version variant) (digits.take 8 ++ '-' :: ((digits.drop 8).take 4 ++ '-' ::
      ((digits.drop 12).take 4 ++ '-' :: ((digits.drop 16).take 4 ++ '-' ::
        (digits.drop 20).take 12)))) = true := by
  have hgroup (start length : ℕ) (h : start + length ≤ 32) :
      HexGroup length ((digits.drop start).take length) := by
    refine ⟨?_, fun c hc => hhex c (List.mem_of_mem_drop (List.mem_of_mem_take hc))⟩
    rw [List.length_take, List.length_drop, hlength]
    omega
  have hsplit {i : ℕ} {c : Char} (hc : digits[i]? = some c) :
      (digits.drop i).take 4 = c :: (digits.drop (i + 1)).take 3 := by
    obtain ⟨hlt, heq⟩ := List.getElem?_eq_some_iff.mp hc
    rw [List.drop_eq_getElem_cons hlt, heq]
    rfl
  have hfirst := hgroup 0 8 (by omega)
  rw [List.drop_zero] at hfirst
  rw [hsplit hv, hsplit hw]
  exact fits_uuidShape.mpr ⟨_, _, v, _, w, _, _, rfl, hfirst, hgroup 8 4 (by omega), hversion,
    hgroup 13 3 (by omega), hvariant, hgroup 17 3 (by omega), hgroup 20 12 (by omega)⟩

theorem fits_str (u : Uuid) (hversion : version (Uuid.digitAt u 12).digitChar = true)
    (hvariant : variant (Uuid.digitAt u 16).digitChar = true) :
    fits (uuidShape version variant) u.str.toList = true := by
  have hhex : ∀ c ∈ hexDigits u.toNat 32, c ∈ hexChars := by
    intro c hc
    obtain ⟨d, hd, rfl⟩ := mem_hexDigits hc
    exact digitChar_mem_hexChars d hd
  rw [toList_str]
  exact fits_grouped (length_hexDigits u.toNat 32) hhex (getElem?_hexDigits u.toNat (by omega))
    (getElem?_hexDigits u.toNat (by omega)) hversion hvariant

theorem rfcFormat_str (u : Uuid) : rfcFormat .uuid u.str = true := by
  have hdigit (i : ℕ) : hex (Uuid.digitAt u i).digitChar = true :=
    hex_iff.mpr (digitChar_mem_hexChars _ (Nat.mod_lt _ (by omega)))
  change fits (uuidShape hex hex) u.str.toList = true
  exact fits_str u (hdigit 12) (hdigit 16)

end OpsFlow.Contracts
