import Mathlib.Data.Rat.Defs
import Mathlib.Algebra.Group.Nat.Defs
import Mathlib.Algebra.Group.Int.Defs
import Mathlib.Data.List.Infix
import Mathlib.Data.List.DropRight

namespace OpsFlow

/-- A JSON document, as `json.loads` and DynamoDB hand it to the code. -/
inductive Json
  | null
  | bool (b : Bool)
  | number (q : ℚ)
  | string (s : String)
  | array (elements : List Json)
  | object (members : List (String × Json))

abbrev Uuid := BitVec 128

/-- A property of the characters of a list is decided on the list, not on all characters
there are. -/
instance decidableForallMemChar {p : Char → Prop} [DecidablePred p] (cs : List Char) :
    Decidable (∀ c ∈ cs, p c) :=
  List.decidableBAll p cs

instance decidableExistsMemChar? {p : Char → Prop} [DecidablePred p] (c? : Option Char) :
    Decidable (∃ c ∈ c?, p c) :=
  Option.decidableExistsMem c?

def hexDigit? (c : Char) : Option ℕ :=
  if '0' ≤ c ∧ c ≤ '9' then some (c.toNat - '0'.toNat)
  else if 'a' ≤ c ∧ c ≤ 'f' then some (c.toNat - 'a'.toNat + 10)
  else if 'A' ≤ c ∧ c ≤ 'F' then some (c.toNat - 'A'.toNat + 10)
  else none

/-- The value of a string of hexadecimal digits, most significant first. -/
def hexValue? (digits : List Char) : Option ℕ :=
  digits.foldlM (fun value c => (hexDigit? c).map fun digit => 16 * value + digit) 0

/-- Python's `s.replace(pattern, "")`; the first `skip` characters are those of a match. -/
def removeAll (pattern : List Char) : ℕ → List Char → List Char
  | _, [] => []
  | skip + 1, _ :: cs => removeAll pattern skip cs
  | 0, c :: cs =>
    if pattern.isPrefixOf (c :: cs) then removeAll pattern (pattern.length - 1) cs
    else c :: removeAll pattern 0 cs

/-- The zeros of Unicode; each is followed by the nine other digits of its script. -/
def zeroDigits : List ℕ :=
  [0x30, 0x660, 0x6f0, 0x7c0, 0x966, 0x9e6, 0xa66, 0xae6, 0xb66, 0xbe6, 0xc66, 0xce6, 0xd66,
    0xde6, 0xe50, 0xed0, 0xf20, 0x1040, 0x1090, 0x17e0, 0x1810, 0x1946, 0x19d0, 0x1a80, 0x1a90,
    0x1b50, 0x1bb0, 0x1c40, 0x1c50, 0xa620, 0xa8d0, 0xa900, 0xa9d0, 0xa9f0, 0xaa50, 0xabf0,
    0xff10, 0x104a0, 0x10d30, 0x11066, 0x110f0, 0x11136, 0x111d0, 0x112f0, 0x11450, 0x114d0,
    0x11650, 0x116c0, 0x11730, 0x118e0, 0x11950, 0x11c50, 0x11d50, 0x11da0, 0x11f50, 0x16a60,
    0x16ac0, 0x16b50, 0x1d7ce, 0x1d7d8, 0x1d7e2, 0x1d7ec, 0x1d7f6, 0x1e140, 0x1e2f0, 0x1e4f0,
    0x1e950, 0x1fbf0]

/-- The spaces of Unicode above ASCII. -/
def wideSpaces : List ℕ :=
  [0x85, 0xa0, 0x1680] ++ (List.range 11).map (0x2000 + ·) ++
    [0x2028, 0x2029, 0x202f, 0x205f, 0x3000]

/-- A character above ASCII as `int` takes it: as a space, as a digit or as no digit at all. -/
def asciiOf (c : Char) : Char :=
  if c.toNat < 127 then c
  else if c.toNat ∈ wideSpaces then ' '
  else match zeroDigits.find? fun z => z ≤ c.toNat ∧ c.toNat < z + 10 with
    | some z => Char.ofNat ('0'.toNat + (c.toNat - z))
    | none => '?'

def asciiSpace (c : Char) : Bool := c ∈ [' ', '\t', '\n', '\x0b', '\x0c', '\r']

def signed : List Char → Bool × List Char
  | '+' :: cs => (false, cs)
  | '-' :: cs => (true, cs)
  | cs => (false, cs)

/-- What follows the prefix of a hexadecimal number, if there is one. -/
def afterHexPrefix : List Char → List Char
  | '0' :: x :: cs =>
    if x = 'x' ∨ x = 'X' then (match cs with | '_' :: cs' => cs' | _ => cs) else '0' :: x :: cs
  | cs => cs

/-- The digits of a number that has single underscores between some of them. -/
def withoutUnderscores (cs : List Char) : Option (List Char) :=
  if cs.head? ∈ [none, some '_'] ∨ cs.getLast? = some '_' ∨ ['_', '_'] <:+: cs then none
  else some (cs.filter (· ≠ '_'))

/-- Python's `int(text, 16)`. -/
def int16? (text : List Char) : Option ℤ :=
  let (negative, body) := signed (((text.map asciiOf).dropWhile asciiSpace).rdropWhile asciiSpace)
  ((withoutUnderscores (afterHexPrefix body)).bind hexValue?).map fun (value : ℕ) =>
    if negative then -(value : ℤ) else (value : ℤ)

/-- Python's `UUID(hex)`: what `int` reads from 32 characters, with curly braces, hyphens and a URN
prefix optional. -/
def Uuid.parse? (hex : String) : Option Uuid :=
  let bare := removeAll "uuid:".toList 0 (removeAll "urn:".toList 0 hex.toList)
  let stripped := (bare.dropWhile (· ∈ ['{', '}'])).rdropWhile (· ∈ ['{', '}'])
  let digits := stripped.filter (· ≠ '-')
  if digits.length = 32 then
    match int16? digits with
    | some value => if 0 ≤ value ∧ value < 2 ^ 128 then some (BitVec.ofInt 128 value) else none
    | none => none
  else none

def hexDigits (value : ℕ) : ℕ → List Char
  | 0 => []
  | width + 1 => hexDigits (value / 16) width ++ [(value % 16).digitChar]

/-- Python's `str(uuid)`: the digits in groups of 8, 4, 4, 4 and 12. -/
def Uuid.str (u : Uuid) : String :=
  let digits := hexDigits u.toNat 32
  let group (start length : ℕ) := String.ofList ((digits.drop start).take length)
  "-".intercalate [group 0 8, group 8 4, group 12 4, group 16 4, group 20 12]

/-! ## The text of an identifier is read back -/

theorem hexDigit?_digitChar : ∀ d < 16, hexDigit? d.digitChar = some d := by decide

theorem length_hexDigits (value width : ℕ) : (hexDigits value width).length = width := by
  induction width generalizing value with
  | zero => rfl
  | succ width ih => simp [hexDigits, ih]

theorem mem_hexDigits {value width : ℕ} {c : Char} (h : c ∈ hexDigits value width) :
    ∃ d < 16, c = d.digitChar := by
  induction width generalizing value with
  | zero => simp [hexDigits] at h
  | succ width ih =>
    obtain h | h := List.mem_append.mp h
    · exact ih h
    · exact ⟨value % 16, Nat.mod_lt _ (by omega), List.mem_singleton.mp h⟩

/-- The digits are read back as the part of the value that they have room for. -/
theorem hexValue?_hexDigits (value width : ℕ) :
    hexValue? (hexDigits value width) = some (value % 16 ^ width) := by
  induction width generalizing value with
  | zero => simp [hexDigits, hexValue?, Nat.mod_one]
  | succ width ih =>
    have hlast := hexDigit?_digitChar (value % 16) (Nat.mod_lt _ (by omega))
    have hsplit : 16 * (value / 16 % 16 ^ width) + value % 16 = value % 16 ^ (width + 1) := by
      rw [Nat.pow_succ', Nat.mod_mul]
      omega
    unfold hexValue? at ih ⊢
    rw [hexDigits, List.foldlM_append, ih]
    simp [hlast, hsplit]

theorem removeAll_of_notMem {c : Char} {pattern cs : List Char} (h : c ∉ cs) :
    removeAll (c :: pattern) 0 cs = cs := by
  induction cs with
  | nil => rfl
  | cons c' cs ih =>
    have hne : c ≠ c' := fun heq => h (by simp [heq])
    have htail := ih fun hmem => h (List.mem_cons_of_mem _ hmem)
    simp [removeAll, List.isPrefixOf, hne, htail]

theorem dropWhile_of_none {p : Char → Bool} {cs : List Char} (h : ∀ c ∈ cs, p c = false) :
    cs.dropWhile p = cs := by
  cases cs with
  | nil => rfl
  | cons c cs => simp [List.dropWhile, h c List.mem_cons_self]

theorem rdropWhile_of_none {p : Char → Bool} {cs : List Char} (h : ∀ c ∈ cs, p c = false) :
    cs.rdropWhile p = cs := by
  unfold List.rdropWhile
  rw [dropWhile_of_none fun c hc => h c (List.mem_reverse.mp hc), List.reverse_reverse]

def hexChars : List Char := "0123456789abcdefABCDEF".toList

theorem mem_hexChars {c : Char} {d : ℕ} (h : hexDigit? c = some d) : d < 16 ∧ c ∈ hexChars := by
  have hcode : ∀ n < 128, (hexDigit? (Char.ofNat n)).all (· < 16) = true ∧
      ((hexDigit? (Char.ofNat n)).isSome → Char.ofNat n ∈ hexChars) := by decide
  have hsmall : c.toNat < 128 := by
    by_contra hlarge
    have hle {c' : Char} (hc' : c'.toNat < 128) : ¬ c ≤ c' := by
      intro hle
      have hnat : c.toNat ≤ c'.toNat := hle
      omega
    unfold hexDigit? at h
    rw [if_neg fun hc => hle (by decide) hc.2, if_neg fun hc => hle (by decide) hc.2,
      if_neg fun hc => hle (by decide) hc.2] at h
    contradiction
  have hboth := hcode c.toNat hsmall
  rw [Char.ofNat_toNat, h] at hboth
  exact ⟨of_decide_eq_true hboth.1, hboth.2 rfl⟩

theorem exists_hexDigit? {c : Char} (h : c ∈ hexChars) : ∃ d < 16, hexDigit? c = some d := by
  have hall : ∀ c ∈ hexChars, (hexDigit? c).isSome := by decide
  obtain ⟨d, hd⟩ := Option.isSome_iff_exists.mp (hall c h)
  exact ⟨d, (mem_hexChars hd).1, hd⟩

theorem digitChar_mem_hexChars : ∀ d < 16, d.digitChar ∈ hexChars := by decide

/-- Hexadecimal digits have a value, and it fits into as many digits. -/
theorem exists_hexValue? {cs : List Char} (h : ∀ c ∈ cs, c ∈ hexChars) :
    ∃ value < 16 ^ cs.length, hexValue? cs = some value := by
  induction cs using List.reverseRecOn with
  | nil => exact ⟨0, by simp, rfl⟩
  | append_singleton cs c ih =>
    obtain ⟨value, hlt, hvalue⟩ := ih fun d hd => h d (List.mem_append_left _ hd)
    obtain ⟨digit, hdigit, hc⟩ := exists_hexDigit? (h c (by simp))
    refine ⟨16 * value + digit, ?_, ?_⟩
    · rw [List.length_append, List.length_singleton, Nat.pow_succ]
      omega
    · unfold hexValue? at hvalue ⊢
      rw [List.foldlM_append, hvalue]
      simp [hc]

/-- Plain digits are read as they are. -/
theorem int16?_of_hexChars {cs : List Char} (hne : cs ≠ []) (h : ∀ c ∈ cs, c ∈ hexChars) :
    int16? cs = (hexValue? cs).map Int.ofNat := by
  have hdigit {p : Char → Prop} [DecidablePred p] (hp : ∀ c ∈ hexChars, p c) : ∀ c ∈ cs, p c :=
    fun c hc => hp c (h c hc)
  have hmap : cs.map asciiOf = cs :=
    (List.map_congr_left (hdigit (p := fun c => asciiOf c = c) (by decide))).trans (List.map_id cs)
  have hspace : ∀ c ∈ cs, asciiSpace c = false := hdigit (by decide)
  have hplain : ∀ c ∈ cs, c ≠ '+' ∧ c ≠ '-' ∧ c ≠ '_' ∧ c ≠ 'x' ∧ c ≠ 'X' := hdigit (by decide)
  have hsigned : signed cs = (false, cs) := by
    unfold signed
    split
    · exact absurd rfl (hplain '+' List.mem_cons_self).1
    · exact absurd rfl (hplain '-' List.mem_cons_self).2.1
    · rfl
  -- no digit is the `x` of a prefix
  have hprefix : afterHexPrefix cs = cs := by
    unfold afterHexPrefix
    split
    · rename_i x rest
      have hx := hplain x (List.mem_cons_of_mem _ List.mem_cons_self)
      rw [if_neg (by simp [hx])]
    · rfl
  have hunderscore : '_' ∉ cs := fun hmem => (hplain '_' hmem).2.2.1 rfl
  have hgroups : withoutUnderscores cs = some cs := by
    unfold withoutUnderscores
    have hhead : cs.head? ∉ [none, some '_'] := by
      cases cs with
      | nil => exact absurd rfl hne
      | cons c cs => simp [(hplain c List.mem_cons_self).2.2.1]
    have hlast : cs.getLast? ≠ some '_' := fun hl => hunderscore (List.mem_of_getLast? hl)
    have hdouble : ¬ ['_', '_'] <:+: cs := fun hd => hunderscore (hd.subset List.mem_cons_self)
    rw [if_neg (by simp only [hhead, hlast, hdouble, or_self, not_false_eq_true])]
    exact congrArg some (List.filter_eq_self.mpr fun c hc => by simp [(hplain c hc).2.2.1])
  unfold int16?
  simp only [hmap, dropWhile_of_none hspace, rdropWhile_of_none hspace, hsigned, hprefix, hgroups]
  rfl

/-- Hexadecimal digits, with hyphens anywhere between them, are read. -/
theorem parse?_of_hexChars {s : String} (hchars : ∀ c ∈ s.toList, c = '-' ∨ c ∈ hexChars)
    (hlength : (s.toList.filter (· ≠ '-')).length = 32) :
    Uuid.parse? s = (hexValue? (s.toList.filter (· ≠ '-'))).map (BitVec.ofNat 128) := by
  have habsent {c : Char} (hc : c ≠ '-' ∧ c ∉ hexChars) : c ∉ s.toList := by
    intro hmem
    obtain rfl | hmem := hchars c hmem
    · exact hc.1 rfl
    · exact hc.2 hmem
  -- nothing of what Python removes before it counts the digits is there
  have hurn : removeAll "urn:".toList 0 s.toList = s.toList :=
    removeAll_of_notMem (habsent (by decide))
  have huuid : removeAll "uuid:".toList 0 s.toList = s.toList :=
    removeAll_of_notMem (habsent (by decide))
  have hbraces : ∀ c ∈ s.toList, decide (c ∈ ['{', '}']) = false := by
    intro c hc
    refine decide_eq_false fun hbrace => ?_
    obtain rfl | rfl : c = '{' ∨ c = '}' := by simpa using hbrace
    · exact habsent (by decide) hc
    · exact habsent (by decide) hc
  have hdigits : ∀ c ∈ s.toList.filter (· ≠ '-'), c ∈ hexChars := by
    intro c hc
    obtain ⟨hmem, hne⟩ := List.mem_filter.mp hc
    exact (hchars c hmem).resolve_left (by simpa using hne)
  obtain ⟨value, hlt, hvalue⟩ := exists_hexValue? hdigits
  rw [hlength] at hlt
  have hint : int16? (s.toList.filter (· ≠ '-')) = some (value : ℤ) := by
    rw [int16?_of_hexChars (List.ne_nil_of_length_pos (by omega)) hdigits, hvalue]
    rfl
  have hrange : (0 : ℤ) ≤ (value : ℤ) ∧ (value : ℤ) < 2 ^ 128 := by omega
  unfold Uuid.parse?
  simp only [hurn, huuid, dropWhile_of_none hbraces, rdropWhile_of_none hbraces, hlength, if_true,
    hint, if_pos hrange, hvalue]
  rfl

/-- The text is the digits, with hyphens between the groups. -/
theorem toList_str (u : Uuid) :
    let digits := hexDigits u.toNat 32
    u.str.toList = digits.take 8 ++ '-' :: ((digits.drop 8).take 4 ++ '-' ::
      ((digits.drop 12).take 4 ++ '-' :: ((digits.drop 16).take 4 ++ '-' ::
        (digits.drop 20).take 12))) := by
  simp [Uuid.str, String.intercalate_cons_cons, String.intercalate_singleton]

theorem length_str (u : Uuid) : u.str.length = 36 := by
  rw [← String.length_toList]
  simp [toList_str, length_hexDigits]

theorem filter_str (u : Uuid) : u.str.toList.filter (· ≠ '-') = hexDigits u.toNat 32 := by
  have hdigit {cs : List Char} (hcs : ∀ c ∈ cs, c ∈ hexDigits u.toNat 32) :
      cs.filter (· ≠ '-') = cs := by
    refine List.filter_eq_self.mpr fun c hc => ?_
    obtain ⟨d, hd, rfl⟩ := mem_hexDigits (hcs c hc)
    have hall : ∀ d < 16, decide (d.digitChar ≠ '-') = true := by decide
    exact hall d hd
  have hgroup (start length : ℕ) : (((hexDigits u.toNat 32).drop start).take length).filter
      (· ≠ '-') = ((hexDigits u.toNat 32).drop start).take length :=
    hdigit fun c hc => List.mem_of_mem_drop (List.mem_of_mem_take hc)
  have hlength := length_hexDigits u.toNat 32
  rw [toList_str]
  generalize hexDigits u.toNat 32 = digits at hgroup hlength
  have hfirst : (digits.take 8).filter (· ≠ '-') = digits.take 8 := by
    simpa using hgroup 0 8
  have hjoin (start length : ℕ) :
      (digits.drop start).take length ++ digits.drop (start + length) = digits.drop start := by
    rw [← List.drop_drop, List.take_append_drop]
  have hlast : (digits.drop 20).take 12 = digits.drop 20 := by
    refine List.take_of_length_le ?_
    rw [List.length_drop, hlength]
  simp only [List.filter_append, List.filter_cons, hfirst, hgroup, ne_eq, not_true_eq_false,
    decide_false, if_false, Bool.false_eq_true]
  rw [hlast, hjoin 16 4, hjoin 12 4, hjoin 8 4, List.take_append_drop]

theorem mem_str {u : Uuid} {c : Char} (h : c ∈ u.str.toList) : c = '-' ∨ c ∈ hexChars := by
  by_cases hc : c = '-'
  · exact .inl hc
  · have hmem : c ∈ hexDigits u.toNat 32 := by
      rw [← filter_str]
      exact List.mem_filter.mpr ⟨h, by simpa using hc⟩
    obtain ⟨d, hd, rfl⟩ := mem_hexDigits hmem
    exact .inr (digitChar_mem_hexChars d hd)

/-- The text of an identifier is read back. -/
theorem parse?_str (u : Uuid) : Uuid.parse? u.str = some u := by
  have hlt : u.toNat % 16 ^ 32 = u.toNat := Nat.mod_eq_of_lt u.isLt
  rw [parse?_of_hexChars (fun c hc => mem_str hc) (by rw [filter_str, length_hexDigits]),
    filter_str, hexValue?_hexDigits, hlt]
  simp

theorem str_injective {u u' : Uuid} (h : u.str = u'.str) : u = u' := by
  have hparse := parse?_str u
  rw [h, parse?_str] at hparse
  exact (Option.some.inj hparse).symm

/-! ## Results of several calls -/

/-- What was written element by element is read back. -/
theorem mapM_eq_self {α β : Type} {f : α → Option β} {g : β → α} {bs : List β}
    (h : ∀ b ∈ bs, f (g b) = some b) : (bs.map g).mapM f = some bs := by
  induction bs with
  | nil => rfl
  | cons b bs ih =>
    have hhead := h b List.mem_cons_self
    have htail := ih fun b' hb' => h b' (List.mem_cons_of_mem _ hb')
    simp [List.mapM_cons, hhead, htail]

theorem bind_eq_ok {ε α β : Type} {x : Except ε α} {f : α → Except ε β} {b : β} :
    (x >>= f) = .ok b ↔ ∃ a, x = .ok a ∧ f a = .ok b := by
  cases x with
  | error e => simp [bind, Except.bind]
  | ok a => simp [bind, Except.bind]

theorem bind_eq_error {ε α β : Type} {x : Except ε α} {f : α → Except ε β} {e : ε} :
    (x >>= f) = .error e ↔ x = .error e ∨ ∃ a, x = .ok a ∧ f a = .error e := by
  cases x with
  | error e' => simp [bind, Except.bind]
  | ok a => simp [bind, Except.bind]

theorem map_eq_ok {ε α β : Type} {x : Except ε α} {f : α → β} {b : β} :
    x.map f = .ok b ↔ ∃ a, x = .ok a ∧ f a = b := by
  cases x with
  | error e => simp [Except.map]
  | ok a => simp [Except.map]

/-- A result that is refused under a condition. -/
theorem ite_error_eq_ok {ε α : Type} {c : Prop} [Decidable c] {x : Except ε α} {e : ε} {b : α} :
    (if c then .error e else x) = .ok b ↔ ¬c ∧ x = .ok b := by
  by_cases hc : c
  · simp [hc]
  · simp [hc]

/-- A result that is checked before it is handed on. -/
theorem checked_eq_ok {ε α : Type} {x : Except ε α} {p : α → Prop} [DecidablePred p] {e : ε}
    {b : α} : (x >>= fun a => if p a then .ok a else .error e) = .ok b ↔ x = .ok b ∧ p b := by
  rw [bind_eq_ok]
  constructor
  · rintro ⟨a, hx, hcheck⟩
    split at hcheck
    · rename_i hp
      obtain rfl := Except.ok.inj hcheck
      exact ⟨hx, hp⟩
    · contradiction
  · rintro ⟨hx, hp⟩
    exact ⟨b, hx, if_pos hp⟩

/-! ## Instants -/

/-- An instant, in microseconds since 1970-01-01T00:00:00 UTC. -/
abbrev Timestamp := ℤ

/-- Year, month and day of the proleptic Gregorian calendar, from days since 1970-01-01. -/
def civilFromDays (days : ℤ) : ℤ × ℤ × ℤ :=
  let z := days + 719468
  let era := z / 146097
  let doe := z % 146097
  let yoe := (doe - doe / 1460 + doe / 36524 - doe / 146096) / 365
  let doy := doe - (365 * yoe + yoe / 4 - yoe / 100)
  let mp := (5 * doy + 2) / 153
  let month := if mp < 10 then mp + 3 else mp - 9
  (yoe + era * 400 + (if month ≤ 2 then 1 else 0), month, doy - (153 * mp + 2) / 5 + 1)

def padded (width : ℕ) (n : ℤ) : String :=
  let digits := (Nat.toDigits 10 n.toNat)
  String.ofList (List.replicate (width - digits.length) '0' ++ digits)

/-- Python's `isoformat()` of a datetime in UTC. -/
def Timestamp.isoformat (t : Timestamp) : String :=
  let date := civilFromDays (t / 86400000000)
  let micros := t % 86400000000
  let seconds := micros / 1000000
  let fraction := if micros % 1000000 = 0 then "" else "." ++ padded 6 (micros % 1000000)
  padded 4 date.1 ++ "-" ++ padded 2 date.2.1 ++ "-" ++ padded 2 date.2.2 ++ "T" ++
    padded 2 (seconds / 3600) ++ ":" ++ padded 2 (seconds / 60 % 60) ++ ":" ++
    padded 2 (seconds % 60) ++ fraction ++ "+00:00"

end OpsFlow
