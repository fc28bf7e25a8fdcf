import OpsFlow.Values
import OpsFlow.Library.Utf16
import Mathlib.Data.List.Sort

namespace OpsFlow

/-! ## Python's `json.dumps` -/

def escape (c : Char) : List Char :=
  if c = '"' then ['\\', '"']
  else if c = '\\' then ['\\', '\\']
  else if c = '\n' then ['\\', 'n']
  else if c = '\r' then ['\\', 'r']
  else if c = '\t' then ['\\', 't']
  else if c = '\x0c' then ['\\', 'f']
  else if c = '\x08' then ['\\', 'b']
  else if 0x20 ≤ c.toNat ∧ c.toNat ≤ 0x7e then [c]
  else (Utf16.encode c).flatMap fun unit => '\\' :: 'u' :: hexDigits unit 4

def dumpsString (s : String) : List Char := '"' :: (s.toList.flatMap escape ++ ['"'])

mutual

/-- With `separators=(",", ":")` and `sort_keys=True`; `number` is how a number is written. -/
def dumps (number : ℚ → List Char) : Json → List Char
  | .null => ['n', 'u', 'l', 'l']
  | .bool true => ['t', 'r', 'u', 'e']
  | .bool false => ['f', 'a', 'l', 's', 'e']
  | .number q => number q
  | .string s => dumpsString s
  | .array elements => '[' :: ([','].intercalate (dumpsElements number elements) ++ [']'])
  | .object members => '{' :: ([','].intercalate (((dumpsMembers number members).insertionSort
      fun m m' => m.1 ≤ m'.1).map Prod.snd) ++ ['}'])

def dumpsElements (number : ℚ → List Char) : List Json → List (List Char)
  | [] => []
  | element :: elements => dumps number element :: dumpsElements number elements

def dumpsMembers (number : ℚ → List Char) : List (String × Json) → List (String × List Char)
  | [] => []
  | (key, value) :: members =>
    (key, dumpsString key ++ ':' :: dumps number value) :: dumpsMembers number members

end

/-! ## ECMAScript's `JSON.stringify` -/

def stringifyChar (c : Char) : List Char :=
  if c = '"' then ['\\', '"']
  else if c = '\\' then ['\\', '\\']
  else if c = '\x08' then ['\\', 'b']
  else if c = '\x0c' then ['\\', 'f']
  else if c = '\n' then ['\\', 'n']
  else if c = '\r' then ['\\', 'r']
  else if c = '\t' then ['\\', 't']
  else if c.toNat < 0x20 then '\\' :: 'u' :: hexDigits c.toNat 4
  else [c]

def stringifyString (s : String) : List Char := '"' :: (s.toList.flatMap stringifyChar ++ ['"'])

mutual

/-- The members of an object stand in their order. -/
def stringify (number : ℚ → List Char) : Json → List Char
  | .null => ['n', 'u', 'l', 'l']
  | .bool true => ['t', 'r', 'u', 'e']
  | .bool false => ['f', 'a', 'l', 's', 'e']
  | .number q => number q
  | .string s => stringifyString s
  | .array elements => '[' :: ([','].intercalate (stringifyElements number elements) ++ [']'])
  | .object members => '{' :: ([','].intercalate (stringifyMembers number members) ++ ['}'])

def stringifyElements (number : ℚ → List Char) : List Json → List (List Char)
  | [] => []
  | element :: elements => stringify number element :: stringifyElements number elements

def stringifyMembers (number : ℚ → List Char) : List (String × Json) → List (List Char)
  | [] => []
  | (key, value) :: members =>
    (stringifyString key ++ ':' :: stringify number value) :: stringifyMembers number members

end

/-! ## ECMAScript's `JSON.parse` -/

def jsonSpace (c : Char) : Bool := c ∈ [' ', '\t', '\n', '\r']

def unescape? (c : Char) : Option ℕ :=
  match c with
  | '"' => some 0x22
  | '\\' => some 0x5c
  | '/' => some 0x2f
  | 'b' => some 0x08
  | 'f' => some 0x0c
  | 'n' => some 0x0a
  | 'r' => some 0x0d
  | 't' => some 0x09
  | _ => none

/-- The code units up to the closing quote, and what follows it. -/
def readUnits : List Char → Option (List ℕ × List Char)
  | [] => none
  | '"' :: rest => some ([], rest)
  | '\\' :: 'u' :: a :: b :: c :: d :: rest =>
    (hexValue? [a, b, c, d]).bind fun unit =>
      (readUnits rest).map fun r => (unit :: r.1, r.2)
  | '\\' :: e :: rest =>
    (unescape? e).bind fun unit => (readUnits rest).map fun r => (unit :: r.1, r.2)
  | c :: rest =>
    if c.toNat < 0x20 then none
    else (readUnits rest).map fun r => (Utf16.encode c ++ r.1, r.2)

/-- The rest of a string. `JSON.parse` and `json.loads` also read a string with a lone surrogate;
here a string is a sequence of Unicode scalar values, so a text with such a string is none. -/
def readText (cs : List Char) : Option (String × List Char) :=
  (readUnits cs).bind fun r => (Utf16.decode? r.1).map fun text => (String.ofList text, r.2)

/-- No string of a text has a lone surrogate, wherever a quote opens one. -/
def surrogatesPaired : List Char → Bool
  | [] => true
  | '"' :: rest =>
    ((readUnits rest).all fun r => (Utf16.decode? r.1).isSome) && surrogatesPaired rest
  | _ :: rest => surrogatesPaired rest

def naturalOf (digits : List Char) : ℕ :=
  digits.foldl (fun value c => 10 * value + (c.toNat - '0'.toNat)) 0

def readExponent (cs : List Char) : Option (ℤ × List Char) :=
  let powered (sign : ℤ) (rest : List Char) : Option (ℤ × List Char) :=
    if rest.takeWhile Char.isDigit = [] then none
    else some (sign * naturalOf (rest.takeWhile Char.isDigit), rest.dropWhile Char.isDigit)
  match cs with
  | e :: rest =>
    if e = 'e' ∨ e = 'E' then
      match rest with
      | '+' :: rest => powered 1 rest
      | '-' :: rest => powered (-1) rest
      | rest => powered 1 rest
    else some (0, cs)
  | [] => some (0, [])

/-- A number, which is not rounded here. -/
def readNumber (cs : List Char) : Option (ℚ × List Char) := do
  let (sign, body) : ℚ × List Char := match cs with
    | '-' :: rest => (-1, rest)
    | _ => (1, cs)
  let whole := body.takeWhile Char.isDigit
  if whole = [] ∨ (whole.head? = some '0' ∧ whole ≠ ['0']) then none
  else
    let (fraction, rest) ← match body.dropWhile Char.isDigit with
      | '.' :: rest =>
        if rest.takeWhile Char.isDigit = [] then none
        else some (rest.takeWhile Char.isDigit, rest.dropWhile Char.isDigit)
      | rest => some ([], rest)
    let (exponent, rest) ← readExponent rest
    some (sign * naturalOf (whole ++ fraction) * (10 : ℚ) ^ (exponent - fraction.length), rest)

/-- A member of an object replaces an earlier one of the same name. -/
def insertMember (members : List (String × Json)) (m : String × Json) : List (String × Json) :=
  if m.1 ∈ members.map Prod.fst then members.map fun old => if old.1 = m.1 then m else old
  else members ++ [m]

mutual

/-- A value, and what follows it; the number bounds the depth and the length of what is read. -/
def readValue : ℕ → List Char → Option (Json × List Char)
  | 0, _ => none
  | fuel + 1, cs =>
    match cs.dropWhile jsonSpace with
    | 'n' :: 'u' :: 'l' :: 'l' :: rest => some (.null, rest)
    | 't' :: 'r' :: 'u' :: 'e' :: rest => some (.bool true, rest)
    | 'f' :: 'a' :: 'l' :: 's' :: 'e' :: rest => some (.bool false, rest)
    | '"' :: rest => (readText rest).map fun r => (.string r.1, r.2)
    | '[' :: rest =>
      match rest.dropWhile jsonSpace with
      | ']' :: rest => some (.array [], rest)
      | _ => (readElements fuel rest).map fun r => (.array r.1, r.2)
    | '{' :: rest =>
      match rest.dropWhile jsonSpace with
      | '}' :: rest => some (.object [], rest)
      | _ => (readMembers fuel rest).map fun r => (.object (r.1.foldl insertMember []), r.2)
    | cs => (readNumber cs).map fun r => (.number r.1, r.2)

def readElements : ℕ → List Char → Option (List Json × List Char)
  | 0, _ => none
  | fuel + 1, cs =>
    (readValue fuel cs).bind fun r =>
      match r.2.dropWhile jsonSpace with
      | ',' :: rest => (readElements fuel rest).map fun r' => (r.1 :: r'.1, r'.2)
      | ']' :: rest => some ([r.1], rest)
      | _ => none

def readMembers : ℕ → List Char → Option (List (String × Json) × List Char)
  | 0, _ => none
  | fuel + 1, cs =>
    match cs.dropWhile jsonSpace with
    | '"' :: rest =>
      (readText rest).bind fun key =>
        match key.2.dropWhile jsonSpace with
        | ':' :: rest =>
          (readValue fuel rest).bind fun r =>
            match r.2.dropWhile jsonSpace with
            | ',' :: rest =>
              (readMembers fuel rest).map fun r' => ((key.1, r.1) :: r'.1, r'.2)
            | '}' :: rest => some ([(key.1, r.1)], rest)
            | _ => none
        | _ => none
    | _ => none

end

/-- The value of a text, if it is one of JSON. -/
def Json.parse? (text : String) : Option Json :=
  (readValue (2 * text.length + 2) text.toList).bind fun r =>
    if r.2.all jsonSpace then some r.1 else none

/-! ## A string is read back -/

variable {c : Char} {cs rest : List Char} {s : String} {number : ℚ → List Char} {fuel : ℕ}

theorem readUnits_simple {e : Char} {unit : ℕ} (he : e ≠ 'u') (h : unescape? e = some unit) :
    readUnits ('\\' :: e :: rest) = (readUnits rest).map fun r => (unit :: r.1, r.2) := by
  rw [readUnits]
  · rw [h, Option.bind_some]
  · simp [he]

theorem readUnits_unit {unit : ℕ} (hunit : unit < 0x10000) :
    readUnits ('\\' :: 'u' :: (hexDigits unit 4 ++ rest)) =
      (readUnits rest).map fun r => (unit :: r.1, r.2) := by
  have hvalue := hexValue?_hexDigits unit 4
  rw [Nat.mod_eq_of_lt (by omega)] at hvalue
  have hlength := length_hexDigits unit 4
  obtain ⟨a, b, c, d, hdigits⟩ : ∃ a b c d, hexDigits unit 4 = [a, b, c, d] :=
    List.length_eq_four.mp hlength
  rw [hdigits] at hvalue ⊢
  simp only [List.cons_append, List.nil_append]
  rw [readUnits, hvalue, Option.bind_some]

theorem readUnits_plain (hquote : c ≠ '"') (hescape : c ≠ '\\') (h : 0x20 ≤ c.toNat) :
    readUnits (c :: rest) = (readUnits rest).map fun r => (Utf16.encode c ++ r.1, r.2) := by
  have hlt : ¬ c.toNat < 0x20 := by omega
  rw [readUnits]
  · rw [if_neg hlt]
  · exact hquote
  · simp [hescape]
  · simp [hescape]

theorem readUnits_control (hquote : c ≠ '"') (hescape : c ≠ '\\') (h : c.toNat < 0x20) :
    readUnits (c :: rest) = none := by
  rw [readUnits]
  · rw [if_pos h]
  · exact hquote
  · simp [hescape]
  · simp [hescape]

/-- Without an escape, the units are those of characters. -/
theorem readUnits_of_plain (hplain : '\\' ∉ cs) {r : List ℕ × List Char}
    (h : readUnits cs = some r) : ∃ text : List Char, r.1 = text.flatMap Utf16.encode := by
  induction cs generalizing r with
  | nil => contradiction
  | cons c cs ih =>
    rw [List.mem_cons, not_or] at hplain
    by_cases hquote : c = '"'
    · subst hquote
      obtain rfl := Option.some.inj h
      exact ⟨[], rfl⟩
    by_cases hcontrol : c.toNat < 0x20
    · rw [readUnits_control hquote (Ne.symm hplain.1) hcontrol] at h
      contradiction
    · rw [readUnits_plain hquote (Ne.symm hplain.1) (by omega)] at h
      obtain ⟨rest, hrest, rfl⟩ := Option.map_eq_some_iff.mp h
      obtain ⟨text, htext⟩ := ih hplain.2 hrest
      exact ⟨c :: text, by rw [htext, List.flatMap_cons]⟩

/-- A lone surrogate can only be written as an escape. -/
theorem surrogatesPaired_of_plain (hplain : '\\' ∉ cs) : surrogatesPaired cs = true := by
  induction cs with
  | nil => rfl
  | cons c cs ih =>
    rw [List.mem_cons, not_or] at hplain
    have hrest := ih hplain.2
    unfold surrogatesPaired
    split
    · rfl
    · rename_i rest heq
      obtain ⟨rfl, rfl⟩ := List.cons.inj heq
      rw [hrest, Bool.and_true, Option.all_eq_true]
      intro r hr
      obtain ⟨text, htext⟩ := readUnits_of_plain hplain.2 hr
      rw [htext, Utf16.decode?_flatMap_encode]
      rfl
    · rename_i heq
      obtain ⟨rfl, rfl⟩ := List.cons.inj heq
      exact hrest

theorem readUnits_units {units : List ℕ} (h : ∀ unit ∈ units, unit < 0x10000) :
    readUnits ((units.flatMap fun unit => '\\' :: 'u' :: hexDigits unit 4) ++ rest) =
      (readUnits rest).map fun r => (units ++ r.1, r.2) := by
  induction units with
  | nil => simp
  | cons unit units ih =>
    rw [List.forall_mem_cons] at h
    rw [List.flatMap_cons, List.append_assoc, List.cons_append, List.cons_append,
      readUnits_unit h.1, ih h.2, Option.map_map]
    rfl

/-- Every escape is read as the character that it stands for. -/
theorem readUnits_escape (c : Char) (rest : List Char) :
    readUnits (escape c ++ rest) =
      (readUnits rest).map fun r => (Utf16.encode c ++ r.1, r.2) := by
  unfold escape
  split_ifs with h₁ h₂ h₃ h₄ h₅ h₆ h₇ h₈
  · subst h₁
    exact readUnits_simple (by decide) rfl
  · subst h₂
    exact readUnits_simple (by decide) rfl
  · subst h₃
    exact readUnits_simple (by decide) rfl
  · subst h₄
    exact readUnits_simple (by decide) rfl
  · subst h₅
    exact readUnits_simple (by decide) rfl
  · subst h₆
    exact readUnits_simple (by decide) rfl
  · subst h₇
    exact readUnits_simple (by decide) rfl
  · exact readUnits_plain h₁ h₂ h₈.1
  · exact readUnits_units fun unit hunit => Utf16.encode_lt hunit

theorem readUnits_escaped (cs rest : List Char) :
    readUnits (cs.flatMap escape ++ '"' :: rest) = some (cs.flatMap Utf16.encode, rest) := by
  induction cs with
  | nil => rfl
  | cons c cs ih =>
    rw [List.flatMap_cons, List.append_assoc, readUnits_escape, ih]
    rfl

theorem readText_escaped (s : String) (rest : List Char) :
    readText (s.toList.flatMap escape ++ '"' :: rest) = some (s, rest) := by
  unfold readText
  rw [readUnits_escaped, Option.bind_some, Utf16.decode?_flatMap_encode]
  simp

/-! ## An object is read back -/

/-- What is written for the first value is read as the second one, by a reader that may go `size`
levels and members deep. -/
def ReadsBack (number : ℚ → List Char) (size : ℕ) (value value' : Json) : Prop :=
  ∀ fuel rest, size ≤ fuel → readValue fuel (dumps number value ++ rest) = some (value', rest)

def Json.flat : Json → Prop
  | .null | .string _ => True
  | _ => False

variable {value value' : Json} {members members' : List (String × Json)} {m m' : String × Json}
  {size : ℕ}

theorem ReadsBack.mono {size' : ℕ} (h : ReadsBack number size value value') (hle : size ≤ size') :
    ReadsBack number size' value value' :=
  fun fuel rest hfuel => h fuel rest (hle.trans hfuel)

theorem readsBack_flat (h : value.flat) : ReadsBack number 1 value value := by
  intro fuel rest hfuel
  obtain ⟨fuel, rfl⟩ : ∃ n, fuel = n + 1 := ⟨fuel - 1, by omega⟩
  cases value with
  | null => rfl
  | string s =>
    have htext := readText_escaped s rest
    have hdrop (cs : List Char) : ('"' :: cs).dropWhile jsonSpace = '"' :: cs := rfl
    rw [dumps, dumpsString, List.cons_append, List.append_assoc, List.singleton_append, readValue,
      hdrop]
    change (readText _).map (fun r => (Json.string r.1, r.2)) = _
    rw [htext]
    rfl
  | _ => contradiction

def dumpsMember (number : ℚ → List Char) (m : String × Json) : List Char :=
  dumpsString m.1 ++ ':' :: dumps number m.2

theorem dumpsMembers_eq : dumpsMembers number members =
    members.map fun m => (m.1, dumpsMember number m) := by
  induction members with
  | nil => rfl
  | cons m members ih =>
    rw [dumpsMembers, ih]
    rfl

def sortedMembers (members : List (String × Json)) : List (String × Json) :=
  members.insertionSort fun m m' => m.1 ≤ m'.1

theorem dumps_object : dumps number (.object members) =
    '{' :: ([','].intercalate ((sortedMembers members).map (dumpsMember number)) ++ ['}']) := by
  have hsort : (members.map fun m => (m.1, dumpsMember number m)).insertionSort
      (fun m m' => m.1 ≤ m'.1) =
        (sortedMembers members).map fun m => (m.1, dumpsMember number m) :=
    (List.map_insertionSort (fun m m' => m.1 ≤ m'.1) (fun m m' => m.1 ≤ m'.1)
      (fun m => (m.1, dumpsMember number m)) members fun _ _ _ _ => Iff.rfl).symm
  rw [dumps, dumpsMembers_eq, hsort, List.map_map]
  rfl

def MemberReadsBack (number : ℚ → List Char) (size : ℕ) (m m' : String × Json) : Prop :=
  m.1 = m'.1 ∧ ReadsBack number size m.2 m'.2

/-- The text of a member is read as `m'`, and then what follows it. -/
def ReadsMember (size : ℕ) (text : List Char) (m' : String × Json) : Prop :=
  ∀ fuel rest, size ≤ fuel → readMembers (fuel + 1) (text ++ rest) =
    match rest.dropWhile jsonSpace with
    | ',' :: rest => (readMembers fuel rest).map fun r => (m' :: r.1, r.2)
    | '}' :: rest => some ([m'], rest)
    | _ => none

/-- A name that is read back, a colon and a value that is read back. -/
theorem readsMember_of_texts {name text : List Char}
    (hname : ∀ rest, readText (name ++ '"' :: rest) = some (s, rest))
    (hvalue : ∀ fuel rest, size ≤ fuel → readValue fuel (text ++ rest) = some (value, rest)) :
    ReadsMember size ('"' :: (name ++ '"' :: ':' :: text)) (s, value) := by
  intro fuel rest hfuel
  have hdrop (cs : List Char) : ('"' :: cs).dropWhile jsonSpace = '"' :: cs := rfl
  have hcolon (cs : List Char) : (':' :: cs).dropWhile jsonSpace = ':' :: cs := rfl
  have hmember : '"' :: (name ++ '"' :: ':' :: text) ++ rest =
      '"' :: (name ++ '"' :: ':' :: (text ++ rest)) := by simp
  rw [hmember, readMembers, hdrop]
  change (readText _).bind _ = _
  rw [hname, Option.bind_some, hcolon]
  change (readValue _ _).bind _ = _
  rw [hvalue fuel rest hfuel, Option.bind_some]

theorem readMembers_texts {texts : List (List Char)} (hne : texts ≠ [])
    (h : List.Forall₂ (ReadsMember size) texts members') (hfuel : size + texts.length ≤ fuel) :
    readMembers fuel ([','].intercalate texts ++ '}' :: rest) = some (members', rest) := by
  induction h generalizing fuel with
  | nil => contradiction
  | @cons text m' texts members' hm hmembers ih =>
    rw [List.length_cons] at hfuel
    obtain ⟨fuel, rfl⟩ : ∃ n, fuel = n + 1 := ⟨fuel - 1, by omega⟩
    cases hmembers with
    | nil =>
      rw [List.intercalate_singleton, hm fuel _ (by omega)]
      rfl
    | cons hm₂ hmembers =>
      have hrest := ih (List.cons_ne_nil _ _) (by omega : _ ≤ fuel)
      have hcomma (cs : List Char) : (',' :: cs).dropWhile jsonSpace = ',' :: cs := rfl
      rw [List.intercalate_cons_cons, List.append_assoc, List.append_assoc, List.singleton_append,
        hm fuel _ (by omega), hcomma]
      change (readMembers _ _).map _ = _
      rw [hrest]
      rfl

theorem readsMember_dumps (h : MemberReadsBack number size m m') :
    ReadsMember size (dumpsMember number m) m' := by
  obtain ⟨hname, hvalue⟩ := h
  have htext : dumpsMember number m =
      '"' :: (m.1.toList.flatMap escape ++ '"' :: ':' :: dumps number m.2) := by
    simp [dumpsMember, dumpsString]
  rw [htext, ← Prod.mk.eta (p := m'), ← hname]
  exact readsMember_of_texts (readText_escaped m.1) hvalue

theorem readMembers_members (hne : members ≠ [])
    (h : List.Forall₂ (MemberReadsBack number size) members members')
    (hfuel : size + members.length ≤ fuel) :
    readMembers fuel ([','].intercalate (members.map (dumpsMember number)) ++ '}' :: rest) =
      some (members', rest) := by
  refine readMembers_texts (mt List.map_eq_nil_iff.mp hne) ?_ (by rwa [List.length_map])
  exact List.forall₂_map_left_iff.mpr (h.imp fun _ _ hm => readsMember_dumps hm)

theorem foldl_insertMember (hnodup : (members.map Prod.fst).Nodup) :
    members.foldl insertMember [] = members := by
  induction members using List.reverseRecOn with
  | nil => rfl
  | append_singleton members m ih =>
    rw [List.map_append, List.map_singleton, List.nodup_append] at hnodup
    obtain ⟨hnodup, -, hdisjoint⟩ := hnodup
    have hnew : m.1 ∉ members.map Prod.fst := fun hmem => hdisjoint m.1 hmem m.1 (by simp) rfl
    rw [List.foldl_append, ih hnodup, List.foldl_cons, List.foldl_nil, insertMember, if_neg hnew]

theorem readValue_object (h : readMembers fuel ('"' :: cs) = some (members, rest))
    (hnodup : (members.map Prod.fst).Nodup) :
    readValue (fuel + 1) ('{' :: '"' :: cs) = some (.object members, rest) := by
  have hopen (cs : List Char) : ('{' :: cs).dropWhile jsonSpace = '{' :: cs := rfl
  rw [readValue, hopen]
  change (readMembers fuel ('"' :: cs)).map _ = _
  rw [h, Option.map_some, foldl_insertMember hnodup]

theorem length_intercalate {parts : List (List Char)} (h : ∀ part ∈ parts, part ≠ []) :
    parts.length ≤ ([','].intercalate parts).length := by
  induction parts with
  | nil => simp
  | cons part parts ih =>
    rw [List.forall_mem_cons] at h
    have hpart := List.length_pos_of_ne_nil h.1
    have hparts := ih h.2
    cases parts with
    | nil =>
      rw [List.intercalate_singleton]
      exact hpart
    | cons part' parts =>
      rw [List.intercalate_cons_cons, List.length_append, List.length_append, List.length_cons]
      omega

theorem intercalate_quote (number : ℚ → List Char) (hne : members ≠ []) :
    ∃ cs, [','].intercalate (members.map (dumpsMember number)) = '"' :: cs := by
  obtain ⟨m, members, rfl⟩ := List.exists_cons_of_ne_nil hne
  rw [List.map_cons, dumpsMember, dumpsString, List.cons_append, List.intercalate_cons_cons_left]
  exact ⟨_, rfl⟩

theorem map_fst_of_forall₂ (h : List.Forall₂ (MemberReadsBack number size) members members') :
    members.map Prod.fst = members'.map Prod.fst := by
  induction h with
  | nil => rfl
  | cons hm _ ih => rw [List.map_cons, List.map_cons, ih, hm.1]

theorem sortedMembers_perm (members : List (String × Json)) :
    (sortedMembers members).Perm members :=
  List.perm_insertionSort _ _

/-- An object is read back with its members sorted by their names. -/
theorem readsBack_object (hne : members ≠ []) (hnodup : (members.map Prod.fst).Nodup)
    (h : List.Forall₂ (MemberReadsBack number size) (sortedMembers members) members') :
    ReadsBack number (size + members.length + 1) (.object members) (.object members') := by
  intro fuel rest hfuel
  have hperm := sortedMembers_perm members
  have hlength := hperm.length_eq
  have hne' : sortedMembers members ≠ [] := fun hnil => hne (by simpa [hnil] using hperm)
  have hnodup' : (members'.map Prod.fst).Nodup := by
    rw [← map_fst_of_forall₂ h]
    exact (hperm.map Prod.fst).nodup_iff.mpr hnodup
  obtain ⟨fuel, rfl⟩ : ∃ n, fuel = n + 1 := ⟨fuel - 1, by omega⟩
  obtain ⟨cs, hcs⟩ := intercalate_quote number hne'
  have hread :
      readMembers fuel ([','].intercalate ((sortedMembers members).map (dumpsMember number)) ++
      '}' :: rest) = some (members', rest) := readMembers_members hne' h (by omega)
  rw [hcs, List.cons_append] at hread
  rw [dumps_object, hcs, List.cons_append, List.append_assoc, List.cons_append,
    List.singleton_append, readValue_object hread hnodup']

theorem parse?_of_readsBack (h : ReadsBack number size value value')
    (hsize : size ≤ 2 * (dumps number value).length + 2) :
    Json.parse? (String.ofList (dumps number value)) = some value' := by
  have hread := h (2 * (dumps number value).length + 2) [] hsize
  rw [List.append_nil] at hread
  unfold Json.parse?
  rw [← String.length_toList, String.toList_ofList, hread]
  rfl

theorem length_dumps_object (number : ℚ → List Char) (members : List (String × Json)) :
    members.length ≤ (dumps number (.object members)).length := by
  have hparts : ∀ part ∈ (sortedMembers members).map (dumpsMember number), part ≠ [] := by
    intro part hpart
    obtain ⟨m, -, rfl⟩ := List.mem_map.mp hpart
    simp [dumpsMember, dumpsString]
  have hlength := length_intercalate hparts
  rw [List.length_map, (sortedMembers_perm members).length_eq] at hlength
  rw [dumps_object, List.length_cons, List.length_append]
  omega

theorem forall₂_flat (h : ∀ m ∈ members, m.2.flat) :
    List.Forall₂ (MemberReadsBack number 1) members members := by
  rw [List.forall₂_same]
  exact fun m hm => ⟨rfl, readsBack_flat (h m hm)⟩

/-- A flat object is read back from its text. -/
theorem readsBack_flatObject (hne : members ≠ []) (hflat : ∀ m ∈ members, m.2.flat)
    (hnodup : (members.map Prod.fst).Nodup) :
    ReadsBack number (1 + members.length + 1) (.object members)
      (.object (sortedMembers members)) :=
  readsBack_object hne hnodup
    (forall₂_flat fun m hm => hflat m ((sortedMembers_perm members).mem_iff.mp hm))

theorem parse?_dumps (hne : members ≠ []) (hflat : ∀ m ∈ members, m.2.flat)
    (hnodup : (members.map Prod.fst).Nodup) :
    Json.parse? (String.ofList (dumps number (.object members))) =
      some (.object (sortedMembers members)) := by
  have hlength := length_dumps_object number members
  exact parse?_of_readsBack (readsBack_flatObject hne hflat hnodup) (by omega)

/-! ## `JSON.parse` undoes `JSON.stringify` -/

theorem readUnits_stringifyChar (c : Char) (rest : List Char) :
    readUnits (stringifyChar c ++ rest) =
      (readUnits rest).map fun r => (Utf16.encode c ++ r.1, r.2) := by
  unfold stringifyChar
  split_ifs with h₁ h₂ h₃ h₄ h₅ h₆ h₇ h₈
  · subst h₁
    exact readUnits_simple (by decide) rfl
  · subst h₂
    exact readUnits_simple (by decide) rfl
  · subst h₃
    exact readUnits_simple (by decide) rfl
  · subst h₄
    exact readUnits_simple (by decide) rfl
  · subst h₅
    exact readUnits_simple (by decide) rfl
  · subst h₆
    exact readUnits_simple (by decide) rfl
  · subst h₇
    exact readUnits_simple (by decide) rfl
  · -- a control character is one unit
    have hunit : Utf16.encode c = [c.toNat] := if_pos (by omega)
    rw [List.cons_append, List.cons_append, readUnits_unit (by omega), hunit]
    rfl
  · exact readUnits_plain h₁ h₂ (by omega)

theorem readUnits_stringified (cs rest : List Char) :
    readUnits (cs.flatMap stringifyChar ++ '"' :: rest) = some (cs.flatMap Utf16.encode, rest) := by
  induction cs with
  | nil => rfl
  | cons c cs ih =>
    rw [List.flatMap_cons, List.append_assoc, readUnits_stringifyChar, ih]
    rfl

theorem readText_stringified (s : String) (rest : List Char) :
    readText (s.toList.flatMap stringifyChar ++ '"' :: rest) = some (s, rest) := by
  unfold readText
  rw [readUnits_stringified, Option.bind_some, Utf16.decode?_flatMap_encode]
  simp

theorem readValue_stringify (h : value.flat) (fuel : ℕ) (rest : List Char) (hfuel : 1 ≤ fuel) :
    readValue fuel (stringify number value ++ rest) = some (value, rest) := by
  obtain ⟨fuel, rfl⟩ : ∃ n, fuel = n + 1 := ⟨fuel - 1, by omega⟩
  cases value with
  | null => rfl
  | string s =>
    have hdrop (cs : List Char) : ('"' :: cs).dropWhile jsonSpace = '"' :: cs := rfl
    rw [stringify, stringifyString, List.cons_append, List.append_assoc, List.singleton_append,
      readValue, hdrop]
    change (readText _).map (fun r => (Json.string r.1, r.2)) = _
    rw [readText_stringified]
    rfl
  | _ => contradiction

theorem stringifyMembers_eq : stringifyMembers number members = members.map fun m =>
    '"' :: (m.1.toList.flatMap stringifyChar ++ '"' :: ':' :: stringify number m.2) := by
  induction members with
  | nil => rfl
  | cons m members ih =>
    rw [stringifyMembers, List.map_cons, ih]
    simp [stringifyString]

/-- A flat object is read back as it is. -/
theorem parse?_stringify (hne : members ≠ []) (hflat : ∀ m ∈ members, m.2.flat)
    (hnodup : (members.map Prod.fst).Nodup) :
    Json.parse? (String.ofList (stringify number (.object members))) = some (.object members) := by
  have hreads : List.Forall₂ (ReadsMember 1) (stringifyMembers number members) members := by
    rw [stringifyMembers_eq, List.forall₂_map_left_iff, List.forall₂_same]
    exact fun m hm =>
      readsMember_of_texts (readText_stringified m.1) (readValue_stringify (hflat m hm))
  have htexts : stringifyMembers number members ≠ [] := by
    rwa [stringifyMembers_eq, ne_eq, List.map_eq_nil_iff]
  -- the length of the text is fuel enough for its members
  have hlength : (stringifyMembers number members).length ≤
      ([','].intercalate (stringifyMembers number members)).length := by
    refine length_intercalate fun part hpart => ?_
    rw [stringifyMembers_eq] at hpart
    obtain ⟨m, -, rfl⟩ := List.mem_map.mp hpart
    exact List.cons_ne_nil _ _
  obtain ⟨cs, hcs⟩ : ∃ cs, [','].intercalate (stringifyMembers number members) = '"' :: cs := by
    obtain ⟨m, rest, rfl⟩ := List.exists_cons_of_ne_nil hne
    rw [stringifyMembers_eq, List.map_cons, List.intercalate_cons_cons_left]
    exact ⟨_, rfl⟩
  have hmembers (fuel : ℕ) (hfuel : 1 + (stringifyMembers number members).length ≤ fuel) :
      readMembers fuel ('"' :: (cs ++ ['}'])) = some (members, []) := by
    have hread : readMembers fuel ([','].intercalate (stringifyMembers number members) ++ ['}']) =
        some (members, []) := readMembers_texts htexts hreads hfuel
    rwa [hcs, List.cons_append] at hread
  have hcount : (stringify number (.object members)).length = cs.length + 3 := by
    rw [stringify, hcs]
    simp
  rw [hcs, List.length_cons] at hlength
  unfold Json.parse?
  rw [← String.length_toList, String.toList_ofList, hcount, stringify, hcs, List.cons_append,
    readValue_object (hmembers _ (by omega)) hnodup]
  rfl

/-! ## The names of an object that was read -/

theorem nodup_insertMember {m : String × Json} (h : (members.map Prod.fst).Nodup) :
    ((insertMember members m).map Prod.fst).Nodup := by
  unfold insertMember
  split
  · have hkeys : (members.map fun old => if old.1 = m.1 then m else old).map Prod.fst =
        members.map Prod.fst := by
      rw [List.map_map]
      refine List.map_congr_left fun old _ => ?_
      rw [Function.comp_apply]
      split
      · rename_i heq
        exact heq.symm
      · rfl
    rwa [hkeys]
  · rename_i hnew
    rw [List.map_append, List.map_singleton]
    exact List.nodup_append.mpr ⟨h, List.nodup_singleton _, fun key hkey key' hkey' heq => by
      rw [List.mem_singleton] at hkey'
      exact hnew (hkey' ▸ heq ▸ hkey)⟩

theorem nodup_foldl_insertMember (members : List (String × Json)) :
    ((members.foldl insertMember []).map Prod.fst).Nodup := by
  induction members using List.reverseRecOn with
  | nil => exact List.nodup_nil
  | append_singleton members m ih =>
    rw [List.foldl_append]
    exact nodup_insertMember ih

/-- No two members of an object that was read share their name. -/
theorem readValue_nodup (h : readValue fuel cs = some (.object members, rest)) :
    (members.map Prod.fst).Nodup := by
  cases fuel with
  | zero => contradiction
  | succ fuel =>
    rw [readValue] at h
    split at h
    all_goals try split at h
    all_goals simp at h
    · rw [h.1]
      exact List.nodup_nil
    · obtain ⟨read, -, rfl⟩ := h
      exact nodup_foldl_insertMember read

theorem nodup_of_parse? {text : String} (h : Json.parse? text = some (.object members)) :
    (members.map Prod.fst).Nodup := by
  unfold Json.parse? at h
  obtain ⟨r, hread, hvalue⟩ := Option.bind_eq_some_iff.mp h
  split at hvalue
  · have hobject := Option.some.inj hvalue
    have hvalue : readValue (2 * text.length + 2) text.toList = some (.object members, r.2) := by
      rw [hread, ← hobject]
    exact readValue_nodup hvalue
  · contradiction

end OpsFlow
