import OpsFlow.JsonText

namespace OpsFlow

/-! ## What is read of a written value -/

/-- What may stand after a value: nothing, a comma or a closing bracket. -/
def Ends (rest : List Char) : Prop := ∀ c ∈ rest.head?, c = ',' ∨ c = ']' ∨ c = '}'

/-- Every number is written as a text that is read as a value of its own: as that number, as one
nearby, or as null where there is no text for the number. -/
structure WritesNumbers (number : ℚ → List Char) (reread : ℚ → Json) : Prop where
  reads : ∀ q fuel rest, Ends rest →
    readValue (fuel + 1) (number q ++ rest) = some (reread q, rest)

mutual

/-- The value with its numbers as they are read back. -/
def Json.reread (reread : ℚ → Json) : Json → Json
  | .null => .null
  | .bool b => .bool b
  | .number q => reread q
  | .string s => .string s
  | .array elements => .array (rereadElements reread elements)
  | .object members => .object (rereadMembers reread members)

def rereadElements (reread : ℚ → Json) : List Json → List Json
  | [] => []
  | element :: elements => element.reread reread :: rereadElements reread elements

def rereadMembers (reread : ℚ → Json) : List (String × Json) → List (String × Json)
  | [] => []
  | (key, value) :: members => (key, value.reread reread) :: rereadMembers reread members

end

mutual

def Json.Distinct : Json → Prop
  | .array elements => DistinctElements elements
  | .object members => (members.map Prod.fst).Nodup ∧ DistinctMembers members
  | _ => True

def DistinctElements : List Json → Prop
  | [] => True
  | element :: elements => element.Distinct ∧ DistinctElements elements

def DistinctMembers : List (String × Json) → Prop
  | [] => True
  | (_, value) :: members => value.Distinct ∧ DistinctMembers members

end

mutual

def Json.depth : Json → ℕ
  | .array elements => depthElements elements + 1
  | .object members => depthMembers members + 1
  | _ => 0

def depthElements : List Json → ℕ
  | [] => 0
  | element :: elements => max element.depth (depthElements elements)

def depthMembers : List (String × Json) → ℕ
  | [] => 0
  | (_, value) :: members => max value.depth (depthMembers members)

end

mutual

/-- How deep and how far a reader has to go. -/
def Json.need : Json → ℕ
  | .array elements => needElements elements + 1
  | .object members => needMembers members + 1
  | _ => 1

def needElements : List Json → ℕ
  | [] => 0
  | element :: elements => max element.need (needElements elements) + 1

def needMembers : List (String × Json) → ℕ
  | [] => 0
  | (_, value) :: members => max value.need (needMembers members) + 1

end

variable {number : ℚ → List Char} {reread : ℚ → Json} {value : Json} {elements : List Json}
  {members : List (String × Json)} {cs rest : List Char} {fuel : ℕ}

theorem distinctMembers_iff : DistinctMembers members ↔ ∀ m ∈ members, m.2.Distinct := by
  induction members with
  | nil => simp [DistinctMembers]
  | cons m members ih => rw [DistinctMembers, ih, List.forall_mem_cons]

theorem rereadMembers_eq : rereadMembers reread members =
    members.map fun m => (m.1, m.2.reread reread) := by
  induction members with
  | nil => rfl
  | cons m members ih => rw [rereadMembers, ih, List.map_cons]

theorem map_fst_rereadMembers : (rereadMembers reread members).map Prod.fst =
    members.map Prod.fst := by
  rw [rereadMembers_eq, List.map_map]
  rfl

theorem lookup_rereadMembers (key : String) : (rereadMembers reread members).lookup key =
    (members.lookup key).map (Json.reread reread) := by
  induction members with
  | nil => rfl
  | cons m members ih =>
    rw [rereadMembers, List.lookup_cons, List.lookup_cons]
    split
    · rfl
    · exact ih

theorem need_pos (value : Json) : 0 < value.need := by
  cases value with
  | _ => simp [Json.need]

theorem ends_comma (rest : List Char) : Ends (',' :: rest) := by
  intro c hc
  obtain rfl : ',' = c := Option.some.inj hc
  exact .inl rfl

theorem ends_bracket (rest : List Char) : Ends (']' :: rest) := by
  intro c hc
  obtain rfl : ']' = c := Option.some.inj hc
  exact .inr (.inl rfl)

theorem ends_brace (rest : List Char) : Ends ('}' :: rest) := by
  intro c hc
  obtain rfl : '}' = c := Option.some.inj hc
  exact .inr (.inr rfl)

theorem ends_nil : Ends [] := fun c hc => by contradiction

theorem readNumber_bracket : readNumber (']' :: rest) = none := by
  simp [readNumber]

/-- No value begins with a closing bracket. -/
theorem readValue_bracket (h : cs.dropWhile jsonSpace = ']' :: rest) :
    readValue fuel cs = none := by
  cases fuel with
  | zero => rfl
  | succ fuel =>
    rw [readValue, h]
    change (readNumber (']' :: rest)).map _ = none
    rw [readNumber_bracket]
    rfl

theorem readElements_not_bracket {r : List Json × List Char} (h : readElements fuel cs = some r)
    (rest : List Char) : cs.dropWhile jsonSpace ≠ ']' :: rest := by
  intro hbracket
  cases fuel with
  | zero => contradiction
  | succ fuel =>
    rw [readElements, readValue_bracket hbracket] at h
    contradiction

theorem readValue_array (h : readElements fuel cs = some (elements, rest)) :
    readValue (fuel + 1) ('[' :: cs) = some (.array elements, rest) := by
  have hopen (cs : List Char) : ('[' :: cs).dropWhile jsonSpace = '[' :: cs := rfl
  rw [readValue, hopen]
  simp only
  split
  · rename_i hbracket
    exact absurd hbracket (readElements_not_bracket h _)
  · rw [h]
    rfl

/-- A member that is followed by another one. -/
theorem readMembers_member {key : String} {text : List Char}
    (h : readValue fuel (text ++ ',' :: rest) = some (value, ',' :: rest)) :
    readMembers (fuel + 1) (stringifyString key ++ ':' :: (text ++ ',' :: rest)) =
      (readMembers fuel rest).map fun r => ((key, value) :: r.1, r.2) := by
  have hopen (cs : List Char) : ('"' :: cs).dropWhile jsonSpace = '"' :: cs := rfl
  have hcolon (cs : List Char) : (':' :: cs).dropWhile jsonSpace = ':' :: cs := rfl
  have hcomma (cs : List Char) : (',' :: cs).dropWhile jsonSpace = ',' :: cs := rfl
  rw [stringifyString, List.cons_append, List.append_assoc, List.singleton_append, readMembers,
    hopen]
  change (readText _).bind _ = _
  rw [readText_stringified, Option.bind_some, hcolon]
  change (readValue _ _).bind _ = _
  rw [h, Option.bind_some, hcomma]
  rfl

theorem readMembers_last {key : String} {text : List Char}
    (h : readValue fuel (text ++ '}' :: rest) = some (value, '}' :: rest)) :
    readMembers (fuel + 1) (stringifyString key ++ ':' :: (text ++ '}' :: rest)) =
      some ([(key, value)], rest) := by
  have hopen (cs : List Char) : ('"' :: cs).dropWhile jsonSpace = '"' :: cs := rfl
  have hcolon (cs : List Char) : (':' :: cs).dropWhile jsonSpace = ':' :: cs := rfl
  have hbrace (cs : List Char) : ('}' :: cs).dropWhile jsonSpace = '}' :: cs := rfl
  rw [stringifyString, List.cons_append, List.append_assoc, List.singleton_append, readMembers,
    hopen]
  change (readText _).bind _ = _
  rw [readText_stringified, Option.bind_some, hcolon]
  change (readValue _ _).bind _ = _
  rw [h, Option.bind_some, hbrace]
  rfl

theorem stringifyMembers_cons (number : ℚ → List Char) (key : String) (value : Json)
    (members : List (String × Json)) (rest : List Char) :
    ∃ cs, [','].intercalate (stringifyMembers number ((key, value) :: members)) ++ rest =
      '"' :: cs := by
  rw [stringifyMembers, stringifyString, List.cons_append, List.intercalate_cons_cons_left]
  exact ⟨_, rfl⟩

mutual

/-- What is written for a value is read back, up to the numbers in it. -/
theorem readValue_stringified (hn : WritesNumbers number reread) (fuel : ℕ) (value : Json)
    (hd : value.Distinct) (hfuel : value.need ≤ fuel) {rest : List Char} (hrest : Ends rest) :
    readValue fuel (stringify number value ++ rest) = some (value.reread reread, rest) := by
  have hpos := need_pos value
  match fuel, value with
  | 0, _ => omega
  | fuel + 1, .null => rfl
  | fuel + 1, .bool true => rfl
  | fuel + 1, .bool false => rfl
  | fuel + 1, .number q => exact hn.reads q fuel rest hrest
  | fuel + 1, .string s =>
    have hflat : (Json.string s).flat := trivial
    exact readValue_stringify hflat (fuel + 1) rest (by omega)
  | fuel + 1, .array [] => rfl
  | fuel + 1, .array (element :: elements) =>
    have hread := readElements_stringified hn fuel element elements hd
      (by rw [Json.need] at hfuel; omega) rest
    rw [stringify, List.cons_append, List.append_assoc]
    exact readValue_array hread
  | fuel + 1, .object [] => rfl
  | fuel + 1, .object ((key, value) :: members) =>
    have hread := readMembers_stringified hn fuel key value members hd.2
      (by rw [Json.need] at hfuel; omega) rest
    obtain ⟨cs, hcs⟩ := stringifyMembers_cons number key value members ('}' :: rest)
    rw [hcs] at hread
    rw [stringify, List.cons_append, List.append_assoc, List.singleton_append, hcs]
    refine readValue_object hread ?_
    rw [map_fst_rereadMembers]
    exact hd.1

theorem readElements_stringified (hn : WritesNumbers number reread) (fuel : ℕ) (element : Json)
    (elements : List Json) (hd : DistinctElements (element :: elements))
    (hfuel : needElements (element :: elements) ≤ fuel) (rest : List Char) :
    readElements fuel ([','].intercalate (stringifyElements number (element :: elements)) ++
      ']' :: rest) = some (rereadElements reread (element :: elements), rest) := by
  rw [needElements] at hfuel
  match fuel, elements with
  | 0, _ => omega
  | fuel + 1, [] =>
    have hvalue := readValue_stringified hn fuel element hd.1 (by omega)
      (ends_bracket rest)
    rw [stringifyElements, stringifyElements, List.intercalate_singleton, readElements, hvalue]
    rfl
  | fuel + 1, element' :: elements =>
    have hvalue := readValue_stringified hn fuel element hd.1 (by omega)
      (ends_comma ([','].intercalate (stringifyElements number (element' :: elements)) ++
        ']' :: rest))
    have hread := readElements_stringified hn fuel element' elements hd.2 (by omega) rest
    have hcomma (cs : List Char) : (',' :: cs).dropWhile jsonSpace = ',' :: cs := rfl
    rw [stringifyElements, stringifyElements, List.intercalate_cons_cons, ← stringifyElements,
      List.append_assoc, List.append_assoc, List.singleton_append, readElements, hvalue,
      Option.bind_some, hcomma]
    change (readElements _ _).map _ = _
    rw [hread]
    rfl

theorem readMembers_stringified (hn : WritesNumbers number reread) (fuel : ℕ) (key : String)
    (value : Json) (members : List (String × Json))
    (hd : DistinctMembers ((key, value) :: members))
    (hfuel : needMembers ((key, value) :: members) ≤ fuel) (rest : List Char) :
    readMembers fuel ([','].intercalate (stringifyMembers number ((key, value) :: members)) ++
      '}' :: rest) = some (rereadMembers reread ((key, value) :: members), rest) := by
  rw [needMembers] at hfuel
  match fuel, members with
  | 0, _ => omega
  | fuel + 1, [] =>
    have hvalue := readValue_stringified hn fuel value hd.1 (by omega) (ends_brace rest)
    rw [stringifyMembers, stringifyMembers, List.intercalate_singleton, List.append_assoc,
      List.cons_append, readMembers_last hvalue]
    rfl
  | fuel + 1, (key', value') :: members =>
    have hvalue := readValue_stringified hn fuel value hd.1 (by omega)
      (ends_comma ([','].intercalate (stringifyMembers number ((key', value') :: members)) ++
        '}' :: rest))
    have hread := readMembers_stringified hn fuel key' value' members hd.2 (by omega) rest
    rw [stringifyMembers, stringifyMembers, List.intercalate_cons_cons, ← stringifyMembers,
      List.append_assoc, List.append_assoc, List.append_assoc, List.cons_append,
      List.singleton_append, readMembers_member hvalue, hread]
    rfl

end

/-- No number is written as nothing. -/
theorem WritesNumbers.ne_nil (hn : WritesNumbers number reread) (q : ℚ) : number q ≠ [] := by
  intro hnil
  have hread := hn.reads q 0 [] ends_nil
  rw [hnil] at hread
  have hnone : readValue 1 ([] : List Char) = none := rfl
  rw [List.append_nil, hnone] at hread
  contradiction

mutual

/-- A text is as long as its reader has to go. -/
theorem need_le_length (hn : ∀ q, number q ≠ []) : ∀ value : Json,
    value.need ≤ (stringify number value).length
  | .null => by simp [Json.need, stringify]
  | .bool true => by simp [Json.need, stringify]
  | .bool false => by simp [Json.need, stringify]
  | .number q => List.length_pos_of_ne_nil (hn q)
  | .string _ => by simp [Json.need, stringify, stringifyString]
  | .array elements => by
    have hlength := needElements_le_length hn elements
    rw [Json.need, stringify, List.length_cons, List.length_append, List.length_singleton]
    omega
  | .object members => by
    have hlength := needMembers_le_length hn members
    rw [Json.need, stringify, List.length_cons, List.length_append, List.length_singleton]
    omega

theorem needElements_le_length (hn : ∀ q, number q ≠ []) : ∀ elements : List Json,
    needElements elements ≤ ([','].intercalate (stringifyElements number elements)).length + 1
  | [] => by simp [needElements]
  | [element] => by
    have hlength := need_le_length hn element
    rw [needElements, needElements, stringifyElements, stringifyElements,
      List.intercalate_singleton]
    omega
  | element :: element' :: elements => by
    have hlength := need_le_length hn element
    have hrest := needElements_le_length hn (element' :: elements)
    rw [needElements, stringifyElements, stringifyElements, List.intercalate_cons_cons,
      ← stringifyElements, List.length_append, List.length_append, List.length_singleton]
    omega

theorem needMembers_le_length (hn : ∀ q, number q ≠ []) : ∀ members : List (String × Json),
    needMembers members ≤ ([','].intercalate (stringifyMembers number members)).length + 1
  | [] => by simp [needMembers]
  | [(key, value)] => by
    have hlength := need_le_length hn value
    rw [needMembers, needMembers, stringifyMembers, stringifyMembers, List.intercalate_singleton,
      List.length_append, List.length_cons]
    omega
  | (key, value) :: (key', value') :: members => by
    have hlength := need_le_length hn value
    have hrest := needMembers_le_length hn ((key', value') :: members)
    rw [needMembers, stringifyMembers, stringifyMembers, List.intercalate_cons_cons,
      ← stringifyMembers, List.length_append, List.length_append, List.length_append,
      List.length_cons, List.length_singleton]
    omega

end

/-- A value is read back from its text, up to the numbers in it. -/
theorem parse?_stringify_of_distinct (hn : WritesNumbers number reread) (hd : value.Distinct) :
    Json.parse? (String.ofList (stringify number value)) = some (value.reread reread) := by
  have hneed := need_le_length hn.ne_nil value
  have hread :=
    readValue_stringified hn (2 * (stringify number value).length + 2) value hd (by omega)
    ends_nil
  rw [List.append_nil] at hread
  unfold Json.parse?
  rw [← String.length_toList, String.toList_ofList, hread]
  rfl

/-! ## A value that was read has distinct names -/

theorem distinctMembers_insertMember {m : String × Json} (hm : m.2.Distinct)
    (h : DistinctMembers members) : DistinctMembers (insertMember members m) := by
  rw [distinctMembers_iff] at h ⊢
  intro m' hm'
  unfold insertMember at hm'
  split at hm'
  · obtain ⟨old, hold, rfl⟩ := List.mem_map.mp hm'
    split
    · exact hm
    · exact h old hold
  · obtain hm' | hm' := List.mem_append.mp hm'
    · exact h m' hm'
    · obtain rfl := List.mem_singleton.mp hm'
      exact hm

theorem distinctMembers_foldl (h : DistinctMembers members) :
    DistinctMembers (members.foldl insertMember []) := by
  induction members using List.reverseRecOn with
  | nil => exact h
  | append_singleton members m ih =>
    rw [distinctMembers_iff, List.forall_mem_append, ← distinctMembers_iff] at h
    rw [List.foldl_append]
    exact distinctMembers_insertMember (h.2 m List.mem_cons_self) (ih h.1)

mutual

theorem distinct_of_readValue (fuel : ℕ) (cs : List Char) {r : Json × List Char}
    (h : readValue fuel cs = some r) : r.1.Distinct := by
  match fuel with
  | 0 => contradiction
  | fuel + 1 =>
    rw [readValue] at h
    split at h
    · obtain rfl := Option.some.inj h
      trivial
    · obtain rfl := Option.some.inj h
      trivial
    · obtain rfl := Option.some.inj h
      trivial
    · obtain ⟨text, -, rfl⟩ := Option.map_eq_some_iff.mp h
      trivial
    · split at h
      · obtain rfl := Option.some.inj h
        trivial
      · obtain ⟨read, hread, rfl⟩ := Option.map_eq_some_iff.mp h
        exact distinct_of_readElements fuel _ hread
    · split at h
      · obtain rfl := Option.some.inj h
        exact ⟨List.nodup_nil, trivial⟩
      · obtain ⟨read, hread, rfl⟩ := Option.map_eq_some_iff.mp h
        exact ⟨nodup_foldl_insertMember read.1,
          distinctMembers_foldl (distinct_of_readMembers fuel _ hread)⟩
    · obtain ⟨number, -, rfl⟩ := Option.map_eq_some_iff.mp h
      trivial

theorem distinct_of_readElements (fuel : ℕ) (cs : List Char) {r : List Json × List Char}
    (h : readElements fuel cs = some r) : DistinctElements r.1 := by
  match fuel with
  | 0 => contradiction
  | fuel + 1 =>
    rw [readElements] at h
    obtain ⟨element, helement, h⟩ := Option.bind_eq_some_iff.mp h
    have hdistinct := distinct_of_readValue fuel _ helement
    split at h
    · obtain ⟨read, hread, rfl⟩ := Option.map_eq_some_iff.mp h
      exact ⟨hdistinct, distinct_of_readElements fuel _ hread⟩
    · obtain rfl := Option.some.inj h
      exact ⟨hdistinct, trivial⟩
    · contradiction

theorem distinct_of_readMembers (fuel : ℕ) (cs : List Char) {r : List (String × Json) × List Char}
    (h : readMembers fuel cs = some r) : DistinctMembers r.1 := by
  match fuel with
  | 0 => contradiction
  | fuel + 1 =>
    rw [readMembers] at h
    split at h
    · obtain ⟨key, -, h⟩ := Option.bind_eq_some_iff.mp h
      split at h
      · obtain ⟨value, hvalue, h⟩ := Option.bind_eq_some_iff.mp h
        have hdistinct := distinct_of_readValue fuel _ hvalue
        split at h
        · obtain ⟨read, hread, rfl⟩ := Option.map_eq_some_iff.mp h
          exact ⟨hdistinct, distinct_of_readMembers fuel _ hread⟩
        · obtain rfl := Option.some.inj h
          exact ⟨hdistinct, trivial⟩
        · contradiction
      · contradiction
    · contradiction

end

theorem distinct_of_parse? {text : String} (h : Json.parse? text = some value) :
    value.Distinct := by
  unfold Json.parse? at h
  obtain ⟨r, hread, hvalue⟩ := Option.bind_eq_some_iff.mp h
  split at hvalue
  · obtain rfl := Option.some.inj hvalue
    exact distinct_of_readValue _ _ hread
  · contradiction

end OpsFlow
