import OpsFlow.Values
import OpsFlow.Library.Separated

/-! Python's `urlsplit`, up to the scheme and the authority, for the texts of HTTP headers: their
characters are below U+0100. -/

namespace OpsFlow.UrlSplit
open Separated

/-! ## IP addresses -/

def parseOctet (octetStr : List Char) : Option ℕ :=
  if octetStr = [] then none
  else if ¬octetStr.all Char.isDigit then none
  else if octetStr.length > 3 then none
  else if octetStr ≠ ['0'] ∧ octetStr.head? = some '0' then none
  else
    let octetInt := octetStr.foldl (fun value c => 10 * value + (c.toNat - '0'.toNat)) 0
    if octetInt > 255 then none else some octetInt

def ipv4Address (address : List Char) : Option ℕ :=
  let octets := address.splitOn '.'
  if '/' ∈ address ∨ octets.length ≠ 4 then none
  else (octets.mapM parseOctet).map fun values =>
    values.foldl (fun ip octet => ip <<< 8 ||| octet) 0

def parseHextet (hextetStr : List Char) : Option ℕ :=
  if hextetStr = [] ∨ hextetStr.length > 4 then none else hexValue? hextetStr

/-- A dotted quad at the end stands for two hextets. -/
def expandIpv4Suffix (parts : List (List Char)) : Option (List (List Char)) :=
  let suffix := parts.getLastD []
  if '.' ∈ suffix then
    (ipv4Address suffix).map fun ip =>
      parts.dropLast ++ [Nat.toDigits 16 (ip >>> 16 &&& 0xFFFF), Nat.toDigits 16 (ip &&& 0xFFFF)]
  else some parts

def skipIndices (parts : List (List Char)) : List ℕ :=
  (List.range parts.length).filter fun i =>
    1 ≤ i ∧ i + 1 < parts.length ∧ parts.getD i [] = []

/-- How many parts are copied from above and from below the run of zeros that is left out. -/
def partsAround (parts : List (List Char)) : Option (ℕ × ℕ) :=
  let openStart := parts.head? = some []
  let openEnd := parts.getLast? = some []
  match skipIndices parts with
  | [] => if parts.length ≠ 8 ∨ openStart ∨ openEnd then none else some (8, 0)
  | [skipIndex] =>
    let above := skipIndex - if openStart then 1 else 0
    let below := parts.length - skipIndex - 1 - if openEnd then 1 else 0
    if openStart ∧ above ≠ 0 ∨ openEnd ∧ below ≠ 0 ∨ 8 ≤ above + below then none
    else some (above, below)
  | _ => none

def ipv6Address (address : List Char) : Option ℕ := do
  let (ipStr, scopeId) := partition '%' address
  if '/' ∈ address ∨ scopeId = some [] ∨ '%' ∈ scopeId.getD [] ∨ ipStr = [] then none
  else
    let parts := ipStr.splitOn ':'
    if parts.length < 3 then none
    else
      let parts ← expandIpv4Suffix parts
      if parts.length > 9 then none
      else
        let (above, below) ← partsAround parts
        let high ← (parts.take above).mapM parseHextet
        let low ← (parts.drop (parts.length - below)).mapM parseHextet
        let ip := high.foldl (fun ip hextet => ip <<< 16 ||| hextet) 0
        some (low.foldl (fun ip hextet => ip <<< 16 ||| hextet)
          (ip <<< (16 * (8 - (above + below)))))

/-! ## What is refused -/

/-- Each stands for a `ValueError`. -/
inductive UrlError
  | invalidIpv6Url
  | invalidIpvFuture
  | ipv4InBrackets
  | noIpAddress
  | invalidCharacters
  deriving DecidableEq

/-- `\Av[a-fA-F0-9]+\..+\Z` -/
def isIpvFuture : List Char → Bool
  | 'v' :: cs =>
    match cs.dropWhile fun c => (hexDigit? c).isSome with
    | '.' :: address => cs.head? ≠ some '.' ∧ address ≠ [] ∧ '\n' ∉ address
    | _ => false
  | _ => false

def checkBracketedHost (hostname : List Char) : Except UrlError Unit :=
  if hostname.head? = some 'v' then
    if isIpvFuture hostname then .ok () else .error .invalidIpvFuture
  else if (ipv4Address hostname).isSome then .error .ipv4InBrackets
  else if (ipv6Address hostname).isSome then .ok ()
  else .error .noIpAddress

def checkBracketedNetloc (netloc : List Char) : Except UrlError Unit :=
  let hostnameAndPort := netloc.rtakeWhile (· ≠ '@')
  match partition '[' hostnameAndPort with
  | (beforeBracket, some bracketed) =>
    let (hostname, port) := partition ']' bracketed
    if beforeBracket ≠ [] ∨ (port.bind List.head?).any (· ≠ ':') then .error .invalidIpv6Url
    else checkBracketedHost hostname
  | (_, none) => checkBracketedHost (partition ':' hostnameAndPort).1

/-- The characters below U+0100 that NFKC changes, and their expansions. -/
def expansions : List (ℕ × List Char) :=
  [(0xA0, [' ']), (0xA8, [' ', '\u0308']), (0xAA, ['a']), (0xAF, [' ', '\u0304']), (0xB2, ['2']),
    (0xB3, ['3']), (0xB4, [' ', '\u0301']), (0xB5, ['\u03BC']), (0xB8, [' ', '\u0327']),
    (0xB9, ['1']), (0xBA, ['o']), (0xBC, ['1', '\u2044', '4']), (0xBD, ['1', '\u2044', '2']),
    (0xBE, ['3', '\u2044', '4'])]

/-- `unicodedata.normalize("NFKC", text)`; below U+0100 no character changes with its neighbours. -/
def nfkc (text : List Char) : List Char :=
  text.flatMap fun c => (expansions.lookup c.toNat).getD [c]

def checkNetloc (netloc : List Char) : Except UrlError Unit :=
  if netloc.all (·.toNat < 128) then .ok ()
  else
    let n := netloc.filter (· ∉ ['@', ':', '#', '?'])
    let netloc2 := nfkc n
    if n = netloc2 then .ok ()
    else if ['/', '?', '#', '@', ':'].any (· ∈ netloc2) then .error .invalidCharacters
    else .ok ()

/-! ## Scheme and authority -/

def isSchemeChar (c : Char) : Bool := c.isAlphanum ∨ c ∈ ['+', '-', '.']

def isDelimiter (c : Char) : Bool := c ∈ ['/', '?', '#']

/-- The text without leading control characters and spaces, and without tabs and line ends. -/
def cleaned (url : List Char) : List Char :=
  (url.dropWhile (·.toNat ≤ 0x20)).filter (· ∉ ['\t', '\r', '\n'])

def splitScheme (url : List Char) : List Char × List Char :=
  match partition ':' url with
  | (name, some rest) =>
    if name.head?.any Char.isAlpha ∧ name.all isSchemeChar then (name.map Char.toLower, rest)
    else ([], url)
  | (_, none) => ([], url)

structure SplitResult where
  scheme : String
  netloc : String
  deriving DecidableEq

def urlsplit (url : String) : Except UrlError SplitResult :=
  let (scheme, rest) := splitScheme (cleaned url.toList)
  match rest with
  | '/' :: '/' :: tail => do
    let netloc := tail.takeWhile (¬isDelimiter ·)
    if ¬('[' ∈ netloc ↔ ']' ∈ netloc) then .error .invalidIpv6Url
    else
      if '[' ∈ netloc then checkBracketedNetloc netloc
      checkNetloc netloc
      .ok ⟨String.ofList scheme, String.ofList netloc⟩
  | _ => .ok ⟨String.ofList scheme, ""⟩

/-! ## What a text names -/

/-- A letter, and letters, digits, plus signs, hyphens and dots after it. -/
def SchemeName (name : List Char) : Prop :=
  (∃ c ∈ name.head?, c.isAlpha = true) ∧ ∀ c ∈ name, isSchemeChar c = true

/-- The authority is what stands before the first delimiter. -/
def Leads (authority tail : List Char) : Prop :=
  (∀ c ∈ authority, isDelimiter c = false) ∧
    ∃ rest, tail = authority ++ rest ∧ ∀ c ∈ rest.head?, isDelimiter c = true

/-- The text names an authority after two slashes, and a scheme before them or none. -/
inductive Names : (text scheme authority : List Char) → Prop
  | authority {authority tail : List Char} (h : Leads authority tail) :
      Names ('/' :: '/' :: tail) [] authority
  | origin {name authority tail : List Char} (hname : SchemeName name) (h : Leads authority tail) :
      Names (name ++ ':' :: '/' :: '/' :: tail) (name.map Char.toLower) authority

/-- Brackets stand around an address of version 6, or of a future one, if there are any. -/
def BracketsValid (authority : List Char) : Prop :=
  ('[' ∈ authority ↔ ']' ∈ authority) ∧
    ('[' ∈ authority → checkBracketedNetloc authority = .ok ())

variable {name rest tail text scheme authority netloc : List Char} {url : String} {c d : Char}

theorem leads_iff : Leads authority tail ↔ authority = tail.takeWhile (¬isDelimiter ·) := by
  constructor
  · rintro ⟨hauthority, rest, rfl, hrest⟩
    have hrun : ∀ c ∈ authority, decide (¬isDelimiter c) = true := by simpa using hauthority
    cases rest with
    | nil => rw [List.append_nil, List.takeWhile_eq_self_iff.mpr hrun]
    | cons c rest => rw [takeWhile_append_cons hrun (by simp [hrest c rfl])]
  · rintro rfl
    refine ⟨fun c hc => ?_, tail.dropWhile (¬isDelimiter ·),
      List.takeWhile_append_dropWhile.symm, ?_⟩
    · simpa using List.mem_takeWhile_imp hc
    · intro c hc
      have hnot := List.head?_dropWhile_not (¬isDelimiter ·) tail
      rw [Option.mem_def.mp hc] at hnot
      simpa using hnot

theorem notMem_of_schemeName (h : SchemeName name) : ':' ∉ name := by
  intro hmem
  exact absurd (h.2 _ hmem) (by decide)

theorem splitScheme_name (h : SchemeName name) :
    splitScheme (name ++ ':' :: rest) = (name.map Char.toLower, rest) := by
  unfold splitScheme
  rw [partition_append (notMem_of_schemeName h)]
  obtain ⟨⟨c, hc, halpha⟩, hall⟩ := h
  have hhead : name.head?.any Char.isAlpha = true := by
    rw [Option.mem_def.mp hc]
    exact halpha
  exact if_pos ⟨hhead, List.all_eq_true.mpr hall⟩

/-- Either the text begins with a scheme and a colon, or the whole of it is left over. -/
theorem splitScheme_cases (text : List Char) :
    (∃ name rest, SchemeName name ∧ text = name ++ ':' :: rest) ∨
      splitScheme text = ([], text) := by
  obtain ⟨-, hparts⟩ | ⟨name, rest, -, rfl, hparts⟩ := partition_cases ':' text
  · right
    rw [splitScheme, hparts]
  · by_cases hname : name.head?.any Char.isAlpha ∧ name.all isSchemeChar
    · left
      refine ⟨name, rest, ⟨?_, List.all_eq_true.mp hname.2⟩, rfl⟩
      simpa [Option.any_eq_true] using hname.1
    · right
      rw [splitScheme, hparts]
      exact if_neg hname

theorem splitScheme_slashes (tail : List Char) :
    splitScheme ('/' :: '/' :: tail) = ([], '/' :: '/' :: tail) := by
  obtain ⟨name, rest, hname, heq⟩ | h := splitScheme_cases ('/' :: '/' :: tail)
  · obtain ⟨⟨c, hc, halpha⟩, -⟩ := hname
    cases name with
    | nil => simp at hc
    | cons d name =>
      obtain rfl : d = c := by simpa using hc
      obtain ⟨rfl, -⟩ := List.cons.inj heq
      exact absurd halpha (by decide)
  · exact h

theorem names_iff : Names text scheme authority ↔
    (splitScheme text).1 = scheme ∧ ∃ tail, (splitScheme text).2 = '/' :: '/' :: tail ∧
      authority = tail.takeWhile (¬isDelimiter ·) := by
  constructor
  · intro h
    cases h with
    | authority h =>
      rw [splitScheme_slashes]
      exact ⟨rfl, _, rfl, leads_iff.mp h⟩
    | origin hname h =>
      rw [splitScheme_name hname]
      exact ⟨rfl, _, rfl, leads_iff.mp h⟩
  · rintro ⟨rfl, tail, htail, hauthority⟩
    have hleads := leads_iff.mpr hauthority
    obtain ⟨name, rest, hname, rfl⟩ | hnone := splitScheme_cases text
    · rw [splitScheme_name hname] at htail ⊢
      obtain rfl : rest = '/' :: '/' :: tail := htail
      exact .origin hname hleads
    · rw [hnone] at htail ⊢
      obtain rfl : text = '/' :: '/' :: tail := htail
      exact .authority hleads

/-- A text names one scheme and one authority at most. -/
theorem Names.unique {scheme' authority' : List Char} (h : Names text scheme authority)
    (h' : Names text scheme' authority') : scheme = scheme' ∧ authority = authority' := by
  obtain ⟨rfl, tail, htail, rfl⟩ := names_iff.mp h
  obtain ⟨rfl, tail', htail', rfl⟩ := names_iff.mp h'
  rw [htail] at htail'
  obtain rfl : tail = tail' := (List.cons.inj (List.cons.inj htail').2).2
  exact ⟨rfl, rfl⟩

/-! ## No character expands to a delimiter -/

theorem notMem_expansions :
    ∀ entry ∈ expansions, ∀ d ∈ ['/', '?', '#', '@', ':'], d ∉ entry.2 := by
  decide

theorem mem_of_mem_nfkc (hd : d ∈ ['/', '?', '#', '@', ':']) (h : d ∈ nfkc text) : d ∈ text := by
  obtain ⟨c, hc, hdc⟩ := List.mem_flatMap.mp h
  cases hlookup : expansions.lookup c.toNat with
  | none =>
    rw [hlookup] at hdc
    obtain rfl : d = c := List.mem_singleton.mp hdc
    exact hc
  | some expansion =>
    rw [hlookup] at hdc
    obtain ⟨before, after, htable, -⟩ := List.lookup_eq_some_iff.mp hlookup
    have hmem : (c.toNat, expansion) ∈ expansions := by
      rw [htable]
      exact List.mem_append_right before List.mem_cons_self
    exact absurd hdc (notMem_expansions _ hmem d hd)

theorem checkNetloc_of_leads (h : ∀ c ∈ netloc, isDelimiter c = false) :
    checkNetloc netloc = .ok () := by
  unfold checkNetloc
  dsimp only
  split_ifs with hascii hsame hany
  · rfl
  · rfl
  · obtain ⟨d, hd, hmem⟩ := List.any_eq_true.mp hany
    obtain ⟨hnetloc, hkept⟩ := List.mem_filter.mp (mem_of_mem_nfkc hd (of_decide_eq_true hmem))
    have hdelimiter := h d hnetloc
    simp only [isDelimiter] at hdelimiter
    grind
  · rfl

/-! ## What `urlsplit` does with a text -/

theorem urlsplit_of_names (h : Names (cleaned url.toList) scheme authority)
    (hvalid : BracketsValid authority) :
    urlsplit url = .ok ⟨String.ofList scheme, String.ofList authority⟩ := by
  obtain ⟨rfl, tail, htail, hauthority⟩ := names_iff.mp h
  have hchecked := checkNetloc_of_leads (leads_iff.mpr hauthority).1
  unfold urlsplit
  simp only [htail, ← hauthority]
  rw [if_neg (not_not.mpr hvalid.1)]
  by_cases hopen : '[' ∈ authority
  · rw [if_pos hopen, hvalid.2 hopen, hchecked]
    rfl
  · rw [if_neg hopen, hchecked]
    rfl

theorem urlsplit_of_not_bracketsValid (h : Names (cleaned url.toList) scheme authority)
    (hvalid : ¬BracketsValid authority) : ∃ e, urlsplit url = .error e := by
  obtain ⟨rfl, tail, htail, hauthority⟩ := names_iff.mp h
  unfold urlsplit
  simp only [htail, ← hauthority]
  by_cases hboth : '[' ∈ authority ↔ ']' ∈ authority
  · rw [if_neg (not_not.mpr hboth)]
    by_cases hopen : '[' ∈ authority
    · rw [if_pos hopen]
      cases hcheck : checkBracketedNetloc authority with
      | error e => exact ⟨e, rfl⟩
      | ok => exact absurd ⟨hboth, fun _ => hcheck⟩ hvalid
    · exact absurd ⟨hboth, fun hmem => absurd hmem hopen⟩ hvalid
  · rw [if_pos hboth]
    exact ⟨_, rfl⟩

theorem urlsplit_of_not_names
    (h : ∀ scheme authority, ¬Names (cleaned url.toList) scheme authority) :
    ∃ scheme, urlsplit url = .ok ⟨scheme, ""⟩ := by
  unfold urlsplit
  split
  next scheme rest hsplit =>
    split
    next tail =>
      exact absurd (names_iff.mpr ⟨rfl, tail, by rw [hsplit], rfl⟩) (h _ _)
    next => exact ⟨_, rfl⟩

end OpsFlow.UrlSplit
