import OpsFlow.Values

namespace OpsFlow.Contracts

/-! ## Shapes: one character class for each character -/

def fits : List (Char → Bool) → List Char → Bool
  | [], [] => true
  | p :: ps, c :: cs => p c && fits ps cs
  | _, _ => false

def digit (c : Char) : Bool := '0' ≤ c ∧ c ≤ '9'

/-- `[0-9a-f]`, in either case. -/
def hex (c : Char) : Bool := (hexDigit? c).isSome

def is (d c : Char) : Bool := c = d

def anyCase (d c : Char) : Bool := c = d ∨ c = d.toUpper

/-- Groups of 8, 4, 4, 4 and 12 hexadecimal digits; the version is a digit of its own, and so is the
variant. -/
def uuidShape (version variant : Char → Bool) : List (Char → Bool) :=
  List.replicate 8 hex ++ is '-' :: (List.replicate 4 hex ++ is '-' :: version ::
    (List.replicate 3 hex ++ is '-' :: variant :: (List.replicate 3 hex ++ is '-' ::
      List.replicate 12 hex)))

/-! ## The text of a date and time -/

def decimal? (cs : List Char) : Option ℕ :=
  if cs ≠ [] ∧ cs.all digit then
    some (cs.foldl (fun value c => 10 * value + (c.toNat - '0'.toNat)) 0)
  else none

inductive Offset
  | utc
  | shifted (negative : Bool) (hours minutes : ℕ)
  deriving DecidableEq

/-- What the production `date-time` of RFC 3339 is made of. -/
structure DateTimeText where
  year : ℕ
  month : ℕ
  day : ℕ
  hour : ℕ
  minute : ℕ
  second : ℕ
  fraction : List Char
  offset : Offset
  deriving DecidableEq

def readFraction : List Char → Option (List Char × List Char)
  | '.' :: cs =>
    if cs.takeWhile digit = [] then none else some (cs.takeWhile digit, cs.dropWhile digit)
  | cs => some ([], cs)

def readOffset : List Char → Option Offset
  | [z] => if z = 'Z' ∨ z = 'z' then some .utc else none
  | [sign, h₁, h₂, ':', m₁, m₂] => do
    let hours ← decimal? [h₁, h₂]
    let minutes ← decimal? [m₁, m₂]
    if sign = '+' then some (.shifted false hours minutes)
    else if sign = '-' then some (.shifted true hours minutes)
    else none
  | _ => none

def readDateTime : List Char → Option DateTimeText
  | y₁ :: y₂ :: y₃ :: y₄ :: '-' :: m₁ :: m₂ :: '-' :: d₁ :: d₂ :: t :: h₁ :: h₂ :: ':' :: n₁ ::
      n₂ :: ':' :: s₁ :: s₂ :: rest => do
    let year ← decimal? [y₁, y₂, y₃, y₄]
    let month ← decimal? [m₁, m₂]
    let day ← decimal? [d₁, d₂]
    let hour ← decimal? [h₁, h₂]
    let minute ← decimal? [n₁, n₂]
    let second ← decimal? [s₁, s₂]
    let (fraction, zone) ← readFraction rest
    let offset ← readOffset zone
    if t = 'T' ∨ t = 't' then some ⟨year, month, day, hour, minute, second, fraction, offset⟩
    else none
  | _ => none

def isLeapYear (year : ℕ) : Bool := year % 4 = 0 ∧ (year % 100 ≠ 0 ∨ year % 400 = 0)

def daysInMonth (year month : ℕ) : ℕ :=
  if month = 2 then (if isLeapYear year then 29 else 28)
  else [0, 31, 28, 31, 30, 31, 30, 31, 31, 30, 31, 30, 31].getD month 0

/-- Minutes east of UTC. -/
def Offset.minutesEast : Offset → ℤ
  | .utc => 0
  | .shifted negative hours minutes =>
    if negative then -((60 * hours + minutes : ℕ) : ℤ) else (60 * hours + minutes : ℕ)

def Offset.inRange : Offset → Bool
  | .utc => true
  | .shifted _ hours minutes => hours ≤ 23 ∧ minutes ≤ 59

/-- The rules of RFC 3339 beyond its grammar: a second numbered 60 ends a day of UTC. -/
def DateTimeText.valid (t : DateTimeText) : Bool :=
  1 ≤ t.month ∧ t.month ≤ 12 ∧ 1 ≤ t.day ∧ t.day ≤ daysInMonth t.year t.month ∧ t.hour ≤ 23 ∧
    t.minute ≤ 59 ∧ t.offset.inRange = true ∧
    (t.second ≤ 59 ∨ (t.second = 60 ∧
      ((60 * t.hour + t.minute : ℕ) - t.offset.minutesEast) % 1440 = 1439))

/-! ## The formats, as their RFCs define them -/

inductive Format
  | uuid
  | dateTime

def rfcFormat : Format → String → Bool
  | .uuid, s => fits (uuidShape hex hex) s.toList
  | .dateTime, s => (readDateTime s.toList).any DateTimeText.valid

/-! ## The formats of ajv-formats -/

/-- ECMAScript's `\s`, which is also what `trim` removes. -/
def jsSpace (c : Char) : Bool :=
  c ∈ [' ', '\t', '\n', '\x0b', '\x0c', '\r', '\ufeff'] ∨
    (c.toNat ∈ wideSpaces ∧ c.toNat ≠ 0x85)

def ajvDate (cs : List Char) : Bool :=
  match cs with
  | [y₁, y₂, y₃, y₄, '-', m₁, m₂, '-', d₁, d₂] =>
    match decimal? [y₁, y₂, y₃, y₄], decimal? [m₁, m₂], decimal? [d₁, d₂] with
    | some year, some month, some day =>
      1 ≤ month ∧ month ≤ 12 ∧ 1 ≤ day ∧ day ≤ daysInMonth year month
    | _, _, _ => false
  | _ => false

/-- The sign, the hours and the minutes of a time zone; there must be one. -/
def ajvZone : List Char → Option (ℤ × ℕ × ℕ)
  | [z] => if z = 'z' ∨ z = 'Z' then some (1, 0, 0) else none
  | sign :: h₁ :: h₂ :: minutes => do
    let hours ← decimal? [h₁, h₂]
    let minutes ← match minutes with
      | [] => some 0
      | [m₁, m₂] | [':', m₁, m₂] => decimal? [m₁, m₂]
      | _ => none
    if sign = '+' then some (1, hours, minutes)
    else if sign = '-' then some (-1, hours, minutes)
    else none
  | _ => none

/-- `sec < bound`, where `sec` is the double next to the decimal number that the text denotes; the
doubles between 32 and 64 are 2⁻⁴⁷ apart. -/
def secondsBelow (bound second : ℕ) (fraction : List Char) : Bool :=
  (second : ℚ) + ((decimal? fraction).getD 0 : ℕ) / 10 ^ fraction.length < bound - 1 / 2 ^ 48

def ajvTime (cs : List Char) : Bool :=
  match cs with
  | h₁ :: h₂ :: ':' :: m₁ :: m₂ :: ':' :: s₁ :: s₂ :: rest =>
    match decimal? [h₁, h₂], decimal? [m₁, m₂], decimal? [s₁, s₂],
        (readFraction rest).bind fun r => (ajvZone r.2).map (r.1, ·) with
    | some hr, some min, some sec, some (fraction, tzSign, tzH, tzM) =>
      if tzH > 23 ∨ tzM > 59 then false
      else if hr ≤ 23 ∧ min ≤ 59 ∧ secondsBelow 60 sec fraction then true
      else
        -- a leap second
        let utcMin : ℤ := min - tzM * tzSign
        let utcHr : ℤ := hr - tzH * tzSign - (if utcMin < 0 then 1 else 0)
        (utcHr = 23 ∨ utcHr = -1) ∧ (utcMin = 59 ∨ utcMin = -1) ∧ secondsBelow 61 sec fraction
    | _, _, _, _ => false
  | _ => false

def ajvFormat : Format → String → Bool
  | .uuid, s =>
    fits (uuidShape hex hex) s.toList ||
      fits ("urn:uuid:".toList.map anyCase ++ uuidShape hex hex) s.toList
  | .dateTime, s =>
    match s.toList.splitOnP fun c => c = 't' ∨ c = 'T' ∨ jsSpace c with
    | [date, time] => ajvDate date && ajvTime time
    | _ => false

/-! ## The formats of Python's jsonschema, without the packages that it asks for date and time -/

def jsonschemaFormat : Format → String → Bool
  | .uuid, s =>
    (Uuid.parse? s).isSome && [8, 13, 18, 23].all fun position => s.toList[position]? = some '-'
  | .dateTime, _ => true

end OpsFlow.Contracts
