import BusDoc.Json.Parser
import BusDoc.Text.Search
import BusDoc.Toml.Value

/-!
# Numbers and dates in TOML

Digits may be grouped by single underscores. Integers have 64 bits; a positive number with a
fraction or an exponent has to be in the range of binary floating point of that width. Dates and
times have to exist.
-/

namespace BusDoc.Toml

open Text Json

/-! ## Numbers -/

/-- No underscore stands at the end or beside another. -/
def isGrouped : List Char → Bool
  | [] => true
  | ['_'] => false
  | '_' :: '_' :: _ => false
  | _ :: s => isGrouped s

/-- The digits that a text starts with, at least one, without the underscores between them. -/
def groupedDigits? (isDigit : Char → Bool) (s : List Char) : Option (List Char × List Char) :=
  let run := s.takeWhile fun c => isDigit c || c == '_'
  if (run.head?.map isDigit).getD false && isGrouped run then
    some (run.filter (· ≠ '_'), s.dropWhile fun c => isDigit c || c == '_')
  else none

/-- The sign that a text starts with, if any, and the rest. -/
def signed (s : List Char) : Bool × List Char :=
  match s with
  | '+' :: rest => (false, rest)
  | '-' :: rest => (true, rest)
  | _ => (false, s)

/-- The whole part of a number: no zero in front of other digits. -/
def wholeDigits? (s : List Char) : Option (List Char × List Char) := do
  let (digits, rest) ← groupedDigits? isDigit s
  if digits.head? = some '0' ∧ digits.length > 1 then none else return (digits, rest)

/-- The least integer of 64 bits. -/
def minInteger : Int := -9223372036854775808

/-- The greatest integer of 64 bits. -/
def maxInteger : Int := 9223372036854775807

/-- The integer, if it has 64 bits. -/
def integer? (n : Int) : Option Toml :=
  if minInteger ≤ n ∧ n ≤ maxInteger then some (integer n) else none

/-- The number that digits stand for in a base. -/
def baseValue (base : Nat) (digits : List Char) : Nat :=
  digits.foldl (fun n c => n * base + (hexValue? c).getD 0) 0

/-- The letters of the bases that an integer may be written in, with the bases. -/
def bases : List (Char × Nat) := [('x', 16), ('o', 8), ('b', 2)]

/-- The integer behind a base letter, and the rest. -/
def basedInteger? (base : Nat) (s : List Char) : Option (Toml × List Char) := do
  let isDigit c := match hexValue? c with
    | some v => decide (v < base)
    | none => false
  let (digits, rest) ← groupedDigits? isDigit s
  return (← integer? (baseValue base digits), rest)

/-- The fraction that a text starts with, and the rest; no fraction if there is no point. -/
def fractionDigits? (s : List Char) : Option (List Char × List Char) :=
  match s with
  | '.' :: rest => groupedDigits? isDigit rest
  | _ => some ([], s)

/-- The exponent that a text starts with, if there is one, and the rest. -/
def exponentValue? (s : List Char) : Option (Option Int × List Char) :=
  match s with
  | [] => some (none, [])
  | e :: rest =>
    if e = 'e' ∨ e = 'E' then do
      let (negative, rest) := signed rest
      let (digits, rest) ← groupedDigits? isDigit rest
      let n : Int := digitsValue digits
      return (some (if negative then -n else n), rest)
    else some (none, s)

/-- The smallest number that is rounded to infinity in binary floating point of 64 bits: 54 binary
ones followed by 970 zeros. -/
def overflowBound : Nat := 18014398509481983 <<< 970

/-- The number of the digits, scaled by a power of ten, has a finite value in binary floating
point. -/
def isFinite (digits : List Char) (scale : Int) : Bool :=
  let significant := digits.dropWhile (· == '0')
  let size : Int := significant.length + scale
  if significant.isEmpty || size ≤ 308 then true
  else if size > 309 then false
  else
    let n := digitsValue significant
    if 0 ≤ scale then n * Nat.pow 10 scale.toNat < overflowBound
    else n < overflowBound * Nat.pow 10 (-scale).toNat

/-- The decimal number that a text starts with, and the rest. -/
def decimal? (s : List Char) : Option (Toml × List Char) := do
  let (negative, body) := signed s
  let (whole, rest) ← wholeDigits? body
  let (fraction, rest) ← fractionDigits? rest
  let (exponent, rest) ← exponentValue? rest
  if fraction.isEmpty ∧ exponent.isNone then
    let n : Int := digitsValue whole
    return (← integer? (if negative then -n else n), rest)
  else if negative ∨ isFinite (whole ++ fraction) (exponent.getD 0 - fraction.length) then
    return (decimal (String.ofList (s.take (s.length - rest.length))), rest)
  else none

/-- The words for numbers out of the ordinary, with or without a sign. -/
def numberWord? (s : List Char) : Option (Toml × List Char) :=
  let body := (signed s).2
  let rest? := (after? "inf".toList body).or (after? "nan".toList body)
  rest?.map fun rest => (decimal (String.ofList (s.take (s.length - rest.length))), rest)

/-- The number that a text starts with, and the rest. -/
def number? (s : List Char) : Option (Toml × List Char) :=
  match s with
  | '0' :: c :: rest =>
    match bases.find? fun b => b.1 = c with
    | some (_, base) => basedInteger? base rest
    | none => decimal? s
  | _ => (numberWord? s).or (decimal? s)

/-! ## Dates and times -/

/-- A number of `count` digits that lies between the bounds, and the rest. -/
def field? (count low high : Nat) (s : List Char) : Option (Nat × List Char) :=
  let digits := s.take count
  let n := digitsValue digits
  if digits.length = count ∧ digits.all isDigit ∧ low ≤ n ∧ n ≤ high then
    some (n, s.drop count)
  else none

/-- The year has a 29th of February. -/
def isLeapYear (year : Nat) : Bool := year % 4 == 0 && (year % 100 != 0 || year % 400 == 0)

/-- The number of days of a month. -/
def daysOfMonth (year month : Nat) : Nat :=
  if month = 2 then if isLeapYear year then 29 else 28
  else if month = 4 ∨ month = 6 ∨ month = 9 ∨ month = 11 then 30
  else 31

/-- What follows a day that exists. -/
def afterDay? (s : List Char) : Option (List Char) := do
  let (year, s) ← field? 4 0 9999 s
  let (month, s) ← (after? ['-'] s).bind (field? 2 1 12)
  let (_, s) ← (after? ['-'] s).bind (field? 2 1 (daysOfMonth year month))
  return s

/-- What follows a fraction of a second, which may be missing. -/
def afterSecondFraction? (s : List Char) : Option (List Char) :=
  match s with
  | '.' :: rest => (digits? rest).map Prod.snd
  | _ => some s

/-- What follows a time of day. -/
def afterTime? (s : List Char) : Option (List Char) := do
  let (_, s) ← field? 2 0 23 s
  let (_, s) ← (after? [':'] s).bind (field? 2 0 59)
  let (_, s) ← (after? [':'] s).bind (field? 2 0 60)
  afterSecondFraction? s

/-- What follows the distance from universal time, which may be missing. -/
def afterOffset? (s : List Char) : Option (List Char) :=
  match s with
  | [] => some []
  | c :: rest =>
    if c = 'Z' ∨ c = 'z' then some rest
    else if c = '+' ∨ c = '-' then do
      let (_, rest) ← field? 2 0 23 rest
      let (_, rest) ← (after? [':'] rest).bind (field? 2 0 59)
      return rest
    else some s

/-- What follows a day, or a day and a time with or without its distance from universal time. -/
def afterDate? (s : List Char) : Option (List Char) := do
  let s ← afterDay? s
  match s with
  | c :: rest =>
    if c = 'T' ∨ c = 't' ∨ c = ' ' then
      match afterTime? rest with
      | some rest => afterOffset? rest
      | none => return s
    else return s
  | [] => return []

/-- The date or time that a text starts with, and the rest. -/
def date? (s : List Char) : Option (Toml × List Char) :=
  ((afterDate? s).or (afterTime? s)).map fun rest =>
    (date (String.ofList (s.take (s.length - rest.length))), rest)

end BusDoc.Toml
