import BusDoc.Json.Value

/-!
# Reading JSON

A reader for the whole format. Every step takes at least one character from the text, so the
length of the text bounds the run; `Json.parse?` gives the readers as many steps as they can need.
-/

namespace BusDoc.Json

/-- The blanks that may stand between the parts of a value. -/
def isSpace (c : Char) : Bool := c == ' ' || c == '\t' || c == '\n' || c == '\r'

/-- The text without the blanks it starts with. -/
def skipSpace (s : List Char) : List Char := s.dropWhile isSpace

/-! ## Strings -/

/-- The value of a hexadecimal digit. -/
def hexValue? (c : Char) : Option Nat :=
  if '0' ≤ c ∧ c ≤ '9' then some (c.toNat - 48)
  else if 'a' ≤ c ∧ c ≤ 'f' then some (c.toNat - 87)
  else if 'A' ≤ c ∧ c ≤ 'F' then some (c.toNat - 55)
  else none

/-- The number of four hexadecimal digits. -/
def hex4? (a b c d : Char) : Option Nat := do
  let a ← hexValue? a
  let b ← hexValue? b
  let c ← hexValue? c
  let d ← hexValue? d
  return ((a * 16 + b) * 16 + c) * 16 + d

/-- The code point of an escape with a letter. -/
def letterEscape? : Char → Option Nat
  | '"' => some 34
  | '\\' => some 92
  | '/' => some 47
  | 'b' => some 8
  | 'f' => some 12
  | 'n' => some 10
  | 'r' => some 13
  | 't' => some 9
  | _ => none

/-- The code points and surrogates of a string up to its closing quote, and the rest. -/
def stringUnits? : List Char → Option (List Nat × List Char)
  | [] => none
  | '"' :: s => some ([], s)
  | '\\' :: 'u' :: a :: b :: c :: d :: s => do
    let unit ← hex4? a b c d
    let (units, rest) ← stringUnits? s
    return (unit :: units, rest)
  | '\\' :: e :: s => do
    let unit ← letterEscape? e
    let (units, rest) ← stringUnits? s
    return (unit :: units, rest)
  | c :: s =>
    if c = '\\' ∨ c.toNat < 0x20 then none
    else do
      let (units, rest) ← stringUnits? s
      return (c.toNat :: units, rest)

/-- The first half of a surrogate pair. -/
def isHighSurrogate (n : Nat) : Bool := 0xD800 ≤ n && n < 0xDC00

/-- The second half of a surrogate pair. -/
def isLowSurrogate (n : Nat) : Bool := 0xDC00 ≤ n && n < 0xE000

/-- The text of a list of code points and surrogates, if the surrogates come in pairs. -/
def textOfUnits? : List Nat → Option (List Char)
  | [] => some []
  | [n] => if isHighSurrogate n || isLowSurrogate n then none else some [Char.ofNat n]
  | n :: m :: rest =>
    if isHighSurrogate n then
      if isLowSurrogate m then
        (textOfUnits? rest).map
          (Char.ofNat (0x10000 + (n - 0xD800) * 0x400 + (m - 0xDC00)) :: ·)
      else none
    else if isLowSurrogate n then none
    else (textOfUnits? (m :: rest)).map (Char.ofNat n :: ·)

/-- The text of a string up to its closing quote, if it denotes one, and the rest. -/
def stringBody? (s : List Char) : Option (Option String × List Char) := do
  let (units, rest) ← stringUnits? s
  return ((textOfUnits? units).map String.ofList, rest)

/-! ## Numbers -/

/-- A digit. -/
def isDigit (c : Char) : Bool := '0' ≤ c && c ≤ '9'

/-- The number of a list of digits. -/
def digitsValue (digits : List Char) : Nat :=
  digits.foldl (fun n c => n * 10 + (c.toNat - 48)) 0

/-- The digits that a text starts with, at least one, and the rest. -/
def digits? (s : List Char) : Option (List Char × List Char) :=
  let digits := s.takeWhile isDigit
  if digits.isEmpty then none else some (digits, s.dropWhile isDigit)

/-- The integer part of a number: no zero in front of other digits. -/
def wholePart? (s : List Char) : Option (List Char × List Char) := do
  match s with
  | '0' :: rest => return (['0'], rest)
  | _ => digits? s

/-- The fraction that a text starts with, which may be missing. -/
def fraction? (s : List Char) : Option (List Char × List Char) :=
  match s with
  | '.' :: rest => (digits? rest).map fun (ds, rest) => ('.' :: ds, rest)
  | _ => some ([], s)

/-- The sign of an exponent, which may be missing. -/
def exponentSign (s : List Char) : List Char × List Char :=
  match s with
  | '+' :: rest => (['+'], rest)
  | '-' :: rest => (['-'], rest)
  | _ => ([], s)

/-- The exponent that a text starts with, which may be missing. -/
def exponent? (s : List Char) : Option (List Char × List Char) :=
  match s with
  | [] => some ([], [])
  | e :: rest =>
    if e = 'e' ∨ e = 'E' then
      let (sign, rest) := exponentSign rest
      (digits? rest).map fun (ds, rest) => (e :: sign ++ ds, rest)
    else some ([], s)

/-- The number that a text starts with, and the rest. -/
def number? (s : List Char) : Option (Json × List Char) := do
  let (sign, s) := match s with
    | '-' :: rest => (['-'], rest)
    | _ => ([], s)
  let (whole, s) ← wholePart? s
  let (fraction, s) ← fraction? s
  let (exponent, s) ← exponent? s
  let negative := !sign.isEmpty
  if fraction.isEmpty && exponent.isEmpty && !(negative && whole = ['0']) then
    let n : Int := digitsValue whole
    return (integer (if negative then -n else n), s)
  else return (decimal (String.ofList (sign ++ whole ++ fraction ++ exponent)), s)

/-! ## Values -/

/-- The value of a word that a text starts with, and the rest. -/
def word? : List Char → Option (Json × List Char)
  | 'n' :: 'u' :: 'l' :: 'l' :: s => some (null, s)
  | 't' :: 'r' :: 'u' :: 'e' :: s => some (bool true, s)
  | 'f' :: 'a' :: 'l' :: 's' :: 'e' :: s => some (bool false, s)
  | _ => none

/-- An object of the members read, if all their names denote a text. -/
def objectOf (members : List (Option String × Json)) : Json :=
  match members.mapM fun (k, v) => k.map fun k => (k, v) with
  | some ms => object ms
  | none => unreadable

mutual

/-- The value that a text starts with, and the rest, read in at most `fuel` steps. -/
def value? : (fuel : Nat) → List Char → Option (Json × List Char)
  | 0, _ => none
  | fuel + 1, s =>
    match skipSpace s with
    | '"' :: rest => do
      let (body, rest) ← stringBody? rest
      match body with
      | some t => return (text t, rest)
      | none => return (unreadable, rest)
    | '[' :: rest =>
      match skipSpace rest with
      | ']' :: rest => some (array [], rest)
      | _ => do
        let (vs, rest) ← items? fuel rest
        return (array vs, rest)
    | '\x7b' :: rest =>
      match skipSpace rest with
      | '\x7d' :: rest => some (object [], rest)
      | _ => do
        let (ms, rest) ← members? fuel rest
        return (objectOf ms, rest)
    | '-' :: rest => number? ('-' :: rest)
    | c :: rest => if isDigit c then number? (c :: rest) else word? (c :: rest)
    | [] => none

/-- One item of an array or more, up to the closing bracket. -/
def items? : (fuel : Nat) → List Char → Option (List Json × List Char)
  | 0, _ => none
  | fuel + 1, s => do
    let (v, rest) ← value? fuel s
    match skipSpace rest with
    | ',' :: rest => do
      let (vs, rest) ← items? fuel rest
      return (v :: vs, rest)
    | ']' :: rest => return ([v], rest)
    | _ => none

/-- One member of an object or more, up to the closing brace. -/
def members? : (fuel : Nat) → List Char → Option (List (Option String × Json) × List Char)
  | 0, _ => none
  | fuel + 1, s =>
    match skipSpace s with
    | '"' :: rest => do
      let (k, rest) ← stringBody? rest
      match skipSpace rest with
      | ':' :: rest => do
        let (v, rest) ← value? fuel rest
        match skipSpace rest with
        | ',' :: rest => do
          let (ms, rest) ← members? fuel rest
          return ((k, v) :: ms, rest)
        | '\x7d' :: rest => return ([(k, v)], rest)
        | _ => none
      | _ => none
    | _ => none

end

/-- The value that a text is, blanks around it aside. -/
def parse? (s : String) : Option Json := do
  let (v, rest) ← value? (2 * s.toList.length + 2) s.toList
  if (skipSpace rest).isEmpty then return v else none

end BusDoc.Json
