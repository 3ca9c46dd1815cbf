import BusDoc.OrderedMap

/-!
# TOML values

A value as a settings file holds it. A table remembers how it came about, because that decides
what may still be added to it.
-/

namespace BusDoc

/-- How a table came about. -/
inductive TableOrigin
  /-- It has a header of its own, or is the table of the whole document. -/
  | header
  /-- The header of a table below it names it. -/
  | implied
  /-- A dotted key names it. -/
  | dotted
  /-- It was written out as a value. -/
  | inline
  deriving DecidableEq, Repr

/-- A TOML value. -/
inductive Toml
  | text (value : String)
  | boolean (value : Bool)
  | integer (value : Int)
  /-- A number with a fraction or an exponent, an infinity or no number, as it is written. -/
  | decimal (literal : String)
  /-- A date, a time or both, as it is written. -/
  | date (literal : String)
  | array (items : List Toml)
  | table (origin : TableOrigin) (entries : List (String × Toml))
  /-- The tables that headers in double brackets make. -/
  | tables (elements : List (List (String × Toml)))
  deriving Repr, Inhabited

namespace Toml

/-- The text of a string. -/
def asText? : Toml → Option String
  | text s => some s
  | _ => none

/-- The truth value of a boolean. -/
def asBool? : Toml → Option Bool
  | boolean b => some b
  | _ => none

/-- The texts of an array of strings. -/
def asTexts? : Toml → Option (List String)
  | array items => items.mapM asText?
  | _ => none

/-- The value has no part. -/
def isEmpty : Toml → Bool
  | array items => items.isEmpty
  | table _ entries => entries.isEmpty
  | _ => false

/-- The name of an alternative without a value: a string, or a table whose only key has nothing
below it. -/
def asTag? : Toml → Option String
  | text s => some s
  | table _ [(k, v)] => if v.isEmpty then some k else none
  | _ => none

end Toml

end BusDoc
