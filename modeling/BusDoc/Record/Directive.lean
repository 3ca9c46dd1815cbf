import BusDoc.Text.Lines
import BusDoc.Text.Search
import BusDoc.Value.Convert

/-!
# Field directives

A field carries a tag: directives separated by commas. `ignore` leaves the field out always,
`ignore=Sibling` while the boolean field `Sibling` is true, `omitEmpty` while the value is zero,
and `writable` marks it as settable. `Directives.parse` folds the tag from left to right; of two
`ignore=` directives the last one counts.
-/

namespace BusDoc

open Text

/-- What the tag of one field asks for. -/
structure Directives where
  /-- Never written out. -/
  skip : Bool := false
  /-- Not written out while this boolean field is true. -/
  skipIf : Option String := none
  /-- Not written out while its value is zero. -/
  omitEmpty : Bool := false
  /-- May be set from outside. -/
  writable : Bool := false
  deriving DecidableEq, Repr, Inhabited

namespace Directives

/-- One directive added to those read so far. -/
def step (d : Directives) (directive : List Char) : Except DirectiveFault Directives :=
  match cut? ['='] directive with
  | some (key, sibling) =>
    if trim key = "ignore".toList then
      if (trim sibling).isEmpty then .error .noSibling
      else .ok { d with skipIf := some (String.ofList (trim sibling)) }
    else .error (.unknown (String.ofList directive))
  | none =>
    if directive = "ignore".toList then .ok { d with skip := true }
    else if directive = "omitEmpty".toList ∨ directive = "omitempty".toList then
      .ok { d with omitEmpty := true }
    else if directive = "writable".toList then .ok { d with writable := true }
    else .error (.unknown (String.ofList directive))

/-- The directives of a tag: the trimmed parts between commas, empty ones dropped. -/
def split (tag : String) : List (List Char) :=
  ((splitOn ',' tag.toList).map trim).filter fun d => !d.isEmpty

/-- The meaning of a tag, or the first fault in it. -/
def parse (tag : String) : Except DirectiveFault Directives := (split tag).foldlM step {}

end Directives

end BusDoc
