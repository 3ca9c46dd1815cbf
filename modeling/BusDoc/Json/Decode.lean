import BusDoc.Json.Value

/-!
# Reading typed values from JSON

Readers that turn a JSON value into a value of a given shape. They take the number of levels that
may still be opened: arrays and objects nest at most 127 deep. A record is an object with every
one of its names exactly once, whatever other names there are, or the array of its values in
order. A choice is an object with one member, the name of the alternative; an alternative without
a value may also be the bare name.
-/

namespace BusDoc.Json

/-- The levels that a document may open. -/
def maxLevels : Nat := 127

/-- The levels left when one more is opened. -/
def openLevel? : Nat → Option Nat
  | 0 => none
  | n + 1 => some n

/-- The text of a string. -/
def asText? : Json → Option String
  | text s => some s
  | _ => none

/-- The truth value of a boolean. -/
def asBool? : Json → Option Bool
  | bool b => some b
  | _ => none

/-- An integer that lies between the bounds. -/
def asIntegerIn? (low high : Int) : Json → Option Int
  | integer n => if low ≤ n ∧ n ≤ high then some n else none
  | _ => none

/-- The items of an array, each read by `read`. -/
def asListOf? {α : Type} (read : Nat → Json → Option α) (levels : Nat) : Json → Option (List α)
  | array items => do
    let levels ← openLevel? levels
    items.mapM (read levels)
  | _ => none

/-- The members of an object, each read by `read`. -/
def asMembersOf? {α : Type} (read : Nat → Json → Option α) (levels : Nat) :
    Json → Option (List (String × α))
  | object members => do
    let levels ← openLevel? levels
    members.mapM fun (k, v) => (read levels v).map fun x => (k, x)
  | _ => none

/-- The value of a name that occurs exactly once among the members. -/
def uniqueMember? (members : List (String × Json)) (name : String) : Option Json :=
  match members.filter fun m => m.1 = name with
  | [(_, v)] => some v
  | _ => none

/-- The values of the fields of a record, in the order of their names, and the levels left. -/
def asRecord? (names : List String) (levels : Nat) : Json → Option (Nat × List Json)
  | object members => do
    let levels ← openLevel? levels
    let values ← names.mapM (uniqueMember? members)
    return (levels, values)
  | array items => do
    let levels ← openLevel? levels
    if items.length = names.length then return (levels, items) else none
  | _ => none

/-- The name of an alternative without a value. -/
def asTag? (levels : Nat) : Json → Option String
  | text s => some s
  | object [(k, null)] => (openLevel? levels).map fun _ => k
  | _ => none

/-- The name and the value of an alternative, and the levels left. -/
def asChoice? (levels : Nat) : Json → Option (Nat × String × Json)
  | object [(k, v)] => (openLevel? levels).map fun levels => (levels, k, v)
  | _ => none

end BusDoc.Json
