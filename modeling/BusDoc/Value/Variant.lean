import BusDoc.Value.ObjectPath
import BusDoc.OrderedMap

/-!
# Values on the bus

`Variant` is the closed set of values that cross the bus, `Kind` its tag. A property map is a map
from property names to values in insertion order. Two values are the `same` when they are equal up
to the order of the entries of the dictionaries in them.
-/

namespace BusDoc

/-- The tag of a value. -/
inductive Kind
  | bool | byte | int16 | uint16 | int32 | uint32 | str | bytes | path | array | dict
  deriving DecidableEq, Repr, Inhabited

namespace Kind

/-- The name of the kind in messages. -/
def text : Kind → String
  | bool => "bool"
  | byte => "byte"
  | int16 => "int16"
  | uint16 => "uint16"
  | int32 => "int32"
  | uint32 => "uint32"
  | str => "string"
  | bytes => "bytes"
  | path => "object path"
  | array => "array"
  | dict => "dict"

/-- All kinds, in the order of their declaration. -/
def all : List Kind :=
  [bool, byte, int16, uint16, int32, uint32, str, bytes, path, array, dict]

/-- The name of the kind in the exchange format, which is also the tag of a value of the kind. -/
def tag : Kind → String
  | bool => "Bool"
  | byte => "Byte"
  | int16 => "Int16"
  | uint16 => "UInt16"
  | int32 => "Int32"
  | uint32 => "UInt32"
  | str => "Str"
  | bytes => "Bytes"
  | path => "Path"
  | array => "Array"
  | dict => "Map"

/-- The kind with the given tag. -/
def ofTag? (tag : String) : Option Kind := all.find? fun k => k.tag == tag

theorem mem_all (k : Kind) : k ∈ all := by cases k <;> decide

end Kind

/-- A value on the bus. -/
inductive Variant
  | bool (value : Bool)
  | byte (value : UInt8)
  | int16 (value : Int16)
  | uint16 (value : UInt16)
  | int32 (value : Int32)
  | uint32 (value : UInt32)
  | str (value : String)
  | bytes (value : List UInt8)
  | path (value : ObjectPath)
  | array (items : List Variant)
  | dict (entries : List (String × Variant))
  deriving Repr

/-- Property names with their values, in insertion order. -/
abbrev PropertyMap := OrderedMap String Variant

namespace Variant

/-- The empty array, the value that an untyped field starts with. -/
instance : Inhabited Variant := ⟨array []⟩

/-- The tag of the value. -/
def kind : Variant → Kind
  | bool _ => .bool
  | byte _ => .byte
  | int16 _ => .int16
  | uint16 _ => .uint16
  | int32 _ => .int32
  | uint32 _ => .uint32
  | str _ => .str
  | bytes _ => .bytes
  | path _ => .path
  | array _ => .array
  | dict _ => .dict

/-- The value is the zero or empty value of its kind. -/
def isZero : Variant → Bool
  | bool b => !b
  | byte n => n == 0
  | int16 n => n == 0
  | uint16 n => n == 0
  | int32 n => n == 0
  | uint32 n => n == 0
  | str s => s == ""
  | bytes b => b.isEmpty
  | path p => p.text == ""
  | array items => items.isEmpty
  | dict entries => entries.isEmpty

/-- The truth value of a boolean. -/
def asBool? : Variant → Option Bool
  | bool b => some b
  | _ => none

/-- The text of a string or of a path. -/
def asText? : Variant → Option String
  | str s => some s
  | path p => some p.text
  | _ => none

/-- The entries of a dictionary. -/
def asDict? : Variant → Option (List (String × Variant))
  | dict entries => some entries
  | _ => none

/-- The number that an integer of any width stands for. -/
def asInteger? : Variant → Option Int
  | byte n => some n.toNat
  | int16 n => some n.toInt
  | uint16 n => some n.toNat
  | int32 n => some n.toInt
  | uint32 n => some n.toNat
  | _ => none

mutual

/-- The values are equal up to the order of dictionary entries. -/
def same : Variant → Variant → Bool
  | bool a, bool b => a == b
  | byte a, byte b => a == b
  | int16 a, int16 b => a == b
  | uint16 a, uint16 b => a == b
  | int32 a, int32 b => a == b
  | uint32 a, uint32 b => a == b
  | str a, str b => a == b
  | bytes a, bytes b => a == b
  | path a, path b => a == b
  | array a, array b => sameItems a b
  | dict a, dict b => a.length == b.length && sameEntries a b
  | _, _ => false

/-- The lists have the same values at the same places. -/
def sameItems : List Variant → List Variant → Bool
  | [], [] => true
  | a :: as, b :: bs => same a b && sameItems as bs
  | _, _ => false

/-- Every entry of the first dictionary is one of the second. -/
def sameEntries : List (String × Variant) → List (String × Variant) → Bool
  | [], _ => true
  | (k, a) :: as, bs =>
    (match entryOf? k bs with
      | some b => same a b
      | none => false) && sameEntries as bs

end

end Variant

end BusDoc
