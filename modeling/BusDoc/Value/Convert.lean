import BusDoc.Value.Variant

/-!
# Typed fields and conversion

The types that a record field or a call result may have, the values each of them holds, and the
conversions between those and `Variant`. Reading is narrow on purpose: an integer is read at any
width that holds its value, strings and paths are read as each other, bytes are read from and as
arrays of bytes, and everything else is refused.

`MarshalError` collects the ways in which moving values between a record and the bus can fail.
-/

namespace BusDoc

/-- The type of a typed field. -/
inductive FieldType
  | bool | byte | int16 | uint16 | int32 | uint32 | string | path
  | bytes | array | strings | paths | dict | variant
  deriving DecidableEq, Repr, Inhabited

namespace FieldType

/-- All field types, in the order of their declaration. -/
def all : List FieldType :=
  [bool, byte, int16, uint16, int32, uint32, string, path, bytes, array, strings, paths, dict,
    variant]

/-- The values of a field type. -/
def Carrier : FieldType → Type
  | bool => Bool
  | byte => UInt8
  | int16 => Int16
  | uint16 => UInt16
  | int32 => Int32
  | uint32 => UInt32
  | string => String
  | path => ObjectPath
  | bytes => List UInt8
  | array => List Variant
  | strings => List String
  | paths => List ObjectPath
  | dict => List (String × Variant)
  | variant => Variant

/-- The name of the type in messages. -/
def text : FieldType → String
  | bool => "bool"
  | byte => "byte"
  | int16 => "int16"
  | uint16 => "uint16"
  | int32 => "int32"
  | uint32 => "uint32"
  | string => "string"
  | path => "object path"
  | bytes => "bytes"
  | array => "array"
  | strings => "array of strings"
  | paths => "array of object paths"
  | dict => "dict"
  | variant => "variant"

/-- The value that a fresh field holds: zero, false or empty. -/
def zero : (t : FieldType) → t.Carrier
  | bool => false
  | byte => (0 : UInt8)
  | int16 => (0 : Int16)
  | uint16 => (0 : UInt16)
  | int32 => (0 : Int32)
  | uint32 => (0 : UInt32)
  | string => ""
  | path => (⟨""⟩ : ObjectPath)
  | bytes => ([] : List UInt8)
  | array => ([] : List Variant)
  | strings => ([] : List String)
  | paths => ([] : List ObjectPath)
  | dict => ([] : List (String × Variant))
  | variant => Variant.array []

/-- A typed value as a value on the bus. -/
def toVariant : (t : FieldType) → t.Carrier → Variant
  | bool, v => .bool v
  | byte, v => .byte v
  | int16, v => .int16 v
  | uint16, v => .uint16 v
  | int32, v => .int32 v
  | uint32, v => .uint32 v
  | string, v => .str v
  | path, v => .path v
  | bytes, v => .bytes v
  | array, v => .array v
  | strings, v => .array (List.map Variant.str v)
  | paths, v => .array (List.map Variant.path v)
  | dict, v => .dict v
  | variant, v => v

end FieldType

/-- Why a directive tag of a field is refused. -/
inductive DirectiveFault
  /-- An earlier field has the same name. -/
  | duplicateName
  /-- The tag holds a directive that does not exist. -/
  | unknown (directive : String)
  /-- `ignore=` without a field name. -/
  | noSibling
  /-- The field would be left out on its own value. -/
  | ownValue
  /-- `ignore=` names no field. -/
  | noField (flag : String)
  /-- `ignore=` names a field that is not a boolean. -/
  | notBool (flag : String) (kind : Kind)
  deriving DecidableEq, Repr

namespace DirectiveFault

/-- The fault in words. -/
def message : DirectiveFault → String
  | duplicateName => "duplicate field name"
  | unknown directive => s!"unknown directive '{directive}'"
  | noSibling => "'ignore=' needs a sibling field name"
  | ownValue => "a field cannot be ignored on its own value"
  | noField flag => s!"'ignore={flag}' names no field"
  | notBool flag kind => s!"'ignore={flag}' names a {kind.text} field, expected bool"

end DirectiveFault

/-- What can go wrong between values on the bus and typed fields. -/
inductive MarshalError
  /-- A value does not convert to the wanted type. -/
  | conversion (expected : FieldType) (actual : Kind)
  /-- The value given for a field does not convert to its type. -/
  | typeMismatch (field : String) (expected : FieldType) (actual : Kind)
  /-- The directive tag of a field is refused. -/
  | directive (field : String) (fault : DirectiveFault)
  /-- A call returned too few values. -/
  | missingReturn (method : String) (index received : Nat)
  deriving DecidableEq, Repr

namespace MarshalError

/-- The error in words. -/
def message : MarshalError → String
  | conversion expected actual => s!"cannot convert {actual.text} value to {expected.text}"
  | typeMismatch field expected actual =>
    s!"field '{field}' expects {expected.text}, got {actual.text}"
  | directive field fault => s!"invalid directive on field '{field}': {fault.message}"
  | missingReturn method index received =>
    s!"'{method}' returned {received} value(s), return #{index} is missing"

/-- A bare conversion failure, told of a field; other errors are kept. -/
def forField (field : String) : MarshalError → MarshalError
  | conversion expected actual => typeMismatch field expected actual
  | e => e

end MarshalError

namespace Variant

/-- The values converted one by one; `none` if one of them does not convert. -/
def mapAll? {α : Type} (f : Variant → Option α) : List Variant → Option (List α)
  | [] => some []
  | v :: vs => do
    let x ← f v
    let xs ← mapAll? f vs
    return x :: xs

/-- The integer as a byte, if it is one. -/
def asByte? (v : Variant) : Option UInt8 := do
  let n ← v.asInteger?
  if 0 ≤ n ∧ n < 256 then some (UInt8.ofNat n.toNat) else none

/-- The integer as a signed 16-bit number, if it fits. -/
def asInt16? (v : Variant) : Option Int16 := do
  let n ← v.asInteger?
  if -32768 ≤ n ∧ n < 32768 then some (Int16.ofInt n) else none

/-- The integer as an unsigned 16-bit number, if it fits. -/
def asUInt16? (v : Variant) : Option UInt16 := do
  let n ← v.asInteger?
  if 0 ≤ n ∧ n < 65536 then some (UInt16.ofNat n.toNat) else none

/-- The integer as a signed 32-bit number, if it fits. -/
def asInt32? (v : Variant) : Option Int32 := do
  let n ← v.asInteger?
  if -2147483648 ≤ n ∧ n < 2147483648 then some (Int32.ofInt n) else none

/-- The integer as an unsigned 32-bit number, if it fits. -/
def asUInt32? (v : Variant) : Option UInt32 := do
  let n ← v.asInteger?
  if 0 ≤ n ∧ n < 4294967296 then some (UInt32.ofNat n.toNat) else none

/-- The value read at a type, if it has a reading there. -/
def read? : (t : FieldType) → Variant → Option t.Carrier
  | .bool, v => v.asBool?
  | .byte, v => v.asByte?
  | .int16, v => v.asInt16?
  | .uint16, v => v.asUInt16?
  | .int32, v => v.asInt32?
  | .uint32, v => v.asUInt32?
  | .string, v => v.asText?
  | .path, v => v.asText?.map ObjectPath.mk
  | .bytes, .bytes b => some b
  | .bytes, .array items => mapAll? asByte? items
  | .bytes, _ => none
  | .array, .array items => some items
  | .array, .bytes b => some (b.map byte)
  | .array, _ => none
  | .strings, .array items => mapAll? asText? items
  | .strings, _ => none
  | .paths, .array items => mapAll? (fun v => v.asText?.map ObjectPath.mk) items
  | .paths, _ => none
  | .dict, v => v.asDict?
  | .variant, v => some v

/-- The value converted to a type. A failure names the type and the kind of the whole value. -/
def convert (t : FieldType) (v : Variant) : Except MarshalError t.Carrier :=
  match v.read? t with
  | some x => .ok x
  | none => .error (.conversion t v.kind)

/-- The value converted to a type, a failure being told of a field. -/
def convertFor (field : String) (t : FieldType) (v : Variant) : Except MarshalError t.Carrier :=
  (v.convert t).mapError (MarshalError.forField field)

end Variant

end BusDoc
