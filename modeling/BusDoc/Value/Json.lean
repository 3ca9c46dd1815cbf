import BusDoc.Json.Decode
import BusDoc.Json.Parser
import BusDoc.Json.Printer
import BusDoc.Value.Variant

/-!
# Values in the exchange format

A value on the bus is an object with one member: its tag, and what it holds. A kind is its tag.
-/

namespace BusDoc

namespace Kind

/-- The kind in the exchange format. -/
def toJson (k : Kind) : Json := .text k.tag

/-- The kind that a JSON value stands for. -/
def ofJson? (levels : Nat) (j : Json) : Option Kind := (j.asTag? levels).bind ofTag?

end Kind

namespace Variant

mutual

/-- The value in the exchange format. -/
def toJson : Variant → Json
  | bool b => .object [("Bool", .bool b)]
  | byte n => .object [("Byte", .integer n.toNat)]
  | int16 n => .object [("Int16", .integer n.toInt)]
  | uint16 n => .object [("UInt16", .integer n.toNat)]
  | int32 n => .object [("Int32", .integer n.toInt)]
  | uint32 n => .object [("UInt32", .integer n.toNat)]
  | str s => .object [("Str", .text s)]
  | bytes b => .object [("Bytes", .array (b.map fun n => .integer n.toNat))]
  | path p => .object [("Path", .text p.text)]
  | array items => .object [("Array", .array (itemsToJson items))]
  | dict entries => .object [("Map", .object (entriesToJson entries))]

/-- The items of an array in the exchange format. -/
def itemsToJson : List Variant → List Json
  | [] => []
  | v :: vs => v.toJson :: itemsToJson vs

/-- The entries of a dictionary in the exchange format. -/
def entriesToJson : List (String × Variant) → List (String × Json)
  | [] => []
  | (k, v) :: es => (k, v.toJson) :: entriesToJson es

end

/-- A byte in the exchange format. -/
def byteOfJson? (j : Json) : Option UInt8 :=
  (j.asIntegerIn? 0 255).map fun n => UInt8.ofNat n.toNat

/-- The value that a JSON value stands for. A repeated key of a dictionary keeps its first place
and its last value. -/
def ofJson? : (levels : Nat) → Json → Option Variant
  | 0, _ => none
  | levels + 1, j => do
    let (_, tag, v) ← j.asChoice? (levels + 1)
    match ← Kind.ofTag? tag with
    | .bool => v.asBool?.map bool
    | .byte => (byteOfJson? v).map byte
    | .int16 => (v.asIntegerIn? (-32768) 32767).map fun n => int16 (Int16.ofInt n)
    | .uint16 => (v.asIntegerIn? 0 65535).map fun n => uint16 (UInt16.ofNat n.toNat)
    | .int32 => (v.asIntegerIn? (-2147483648) 2147483647).map fun n => int32 (Int32.ofInt n)
    | .uint32 => (v.asIntegerIn? 0 4294967295).map fun n => uint32 (UInt32.ofNat n.toNat)
    | .str => v.asText?.map str
    | .bytes => (v.asListOf? (fun _ => byteOfJson?) levels).map bytes
    | .path => v.asText?.map fun s => path ⟨s⟩
    | .array =>
      match levels, v with
      | inner + 1, .array items => (items.mapM (ofJson? inner)).map array
      | _, _ => none
    | .dict =>
      match levels, v with
      | inner + 1, .object members => do
        let entries ← members.mapM fun (k, v) => (ofJson? inner v).map fun x => (k, x)
        return dict (entries.foldl (fun es e => insertEntry e.1 e.2 es) [])
      | _, _ => none

end Variant

end BusDoc
