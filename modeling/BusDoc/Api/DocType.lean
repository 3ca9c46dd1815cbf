import BusDoc.Text.Braces
import BusDoc.Text.Search
import BusDoc.Value.Convert

/-!
# Documented types

The type vocabulary of the documentation. A type is written as a keyword, as `dict` with or
without members in braces, or as `array{…}` with one member or several. `DocType.ofChars` reads a
spelling; a spelling outside the vocabulary is kept as `unknown`. `DocType.fieldType` is the type
that a documented type has in the bindings.
-/

namespace BusDoc

open Text

/-- A type of the documentation. -/
inductive DocType
  | void | bool | byte | int16 | uint16 | int32 | uint32 | int64 | uint64 | double | string
  | objectPath | fileDescriptor | variant | dict
  | array (element : DocType)
  /-- Several element types inside one `array{…}`. -/
  | struct (members : List DocType)
  /-- A spelling outside the vocabulary. -/
  | unknown (spelling : String)
  deriving Repr, Inhabited

namespace DocType

/-- The keywords of the vocabulary with their types. -/
def keywords : List (String × DocType) := [
  ("void", void), ("bool", bool), ("boolean", bool), ("byte", byte), ("int16", int16),
  ("uint16", uint16), ("uint16_t", uint16), ("int32", int32), ("uint32", uint32),
  ("int64", int64), ("uint64", uint64), ("double", double), ("string", string),
  ("object", objectPath), ("fd", fileDescriptor), ("variant", variant)]

/-- The type of a spelling without braces around members. -/
def ofWord (word : List Char) : DocType :=
  match keywords.find? fun k => k.1.toList == word with
  | some (_, t) => t
  | none => unknown (String.ofList word)

/-- The text between the braces of `array{…}`. -/
def arrayMembers? (s : List Char) : Option (List Char) :=
  (after? "array\x7b".toList s).bind (before? ['}'])

/-- The spelling is `dict` or starts with an open `dict`. -/
def isDict (s : List Char) : Bool := s == "dict".toList || startsWith "dict\x7b".toList s

theorem length_arrayMembers? {s members : List Char} (h : arrayMembers? s = some members) :
    members.length < s.length := by
  obtain ⟨rest, hr, hm⟩ := Option.bind_eq_some_iff.1 h
  rw [after?_eq_some_iff.1 hr, before?_eq_some_iff.1 hm]
  simp
  omega

/-- The type of a spelling. -/
def ofChars (s : List Char) : DocType :=
  match h : arrayMembers? (trim s) with
  | some inner =>
    match hm : splitTop ',' inner with
    | [] => array variant
    | [member] =>
      have : member.length < s.length :=
        Nat.lt_of_le_of_lt (length_le_of_mem_splitTop (hm ▸ List.mem_singleton.2 rfl))
          (Nat.lt_of_lt_of_le (length_arrayMembers? h) (length_trim_le s))
      array (ofChars member)
    | first :: second :: rest =>
      array (struct ((first :: second :: rest).attach.map fun ⟨m, hmem⟩ =>
        have : m.length < s.length :=
          Nat.lt_of_le_of_lt (length_le_of_mem_splitTop (hm ▸ hmem))
            (Nat.lt_of_lt_of_le (length_arrayMembers? h) (length_trim_le s))
        ofChars m))
  | none => if isDict (trim s) then dict else ofWord (trim s)
termination_by s.length

/-- The type of a spelling. -/
def ofString (s : String) : DocType := ofChars s.toList

/-- The type of a field or argument of the documented type in the bindings. -/
def fieldType : DocType → FieldType
  | bool => .bool
  | byte => .byte
  | int16 => .int16
  | uint16 => .uint16
  | int32 => .int32
  | uint32 => .uint32
  | string => .string
  | objectPath => .path
  | dict => .dict
  | array byte => .bytes
  | array string => .strings
  | array objectPath => .paths
  | array _ => .array
  | _ => .variant

end DocType

end BusDoc
