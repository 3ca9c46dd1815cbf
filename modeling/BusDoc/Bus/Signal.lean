import BusDoc.Record.Store
import BusDoc.Value.Json

/-!
# Signals on the bus

A signal has the path of the object and the interface that it comes from, its own name and a body.
Three signals are known to every client: changed properties, and objects added or removed.
-/

namespace BusDoc

/-- A signal. -/
structure Signal where
  path : ObjectPath
  interface : String
  /-- The name of the signal. -/
  member : String
  body : List Variant
  deriving Repr

namespace Signal

/-- The signal in the exchange format. -/
def toJson (s : Signal) : Json :=
  .object [("path", .text s.path.text), ("interface", .text s.interface),
    ("member", .text s.member), ("body", .array (s.body.map Variant.toJson))]

/-- The signal that a JSON value stands for. -/
def ofJson? (levels : Nat) (j : Json) : Option Signal := do
  match ← j.asRecord? ["path", "interface", "member", "body"] levels with
  | (levels, [path, interface, member, body]) =>
    return {
      path := ⟨← path.asText?⟩
      interface := ← interface.asText?
      member := ← member.asText?
      body := ← body.asListOf? Variant.ofJson? levels }
  | _ => none

/-- A part of the body, converted to a type. -/
def bodyArg (s : Signal) (index : Nat) (t : FieldType) : Except MarshalError t.Carrier :=
  match s.body[index]? with
  | some v => v.convertFor s!"{s.member}#{index}" t
  | none => .error (.missingReturn s.member index s.body.length)

end Signal

/-- The name of the signal that tells of changed properties. -/
def propertiesChanged : String := "PropertiesChanged"

/-- The name of the signal that tells of interfaces added to an object. -/
def interfacesAdded : String := "InterfacesAdded"

/-- The name of the signal that tells of interfaces removed from an object. -/
def interfacesRemoved : String := "InterfacesRemoved"

/-- What a signal of changed properties says. -/
structure PropertyChange where
  interface : String
  /-- The properties with their new values. -/
  changed : PropertyMap
  /-- The properties whose values are no longer known. -/
  invalidated : List String
  deriving Repr

namespace PropertyChange

/-- The change that the body of a signal describes; the invalidated properties may be missing. -/
def ofSignal (s : Signal) : Except MarshalError PropertyChange := do
  let interface ← s.bodyArg 0 .string
  let changed ← s.bodyArg 1 .dict
  let invalidated ← if s.body.length > 2 then s.bodyArg 2 .strings else .ok ([] : List String)
  return ⟨interface, OrderedMap.ofList changed, invalidated⟩

/-- The record of a handle after the change, or the failure with nothing changed. -/
def applyTo {R : Type} (c : PropertyChange) (type : RecordType R) (handle : Nat)
    (stores : Stores R) : Except MarshalError (Stores R) :=
  stores.update type handle c.changed

end PropertyChange

/-- What a signal of an object manager says. -/
inductive ObjectEvent
  /-- An object got interfaces, each with a dictionary of its properties. -/
  | added (path : ObjectPath) (interfaces : PropertyMap)
  /-- An object lost interfaces. -/
  | removed (path : ObjectPath) (interfaces : List String)
  deriving Repr

namespace ObjectEvent

/-- The object that the event is about. -/
def path : ObjectEvent → ObjectPath
  | added p _ => p
  | removed p _ => p

/-- The event that a signal describes, if it is one of an object manager. -/
def ofSignal (s : Signal) : Except MarshalError (Option ObjectEvent) :=
  if s.member = interfacesAdded then do
    let path ← s.bodyArg 0 .path
    let interfaces ← s.bodyArg 1 .dict
    return some (.added path (OrderedMap.ofList interfaces))
  else if s.member = interfacesRemoved then do
    let path ← s.bodyArg 0 .path
    let interfaces ← s.bodyArg 1 .strings
    return some (.removed path interfaces)
  else .ok none

end ObjectEvent

end BusDoc
