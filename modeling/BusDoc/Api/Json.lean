import BusDoc.Api.Interface
import BusDoc.Json.Decode
import BusDoc.Json.Parser
import BusDoc.Json.Printer

/-!
# Documented interfaces in the exchange format

Records become objects with their fields in order, the properties of an interface an object keyed
by property name, sets and lists arrays.
-/

namespace BusDoc

/-- A list of texts in the exchange format. -/
def textsToJson (xs : List String) : Json := .array (xs.map .text)

/-- The list of texts that a JSON value stands for. -/
def textsOfJson? (levels : Nat) (j : Json) : Option (List String) :=
  j.asListOf? (fun _ => Json.asText?) levels

namespace Flag

/-- The flag that a JSON value stands for. -/
def ofJson? (levels : Nat) (j : Json) : Option Flag := do
  let name ← j.asTag? levels
  all.find? fun f => f.tag = name

end Flag

namespace FlagSet

/-- The set in the exchange format: the list of its members. -/
def toJson (s : FlagSet) : Json := textsToJson (s.toList.map Flag.tag)

/-- The set that a JSON value stands for. -/
def ofJson? (levels : Nat) (j : Json) : Option FlagSet :=
  (j.asListOf? Flag.ofJson? levels).map ofList

end FlagSet

namespace NameSet

/-- The set in the exchange format: the list of its members. -/
def toJson (s : NameSet) : Json := textsToJson s.names

/-- The set that a JSON value stands for. -/
def ofJson? (levels : Nat) (j : Json) : Option NameSet := (textsOfJson? levels j).map ofList

end NameSet

namespace Property

/-- The property in the exchange format. -/
def toJson (p : Property) : Json :=
  .object [("ty", .text p.type), ("name", .text p.name), ("flags", p.flags.toJson),
    ("docs", .text p.docs)]

/-- The property that a JSON value stands for. -/
def ofJson? (levels : Nat) (j : Json) : Option Property := do
  match ← j.asRecord? ["ty", "name", "flags", "docs"] levels with
  | (levels, [type, name, flags, docs]) =>
    return {
      type := ← type.asText?
      name := ← name.asText?
      flags := ← FlagSet.ofJson? levels flags
      docs := ← docs.asText? }
  | _ => none

end Property

namespace Arg

/-- The argument in the exchange format. -/
def toJson (a : Arg) : Json := .object [("ty", .text a.type), ("name", .text a.name)]

/-- The argument that a JSON value stands for. -/
def ofJson? (levels : Nat) (j : Json) : Option Arg := do
  match ← j.asRecord? ["ty", "name"] levels with
  | (_, [type, name]) => return { type := ← type.asText?, name := ← name.asText? }
  | _ => none

end Arg

namespace Method

/-- The method in the exchange format. -/
def toJson (m : Method) : Json :=
  .object [("name", .text m.name), ("args", .array (m.args.map Arg.toJson)),
    ("returns", textsToJson m.returns), ("docs", .text m.docs), ("errors", m.errors.toJson)]

/-- The method that a JSON value stands for. -/
def ofJson? (levels : Nat) (j : Json) : Option Method := do
  match ← j.asRecord? ["name", "args", "returns", "docs", "errors"] levels with
  | (levels, [name, args, returns, docs, errors]) =>
    return {
      name := ← name.asText?
      args := ← args.asListOf? Arg.ofJson? levels
      returns := ← textsOfJson? levels returns
      docs := ← docs.asText?
      errors := ← NameSet.ofJson? levels errors }
  | _ => none

end Method

namespace SignalDecl

/-- The signal in the exchange format. -/
def toJson (s : SignalDecl) : Json :=
  .object [("name", .text s.name), ("args", .array (s.args.map Arg.toJson)),
    ("docs", .text s.docs), ("errors", s.errors.toJson)]

/-- The signal that a JSON value stands for. -/
def ofJson? (levels : Nat) (j : Json) : Option SignalDecl := do
  match ← j.asRecord? ["name", "args", "docs", "errors"] levels with
  | (levels, [name, args, docs, errors]) =>
    return {
      name := ← name.asText?
      args := ← args.asListOf? Arg.ofJson? levels
      docs := ← docs.asText?
      errors := ← NameSet.ofJson? levels errors }
  | _ => none

end SignalDecl

namespace Interface

/-- The interface in the exchange format. -/
def toJson (i : Interface) : Json :=
  .object [("name", .text i.name), ("title", .text i.title), ("service", .text i.service),
    ("object_path", .text i.objectPath), ("docs", .text i.docs),
    ("properties", .object (i.properties.entries.map fun e => (e.1, e.2.toJson))),
    ("methods", .array (i.methods.map Method.toJson)),
    ("signals", .array (i.signals.map SignalDecl.toJson))]

/-- The interface that a JSON value stands for. -/
def ofJson? (levels : Nat) (j : Json) : Option Interface := do
  match ← j.asRecord? ["name", "title", "service", "object_path", "docs", "properties", "methods",
      "signals"] levels with
  | (levels, [name, title, service, objectPath, docs, properties, methods, signals]) =>
    return {
      name := ← name.asText?
      title := ← title.asText?
      service := ← service.asText?
      objectPath := ← objectPath.asText?
      docs := ← docs.asText?
      properties := OrderedMap.ofList (← properties.asMembersOf? Property.ofJson? levels)
      methods := ← methods.asListOf? Method.ofJson? levels
      signals := ← signals.asListOf? SignalDecl.ofJson? levels }
  | _ => none

end Interface

namespace Api

/-- The interfaces in the exchange format. -/
def toJson (api : Api) : Json := .object [("interfaces", .array (api.interfaces.map (·.toJson)))]

/-- The interfaces that a JSON value stands for. -/
def ofJson? (levels : Nat) (j : Json) : Option Api := do
  match ← j.asRecord? ["interfaces"] levels with
  | (levels, [interfaces]) =>
    return ⟨← interfaces.asListOf? Interface.ofJson? levels⟩
  | _ => none

/-- The interfaces as a document. -/
def toDocument (api : Api) : String := api.toJson.pretty

/-- The interfaces that a document holds. -/
def ofDocument? (s : String) : Option Api := (Json.parse? s).bind (ofJson? Json.maxLevels)

end Api

end BusDoc
