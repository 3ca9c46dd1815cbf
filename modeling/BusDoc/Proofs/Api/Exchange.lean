import BusDoc.Api.Json
import BusDoc.Proofs.Json.Decode
import BusDoc.Proofs.Json.RoundTrip

/-!
# The exchange format keeps everything

The interfaces that are written into a document are the ones that are read from it: every text with
whatever characters it holds, the order of interfaces, methods, arguments, results and signals, the
properties in their order and under their keys, and the sets of flags and errors.

* `Property.ofJson?_toJson` and its like: what each kind of record is read as. The number is that of
  the levels which the record opens.
* `Api.printable_toJson`: the exchange format holds nothing but texts in lists and records.
* `Api.ofDocument?_toDocument`: reading a written document gives back the interfaces.
-/

namespace BusDoc

open Json

/-! ## Reading what was written -/

theorem textsOfJson?_textsToJson (levels : Nat) (xs : List String) :
    textsOfJson? (levels + 1) (textsToJson xs) = some xs :=
  asListOf?_map fun _ _ => rfl

theorem Flag.ofJson?_tag (levels : Nat) (f : Flag) :
    Flag.ofJson? levels (.text f.tag) = some f := by
  cases f <;> rfl

theorem FlagSet.ofList_toList (s : FlagSet) : FlagSet.ofList s.toList = s := by
  obtain ⟨readOnly, readWrite, experimental⟩ := s
  cases readOnly <;> cases readWrite <;> cases experimental <;> rfl

theorem FlagSet.ofJson?_toJson (levels : Nat) (s : FlagSet) :
    FlagSet.ofJson? (levels + 1) s.toJson = some s := by
  have hflags : s.toJson.asListOf? Flag.ofJson? (levels + 1) = some s.toList := by
    rw [FlagSet.toJson, textsToJson, List.map_map]
    exact asListOf?_map fun f _ => Flag.ofJson?_tag levels f
  rw [FlagSet.ofJson?, hflags, Option.map_some, FlagSet.ofList_toList]

theorem NameSet.ofJson?_toJson (levels : Nat) (s : NameSet) :
    NameSet.ofJson? (levels + 1) s.toJson = some s := by
  rw [NameSet.ofJson?, NameSet.toJson, textsOfJson?_textsToJson, Option.map_some,
    NameSet.ofList_names]

theorem Property.ofJson?_toJson (levels : Nat) (p : Property) :
    Property.ofJson? (levels + 2) p.toJson = some p := by
  have hrecord : p.toJson.asRecord? ["ty", "name", "flags", "docs"] (levels + 2) =
      some (levels + 1, [.text p.type, .text p.name, p.flags.toJson, .text p.docs]) :=
    asRecord?_object rfl (by decide)
  simp [Property.ofJson?, hrecord, asText?, FlagSet.ofJson?_toJson]

theorem Arg.ofJson?_toJson (levels : Nat) (a : Arg) :
    Arg.ofJson? (levels + 1) a.toJson = some a := by
  have hrecord : a.toJson.asRecord? ["ty", "name"] (levels + 1) =
      some (levels, [.text a.type, .text a.name]) := asRecord?_object rfl (by decide)
  simp [Arg.ofJson?, hrecord, asText?]

theorem asListOf?_args (levels : Nat) (args : List Arg) :
    asListOf? Arg.ofJson? (levels + 2) (.array (args.map Arg.toJson)) = some args :=
  asListOf?_map fun a _ => a.ofJson?_toJson levels

theorem Method.ofJson?_toJson (levels : Nat) (m : Method) :
    Method.ofJson? (levels + 3) m.toJson = some m := by
  have hrecord : m.toJson.asRecord? ["name", "args", "returns", "docs", "errors"] (levels + 3) =
      some (levels + 2, [.text m.name, .array (m.args.map Arg.toJson), textsToJson m.returns,
        .text m.docs, m.errors.toJson]) := asRecord?_object rfl (by decide)
  simp [Method.ofJson?, hrecord, asText?, asListOf?_args, textsOfJson?_textsToJson,
    NameSet.ofJson?_toJson]

theorem SignalDecl.ofJson?_toJson (levels : Nat) (s : SignalDecl) :
    SignalDecl.ofJson? (levels + 3) s.toJson = some s := by
  have hrecord : s.toJson.asRecord? ["name", "args", "docs", "errors"] (levels + 3) =
      some (levels + 2, [.text s.name, .array (s.args.map Arg.toJson), .text s.docs,
        s.errors.toJson]) := asRecord?_object rfl (by decide)
  simp [SignalDecl.ofJson?, hrecord, asText?, asListOf?_args, NameSet.ofJson?_toJson]

theorem Interface.ofJson?_toJson (levels : Nat) (i : Interface) :
    Interface.ofJson? (levels + 5) i.toJson = some i := by
  have hrecord : i.toJson.asRecord? ["name", "title", "service", "object_path", "docs",
      "properties", "methods", "signals"] (levels + 5) =
      some (levels + 4, [.text i.name, .text i.title, .text i.service, .text i.objectPath,
        .text i.docs, .object (i.properties.entries.map fun e => (e.1, e.2.toJson)),
        .array (i.methods.map Method.toJson), .array (i.signals.map SignalDecl.toJson)]) :=
    asRecord?_object rfl (by decide)
  have hproperties : asMembersOf? Property.ofJson? (levels + 4)
      (.object (i.properties.entries.map fun e => (e.1, e.2.toJson))) =
        some i.properties.entries :=
    asMembersOf?_map fun e _ => e.2.ofJson?_toJson (levels + 1)
  have hmethods : asListOf? Method.ofJson? (levels + 4) (.array (i.methods.map Method.toJson)) =
      some i.methods := asListOf?_map fun m _ => m.ofJson?_toJson levels
  have hsignals : asListOf? SignalDecl.ofJson? (levels + 4)
      (.array (i.signals.map SignalDecl.toJson)) = some i.signals :=
    asListOf?_map fun s _ => s.ofJson?_toJson levels
  simp [Interface.ofJson?, hrecord, asText?, hproperties, hmethods, hsignals,
    OrderedMap.ofList_entries]

theorem Api.ofJson?_toJson (levels : Nat) (api : Api) :
    Api.ofJson? (levels + 7) api.toJson = some api := by
  have hrecord : api.toJson.asRecord? ["interfaces"] (levels + 7) =
      some (levels + 6, [.array (api.interfaces.map (·.toJson))]) :=
    asRecord?_object rfl (by decide)
  have hinterfaces : asListOf? Interface.ofJson? (levels + 6)
      (.array (api.interfaces.map (·.toJson))) = some api.interfaces :=
    asListOf?_map fun i _ => i.ofJson?_toJson levels
  simp [Api.ofJson?, hrecord, hinterfaces]

/-! ## Printing what was written -/

theorem printable_textsToJson (xs : List String) : Printable (textsToJson xs) :=
  printable_array_map printable_text xs

theorem Property.printable_toJson (p : Property) : Printable p.toJson := by
  simp [Property.toJson, FlagSet.toJson, printable_textsToJson]

theorem Arg.printable_toJson (a : Arg) : Printable a.toJson := by simp [Arg.toJson]

theorem Method.printable_toJson (m : Method) : Printable m.toJson := by
  simp [Method.toJson, NameSet.toJson, printable_textsToJson,
    printable_array_map Arg.printable_toJson]

theorem SignalDecl.printable_toJson (s : SignalDecl) : Printable s.toJson := by
  simp [SignalDecl.toJson, NameSet.toJson, printable_textsToJson,
    printable_array_map Arg.printable_toJson]

theorem Interface.printable_toJson (i : Interface) : Printable i.toJson := by
  have hproperties : Printable (.object (i.properties.entries.map fun e => (e.1, e.2.toJson))) := by
    refine .object fun m hm => ?_
    obtain ⟨e, -, rfl⟩ := List.mem_map.1 hm
    exact e.2.printable_toJson
  simp [Interface.toJson, hproperties, printable_array_map Method.printable_toJson,
    printable_array_map SignalDecl.printable_toJson]

theorem Api.printable_toJson (api : Api) : Printable api.toJson := by
  simp [Api.toJson, printable_array_map Interface.printable_toJson]

/-- Interfaces that are written into a document are read from it as they were. -/
theorem Api.ofDocument?_toDocument (api : Api) : ofDocument? api.toDocument = some api := by
  have hparse : parse? api.toDocument = some api.toJson := parse?_pretty api.printable_toJson
  rw [ofDocument?, hparse, Option.bind_some]
  exact api.ofJson?_toJson 120

end BusDoc
