import BusDoc.Api.Interface

/-!
# Assembling interfaces

The entries of a unit are added to its header, in order. An interface name can be declared once
per run and a property name once per interface; a failed declaration leaves no trace. `assemble`
gives the registry that knows a new interface; `declare` takes the same steps on a registry that is
there and is changed.
-/

namespace BusDoc

/-- Why an interface could not be assembled. -/
inductive AssembleError
  /-- Two sources declare the interface. -/
  | duplicateInterface (name first second : String)
  /-- An interface declares a property twice. -/
  | duplicateProperty (interface property : String)
  deriving DecidableEq, Repr

namespace AssembleError

/-- The error in words. -/
def message : AssembleError → String
  | duplicateInterface name first second =>
    s!"Interface '{name}' declared twice (first in {first}, again in {second})"
  | duplicateProperty interface property =>
    s!"Property '{property}' declared twice in interface '{interface}'"

end AssembleError

namespace Interface

/-- The interface with one more member. -/
def addEntry (i : Interface) : Entry → Except AssembleError Interface
  | .property p =>
    if i.properties.contains p.name then .error (.duplicateProperty i.name p.name)
    else .ok { i with properties := i.properties.insert p.name p }
  | .method m => .ok { i with methods := i.methods ++ [m] }
  | .signal s => .ok { i with signals := i.signals ++ [s] }

/-- The interface with the entries added in order. -/
def addEntries (i : Interface) (entries : List Entry) : Except AssembleError Interface :=
  entries.foldlM addEntry i

end Interface

/-- The interfaces declared in a run: each name with the source that declared it. -/
structure Registry where
  origins : OrderedMap String String := OrderedMap.empty
  deriving Repr

namespace Registry

/-- The name is declared. -/
def contains (r : Registry) (name : String) : Bool := r.origins.contains name

/-- The number of declared interfaces. -/
def length (r : Registry) : Nat := r.origins.length

/-- The interface of a header and its entries, and the registry that knows it. -/
def assemble (r : Registry) (header : Interface) (entries : List Entry) (origin : String) :
    Except AssembleError (Interface × Registry) :=
  match r.origins.get? header.name with
  | some first => .error (.duplicateInterface header.name first origin)
  | none => do
    let interface ← header.addEntries entries
    return (interface, ⟨r.origins.insert interface.name origin⟩)

end Registry

/-! ## Step by step -/

/-- A request to assemble an interface: its header, its entries, and the source that declares
it. -/
structure Declaration where
  header : Interface
  entries : List Entry
  origin : String

namespace Registry

/-- The steps of a request. What a step changes in the registry stays when a later one fails. -/
def request (d : Declaration) : ExceptT AssembleError (StateM Registry) Interface := do
  if let some first := (← get).origins.get? d.header.name then
    throw (.duplicateInterface d.header.name first d.origin)
  let interface ← ExceptT.mk (pure (d.header.addEntries d.entries))
  modify fun r => ⟨r.origins.insert interface.name d.origin⟩
  return interface

/-- The answer of a registry to a request, and the registry after it. -/
def declare (r : Registry) (d : Declaration) : Except AssembleError Interface × Registry :=
  (request d).run.run r

end Registry

end BusDoc
