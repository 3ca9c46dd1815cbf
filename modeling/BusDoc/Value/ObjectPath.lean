import BusDoc.Text.Search

/-!
# Object paths

The path-like name of an object on the bus, such as `/org/bluez/hci0`. A path lies below another
when it is the other, when the other is the root, or when it goes on with a slash where the other
ends.
-/

namespace BusDoc

open Text

/-- The name of an object. No form is enforced. -/
structure ObjectPath where
  text : String
  deriving DecidableEq, Repr, Inhabited

namespace ObjectPath

/-- The path of the root object. -/
def root : ObjectPath := ⟨"/"⟩

/-- The empty path. -/
def isEmpty (p : ObjectPath) : Bool := p.text.toList.isEmpty

/-- The path of a child: one slash between path and segment, whatever slashes the segment
starts with. A path that ends in a slash gets no second one. -/
def join (p : ObjectPath) (segment : String) : ObjectPath :=
  let child := segment.toList.dropWhile (· == '/')
  let slash := if p.text.toList.getLast? = some '/' then [] else ['/']
  ⟨String.ofList (p.text.toList ++ slash ++ child)⟩

/-- `p` is `base` or lies below it. -/
def isBelow (p base : ObjectPath) : Bool :=
  base = root || p = base ||
    match after? base.text.toList p.text.toList with
    | some rest => rest.head? = some '/'
    | none => false

end ObjectPath

end BusDoc
