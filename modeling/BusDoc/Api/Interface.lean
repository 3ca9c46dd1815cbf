import BusDoc.Api.DocType
import BusDoc.SortedSet
import BusDoc.OrderedMap

/-!
# Documented interfaces

What the documentation says of one bus interface: its properties, methods and signals, and the
header they stand under. Types are kept as they were spelled. Every member has a one-line
`signature` in the words of the documentation.
-/

namespace BusDoc

open Text

/-- An annotation of a property. -/
inductive Flag
  | readOnly | readWrite | experimental
  deriving DecidableEq, Repr, Inhabited

namespace Flag

/-- All flags, in the order in which they are listed. -/
def all : List Flag := [readOnly, readWrite, experimental]

/-- The flag as the documentation writes it. -/
def word : Flag → String
  | readOnly => "readonly"
  | readWrite => "readwrite"
  | experimental => "experimental"

/-- The flag's name in the exchange format. -/
def tag : Flag → String
  | readOnly => "ReadOnly"
  | readWrite => "ReadWrite"
  | experimental => "Experimental"

end Flag

/-- A set of flags. -/
structure FlagSet where
  readOnly : Bool := false
  readWrite : Bool := false
  experimental : Bool := false
  deriving DecidableEq, Repr, Inhabited

namespace FlagSet

/-- The set has the flag. -/
def has (s : FlagSet) : Flag → Bool
  | .readOnly => s.readOnly
  | .readWrite => s.readWrite
  | .experimental => s.experimental

/-- The set with a flag added. -/
def add (s : FlagSet) : Flag → FlagSet
  | .readOnly => { s with readOnly := true }
  | .readWrite => { s with readWrite := true }
  | .experimental => { s with experimental := true }

/-- The members, in the order of `Flag.all`. -/
def toList (s : FlagSet) : List Flag := Flag.all.filter s.has

/-- The set of the members of a list. -/
def ofList (flags : List Flag) : FlagSet := flags.foldl add {}

end FlagSet

/-- A documented property. -/
structure Property where
  /-- The type as spelled. -/
  type : String := ""
  name : String := ""
  flags : FlagSet := {}
  docs : String := ""
  deriving DecidableEq, Repr, Inhabited

/-- A positional argument. -/
structure Arg where
  /-- The type as spelled. -/
  type : String
  name : String
  deriving DecidableEq, Repr, Inhabited

/-- A documented method. -/
structure Method where
  name : String := ""
  args : List Arg := []
  /-- The types of the results as spelled. -/
  returns : List String := []
  docs : String := ""
  /-- The errors that the documentation declares. -/
  errors : NameSet := NameSet.empty
  deriving DecidableEq, Repr, Inhabited

/-- A documented signal. -/
structure SignalDecl where
  name : String := ""
  args : List Arg := []
  docs : String := ""
  errors : NameSet := NameSet.empty
  deriving DecidableEq, Repr, Inhabited

/-- A member of an interface as read from the documentation. -/
inductive Entry
  | property (p : Property)
  | method (m : Method)
  | signal (s : SignalDecl)
  deriving DecidableEq, Repr, Inhabited

/-- A documented interface. -/
structure Interface where
  /-- The dotted name of the interface. -/
  name : String := ""
  /-- The heading of the documentation unit. -/
  title : String := ""
  /-- The bus name of the service. -/
  service : String := ""
  /-- The documented pattern of object paths. -/
  objectPath : String := ""
  docs : String := ""
  properties : OrderedMap String Property := OrderedMap.empty
  methods : List Method := []
  signals : List SignalDecl := []
  deriving DecidableEq, Repr, Inhabited

/-- The interfaces of a corpus, in its order. -/
structure Api where
  interfaces : List Interface := []
  deriving DecidableEq, Repr, Inhabited

namespace Property

/-- The documented type. -/
def docType (p : Property) : DocType := .ofString p.type

/-- The property may be missing on the peer: its docs start with the optional mark. -/
def isOptional (p : Property) : Bool := startsWith "(optional)".toList p.docs.toList

/-- Type, name and flags on one line. -/
def signature (p : Property) : String :=
  let flags := p.flags.toList
  p.type ++ " " ++ p.name ++
    if flags.isEmpty then "" else " [" ++ ", ".intercalate (flags.map Flag.word) ++ "]"

end Property

namespace Arg

/-- The documented type. -/
def docType (a : Arg) : DocType := .ofString a.type

/-- Type and name. -/
def signature (a : Arg) : String := a.type ++ " " ++ a.name

/-- The arguments on one line. -/
def listSignature (args : List Arg) : String := ", ".intercalate (args.map signature)

end Arg

namespace Method

/-- The documented types of the results. -/
def returnTypes (m : Method) : List DocType := m.returns.map DocType.ofString

/-- Results, name and arguments on one line; no result is written `void`. -/
def signature (m : Method) : String :=
  (if m.returns.isEmpty then "void" else ", ".intercalate m.returns) ++
    " " ++ m.name ++ "(" ++ Arg.listSignature m.args ++ ")"

end Method

namespace SignalDecl

/-- Name and arguments on one line. -/
def signature (s : SignalDecl) : String := s.name ++ "(" ++ Arg.listSignature s.args ++ ")"

end SignalDecl

namespace Entry

/-- The name of the member. -/
def name : Entry → String
  | property p => p.name
  | method m => m.name
  | signal s => s.name

end Entry

namespace Interface

/-- The placeholder for the adapter in an object path. -/
def adapterPlaceholder : String := "\x7bhci0,hci1,...\x7d"

/-- The last segment of the name. -/
def shortName (i : Interface) : String :=
  String.ofList ((splitOn '.' i.name.toList).getLastD [])

/-- The object path ends in the adapter placeholder: the id of an adapter addresses the object. -/
def scopedToAdapter (i : Interface) : Bool :=
  endsWith adapterPlaceholder.toList (trimEnd i.objectPath.toList)

/-- Objects of the interface stand at the top of an object hierarchy: the path is that of an
adapter, or has no placeholder at all. -/
def rootsHierarchy (i : Interface) : Bool :=
  let path := trim i.objectPath.toList
  !path.isEmpty && (i.scopedToAdapter || (!path.contains '{' && !path.contains '['))

end Interface

namespace Api

/-- The first interface with the given name. -/
def get? (api : Api) (name : String) : Option Interface :=
  api.interfaces.find? fun i => i.name == name

/-- The names of the interfaces. -/
def names (api : Api) : List String := api.interfaces.map Interface.name

end Api

end BusDoc
