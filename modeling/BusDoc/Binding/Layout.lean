import BusDoc.Binding.Client
import BusDoc.Files.Path
import BusDoc.SortedSet

/-!
# Layout of the generated modules

The dotted name of an interface gives the place of its module: the last segment becomes the file,
the others the directories. Two interfaces may not share a file, and a file may not have the name
of a directory beside it. Every directory lists its modules in a file of its own.
-/

namespace BusDoc.Binding

open Text

/-- Why modules could not be generated. -/
inductive GenerateError
  /-- An interface has no module. -/
  | render (interface : String) (fault : RenderFault)
  /-- Two interfaces need the same place. -/
  | outputCollision (place : String) (first second : String)
  /-- Text could not be formatted. -/
  | format (message : String)
  deriving DecidableEq, Repr

namespace GenerateError

/-- The error in words. -/
def message : GenerateError → String
  | render interface fault => s!"Cannot render interface '{interface}': {fault.message}"
  | outputCollision place first second =>
    s!"Interfaces '{first}' and '{second}' both map to output {quoted place}"
  | format message => s!"Formatting failed: {message}"

end GenerateError

/-- The place of a module: its directories and the name of the module in the last of them. -/
structure ModulePath where
  directories : List String
  stem : String
  deriving DecidableEq, Repr

namespace ModulePath

/-- The file that holds the module. -/
def file (p : ModulePath) : Location := p.directories ++ [p.stem ++ ".rs"]

/-- The directory that would hold the modules inside the module. -/
def asDirectory (p : ModulePath) : Location := p.directories ++ [p.stem]

end ModulePath

/-- The place of the module of an interface. -/
def modulePath (interface : String) : Except RenderFault ModulePath :=
  let segments := splitOn '.' interface.toList
  if segments.any List.isEmpty then .error .emptySegment
  else
    let file := snakeCase (segments.getLastD [])
    if file.isEmpty then .error .noFileName
    else .ok {
      directories := segments.dropLast.map fun s => String.ofList (moduleIdent s)
      stem := String.ofList (moduleIdent file) }

/-- An interface with the place of its module. -/
structure Placed where
  path : ModulePath
  interface : Interface
  deriving Repr

/-- The interfaces with their places; no two may share a file. -/
def placeAll : (placed : List Placed) → List Interface → Except GenerateError (List Placed)
  | _, [] => .ok []
  | placed, i :: rest =>
    match modulePath i.name with
    | .error fault => .error (.render i.name fault)
    | .ok path =>
      match placed.find? fun p => p.path = path with
      | some first => .error (.outputCollision path.file.text first.interface.name i.name)
      | none => do
        let others ← placeAll (placed ++ [⟨path, i⟩]) rest
        return ⟨path, i⟩ :: others

/-- The first pair of interfaces of which one's file has the name of a directory that the other
lies in. -/
def shadowing? (placed : List Placed) : Option (Placed × Placed) :=
  placed.findSome? fun p =>
    (placed.find? fun q => p.path.asDirectory.isPrefixOf q.path.directories).map fun q => (p, q)

/-- The places of all interfaces, if none collides with another. -/
def plan (interfaces : List Interface) : Except GenerateError (List Placed) := do
  let placed ← placeAll [] interfaces
  match shadowing? placed with
  | some (p, q) =>
    throw (.outputCollision p.path.asDirectory.text p.interface.name q.interface.name)
  | none => return placed

/-! ## Module lists -/

/-- A location and all locations above it, from the top. -/
def withAbove (l : Location) : List Location := (List.range (l.length + 1)).map fun n => l.take n

/-- The directories that hold modules, in order; the top is always one of them. -/
def directoriesOf (paths : List ModulePath) : List Location :=
  sortUnique ([] :: paths.flatMap fun p => withAbove p.directories)

/-- The modules of a directory: the files in it and the directories directly in it. -/
def modulesIn (paths : List ModulePath) (directory : Location) : NameSet :=
  NameSet.ofList
    ((paths.filter fun p => p.directories = directory).map ModulePath.stem ++
      (directoriesOf paths).filterMap fun d =>
        if d.dropLast = directory then d.getLast? else none)

/-- The name of the file that lists the modules of a directory. -/
def listFileName : String := "mod.rs"

/-- The text of the file that lists the modules of a directory. -/
def listText (modules : NameSet) : String :=
  banner ++ "\n\n" ++ String.join (modules.names.map fun m => "pub mod " ++ m ++ ";\n")

end BusDoc.Binding
