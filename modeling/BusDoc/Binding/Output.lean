import BusDoc.Error
import BusDoc.Files.Tree

/-!
# Writing the generated modules

All modules are planned and rendered before the first file is written, so a fault of any interface
leaves the destination untouched. A file whose text would not change is left alone if so wished.
-/

namespace BusDoc.Binding

/-- How modules are generated. -/
structure GenerateOptions extends RenderOptions where
  /-- Leave files alone whose text would not change. -/
  skipUnchanged : Bool := true
  deriving DecidableEq, Repr

/-- The files that a run wrote and those it left alone, as locations below the destination. -/
structure Report where
  written : List Location := []
  unchanged : List Location := []
  deriving DecidableEq, Repr

/-- The number of files of the run. -/
def Report.total (r : Report) : Nat := r.written.length + r.unchanged.length

/-- A file to be written: its location below the destination and its text. -/
structure OutputFile where
  location : Location
  text : String
  deriving DecidableEq, Repr

/-- The module files of placed interfaces, in their order. -/
def moduleFiles (o : RenderOptions) : List Placed → Except GenerateError (List OutputFile)
  | [] => .ok []
  | p :: rest =>
    match render o p.interface with
    | .error fault => .error (.render p.interface.name fault)
    | .ok text => do
      let files ← moduleFiles o rest
      return ⟨p.path.file, text⟩ :: files

/-- The files that list the modules of each directory, in the order of the directories. -/
def listFiles (paths : List ModulePath) : List OutputFile :=
  (directoriesOf paths).map fun d => ⟨d ++ [listFileName], listText (modulesIn paths d)⟩

/-- All files of a run, in the order in which they are written. -/
def outputFiles (o : RenderOptions) (interfaces : List Interface) :
    Except GenerateError (List OutputFile) := do
  let placed ← plan interfaces
  let modules ← moduleFiles o placed
  return modules ++ listFiles (placed.map Placed.path)

/-- The file at its place below the destination already has the text that would be written. -/
def upToDate (t : FileTree) (root : FilePath) (f : OutputFile) : Except FileFault Bool :=
  if t.occupied (root.below f.location) then do
    return (← t.read (root.below f.location)) = f.text
  else .ok false

/-- One file written below the destination, or left alone. On a fault, the tree as it is then. -/
def writeFile (skipUnchanged : Bool) (root : FilePath) (t : FileTree) (f : OutputFile) :
    Except FileFault Bool × FileTree :=
  match if skipUnchanged then upToDate t root f else .ok false with
  | .error fault => (.error fault, t)
  | .ok true => (.ok false, t)
  | .ok false =>
    match t.makeDirectories (root.below f.location).parent with
    | (.error fault, t) => (.error fault, t)
    | (.ok (), t) =>
      match t.write (root.below f.location) (.text f.text) with
      | .error fault => (.error fault, t)
      | .ok t => (.ok true, t)

/-- The files written one after the other, up to the first fault. -/
def writeFiles (skipUnchanged : Bool) (root : FilePath) :
    FileTree → List OutputFile → Except FileFault Report × FileTree
  | t, [] => (.ok {}, t)
  | t, f :: rest =>
    match writeFile skipUnchanged root t f with
    | (.error fault, t) => (.error fault, t)
    | (.ok wrote, t) =>
      match writeFiles skipUnchanged root t rest with
      | (.error fault, t) => (.error fault, t)
      | (.ok r, t) =>
        (.ok (if wrote then { r with written := f.location :: r.written }
          else { r with unchanged := f.location :: r.unchanged }), t)

/-- The modules of the interfaces generated below a destination, and the tree that is left. -/
def generate (o : GenerateOptions) (interfaces : List Interface) (root : FilePath) (t : FileTree) :
    Except Error Report × FileTree :=
  match outputFiles o.toRenderOptions interfaces with
  | .error e => (.error (.generate e), t)
  | .ok files =>
    match writeFiles o.skipUnchanged root t files with
    | (.error fault, t) => (.error (.ofTreeFault fault), t)
    | (.ok report, t) => (.ok report, t)

end BusDoc.Binding
