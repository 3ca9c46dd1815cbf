import BusDoc.Files.Fault
import BusDoc.Files.Path
import BusDoc.OrderedMap
import BusDoc.SortedSet

/-!
# File trees

A file system as a value: locations mapped to files and directories. The top of the tree, the
empty location, is a directory that is always there. A path is followed step by step, and every
step, also one up or one that stays, starts at a directory. Operations give the tree they leave, or
the fault they met.

* `node?_put_of_ne`: putting a node at one location leaves every other location as it was.
* `put_self`: putting what is there changes nothing.
-/

namespace BusDoc

/-- What a file holds: text, or bytes that are no text. -/
inductive Content
  | text (value : String)
  | binary (bytes : List UInt8)
  deriving DecidableEq, Repr

/-- What stands at a location. -/
inductive Node
  | file (content : Content)
  | directory
  deriving DecidableEq, Repr

/-- Files and directories by location. -/
structure FileTree where
  nodes : OrderedMap Location Node := OrderedMap.empty
  deriving Repr

namespace FileTree

/-- The tree with nothing in it. -/
def empty : FileTree := {}

/-- What stands at a location. -/
def node? (t : FileTree) (loc : Location) : Option Node :=
  if loc = [] then some .directory else t.nodes.get? loc

/-- The tree with a node put at a location. -/
def put (t : FileTree) (loc : Location) (n : Node) : FileTree := ⟨t.nodes.insert loc n⟩

/-! ## Following paths -/

/-- The largest number of bytes of a name. -/
def nameLimit : Nat := 255

/-- The largest number of bytes of a path. -/
def pathLimit : Nat := 4095

/-- What is wrong with a path, wherever it is followed: it has a null character in it, it is empty,
or it is too long. -/
def pathFault? (p : FilePath) : Option FileFault :=
  if p.steps.any fun s => s.toList.contains '\x00' then some .invalidInput
  else if p.steps = [] ∧ !p.slash then some .notFound
  else if pathLimit < p.size then some .invalidFilename
  else none

/-- The fault of taking a location for a directory. -/
def directoryFault? (t : FileTree) (loc : Location) : Option FileFault :=
  match t.node? loc with
  | some .directory => none
  | some (.file _) => some .notDirectory
  | none => some .notFound

/-- The location that steps lead to. Something need not stand there yet. -/
def follow (t : FileTree) : (here : Location) → List String → Except FileFault Location
  | here, [] => .ok here
  | here, step :: rest =>
    match t.directoryFault? here with
    | some fault => .error fault
    | none =>
      if nameLimit < step.utf8ByteSize then .error .invalidFilename
      else t.follow (stepInto here step) rest

/-- The location that a path leads to, with or without a slash at its end. -/
def locate (t : FileTree) (p : FilePath) : Except FileFault Location :=
  match pathFault? p with
  | some fault => .error fault
  | none => t.follow [] p.steps

/-- The location of the directory that a path names. -/
def directory (t : FileTree) (p : FilePath) : Except FileFault Location := do
  let l ← t.locate p
  match t.directoryFault? l with
  | some fault => .error fault
  | none => return l

/-- The location of what a path names. -/
def find (t : FileTree) (p : FilePath) : Except FileFault Location := do
  if p.slash then t.directory p
  else
    let l ← t.locate p
    if (t.node? l).isSome then return l else .error .notFound

/-- Something stands where the path leads. -/
def occupied (t : FileTree) (p : FilePath) : Bool := (t.find p).isOk

/-- A directory stands where the path leads. -/
def isDirectory (t : FileTree) (p : FilePath) : Bool := (t.directory p).isOk

/-! ## Files -/

/-- The text of the file that a path names. -/
def read (t : FileTree) (p : FilePath) : Except FileFault String := do
  match t.node? (← t.find p) with
  | some (.file (.text s)) => .ok s
  | some (.file (.binary _)) => .error .invalidData
  | some .directory => .error .isDirectory
  | none => .error .notFound

/-- The location at which a path has a file written. A path that ends in a slash asks for a
directory, whatever stands there. -/
def placeOf (t : FileTree) (p : FilePath) : Except FileFault Location :=
  match pathFault? p with
  | some fault => .error fault
  | none => do
    if p.slash then
      discard (t.directory ⟨p.steps.dropLast, true⟩)
      .error .isDirectory
    else
      let l ← t.locate p
      if t.node? l = some .directory then .error .isDirectory else return l

/-- The tree with a file written where a path leads. The directory it lies in must be there. -/
def write (t : FileTree) (p : FilePath) (content : Content) : Except FileFault FileTree := do
  return t.put (← t.placeOf p) (.file content)

/-! ## Directories -/

/-- The tree with a new directory where a path leads. The directory it lies in must be there. -/
def makeDirectory (t : FileTree) (p : FilePath) : Except FileFault FileTree := do
  let l ← t.locate p
  if (t.node? l).isSome then .error .alreadyExists else return t.put l .directory

/-- The tree with a directory where a path leads, new unless one is there. -/
def ensureDirectory (t : FileTree) (p : FilePath) : Except FileFault FileTree :=
  match t.makeDirectory p with
  | .ok t => .ok t
  | .error fault => if t.isDirectory p then .ok t else .error fault

/-- A directory made at the end of steps, which are given backwards. Where it cannot be made
because something on the way is missing, the steps before the last one are made first. A fault
leaves the directories that were made before it. -/
def makeDirectoriesBack (t : FileTree) : (back : List String) → Except FileFault Unit × FileTree
  | [] => (.ok (), t)
  | step :: back =>
    let p : FilePath := ⟨(step :: back).reverse, false⟩
    match t.ensureDirectory p with
    | .ok t => (.ok (), t)
    | .error .notFound =>
      match t.makeDirectoriesBack back with
      | (.error fault, t) => (.error fault, t)
      | (.ok (), t) =>
        match t.ensureDirectory p with
        | .ok t => (.ok (), t)
        | .error fault => (.error fault, t)
    | .error fault => (.error fault, t)

/-- A directory made where a path leads, with all that are missing on the way. -/
def makeDirectories (t : FileTree) (p : FilePath) : Except FileFault Unit × FileTree :=
  t.makeDirectoriesBack p.steps.reverse

/-! ## The tree as a whole -/

/-- The tree without a location and all that lies below it. -/
def erase (t : FileTree) (loc : Location) : FileTree where
  nodes := {
    entries := t.nodes.entries.filter fun e => !loc.isPrefixOf e.1
    keys_nodup := by
      exact List.Nodup.sublist (List.Sublist.map _ List.filter_sublist) t.nodes.keys_nodup }

/-- The tree without what a path leads to and all that lies below it. -/
def remove (t : FileTree) (p : FilePath) : Except FileFault FileTree := do
  return t.erase (← t.find p)

/-- The files below a directory, each with its location from there, sorted by location: the files
of a directory come in the order of their names, and those in a directory stand where its name
does. -/
def filesBelow (t : FileTree) (root : Location) : List (Location × Content) :=
  let files := t.nodes.entries.filterMap fun e => match e.2 with
    | .file c => if root.isPrefixOf e.1 then some (e.1.drop root.length, c) else none
    | .directory => none
  (sortUnique (files.map Prod.fst)).filterMap fun l => (entryOf? l files).map fun c => (l, c)

theorem node?_put_of_ne (t : FileTree) {l l' : Location} (n : Node) (h : l ≠ l') :
    (t.put l n).node? l' = t.node? l' := by
  simp [node?, put, OrderedMap.get?_insert, h]

theorem node?_put (t : FileTree) {l : Location} (n : Node) (h : l ≠ []) :
    (t.put l n).node? l = some n := by
  simp [node?, put, OrderedMap.get?_insert, h]

theorem put_self {t : FileTree} {l : Location} {n : Node} (h : t.node? l = some n) (hl : l ≠ []) :
    t.put l n = t := by
  rw [node?, if_neg hl] at h
  rw [put, OrderedMap.insert_self h]

end FileTree

end BusDoc
