import BusDoc.Corpus.Compile
import BusDoc.Files.Tree

/-!
# Finding documentation

The documentation below a directory: the text files that are not hidden, in the order of their
locations. A file is hidden if a dot starts its name or that of a directory between it and the
root. Each source is named by its location below the root.
-/

namespace BusDoc

open Text

/-- A name that is not shown. -/
def isHidden (name : String) : Bool := name.toList.head? = some '.'

/-- The ending of the names of documentation files. -/
def documentEnding : String := ".txt"

/-- The file at a location below the root is documentation. -/
def isDocument (l : Location) : Bool :=
  !l.any isHidden &&
    match l.getLast? with
    | some name => endsWith documentEnding.toList name.toList
    | none => false

/-- The documentation files below a directory. -/
def documentsBelow (t : FileTree) (root : Location) : List (Location × Content) :=
  (t.filesBelow root).filter fun f => isDocument f.1

/-- The sources that files hold, up to the first file that is no text. -/
def sourcesOf : List (Location × Content) → List Source × Option FileFault
  | [] => ([], none)
  | (l, .text s) :: files =>
    let (sources, fault) := sourcesOf files
    (⟨l.text, s⟩ :: sources, fault)
  | (_, .binary _) :: _ => ([], some .invalidData)

/-- What a search for documentation gives. -/
structure Discovery where
  /-- The sources that were read. -/
  sources : List Source := []
  /-- The number of files, or why not all of them could be read. -/
  outcome : Except Error Nat

/-- The documentation below a directory. -/
def discoverBelow (t : FileTree) (root : Location) : Discovery :=
  let files := documentsBelow t root
  match sourcesOf files with
  | (sources, none) => ⟨sources, .ok files.length⟩
  | (sources, some fault) => ⟨sources, .error (.ofTreeFault fault)⟩

/-- The documentation below the directory that a path names. -/
def discover (t : FileTree) (root : String) : Discovery :=
  match t.directory (.ofText root) with
  | .ok l => discoverBelow t l
  | .error _ => ⟨[], .error (.notFound s!"documentation root {quoted root} is not a directory")⟩

/-- A queue of sources with the documentation below a directory put behind it. Where a file cannot
be read, those before it are in the queue already. -/
def addDirectory (t : FileTree) (root : String) (queue : List Source) :
    Except Error Nat × List Source :=
  let found := discover t root
  (found.outcome, queue ++ found.sources)

end BusDoc
