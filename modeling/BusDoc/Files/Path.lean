import BusDoc.Text.Lines

/-!
# Paths of files

A path as it is written is text with slashes. Joining an absolute path to another gives the
absolute one. A `FilePath` holds the steps that a written path asks for; where they lead is for a
tree of files to say. A `Location` holds the names that lead straight to a file or directory.
-/

namespace BusDoc

open Text

/-! ## Written paths -/

/-- The path begins at the root of the file system. -/
def isAbsolutePath (path : String) : Bool := path.toList.head? = some '/'

/-- The path behind a base, unless it is absolute itself. -/
def joinPath (base path : String) : String :=
  if isAbsolutePath path then path
  else if base.toList.isEmpty || base.toList.getLast? = some '/' then base ++ path
  else base ++ "/" ++ path

/-- A path read backwards, without the slashes and the single dots it starts with then. -/
def dropSlashes : List Char → List Char
  | '/' :: s => dropSlashes s
  | '.' :: '/' :: s => dropSlashes ('/' :: s)
  | s => s

/-- The directory that a path lies in, as the beginning of the path; `none` for the root and for
the empty path. -/
def parentPath? (path : String) : Option String :=
  let body := dropSlashes path.toList.reverse
  if body.isEmpty then none
  else
    let parent := (dropSlashes (body.dropWhile (· ≠ '/'))).reverse
    some (if parent.isEmpty && isAbsolutePath path then "/" else String.ofList parent)

/-! ## Locations -/

/-- The names that lead from the top of a file tree to a file or directory. -/
abbrev Location := List String

/-- The text of a location below another. -/
def Location.text (l : Location) : String := "/".intercalate l

/-- Where one step leads from a location: a dot stays, two dots go up. -/
def stepInto (here : Location) (step : String) : Location :=
  if step = "." then here else if step = ".." then here.dropLast else here ++ [step]

/-! ## Paths to follow -/

/-- A path to a file or directory, followed from the top of a file tree. -/
structure FilePath where
  /-- What stands between the slashes, from the left. Slashes in a row count as one. -/
  steps : List String
  /-- The path ends in a slash, so that only a directory can stand there. -/
  slash : Bool := false
  deriving DecidableEq, Repr

namespace FilePath

/-- The path that is written so. -/
def ofText (text : String) : FilePath where
  steps := ((splitOn '/' text.toList).filter (· ≠ [])).map String.ofList
  slash := text.toList.getLast? = some '/'

/-- The path of a location below the directory of this path. -/
def below (p : FilePath) (l : Location) : FilePath := ⟨p.steps ++ l, false⟩

/-- The path without its last step. -/
def parent (p : FilePath) : FilePath := ⟨p.steps.dropLast, false⟩

/-- The number of bytes of the path, with a slash in front of each step. -/
def size (p : FilePath) : Nat := p.steps.foldl (fun n s => n + 1 + s.utf8ByteSize) 0

end FilePath

end BusDoc
