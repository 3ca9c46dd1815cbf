import BusDoc.Binding.Output
import BusDoc.Corpus.Compile
import BusDoc.Toml.Parser
import BusDoc.Toml.Writer

/-!
# Settings

The settings of a run, as a TOML document holds them. A missing key leaves the default, and an
unknown key means nothing. The path prefix has to be absolute, and the path of the runtime library
has to consist of identifiers.
-/

namespace BusDoc

open Text

namespace Doc.Policy

/-- The policy in settings. -/
def word : Policy → String
  | .skipMalformed => "skip_malformed"
  | .abort => "abort"

/-- The policy with the given word. -/
def ofWord? (word : String) : Option Policy :=
  [skipMalformed, abort].find? fun p => p.word = word

end Doc.Policy

/-- The settings of a run. -/
structure Settings where
  /-- The directory with the documentation. -/
  sourceRoot : String := "doc"
  /-- The directory that modules are generated below. -/
  outputRoot : String := "src/gen"
  /-- Substrings of interface names to keep; none keeps every interface. -/
  filters : List String := []
  policy : Doc.Policy := .skipMalformed
  /-- The object path that the ids of adapters are joined to. -/
  pathRoot : String := Binding.defaultPathRoot
  /-- The path of the runtime library. -/
  runtime : String := Binding.defaultRuntime
  /-- Leave files alone whose text would not change. -/
  skipUnchanged : Bool := true
  /-- The file for the documented interfaces, if they are to be written. -/
  exportFile : Option String := none
  deriving DecidableEq, Repr

/-- The parts of a text between double colons. -/
def splitColons : List Char → List (List Char)
  | [] => [[]]
  | ':' :: ':' :: s => [] :: splitColons s
  | c :: s =>
    match splitColons s with
    | [] => [[c]]
    | part :: rest => (c :: part) :: rest

/-- A path of identifiers. -/
def isRuntimePath (s : List Char) : Bool := (splitColons s).all Binding.isIdentifier

namespace Settings

/-- What is wrong with the settings. -/
def fault? (s : Settings) : Option SettingFault :=
  if !isAbsolutePath s.pathRoot then some (.relativePath s.pathRoot)
  else if !isRuntimePath s.runtime.toList then some (.runtimePath s.runtime)
  else none

/-- The options for compiling. -/
def compileOptions (s : Settings) : CompileOptions := { policy := s.policy, filters := s.filters }

/-- The options for generating. -/
def generateOptions (s : Settings) : Binding.GenerateOptions :=
  { runtime := s.runtime, pathRoot := s.pathRoot, skipUnchanged := s.skipUnchanged }

/-! ## Reading and writing -/

/-- The value of a key, read by `read`, or the default if the key is missing. -/
def field? {α : Type} (entries : List (String × Toml)) (key : String) (default : α)
    (read : Toml → Option α) : Option α :=
  match entryOf? key entries with
  | none => some default
  | some v => read v

/-- The settings that the entries of a document hold. -/
def ofEntries? (entries : List (String × Toml)) : Option Settings := do
  let d : Settings := {}
  return {
    sourceRoot := ← field? entries "source_root" d.sourceRoot Toml.asText?
    outputRoot := ← field? entries "output_root" d.outputRoot Toml.asText?
    filters := ← field? entries "filters" d.filters Toml.asTexts?
    policy := ← field? entries "parse_policy" d.policy fun v =>
      v.asTag?.bind Doc.Policy.ofWord?
    pathRoot := ← field? entries "path_prefix" d.pathRoot Toml.asText?
    runtime := ← field? entries "runtime_crate" d.runtime Toml.asText?
    skipUnchanged := ← field? entries "skip_unchanged" d.skipUnchanged Toml.asBool?
    exportFile := ← field? entries "export_json" d.exportFile fun v => v.asText?.map some }

/-- The entries of a document that holds the settings. -/
def toEntries (s : Settings) : List (String × Toml) :=
  [("source_root", .text s.sourceRoot), ("output_root", .text s.outputRoot),
    ("filters", .array (s.filters.map .text)), ("parse_policy", .text s.policy.word),
    ("path_prefix", .text s.pathRoot), ("runtime_crate", .text s.runtime),
    ("skip_unchanged", .boolean s.skipUnchanged)] ++
    match s.exportFile with
    | some file => [("export_json", .text file)]
    | none => []

/-- The settings that a document holds. -/
def ofDocument (document : String) : Except Error Settings :=
  match (Toml.parse? document).bind ofEntries? with
  | none => .error (.serialization .tomlRead)
  | some s =>
    match s.fault? with
    | some fault => .error (.setting fault)
    | none => .ok s

/-- A document that holds the settings. -/
def toDocument (s : Settings) : String := Toml.write s.toEntries

/-! ## Files -/

/-- The settings with relative paths taken from a directory. -/
def relativeTo (base : String) (s : Settings) : Settings :=
  { s with
    sourceRoot := joinPath base s.sourceRoot
    outputRoot := joinPath base s.outputRoot
    exportFile := s.exportFile.map (joinPath base) }

/-- The settings of the file that a path names. Relative paths in it are taken from its
directory. -/
def load (t : FileTree) (path : String) : Except Error Settings := do
  let file := FilePath.ofText path
  if !t.occupied file then
    throw (.notFound s!"configuration file {quoted path} does not exist")
  let s ← ofDocument (← (t.read file).mapError .ofTreeFault)
  match parentPath? path with
  | some base => return s.relativeTo base
  | none => return s

/-- The settings written to the file that a path names. -/
def save (s : Settings) (t : FileTree) (path : String) : Except Error FileTree :=
  (t.write (.ofText path) (.text s.toDocument)).mapError .ofTreeFault

end Settings

end BusDoc
