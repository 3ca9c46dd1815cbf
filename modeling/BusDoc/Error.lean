import BusDoc.Binding.Layout
import BusDoc.Corpus.Assembly
import BusDoc.Doc.Unit
import BusDoc.Files.Fault

/-!
# Errors

Everything that can go wrong, with one message for each case.
-/

namespace BusDoc

/-- Which format a text could not be read from or written to. -/
inductive Format
  | tomlRead | tomlWrite | json
  deriving DecidableEq, Repr

namespace Format

/-- The failing step in words. -/
def text : Format → String
  | tomlRead => "Toml deserialization error"
  | tomlWrite => "Toml serialization error"
  | json => "JSON (de)serialization error"

end Format

/-- A setting that is refused. -/
inductive SettingFault
  /-- The path prefix is not absolute. -/
  | relativePath (value : String)
  /-- The path of the runtime library is malformed. -/
  | runtimePath (value : String)
  deriving DecidableEq, Repr

namespace SettingFault

/-- The fault in words. -/
def message : SettingFault → String
  | relativePath value =>
    s!"path_prefix must be an absolute object path, got {Text.quoted value}"
  | runtimePath value => s!"runtime_crate must be a Rust path, got {Text.quoted value}"

end SettingFault

/-- An error of any part of the library. -/
inductive Error
  | parse (e : Doc.ParseError)
  | assemble (e : AssembleError)
  | generate (e : Binding.GenerateError)
  | marshal (e : MarshalError)
  | setting (fault : SettingFault)
  | file (fault : FileFault)
  | notFound (what : String)
  | permissionDenied
  | serialization (format : Format)
  | transport (message : String)
  deriving DecidableEq, Repr

namespace Error

/-- The error in words. -/
def message : Error → String
  | parse e => "Parse error: " ++ e.message
  | assemble e => "Assembly error: " ++ e.message
  | generate e => "Generation error: " ++ e.message
  | marshal e => "Marshalling error: " ++ e.message
  | setting fault => "Invalid configuration: " ++ fault.message
  | file fault => "File System error: IOError: " ++ fault.text
  | notFound what => "Item Not Found: " ++ what
  | permissionDenied => "You do not have permission to access this resource"
  | serialization format => "(De)Serialization error: " ++ format.text
  | transport message => "Transport error: " ++ message

/-- A failed file operation as an error, described by `what` if something is missing. -/
def ofFileFault (what : String) : FileFault → Error
  | .notFound => notFound what
  | .permissionDenied => permissionDenied
  | fault => file fault

/-- What the system says of a missing file. -/
def missingFile : String := "No such file or directory (os error 2)"

/-- A fault of the file tree as an error. -/
def ofTreeFault (fault : FileFault) : Error := ofFileFault missingFile fault

end Error

end BusDoc
