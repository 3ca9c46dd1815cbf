import BusDoc.Api.Json
import BusDoc.Corpus.Discovery
import BusDoc.Settings

/-!
# A whole run

The documentation below the source root is compiled, the interfaces are written out if the settings
ask for it, and the modules are generated below the output root. What was written before a failure
stays.
-/

namespace BusDoc

/-- What a successful run gives. -/
structure Built where
  compiled : Compiled
  report : Binding.Report

/-- The interfaces written to the file that a path names, if any. -/
def exportApi (api : Api) (file : Option String) (t : FileTree) : Except FileFault FileTree :=
  match file with
  | some path => t.write (.ofText path) (.text api.toDocument)
  | none => .ok t

/-- The documentation that the settings name, compiled. -/
def compileSettings (s : Settings) (t : FileTree) : Except Error Compiled := do
  let (outcome, sources) := addDirectory t s.sourceRoot []
  discard outcome
  compile s.compileOptions sources

/-- A run with the settings, and the tree that it leaves. -/
def build (s : Settings) (t : FileTree) : Except Error Built × FileTree :=
  match compileSettings s t with
  | .error e => (.error e, t)
  | .ok compiled =>
    match exportApi compiled.api s.exportFile t with
    | .error fault => (.error (.ofTreeFault fault), t)
    | .ok t =>
      match Binding.generate s.generateOptions compiled.api.interfaces (.ofText s.outputRoot) t with
      | (.error e, t) => (.error e, t)
      | (.ok report, t) => (.ok ⟨compiled, report⟩, t)

end BusDoc
