import BusDoc.Corpus.Assembly
import BusDoc.Doc.Entry
import BusDoc.Error

/-!
# Compiling a corpus

Sources are read in order into the interfaces they document. Each source is split into units;
units that the filters select are read and assembled. Under the skipping policy a malformed source
and a malformed block are reported and passed over; a name declared twice is always an error.
-/

namespace BusDoc

open Doc

/-- Something worth telling about a run. -/
inductive Diagnostic
  /-- A block was left out of its interface. -/
  | skipped (block : Skipped)
  /-- A source was passed over. -/
  | warning (message : String)
  /-- A remark on the run. -/
  | info (message : String)
  deriving DecidableEq, Repr

namespace Diagnostic

/-- The diagnostic on one line. -/
def text : Diagnostic → String
  | skipped s =>
    s!"{s.source}:{s.line}: skipped {s.kind.text} block of {s.interface}: {s.reason}"
  | warning message => s!"warning: {message}"
  | info message => s!"info: {message}"

/-- The diagnostic reports a block. -/
def isSkipped : Diagnostic → Bool
  | skipped _ => true
  | _ => false

end Diagnostic

/-- A documentation file: its name and its text. -/
structure Source where
  name : String
  content : String
  deriving DecidableEq, Repr, Inhabited

/-- What a run has produced. -/
structure Compiled where
  api : Api := {}
  diagnostics : List Diagnostic := []
  deriving Repr

/-- The number of blocks left out. -/
def Compiled.skippedCount (c : Compiled) : Nat := c.diagnostics.countP Diagnostic.isSkipped

/-- The state of a run between two units. -/
structure Run where
  registry : Registry := {}
  interfaces : List Interface := []
  diagnostics : List Diagnostic := []
  deriving Repr

/-- How a run treats its sources. -/
structure CompileOptions where
  policy : Policy := .skipMalformed
  /-- Substrings of interface names to keep; none keeps every interface. -/
  filters : List String := []
  deriving Repr

namespace CompileOptions

/-- The filters keep interfaces of this name. -/
def selects (o : CompileOptions) (interface : String) : Bool :=
  o.filters.isEmpty || o.filters.any fun f => Text.contains f.toList interface.toList

end CompileOptions

namespace Run

/-- One unit read and assembled. -/
def addUnit (o : CompileOptions) (origin : String) (run : Run) (u : DocUnit) :
    Except Error Run :=
  if !o.selects u.interface then .ok run
  else do
    let (entries, skips) ← (u.read o.policy).mapError .parse
    let (interface, registry) ←
      (run.registry.assemble u.header entries origin).mapError .assemble
    return {
      registry := registry
      interfaces := run.interfaces ++ [interface]
      diagnostics := run.diagnostics ++ skips.map .skipped }

/-- One source read. -/
def addSource (o : CompileOptions) (run : Run) (s : Source) : Except Error Run :=
  match splitUnits s.name s.content with
  | .ok units => units.foldlM (addUnit o s.name) run
  | .error e =>
    match o.policy with
    | .abort => .error (.parse e)
    | .skipMalformed =>
      .ok { run with diagnostics := run.diagnostics ++ [.warning e.message] }

/-- The result of a finished run. A run without interfaces says so. -/
def finish (run : Run) : Compiled where
  api := ⟨run.interfaces⟩
  diagnostics :=
    if run.interfaces.isEmpty then run.diagnostics ++ [.info "no interfaces found in corpus"]
    else run.diagnostics

end Run

/-- The corpus compiled: its sources read in order. -/
def compile (o : CompileOptions) (sources : List Source) : Except Error Compiled := do
  let run ← sources.foldlM (Run.addSource o) {}
  return run.finish

end BusDoc
