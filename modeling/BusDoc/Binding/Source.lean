import BusDoc.Api.DocType
import BusDoc.Text.Quoted

/-!
# Generated source

The module that is generated for one interface, as a value: its imports, constants, property
record and client with its functions. `ClientModule.text` prints it. Documentation enters only as
doc lines, which are printed behind `///` or `//!`.
-/

namespace BusDoc

namespace FieldType

/-- The type in generated source. -/
def spelling : FieldType → String
  | bool => "bool"
  | byte => "u8"
  | int16 => "i16"
  | uint16 => "u16"
  | int32 => "i32"
  | uint32 => "u32"
  | string => "String"
  | path => "ObjectPath"
  | bytes => "Vec<u8>"
  | array => "Vec<Variant>"
  | strings => "Vec<String>"
  | paths => "Vec<ObjectPath>"
  | dict => "PropertyMap"
  | variant => "Variant"

end FieldType

namespace Binding

open Text

/-- The first line of every generated file. -/
def banner : String := "// Code generated by docbind. DO NOT EDIT."

/-- A line of documentation, indented. -/
def docLine (indent doc : String) : String :=
  if doc = "" then indent ++ "///" else indent ++ "/// " ++ doc

/-- A named and typed parameter. -/
structure Param where
  name : String
  type : String
  deriving DecidableEq, Repr

/-- A function of a client. -/
structure FnDecl where
  docs : List String
  name : String
  /-- The function is called on a client. -/
  onClient : Bool := true
  params : List Param := []
  result : String
  body : List String
  deriving DecidableEq, Repr

namespace FnDecl

/-- The parameter list as printed. -/
def paramText (f : FnDecl) : String :=
  ", ".intercalate
    ((if f.onClient then ["&self"] else []) ++ f.params.map fun p => p.name ++ ": " ++ p.type)

/-- The lines of the function. -/
def lines (f : FnDecl) : List String :=
  f.docs.map (docLine "    ") ++
    ["    pub fn " ++ f.name ++ "(" ++ f.paramText ++ ") -> " ++ f.result ++ " \x7b"] ++
    f.body.map ("        " ++ ·) ++ ["    \x7d"]

end FnDecl

/-- A text constant. -/
structure ConstDecl where
  docs : List String := []
  name : String
  value : String
  deriving DecidableEq, Repr

namespace ConstDecl

/-- The lines of the constant. -/
def lines (c : ConstDecl) : List String :=
  c.docs.map (docLine "") ++ ["pub const " ++ c.name ++ ": &str = " ++ quoted c.value ++ ";"]

end ConstDecl

/-- A field of a property record. -/
structure FieldDecl where
  /-- The name of the property on the bus. -/
  property : String
  writable : Bool
  docs : List String
  name : String
  type : String
  deriving DecidableEq, Repr

namespace FieldDecl

/-- The lines of the field. -/
def lines (f : FieldDecl) : List String :=
  ["        #[property(" ++ quoted f.property ++ (if f.writable then ", \"writable\"" else "") ++
    ")]"] ++
    f.docs.map (docLine "        ") ++ ["        pub " ++ f.name ++ ": " ++ f.type ++ ","]

end FieldDecl

/-- The record of the properties of an interface. -/
structure RecordDecl where
  name : String
  fields : List FieldDecl
  deriving DecidableEq, Repr

/-- The client of an interface. -/
structure ClientDecl where
  docs : List String
  name : String
  functions : List FnDecl
  deriving DecidableEq, Repr

/-- Names that a module imports from one part of the runtime; no part is its top level. -/
structure Import where
  part : String
  names : List String
  deriving DecidableEq, Repr

/-- What every generated module imports from the runtime. -/
def runtimeImports : List Import := [
  ⟨"client", ["Client", "ClientConfig", "ObjectWatch", "PropertyStore", "PropertyWatch", "Returns",
    "SignalWatch", "Transport"]⟩,
  ⟨"variant", ["ObjectPath", "PropertyMap", "Variant"]⟩,
  ⟨"", ["DocbindError"]⟩]

/-- What every generated module imports from the standard library. -/
def standardImports : List Import := [⟨"std::sync", ["Arc"]⟩]

namespace Import

/-- The import inside the braces of the runtime import. -/
def line (i : Import) : String :=
  if i.part = "" then "    " ++ ", ".intercalate i.names ++ ","
  else "    " ++ i.part ++ "::\x7b" ++ ", ".intercalate i.names ++ "\x7d,"

/-- The import on a line of its own. -/
def useLine (i : Import) : String := "use " ++ i.part ++ "::" ++ ", ".intercalate i.names ++ ";"

end Import

/-- The module of one interface. -/
structure ClientModule where
  /-- The name of the interface. -/
  interface : String
  /-- The title of the documentation unit; empty if there is none. -/
  title : String
  /-- The path of the runtime library. -/
  runtime : String
  constants : List ConstDecl
  record : RecordDecl
  client : ClientDecl
  deriving DecidableEq, Repr

namespace ClientModule

/-- The names that the module brings into scope at its top level as types. -/
def typeNames (m : ClientModule) : List String :=
  (standardImports ++ runtimeImports).flatMap Import.names ++ [m.client.name, m.record.name]

/-- The lines up to the constants. -/
def headLines (m : ClientModule) : List String :=
  [banner, "", "//! `" ++ m.interface ++ "`"] ++
    (if m.title = "" then [] else ["//!", "//! " ++ m.title]) ++
    ["", "#![allow(unused_imports)]", ""] ++ standardImports.map Import.useLine ++
    ["", "use " ++ m.runtime ++ "::\x7b"] ++ runtimeImports.map Import.line ++ ["\x7d;", ""]

/-- The lines of the property record. -/
def recordLines (m : ClientModule) : List String :=
  [m.runtime ++ "::property_record! \x7b",
    "    /// Properties exposed by `" ++ m.interface ++ "`.",
    "    #[derive(Debug, Clone, Default, PartialEq)]",
    "    pub struct " ++ m.record.name ++ " \x7b"] ++
    m.record.fields.flatMap FieldDecl.lines ++ ["    \x7d", "\x7d", ""]

/-- The lines of the client type. -/
def clientLines (m : ClientModule) : List String :=
  m.client.docs.map (docLine "") ++
    ["#[derive(Debug, Clone)]",
      "pub struct " ++ m.client.name ++ " \x7b",
      "    client: Client,",
      "    properties: PropertyStore<" ++ m.record.name ++ ">,",
      "\x7d", ""]

/-- The lines of the client's functions, an empty line between two of them. -/
def functionLines : List FnDecl → List String
  | [] => []
  | [f] => f.lines
  | f :: fs => f.lines ++ "" :: functionLines fs

/-- The lines of the module. -/
def lines (m : ClientModule) : List String :=
  m.headLines ++ m.constants.flatMap ConstDecl.lines ++ [""] ++ m.recordLines ++ m.clientLines ++
    ["impl " ++ m.client.name ++ " \x7b"] ++ functionLines m.client.functions ++ ["\x7d"]

/-- The source text of the module. -/
def text (m : ClientModule) : String := String.join (m.lines.map (· ++ "\n"))

end ClientModule

end Binding

end BusDoc
