import BusDoc.Api.Interface
import BusDoc.Binding.Naming
import BusDoc.Binding.Source

/-!
# The client of an interface

`clientModule` lays out the module of an interface: a record with one field per property and a
client with the fixed functions, accessors for the flagged properties, one wrapper per method and
one watch per signal. Every name is checked where it is made: it must be an identifier, and no two
items of a client may share one.
-/

namespace BusDoc.Binding

open Text

/-- Why an interface has no module. -/
inductive RenderFault
  /-- The last segment of the interface name is no identifier. -/
  | typeName (name : String)
  /-- The name of an item is no identifier. -/
  | itemName (item : String)
  /-- Two items have one name. -/
  | itemTwice (item : String)
  /-- The name of a property gives no identifier. -/
  | fieldName (property : String)
  /-- Two fields have one name. -/
  | fieldTwice (field : String)
  /-- The name of an argument gives no identifier. -/
  | argName (arg member : String)
  /-- Two arguments of a method have one name. -/
  | argTwice (arg member : String)
  /-- The interface name has an empty segment. -/
  | emptySegment
  /-- The last segment of the interface name gives no file name. -/
  | noFileName
  deriving DecidableEq, Repr

namespace RenderFault

/-- The fault in words. -/
def message : RenderFault → String
  | typeName name => s!"'{name}' is not a valid type name"
  | itemName item => s!"'{item}' is not a valid identifier"
  | itemTwice item => s!"generated item '{item}' is defined twice"
  | fieldName property => s!"property '{property}' has no valid field name"
  | fieldTwice field => s!"record field '{field}' is defined twice"
  | argName arg member => s!"argument '{arg}' of {member} is not a valid identifier"
  | argTwice arg member => s!"argument '{arg}' of {member} is defined twice"
  | emptySegment => "interface name has an empty segment"
  | noFileName => "interface name has no usable file name"

end RenderFault

/-- The path of the runtime library unless another is given. -/
def defaultRuntime : String := "docbind_core"

/-- The object path of the adapters unless another is given. -/
def defaultPathRoot : String := "/org/bluez"

/-- What modules are generated for: the runtime they use and the path of adapters. -/
structure RenderOptions where
  /-- The path of the runtime library. -/
  runtime : String := defaultRuntime
  /-- The object path that the ids of adapters are joined to. -/
  pathRoot : String := defaultPathRoot
  deriving DecidableEq, Repr

/-- The doc lines of a paragraph: its lines, trimmed. -/
def docLines (docs : String) : List String :=
  (lines docs.toList).map fun l => String.ofList (trim l)

/-! ## Constants -/

/-- The name of the constant that holds the name of a signal. -/
def signalConst (s : SignalDecl) : String :=
  "SIGNAL_" ++ String.ofList (upperSnakeCase s.name.toList)

/-- The constants of the signals; no two may share a name. -/
def signalConstants : (taken : List String) → List SignalDecl → Except RenderFault (List ConstDecl)
  | _, [] => .ok []
  | taken, s :: rest =>
    if signalConst s ∈ taken then .error (.itemTwice (signalConst s))
    else do
      let constants ← signalConstants (signalConst s :: taken) rest
      return { name := signalConst s, value := s.name } :: constants

/-- The constants of an interface that do not come from its signals. -/
def headerConstants (o : RenderOptions) (i : Interface) : List ConstDecl :=
  [{ name := "INTERFACE", value := i.name }, { name := "SERVICE", value := i.service }] ++
    (if i.objectPath = "" then []
      else [{ docs := ["Documented object path pattern."], name := "OBJECT_PATH",
              value := i.objectPath }]) ++
    (if i.scopedToAdapter then [{ name := "PATH_PREFIX", value := o.pathRoot }] else [])

/-! ## The property record -/

/-- The identifier of a property's field. -/
def propertyIdent (p : Property) : List Char := fieldIdent p.name.toList

/-- The type of a property in generated source. -/
def propertyType (p : Property) : String := p.docType.fieldType.spelling

/-- The fields of the properties; no two may share a name. -/
def recordFields : (taken : List (List Char)) → List Property → Except RenderFault (List FieldDecl)
  | _, [] => .ok []
  | taken, p :: rest =>
    if !isIdentifier (propertyIdent p) then .error (.fieldName p.name)
    else if propertyIdent p ∈ taken then .error (.fieldTwice (String.ofList (propertyIdent p)))
    else do
      let fields ← recordFields (propertyIdent p :: taken) rest
      return {
        property := p.name
        writable := p.flags.readWrite
        docs := docLines p.docs
        name := String.ofList (propertyIdent p)
        type := propertyType p } :: fields

/-! ## Functions of the client -/

/-- The names that every client defines or may define besides those of its members. -/
def fixedNames : List String := [
  "new", "from_adapter_id", "path", "interface", "client", "properties", "refresh_properties",
  "watch_properties", "watch_objects", "close"]

/-- The result type of a function that may fail. -/
def fallible (type : String) : String := "Result<" ++ type ++ ", DocbindError>"

/-- The function that binds a client to an object. -/
def newFn (i : Interface) : FnDecl where
  docs := "Bind to the object at `object_path` and fetch its properties." ::
    if i.objectPath = "" then [] else ["", "Object path: `" ++ i.objectPath ++ "`"]
  name := "new"
  onClient := false
  params := [⟨"transport", "Arc<dyn Transport>"⟩, ⟨"object_path", "ObjectPath"⟩]
  result := fallible "Self"
  body := [
    "let client = Client::new(transport, ClientConfig::new(SERVICE, INTERFACE, object_path));",
    "let this = " ++ i.shortName ++ " \x7b",
    "    client,",
    "    properties: PropertyStore::default(),",
    "\x7d;",
    "this.refresh_properties()?;",
    "Ok(this)"]

/-- The function that binds a client to the object of an adapter. -/
def fromAdapterFn : FnDecl where
  docs := ["Bind to the object of adapter `adapter_id` (e.g. `hci0`)."]
  name := "from_adapter_id"
  onClient := false
  params := [⟨"transport", "Arc<dyn Transport>"⟩, ⟨"adapter_id", "&str"⟩]
  result := fallible "Self"
  body := ["Self::new(transport, ObjectPath::new(PATH_PREFIX).join(adapter_id))"]

/-- The functions that every client has between its constructors and its object watch. -/
def commonFns (record : String) : List FnDecl := [
  { docs := [], name := "path", result := "&ObjectPath", body := ["self.client.path()"] },
  { docs := [], name := "interface", result := "&str", body := ["INTERFACE"] },
  { docs := [], name := "client", result := "&Client", body := ["&self.client"] },
  { docs := [], name := "properties", result := "&PropertyStore<" ++ record ++ ">",
    body := ["&self.properties"] },
  { docs := ["Fetch every property and replace the cached record."], name := "refresh_properties",
    result := fallible "()",
    body := ["let map = self.client.get_all_properties()?;",
      "self.properties.replace_from_map(&map)?;", "Ok(())"] },
  { docs := ["Subscribe to property changes of this object."], name := "watch_properties",
    result := fallible "PropertyWatch", body := ["self.client.watch_properties()"] }]

/-- The function that watches the objects below the client's own. -/
def watchObjectsFn : FnDecl where
  docs := ["Subscribe to objects added below or removed from this object."]
  name := "watch_objects"
  result := fallible "ObjectWatch"
  body := ["self.client.watch_objects()"]

/-- The function that gives the connection up. -/
def closeFn : FnDecl where
  docs := []
  name := "close"
  result := fallible "()"
  body := ["self.client.disconnect()"]

/-- The functions of a client that do not come from the members of its interface. -/
def fixedFns (i : Interface) (record : String) : List FnDecl :=
  [newFn i] ++ (if i.scopedToAdapter then [fromAdapterFn] else []) ++ commonFns record ++
    (if i.rootsHierarchy then [watchObjectsFn] else []) ++ [closeFn]

/-- A function that still has to get its name: the rest of it may be faulty. -/
structure Draft where
  name : List Char
  decl : Except RenderFault FnDecl

/-- The identifier of a property without the underscores behind it, which a reserved word got. -/
def accessorStem (p : Property) : List Char := dropEndWhile (· == '_') (propertyIdent p)

/-- The accessors of a property: a getter if it is flagged at all, and a setter if it is
writable. -/
def propertyDrafts (p : Property) : List Draft :=
  let getter := "get_".toList ++ accessorStem p
  let setter := "set_".toList ++ accessorStem p
  let get : FnDecl := {
    docs := docLines p.docs
    name := String.ofList getter
    result := fallible (propertyType p)
    body := ["self.client.get_property_as(" ++ quoted p.name ++ ")"] }
  let set : FnDecl := {
    docs := []
    name := String.ofList setter
    params := [⟨"value", propertyType p⟩]
    result := fallible "()"
    body := ["self.client.set_property(" ++ quoted p.name ++ ", Variant::from(value))"] }
  (if p.flags.readOnly || p.flags.readWrite then [⟨getter, .ok get⟩] else []) ++
    (if p.flags.readWrite then [⟨setter, .ok set⟩] else [])

/-- The parameters of the arguments of a member; no two may share a name. -/
def params (member : String) :
    (taken : List (List Char)) → List Arg → Except RenderFault (List Param)
  | _, [] => .ok []
  | taken, a :: rest =>
    let ident := fieldIdent a.name.toList
    if !isIdentifier ident then .error (.argName a.name member)
    else if ident ∈ taken then .error (.argTwice (String.ofList ident) member)
    else do
      let ps ← params member (ident :: taken) rest
      return ⟨String.ofList ident, a.docType.fieldType.spelling⟩ :: ps

/-- The result type of a method. -/
def resultType : List String → String
  | [] => "()"
  | [type] => type
  | types => "(" ++ ", ".intercalate types ++ ")"

/-- The body of a wrapper: the call, and its results unpacked in order. -/
def wrapperBody (name : String) (args : List Param) (types : List String) : List String :=
  let values := ", ".intercalate (args.map fun p => "Variant::from(" ++ p.name ++ ")")
  let call := "self.client.call(" ++ quoted name ++ ", vec![" ++ values ++ "])?"
  let unpack := "let mut returns = Returns::new(" ++ quoted name ++ ", " ++ call ++ ");"
  match types with
  | [] => [call ++ ";", "Ok(())"]
  | [_] => [unpack, "Ok(returns.take()?)"]
  | _ => [unpack, "Ok((" ++ ", ".intercalate (types.map fun _ => "returns.take()?") ++ "))"]

/-- The wrapper of a method. -/
def methodDraft (m : Method) : Draft :=
  let name := fieldIdent m.name.toList
  let types := m.returnTypes.map fun t => t.fieldType.spelling
  ⟨name, do
    let ps ← params m.name [] m.args
    return {
      docs := docLines m.docs
      name := String.ofList name
      params := ps
      result := fallible (resultType types)
      body := wrapperBody m.name ps types }⟩

/-- The watch of a signal. -/
def signalDraft (s : SignalDecl) : Draft :=
  let name := "watch_".toList ++ snakeCase s.name.toList
  ⟨name, .ok {
    docs := docLines s.docs ++
      (if s.args.isEmpty then []
        else (if s.docs = "" then [] else [""]) ++
          ["Signal body: `(" ++ Arg.listSignature s.args ++ ")`"])
    name := String.ofList name
    result := fallible "SignalWatch"
    body := ["self.client.watch_signal(" ++ signalConst s ++ ")"] }⟩

/-- The drafts of the members of an interface, in the order in which they are written. -/
def memberDrafts (i : Interface) : List Draft :=
  i.properties.values.flatMap propertyDrafts ++ i.methods.map methodDraft ++
    i.signals.map signalDraft

/-- The functions of the drafts: each name must be an identifier that is not taken. -/
def claimAll : (taken : List (List Char)) → List Draft → Except RenderFault (List FnDecl)
  | _, [] => .ok []
  | taken, d :: rest =>
    if !isIdentifier d.name then .error (.itemName (String.ofList d.name))
    else if d.name ∈ taken then .error (.itemTwice (String.ofList d.name))
    else do
      let f ← d.decl
      let fs ← claimAll (d.name :: taken) rest
      return f :: fs

/-! ## The module -/

/-- The doc lines of the client: the title, and the docs behind an empty line. -/
def clientDocs (i : Interface) : List String :=
  (if i.title = "" then [] else i.title :: if i.docs = "" then [] else [""]) ++ docLines i.docs

/-- The module of an interface, or the first fault met in making it. -/
def clientModule (o : RenderOptions) (i : Interface) : Except RenderFault ClientModule :=
  if !isIdentifier i.shortName.toList then .error (.typeName i.shortName)
  else do
    let record := i.shortName ++ "Properties"
    let signals ← signalConstants [] i.signals
    let fields ← recordFields [] i.properties.values
    let taken := fixedNames ++ signals.map ConstDecl.name
    let members ← claimAll (taken.map String.toList) (memberDrafts i)
    return {
      interface := i.name
      title := i.title
      runtime := o.runtime
      constants := headerConstants o i ++ signals
      record := ⟨record, fields⟩
      client := ⟨clientDocs i, i.shortName, fixedFns i record ++ members⟩ }

/-- The source text of the module of an interface. -/
def render (o : RenderOptions) (i : Interface) : Except RenderFault String :=
  (clientModule o i).map ClientModule.text

end BusDoc.Binding
