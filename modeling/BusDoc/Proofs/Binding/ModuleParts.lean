import BusDoc.Binding.Client
import BusDoc.Proofs.Result

/-!
# The parts of a module

The module of an interface is made of three lists that can each be faulty: the constants of its
signals, the fields of its record and the functions of its members.

* `recordFields_cons`, `propertyDrafts_eq`, `methodDraft_eq`, `signalDraft_eq`: the field and the
  functions of one member.
* `clientModule_eq`: the module from its parts, the first fault of any of them otherwise.
* `clientModule_eq_ok`, `render_eq_ok`: when there is a module, and which; `render_eq_error`.
-/

namespace BusDoc.Binding

open Result Text

/-! ## Members -/

/-- The field of a property. -/
def fieldOf (p : Property) : FieldDecl where
  property := p.name
  writable := p.flags.readWrite
  docs := docLines p.docs
  name := String.ofList (propertyIdent p)
  type := propertyType p

/-- The name of a property's getter. -/
def getterName (p : Property) : List Char := "get_".toList ++ accessorStem p

/-- The name of a property's setter. -/
def setterName (p : Property) : List Char := "set_".toList ++ accessorStem p

/-- The getter of a property. -/
def getterOf (p : Property) : FnDecl where
  docs := docLines p.docs
  name := String.ofList (getterName p)
  result := fallible (propertyType p)
  body := ["self.client.get_property_as(" ++ quoted p.name ++ ")"]

/-- The setter of a property. -/
def setterOf (p : Property) : FnDecl where
  docs := []
  name := String.ofList (setterName p)
  params := [⟨"value", propertyType p⟩]
  result := fallible "()"
  body := ["self.client.set_property(" ++ quoted p.name ++ ", Variant::from(value))"]

/-- The wrapper of a method with the given parameters. -/
def wrapperOf (m : Method) (ps : List Param) : FnDecl where
  docs := docLines m.docs
  name := String.ofList (fieldIdent m.name.toList)
  params := ps
  result := fallible (resultType (m.returnTypes.map fun t => t.fieldType.spelling))
  body := wrapperBody m.name ps (m.returnTypes.map fun t => t.fieldType.spelling)

/-- The name of a signal's watch. -/
def watchName (s : SignalDecl) : List Char := "watch_".toList ++ snakeCase s.name.toList

/-- What the docs of a watch say of the body of its signal. -/
def bodyDocs (s : SignalDecl) : List String :=
  if s.args.isEmpty then []
  else (if s.docs = "" then [] else [""]) ++
    ["Signal body: `(" ++ Arg.listSignature s.args ++ ")`"]

/-- The watch of a signal. -/
def watchOf (s : SignalDecl) : FnDecl where
  docs := docLines s.docs ++ bodyDocs s
  name := String.ofList (watchName s)
  result := fallible "SignalWatch"
  body := ["self.client.watch_signal(" ++ signalConst s ++ ")"]

theorem recordFields_cons (taken : List (List Char)) (p : Property) (ps : List Property) :
    recordFields taken (p :: ps) =
      if !isIdentifier (propertyIdent p) then .error (.fieldName p.name)
      else if propertyIdent p ∈ taken then .error (.fieldTwice (String.ofList (propertyIdent p)))
      else do
        let fields ← recordFields (propertyIdent p :: taken) ps
        return fieldOf p :: fields := rfl

theorem propertyDrafts_eq (p : Property) :
    propertyDrafts p =
      (if p.flags.readOnly || p.flags.readWrite then [⟨getterName p, .ok (getterOf p)⟩] else []) ++
        (if p.flags.readWrite then [⟨setterName p, .ok (setterOf p)⟩] else []) := rfl

theorem methodDraft_eq (m : Method) :
    methodDraft m = ⟨fieldIdent m.name.toList, do return wrapperOf m (← params m.name [] m.args)⟩ :=
  rfl

theorem signalDraft_eq (s : SignalDecl) : signalDraft s = ⟨watchName s, .ok (watchOf s)⟩ := rfl

/-! ## The module -/

/-- The module of an interface from its parts. -/
def moduleOfParts (o : RenderOptions) (i : Interface) (signals : List ConstDecl)
    (fields : List FieldDecl) (members : List FnDecl) : ClientModule where
  interface := i.name
  title := i.title
  runtime := o.runtime
  constants := headerConstants o i ++ signals
  record := ⟨i.shortName ++ "Properties", fields⟩
  client := ⟨clientDocs i, i.shortName, fixedFns i (i.shortName ++ "Properties") ++ members⟩

/-- The names of a client that its members may not have. -/
def takenNames (signals : List ConstDecl) : List (List Char) :=
  (fixedNames ++ signals.map ConstDecl.name).map String.toList

theorem clientModule_eq {o : RenderOptions} {i : Interface}
    (h : isIdentifier i.shortName.toList = true) :
    clientModule o i = do
      let signals ← signalConstants [] i.signals
      let fields ← recordFields [] i.properties.values
      let members ← claimAll (takenNames signals) (memberDrafts i)
      return moduleOfParts o i signals fields members := by
  unfold clientModule
  rw [h]
  rfl

theorem clientModule_of_not_identifier {o : RenderOptions} {i : Interface}
    (h : isIdentifier i.shortName.toList = false) :
    clientModule o i = .error (.typeName i.shortName) := by
  unfold clientModule
  rw [h]
  rfl

theorem clientModule_eq_ok {o : RenderOptions} {i : Interface} {m : ClientModule} :
    clientModule o i = .ok m ↔
      isIdentifier i.shortName.toList = true ∧ ∃ signals fields members,
        signalConstants [] i.signals = .ok signals ∧
        recordFields [] i.properties.values = .ok fields ∧
        claimAll (takenNames signals) (memberDrafts i) = .ok members ∧
        m = moduleOfParts o i signals fields members := by
  cases h : isIdentifier i.shortName.toList with
  | false => simp [clientModule_of_not_identifier h]
  | true =>
    simp only [clientModule_eq h, bind_eq_ok, pure_eq_ok, true_and]
    constructor
    · rintro ⟨signals, hs, fields, hf, members, hm, rfl⟩
      exact ⟨signals, fields, members, hs, hf, hm, rfl⟩
    · rintro ⟨signals, fields, members, hs, hf, hm, rfl⟩
      exact ⟨signals, hs, fields, hf, members, hm, rfl⟩

theorem render_eq_ok {o : RenderOptions} {i : Interface} {s : String} :
    render o i = .ok s ↔ ∃ m, clientModule o i = .ok m ∧ m.text = s := by
  unfold render
  cases clientModule o i with
  | error e => simp [Except.map]
  | ok m => simp [Except.map]

theorem render_eq_error {o : RenderOptions} {i : Interface} {fault : RenderFault} :
    render o i = .error fault ↔ clientModule o i = .error fault := by
  unfold render
  cases clientModule o i with
  | error e => simp [Except.map]
  | ok m => simp [Except.map]

end BusDoc.Binding
