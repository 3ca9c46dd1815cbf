import BusDoc.Proofs.Binding.ItemLines
import BusDoc.Proofs.Binding.Members

/-!
# Items of a client

The source that is rendered for an interface declares the items that its module is made of, as long
as no text of the interface that is printed as it stands holds a line feed: what is behind the line
feed is then a line of its own.

* `isPlain_fixedFns`, `isPlain_memberFns`: the functions of a client are printed on their lines.
* `itemsOf_lines`: the printed module declares its constants, its record with the fields, and its
  client with the functions.
* `render_exposes`: these are the items that an interface asks for.
* `stray_function_brokenPathInterface`: an object path that declares a function.
-/

namespace BusDoc.Binding

open Text

/-- The texts of the interface that are printed as they stand are on one line each. -/
structure IsOneLined (i : Interface) : Prop where
  name : OneLine i.name
  title : OneLine i.title
  objectPath : OneLine i.objectPath
  args : ∀ s ∈ i.signals, ∀ a ∈ s.args, OneLine a.type ∧ OneLine a.name

theorem IsItemName.isWord {name : String} (h : IsItemName name) : IsWord name :=
  isWord_of_isIdentifier h.identifier

theorem oneLine_spelling (t : FieldType) : OneLine t.spelling := by
  cases t <;> decide

theorem oneLine_fallible {type : String} (h : OneLine type) : OneLine (fallible type) :=
  (OneLine.append (by decide) h).append (by decide)

/-! ## Functions -/

theorem isPlain_newFn {i : Interface} (hname : IsWord i.shortName) (hpath : OneLine i.objectPath) :
    (newFn i).IsPlain where
  docs := by
    refine List.forall_mem_cons.2 ⟨by decide, ?_⟩
    split
    next => simp
    next =>
      have hdoc : OneLine ("Object path: `" ++ i.objectPath ++ "`") :=
        (OneLine.append (by decide) hpath).append (by decide)
      exact List.forall_mem_cons.2 ⟨by decide, List.forall_mem_singleton.2 hdoc⟩
  name := show IsWord "new" by decide
  params := show ∀ p ∈ (newFn {}).params, OneLine p.name ∧ OneLine p.type by decide
  result := show OneLine (newFn {}).result by decide
  body := by
    have hthis : NoItem ("let this = " ++ i.shortName ++ " \x7b") :=
      ((OtherLine.append (by decide) hname.oneLine).append (by decide)).noItem
    refine List.forall_mem_cons.2 ⟨by decide, List.forall_mem_cons.2 ⟨hthis, ?_⟩⟩
    decide +kernel

theorem isPlain_commonFns {record : String} (h : OneLine record) {f : FnDecl}
    (hf : f ∈ commonFns record) : f.IsPlain := by
  have hstore : OneLine ("&PropertyStore<" ++ record ++ ">") :=
    (OneLine.append (by decide) h).append (by decide)
  simp only [commonFns, List.mem_cons, List.not_mem_nil, or_false] at hf
  rcases hf with rfl | rfl | rfl | rfl | rfl | rfl
  · decide +kernel
  · decide +kernel
  · decide +kernel
  · exact ⟨by simp, show IsWord "properties" by decide, by simp, hstore,
      show ∀ l ∈ ["&self.properties"], NoItem l by decide⟩
  · decide +kernel
  · decide +kernel

theorem isPlain_fixedFns {i : Interface} (hname : IsWord i.shortName)
    (hpath : OneLine i.objectPath) {record : String} (hrecord : OneLine record) {f : FnDecl}
    (hf : f ∈ fixedFns i record) : f.IsPlain := by
  simp only [fixedFns, List.mem_append, List.mem_singleton] at hf
  rcases hf with (((rfl | hf) | hf) | hf) | rfl
  · exact isPlain_newFn hname hpath
  · split at hf
    next =>
      rw [List.mem_singleton.1 hf]
      decide +kernel
    next => cases hf
  · exact isPlain_commonFns hrecord hf
  · split at hf
    next =>
      rw [List.mem_singleton.1 hf]
      decide +kernel
    next => cases hf
  · decide +kernel

theorem oneLine_docLines (docs : String) : ∀ d ∈ docLines docs, OneLine d :=
  fun _ => not_mem_of_mem_docLines

theorem isPlain_getterOf {p : Property} (hname : IsWord (getterOf p).name) :
    (getterOf p).IsPlain where
  docs := oneLine_docLines p.docs
  name := hname
  params := by simp [getterOf]
  result := oneLine_fallible (oneLine_spelling _)
  body := by
    refine List.forall_mem_singleton.2 ?_
    exact ((OtherLine.append (by decide) (oneLine_quoted _)).append (by decide)).noItem

theorem isPlain_setterOf {p : Property} (hname : IsWord (setterOf p).name) :
    (setterOf p).IsPlain where
  docs := by simp [setterOf]
  name := hname
  params := List.forall_mem_singleton.2 ⟨show OneLine "value" by decide, oneLine_spelling _⟩
  result := show OneLine (fallible "()") by decide
  body := by
    refine List.forall_mem_singleton.2 ?_
    exact ((OtherLine.append (by decide) (oneLine_quoted _)).append (by decide)).noItem

theorem oneLine_resultType {types : List String} (h : ∀ t ∈ types, OneLine t) :
    OneLine (resultType types) := by
  unfold resultType
  split
  next => decide
  next type => exact h type List.mem_cons_self
  next =>
    exact (OneLine.append (by decide) (OneLine.intercalate (by decide) h)).append (by decide)

theorem noItem_wrapperBody (name : String) {ps : List Param} (hps : ∀ p ∈ ps, OneLine p.name)
    (types : List String) : ∀ l ∈ wrapperBody name ps types, NoItem l := by
  have hvalues :
      OneLine (", ".intercalate (ps.map fun p => "Variant::from(" ++ p.name ++ ")")) := by
    refine OneLine.intercalate (by decide) fun s hs => ?_
    obtain ⟨p, hp, rfl⟩ := List.mem_map.1 hs
    exact (OneLine.append (by decide) (hps p hp)).append (by decide)
  have hcall : OtherLine ("self.client.call(" ++ quoted name ++ ", vec![" ++
      ", ".intercalate (ps.map fun p => "Variant::from(" ++ p.name ++ ")") ++ "])?") :=
    (((OtherLine.append (by decide) (oneLine_quoted _)).append (by decide)).append hvalues).append
      (by decide)
  have hunpack : NoItem ("let mut returns = Returns::new(" ++ quoted name ++ ", " ++
      ("self.client.call(" ++ quoted name ++ ", vec![" ++
        ", ".intercalate (ps.map fun p => "Variant::from(" ++ p.name ++ ")") ++ "])?") ++ ");") :=
    ((((OtherLine.append (by decide) (oneLine_quoted _)).append (by decide)).append
      hcall.oneLine).append (by decide)).noItem
  unfold wrapperBody
  split
  next => exact List.forall_mem_cons.2 ⟨(hcall.append (by decide)).noItem, by decide⟩
  next => exact List.forall_mem_cons.2 ⟨hunpack, by decide⟩
  next =>
    have htakes : OneLine (", ".intercalate (types.map fun _ => "returns.take()?")) := by
      refine OneLine.intercalate (by decide) fun s hs => ?_
      obtain ⟨t, -, rfl⟩ := List.mem_map.1 hs
      decide
    refine List.forall_mem_cons.2 ⟨hunpack, List.forall_mem_singleton.2 ?_⟩
    exact ((OtherLine.append (by decide) htakes).append (by decide)).noItem

theorem isPlain_methodFn {m : Method} (hname : IsWord (methodFn m).name)
    (hparams : AreParams (methodFn m).params) : (methodFn m).IsPlain where
  docs := oneLine_docLines m.docs
  name := hname
  params := by
    intro p hp
    obtain ⟨a, -, rfl⟩ := List.mem_map.1 hp
    exact ⟨(hparams.usable _ hp).isWord.oneLine, oneLine_spelling _⟩
  result := by
    refine oneLine_fallible (oneLine_resultType fun t ht => ?_)
    obtain ⟨d, -, rfl⟩ := List.mem_map.1 ht
    exact oneLine_spelling _
  body := noItem_wrapperBody m.name (fun p hp => (hparams.usable p hp).isWord.oneLine) _

/-- A signal whose watch has a name of its own has a constant with one. -/
theorem isWord_signalConst {s : SignalDecl} (h : IsWord (watchOf s).name) :
    IsWord (signalConst s) := by
  intro c hc
  rw [signalConst, String.toList_append, List.mem_append] at hc
  rcases hc with hc | hc
  · have hfront : IsWord "SIGNAL_" := by decide
    exact hfront c hc
  · rw [String.toList_ofList] at hc
    obtain ⟨d, hd, rfl⟩ := List.mem_map.1 hc
    refine isIdentRest_asciiUpper (h d ?_)
    show d ∈ (String.ofList (watchName s)).toList
    rw [String.toList_ofList]
    exact List.mem_append_right _ hd

theorem oneLine_bodyDocs {s : SignalDecl} (hargs : ∀ a ∈ s.args, OneLine a.type ∧ OneLine a.name) :
    ∀ d ∈ bodyDocs s, OneLine d := by
  have hlist : OneLine (Arg.listSignature s.args) := by
    refine OneLine.intercalate (by decide) fun t ht => ?_
    obtain ⟨a, ha, rfl⟩ := List.mem_map.1 ht
    exact ((hargs a ha).1.append (by decide)).append (hargs a ha).2
  intro d hd
  unfold bodyDocs at hd
  split at hd
  next => cases hd
  next =>
    rcases List.mem_append.1 hd with hd | hd
    · split at hd
      next => cases hd
      next => exact List.mem_singleton.1 hd ▸ by decide
    · rw [List.mem_singleton.1 hd]
      exact (OneLine.append (by decide) hlist).append (by decide)

theorem isPlain_watchOf {s : SignalDecl} (hname : IsWord (watchOf s).name)
    (hargs : ∀ a ∈ s.args, OneLine a.type ∧ OneLine a.name) : (watchOf s).IsPlain where
  docs := List.forall_mem_append.2 ⟨oneLine_docLines s.docs, oneLine_bodyDocs hargs⟩
  name := hname
  params := by simp [watchOf]
  result := show OneLine (fallible "SignalWatch") by decide
  body := by
    have hconst := (isWord_signalConst hname).oneLine
    refine List.forall_mem_singleton.2 ?_
    exact ((OtherLine.append (by decide) hconst).append (by decide)).noItem

theorem isPlain_memberFns {i : Interface} (hi : IsOneLined i)
    (hnames : ∀ f ∈ memberFns i, IsWord f.name) (hparams : ∀ f ∈ memberFns i, AreParams f.params)
    {f : FnDecl} (hf : f ∈ memberFns i) : f.IsPlain := by
  have hname := hnames f hf
  have hps := hparams f hf
  simp only [memberFns, List.mem_append, List.mem_flatMap, List.mem_map] at hf
  rcases hf with (⟨p, -, hf⟩ | ⟨m, -, rfl⟩) | ⟨s, hs, rfl⟩
  · rcases List.mem_append.1 hf with hf | hf
    · split at hf
      next =>
        obtain rfl := List.mem_singleton.1 hf
        exact isPlain_getterOf hname
      next => cases hf
    · split at hf
      next =>
        obtain rfl := List.mem_singleton.1 hf
        exact isPlain_setterOf hname
      next => cases hf
  · exact isPlain_methodFn hname hps
  · exact isPlain_watchOf hname (hi.args s hs)

/-! ## Modules -/

/-- The path of a library holds no blanks. -/
def RenderOptions.HasPlainRuntime (o : RenderOptions) : Prop :=
  ∀ c ∈ o.runtime.toList, isBlank c = false

theorem noItem_runtime {o : RenderOptions} (h : o.HasPlainRuntime) :
    NoItem (o.runtime ++ "::property_record! \x7b") := by
  have hfeed : OneLine o.runtime := fun hmem => Bool.false_ne_true (h '\n' hmem).symm
  refine ⟨hfeed.append (by decide), ?_⟩
  -- no blank is among the first characters, but one ends the word of a public item
  have hsplit : (o.runtime ++ "::property_record! \x7b").toList =
      (o.runtime.toList ++ "::pr".toList) ++ "operty_record! \x7b".toList := by
    simp
  have hplain : ∀ c ∈ o.runtime.toList ++ "::pr".toList, isBlank c = false := by
    intro c hc
    rcases List.mem_append.1 hc with hc | hc
    · exact h c hc
    · have hcolons : "::pr".toList.any isBlank = false := by decide
      exact Bool.eq_false_iff.2 (List.any_eq_false.1 hcolons c hc)
  have hlength : 4 ≤ (o.runtime.toList ++ "::pr".toList).length := by
    rw [List.length_append]
    exact Nat.le_add_left _ _
  generalize o.runtime.toList ++ "::pr".toList = front at hsplit hplain hlength
  have htrim : trimStart (front ++ "operty_record! \x7b".toList) =
      front ++ "operty_record! \x7b".toList := by
    cases front with
    | nil => exact absurd hlength (by decide)
    | cons c front => exact trimStart_cons_of_not (hplain c List.mem_cons_self)
  rw [hsplit, itemOf?, htrim, Option.map_eq_none_iff]
  cases hafter : after? "pub ".toList (front ++ "operty_record! \x7b".toList) with
  | none => rfl
  | some behind =>
    have hstart := congrArg (List.take 4) (after?_eq_some_iff.1 hafter)
    rw [List.take_append_of_le_length hlength] at hstart
    have hblank : ' ' ∈ front.take 4 := by
      rw [hstart]
      exact List.mem_cons_of_mem _ (List.mem_cons_of_mem _ (List.mem_cons_of_mem _
        List.mem_cons_self))
    exact absurd (hplain ' ' (List.mem_of_mem_take hblank)) (by decide)

/-- The items of the module in the order in which they are printed. -/
def ClientModule.items (m : ClientModule) : List (List Char) :=
  m.constants.map ConstDecl.item ++
    ["struct ".toList ++ m.record.name.toList ++ [' ']] ++
    m.record.fields.map (fun f => f.name.toList) ++
    ["struct ".toList ++ m.client.name.toList ++ [' ']] ++
    m.client.functions.map FnDecl.item

theorem itemsOf_structLine {indent name : String} (hi : IsIndentation indent)
    (hname : IsWord name) :
    itemsOf [indent ++ "pub struct " ++ name ++ " \x7b"] =
      ["struct ".toList ++ name.toList ++ [' ']] := by
  have hfeed : OneLine (indent ++ "pub struct " ++ name ++ " \x7b") :=
    ((OneLine.append hi.noFeed (by decide)).append hname.oneLine).append (by decide)
  have hline : (indent ++ "pub struct " ++ name ++ " \x7b").toList =
      indent.toList ++ ("pub ".toList ++
        (("struct ".toList ++ name.toList ++ [' ']) ++ '\x7b' :: [])) := by
    simp
  have hitem : itemOf? (indent ++ "pub struct " ++ name ++ " \x7b").toList =
      some ("struct ".toList ++ name.toList ++ [' ']) := by
    rw [hline]
    refine itemOf?_item hi.blank (fun c hc => ?_) rfl
    rcases List.mem_append.1 hc with hc | hc
    · exact hname.endsItem_append (by decide) c hc
    · rw [List.mem_singleton.1 hc]
      rfl
  rw [itemsOf_line hfeed, hitem]
  rfl

theorem itemsOf_headLines {m : ClientModule} (hname : OneLine m.interface)
    (htitle : OneLine m.title) (hruntime : OneLine m.runtime) : itemsOf m.headLines = [] := by
  have hfirst : itemsOf [banner, "", "//! `" ++ m.interface ++ "`"] = [] := by
    refine itemsOf_of_noItem (List.forall_mem_cons.2 ⟨by decide, List.forall_mem_cons.2
      ⟨by decide, List.forall_mem_singleton.2 ?_⟩⟩)
    exact ((OtherLine.append (by decide) hname).append (by decide)).noItem
  have huse : itemsOf ["", "use " ++ m.runtime ++ "::\x7b"] = [] := by
    refine itemsOf_of_noItem (List.forall_mem_cons.2 ⟨by decide, List.forall_mem_singleton.2 ?_⟩)
    exact ((OtherLine.append (by decide) hruntime).append (by decide)).noItem
  have hallow : itemsOf ["", "#![allow(unused_imports)]", ""] = [] :=
    itemsOf_of_noItem (by decide)
  have hstandard : itemsOf (standardImports.map Import.useLine) = [] :=
    itemsOf_of_noItem (by decide)
  have himports : itemsOf (runtimeImports.map Import.line) = [] :=
    itemsOf_of_noItem (by decide +kernel)
  have hlast : itemsOf ["\x7d;", ""] = [] := itemsOf_of_noItem (by decide)
  have hdoc := itemsOf_of_codeOf (codeOf_title htitle)
  simp only [ClientModule.headLines, itemsOf_append, hfirst, hdoc, hallow, hstandard, huse,
    himports, hlast, List.append_nil]

theorem itemsOf_recordLines {m : ClientModule} (hname : OneLine m.interface)
    (hruntime : NoItem (m.runtime ++ "::property_record! \x7b")) (hrecord : IsWord m.record.name)
    (hfields : ∀ f ∈ m.record.fields, itemsOf f.lines = [f.name.toList]) :
    itemsOf m.recordLines = ["struct ".toList ++ m.record.name.toList ++ [' ']] ++
      m.record.fields.map fun f => f.name.toList := by
  have hdoc : NoItem ("    /// Properties exposed by `" ++ m.interface ++ "`.") :=
    ((OtherLine.append (by decide) hname).append (by decide)).noItem
  have hderive : NoItem "    #[derive(Debug, Clone, Default, PartialEq)]" := by decide
  have hhead : itemsOf [m.runtime ++ "::property_record! \x7b",
      "    /// Properties exposed by `" ++ m.interface ++ "`.",
      "    #[derive(Debug, Clone, Default, PartialEq)]",
      "    pub struct " ++ m.record.name ++ " \x7b"] =
      ["struct ".toList ++ m.record.name.toList ++ [' ']] := by
    have hstruct := itemsOf_structLine isIndentation_member hrecord
    rw [itemsOf_cons_of_noItem hruntime, itemsOf_cons_of_noItem hdoc,
      itemsOf_cons_of_noItem hderive]
    exact hstruct
  have hlines : itemsOf (m.record.fields.flatMap FieldDecl.lines) =
      m.record.fields.map fun f => f.name.toList := by
    rw [itemsOf_flatMap, List.flatMap_congr hfields, ← List.map_eq_flatMap]
  have hclose : itemsOf ["    \x7d", "\x7d", ""] = [] := itemsOf_of_noItem (by decide)
  rw [ClientModule.recordLines, itemsOf_append, itemsOf_append, hhead, hlines, hclose,
    List.append_nil]

theorem itemsOf_clientLines {m : ClientModule}
    (hdocs : codeOf (m.client.docs.map (docLine "")) = []) (hclient : IsWord m.client.name)
    (hrecord : OneLine m.record.name) :
    itemsOf m.clientLines = ["struct ".toList ++ m.client.name.toList ++ [' ']] := by
  have hderive : NoItem "#[derive(Debug, Clone)]" := by decide
  have hbody : itemsOf ["    client: Client,",
      "    properties: PropertyStore<" ++ m.record.name ++ ">,", "\x7d", ""] = [] := by
    have hstore : NoItem ("    properties: PropertyStore<" ++ m.record.name ++ ">,") :=
      ((OtherLine.append (by decide) hrecord).append (by decide)).noItem
    exact itemsOf_of_noItem (List.forall_mem_cons.2 ⟨by decide, List.forall_mem_cons.2
      ⟨hstore, by decide⟩⟩)
  have hstruct := itemsOf_structLine isIndentation_none hclient
  rw [String.empty_append] at hstruct
  rw [ClientModule.clientLines, itemsOf_append, itemsOf_of_codeOf hdocs, List.nil_append,
    itemsOf_cons_of_noItem hderive, itemsOf_cons, hbody, hstruct, List.append_nil]

theorem itemsOf_constants {o : RenderOptions} {i : Interface}
    (h : ∀ s ∈ i.signals, IsWord (signalConst s)) :
    itemsOf ((headerConstants o i ++ i.signals.map constOf).flatMap ConstDecl.lines) =
      (headerConstants o i ++ i.signals.map constOf).map ConstDecl.item := by
  have hplain : ∀ c ∈ headerConstants o i ++ i.signals.map constOf,
      (∀ d ∈ c.docs, OneLine d) ∧ IsWord c.name := by
    intro c hc
    simp only [headerConstants, List.mem_append, List.mem_cons, List.not_mem_nil, or_false,
      List.mem_map] at hc
    rcases hc with (((rfl | rfl) | hc) | hc) | ⟨s, hs, rfl⟩
    · exact ⟨by simp, show IsWord "INTERFACE" by decide⟩
    · exact ⟨by simp, show IsWord "SERVICE" by decide⟩
    · split at hc
      next => cases hc
      next =>
        rw [List.mem_singleton.1 hc]
        exact ⟨show ∀ d ∈ ["Documented object path pattern."], OneLine d by decide,
          show IsWord "OBJECT_PATH" by decide⟩
    · split at hc
      next =>
        rw [List.mem_singleton.1 hc]
        exact ⟨by simp, show IsWord "PATH_PREFIX" by decide⟩
      next => cases hc
    · exact ⟨by simp [constOf], h s hs⟩
  have hitems : ∀ c ∈ headerConstants o i ++ i.signals.map constOf,
      itemsOf c.lines = [c.item] :=
    fun c hc => itemsOf_constLines (hplain c hc).1 (hplain c hc).2
  rw [itemsOf_flatMap, List.flatMap_congr hitems, ← List.map_eq_flatMap]

namespace ClientModule.Exposes

variable {i : Interface} {m : ClientModule}

theorem isWord_name (hm : m.Exposes i) {f : FnDecl} (hf : f ∈ m.client.functions) :
    IsWord f.name := by
  refine (hm.usable f.name ?_).isWord
  rw [← hm.names]
  exact List.mem_map_of_mem hf

theorem mem_functions (hm : m.Exposes i) {f : FnDecl} (hf : f ∈ memberFns i) :
    f ∈ m.client.functions := by
  rw [hm.functions]
  exact List.mem_append_right _ hf

theorem itemsOf_functions (hm : m.Exposes i) (hi : IsOneLined i) (hname : IsWord i.shortName)
    (hrecord : OneLine m.record.name) :
    itemsOf (functionLines m.client.functions) = m.client.functions.map FnDecl.item := by
  refine itemsOf_functionLines fun f hf => ?_
  rw [hm.functions] at hf
  rcases List.mem_append.1 hf with hf | hf
  · exact isPlain_fixedFns hname hi.objectPath hrecord hf
  · exact isPlain_memberFns hi (fun f hf => hm.isWord_name (hm.mem_functions hf))
      (fun f hf => hm.params f (hm.mem_functions hf)) hf

theorem itemsOf_field (hm : m.Exposes i) {f : FieldDecl} (hf : f ∈ m.record.fields) :
    itemsOf f.lines = [f.name.toList] := by
  have hword := (hm.usable_fields f hf).isWord
  rw [hm.fields] at hf
  obtain ⟨p, -, rfl⟩ := List.mem_map.1 hf
  exact itemsOf_fieldLines (oneLine_docLines p.docs) hword (oneLine_spelling _)

theorem isWord_signalConst (hm : m.Exposes i) {s : SignalDecl} (hs : s ∈ i.signals) :
    IsWord (signalConst s) := by
  have hwatch : watchOf s ∈ memberFns i := List.mem_append_right _ (List.mem_map_of_mem hs)
  exact Binding.isWord_signalConst (hm.isWord_name (hm.mem_functions hwatch))

end ClientModule.Exposes

/-- What the source of a module declares are the items of the module. -/
theorem itemsOf_lines {o : RenderOptions} {i : Interface} {m : ClientModule}
    (h : clientModule o i = .ok m) (hi : IsOneLined i) (ho : o.HasPlainRuntime) :
    itemsOf m.lines = m.items := by
  obtain ⟨hident, _, _, _, hsignals, _, _, rfl⟩ := clientModule_eq_ok.1 h
  obtain ⟨-, rfl⟩ := signalConstants_eq_ok_iff.1 hsignals
  have hm := exposes_of_clientModule h
  -- the parts of the module are made visible one by one, where a lemma asks for them
  generalize hdef : moduleOfParts o i (i.signals.map constOf) _ _ = m at hm
  have hname : IsWord i.shortName := isWord_of_isIdentifier hident
  have hrecord : IsWord (i.shortName ++ "Properties") := hname.append (by decide)
  have hfeed : OneLine o.runtime := fun hmem => Bool.false_ne_true (ho '\n' hmem).symm
  have hhead : itemsOf m.headLines = [] := by
    rw [← hdef]
    exact itemsOf_headLines hi.name hi.title hfeed
  have hconsts : itemsOf (m.constants.flatMap ConstDecl.lines) =
      m.constants.map ConstDecl.item := by
    rw [← hdef]
    exact itemsOf_constants fun s hs => hm.isWord_signalConst hs
  have hrecordLines := itemsOf_recordLines (m := m) (hdef ▸ hi.name)
    (hdef ▸ noItem_runtime ho) (hdef ▸ hrecord) fun f hf => hm.itemsOf_field hf
  have hclientLines := itemsOf_clientLines (m := m) (hdef ▸ codeOf_clientDocs hi.title)
    (hdef ▸ hname) (hdef ▸ hrecord.oneLine)
  have hfunctions := hm.itemsOf_functions hi hname (hdef ▸ hrecord.oneLine)
  have himpl : NoItem ("impl " ++ m.client.name ++ " \x7b") := by
    rw [← hdef]
    exact ((OtherLine.append (by decide) hname.oneLine).append (by decide)).noItem
  have hgap : itemsOf [""] = [] := itemsOf_of_noItem (by decide)
  have hclose : itemsOf ["\x7d"] = [] := itemsOf_of_noItem (by decide)
  simp only [ClientModule.lines, ClientModule.items, itemsOf_append, hhead, hconsts, hgap,
    hrecordLines, hclientLines, itemsOf_cons_of_noItem himpl, itemsOf_nil, hfunctions, hclose,
    List.nil_append, List.append_nil, List.append_assoc]

/-- **What a client exposes.** The module of an interface has the fixed functions, one getter or one
getter and one setter for every flagged property, one wrapper for every method and one watch for
every signal; one field for every property; and one constant for every signal that holds its name;
all of them, and the parameters of each function, under different usable names. They are what the
source declares if the texts that are printed as they stand are on one line each. -/
theorem render_exposes {o : RenderOptions} {i : Interface} {source : String}
    (h : render o i = .ok source) :
    ∃ m, clientModule o i = .ok m ∧ m.text = source ∧ m.Exposes i ∧
      (IsOneLined i → o.HasPlainRuntime → publicItems source = m.items) := by
  obtain ⟨m, hm, rfl⟩ := render_eq_ok.1 h
  refine ⟨m, hm, rfl, exposes_of_clientModule hm, fun hi ho => ?_⟩
  rw [publicItems_text, itemsOf_lines hm hi ho]

theorem render_exposes_playerInterface :
    ∃ source, ∃ m : ClientModule,
      render {} (playerInterface "Player hierarchy" unrulyDocs) = .ok source ∧
      m.Exposes (playerInterface "Player hierarchy" unrulyDocs) ∧ publicItems source = m.items ∧
      functionNames (playerInterface "Player hierarchy" unrulyDocs) =
        ["new", "path", "interface", "client", "properties", "refresh_properties",
          "watch_properties", "watch_objects", "close", "get_volume", "set_volume", "play",
          "watch_ended"] := by
  have hok :
      (render {} (playerInterface "Player hierarchy" unrulyDocs)).toOption.isSome = true := by
    decide +kernel
  cases hs : render {} (playerInterface "Player hierarchy" unrulyDocs) with
  | error e =>
    rw [hs] at hok
    cases hok
  | ok source =>
    have hlines : IsOneLined (playerInterface "Player hierarchy" unrulyDocs) :=
      ⟨by decide, by decide, by decide, by decide⟩
    have hruntime : defaultRuntime.toList.any isBlank = false := by decide
    obtain ⟨m, -, -, hexposes, hitems⟩ := render_exposes hs
    exact ⟨source, m, rfl, hexposes, hitems hlines
      (fun c hc => Bool.eq_false_iff.2 (List.any_eq_false.1 hruntime c hc)), by decide +kernel⟩

/-- An interface with an object path of three lines. -/
def brokenPathInterface : Interface where
  name := "org.example.Device1"
  objectPath := "/dev`\n    pub fn stray(&self) \x7b\x7d\n    // `"

/-- The doc line that prints the object path. -/
def pathLine (i : Interface) : String := docLine "    " ("Object path: `" ++ i.objectPath ++ "`")

theorem lines_subset_functionLines {f : FnDecl} {fs : List FnDecl} (h : f ∈ fs) :
    f.lines ⊆ ClientModule.functionLines fs := by
  induction fs with
  | nil => cases h
  | cons g fs ih =>
    cases fs with
    | nil =>
      rw [List.mem_singleton.1 h]
      exact List.Subset.refl _
    | cons g' fs =>
      rw [ClientModule.functionLines]
      · rcases List.mem_cons.1 h with rfl | h
        · exact List.subset_append_left _ _
        · exact fun l hl => List.mem_append_right _ (List.mem_cons_of_mem _ (ih h hl))
      · simp

theorem pathLine_mem_lines {o : RenderOptions} {i : Interface} {m : ClientModule}
    (h : clientModule o i = .ok m) (hpath : i.objectPath ≠ "") : pathLine i ∈ m.lines := by
  have hdoc : pathLine i ∈ (newFn i).lines := by
    simp [FnDecl.lines, newFn, hpath, pathLine]
  have hnew : newFn i ∈ m.client.functions := by
    rw [(exposes_of_clientModule h).functions]
    simp [fixedFns]
  have hfunctions : pathLine i ∈ ClientModule.functionLines m.client.functions :=
    lines_subset_functionLines hnew hdoc
  simp [ClientModule.lines, hfunctions]

/-- The second line of the object path is a function of the client. -/
theorem stray_function_brokenPathInterface :
    ∃ source, render {} brokenPathInterface = .ok source ∧
      "fn stray".toList ∈ publicItems source ∧ "stray" ∉ functionNames brokenPathInterface := by
  have hok : (clientModule {} brokenPathInterface).toOption.isSome = true := by decide +kernel
  cases hm : clientModule {} brokenPathInterface with
  | error e =>
    rw [hm] at hok
    cases hok
  | ok m =>
    refine ⟨m.text, render_eq_ok.2 ⟨m, hm, rfl⟩, ?_, by decide +kernel⟩
    have hline : "fn stray".toList ∈ itemsOf [pathLine brokenPathInterface] := by decide +kernel
    have hpath : brokenPathInterface.objectPath ≠ "" := by decide
    obtain ⟨before, behind, hlines⟩ := List.append_of_mem (pathLine_mem_lines hm hpath)
    rw [publicItems_text, hlines, itemsOf_append, itemsOf_cons]
    exact List.mem_append_right _ (List.mem_append_left _ hline)

end BusDoc.Binding
