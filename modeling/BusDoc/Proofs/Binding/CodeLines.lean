import BusDoc.Binding.Layout
import BusDoc.Proofs.Binding.ModuleParts
import BusDoc.Proofs.Text.Lines

/-!
# Documentation in generated source

The text of the documentation enters a module as doc lines only. Taking all doc lines away leaves
source that does not depend on it.

* `codeLines_text`: the code of a module is the code among its printed lines.
* `codeOf_docLines`: a paragraph printed as doc lines holds no code.
* `recordFields_undocumented`, `memberDrafts_undocumented`: the fields and functions of an interface
  without documentation have the code of those with it, and the same faults.
* `render_undocumented`: so has the module.
* `codeLines_render_congr`: interfaces that differ in their documentation give the same code.
-/

namespace BusDoc

/-! ## Interfaces without documentation -/

/-- The property without its docs. -/
def Property.undocumented (p : Property) : Property := { p with docs := "" }

/-- The method without its docs and declared errors. -/
def Method.undocumented (m : Method) : Method := { m with docs := "", errors := NameSet.empty }

/-- The signal without its docs and declared errors. -/
def SignalDecl.undocumented (s : SignalDecl) : SignalDecl :=
  { s with docs := "", errors := NameSet.empty }

/-- The interface without its title, its docs, and the docs and declared errors of its members. -/
def Interface.undocumented (i : Interface) : Interface :=
  { i with
    title := ""
    docs := ""
    properties := i.properties.mapValues Property.undocumented
    methods := i.methods.map Method.undocumented
    signals := i.signals.map SignalDecl.undocumented }

theorem Interface.values_undocumented (i : Interface) :
    i.undocumented.properties.values = i.properties.values.map Property.undocumented := by
  simp [Interface.undocumented, OrderedMap.mapValues, OrderedMap.values]

namespace Binding

open Result Text

/-! ## Lines of code -/

/-- The first characters of the line that are no blanks are three slashes, or two slashes and an
exclamation mark. -/
def isDocLine (line : List Char) : Bool :=
  startsWith "///".toList (trimStart line) || startsWith "//!".toList (trimStart line)

/-- The lines of a source text that are no doc lines. -/
def codeLines (source : String) : List (List Char) :=
  (splitOn '\n' source.toList).filter fun l => !isDocLine l

/-- The lines of code among printed lines. A printed line that holds line feeds is several
lines. -/
def codeOf (printed : List String) : List (List Char) := printed.flatMap codeLines

@[simp] theorem codeOf_nil : codeOf [] = [] := rfl

@[simp] theorem codeOf_append (ls ms : List String) : codeOf (ls ++ ms) = codeOf ls ++ codeOf ms :=
  List.flatMap_append

theorem codeOf_cons (l : String) (ls : List String) : codeOf (l :: ls) = codeLines l ++ codeOf ls :=
  List.flatMap_cons

theorem codeLines_text (ls : List String) :
    codeLines (String.join (ls.map (· ++ "\n"))) = codeOf ls ++ [[]] := by
  unfold codeLines
  rw [String.toList_join]
  induction ls with
  | nil => rfl
  | cons l ls ih =>
    have hl : (l ++ "\n").toList ++ (ls.map (· ++ "\n")).flatMap String.toList =
        l.toList ++ '\n' :: (ls.map (· ++ "\n")).flatMap String.toList := by
      rw [String.toList_append, List.append_assoc]
      rfl
    rw [List.map_cons, List.flatMap_cons, hl, splitOn_append_sep, List.filter_append, ih,
      codeOf_cons, List.append_assoc]
    rfl

/-! ## Doc lines -/

theorem isDocLine_append {indent s : List Char} (hi : allBlank indent = true)
    (hs : isDocLine s = true) : isDocLine (indent ++ s) = true := by
  unfold isDocLine at hs ⊢
  rw [trimStart_append_of_allBlank hi]
  exact hs

theorem isDocLine_comment (s : List Char) : isDocLine ('/' :: '/' :: '/' :: s) = true := by
  simp [isDocLine, trimStart, isBlank, startsWith, after?]

theorem isDocLine_moduleComment (s : List Char) : isDocLine ('/' :: '/' :: '!' :: s) = true := by
  simp [isDocLine, trimStart, isBlank, startsWith, after?]

theorem codeLines_of_isDocLine {l : String} (hfeed : '\n' ∉ l.toList)
    (hdoc : isDocLine l.toList = true) : codeLines l = [] := by
  rw [codeLines, splitOn_of_notMem hfeed]
  simp [hdoc]

/-- An indentation is blank and stays on its line. -/
structure IsIndentation (indent : String) : Prop where
  blank : allBlank indent.toList = true
  noFeed : '\n' ∉ indent.toList

theorem codeLines_docLine {indent doc : String} (hi : IsIndentation indent)
    (hd : '\n' ∉ doc.toList) : codeLines (docLine indent doc) = [] := by
  unfold docLine
  split
  next =>
    refine codeLines_of_isDocLine ?_ ?_
    · simp [hi.noFeed]
    · rw [String.toList_append]
      exact isDocLine_append hi.blank (isDocLine_comment [])
  next =>
    refine codeLines_of_isDocLine ?_ ?_
    · simp [hi.noFeed, hd]
    · rw [String.toList_append, String.toList_append, List.append_assoc]
      exact isDocLine_append hi.blank (isDocLine_comment (' ' :: doc.toList))

theorem not_mem_of_mem_docLines {docs d : String} (h : d ∈ docLines docs) : '\n' ∉ d.toList := by
  obtain ⟨l, hl, rfl⟩ := List.mem_map.1 h
  rw [String.toList_ofList]
  exact fun hc => not_mem_of_mem_lines hl (mem_of_mem_trim hc)

theorem codeOf_map_docLine {indent : String} {ds : List String} (hi : IsIndentation indent)
    (hd : ∀ d ∈ ds, '\n' ∉ d.toList) : codeOf (ds.map (docLine indent)) = [] := by
  rw [codeOf, List.flatMap_eq_nil_iff]
  intro l hl
  obtain ⟨d, hmem, rfl⟩ := List.mem_map.1 hl
  exact codeLines_docLine hi (hd d hmem)

/-- A paragraph holds no code, whatever its text is. -/
theorem codeOf_docLines {indent : String} (hi : IsIndentation indent) (docs : String) :
    codeOf ((docLines docs).map (docLine indent)) = [] :=
  codeOf_map_docLine hi fun _ => not_mem_of_mem_docLines

theorem isIndentation_none : IsIndentation "" := ⟨rfl, by decide⟩

theorem isIndentation_member : IsIndentation "    " := ⟨by decide, by decide⟩

theorem isIndentation_field : IsIndentation "        " := ⟨by decide, by decide⟩

/-! ## Constants and fields -/

theorem signalConstants_undocumented (taken : List String) (ss : List SignalDecl) :
    signalConstants taken (ss.map SignalDecl.undocumented) = signalConstants taken ss := by
  induction ss generalizing taken with
  | nil => rfl
  | cons s ss ih =>
    have hname : signalConst s.undocumented = signalConst s := rfl
    rw [List.map_cons, signalConstants, signalConstants, hname, ih]
    rfl

/-- The code of a field. -/
def FieldDecl.code (f : FieldDecl) : List (List Char) := codeOf f.lines

theorem code_fieldOf_undocumented (p : Property) :
    (fieldOf p.undocumented).code = (fieldOf p).code := by
  have hdocs (q : Property) : codeOf ((fieldOf q).docs.map (docLine "        ")) = [] :=
    codeOf_docLines isIndentation_field q.docs
  unfold FieldDecl.code FieldDecl.lines
  rw [codeOf_append, codeOf_append, codeOf_append, codeOf_append, hdocs, hdocs]
  rfl

theorem recordFields_undocumented (taken : List (List Char)) (ps : List Property) :
    (recordFields taken (ps.map Property.undocumented)).map (List.map FieldDecl.code) =
      (recordFields taken ps).map (List.map FieldDecl.code) := by
  induction ps generalizing taken with
  | nil => rfl
  | cons p ps ih =>
    have hident : propertyIdent p.undocumented = propertyIdent p := rfl
    rw [List.map_cons, recordFields_cons, recordFields_cons, hident]
    split
    next => rfl
    next =>
      split
      next => rfl
      next =>
        refine map_bind_congr (ih _) fun fields fields' hfields => ?_
        exact congrArg Except.ok (List.cons_eq_cons.2 ⟨code_fieldOf_undocumented p, hfields⟩)

/-! ## Functions -/

/-- The code of a function. -/
def FnDecl.code (f : FnDecl) : List (List Char) := codeOf f.lines

/-- The code of a function is that of its doc lines and that of the function without them. -/
theorem FnDecl.code_eq (f : FnDecl) :
    f.code = codeOf (f.docs.map (docLine "    ")) ++ { f with docs := [] }.code := by
  unfold FnDecl.code FnDecl.lines
  rw [List.append_assoc, List.append_assoc, codeOf_append]
  rfl

/-- A function whose doc lines hold no code has the code of the one without them. -/
theorem FnDecl.code_of_docs {f : FnDecl} (h : codeOf (f.docs.map (docLine "    ")) = []) :
    f.code = { f with docs := [] }.code := by
  rw [f.code_eq, h, List.nil_append]

/-- What a draft shows of its code: its name, and the code of its function or the fault. -/
def Draft.code (d : Draft) : List Char × Except RenderFault (List (List Char)) :=
  (d.name, d.decl.map FnDecl.code)

theorem claimAll_congr {ds es : List Draft} (h : ds.map Draft.code = es.map Draft.code)
    (taken : List (List Char)) :
    (claimAll taken ds).map (List.map FnDecl.code) =
      (claimAll taken es).map (List.map FnDecl.code) := by
  induction ds generalizing es taken with
  | nil =>
    rw [List.map_nil] at h
    rw [List.map_eq_nil_iff.1 h.symm]
  | cons d ds ih =>
    cases es with
    | nil => cases h
    | cons e es =>
      obtain ⟨hd, hds⟩ := List.cons_eq_cons.1 h
      obtain ⟨hname, hdecl⟩ := Prod.mk.inj hd
      rw [claimAll, claimAll, hname]
      split
      next => rfl
      next =>
        split
        next => rfl
        next =>
          refine map_bind_congr hdecl fun f g hfg => map_bind_congr (ih hds _) fun fs gs hs => ?_
          exact congrArg Except.ok (List.cons_eq_cons.2 ⟨hfg, hs⟩)

theorem propertyDrafts_undocumented (p : Property) :
    (propertyDrafts p.undocumented).map Draft.code = (propertyDrafts p).map Draft.code := by
  have hdocs (q : Property) : codeOf ((getterOf q).docs.map (docLine "    ")) = [] :=
    codeOf_docLines isIndentation_member q.docs
  have hget : (getterOf p.undocumented).code = (getterOf p).code := by
    rw [FnDecl.code_of_docs (hdocs p), FnDecl.code_of_docs (hdocs p.undocumented)]
    rfl
  have hdraft : Draft.code ⟨getterName p.undocumented, .ok (getterOf p.undocumented)⟩ =
      Draft.code ⟨getterName p, .ok (getterOf p)⟩ :=
    Prod.ext rfl (congrArg Except.ok hget)
  have hflags : p.undocumented.flags = p.flags := rfl
  rw [propertyDrafts_eq, propertyDrafts_eq, hflags, List.map_append, List.map_append]
  refine congrArg (· ++ _) ?_
  split
  next => rw [List.map_singleton, List.map_singleton, hdraft]
  next => rfl

theorem methodDraft_undocumented (m : Method) :
    (methodDraft m.undocumented).code = (methodDraft m).code := by
  have hdocs (n : Method) (ps : List Param) :
      codeOf ((wrapperOf n ps).docs.map (docLine "    ")) = [] :=
    codeOf_docLines isIndentation_member n.docs
  rw [methodDraft_eq, methodDraft_eq]
  refine Prod.ext rfl (map_bind_congr (g := id) rfl fun ps qs hpq => ?_)
  obtain rfl : ps = qs := hpq
  refine congrArg Except.ok ?_
  rw [FnDecl.code_of_docs (hdocs m ps), FnDecl.code_of_docs (hdocs m.undocumented ps)]
  rfl

/-- What is said of the body of a signal keeps its code when an empty line before it goes. -/
theorem codeOf_bodyDocs_undocumented (s : SignalDecl) :
    codeOf ((bodyDocs s.undocumented).map (docLine "    ")) =
      codeOf ((bodyDocs s).map (docLine "    ")) := by
  have hgap (docs : String) :
      codeOf ((if docs = "" then [] else [""]).map (docLine "    ")) = [] := by
    split
    next => rfl
    next => exact codeOf_map_docLine isIndentation_member (by simp)
  have hargs : s.undocumented.args = s.args := rfl
  unfold bodyDocs
  rw [hargs]
  split
  next => rfl
  next => rw [List.map_append, List.map_append, codeOf_append, codeOf_append, hgap, hgap]

theorem signalDraft_undocumented (s : SignalDecl) :
    (signalDraft s.undocumented).code = (signalDraft s).code := by
  have hdocs (r : SignalDecl) : codeOf ((watchOf r).docs.map (docLine "    ")) =
      codeOf ((bodyDocs r).map (docLine "    ")) := by
    unfold watchOf
    rw [List.map_append, codeOf_append, codeOf_docLines isIndentation_member, List.nil_append]
  have hwatch : (watchOf s.undocumented).code = (watchOf s).code := by
    rw [(watchOf s.undocumented).code_eq, (watchOf s).code_eq, hdocs, hdocs,
      codeOf_bodyDocs_undocumented]
    rfl
  rw [signalDraft_eq, signalDraft_eq]
  exact Prod.ext rfl (congrArg Except.ok hwatch)

theorem memberDrafts_undocumented (i : Interface) :
    (memberDrafts i.undocumented).map Draft.code = (memberDrafts i).map Draft.code := by
  have hproperties : (i.undocumented.properties.values.flatMap propertyDrafts).map Draft.code =
      (i.properties.values.flatMap propertyDrafts).map Draft.code := by
    rw [i.values_undocumented, List.flatMap_map, List.map_flatMap, List.map_flatMap]
    simp only [propertyDrafts_undocumented]
  have hmethods : (i.undocumented.methods.map methodDraft).map Draft.code =
      (i.methods.map methodDraft).map Draft.code := by
    simp [Interface.undocumented, methodDraft_undocumented]
  have hsignals : (i.undocumented.signals.map signalDraft).map Draft.code =
      (i.signals.map signalDraft).map Draft.code := by
    simp [Interface.undocumented, signalDraft_undocumented]
  unfold memberDrafts
  rw [List.map_append, List.map_append, hproperties, hmethods, hsignals, ← List.map_append,
    ← List.map_append]

theorem codeOf_functionLines_congr {fs gs : List FnDecl}
    (h : fs.map FnDecl.code = gs.map FnDecl.code) :
    codeOf (ClientModule.functionLines fs) = codeOf (ClientModule.functionLines gs) := by
  induction fs generalizing gs with
  | nil =>
    rw [List.map_nil] at h
    rw [List.map_eq_nil_iff.1 h.symm]
  | cons f fs ih =>
    cases gs with
    | nil => cases h
    | cons g gs =>
      obtain ⟨hf, hfs⟩ := List.cons_eq_cons.1 h
      cases fs with
      | nil =>
        rw [List.map_nil] at hfs
        rw [List.map_eq_nil_iff.1 hfs.symm]
        exact hf
      | cons f' fs =>
        cases gs with
        | nil => cases hfs
        | cons g' gs =>
          show codeOf (f.lines ++ "" :: ClientModule.functionLines (f' :: fs)) =
            codeOf (g.lines ++ "" :: ClientModule.functionLines (g' :: gs))
          rw [codeOf_append, codeOf_append, codeOf_cons, codeOf_cons, ih hfs]
          exact congrArg (· ++ _) hf

/-! ## Modules -/

/-- A title is printed on a line of its own, behind the mark of a doc line. -/
theorem codeOf_title {t : String} (h : '\n' ∉ t.toList) :
    codeOf (if t = "" then [] else ["//!", "//! " ++ t]) = [] := by
  split
  next => rfl
  next =>
    have hmark : codeLines "//!" = [] := codeLines_of_isDocLine (by decide) (by decide)
    have htitle : codeLines ("//! " ++ t) = [] := by
      refine codeLines_of_isDocLine (by simp [h]) ?_
      rw [String.toList_append]
      exact isDocLine_moduleComment (' ' :: t.toList)
    rw [codeOf_cons, codeOf_cons, hmark, htitle]
    rfl

theorem codeOf_clientDocs {i : Interface} (h : '\n' ∉ i.title.toList) :
    codeOf ((clientDocs i).map (docLine "")) = [] := by
  refine codeOf_map_docLine isIndentation_none fun d hd => ?_
  unfold clientDocs at hd
  rcases List.mem_append.1 hd with hd | hd
  · split at hd
    next => cases hd
    next =>
      rcases List.mem_cons.1 hd with rfl | hd
      · exact h
      · split at hd
        next => cases hd
        next => simp [List.mem_singleton.1 hd]
  · exact not_mem_of_mem_docLines hd

theorem codeOf_headLines_congr {m n : ClientModule} (hinterface : m.interface = n.interface)
    (hruntime : m.runtime = n.runtime) (hm : '\n' ∉ m.title.toList) (hn : '\n' ∉ n.title.toList) :
    codeOf m.headLines = codeOf n.headLines := by
  unfold ClientModule.headLines
  simp only [codeOf_append, codeOf_title hm, codeOf_title hn, hinterface, hruntime]

theorem codeOf_recordLines_congr {m n : ClientModule} (hinterface : m.interface = n.interface)
    (hruntime : m.runtime = n.runtime) (hname : m.record.name = n.record.name)
    (hfields : m.record.fields.map FieldDecl.code = n.record.fields.map FieldDecl.code) :
    codeOf m.recordLines = codeOf n.recordLines := by
  have hcode (fs : List FieldDecl) :
      codeOf (fs.flatMap FieldDecl.lines) = (fs.map FieldDecl.code).flatten := by
    rw [codeOf, List.flatMap_assoc]
    rfl
  unfold ClientModule.recordLines
  rw [codeOf_append, codeOf_append, codeOf_append, codeOf_append, hcode, hcode, hfields,
    hinterface, hruntime, hname]

theorem codeOf_clientLines_congr {m n : ClientModule} (hname : m.client.name = n.client.name)
    (hrecord : m.record.name = n.record.name)
    (hm : codeOf (m.client.docs.map (docLine "")) = [])
    (hn : codeOf (n.client.docs.map (docLine "")) = []) :
    codeOf m.clientLines = codeOf n.clientLines := by
  unfold ClientModule.clientLines
  rw [codeOf_append, codeOf_append, hm, hn, hname, hrecord]

theorem code_moduleOfParts_undocumented {i : Interface} (h : '\n' ∉ i.title.toList)
    {o : RenderOptions} {signals : List ConstDecl} {fields fields' : List FieldDecl}
    {members members' : List FnDecl}
    (hf : fields.map FieldDecl.code = fields'.map FieldDecl.code)
    (hm : members.map FnDecl.code = members'.map FnDecl.code) :
    codeOf (moduleOfParts o i.undocumented signals fields members).lines =
      codeOf (moduleOfParts o i signals fields' members').lines := by
  have hnone : '\n' ∉ i.undocumented.title.toList := by simp [Interface.undocumented]
  have hhead : codeOf (moduleOfParts o i.undocumented signals fields members).headLines =
      codeOf (moduleOfParts o i signals fields' members').headLines :=
    codeOf_headLines_congr rfl rfl hnone h
  have hrecord : codeOf (moduleOfParts o i.undocumented signals fields members).recordLines =
      codeOf (moduleOfParts o i signals fields' members').recordLines :=
    codeOf_recordLines_congr rfl rfl rfl hf
  have hclient : codeOf (moduleOfParts o i.undocumented signals fields members).clientLines =
      codeOf (moduleOfParts o i signals fields' members').clientLines :=
    codeOf_clientLines_congr rfl rfl (codeOf_clientDocs hnone) (codeOf_clientDocs h)
  have hfunctions : codeOf (ClientModule.functionLines
        (moduleOfParts o i.undocumented signals fields members).client.functions) =
      codeOf (ClientModule.functionLines
        (moduleOfParts o i signals fields' members').client.functions) := by
    refine codeOf_functionLines_congr ?_
    unfold moduleOfParts
    rw [List.map_append, List.map_append, hm]
    rfl
  unfold ClientModule.lines
  simp only [codeOf_append, hhead, hrecord, hclient, hfunctions]
  rfl

theorem render_undocumented {o : RenderOptions} {i : Interface} (h : '\n' ∉ i.title.toList) :
    (render o i.undocumented).map codeLines = (render o i).map codeLines := by
  have hname : i.undocumented.shortName = i.shortName := rfl
  have hsignals : signalConstants [] i.undocumented.signals = signalConstants [] i.signals :=
    signalConstants_undocumented [] i.signals
  have hfields : (recordFields [] i.undocumented.properties.values).map (List.map FieldDecl.code) =
      (recordFields [] i.properties.values).map (List.map FieldDecl.code) := by
    rw [i.values_undocumented, recordFields_undocumented]
  have hmap (j : Interface) : (render o j).map codeLines =
      (clientModule o j).map fun m => codeOf m.lines ++ [[]] := by
    unfold render
    cases clientModule o j with
    | error e => rfl
    | ok m => exact congrArg Except.ok (codeLines_text m.lines)
  rw [hmap, hmap]
  cases hid : isIdentifier i.shortName.toList with
  | false =>
    rw [clientModule_of_not_identifier hid, clientModule_of_not_identifier (hname ▸ hid), hname]
  | true =>
    rw [clientModule_eq hid, clientModule_eq (hname ▸ hid), hsignals]
    refine map_bind_congr (g := id) rfl fun signals signals' hs => ?_
    obtain rfl : signals = signals' := hs
    refine map_bind_congr hfields fun fields fields' hf => ?_
    refine map_bind_congr (claimAll_congr (memberDrafts_undocumented i) _) fun fs gs hm => ?_
    exact congrArg (fun c => Except.ok (c ++ [[]])) (code_moduleOfParts_undocumented h hf hm)

/-- **Documentation is no code.** Two interfaces that differ in their titles, docs and declared
errors alone are rendered with the same error, or to sources that are the same without their doc
lines. -/
theorem codeLines_render_congr {o : RenderOptions} {i j : Interface}
    (h : i.undocumented = j.undocumented) (hi : '\n' ∉ i.title.toList)
    (hj : '\n' ∉ j.title.toList) :
    ((render o i).mapError (GenerateError.render i.name)).map codeLines =
      ((render o j).mapError (GenerateError.render j.name)).map codeLines := by
  have hname : i.name = j.name := by
    show i.undocumented.name = j.undocumented.name
    rw [h]
  have hcode : (render o i).map codeLines = (render o j).map codeLines := by
    rw [← render_undocumented hi, ← render_undocumented hj, h]
  have hswap (f : RenderFault → GenerateError) (x : Except RenderFault String) :
      (x.mapError f).map codeLines = (x.map codeLines).mapError f := by
    cases x <;> rfl
  rw [hswap, hswap, hcode, hname]

/-- An interface with a member of each kind, the given title and the given docs everywhere. -/
def playerInterface (title docs : String) : Interface where
  name := "org.example.Player1"
  title := title
  objectPath := "/org/example"
  docs := docs
  properties := OrderedMap.ofList
    [("Volume", { type := "uint16", name := "Volume", flags := ⟨false, true, false⟩, docs := docs })]
  methods := [{ name := "Play", args := [⟨"string", "track"⟩], docs := docs,
                errors := NameSet.ofList [docs] }]
  signals := [{ name := "Ended", args := [⟨"string", "track"⟩], docs := docs }]

/-- Docs with lines that would be code. -/
def unrulyDocs : String := "Stops.\n\n  pub mod x;\r\n*/ \x7d"

theorem codeLines_render_playerInterface :
    (playerInterface "" "").undocumented =
        (playerInterface "Player hierarchy" unrulyDocs).undocumented ∧
      (render {} (playerInterface "" "")).toOption.isSome = true ∧
      ((render {} (playerInterface "" "")).mapError
          (GenerateError.render "org.example.Player1")).map codeLines =
        ((render {} (playerInterface "Player hierarchy" unrulyDocs)).mapError
          (GenerateError.render "org.example.Player1")).map codeLines := by
  have h : (playerInterface "" "").undocumented =
      (playerInterface "Player hierarchy" unrulyDocs).undocumented := rfl
  exact ⟨h, by decide +kernel, codeLines_render_congr h (by decide) (by decide)⟩

end Binding

end BusDoc
