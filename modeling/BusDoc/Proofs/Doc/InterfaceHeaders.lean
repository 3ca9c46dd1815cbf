import BusDoc.Proofs.Doc.Partition

/-!
# The interface headers of a unit

A unit declares its interface in a header line in front of its sections. The name is what stands in
front of an annotation in brackets. A header without a name, which is empty or holds nothing but
an annotation, is passed over: the splitter looks for a name declared before, not for a header.

* `headerValue?_eq_some_iff`: what a header line is.
* `interface_foldlM`, `declare?_eq_some_iff`: the name that the header lines of a unit declare.
* `exists_unitOfLines_iff`: the ranges of lines that are units, by their headers.
* `splitUnits_declares`: each unit of a file has one header with a name, the last one, and it is the
  only one unless a header without a name comes before it.
-/

namespace BusDoc.Doc

open Result Text

/-! ## Header lines -/

theorem headerValue?_eq_some_iff {keyword : String} {text value : List Char} :
    headerValue? keyword text = some value ↔
      (text = keyword.toList ∧ value = []) ∨
        ∃ rest, text = keyword.toList ++ ' ' :: rest ∧ value = trim rest := by
  unfold headerValue?
  constructor
  · intro h
    split at h
    next hafter =>
      cases h
      exact .inl ⟨by simpa using after?_eq_some_iff.1 hafter, rfl⟩
    next rest hafter =>
      cases h
      exact .inr ⟨rest, after?_eq_some_iff.1 hafter, rfl⟩
    next => cases h
  · rintro (⟨rfl, rfl⟩ | ⟨rest, rfl, rfl⟩)
    · rw [after?_eq_some_iff.2 (List.append_nil _).symm]
    · rw [after?_eq_some_iff.2 rfl]
      rfl

/-- The values of the interface headers among the lines, in order. -/
def headerValues (ls : List Line) : List (List Char) :=
  ls.filterMap fun l => headerValue? "Interface" l.text

/-- The name in the value of an interface header: what stands in front of an annotation. -/
def interfaceName (value : List Char) : List Char := trim (value.takeWhile (· ≠ '['))

theorem headerValues_eq_nil {ls : List Line} :
    headerValues ls = [] ↔ ∀ l ∈ ls, headerValue? "Interface" l.text = none := by
  simp [headerValues]

variable {l : Line} {value : List Char}

/-- An interface header is no other header. -/
theorem headerValue?_service (h : headerValue? "Interface" l.text = some value) :
    headerValue? "Service" l.text = none := by
  have hfirst (s : List Char) : headerValue? "Service" ("Interface".toList ++ s) = none := rfl
  obtain ⟨htext, -⟩ | ⟨rest, htext, -⟩ := headerValue?_eq_some_iff.1 h
  · rw [htext, ← List.append_nil "Interface".toList, hfirst]
  · rw [htext, hfirst]

/-- An interface header is no section keyword. -/
theorem opensSection_eq_false (h : headerValue? "Interface" l.text = some value) :
    opensSection l = false := by
  have hword : l.text.takeWhile isAsciiAlpha = "Interface".toList := by
    obtain ⟨htext, -⟩ | ⟨rest, htext, -⟩ := headerValue?_eq_some_iff.1 h
    · rw [htext]
      rfl
    · rw [htext]
      rfl
  have hkind : sectionKind? (l.text.takeWhile isAsciiAlpha) = none := by
    rw [hword]
    rfl
  rw [opensSection, sectionStart?, hkind]
  rfl

/-! ## The run over the header lines -/

/-- The name that is declared when headers with the values follow the declaration of a name, if
they may. -/
def declare? : (declared : List Char) → (values : List (List Char)) → Option (List Char)
  | declared, [] => some declared
  | declared, value :: values =>
    if declared = [] then declare? (interfaceName value) values else none

theorem step_of_header (h : Header) (hl : headerValue? "Interface" l.text = some value) :
    h.step l =
      if h.interface.isEmpty then .ok { h with interface := interfaceName value }
      else
        .error (.secondInterface (String.ofList value) l.number (String.ofList h.interface)) := by
  rw [Header.step, headerValue?_service hl, hl]
  rfl

theorem step_of_other (h : Header) (hl : headerValue? "Interface" l.text = none) :
    ∃ h', h.step l = .ok h' ∧ h'.interface = h.interface := by
  rw [Header.step, hl]
  cases headerValue? "Service" l.text with
  | some value => exact ⟨_, rfl, rfl⟩
  | none =>
    cases headerValue? "Object path" l.text with
    | some value => exact ⟨_, rfl, rfl⟩
    | none => exact ⟨_, rfl, rfl⟩

/-- What the header lines of a unit declare depends on the values of the interface headers among
them alone. -/
theorem interface_foldlM (ls : List Line) (h : Header) :
    (ls.foldlM Header.step h).toOption.map Header.interface =
      declare? h.interface (headerValues ls) := by
  induction ls generalizing h with
  | nil => rfl
  | cons l ls ih =>
    rw [List.foldlM_cons, headerValues, List.filterMap_cons]
    cases hl : headerValue? "Interface" l.text with
    | none =>
      obtain ⟨h', hstep, hsame⟩ := step_of_other h hl
      rw [hstep, ← hsame]
      exact ih h'
    | some value =>
      rw [step_of_header h hl, declare?]
      by_cases hname : h.interface = []
      · rw [if_pos (by simp [hname]), if_pos hname]
        exact ih _
      · rw [if_neg (by simpa using hname), if_neg hname]
        rfl

theorem declare?_of_ne_nil {declared name : List Char} {values : List (List Char)}
    (h : declared ≠ []) : declare? declared values = some name ↔ values = [] ∧ declared = name := by
  cases values with
  | nil => simp [declare?]
  | cons value values => simp [declare?, h]

/-- Headers declare a name if the last of them has it, and none before has one. -/
theorem declare?_eq_some_iff {values : List (List Char)} {name : List Char} (hname : name ≠ []) :
    declare? [] values = some name ↔
      ∃ nameless value, values = nameless ++ [value] ∧ (∀ v ∈ nameless, interfaceName v = []) ∧
        interfaceName value = name := by
  induction values with
  | nil => simpa [declare?] using hname.symm
  | cons v values ih =>
    rw [declare?, if_pos rfl]
    by_cases hv : interfaceName v = []
    · rw [hv, ih]
      constructor
      · rintro ⟨nameless, value, rfl, hnone, hlast⟩
        exact ⟨v :: nameless, value, rfl, by simpa using ⟨hv, hnone⟩, hlast⟩
      · rintro ⟨nameless, value, heq, hnone, hlast⟩
        cases nameless with
        | nil =>
          obtain ⟨rfl, -⟩ := List.cons.inj heq
          exact absurd (hlast.symm.trans hv) hname
        | cons w nameless =>
          obtain ⟨rfl, rfl⟩ := List.cons.inj heq
          exact ⟨nameless, value, rfl, fun v hv => hnone v (List.mem_cons_of_mem _ hv), hlast⟩
    · rw [declare?_of_ne_nil hv]
      constructor
      · rintro ⟨rfl, hlast⟩
        exact ⟨[], v, rfl, by simp, hlast⟩
      · rintro ⟨nameless, value, heq, hnone, hlast⟩
        cases nameless with
        | nil =>
          obtain ⟨rfl, rfl⟩ := List.cons.inj heq
          exact ⟨rfl, hlast⟩
        | cons w nameless =>
          obtain ⟨rfl, -⟩ := List.cons.inj heq
          exact absurd (hnone v List.mem_cons_self) hv

/-! ## The headers of a unit -/

/-- The lines of a unit declare an interface of the name: the last interface header among them has
it, none before has a name, and no such header stands behind a section keyword. -/
structure Declares (body : List Line) (name : List Char) : Prop where
  named : name ≠ []
  headers : ∃ nameless value, headerValues body = nameless ++ [value] ∧
    (∀ v ∈ nameless, interfaceName v = []) ∧ interfaceName value = name
  inFront : headerValues (sectionLines body) = []

theorem lateFault?_eq_none {h : Header} {sections : List Line} :
    h.lateFault? sections = none ↔ headerValues sections = [] := by
  rw [Header.lateFault?, List.findSome?_eq_none_iff, headerValues_eq_nil]
  refine forall₂_congr fun l _ => ?_
  cases hl : headerValue? "Interface" l.text with
  | none => simp
  | some value => simp [opensSection_eq_false hl]

/-- A range of lines is a unit exactly if the lines under its title declare an interface, and it is
the unit of that interface. -/
theorem exists_unitOfLines_iff {source : String} {ls : List Line} {name : List Char} :
    (∃ u, unitOfLines source ls = .ok (some u) ∧ u.interface.toList = name) ↔
      Declares (unitBody ls) name := by
  have hbody := cutBefore_flatten opensSection (unitBody ls)
  have hsections := flatten_cutBefore opensSection (unitBody ls)
  have hvalues : headerValues (unitBody ls) =
      headerValues (cutBefore opensSection (unitBody ls)).1 ++
        headerValues (sectionLines (unitBody ls)) := by
    rw [sectionLines, ← hsections, headerValues, headerValues, headerValues,
      ← List.filterMap_append, hbody]
  rw [unitOfLines_eq]
  simp only [unitOfParts_eq_ok_some, lateFault?_eq_none, hsections]
  constructor
  · rintro ⟨u, ⟨h, hlines, hlate, hname, rfl⟩, rfl⟩
    have hrun := interface_foldlM (cutBefore opensSection (unitBody ls)).1 {}
    rw [← Header.ofLines, hlines] at hrun
    have hdeclares := (declare?_eq_some_iff hname).1 hrun.symm
    have hspelled : (h.unit source (unitTitle ls) (cutBefore opensSection (unitBody ls)).2
        ).interface.toList = h.interface := String.toList_ofList
    rw [hspelled]
    refine ⟨hname, ?_, hlate⟩
    rwa [hvalues, sectionLines, hlate, List.append_nil]
  · rintro ⟨hname, hheaders, hlate⟩
    rw [hvalues, hlate, List.append_nil] at hheaders
    have hrun := interface_foldlM (cutBefore opensSection (unitBody ls)).1 {}
    rw [(declare?_eq_some_iff hname).2 hheaders, ← Header.ofLines] at hrun
    obtain ⟨h, hok, rfl⟩ := Option.map_eq_some_iff.1 hrun
    cases hlines : Header.ofLines (cutBefore opensSection (unitBody ls)).1 with
    | error fault => rw [hlines] at hok; cases hok
    | ok h' =>
      rw [hlines] at hok
      cases hok
      exact ⟨_, ⟨h, rfl, hlate, hname, rfl⟩, String.toList_ofList⟩

/-- If no header is passed over, there is one. -/
theorem Declares.length_eq_one_iff {body : List Line} {name : List Char} (h : Declares body name) :
    (headerValues body).length = 1 ↔ ∀ value ∈ headerValues body, interfaceName value ≠ [] := by
  obtain ⟨nameless, value, hvalues, hnone, hlast⟩ := h.headers
  rw [hvalues, List.length_append, List.length_singleton]
  constructor
  · intro hlen
    obtain rfl : nameless = [] := List.length_eq_zero_iff.1 (by omega)
    simpa [hlast] using h.named
  · intro hall
    cases nameless with
    | nil => rfl
    | cons v nameless => exact absurd (hnone v List.mem_cons_self) (hall v (by simp))

/-- **Each unit declares one interface by name.** The units of a file were read from ranges of its
lines, each from one whose lines under the title declare the unit's interface: the last interface
header among them has the name, in front of an annotation, those before it have none, and no
section keyword stands before any of them. Every such range is a unit. So a unit has one interface
header exactly if it has none without a name. -/
theorem splitUnits_declares {source content : String} {units : List DocUnit}
    (h : splitUnits source content = .ok units) :
    (∀ u ∈ units, ∃ ls ∈ unitRanges (fileLines content.toList),
      unitOfLines source ls = .ok (some u)) ∧
    ∀ ls ∈ unitRanges (fileLines content.toList), ∀ name,
      ((∃ u ∈ units, unitOfLines source ls = .ok (some u) ∧ u.interface.toList = name) ↔
        Declares (unitBody ls) name) ∧
      (Declares (unitBody ls) name →
        ((headerValues (unitBody ls)).length = 1 ↔
          ∀ value ∈ headerValues (unitBody ls), interfaceName value ≠ [])) := by
  refine ⟨fun u hu => mem_splitUnits h hu, fun ls hls name => ⟨?_, Declares.length_eq_one_iff⟩⟩
  refine Iff.trans (exists_congr fun u => ⟨fun hu => hu.2, fun hu => ⟨?_, hu⟩⟩)
    exists_unitOfLines_iff
  exact mem_of_unitOfLines h hls hu.1

/-- A unit with two interface headers, the first of which is all annotation. -/
def hiddenMixerText : String :=
  "Service\torg.m\nInterface\t[org.m.Hidden]\nInterface\torg.m.Mixer [experimental]\n\n" ++
    "Signals\tMuted()\n"

/-- The unit that the text documents. -/
def hiddenMixerUnit : DocUnit :=
  ⟨"m.txt", "", "org.m", "org.m.Mixer", "", "", [⟨.signal, "Muted()".toList, 5⟩]⟩

theorem splitUnits_declares_hiddenMixer :
    splitUnits "m.txt" hiddenMixerText = .ok [hiddenMixerUnit] ∧
      Declares (unitBody (fileLines hiddenMixerText.toList)) "org.m.Mixer".toList := by
  have h : splitUnits "m.txt" hiddenMixerText = .ok [hiddenMixerUnit] := by decide +kernel
  have hrange : fileLines hiddenMixerText.toList ∈
      unitRanges (fileLines hiddenMixerText.toList) := by
    decide +kernel
  exact ⟨h, ((splitUnits_declares h).2 _ hrange _).1.1
    ⟨hiddenMixerUnit, List.mem_singleton.2 rfl, by decide +kernel, rfl⟩⟩

/-- A unit of a file with two interface headers in its lines. -/
theorem twoHeaders_hiddenMixer :
    splitUnits "m.txt" hiddenMixerText = .ok [hiddenMixerUnit] ∧
      unitRanges (fileLines hiddenMixerText.toList) = [fileLines hiddenMixerText.toList] ∧
      headerValues (fileLines hiddenMixerText.toList) =
        ["[org.m.Hidden]".toList, "org.m.Mixer [experimental]".toList] := by
  decide +kernel

end BusDoc.Doc
