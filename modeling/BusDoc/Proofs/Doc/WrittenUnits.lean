import BusDoc.Proofs.Doc.Paragraph
import BusDoc.Proofs.Doc.UnitParts
import BusDoc.Proofs.Doc.WrittenBlocks
import Mathlib.Data.List.TakeWhile

/-!
# Written units read back

* `sectionBlocks_written`: a section under its keyword gives its blocks back.
* `ofLines_header`: the header lines give their values back, and no docs.
* `unitOfLines_written`: a unit is read as written.
* `splitUnits_writeUnits`: a file is read as written, unit by unit, each block with the number of
  the line it begins at.
-/

namespace BusDoc.Doc

open Text

/-! ## Sections -/

theorem plain_keyword (kind : BlockKind) : IsPlainLine (kind.keyword ++ [':']) := by
  cases kind <;> decide

theorem sectionStart?_keyword (kind : BlockKind) :
    sectionStart? (kind.keyword ++ [':']) =
      some (kind, List.replicate (kind.keyword.length + 1) ' ') := by
  cases kind <;> rfl

/-- A line at column 0 of which nothing stands: it can be no header and no keyword. -/
def IsSetIn (l : List Char) : Prop := l = [] ∨ ∃ s, l = ' ' :: s

theorem IsSetIn.sectionStart? {l : List Char} (h : IsSetIn l) : sectionStart? l = none := by
  rcases h with rfl | ⟨s, rfl⟩ <;> rfl

theorem IsSetIn.headerValue? {l : List Char} (h : IsSetIn l) :
    headerValue? "Interface" l = none := by
  rcases h with rfl | ⟨s, rfl⟩ <;> rfl

theorem isSetIn_indentLine {n : Nat} (hn : 0 < n) (l : List Char) : IsSetIn (indentLine n l) := by
  obtain ⟨m, rfl⟩ := Nat.exists_eq_add_one_of_ne_zero (Nat.ne_of_gt hn)
  by_cases hl : l = []
  · exact .inl (by rw [hl, indentLine_nil])
  · exact .inr ⟨_, by rw [indentLine_of_ne_nil hl, List.replicate_succ, List.cons_append]⟩

namespace SectionLayout

variable (s : SectionLayout)

theorem mem_body {l : List Char} (h : l ∈ s.body) : IsPlainLine l ∧ IsSetIn l := by
  rcases List.mem_append.1 h with h | h
  · rw [List.eq_of_mem_replicate h]
    exact ⟨.empty, .inl rfl⟩
  · obtain ⟨r, hr, hl⟩ := List.mem_flatten.1 h
    obtain ⟨b, gap, rfl⟩ := exists_of_mem_blockRuns hr
    refine ⟨b.plain_run _ _ l hl, ?_⟩
    rcases List.mem_append.1 hl with hl | hl
    · obtain ⟨k, -, rfl⟩ := List.mem_map.1 hl
      exact isSetIn_indentLine s.indent_pos k
    · exact .inl (List.eq_of_mem_replicate hl)

theorem plain_lines : ∀ l ∈ s.lines, IsPlainLine l := by
  intro l hl
  rcases List.mem_cons.1 hl with rfl | hl
  · exact plain_keyword s.kind
  · exact (s.mem_body hl).1

/-- The lines under the keyword open no section and declare no interface. -/
theorem body_text {start : Nat} {m : Line} (h : m ∈ numberLines start s.body) : IsSetIn m.text := by
  obtain ⟨l, hl, e⟩ := exists_text_of_mem_numberLines h
  obtain ⟨hplain, hset⟩ := s.mem_body hl
  rwa [e, expandTabs_of_plain hplain]

theorem numberLines_lines (start : Nat) :
    numberLines start s.lines =
      ⟨start, s.kind.keyword ++ [':']⟩ :: numberLines (start + 1) s.body := by
  rw [lines, numberLines, expandTabs_of_plain (plain_keyword s.kind)]

theorem isRun_lines (start : Nat) : IsRun opensSection (numberLines start s.lines) := by
  rw [numberLines_lines]
  refine ⟨?_, fun m hm => ?_⟩
  · simp [opensSection, sectionStart?_keyword]
  · simp [opensSection, (s.body_text hm).sectionStart?]

theorem sectionBlocks_written (start : Nat) :
    sectionBlocks (numberLines start s.lines) = blocksAt s.kind (start + 1 + s.lead) s.blocks := by
  have hfront : ∀ m ∈ (⟨start, List.replicate (s.kind.keyword.length + 1) ' '⟩ : Line) ::
      numberLines (start + 1) (empties s.lead), m.isBlank = true := by
    intro m hm
    rcases List.mem_cons.1 hm with rfl | hm
    · exact allBlank_spaces _
    · obtain ⟨l, hl, e⟩ := exists_text_of_mem_numberLines hm
      rw [Line.isBlank, e, List.eq_of_mem_replicate hl]
      rfl
  have hlead : (empties s.lead).length = s.lead := List.length_replicate
  rw [numberLines_lines, sectionBlocks, sectionStart?_keyword]
  simp only
  rw [body, numberLines_append, hlead, ← List.cons_append]
  exact splitBlocks_written s.kind s.indent _ hfront s.blocks

end SectionLayout

theorem flatMap_sectionBlocks (start : Nat) (sections : List SectionLayout) :
    (numberRanges start (sections.map SectionLayout.lines)).flatMap sectionBlocks =
      sectionsAt start sections := by
  induction sections generalizing start with
  | nil => rfl
  | cons s rest ih =>
    rw [List.map_cons, numberRanges, List.flatMap_cons, s.sectionBlocks_written, ih, sectionsAt]

/-! ## Header lines -/

/-- The value of a header line comes back, however many spaces stand before it. -/
theorem headerValue?_key (keyword : String) (n : Nat) {value : List Char}
    (h : trim value = value) :
    headerValue? keyword (keyword.toList ++ List.replicate (n + 1) ' ' ++ value) = some value := by
  have hafter := after?_eq_some_iff.2 (List.append_assoc keyword.toList
    (List.replicate (n + 1) ' ') value)
  rw [List.replicate_succ, List.cons_append] at hafter
  unfold headerValue?
  rw [List.replicate_succ, hafter]
  simp only
  rw [trim, trimStart_append_of_allBlank (allBlank_spaces n)]
  exact congrArg some h

namespace UnitLayout

variable (u : UnitLayout)

/-- The header lines with their tabs expanded. -/
theorem numberLines_header (start : Nat) :
    numberLines start u.header =
      ⟨start, "Service".toList ++ List.replicate 1 ' ' ++ u.service⟩ ::
      ⟨start + 1, "Interface".toList ++ List.replicate 7 ' ' ++ u.interface⟩ ::
      ⟨start + 2, "Object path".toList ++ List.replicate 5 ' ' ++ u.objectPath⟩ ::
      numberLines (start + 3) (empties (u.lead + 1)) := by
  have expand {key value : List Char} (hk : '\t' ∉ key) (h : IsHeaderText value) :=
    expandTabs_key hk h.2.2.1 (trimEnd_of_trim h.2.2.2) h.1
  rw [header, numberLines, numberLines, numberLines, expand (by decide) u.service_text,
    expand (by decide) u.interface_text, expand (by decide) u.objectPath_text]
  rfl

theorem foldlM_cons_ok {h h' : Header} {l : Line} {ls : List Line} (e : h.step l = .ok h') :
    (l :: ls).foldlM Header.step h = ls.foldlM Header.step h' := by
  rw [List.foldlM_cons, e]
  rfl

theorem foldlM_step_empties (h : Header) (start n : Nat) :
    (numberLines start (empties n)).foldlM Header.step h =
      .ok { h with docs := empties n ++ h.docs } := by
  induction n generalizing h start with
  | zero => rfl
  | succ n ih =>
    have hstep : Header.step h ⟨start, expandTabs []⟩ = .ok { h with docs := [] :: h.docs } := rfl
    have e : empties n ++ [] :: h.docs = empties (n + 1) ++ h.docs := by
      rw [empties, empties, List.replicate_succ', List.append_assoc, List.singleton_append]
    rw [empties, List.replicate_succ, numberLines, foldlM_cons_ok hstep]
    exact (ih _ _).trans (by rw [e]; rfl)

/-- Nothing is cut off the interface, for it holds no bracket. -/
theorem trim_takeWhile_interface :
    trim (u.interface.takeWhile fun c => !decide (c = '[')) = u.interface := by
  have h : ∀ c ∈ u.interface, (!decide (c = '[')) = true := by
    intro c hc
    simpa using fun e : c = '[' => u.no_bracket (e ▸ hc)
  rw [List.takeWhile_eq_self_iff.2 h, u.interface_text.2.2.2]

theorem ofLines_header (start : Nat) :
    Header.ofLines (numberLines start u.header) =
      .ok ⟨u.service, u.interface, u.objectPath, empties (u.lead + 1)⟩ := by
  have hservice : Header.step {} ⟨start, "Service".toList ++ List.replicate 1 ' ' ++ u.service⟩ =
      .ok { service := u.service } := by
    rw [Header.step, headerValue?_key _ _ u.service_text.2.2.2]
  have hinterface (h : Header) (he : h.interface = []) :
      h.step ⟨start + 1, "Interface".toList ++ List.replicate 7 ' ' ++ u.interface⟩ =
        .ok { h with interface := u.interface } := by
    have hnone : headerValue? "Service"
        ("Interface".toList ++ List.replicate 7 ' ' ++ u.interface) = none := rfl
    rw [Header.step, hnone, headerValue?_key _ _ u.interface_text.2.2.2]
    simp [he, u.trim_takeWhile_interface]
  have hpath (h : Header) :
      h.step ⟨start + 2, "Object path".toList ++ List.replicate 5 ' ' ++ u.objectPath⟩ =
        .ok { h with objectPath := u.objectPath } := by
    have hnone (key : String) (hk : key = "Service" ∨ key = "Interface") : headerValue? key
        ("Object path".toList ++ List.replicate 5 ' ' ++ u.objectPath) = none := by
      rcases hk with rfl | rfl <;> rfl
    rw [Header.step, hnone _ (.inl rfl), hnone _ (.inr rfl),
      headerValue?_key _ _ u.objectPath_text.2.2.2]
  rw [Header.ofLines, numberLines_header, foldlM_cons_ok hservice,
    foldlM_cons_ok (hinterface _ rfl), foldlM_cons_ok (hpath _), foldlM_step_empties,
    List.append_nil]

end UnitLayout

/-- Empty lines document nothing. -/
theorem paragraph_empties (h : Header) (n : Nat) (hd : h.docs = empties (n + 1)) :
    h.paragraph = [] := by
  have hlines : lines (terminate (empties n)) = empties n := by
    apply lines_terminate <;> intro l hl <;> rw [List.eq_of_mem_replicate hl]
    · simp
    · rfl
  have hreverse : h.docs.reverse = empties n ++ [[]] := by
    rw [hd, empties, List.reverse_replicate, List.replicate_succ']
    rfl
  rw [Header.paragraph, hreverse, unlines_concat, List.append_nil]
  refine cleanDocs_of_blank fun l hl => ?_
  rw [hlines] at hl
  rw [List.eq_of_mem_replicate hl]
  rfl

/-! ## Underlines -/

theorem isUnderline_cons_of_not {c : Char} (hc : isBlank c = false) (hne : c ≠ '=')
    (s : List Char) : isUnderline (c :: s) = false := by
  have h : trim (c :: s) = c :: trimEnd s := by
    rw [trim, trimStart_cons_of_not hc, trimEnd_cons_of_not hc]
  simp [isUnderline, h, hne]

theorem isUnderline_indentLine (n : Nat) (l : List Char) :
    isUnderline (indentLine n l) = isUnderline l := by
  by_cases hl : l = []
  · rw [hl, indentLine_nil]
  · unfold isUnderline trim
    rw [indentLine_of_ne_nil hl, trimStart_append_of_allBlank (allBlank_spaces n)]

theorem trim_rule (n : Nat) : trim (List.replicate n '=') = List.replicate n '=' := by
  refine trim_of_noBlank fun c hc => ?_
  rw [List.eq_of_mem_replicate hc]
  rfl

theorem isUnderline_replicate {n : Nat} (h : 0 < n) :
    isUnderline (List.replicate n '=') = true := by
  simp [isUnderline, trim_rule, Nat.ne_of_gt h]

theorem SectionLayout.not_underline (s : SectionLayout) :
    ∀ l ∈ s.lines, isUnderline l = false := by
  intro l hl
  rcases List.mem_cons.1 hl with rfl | hl
  · cases s.kind <;> rfl
  · rcases List.mem_append.1 hl with hl | hl
    · rw [List.eq_of_mem_replicate hl]
      rfl
    · obtain ⟨r, hr, hl⟩ := List.mem_flatten.1 hl
      obtain ⟨b, gap, rfl⟩ := exists_of_mem_blockRuns hr
      rcases List.mem_append.1 hl with hl | hl
      · obtain ⟨k, hk, rfl⟩ := List.mem_map.1 hl
        rw [isUnderline_indentLine, b.noUnderline k hk]
      · rw [List.eq_of_mem_replicate hl]
        rfl

/-! ## Units -/

namespace UnitLayout

variable (u : UnitLayout)

theorem isTitleText_title : isTitleText u.title = true := by
  simp only [isTitleText, u.title_text.2.2.2, u.title_ends, Bool.true_or]

/-- A title has letters. -/
theorem title_not_underline : isUnderline u.title = false := by
  cases h : isUnderline u.title with
  | false => rfl
  | true =>
    simp only [isUnderline, u.title_text.2.2.2, Bool.and_eq_true, List.all_eq_true,
      beq_iff_eq] at h
    obtain ⟨front, hf⟩ := Option.isSome_iff_exists.1 u.title_ends
    have hy : 'y' ∈ u.title.map asciiLower := by
      rw [before?_eq_some_iff.1 hf]
      exact List.mem_append_right _ (by decide)
    obtain ⟨c, hc, e⟩ := List.mem_map.1 hy
    rw [h.2 c hc] at e
    exact absurd e (by decide)

theorem plain_title : IsPlainLine u.title :=
  ⟨u.title_text.2.1, u.title_text.2.2.1, trimEnd_of_trim u.title_text.2.2.2⟩

theorem plain_rule : IsPlainLine (List.replicate u.width '=') := by
  have h : ∀ c ∈ List.replicate u.width '=', c = '=' := fun c hc => List.eq_of_mem_replicate hc
  exact ⟨fun hm => absurd (h _ hm) (by decide), fun hm => absurd (h _ hm) (by decide),
    trimEnd_of_trim (trim_rule u.width)⟩

/-- The numbered lines of the unit: title, underline, header and sections. -/
theorem numberLines_lines (start : Nat) :
    numberLines start u.lines =
      ⟨start, u.title⟩ :: ⟨start + 1, List.replicate u.width '='⟩ ::
        (numberLines (start + 2) u.header ++
          (numberRanges (start + 2 + u.header.length)
            (u.sections.map SectionLayout.lines)).flatten) := by
  rw [lines, numberLines, numberLines, numberLines_append, List.flatMap_def, numberLines_flatten,
    expandTabs_of_plain u.plain_title, expandTabs_of_plain u.plain_rule]

/-- No header line is an underline, and none opens a section. -/
theorem header_text {start : Nat} {m : Line} (h : m ∈ numberLines start u.header) :
    isUnderline m.text = false ∧ sectionStart? m.text = none := by
  rw [numberLines_header] at h
  simp only [List.mem_cons] at h
  rcases h with rfl | rfl | rfl | h
  · exact ⟨isUnderline_cons_of_not rfl (by decide) _, rfl⟩
  · exact ⟨isUnderline_cons_of_not rfl (by decide) _, rfl⟩
  · exact ⟨isUnderline_cons_of_not rfl (by decide) _, rfl⟩
  · obtain ⟨l, hl, e⟩ := exists_text_of_mem_numberLines h
    rw [e, List.eq_of_mem_replicate hl]
    exact ⟨rfl, rfl⟩

/-- A numbered section line is the line as written. -/
theorem section_text {start : Nat} {m : Line}
    (h : m ∈ (numberRanges start (u.sections.map SectionLayout.lines)).flatten) :
    ∃ s ∈ u.sections, ∃ k, m ∈ numberLines k s.lines := by
  obtain ⟨r, hr, hm⟩ := List.mem_flatten.1 h
  obtain ⟨k, ls, hls, rfl⟩ := exists_of_mem_numberRanges hr
  obtain ⟨s, hs, rfl⟩ := List.mem_map.1 hls
  exact ⟨s, hs, k, hm⟩

theorem isUnitRange_lines (start : Nat) : IsUnitRange (numberLines start u.lines) := by
  rw [numberLines_lines]
  refine ⟨u.isTitleText_title, u.title_not_underline, isUnderline_replicate u.width_pos, ?_⟩
  intro m hm
  rcases List.mem_append.1 hm with hm | hm
  · exact (u.header_text hm).1
  · obtain ⟨s, -, k, hm⟩ := u.section_text hm
    obtain ⟨l, hl, e⟩ := exists_text_of_mem_numberLines hm
    rw [e, expandTabs_of_plain (s.plain_lines l hl)]
    exact s.not_underline l hl

/-- No line of a section declares an interface. -/
theorem lateFault?_sections (h : Header) (start : Nat) :
    h.lateFault? (numberRanges start (u.sections.map SectionLayout.lines)).flatten = none := by
  rw [Header.lateFault?, List.findSome?_eq_none_iff]
  intro m hm
  obtain ⟨s, -, k, hm⟩ := u.section_text hm
  rw [s.numberLines_lines] at hm
  rcases List.mem_cons.1 hm with rfl | hm
  · simp [opensSection, sectionStart?_keyword]
  · simp [(s.body_text hm).headerValue?]

theorem unitOfLines_written (source : String) (start : Nat) :
    unitOfLines source (numberLines start u.lines) = .ok (some (u.unitAt source start)) := by
  have hrange := u.isUnitRange_lines start
  rw [numberLines_lines] at hrange ⊢
  have hstarts : startsUnit (⟨start, u.title⟩ :: ⟨start + 1, List.replicate u.width '='⟩ ::
      (numberLines (start + 2) u.header ++ (numberRanges (start + 2 + u.header.length)
        (u.sections.map SectionLayout.lines)).flatten)) = true := by
    simp only [startsUnit, hrange.1, hrange.2.2.1, Bool.and_self]
  have hfront : ∀ m ∈ numberLines (start + 2) u.header, opensSection m = false := by
    intro m hm
    simp [opensSection, (u.header_text hm).2]
  have hruns : ∀ r ∈ numberRanges (start + 2 + u.header.length)
      (u.sections.map SectionLayout.lines), IsRun opensSection r := by
    intro r hr
    obtain ⟨k, ls, hls, rfl⟩ := exists_of_mem_numberRanges hr
    obtain ⟨s, -, rfl⟩ := List.mem_map.1 hls
    exact s.isRun_lines k
  rw [unitOfLines_eq, unitTitle, unitBody, if_pos hstarts, if_pos hstarts, List.drop_succ_cons,
    List.drop_succ_cons, List.drop_zero, cutBefore_runs hfront hruns, unitOfParts_eq_ok_some]
  refine ⟨_, u.ofLines_header _, u.lateFault?_sections _ _, u.interface_text.1, ?_⟩
  simp only [Header.unit, unitAt, flatMap_sectionBlocks, List.head?_cons, Option.map_some,
    Option.getD_some, u.title_text.2.2.2]
  rw [paragraph_empties _ u.lead rfl]

theorem plain_lines : ∀ l ∈ u.lines, '\n' ∉ l ∧ trimEnd l = l := by
  intro l hl
  have key {key value : List Char} (hk : '\n' ∉ key) (h : IsHeaderText value) :
      '\n' ∉ key ++ '\t' :: value ∧ trimEnd (key ++ '\t' :: value) = key ++ '\t' :: value := by
    refine ⟨by simp [hk, h.2.1], ?_⟩
    rw [← List.singleton_append, ← List.append_assoc, trimEnd_append (trimEnd_of_trim h.2.2.2) h.1]
  simp only [lines, header, List.cons_append, List.mem_cons, List.mem_append] at hl
  rcases hl with rfl | rfl | rfl | rfl | rfl | hl | hl
  · exact ⟨u.plain_title.1, u.plain_title.2.2⟩
  · exact ⟨u.plain_rule.1, u.plain_rule.2.2⟩
  · exact key (by decide) u.service_text
  · exact key (by decide) u.interface_text
  · exact key (by decide) u.objectPath_text
  · rw [List.eq_of_mem_replicate hl]
    exact ⟨by simp, rfl⟩
  · obtain ⟨s, -, hl⟩ := List.mem_flatMap.1 hl
    exact ⟨(s.plain_lines l hl).1, (s.plain_lines l hl).2.2⟩

end UnitLayout

/-! ## Files -/

theorem fileLines_writeUnits (us : List UnitLayout) :
    fileLines (writeUnits us) = (numberRanges 1 (us.map UnitLayout.lines)).flatten := by
  have hplain : ∀ l ∈ us.flatMap UnitLayout.lines, '\n' ∉ l ∧ trimEnd l = l := by
    intro l hl
    obtain ⟨u, -, hl⟩ := List.mem_flatMap.1 hl
    exact u.plain_lines l hl
  rw [fileLines, writeUnits, lines_terminate (fun l hl => (hplain l hl).1) fun l hl =>
    (hplain l hl).2, List.flatMap_def, numberLines_flatten]

theorem mapM_unitOfLines (source : String) (start : Nat) (us : List UnitLayout) :
    (numberRanges start (us.map UnitLayout.lines)).mapM (unitOfLines source) =
      .ok ((unitsAt source start us).map some) := by
  induction us generalizing start with
  | nil => rfl
  | cons u us ih =>
    rw [List.map_cons, numberRanges, List.mapM_cons, u.unitOfLines_written, ih]
    rfl

/-- **Reading a written file.** -/
theorem splitUnits_writeUnits (source : String) (us : List UnitLayout) :
    splitUnits source (String.ofList (writeUnits us)) = .ok (unitsAt source 1 us) := by
  cases us with
  | nil => rfl
  | cons u us =>
    have hranges : ∀ r ∈ numberRanges 1 ((u :: us).map UnitLayout.lines), IsUnitRange r := by
      intro r hr
      obtain ⟨k, ls, hls, rfl⟩ := exists_of_mem_numberRanges hr
      obtain ⟨v, -, rfl⟩ := List.mem_map.1 hls
      exact v.isUnitRange_lines k
    rw [splitUnits, String.toList_ofList, fileLines_writeUnits,
      unitRanges_flatten hranges (by simp [numberRanges]), mapM_unitOfLines]
    simp [bind, Except.bind, pure, Except.pure, List.filterMap_map]

/-- A file with two units; the second has a section without blocks. -/
def twoUnits : List UnitLayout := [
  { title := "Node Hierarchy".toList
    width := 2
    service := "org.m".toList
    interface := "org.m.Node".toList
    objectPath := "/n".toList
    sections := [
      { kind := .method
        indent := 2
        blocks := [
          ({ lines := ["void F(fd a,".toList, "fd b)".toList, [], "  Docs.".toList] }, 0),
          ({ lines := ["void G()".toList] }, 0)] }] },
  { title := "Key hierarchy".toList
    width := 1
    service := "org.m".toList
    interface := "org.m.Key".toList
    objectPath := "/k".toList
    sections := [{ kind := .signal, indent := 1, blocks := [] }] }]

theorem splitUnits_twoUnits :
    splitUnits "m.txt"
        "Node Hierarchy\n==\nService\torg.m\nInterface\torg.m.Node\nObject path\t/n\n
Methods:\n  void F(fd a,\n  fd b)\n\n    Docs.\n\n  void G()\nKey hierarchy\n=\nService\torg.m
Interface\torg.m.Key\nObject path\t/k\n\nSignals:\n" =
      .ok [
        ⟨"m.txt", "Node Hierarchy", "org.m", "org.m.Node", "/n", "", [
          ⟨.method, "void F(fd a,\nfd b)\n\n  Docs.".toList, 8⟩,
          ⟨.method, "void G()".toList, 13⟩]⟩,
        ⟨"m.txt", "Key hierarchy", "org.m", "org.m.Key", "/k", "", []⟩] :=
  (congrArg (splitUnits "m.txt") (by decide +kernel)).trans
    ((splitUnits_writeUnits "m.txt" twoUnits).trans (congrArg Except.ok (by decide +kernel)))

end BusDoc.Doc
