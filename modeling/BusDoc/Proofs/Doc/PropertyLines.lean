import BusDoc.Doc.Entry
import BusDoc.Proofs.Doc.PropertyFlags
import BusDoc.Proofs.Doc.PropertyTypes
import BusDoc.Proofs.Text.Letter

/-!
# What a property line gives

The first line of a property block is indentation, a type, a gap and the rest, which begins with a
capital. The name is in the rest up to the first bracket, and the flags are from there on.

* `propertyLine?_eq_some_iff`: a line has parts exactly if it is laid out like that.
* `head?_name_property`: the name that is read begins with that capital.
* `IsLaidOut.isRead`: what holds of every property that is read from a line.
* `entryAs_property_invariants`: the same of a block, together with what its flags are.
-/

namespace BusDoc

open Text

namespace Doc

variable {line : List Char} {parts : PropertyLine}

/-- The line is laid out as a property with the parts. -/
def IsLaidOut (line : List Char) (parts : PropertyLine) : Prop :=
  ∃ indent gap rest, line = indent ++ (parts.type ++ (gap ++ rest)) ∧
    indent.all isIndent = true ∧ IsPropertyType parts.type ∧
    gap ≠ [] ∧ gap.all isIndent = true ∧ rest.head?.any isAsciiUpper = true ∧
    parts.name = dropEndWhile isIndent (rest.takeWhile (· ≠ '[')) ∧
    parts.flags = rest.dropWhile (· ≠ '[')

theorem isBlank_of_isAsciiUpper {c : Char} (h : isAsciiUpper c = true) : isBlank c = false :=
  (plain_of_isIdentRest (isIdentRest_of_isAsciiUpper h)).1

theorem isIndent_of_isAsciiUpper {c : Char} (h : isAsciiUpper c = true) : isIndent c = false :=
  isIndent_of_not_isBlank (isBlank_of_isAsciiUpper h)

theorem exists_cons_of_capital {s : List Char} (h : s.head?.any isAsciiUpper = true) :
    ∃ c t, s = c :: t ∧ isAsciiUpper c = true := by
  cases s with
  | nil => cases h
  | cons c t => exact ⟨c, t, rfl, by simpa using h⟩

theorem head_of_isPropertyType {type : List Char} (h : IsPropertyType type) :
    ∃ c s, type = c :: s ∧ isIndent c = false := by
  cases h with
  | word hmem =>
    obtain ⟨hne, hplain⟩ := plain_of_mem_propertyTypes hmem
    obtain ⟨c, s, hs⟩ := List.exists_cons_of_ne_nil hne
    exact ⟨c, s, hs, isIndent_of_not_isBlank (hplain c (by simp [hs])).1⟩
  | @braced opening body hmem _ =>
    obtain rfl | rfl : opening = "array\x7b" ∨ opening = "dict\x7b" := by simpa using hmem
    · exact ⟨'a', _, rfl, rfl⟩
    · exact ⟨'d', _, rfl, rfl⟩

/-- What stands in front of a character that stops it is cut, and all of it. -/
theorem dropWhile_append_cons {p : Char → Bool} {front : List Char} {c : Char}
    (hfront : front.all p = true) (hc : p c = false) (s : List Char) :
    (front ++ c :: s).dropWhile p = c :: s := by
  rw [List.dropWhile_append_of_pos (List.all_eq_true.1 hfront), List.dropWhile_cons_of_neg]
  simp [hc]

theorem propertyLine?_eq_some_iff :
    propertyLine? line = some parts ↔ IsLaidOut line parts := by
  constructor
  · intro h
    unfold propertyLine? at h
    obtain ⟨⟨type, after⟩, htype, h⟩ := Option.bind_eq_some_iff.1 h
    dsimp only at h
    split at h
    next hname =>
      cases h
      obtain ⟨hline, htype⟩ := propertyType?_eq_some htype
      rw [Bool.and_eq_true, decide_eq_true_eq] at hname
      refine ⟨line.takeWhile isIndent, after.takeWhile isIndent, after.dropWhile isIndent, ?_,
        List.all_takeWhile, htype, ?_, List.all_takeWhile, ?_, rfl, rfl⟩
      · rw [List.takeWhile_append_dropWhile, ← hline, List.takeWhile_append_dropWhile]
      · intro hnil
        have hlen := congrArg List.length
          (List.takeWhile_append_dropWhile (p := isIndent) (l := after))
        rw [hnil, List.nil_append] at hlen
        omega
      · cases hd : (after.dropWhile isIndent).head? with
        | none => rw [hd] at hname; simp at hname
        | some c => rw [hd] at hname; simpa using hname.2
    next => cases h
  · rintro ⟨indent, gap, rest, rfl, hindent, htype, hne, hgap, hrest, hname, hflags⟩
    obtain ⟨c, s, hc, hfirst⟩ := head_of_isPropertyType htype
    obtain ⟨d, t, rfl, hd⟩ := exists_cons_of_capital hrest
    have hafter : (gap ++ d :: t).head?.all isIndent = true := by
      obtain ⟨g, gs, rfl⟩ := List.exists_cons_of_ne_nil hne
      simpa using (List.all_eq_true.1 hgap) g (by simp)
    have hline : (indent ++ (parts.type ++ (gap ++ d :: t))).dropWhile isIndent =
        parts.type ++ (gap ++ d :: t) := by
      rw [hc, List.cons_append]
      exact dropWhile_append_cons hindent hfirst _
    have hgapped : (gap ++ d :: t).dropWhile isIndent = d :: t :=
      dropWhile_append_cons hgap (isIndent_of_isAsciiUpper hd) t
    have hlen : (d :: t).length < (gap ++ d :: t).length := by
      have := List.length_pos_iff.2 hne
      rw [List.length_append]
      omega
    rw [propertyLine?, hline, propertyType?_append htype hafter]
    simp only [Option.bind_eq_bind, Option.bind_some, hgapped, hlen, decide_true, Bool.true_and,
      List.head?_cons, Option.map_some, Option.getD_some, hd, if_true, ← hname, ← hflags]
    rfl

/-- The name of a line begins with a capital and has no bracket. -/
theorem IsLaidOut.exists_name_eq (h : IsLaidOut line parts) :
    ∃ c s, parts.name = c :: s ∧ isAsciiUpper c = true ∧ '[' ∉ parts.name := by
  obtain ⟨-, -, rest, -, -, -, -, -, hrest, hname, -⟩ := h
  obtain ⟨c, t, rfl, hc⟩ := exists_cons_of_capital hrest
  have hne : c ≠ '[' := by
    rintro rfl
    cases hc
  have hfirst : parts.name = c :: dropEndWhile isIndent (t.takeWhile (· ≠ '[')) := by
    rw [hname, List.takeWhile_cons_of_pos (by simpa using hne),
      dropEndWhile_cons_of_not (isIndent_of_isAsciiUpper hc)]
  refine ⟨c, _, hfirst, hc, fun hmem => ?_⟩
  rw [hname] at hmem
  have := List.all_eq_true.1 List.all_takeWhile _ (mem_of_mem_dropEndWhile hmem)
  simp at this

end Doc

/-! ## What is read -/

open Doc

/-- What holds of a property that is read from a line. -/
structure Property.IsRead (p : Property) : Prop where
  type : IsPropertyType p.type.toList
  capital : p.name.toList.head?.any isAsciiUpper = true
  plain : ∀ c ∈ p.name.toList, isBlank c = false ∧ c ≠ '['
  access : ¬ (p.flags.readOnly = true ∧ p.flags.readWrite = true)

namespace Doc

variable {line : List Char} {parts : PropertyLine}

theorem toList_name_property (parts : PropertyLine) (rawDocs : List Char) :
    (parts.property rawDocs).name.toList =
      (trim (removeFirst optionalMark parts.name)).takeWhile fun c => !isBlank c :=
  String.toList_ofList

/-- No mark begins at a capital. -/
theorem removeFirst_mark_cons {c : Char} (hc : isAsciiUpper c = true) (s : List Char) :
    removeFirst optionalMark (c :: s) = c :: removeFirst optionalMark s := by
  have hmark : '(' ≠ c := by
    rintro rfl
    cases hc
  exact removeFirst_cons_of_ne hmark _ s

/-- The capital that the name of a line begins with is neither a blank nor part of the mark, so the
name that is read begins with it. -/
theorem head?_name_property {c : Char} {s : List Char} (hname : parts.name = c :: s)
    (hc : isAsciiUpper c = true) (rawDocs : List Char) :
    (parts.property rawDocs).name.toList.head? = some c := by
  have hblank := isBlank_of_isAsciiUpper hc
  rw [toList_name_property, hname, removeFirst_mark_cons hc, trim, trimStart_cons_of_not hblank,
    trimEnd_cons_of_not hblank, List.takeWhile_cons_of_pos (by simp [hblank]), List.head?_cons]

theorem IsLaidOut.isRead (h : IsLaidOut line parts) (rawDocs : List Char) :
    (parts.property rawDocs).IsRead := by
  obtain ⟨c, s, hname, hc, hbracket⟩ := h.exists_name_eq
  obtain ⟨-, -, -, -, -, htype, -⟩ := h
  have hplain : ∀ a ∈ (parts.property rawDocs).name.toList, isBlank a = false ∧ a ≠ '[' := by
    intro a ha
    rw [toList_name_property] at ha
    have hblank := List.all_eq_true.1 List.all_takeWhile a ha
    have hmem := mem_of_mem_removeFirst (mem_of_mem_trim ((List.takeWhile_sublist _).subset ha))
    refine ⟨by simpa using hblank, ?_⟩
    rintro rfl
    exact hbracket hmem
  refine ⟨?_, by simp [head?_name_property hname hc, hc], hplain,
    (tells_parseFlags parts.flags).exclusive⟩
  show IsPropertyType (String.ofList parts.type).toList
  rwa [String.toList_ofList]

/-- A block documents a property exactly if its first line is laid out as one. -/
theorem entryAs_property_iff {b : Block} {p : Property} :
    b.entryAs .property = .ok (.property p) ↔
      ∃ parts, IsLaidOut (cutLine b.text).1 parts ∧
        parts.property ((cutLine b.text).2.getD []) = p := by
  have hread : property? b.text =
      (propertyLine? (cutLine b.text).1).map fun parts =>
        parts.property ((cutLine b.text).2.getD []) := rfl
  rw [Block.entryAs, entryOf?, hread]
  simp only [← propertyLine?_eq_some_iff]
  cases propertyLine? (cutLine b.text).1 with
  | none => simp
  | some parts => simp

/-- The bracketed list of a property of the type: what the first line of the text has from the first
bracket on behind the type. -/
def IsFlagList (text type raw : List Char) : Prop :=
  ∃ indent gap rest, (cutLine text).1 = indent ++ (type ++ (gap ++ rest)) ∧
    indent.all isIndent = true ∧ gap ≠ [] ∧ gap.all isIndent = true ∧
    rest.head?.any isAsciiUpper = true ∧ raw = rest.dropWhile (· ≠ '[')

theorem IsLaidOut.isFlagList {text : List Char} (h : IsLaidOut (cutLine text).1 parts) :
    IsFlagList text parts.type parts.flags := by
  obtain ⟨indent, gap, rest, hline, hindent, -, hne, hgap, hrest, -, hflags⟩ := h
  exact ⟨indent, gap, rest, hline, hindent, hne, hgap, hrest, hflags⟩

/-- There is one such list at most, because a line is laid out in one way. -/
theorem IsLaidOut.eq_of_isFlagList {text raw : List Char} (h : IsLaidOut (cutLine text).1 parts)
    (hraw : IsFlagList text parts.type raw) : raw = parts.flags := by
  have htype : IsPropertyType parts.type := by
    obtain ⟨-, -, -, -, -, htype, -⟩ := h
    exact htype
  obtain ⟨indent, gap, rest, hline, hindent, hne, hgap, hrest, rfl⟩ := hraw
  have hother : IsLaidOut (cutLine text).1
      ⟨parts.type, dropEndWhile isIndent (rest.takeWhile (· ≠ '[')), rest.dropWhile (· ≠ '[')⟩ :=
    ⟨indent, gap, rest, hline, hindent, htype, hne, hgap, hrest, rfl, rfl⟩
  have heq := (propertyLine?_eq_some_iff.2 hother).symm.trans (propertyLine?_eq_some_iff.2 h)
  exact congrArg PropertyLine.flags (Option.some.inj heq)

/-- **What is known of a property.** The name of a property that a block documents begins with a
capital and has neither blanks nor opening brackets. The property is not both read-only and
writable, and its flags are those that the words of its bracketed list ask for: of the words about
access the last one counts. Its type is neither `void` nor unknown, and the words that are types of
properties are all the words that have such a type. -/
theorem entryAs_property_invariants {b : Block} {p : Property}
    (h : b.entryAs .property = .ok (.property p)) :
    (p.name.toList.head?.any isAsciiUpper = true ∧
      ∀ c ∈ p.name.toList, isBlank c = false ∧ c ≠ '[') ∧
    ¬ (p.flags.readOnly = true ∧ p.flags.readWrite = true) ∧
    (∃ raw, IsFlagList b.text p.type.toList raw) ∧
    (∀ raw, IsFlagList b.text p.type.toList raw → FlagsTell (flagWords raw) p.flags) ∧
    (p.docType ≠ .void ∧ ∀ spelling, p.docType ≠ .unknown spelling) ∧
    ∀ word : List Char, (∀ c ∈ word, isBlank c = false ∧ c ≠ '{') →
      (propertyType? word = some (word, []) ↔
        DocType.ofChars word ≠ .void ∧ ∀ spelling, DocType.ofChars word ≠ .unknown spelling) := by
  obtain ⟨parts, hlaid, rfl⟩ := entryAs_property_iff.1 h
  obtain ⟨htype, hcapital, hplain, haccess⟩ := hlaid.isRead ((cutLine b.text).2.getD [])
  have hspelled : (parts.property ((cutLine b.text).2.getD [])).type.toList = parts.type :=
    String.toList_ofList
  refine ⟨⟨hcapital, hplain⟩, haccess, ⟨parts.flags, hspelled ▸ hlaid.isFlagList⟩,
    fun raw hraw => ?_, DocType.isNamed_iff.1 (isNamed_of_isPropertyType htype),
    fun word hword => ?_⟩
  · rw [hspelled] at hraw
    rw [hlaid.eq_of_isFlagList hraw]
    exact tells_parseFlags parts.flags
  · rw [isPropertyType_iff_isNamed hword, DocType.isNamed_iff]

/-- A block whose list of flags is closed too early and goes on. -/
def valuesBlock : Block where
  kind := .property
  text := ("  array\x7bdict\x7bstring, variant\x7d\x7d\tValues Cached " ++
    "[ReadWrite, readonly], Experimental]\n\n  All values.").toList

/-- The property that the block documents. -/
def valuesProperty : Property where
  type := "array\x7bdict\x7bstring, variant\x7d\x7d"
  name := "Values"
  flags := { readOnly := true, experimental := true }
  docs := "Cached All values."

theorem entryAs_property_invariants_values :
    valuesBlock.entryAs .property = .ok (.property valuesProperty) ∧
      (∃ raw, IsFlagList valuesBlock.text valuesProperty.type.toList raw) ∧
      valuesProperty.docType ≠ .void := by
  have hread : valuesBlock.entryAs .property = .ok (.property valuesProperty) := by rfl
  obtain ⟨-, -, hlist, -, ⟨hvoid, -⟩, -⟩ := entryAs_property_invariants hread
  exact ⟨hread, hlist, hvoid⟩

end Doc

end BusDoc
