import BusDoc.Proofs.Doc.PropertyLines
import BusDoc.Proofs.Text.Removal

/-!
# The mark of optional properties

The mark `(optional)` may stand anywhere behind the type of a property. It moves to the front of the
docs, and one mark is taken out of the name. What stood around it comes together, so a name in which
the mark is written twice, or split around another one, still has it.

* `IsLaidOut.name_property`: the name that is read is the first word behind the type without its
  leftmost mark.
* `IsLaidOut.isOptional`: a property with the mark on its line is optional.
* `entryAs_property_mark`: both of a block, and when the mark is left in the name.
-/

namespace BusDoc.Doc

open Text

/-- What stands on the first line of the text behind the type. -/
def IsBehindType (text type behind : List Char) : Prop :=
  ∃ indent, (cutLine text).1 = indent ++ (type ++ behind) ∧ indent.all isIndent = true

/-- The first word behind the type, up to the first bracket. -/
def nameWord (behind : List Char) : List Char :=
  ((behind.dropWhile isIndent).takeWhile (· ≠ '[')).takeWhile fun c => !isBlank c

theorem plain_optionalMark : ∀ c ∈ optionalMark, isBlank c = false ∧ c ≠ '[' := by
  have hall : (optionalMark.all fun c => !isBlank c && c != '[') = true := by decide
  intro c hc
  simpa using List.all_eq_true.1 hall c hc

theorem optionalMark_ne_nil : optionalMark ≠ [] := List.cons_ne_nil _ _

theorem notMem_of_isIndent {c : Char} (h : isIndent c = true) : c ∉ optionalMark := by
  intro hmem
  have hblank := isBlank_of_isIndent h
  rw [(plain_optionalMark c hmem).1] at hblank
  cases hblank

/-- The mark does not lie in spaces and tabs, nor partly. -/
theorem mark_infix_append_iff {s t : List Char} (ht : t.all isIndent = true) :
    optionalMark <:+: s ++ t ↔ optionalMark <:+: s := by
  induction t generalizing s with
  | nil => rw [List.append_nil]
  | cons c t ih =>
    rw [List.all_cons, Bool.and_eq_true] at ht
    have hnone : ¬ optionalMark <:+: t := by
      rw [← List.nil_append t, ih ht.2]
      decide
    rw [infix_append_cons (notMem_of_isIndent ht.1)]
    simp [hnone]

theorem mark_infix_of_gap {gap s : List Char} (hgap : gap.all isIndent = true)
    (h : optionalMark <:+: gap ++ s) : optionalMark <:+: s := by
  induction gap with
  | nil => exact h
  | cons c gap ih =>
    rw [List.all_cons, Bool.and_eq_true] at hgap
    rw [← List.nil_append (c :: gap ++ s), List.cons_append,
      infix_append_cons (notMem_of_isIndent hgap.1)] at h
    exact ih hgap.2 (h.resolve_left (by decide))

variable {line : List Char} {parts : PropertyLine}

/-- What stands behind the type is a gap and the rest of the line, which the name and the flags are
cut from. -/
theorem IsLaidOut.exists_rest (h : IsLaidOut line parts) {indent behind : List Char}
    (hline : line = indent ++ (parts.type ++ behind)) (hindent : indent.all isIndent = true) :
    ∃ gap rest, behind = gap ++ rest ∧ gap.all isIndent = true ∧ behind.dropWhile isIndent = rest ∧
      parts.name = dropEndWhile isIndent (rest.takeWhile (· ≠ '[')) ∧
      parts.flags = rest.dropWhile (· ≠ '[') := by
  obtain ⟨indent', gap, rest, hline', hindent', htype, -, hgap, hrest, hname, hflags⟩ := h
  obtain ⟨c, s, hc, hfirst⟩ := head_of_isPropertyType htype
  have hcut (behind : List Char) {indent : List Char} (hindent : indent.all isIndent = true) :
      (indent ++ (parts.type ++ behind)).dropWhile isIndent = parts.type ++ behind := by
    rw [hc, List.cons_append]
    exact dropWhile_append_cons hindent hfirst _
  have hbehind : behind = gap ++ rest := by
    have heq := congrArg (List.dropWhile isIndent) (hline.symm.trans hline')
    rwa [hcut _ hindent, hcut _ hindent', List.append_cancel_left_eq] at heq
  obtain ⟨d, t, rfl, hd⟩ := exists_cons_of_capital hrest
  exact ⟨gap, d :: t, hbehind, hgap,
    hbehind ▸ dropWhile_append_cons hgap (isIndent_of_isAsciiUpper hd) t, hname, hflags⟩

/-- The name that is read is the first word of the line's name without its leftmost mark. -/
theorem IsLaidOut.name_property (h : IsLaidOut line parts) (rawDocs : List Char) :
    (parts.property rawDocs).name.toList =
      removeFirst optionalMark (parts.name.takeWhile fun c => !isBlank c) := by
  obtain ⟨c, s, hname, hc, -⟩ := h.exists_name_eq
  have htrim : trim (removeFirst optionalMark parts.name) =
      trimEnd (removeFirst optionalMark parts.name) := by
    rw [hname, removeFirst_mark_cons hc, trim,
      trimStart_cons_of_not (isBlank_of_isAsciiUpper hc)]
  have hplain : ∀ d ∈ optionalMark, (!isBlank d) = true := fun d hd => by
    simp [(plain_optionalMark d hd).1]
  have hstop :
      (parts.name.dropWhile fun d => !isBlank d).head?.all (fun d => !!isBlank d) = true := by
    have hend := List.head?_dropWhile_not (fun d => !isBlank d) parts.name
    cases hd : (parts.name.dropWhile fun d => !isBlank d).head? with
    | none => rfl
    | some d =>
      rw [hd] at hend
      simpa using hend
  have hread := takeWhile_removeFirst optionalMark_ne_nil hplain
    (List.all_eq_true.1 (List.all_takeWhile (p := fun d => !isBlank d) (l := parts.name))) hstop
  rw [List.takeWhile_append_dropWhile] at hread
  rw [toList_name_property, htrim, trimEnd,
    takeWhile_dropEndWhile (p := isBlank) (fun d hd => by simp [hd])]
  exact hread

/-- A property with the mark in its name or its flags is optional. -/
theorem isOptional_property (rawDocs : List Char)
    (h : optionalMark <:+: parts.name ∨ optionalMark <:+: parts.flags) :
    (parts.property rawDocs).isOptional = true := by
  have hoptional :
      (contains optionalMark parts.name || contains optionalMark parts.flags) = true := by
    rw [Bool.or_eq_true, contains_iff, contains_iff]
    exact h
  have hdocs : ∃ docs, (parts.property rawDocs).docs.toList = joinDocs optionalMark docs := by
    simp only [PropertyLine.property, hoptional, if_true, String.toList_ofList]
    exact ⟨_, rfl⟩
  obtain ⟨docs, hdocs⟩ := hdocs
  rw [Property.isOptional, startsWith_iff, hdocs, joinDocs]
  split
  next => exact List.prefix_refl _
  next => exact List.prefix_append _ _

theorem IsLaidOut.isOptional (h : IsLaidOut line parts) {indent behind : List Char}
    (hline : line = indent ++ (parts.type ++ behind)) (hindent : indent.all isIndent = true)
    (hmark : optionalMark <:+: behind) (rawDocs : List Char) :
    (parts.property rawDocs).isOptional = true := by
  obtain ⟨gap, rest, rfl, hgap, -, hname, hflags⟩ := h.exists_rest hline hindent
  have hrest := mark_infix_of_gap hgap hmark
  apply isOptional_property
  rw [hname, hflags]
  -- the mark has no bracket, so it lies before the first one or behind it
  have hsplit := List.takeWhile_append_dropWhile (p := fun c => decide (c ≠ '[')) (l := rest)
  have hbefore (h : optionalMark <:+: rest.takeWhile (· ≠ '[')) :
      optionalMark <:+: dropEndWhile isIndent (rest.takeWhile (· ≠ '[')) := by
    obtain ⟨t, ht, hall⟩ := exists_eq_dropEndWhile_append isIndent (rest.takeWhile (· ≠ '['))
    rw [ht] at h
    exact (mark_infix_append_iff hall).1 h
  have hend := List.head?_dropWhile_not (fun c => decide (c ≠ '[')) rest
  cases hd : rest.dropWhile (· ≠ '[') with
  | nil =>
    rw [hd, List.append_nil] at hsplit
    exact .inl (hbefore (hsplit.symm ▸ hrest))
  | cons c t =>
    rw [hd] at hend hsplit
    obtain rfl : c = '[' := by simpa using hend
    rw [← hsplit, infix_append_cons fun hmem => (plain_optionalMark _ hmem).2 rfl] at hrest
    exact hrest.imp hbefore fun h => h.trans (List.suffix_cons '[' t).isInfix

/-- **The mark goes to the docs, and one of them out of the name.** Take a property that a block
documents. If the mark stands on the first line behind the type, the property is optional: its docs
begin with the mark. Its name is the first word behind the type without the leftmost mark in it. So
the mark is left in the name exactly if a mark can be taken out of that word and leave one. -/
theorem entryAs_property_mark {b : Block} {p : Property}
    (h : b.entryAs .property = .ok (.property p)) :
    (∃ behind, IsBehindType b.text p.type.toList behind) ∧
    ∀ behind, IsBehindType b.text p.type.toList behind →
      (optionalMark <:+: behind → p.isOptional = true) ∧
      p.name.toList = removeFirst optionalMark (nameWord behind) ∧
      (optionalMark <:+: p.name.toList ↔ ∃ front back,
        nameWord behind = front ++ optionalMark ++ back ∧ optionalMark <:+: front ++ back) := by
  obtain ⟨parts, hlaid, rfl⟩ := entryAs_property_iff.1 h
  have hspelled : (parts.property ((cutLine b.text).2.getD [])).type.toList = parts.type :=
    String.toList_ofList
  rw [hspelled]
  refine ⟨?_, fun behind hbehind => ?_⟩
  · obtain ⟨indent, gap, rest, hline, hindent, -⟩ := hlaid
    exact ⟨gap ++ rest, indent, hline, hindent⟩
  · obtain ⟨indent, hline, hindent⟩ := hbehind
    obtain ⟨gap, rest, -, -, hrest, hname, -⟩ := hlaid.exists_rest hline hindent
    have hword : parts.name.takeWhile (fun c => !isBlank c) = nameWord behind := by
      rw [nameWord, hrest, hname]
      exact takeWhile_dropEndWhile (fun c hc => by simp [isBlank_of_isIndent hc]) _
    have hread := hlaid.name_property ((cutLine b.text).2.getD [])
    rw [hword] at hread
    refine ⟨fun hmark => hlaid.isOptional hline hindent hmark _, hread, ?_⟩
    rw [hread]
    exact infix_removeFirst_iff (by decide)

/-- A block with a mark in another one. -/
def handleBlock : Block where
  kind := .property
  text := "uint16 Handle(opt(optional)ional) [readonly]\n\n\tCharacteristic handle.".toList

/-- The property that the block documents. -/
def handleProperty : Property where
  type := "uint16"
  name := "Handle(optional)"
  flags := { readOnly := true }
  docs := "(optional) Characteristic handle."

theorem entryAs_property_mark_handle :
    handleBlock.entryAs .property = .ok (.property handleProperty) ∧
      IsBehindType handleBlock.text "uint16".toList
        " Handle(opt(optional)ional) [readonly]".toList ∧
      handleProperty.isOptional = true ∧ optionalMark <:+: handleProperty.name.toList := by
  have hread : handleBlock.entryAs .property = .ok (.property handleProperty) := by rfl
  have hbehind : IsBehindType handleBlock.text handleProperty.type.toList
      " Handle(opt(optional)ional) [readonly]".toList := ⟨[], by decide, rfl⟩
  obtain ⟨hoptional, -, hleft⟩ := (entryAs_property_mark hread).2 _ hbehind
  exact ⟨hread, hbehind,
    hoptional ⟨" Handle(opt".toList, "ional) [readonly]".toList, by decide⟩,
    hleft.2 ⟨"Handle(opt".toList, "ional)".toList, by decide,
      "Handle".toList, [], by decide⟩⟩

/-- The block with the mark written twice. -/
def twiceMarkedBlock : Block where
  kind := .property
  text := "uint16 Handle(optional)(optional)".toList

/-- The property that the block documents. -/
def twiceMarkedProperty : Property where
  type := "uint16"
  name := "Handle(optional)"
  docs := "(optional)"

/-- A name that keeps the mark. -/
theorem markedName_twiceMarked :
    twiceMarkedBlock.entryAs .property = .ok (.property twiceMarkedProperty) ∧
      contains optionalMark twiceMarkedProperty.name.toList = true :=
  ⟨by rfl, by decide⟩

end BusDoc.Doc
