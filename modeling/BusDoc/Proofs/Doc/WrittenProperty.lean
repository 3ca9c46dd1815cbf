import BusDoc.Proofs.Doc.PropertyLines
import Mathlib.Data.List.TakeWhile

/-!
# Properties read back

A property that was read is written on one line as its `signature`: its type, its name and its
flags in brackets. The line is laid out as that property again.

* `toList_signature`: the line, part by part.
* `isLaidOut_signature`: how the line is laid out.
* `property_signatureParts`: what is read of it, if the name does not hold the mark of optional
  properties, which would be taken out.
* `entryAs_property_signature`: a block with this text documents the property that was written,
  without docs.
-/

namespace BusDoc

open Text Doc

namespace Property

variable {p : Property}

/-- The parts of the line that a property is written on. -/
def signatureParts (p : Property) : PropertyLine where
  type := p.type.toList
  name := p.name.toList
  flags := (flagText p.flags).dropWhile (· ≠ '[')

theorem toList_signature (p : Property) :
    p.signature.toList = p.type.toList ++ ([' '] ++ (p.name.toList ++ flagText p.flags)) := by
  simp [signature, flagText]

theorem isLaidOut_signature (h : p.IsRead) : IsLaidOut p.signature.toList p.signatureParts := by
  have hbracket : ∀ c ∈ p.name.toList, (decide (c ≠ '[')) = true := fun c hc => by
    simpa using (h.plain c hc).2
  obtain ⟨c, s, hname, hc⟩ := exists_cons_of_capital h.capital
  refine ⟨[], [' '], p.name.toList ++ flagText p.flags, p.toList_signature, rfl, h.type, by simp,
    rfl, ?_, ?_, ?_⟩
  · rw [hname]
    exact hc
  · -- what stands between the name and the bracket is cut off again
    obtain ⟨hspace, -, -⟩ := plain_flagText p.flags
    have hne : p.name.toList ≠ [] := by simp [hname]
    have hlast := List.getLast?_eq_some_getLast hne
    have hblank := isIndent_of_not_isBlank (h.plain _ (List.mem_of_getLast? hlast)).1
    rw [List.takeWhile_append_of_pos hbracket, dropEndWhile_append_of_all hspace,
      dropEndWhile_eq_self hlast hblank]
    rfl
  · rw [List.dropWhile_append_of_pos hbracket]
    rfl

theorem not_contains_flags (p : Property) :
    contains optionalMark p.signatureParts.flags = false := by
  rw [Bool.eq_false_iff, ne_eq, contains_iff]
  intro hmark
  have hparen : '(' ∈ p.signatureParts.flags := hmark.subset (by decide)
  exact (plain_flagText p.flags).2.2 ((List.dropWhile_sublist _).subset hparen)

/-- The parts that a property is written in give it back, if they do not hold the mark. -/
theorem property_signatureParts (h : p.IsRead) (hmark : ¬ optionalMark <:+: p.name.toList) :
    p.signatureParts.property [] = { p with docs := "" } := by
  have hname : contains optionalMark p.signatureParts.name = false := by
    rwa [Bool.eq_false_iff, ne_eq, contains_iff]
  have hplain : ∀ c ∈ p.name.toList, isBlank c = false := fun c hc => (h.plain c hc).1
  have hword : ∀ c ∈ p.name.toList, (!isBlank c) = true := fun c hc => by simp [hplain c hc]
  have htext : trim (removeFirst optionalMark p.signatureParts.name) = p.name.toList := by
    rw [removeFirst_of_not_contains hname]
    exact trim_of_noBlank hplain
  have htake : (p.name.toList.takeWhile fun c => !isBlank c) = p.name.toList :=
    List.takeWhile_eq_self_iff.2 hword
  have hdrop : (p.name.toList.dropWhile fun c => !isBlank c) = [] :=
    List.dropWhile_eq_nil_iff.2 hword
  have hflags : parseFlags p.signatureParts.flags = p.flags := parseFlags_flagText h.access
  rw [PropertyLine.property, hname, p.not_contains_flags, htext, htake, hdrop, hflags]
  show (⟨String.ofList p.type.toList, String.ofList p.name.toList, p.flags, ""⟩ : Property) = _
  rw [String.ofList_toList, String.ofList_toList]

theorem notMem_signature (h : p.IsRead) : '\n' ∉ p.signature.toList := by
  have hname : '\n' ∉ p.name.toList := fun hfeed => by
    cases (h.plain _ hfeed).1
  rw [toList_signature]
  simp only [List.mem_append, not_or]
  exact ⟨notMem_of_isPropertyType h.type, by decide, hname, (plain_flagText p.flags).2.1⟩

/-- A block with the signature as its text documents the property, without docs. -/
theorem IsRead.entryAs_of_text (h : p.IsRead) (hmark : ¬ optionalMark <:+: p.name.toList)
    {b : Block} (hb : b.text = p.signature.toList) :
    b.entryAs .property = .ok (.property { p with docs := "" }) := by
  have hcut : cutLine b.text = (p.signature.toList, none) := by
    rw [hb, cutLine_of_notMem (notMem_signature h)]
  refine entryAs_property_iff.2 ⟨p.signatureParts, ?_, ?_⟩
  · rw [hcut]
    exact isLaidOut_signature h
  · rw [hcut]
    exact property_signatureParts h hmark

end Property

namespace Doc

/-- **A property that was read is read back.** If a block documents a property whose name does not
hold the mark of optional properties, a block with the signature of that property as its text
documents the same property, with its type, its name and its flags, and without docs. -/
theorem entryAs_property_signature {b b' : Block} {p : Property}
    (h : b.entryAs .property = .ok (.property p)) (hmark : ¬ optionalMark <:+: p.name.toList)
    (hb : b'.text = p.signature.toList) :
    b'.entryAs .property = .ok (.property { p with docs := "" }) := by
  obtain ⟨parts, hlaid, hp⟩ := entryAs_property_iff.1 h
  have hread : p.IsRead := hp ▸ hlaid.isRead ((cutLine b.text).2.getD [])
  exact hread.entryAs_of_text hmark hb

/-- The block that the property of `valuesBlock` is written to. -/
def writtenValuesBlock : Block where
  kind := .property
  text := "array\x7bdict\x7bstring, variant\x7d\x7d Values [readonly, experimental]".toList

theorem entryAs_property_signature_values :
    valuesBlock.entryAs .property = .ok (.property valuesProperty) ∧
      ¬ optionalMark <:+: valuesProperty.name.toList ∧
      writtenValuesBlock.text = valuesProperty.signature.toList ∧
      writtenValuesBlock.entryAs .property =
        .ok (.property { valuesProperty with docs := "" }) := by
  have hread : valuesBlock.entryAs .property = .ok (.property valuesProperty) := by rfl
  have hmark : ¬ optionalMark <:+: valuesProperty.name.toList := by
    rw [← contains_iff]
    decide
  have htext : writtenValuesBlock.text = valuesProperty.signature.toList := by rfl
  exact ⟨hread, hmark, htext, entryAs_property_signature hread hmark htext⟩

end Doc

end BusDoc
