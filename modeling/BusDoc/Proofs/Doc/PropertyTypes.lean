import BusDoc.Doc.PropertyForm
import BusDoc.Proofs.Api.TypeSpelling

/-!
# The types of properties

A property line begins with a type: a word, or `array` or `dict` with members in braces. Where the
type ends depends on nothing that follows it, and every such type has a meaning.

* `closeBrace?_eq_some`: the text up to the closing brace is found in front of any other text.
* `propertyType?_eq_some`, `propertyType?_append`: a line begins with a type exactly if it is a type
  and what a blank begins.
* `isNamed_of_isPropertyType`: no such type is `void` or unknown.
* `isPropertyType_iff_isNamed`: the words that are types of properties are the words with a meaning
  other than `void`.
-/

namespace BusDoc

open Text

/-! ## Braces -/

namespace Doc

/-- One character of the text in braces, whatever follows: it closes the outer brace, nothing can
be closed any more, or the text goes on behind it. -/
theorem closeBrace?_cons (nested : Bool) (c : Char) :
    (c = '}' ∧ ∀ s, closeBrace? nested (c :: s) = some ([c], s)) ∨
      (∀ s, closeBrace? nested (c :: s) = none) ∨
      c ≠ '\n' ∧ ∃ next, ∀ s,
        closeBrace? nested (c :: s) = (closeBrace? next s).map fun p => (c :: p.1, p.2) := by
  by_cases hfeed : c = '\n'
  · exact .inr (.inl fun s => by rw [closeBrace?, if_pos hfeed])
  by_cases hopen : c = '{'
  · cases nested with
    | true => exact .inr (.inl fun s => by rw [closeBrace?, if_neg hfeed, if_pos hopen, if_pos rfl])
    | false =>
      refine .inr (.inr ⟨hfeed, true, fun s => ?_⟩)
      rw [closeBrace?, if_neg hfeed, if_pos hopen]
      rfl
  by_cases hclose : c = '}'
  · cases nested with
    | true =>
      refine .inr (.inr ⟨hfeed, false, fun s => ?_⟩)
      rw [closeBrace?, if_neg hfeed, if_neg hopen, if_pos hclose, if_pos rfl]
    | false =>
      refine .inl ⟨hclose, fun s => ?_⟩
      rw [closeBrace?, if_neg hfeed, if_neg hopen, if_pos hclose]
      rfl
  · refine .inr (.inr ⟨hfeed, nested, fun s => ?_⟩)
    rw [closeBrace?, if_neg hfeed, if_neg hopen, if_neg hclose]

/-- The text closes the brace that was opened before it, and ends there. -/
structure Closes (nested : Bool) (body : List Char) : Prop where
  closed : ∀ s, closeBrace? nested (body ++ s) = some (body, s)
  last : body.getLast? = some '}'
  oneLine : '\n' ∉ body

theorem closeBrace?_eq_some {nested : Bool} {s body rest : List Char}
    (h : closeBrace? nested s = some (body, rest)) : s = body ++ rest ∧ Closes nested body := by
  induction s generalizing nested body with
  | nil => cases h
  | cons c s ih =>
    obtain ⟨rfl, hstep⟩ | hstep | ⟨hfeed, next, hstep⟩ := closeBrace?_cons nested c
    · rw [hstep] at h
      cases h
      exact ⟨rfl, hstep, rfl, by decide⟩
    · rw [hstep] at h
      cases h
    · rw [hstep] at h
      obtain ⟨⟨body', rest'⟩, hbody, he⟩ := Option.map_eq_some_iff.1 h
      cases he
      obtain ⟨rfl, hclosed, hlast, hone⟩ := ih hbody
      refine ⟨rfl, fun t => ?_, ?_, List.not_mem_cons_of_ne_of_not_mem (Ne.symm hfeed) hone⟩
      · rw [List.cons_append, hstep, hclosed, Option.map_some]
      · rw [List.getLast?_cons, hlast]
        rfl

/-! ## Types at the start of a line -/

/-- The text is the type of a property. -/
inductive IsPropertyType : List Char → Prop
  | word {t : String} (h : t ∈ propertyTypes) : IsPropertyType t.toList
  | braced {opening : String} {body : List Char} (h : opening ∈ ["array\x7b", "dict\x7b"])
      (hbody : Closes false body) : IsPropertyType (opening.toList ++ body)

theorem plain_of_mem_propertyTypes {t : String} (h : t ∈ propertyTypes) :
    t.toList ≠ [] ∧ ∀ c ∈ t.toList, isBlank c = false ∧ c ≠ '{' := by
  have hplain : ∀ t ∈ propertyTypes,
      t.toList ≠ [] ∧ (t.toList.all fun c => !isBlank c && c != '{') = true := by decide
  obtain ⟨hne, hall⟩ := hplain t h
  refine ⟨hne, fun c hc => ?_⟩
  simpa using List.all_eq_true.1 hall c hc

theorem notMem_of_isPropertyType {type : List Char} (h : IsPropertyType type) : '\n' ∉ type := by
  cases h with
  | word hmem =>
    intro hfeed
    cases ((plain_of_mem_propertyTypes hmem).2 _ hfeed).1
  | braced hmem hbody =>
    have hopening : ∀ o ∈ ["array\x7b", "dict\x7b"], '\n' ∉ o.toList := by decide
    rw [List.mem_append, not_or]
    exact ⟨hopening _ hmem, hbody.oneLine⟩

/-- A word without braces, and what a space or tab begins behind it, do not begin with a text that
ends in a brace. -/
theorem startsWith_word {opening word t : List Char} (hbrace : '{' ∈ opening)
    (hopening : opening.all (!isIndent ·) = true) (hword : '{' ∉ word)
    (ht : t.head?.all isIndent = true) : startsWith opening (word ++ t) = false := by
  rw [Bool.eq_false_iff, ne_eq, startsWith_iff]
  intro h
  rcases List.prefix_or_prefix_of_prefix h (List.prefix_append word t) with hp | ⟨q, rfl⟩
  · exact hword (hp.subset hbrace)
  · have hq : q <+: t := (List.prefix_append_right_inj word).1 h
    cases q with
    | nil =>
      rw [List.append_nil] at hbrace
      exact hword hbrace
    | cons c q =>
      obtain ⟨t', rfl⟩ := hq
      have hc := List.all_eq_true.1 hopening c (by simp)
      rw [List.cons_append, List.head?_cons, Option.all_some] at ht
      simp [ht] at hc

/-- The word that a text begins with, and what is left behind it. -/
theorem word_append {word t : List Char} (hword : ∀ c ∈ word, (!isIndent c) = true)
    (ht : t.head?.all isIndent = true) :
    ((word ++ t).takeWhile fun c => !isIndent c) = word ∧
      ((word ++ t).dropWhile fun c => !isIndent c) = t := by
  rw [List.takeWhile_append_of_pos hword, List.dropWhile_append_of_pos hword]
  cases t with
  | nil => exact ⟨List.append_nil _, rfl⟩
  | cons c t =>
    have hc : isIndent c = true := by simpa using ht
    simp [hc]

theorem bracedType?_eq_some {opening : String} {s type rest : List Char}
    (h : bracedType? opening s = some (type, rest)) :
    s = type ++ rest ∧ ∃ body, Closes false body ∧ type = opening.toList ++ body := by
  unfold bracedType? at h
  obtain ⟨inside, hinside, h⟩ := Option.bind_eq_some_iff.1 h
  obtain ⟨⟨body, rest'⟩, hbody, h⟩ := Option.bind_eq_some_iff.1 h
  cases h
  obtain ⟨rfl, hcloses⟩ := closeBrace?_eq_some hbody
  rw [after?_eq_some_iff.1 hinside]
  exact ⟨(List.append_assoc ..).symm, body, hcloses, rfl⟩

theorem bracedType?_append {opening : String} {body : List Char} (h : Closes false body)
    (t : List Char) :
    bracedType? opening (opening.toList ++ body ++ t) = some (opening.toList ++ body, t) := by
  rw [bracedType?, List.append_assoc, after?_eq_some_iff.2 rfl]
  simp [h.closed]

theorem propertyType?_eq_some {s type rest : List Char}
    (h : propertyType? s = some (type, rest)) : s = type ++ rest ∧ IsPropertyType type := by
  unfold propertyType? at h
  dsimp only at h
  split at h
  next =>
    obtain ⟨hs, body, hbody, rfl⟩ := bracedType?_eq_some h
    exact ⟨hs, .braced (by simp) hbody⟩
  next =>
    split at h
    next =>
      obtain ⟨hs, body, hbody, rfl⟩ := bracedType?_eq_some h
      exact ⟨hs, .braced (by simp) hbody⟩
    next =>
      split at h
      next hany =>
        cases h
        obtain ⟨t, ht, he⟩ := List.any_eq_true.1 hany
        rw [← beq_iff_eq.1 he]
        refine ⟨?_, .word ht⟩
        rw [beq_iff_eq.1 he, List.takeWhile_append_dropWhile]
      next => cases h

/-- The type is found in front of anything that a space or tab begins. -/
theorem propertyType?_append {type t : List Char} (h : IsPropertyType type)
    (ht : t.head?.all isIndent = true) : propertyType? (type ++ t) = some (type, t) := by
  cases h with
  | @word word hmem =>
    obtain ⟨-, hplain⟩ := plain_of_mem_propertyTypes hmem
    have hbrace : '{' ∉ word.toList := fun hc => (hplain _ hc).2 rfl
    have hindent : ∀ c ∈ word.toList, (!isIndent c) = true := fun c hc => by
      simp [isIndent_of_not_isBlank (hplain c hc).1]
    obtain ⟨htake, hdrop⟩ := word_append hindent ht
    have harray : startsWith "array\x7b".toList (word.toList ++ t) = false :=
      startsWith_word (by decide) (by decide) hbrace ht
    have hdict : startsWith "dict\x7b".toList (word.toList ++ t) = false :=
      startsWith_word (by decide) (by decide) hbrace ht
    have hany : (propertyTypes.any fun t => t.toList == word.toList) = true :=
      List.any_eq_true.2 ⟨word, hmem, beq_self_eq_true _⟩
    rw [propertyType?, harray, hdict, htake, hdrop]
    simp [hany]
  | @braced opening body hmem hbody =>
    have hstarts (start : String) :
        startsWith start.toList (start.toList ++ body ++ t) = true :=
      startsWith_iff.2 ⟨body ++ t, (List.append_assoc ..).symm⟩
    obtain rfl | rfl : opening = "array\x7b" ∨ opening = "dict\x7b" := by simpa using hmem
    · rw [propertyType?, if_pos (hstarts _), bracedType?_append hbody]
    · have harray : startsWith "array\x7b".toList ("dict\x7b".toList ++ body ++ t) = false := rfl
      rw [propertyType?, harray, if_neg Bool.false_ne_true, if_pos (hstarts _),
        bracedType?_append hbody]

end Doc

/-! ## What the types mean -/

namespace DocType

/-- The type is in the vocabulary, and is no `void`. -/
def isNamed : DocType → Bool
  | void => false
  | unknown _ => false
  | _ => true

theorem isNamed_iff {t : DocType} :
    t.isNamed = true ↔ t ≠ .void ∧ ∀ spelling, t ≠ .unknown spelling := by
  cases t <;> simp [isNamed]

theorem exists_ofChars_of_members {s members : List Char}
    (h : arrayMembers? (trim s) = some members) : ∃ element, ofChars s = .array element :=
  ⟨_, ofChars_of_members h⟩

end DocType

namespace Doc

open DocType

/-- A type with members in braces has no blanks around it. -/
theorem trim_braced {opening : String} {body : List Char}
    (hmem : opening ∈ ["array\x7b", "dict\x7b"]) (hbody : Closes false body) :
    trim (opening.toList ++ body) = opening.toList ++ body := by
  have hhead : ∀ o ∈ ["array\x7b", "dict\x7b"],
      o.toList.head?.any (fun c => !isBlank c) = true := by decide
  refine trim_of_ends (fun c hc => ?_) fun c hc => ?_
  · have hfirst := hhead opening hmem
    cases ho : opening.toList with
    | nil =>
      rw [ho] at hfirst
      cases hfirst
    | cons a rest =>
      rw [ho, List.cons_append, List.head?_cons, Option.some.injEq] at hc
      rw [ho] at hfirst
      subst hc
      simpa using hfirst
  · rw [List.getLast?_append, hbody.last, Option.some_or, Option.some.injEq] at hc
    rw [← hc]
    rfl

/-- Every type of a property is in the vocabulary, and is no `void`. -/
theorem isNamed_of_isPropertyType {type : List Char} (h : IsPropertyType type) :
    (ofChars type).isNamed = true := by
  cases h with
  | word hmem =>
    have hword : ∀ t ∈ propertyTypes, arrayMembers? (trim t.toList) = none ∧
        (if isDict (trim t.toList) then dict else ofWord (trim t.toList)).isNamed = true := by
      decide
    obtain ⟨hmembers, hnamed⟩ := hword _ hmem
    rw [ofChars_of_no_members hmembers, hnamed]
  | @braced opening body hmem hbody =>
    have htrim := trim_braced hmem hbody
    obtain rfl | rfl : opening = "array\x7b" ∨ opening = "dict\x7b" := by simpa using hmem
    · obtain ⟨members, hmembers⟩ := List.getLast?_eq_some_iff.1 hbody.last
      have hfound : arrayMembers? (trim ("array\x7b".toList ++ body)) = some members := by
        rw [htrim, arrayMembers?, after?_eq_some_iff.2 rfl]
        exact before?_eq_some_iff.2 hmembers
      obtain ⟨element, he⟩ := exists_ofChars_of_members hfound
      rw [he]
      rfl
    · have hnone : arrayMembers? (trim ("dict\x7b".toList ++ body)) = none := by
        rw [htrim]
        rfl
      have hdict : isDict ("dict\x7b".toList ++ body) = true := by
        rw [isDict, startsWith_iff.2 ⟨body, rfl⟩, Bool.or_true]
      rw [ofChars_of_no_members hnone, htrim, if_pos hdict]
      rfl

/-- The words that are types of properties are those that are in the vocabulary, `void` apart. -/
theorem isPropertyType_iff_isNamed {word : List Char}
    (hword : ∀ c ∈ word, isBlank c = false ∧ c ≠ '{') :
    propertyType? word = some (word, []) ↔ (ofChars word).isNamed = true := by
  have hbrace : '{' ∉ word := fun hc => (hword _ hc).2 rfl
  constructor
  · intro h
    exact isNamed_of_isPropertyType (propertyType?_eq_some h).2
  · intro hnamed
    suffices h : ∃ t ∈ propertyTypes, t.toList = word by
      obtain ⟨t, ht, rfl⟩ := h
      simpa using propertyType?_append (.word ht) (t := []) rfl
    have htrim : trim word = word := trim_of_noBlank fun c hc => (hword c hc).1
    have harray : startsWith "array\x7b".toList (word ++ []) = false :=
      startsWith_word (by decide) (by decide) hbrace rfl
    have hdict : startsWith "dict\x7b".toList (word ++ []) = false :=
      startsWith_word (by decide) (by decide) hbrace rfl
    rw [List.append_nil] at harray hdict
    have hnone : arrayMembers? (trim word) = none := by
      rw [htrim, arrayMembers?, Option.not_isSome_iff_eq_none.1 (Bool.eq_false_iff.1 harray),
        Option.bind_none]
    rw [ofChars_of_no_members hnone, htrim] at hnamed
    split at hnamed
    next his =>
      rw [isDict, hdict, Bool.or_false, beq_iff_eq] at his
      exact ⟨"dict", by decide, his.symm⟩
    next =>
      unfold ofWord at hnamed
      split at hnamed
      next k t hfind =>
        have hkeywords : ∀ k ∈ keywords, k.2.isNamed = true → k.1 ∈ propertyTypes := by decide
        have hk := List.find?_some hfind
        exact ⟨k, hkeywords _ (List.mem_of_find?_eq_some hfind) hnamed, beq_iff_eq.1 hk⟩
      next => cases hnamed

end Doc

end BusDoc
