import BusDoc.Doc.Entry
import BusDoc.Proofs.Text.TopPieces
import BusDoc.Proofs.Text.Words
import Mathlib.Tactic.MkIffOfInductiveProp

/-!
# Arguments and results as they are written

A type can be spelled in a signature (`IsTypeSpelling`) if its braces are closed, commas and blanks
stand inside them only, and the blanks are single spaces. So the commas that separate arguments and
results are those outside braces, the last blank of an argument is the one before its name, and
taking the line's words apart and joining them again changes nothing.

* `Arg.argParts_join`, `Arg.numberArgs_map_chars`: a written argument list is read as its arguments.
* `Method.IsWritable.resultTypes`: the written results are read as the results, and `void` as none.
-/

namespace BusDoc

open Text

/-- A type can be spelled like this in a signature. -/
@[mk_iff] structure IsTypeSpelling (s : List Char) : Prop where
  ne_nil : s ≠ []
  balanced : isBalanced 0 s = true
  noComma : lacksTop (· = ',') 0 s = true
  noBlank : lacksTop isBlank 0 s = true
  singleSpaced : isSingleSpaced s = true
  plain : s.all (· ∉ ['(', ')', '\n']) = true

/-- An argument can be called like this in a signature. -/
@[mk_iff] structure IsArgName (s : List Char) : Prop where
  ne_nil : s ≠ []
  plain : s.all (fun c => !isBlank c && c ∉ [',', '{', '}', '(', ')']) = true

/-- Type and name of the argument can stand in a signature. -/
@[mk_iff] structure Arg.IsWritable (a : Arg) : Prop where
  type : IsTypeSpelling a.type.toList
  name : IsArgName a.name.toList

/-- The method can be written in the form with leading results. -/
@[mk_iff] structure Method.IsWritable (m : Method) : Prop where
  name : Doc.isMemberName m.name.toList = true
  args : ∀ a ∈ m.args, a.IsWritable
  returns : ∀ r ∈ m.returns, IsTypeSpelling r.toList ∧ r ≠ "void"
  /-- The first result begins with a small letter. -/
  first : ∀ r, m.returns.head? = some r → r.toList.head?.any isAsciiLower = true

/-- The signal can be written. -/
@[mk_iff] structure SignalDecl.IsWritable (s : SignalDecl) : Prop where
  name : Doc.isMemberName s.name.toList = true
  args : ∀ a ∈ s.args, a.IsWritable

instance : DecidablePred IsTypeSpelling := fun s => decidable_of_iff _ (isTypeSpelling_iff s).symm

instance : DecidablePred IsArgName := fun s => decidable_of_iff _ (isArgName_iff s).symm

instance : DecidablePred Arg.IsWritable := fun a => decidable_of_iff _ (Arg.isWritable_iff a).symm

instance : DecidablePred Method.IsWritable := fun m =>
  decidable_of_iff _ (Method.isWritable_iff m).symm

instance : DecidablePred SignalDecl.IsWritable := fun s =>
  decidable_of_iff _ (SignalDecl.isWritable_iff s).symm

namespace IsTypeSpelling

variable {s : List Char}

theorem head_not_blank (h : IsTypeSpelling s) {c : Char} (hc : s.head? = some c) :
    isBlank c = false := by
  obtain ⟨t, rfl⟩ := List.head?_eq_some_iff.mp hc
  exact not_of_lacksTop_cons h.noBlank

theorem last_not_blank (h : IsTypeSpelling s) {c : Char} (hc : s.getLast? = some c) :
    isBlank c = false :=
  not_getLast_of_lacksTop h.balanced h.noBlank rfl hc

theorem mem (h : IsTypeSpelling s) {c : Char} (hc : c ∈ s) : c ≠ '(' ∧ c ≠ ')' ∧ c ≠ '\n' := by
  simpa using List.all_eq_true.mp h.plain c hc

theorem trim_eq (h : IsTypeSpelling s) : trim s = s :=
  trim_of_ends (fun _ => h.head_not_blank) (fun _ => h.last_not_blank)

theorem spaced (h : IsTypeSpelling s) : Spaced s := by
  rw [Spaced, join_words h.singleSpaced fun _ => h.last_not_blank]
  obtain ⟨c, t, rfl⟩ := List.exists_cons_of_ne_nil h.ne_nil
  exact trimStart_cons_of_not (h.head_not_blank rfl)

end IsTypeSpelling

namespace IsArgName

variable {s : List Char}

theorem mem (h : IsArgName s) {c : Char} (hc : c ∈ s) :
    isBlank c = false ∧ c ≠ ',' ∧ c ≠ '{' ∧ c ≠ '}' ∧ c ≠ '(' ∧ c ≠ ')' := by
  simpa using List.all_eq_true.mp h.plain c hc

theorem not_blank (h : IsArgName s) : ∀ c ∈ s, isBlank c = false := fun _ hc => (h.mem hc).1

theorem balanced (h : IsArgName s) : isBalanced 0 s = true := by
  refine isBalanced_of_noBrace fun c hc => ?_
  obtain ⟨-, -, ho, hc, -⟩ := h.mem hc
  exact ⟨ho, hc⟩

theorem noComma (h : IsArgName s) : lacksTop (· = ',') 0 s = true :=
  lacksTop_of_none fun _ hc => decide_eq_false (h.mem hc).2.1

theorem trim_eq (h : IsArgName s) : trim s = s := trim_of_noBlank h.not_blank

end IsArgName

/-! ## Arguments -/

namespace Arg

/-- Type and name of an argument, as characters. -/
def chars (a : Arg) : List Char := a.type.toList ++ ' ' :: a.name.toList

theorem toList_signature (a : Arg) : a.signature.toList = a.chars := by
  simp [signature, chars]

theorem toList_listSignature (args : List Arg) :
    (listSignature args).toList = join [',', ' '] (args.map chars) := by
  rw [listSignature, String.toList_intercalate, join_eq_intercalate, List.map_map]
  congr 1
  exact List.map_congr_left fun a _ => a.toList_signature

variable {a : Arg}

theorem IsWritable.balanced (h : a.IsWritable) : isBalanced 0 a.chars = true :=
  isBalanced_append h.type.balanced h.name.balanced

theorem IsWritable.noComma (h : a.IsWritable) : lacksTop (· = ',') 0 a.chars = true :=
  lacksTop_append h.type.balanced h.type.noComma h.name.noComma

theorem chars_ne_nil (a : Arg) : a.chars ≠ [] := by
  simp [chars]

theorem IsWritable.trim_chars (h : a.IsWritable) : trim a.chars = a.chars := by
  refine trim_of_ends (fun c hc => ?_) (fun c hc => ?_)
  · obtain ⟨d, s, hs⟩ := List.exists_cons_of_ne_nil h.type.ne_nil
    rw [chars, hs, List.cons_append, List.head?_cons] at hc
    exact h.type.head_not_blank (by rw [hs, List.head?_cons, hc])
  · have hl := List.getLast?_eq_some_getLast (List.cons_ne_nil ' ' a.name.toList)
    rw [chars, List.getLast?_append, hl, Option.some_or, ← hl] at hc
    obtain ⟨d, s, hs⟩ := List.exists_cons_of_ne_nil h.name.ne_nil
    rw [hs, List.getLast?_cons_cons, ← hs] at hc
    exact h.name.not_blank c (List.mem_of_getLast? hc)

theorem IsWritable.mem_chars (h : a.IsWritable) {c : Char} (hc : c ∈ a.chars) :
    c ≠ ')' ∧ c ≠ '\n' := by
  rw [chars, List.mem_append, List.mem_cons] at hc
  obtain hc | rfl | hc := hc
  · exact (h.type.mem hc).2
  · decide
  · obtain ⟨hb, -, -, -, -, hp⟩ := h.name.mem hc
    refine ⟨hp, ?_⟩
    rintro rfl
    cases hb

theorem IsWritable.typeAndName (h : a.IsWritable) :
    Doc.typeAndName a.chars = (a.type.toList, some a.name.toList) := by
  have hspace : trim (' ' :: a.name.toList) = trim a.name.toList := rfl
  rw [Doc.typeAndName, chars,
    cutLastBlank_append h.type.balanced (lacksTop_of_none h.name.not_blank)]
  simp [h.type.trim_eq, hspace, h.name.trim_eq, h.type.ne_nil]

variable {args : List Arg}

/-- Taking the words of a written argument list apart and joining them again changes nothing. -/
theorem spaced_join (h : ∀ a ∈ args, a.IsWritable) :
    Spaced (join [',', ' '] (args.map chars)) := by
  induction args with
  | nil => rfl
  | cons a args ih =>
    have ha := h a List.mem_cons_self
    cases args with
    | nil =>
      exact ha.type.spaced.append ha.type.ne_nil
        (spaced_of_noBlank ha.name.ne_nil ha.name.not_blank) ha.name.ne_nil
    | cons b args =>
      have hrest := ih fun c hc => h c (List.mem_cons_of_mem _ hc)
      have hname : Spaced (a.name.toList ++ [',']) := by
        refine spaced_of_noBlank (by simp) fun c hc => ?_
        rw [List.mem_append, List.mem_singleton] at hc
        obtain hc | rfl := hc
        · exact ha.name.not_blank c hc
        · rfl
      have hfront := ha.type.spaced.append ha.type.ne_nil hname (by simp)
      have hall := hfront.append (by simp) hrest (join_ne_nil b.chars_ne_nil _)
      rw [List.map_cons, join_cons_of_ne_nil _ _ (by simp)]
      simpa [chars] using hall

theorem argParts_join (h : ∀ a ∈ args, a.IsWritable) :
    Doc.argParts (join [',', ' '] (args.map chars)) = args.map chars := by
  have hparts : splitTop ',' (join [',', ' '] (args.map chars)) = args.map chars := by
    apply splitTop_commas
    all_goals
      intro s hs
      obtain ⟨a, ha, rfl⟩ := List.mem_map.mp hs
    · exact (h a ha).balanced
    · exact (h a ha).noComma
    · exact (h a ha).trim_chars
    · exact a.chars_ne_nil
  have hj : join [' '] (words isBlank (join [',', ' '] (args.map chars))) = _ := spaced_join h
  rw [Doc.argParts, hj, hparts, List.filter_eq_self]
  intro s hs
  obtain ⟨a, -, rfl⟩ := List.mem_map.mp hs
  -- there is a space between type and name
  have hspace : ' ' ∈ a.chars := by simp [chars]
  refine decide_eq_true fun e => ?_
  rw [e] at hspace
  exact absurd hspace (by decide)

theorem numberArgs_map_chars (h : ∀ a ∈ args, a.IsWritable) (index : Nat) :
    Doc.numberArgs index (args.map chars) = args := by
  induction args generalizing index with
  | nil => rfl
  | cons a args ih =>
    rw [List.map_cons, Doc.numberArgs, (h a List.mem_cons_self).typeAndName]
    simp [ih fun b hb => h b (List.mem_cons_of_mem _ hb)]

end Arg

/-! ## Results -/

theorem typeAndName_of_spelling {s : List Char} (h : IsTypeSpelling s) :
    (Doc.typeAndName s).1 = s := by
  rw [Doc.typeAndName, cutLastBlank_eq_none h.noBlank]
  exact h.trim_eq

theorem splitTop_results {types : List (List Char)} (h : ∀ s ∈ types, IsTypeSpelling s) :
    splitTop ',' (join [',', ' '] types) = types :=
  splitTop_commas (fun s hs => (h s hs).balanced) (fun s hs => (h s hs).noComma)
    (fun s hs => (h s hs).trim_eq) (fun s hs => (h s hs).ne_nil)

namespace Method

variable {m : Method}

/-- The results as they are written, as characters. -/
def resultChars (m : Method) : List Char :=
  if m.returns.isEmpty then "void".toList else join [',', ' '] (m.returns.map String.toList)

theorem toList_signature (m : Method) :
    m.signature.toList = m.resultChars ++ ' ' :: m.name.toList ++
      '(' :: (join [',', ' '] (m.args.map Arg.chars) ++ [')']) := by
  have hr : (if m.returns.isEmpty then "void" else ", ".intercalate m.returns).toList =
      m.resultChars := by
    rw [resultChars]
    split
    · rfl
    · rw [String.toList_intercalate, join_eq_intercalate]
      rfl
  simp only [signature, String.toList_append, hr, Arg.toList_listSignature]
  simp

theorem IsWritable.resultTypes (h : m.IsWritable) : Doc.resultTypes m.resultChars = m.returns := by
  by_cases hr : m.returns = []
  · rw [resultChars, hr]
    decide
  · have hspelled : ∀ s ∈ m.returns.map String.toList, IsTypeSpelling s := by
      intro s hs
      obtain ⟨r, hr, rfl⟩ := List.mem_map.mp hs
      exact (h.returns r hr).1
    have htypes : (m.returns.map String.toList).map (fun s => (Doc.typeAndName s).1) =
        m.returns.map String.toList := by
      have hid := List.map_congr_left fun s hs => typeAndName_of_spelling (hspelled s hs)
      rw [hid, List.map_id']
    have hvoid : (m.returns.map String.toList).filter (fun s => s ≠ "void".toList) =
        m.returns.map String.toList := by
      rw [List.filter_eq_self]
      intro s hs
      obtain ⟨r, hr, rfl⟩ := List.mem_map.mp hs
      refine decide_eq_true fun e => (h.returns r hr).2 ?_
      exact String.toList_inj.mp e
    rw [resultChars, if_neg (by simpa using hr), Doc.resultTypes, splitTop_results hspelled, htypes,
      hvoid, List.map_map]
    simp

theorem IsWritable.head_resultChars (h : m.IsWritable) :
    m.resultChars.head?.any isAsciiLower = true := by
  by_cases hr : m.returns = []
  · rw [resultChars, hr]
    decide
  · obtain ⟨r, rs, hrs⟩ := List.exists_cons_of_ne_nil hr
    have hfirst := h.first r (by rw [hrs]; rfl)
    have hne := (h.returns r (by simp [hrs])).1.ne_nil
    obtain ⟨c, s, hs⟩ := List.exists_cons_of_ne_nil hne
    rw [resultChars, if_neg (by simpa using hr), hrs, List.map_cons, hs, join_cons_cons]
    rw [hs] at hfirst
    simpa using hfirst

theorem IsWritable.last_resultChars (h : m.IsWritable) :
    ∀ c, m.resultChars.getLast? = some c → isBlank c = false := by
  by_cases hr : m.returns = []
  · intro c hc
    obtain rfl : 'd' = c := by simpa [resultChars, hr] using hc
    rfl
  · rw [resultChars, if_neg (by simpa using hr)]
    apply getLast?_join
    all_goals
      intro s hs
      obtain ⟨r, hr, rfl⟩ := List.mem_map.mp hs
    · exact (h.returns r hr).1.ne_nil
    · exact fun _ => (h.returns r hr).1.last_not_blank

theorem IsWritable.mem_resultChars (h : m.IsWritable) {c : Char} (hc : c ∈ m.resultChars) :
    c ≠ '(' ∧ c ≠ '\n' := by
  by_cases hr : m.returns = []
  · obtain rfl | rfl | rfl | rfl := by simpa [resultChars, hr] using hc
    all_goals decide
  · rw [resultChars, if_neg (by simpa using hr)] at hc
    obtain hc | ⟨s, hs, hc⟩ := mem_join hc
    · obtain rfl | rfl := by simpa using hc
      · decide
      · decide
    · obtain ⟨r, hr, rfl⟩ := List.mem_map.mp hs
      have hp := (h.returns r hr).1.mem hc
      exact ⟨hp.1, hp.2.2⟩

end Method

theorem SignalDecl.toList_signature (s : SignalDecl) :
    s.signature.toList =
      s.name.toList ++ '(' :: (join [',', ' '] (s.args.map Arg.chars) ++ [')']) := by
  simp only [signature, String.toList_append, Arg.toList_listSignature]
  simp

end BusDoc
