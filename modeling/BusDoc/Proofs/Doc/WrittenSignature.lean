import BusDoc.Proofs.Doc.SignatureLine
import BusDoc.Proofs.Doc.Spelling
import BusDoc.Proofs.Text.Letter

/-!
# Signatures read back

A method or signal is written on one line as its `signature`: the results and a space, only for a
method, then the name and the arguments in parentheses.

* `signatureParts?_line`: the line is cut at its parentheses.
* `resultsFirst?_append`, `resultsFirst?_name`: before them stand results and a name, or a name
  alone.
* `entryAs_signature`: a block with this text documents the method or signal that was written,
  without docs and errors.
-/

namespace BusDoc.Doc

open Text

/-! ## Names -/

theorem mem_of_isMemberName {s : List Char} (h : isMemberName s = true) {c : Char} (hc : c ∈ s) :
    isBlank c = false ∧ c ≠ '(' ∧ c ≠ '\n' := by
  cases s with
  | nil => cases hc
  | cons a s =>
    rw [isMemberName, Bool.and_eq_true, List.all_eq_true] at h
    obtain rfl | hc := List.mem_cons.mp hc
    · exact plain_of_isIdentRest (isIdentRest_of_isAsciiUpper h.1)
    · exact plain_of_isIdentRest (h.2 c hc)

theorem isBlank_head_of_isMemberName {name : List Char} (h : isMemberName name = true) {c : Char}
    (hc : name.head? = some c) : isBlank c = false :=
  (mem_of_isMemberName h (List.mem_of_mem_head? hc)).1

theorem isBlank_last_of_isMemberName {name : List Char} (h : isMemberName name = true) {c : Char}
    (hc : name.getLast? = some c) : isBlank c = false :=
  (mem_of_isMemberName h (List.mem_of_getLast? hc)).1

theorem ne_nil_of_isMemberName {name : List Char} (h : isMemberName name = true) : name ≠ [] := by
  rintro rfl
  cases h

theorem not_isIndent_of_isMemberName {name : List Char} (h : isMemberName name = true) :
    ∀ c ∈ name, (!isIndent c) = true := by
  intro c hc
  rw [isIndent_of_not_isBlank (mem_of_isMemberName h hc).1]
  rfl

/-! ## The line -/

/-- A line that holds one list in parentheses, with nothing behind it. -/
theorem signatureParts?_line {front body : List Char}
    (hf : ∀ c ∈ front, c ≠ '(' ∧ c ≠ '\n') (hb : ∀ c ∈ body, c ≠ ')' ∧ c ≠ '\n') :
    signatureParts? (front ++ '(' :: (body ++ [')'])) = some ⟨front, body, [], []⟩ := by
  have hlist : isArgList body = true := isArgList_of_notMem fun h => (hb _ h).2 rfl
  rw [signatureParts?_append hf (fun h => (hb _ h).1 rfl), if_pos hlist]
  rfl

theorem trimIndent_eq {s : List Char} (hh : ∀ c, s.head? = some c → isBlank c = false)
    (hl : ∀ c, s.getLast? = some c → isBlank c = false) :
    dropEndWhile isIndent (s.dropWhile isIndent) = s := by
  cases s with
  | nil => rfl
  | cons c s =>
    have hlast := List.getLast?_eq_some_getLast (List.cons_ne_nil c s)
    have hc : ¬isIndent c = true := by simp [isIndent_of_not_isBlank (hh c rfl)]
    rw [List.dropWhile_cons_of_neg hc]
    exact dropEndWhile_eq_self hlast (isIndent_of_not_isBlank (hl _ hlast))

/-- What stands behind the last space or tab of a text, and the text without it. -/
theorem lastWord_append {word : List Char} (h : ∀ c ∈ word, (!isIndent c) = true)
    (front : List Char) :
    ((front ++ ' ' :: word).reverse.takeWhile fun c => !isIndent c).reverse = word ∧
      dropEndWhile (fun c => !isIndent c) (front ++ ' ' :: word) = front ++ [' '] := by
  constructor
  · have hrev : (front ++ ' ' :: word).reverse = word.reverse ++ ' ' :: front.reverse := by simp
    rw [hrev, List.takeWhile_append_of_pos fun c hc => h c (List.mem_reverse.mp hc),
      List.takeWhile_cons_of_neg (by decide), List.append_nil, List.reverse_reverse]
  · have hassoc : front ++ ' ' :: word = front ++ [' '] ++ word := by simp
    rw [hassoc, dropEndWhile_append_of_all (List.all_eq_true.mpr h), dropEndWhile_append_singleton]
    rfl

theorem resultsFirst?_append {results name : List Char} (hn : isMemberName name = true)
    (hh : results.head?.any isAsciiLower = true)
    (hl : ∀ c, results.getLast? = some c → isBlank c = false) :
    resultsFirst? (results ++ ' ' :: name) = some (name, results) := by
  obtain ⟨c, t, rfl⟩ : ∃ c t, results = c :: t := by
    cases results with
    | nil => cases hh
    | cons c t => exact ⟨c, t, rfl⟩
  have hc : isAsciiLower c = true := hh
  have hfirst : ∀ d, (c :: t ++ ' ' :: name).head? = some d → isBlank d = false := by
    intro d hd
    obtain rfl : c = d := by simpa using hd
    exact (plain_of_isIdentRest (by simp [isIdentRest, isAsciiAlnum, isAsciiAlpha, hc])).1
  have hlast : ∀ d, (c :: t ++ ' ' :: name).getLast? = some d → isBlank d = false := by
    intro d hd
    have h := List.getLast?_eq_some_getLast (ne_nil_of_isMemberName hn)
    rw [List.getLast?_append, List.getLast?_cons, h] at hd
    exact isBlank_last_of_isMemberName hn (by rw [h]; simpa using hd)
  obtain ⟨hname, hfront⟩ := lastWord_append (not_isIndent_of_isMemberName hn) (c :: t)
  have hresults : dropEndWhile isIndent (c :: t ++ [' ']) = c :: t := by
    have h := List.getLast?_eq_some_getLast (List.cons_ne_nil c t)
    rw [dropEndWhile_append_of_all rfl, dropEndWhile_eq_self h (isIndent_of_not_isBlank (hl _ h))]
  rw [resultsFirst?, trimIndent_eq hfirst hlast, hname, hfront, hresults]
  simp [hn, hc]

/-- A name alone has no results before it. -/
theorem resultsFirst?_name {name : List Char} (hn : isMemberName name = true) :
    resultsFirst? name = none := by
  have hname := not_isIndent_of_isMemberName hn
  rw [resultsFirst?, trimIndent_eq (fun _ => isBlank_head_of_isMemberName hn)
    (fun _ => isBlank_last_of_isMemberName hn),
    dropEndWhile_eq_nil_of_all (List.all_eq_true.mpr hname)]
  simp [dropEndWhile_nil]

theorem bareName?_name {name : List Char} (hn : isMemberName name = true) :
    bareName? name = some name := by
  rw [bareName?, trimIndent_eq (fun _ => isBlank_head_of_isMemberName hn)
    (fun _ => isBlank_last_of_isMemberName hn), if_pos hn]

/-- The method that a line without anything behind its arguments documents. -/
theorem method?_line {front : List Char} {args : List Arg} {name results : List Char}
    (hargs : ∀ a ∈ args, a.IsWritable) (hf : ∀ c ∈ front, c ≠ '(' ∧ c ≠ '\n')
    (hh : (⟨front, join [',', ' '] (args.map Arg.chars), [], []⟩ : SignatureParts).head? =
      some ⟨name, results, []⟩) :
    method? (front ++ '(' :: (join [',', ' '] (args.map Arg.chars) ++ [')'])) =
      some { name := String.ofList name, args, returns := resultTypes results } := by
  have hbody : ∀ c ∈ join [',', ' '] (args.map Arg.chars), c ≠ ')' ∧ c ≠ '\n' := by
    intro c hc
    obtain hc | ⟨s, hs, hc⟩ := mem_join hc
    · obtain rfl | rfl := by simpa using hc
      · decide
      · decide
    · obtain ⟨a, ha, rfl⟩ := List.mem_map.mp hs
      exact (hargs a ha).mem_chars hc
  rw [method?, signatureParts?_line hf hbody]
  simp only [Option.bind_eq_bind, Option.bind_some, hh, Arg.argParts_join hargs,
    Arg.numberArgs_map_chars hargs]
  rfl

/-- A block whose text is the signature of a method or signal that can be written documents it: its
name, its arguments and its results in order, without docs and errors. -/
theorem entryAs_signature (b : Block) :
    (∀ m : Method, m.IsWritable → b.text = m.signature.toList →
      b.entryAs .method = .ok (.method { m with docs := "", errors := NameSet.empty })) ∧
    ∀ s : SignalDecl, s.IsWritable → b.text = s.signature.toList →
      b.entryAs .signal = .ok (.signal { s with docs := "", errors := NameSet.empty }) := by
  constructor
  · intro m hm hb
    have hfront : ∀ c ∈ m.resultChars ++ ' ' :: m.name.toList, c ≠ '(' ∧ c ≠ '\n' := by
      intro c hc
      rw [List.mem_append, List.mem_cons] at hc
      obtain hc | rfl | hc := hc
      · exact hm.mem_resultChars hc
      · decide
      · exact (mem_of_isMemberName hm.name hc).2
    have hmethod := method?_line hm.args hfront (by
      rw [SignatureParts.head?, resultsFirst?_append hm.name hm.head_resultChars
        hm.last_resultChars])
    rw [Block.entryAs, entryOf?, hb, m.toList_signature, hmethod, hm.resultTypes]
    simp [NameSet.empty]
  · intro s hs hb
    have hfront : ∀ c ∈ s.name.toList, c ≠ '(' ∧ c ≠ '\n' := fun c hc =>
      (mem_of_isMemberName hs.name hc).2
    have hmethod := method?_line hs.args hfront (by
      rw [SignatureParts.head?, resultsFirst?_name hs.name, bareName?_name hs.name]
      rfl)
    rw [Block.entryAs, entryOf?, signal?, hb, s.toList_signature, hmethod]
    simp

/-- A method whose types nest. -/
def nestedMethod : Method where
  name := "Configure"
  args := [⟨"array{dict{string, variant}, array{byte}}", "blocks"⟩, ⟨"void", "mtu"⟩]
  returns := ["dict{object, array{string}}", "fd"]

/-- A signal whose types nest. -/
def nestedSignal : SignalDecl where
  name := "Changed"
  args := [⟨"dict{string, array{variant}}", "values"⟩]

theorem entryAs_signature_nested :
    nestedMethod.IsWritable ∧ nestedSignal.IsWritable ∧
      (⟨.method, nestedMethod.signature.toList, 1⟩ : Block).entryAs .method =
        .ok (.method nestedMethod) ∧
      (⟨.signal, nestedSignal.signature.toList, 1⟩ : Block).entryAs .signal =
        .ok (.signal nestedSignal) := by
  have hm : nestedMethod.IsWritable := by decide +kernel
  have hs : nestedSignal.IsWritable := by decide +kernel
  exact ⟨hm, hs, (entryAs_signature _).1 nestedMethod hm rfl,
    (entryAs_signature _).2 nestedSignal hs rfl⟩

end BusDoc.Doc
