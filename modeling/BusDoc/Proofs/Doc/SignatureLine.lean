import BusDoc.Doc.Entry
import BusDoc.Proofs.Text.Lines

/-!
# What the first line of a block decides

The docs of a block stand under its signature. They are read as docs only: two blocks with the same
first line have the same signature, whatever follows it. The argument list of a method or signal
may go on below the first line, so that line has to close it.

* `signatureParts?_append`, `signatureParts?_eq_none`: a block is cut at its first opening
  parenthesis and the first closing one behind it, if one list stands between them.
* `method?_eq`: what is read of the parts.
* `signatureParts?_of_line`: the parts of a block whose first line closes the list.
* `sameReading_of_line`: blocks with the same first line are read alike.
-/

namespace BusDoc

/-- The two entries agree in everything that a signature tells. -/
def Entry.SameSignature : Entry → Entry → Prop
  | property p, property q => p.type = q.type ∧ p.name = q.name ∧ p.flags = q.flags
  | method m, method n => m.name = n.name ∧ m.args = n.args ∧ m.returns = n.returns
  | signal s, signal t => s.name = t.name ∧ s.args = t.args
  | _, _ => False

/-- The signal that is a method without results. -/
def Method.signal (m : Method) : SignalDecl := ⟨m.name, m.args, m.docs, m.errors⟩

namespace Doc

open Text

/-! ## The parts of a block -/

theorem signatureParts?_append {front body : List Char} (hf : ∀ c ∈ front, c ≠ '(' ∧ c ≠ '\n')
    (hb : ')' ∉ body) (behind : List Char) :
    signatureParts? (front ++ '(' :: (body ++ ')' :: behind)) =
      if isArgList body then some ⟨front, body, (cutLine behind).1, (cutLine behind).2.getD []⟩
      else none := by
  have hfront : ∀ c ∈ front, (c ≠ '(' && c ≠ '\n') = true := fun c hc => by simpa using hf c hc
  have hbody : ∀ c ∈ body, (!decide (c = ')')) = true := fun c hc => by
    simpa using fun e : c = ')' => hb (e ▸ hc)
  rw [signatureParts?, List.dropWhile_append_of_pos hfront, List.takeWhile_append_of_pos hfront]
  simp [List.dropWhile_append_of_pos hbody, List.takeWhile_append_of_pos hbody]

/-- A line feed in front of the first parenthesis ends the block's signature. -/
theorem signatureParts?_eq_none {front : List Char} (hparen : '(' ∉ front) (hfeed : '\n' ∈ front)
    (rest : List Char) : signatureParts? (front ++ rest) = none := by
  obtain ⟨line, more, rfl, hline⟩ := List.eq_append_cons_of_mem hfeed
  have hpass : ∀ c ∈ line, (c ≠ '(' && c ≠ '\n') = true := by
    intro c hc
    have hopen : c ≠ '(' := fun e => hparen (e ▸ List.mem_append_left _ hc)
    have hend : c ≠ '\n' := fun e => hline (e ▸ hc)
    simp [hopen, hend]
  rw [signatureParts?, List.append_assoc, List.dropWhile_append_of_pos hpass]
  simp

/-- What is read of the parts of a block. -/
def SignatureParts.method? (p : SignatureParts) : Option Method :=
  p.head?.map fun head =>
    { name := String.ofList head.name
      args := numberArgs 0 (argParts p.body)
      returns := resultTypes head.results
      docs := String.ofList
        (if (trim head.tail).isEmpty then cleanDocs p.docs
          else joinDocs (trim head.tail) (cleanDocs p.docs))
      errors := declaredErrors p.docs }

theorem method?_eq (text : List Char) :
    method? text = (signatureParts? text).bind SignatureParts.method? := by
  unfold method? SignatureParts.method?
  cases signatureParts? text with
  | none => rfl
  | some p => cases h : p.head? <;> simp [h]

theorem entryOf?_method (text : List Char) :
    entryOf? .method text = (method? text).map .method := rfl

theorem entryOf?_signal (text : List Char) :
    entryOf? .signal text = (method? text).map fun m => .signal m.signal := by
  rw [entryOf?, signal?, Option.map_map]
  rfl

/-- Methods and signals are read in one form. -/
theorem exists_entryOf?_eq {form : BlockKind} (h : form ≠ .property) :
    ∃ entry : Method → Entry, ∀ text, entryOf? form text = (method? text).map entry := by
  cases form with
  | property => exact absurd rfl h
  | method => exact ⟨_, entryOf?_method⟩
  | signal => exact ⟨_, entryOf?_signal⟩

/-! ## A list that is closed on the first line -/

/-- An opening parenthesis stands on the line, and a closing one somewhere behind it. -/
def ClosesList (line : List Char) : Prop :=
  ∃ front body rest, line = front ++ '(' :: (body ++ ')' :: rest)

/-- The first opening parenthesis and the first closing one behind it. -/
theorem ClosesList.exists_first {line : List Char} (h : ClosesList line) :
    ∃ front body rest, line = front ++ '(' :: (body ++ ')' :: rest) ∧ '(' ∉ front ∧
      ')' ∉ body := by
  obtain ⟨front', body', rest', hline⟩ := h
  obtain ⟨front, after, hopen, hfront⟩ :
      ∃ front after, line = front ++ '(' :: after ∧ '(' ∉ front :=
    List.eq_append_cons_of_mem (by simp [hline])
  have hclose : ')' ∈ after := by
    rw [hopen, List.append_eq_append_iff] at hline
    obtain ⟨more, -, hmore⟩ | ⟨more, rfl, hmore⟩ := hline
    · cases more with
      | nil => simp [(List.cons.inj hmore).2]
      | cons c more => simp [(List.cons.inj hmore).2]
    · cases more with
      | nil => simp [← (List.cons.inj hmore).2]
      | cons c more => exact absurd (by simp [← (List.cons.inj hmore).1]) hfront
  obtain ⟨body, rest, rfl, hbody⟩ := List.eq_append_cons_of_mem hclose
  exact ⟨front, body, rest, hopen, hfront, hbody⟩

theorem isArgList_of_notMem {body : List Char} (h : '\n' ∉ body) : isArgList body = true := by
  rw [isArgList, splitOn_of_notMem h]
  rfl

/-- A block whose first line closes the list: only the docs are below that line. -/
theorem signatureParts?_of_line {text front body rest : List Char}
    (hline : (cutLine text).1 = front ++ '(' :: (body ++ ')' :: rest)) (hf : '(' ∉ front)
    (hb : ')' ∉ body) :
    signatureParts? text = some ⟨front, body, rest, (cutLine text).2.getD []⟩ := by
  have hcut : ∃ behind, text = front ++ '(' :: (body ++ ')' :: behind) ∧
      '\n' ∉ (cutLine text).1 ∧ cutLine behind = (rest, (cutLine text).2) := by
    obtain ⟨hfeed, hcut⟩ | ⟨line, docs, htext, hfeed, hcut⟩ := cutLine_cases text
    · rw [hcut] at hline ⊢
      obtain rfl : text = _ := hline
      refine ⟨rest, rfl, hfeed, cutLine_of_notMem fun h => hfeed (by simp [h])⟩
    · rw [hcut] at hline ⊢
      obtain rfl : line = _ := hline
      exact ⟨rest ++ '\n' :: docs, by simp [htext], hfeed,
        cutLine_append_cons (fun h => hfeed (by simp [h])) docs⟩
  obtain ⟨behind, htext, hfeed, hbehind⟩ := hcut
  rw [hline] at hfeed
  have hfront : ∀ c ∈ front, c ≠ '(' ∧ c ≠ '\n' := fun c hc =>
    ⟨fun e => hf (e ▸ hc), fun e => hfeed (List.mem_append_left _ (e ▸ hc))⟩
  have hlist : isArgList body = true := isArgList_of_notMem fun h => hfeed (by simp [h])
  have hparts := signatureParts?_append hfront hb behind
  rwa [← htext, hbehind, if_pos hlist] at hparts

/-! ## Blocks with the same first line -/

/-- Both are read, with the same signature, or neither is. -/
def SameReading : Except ParseError Entry → Except ParseError Entry → Prop
  | .ok e, .ok e' => e.SameSignature e'
  | .error _, .error _ => True
  | _, _ => False

theorem sameReading_property {b b' : Block} (h : (cutLine b.text).1 = (cutLine b'.text).1) :
    SameReading (b.entryAs .property) (b'.entryAs .property) := by
  have hread (b : Block) : entryOf? .property b.text =
      (propertyLine? (cutLine b.text).1).map fun parts =>
        .property (parts.property ((cutLine b.text).2.getD [])) := by
    rw [entryOf?, property?, Option.map_map]
    rfl
  rw [Block.entryAs, Block.entryAs, hread, hread, h]
  cases propertyLine? (cutLine b'.text).1 with
  | none => trivial
  | some parts => exact ⟨rfl, rfl, rfl⟩

/-- Parts that differ in the docs are read with one name, the same arguments and the same results,
or not at all. -/
theorem sameReading_method? {front body rest docs docs' : List Char} :
    (SignatureParts.method? ⟨front, body, rest, docs⟩ = none ∧
      SignatureParts.method? ⟨front, body, rest, docs'⟩ = none) ∨
    ∃ m n : Method, SignatureParts.method? ⟨front, body, rest, docs⟩ = some m ∧
      SignatureParts.method? ⟨front, body, rest, docs'⟩ = some n ∧
      m.name = n.name ∧ m.args = n.args ∧ m.returns = n.returns := by
  have hhead : (⟨front, body, rest, docs⟩ : SignatureParts).head? =
      (⟨front, body, rest, docs'⟩ : SignatureParts).head? := rfl
  unfold SignatureParts.method?
  rw [hhead]
  cases (⟨front, body, rest, docs'⟩ : SignatureParts).head? with
  | none => exact .inl ⟨rfl, rfl⟩
  | some head => exact .inr ⟨_, _, rfl, rfl, rfl, rfl, rfl⟩

/-- **Docs do not change a signature.** Take two blocks with the same first line. Either both
document a property, with the same type, name and flags, or neither does. If the line closes the
list that it opens, either both document a method, with the same name, arguments and results, or
neither does; and so for a signal, its name and its arguments. -/
theorem sameReading_of_line {b b' : Block} (h : (cutLine b.text).1 = (cutLine b'.text).1) :
    SameReading (b.entryAs .property) (b'.entryAs .property) ∧
      (ClosesList (cutLine b.text).1 →
        SameReading (b.entryAs .method) (b'.entryAs .method) ∧
          SameReading (b.entryAs .signal) (b'.entryAs .signal)) := by
  refine ⟨sameReading_property h, fun hcloses => ?_⟩
  obtain ⟨front, body, rest, hline, hf, hb⟩ := hcloses.exists_first
  have hparts := signatureParts?_of_line hline hf hb
  have hparts' := signatureParts?_of_line (h ▸ hline) hf hb
  simp only [Block.entryAs, entryOf?_method, entryOf?_signal, method?_eq, hparts, hparts',
    Option.bind_some]
  obtain ⟨hm, hn⟩ | ⟨m, n, hm, hn, hsame⟩ := sameReading_method?
  · rw [hm, hn]
    exact ⟨trivial, trivial⟩
  · rw [hm, hn]
    exact ⟨hsame, hsame.1, hsame.2.1⟩

/-- A signature that is read as a property and as a method, with docs under it. -/
def documentedValues : Block where
  kind := .property
  text := "dict Values(byte key) [noreply]\n\n  All values.".toList

/-- The same line above text that could go on with it. -/
def undocumentedValues : Block where
  kind := .method
  text := "dict Values(byte key) [noreply]\n-> (fd)\n\nvoid Other(\n uint16 mtu)".toList

theorem sameReading_of_line_values :
    (cutLine documentedValues.text).1 = (cutLine undocumentedValues.text).1 ∧
      ClosesList (cutLine documentedValues.text).1 ∧
      documentedValues.entryAs .method = .ok (.method {
        name := "Values"
        args := [⟨"byte", "key"⟩]
        returns := ["dict"]
        docs := "[noreply] All values." }) ∧
      SameReading (documentedValues.entryAs .property) (undocumentedValues.entryAs .property) ∧
      SameReading (documentedValues.entryAs .method) (undocumentedValues.entryAs .method) := by
  have hline : (cutLine documentedValues.text).1 = (cutLine undocumentedValues.text).1 := by decide
  have hcloses : ClosesList (cutLine documentedValues.text).1 :=
    ⟨"dict Values".toList, "byte key".toList, " [noreply]".toList, by decide⟩
  obtain ⟨hproperty, hlist⟩ := sameReading_of_line hline
  exact ⟨hline, hcloses, rfl, hproperty, (hlist hcloses).1⟩

end Doc

end BusDoc
