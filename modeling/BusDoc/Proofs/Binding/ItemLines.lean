import BusDoc.Proofs.Binding.CodeLines
import BusDoc.Proofs.Text.OneLine

/-!
# Lines that declare items

The public items that a source text declares can be read off its lines. A constant, a field or a
function whose parts stay on their lines declares itself and nothing else.

* `itemsOf_line`, `itemOf?_item`: the item of a printed line.
* `OtherLine.append`, `OtherLine.noItem`: a line that begins with another word declares no item,
  whatever its rest is.
* `itemsOf_constLines`, `itemsOf_fieldLines`, `itemsOf_functionLines`: the items of the parts of a
  module.
-/

namespace BusDoc.Binding

open Text

/-! ## Reading lines -/

/-- The character ends the name of an item. -/
def endsItem (c : Char) : Bool := c == '(' || c == ':' || c == '{'

/-- The item that a line declares: what stands behind `pub`, up to a parameter list, a type or a
body. -/
def itemOf? (line : List Char) : Option (List Char) :=
  (after? "pub ".toList (trimStart line)).map (List.takeWhile fun c => !endsItem c)

/-- The public items that a source text declares, in order. -/
def publicItems (source : String) : List (List Char) := (codeLines source).filterMap itemOf?

/-- The public items that printed lines declare. -/
def itemsOf (printed : List String) : List (List Char) := (codeOf printed).filterMap itemOf?

@[simp] theorem itemsOf_nil : itemsOf [] = [] := rfl

@[simp] theorem itemsOf_append (ls ms : List String) :
    itemsOf (ls ++ ms) = itemsOf ls ++ itemsOf ms := by
  rw [itemsOf, codeOf_append, List.filterMap_append]
  rfl

theorem itemsOf_cons (l : String) (ls : List String) :
    itemsOf (l :: ls) = itemsOf [l] ++ itemsOf ls :=
  itemsOf_append [l] ls

theorem itemsOf_flatMap {α : Type} (f : α → List String) (xs : List α) :
    itemsOf (xs.flatMap f) = xs.flatMap fun x => itemsOf (f x) := by
  induction xs with
  | nil => rfl
  | cons x xs ih => rw [List.flatMap_cons, itemsOf_append, ih, List.flatMap_cons]

theorem itemsOf_of_codeOf {ls : List String} (h : codeOf ls = []) : itemsOf ls = [] := by
  rw [itemsOf, h]
  rfl

theorem publicItems_text (m : ClientModule) : publicItems m.text = itemsOf m.lines := by
  have hlast : [([] : List Char)].filterMap itemOf? = [] := rfl
  rw [publicItems, ClientModule.text, codeLines_text, List.filterMap_append, hlast,
    List.append_nil]
  rfl

theorem itemOf?_of_isDocLine {line : List Char} (h : isDocLine line = true) :
    itemOf? line = none := by
  have hnone : ∀ start ∈ ["///".toList, "//!".toList], startsWith start (trimStart line) = true →
      after? "pub ".toList (trimStart line) = none := by
    intro start hstart hline
    obtain ⟨rest, hrest⟩ := Option.isSome_iff_exists.1 hline
    rw [after?_eq_some_iff.1 hrest]
    rcases List.mem_cons.1 hstart with rfl | hstart
    · rfl
    · rw [List.mem_singleton.1 hstart]
      rfl
  rw [isDocLine, Bool.or_eq_true] at h
  rw [itemOf?, Option.map_eq_none_iff]
  rcases h with h | h
  · exact hnone _ List.mem_cons_self h
  · exact hnone _ (List.mem_cons_of_mem _ List.mem_cons_self) h

theorem itemsOf_line {l : String} (h : OneLine l) : itemsOf [l] = (itemOf? l.toList).toList := by
  rw [itemsOf, codeOf_cons, codeOf_nil, List.append_nil, codeLines, splitOn_of_notMem h]
  cases hdoc : isDocLine l.toList with
  | true => simp [hdoc, itemOf?_of_isDocLine hdoc]
  | false => cases hitem : itemOf? l.toList <;> simp [hdoc, hitem]

/-- A line that declares an item. -/
theorem itemOf?_item {indent item rest : List Char} {c : Char} (hi : allBlank indent = true)
    (hitem : ∀ d ∈ item, endsItem d = false) (hc : endsItem c = true) :
    itemOf? (indent ++ ("pub ".toList ++ (item ++ c :: rest))) = some item := by
  have htrim : trimStart (indent ++ ("pub ".toList ++ (item ++ c :: rest))) =
      "pub ".toList ++ (item ++ c :: rest) := by
    rw [trimStart_append_of_allBlank hi]
    exact trimStart_cons_of_not (by decide)
  have hread : (item ++ c :: rest).takeWhile (fun d => !endsItem d) = item := by
    rw [List.takeWhile_append_of_pos (by simpa using hitem),
      List.takeWhile_cons_of_neg (by simp [hc]), List.append_nil]
  rw [itemOf?, htrim, after?_eq_some_iff.2 rfl, Option.map_some, hread]

/-! ## Lines without items -/

/-- The text stays on its line and declares no item. -/
def NoItem (l : String) : Prop := OneLine l ∧ itemOf? l.toList = none

instance (l : String) : Decidable (NoItem l) := inferInstanceAs (Decidable (_ ∧ _))

theorem itemsOf_cons_of_noItem {l : String} (h : NoItem l) (ls : List String) :
    itemsOf (l :: ls) = itemsOf ls := by
  rw [itemsOf_cons, itemsOf_line h.1, h.2]
  rfl

theorem itemsOf_of_noItem {ls : List String} (h : ∀ l ∈ ls, NoItem l) : itemsOf ls = [] := by
  induction ls with
  | nil => rfl
  | cons l ls ih =>
    obtain ⟨hl, hls⟩ := List.forall_mem_cons.1 h
    rw [itemsOf_cons_of_noItem hl, ih hls]

/-- The text begins with another word than a public item does. -/
def beginsOther (s : List Char) : Bool :=
  !(trimStart s).isPrefixOf "pub ".toList && !"pub ".toList.isPrefixOf (trimStart s)

theorem trimStart_append_of_beginsOther {s : List Char} (h : beginsOther s = true)
    (t : List Char) : trimStart (s ++ t) = trimStart s ++ t := by
  have hne : (s.dropWhile isBlank).isEmpty = false := by
    cases hs : s.dropWhile isBlank with
    | nil =>
      rw [beginsOther, trimStart, hs] at h
      cases h
    | cons c s => rfl
  rw [trimStart, List.dropWhile_append, hne]
  rfl

theorem beginsOther_append {s : List Char} (h : beginsOther s = true) (t : List Char) :
    beginsOther (s ++ t) = true := by
  have htrim := trimStart_append_of_beginsOther h t
  simp only [beginsOther, Bool.and_eq_true, Bool.not_eq_true', Bool.eq_false_iff, ne_eq,
    List.isPrefixOf_iff_prefix] at h ⊢
  rw [htrim]
  refine ⟨fun hp => h.1 ((List.prefix_append _ t).trans hp), fun hp => ?_⟩
  rcases List.prefix_or_prefix_of_prefix (List.prefix_append (trimStart s) t) hp with hp | hp
  · exact h.1 hp
  · exact h.2 hp

/-- The text stays on its line and begins with another word than a public item does. -/
structure OtherLine (l : String) : Prop where
  oneLine : OneLine l
  begins : beginsOther l.toList = true

instance (l : String) : Decidable (OtherLine l) :=
  decidable_of_iff (OneLine l ∧ beginsOther l.toList = true)
    ⟨fun h => ⟨h.1, h.2⟩, fun h => ⟨h.oneLine, h.begins⟩⟩

theorem OtherLine.append {s t : String} (hs : OtherLine s) (ht : OneLine t) :
    OtherLine (s ++ t) := by
  refine ⟨hs.oneLine.append ht, ?_⟩
  rw [String.toList_append]
  exact beginsOther_append hs.begins _

theorem OtherLine.noItem {l : String} (h : OtherLine l) : NoItem l := by
  refine ⟨h.oneLine, ?_⟩
  have hbegins := h.begins
  simp only [beginsOther, Bool.and_eq_true, Bool.not_eq_true', Bool.eq_false_iff, ne_eq,
    List.isPrefixOf_iff_prefix] at hbegins
  rw [itemOf?, Option.map_eq_none_iff]
  cases hafter : after? "pub ".toList (trimStart l.toList) with
  | none => rfl
  | some behind => exact absurd ⟨behind, (after?_eq_some_iff.1 hafter).symm⟩ hbegins.2

theorem noItem_indent {indent l : String} (hi : IsIndentation indent) (h : NoItem l) :
    NoItem (indent ++ l) := by
  refine ⟨OneLine.append hi.noFeed h.1, ?_⟩
  rw [String.toList_append, itemOf?, trimStart_append_of_allBlank hi.blank]
  exact h.2

/-! ## Names -/

/-- The characters of the text are those of an identifier. -/
def IsWord (s : String) : Prop := ∀ c ∈ s.toList, isIdentRest c = true

instance (s : String) : Decidable (IsWord s) :=
  decidable_of_iff (s.toList.all isIdentRest = true) List.all_eq_true

theorem isWord_of_isIdentifier {s : String} (h : isIdentifier s.toList = true) : IsWord s := by
  intro c hc
  cases hs : s.toList with
  | nil =>
    rw [hs] at hc
    cases hc
  | cons d rest =>
    rw [hs] at h hc
    simp only [isIdentifier, Bool.and_eq_true, List.all_eq_true] at h
    rcases List.mem_cons.1 hc with rfl | hc
    · have hstart := h.1.1
      simp only [isIdentStart, Bool.or_eq_true] at hstart
      simp only [isIdentRest, isAsciiAlnum, Bool.or_eq_true]
      exact hstart.imp .inl id
    · exact h.1.2 c hc

theorem IsWord.oneLine {s : String} (h : IsWord s) : OneLine s := oneLine_of_isIdentRest h

theorem IsWord.append {s t : String} (hs : IsWord s) (ht : IsWord t) : IsWord (s ++ t) := by
  intro c hc
  rw [String.toList_append, List.mem_append] at hc
  exact hc.elim (hs c) (ht c)

theorem endsItem_of_isIdentRest {c : Char} (h : isIdentRest c = true) : endsItem c = false := by
  cases hc : endsItem c with
  | false => rfl
  | true =>
    simp only [endsItem, Bool.or_eq_true, beq_iff_eq] at hc
    rcases hc with (rfl | rfl) | rfl
    · cases h
    · cases h
    · cases h

/-- A name behind the word for its kind is read as a whole. -/
theorem IsWord.endsItem_append {s : String} (h : IsWord s) {kind : List Char}
    (hkind : kind.any endsItem = false) : ∀ c ∈ kind ++ s.toList, endsItem c = false := by
  intro c hc
  rcases List.mem_append.1 hc with hc | hc
  · exact Bool.eq_false_iff.2 (List.any_eq_false.1 hkind c hc)
  · exact endsItem_of_isIdentRest (h c hc)

/-! ## Constants and fields -/

theorem itemsOf_docLines {indent : String} {docs : List String} (hi : IsIndentation indent)
    (h : ∀ d ∈ docs, OneLine d) : itemsOf (docs.map (docLine indent)) = [] :=
  itemsOf_of_codeOf (codeOf_map_docLine hi h)

/-- The item of a constant. -/
def ConstDecl.item (c : ConstDecl) : List Char := "const ".toList ++ c.name.toList

/-- The item of a function. -/
def FnDecl.item (f : FnDecl) : List Char := "fn ".toList ++ f.name.toList

theorem itemsOf_constLines {c : ConstDecl} (hdocs : ∀ d ∈ c.docs, OneLine d)
    (hname : IsWord c.name) : itemsOf c.lines = [c.item] := by
  have hfeed : OneLine ("pub const " ++ c.name ++ ": &str = " ++ quoted c.value ++ ";") :=
    ((((OneLine.append (by decide) hname.oneLine).append (by decide)).append
      (oneLine_quoted _)).append (by decide))
  have hline : ("pub const " ++ c.name ++ ": &str = " ++ quoted c.value ++ ";").toList =
      [] ++ ("pub ".toList ++ (c.item ++ ':' :: (" &str = " ++ quoted c.value ++ ";").toList)) := by
    have hfront : "pub const ".toList = "pub ".toList ++ "const ".toList := by decide
    have hmiddle : ": &str = ".toList = ':' :: " &str = ".toList := by decide
    simp only [ConstDecl.item, String.toList_append, List.append_assoc, hfront, hmiddle,
      List.nil_append, List.cons_append]
  have hitem : itemOf? ("pub const " ++ c.name ++ ": &str = " ++ quoted c.value ++ ";").toList =
      some c.item := by
    rw [hline]
    exact itemOf?_item rfl (hname.endsItem_append (by decide)) rfl
  rw [ConstDecl.lines, itemsOf_append, itemsOf_docLines isIndentation_none hdocs,
    itemsOf_line hfeed, hitem]
  rfl

theorem itemsOf_fieldLines {f : FieldDecl} (hdocs : ∀ d ∈ f.docs, OneLine d)
    (hname : IsWord f.name) (htype : OneLine f.type) : itemsOf f.lines = [f.name.toList] := by
  have htag : NoItem ("        #[property(" ++ quoted f.property ++
      (if f.writable then ", \"writable\"" else "") ++ ")]") := by
    have hmark : OneLine (if f.writable then ", \"writable\"" else "") := by split <;> decide
    exact (((OtherLine.append (by decide) (oneLine_quoted _)).append hmark).append
      (by decide)).noItem
  have hfeed : OneLine ("        pub " ++ f.name ++ ": " ++ f.type ++ ",") :=
    (((OneLine.append (by decide) hname.oneLine).append (by decide)).append htype).append
      (by decide)
  have hline : ("        pub " ++ f.name ++ ": " ++ f.type ++ ",").toList =
      "        ".toList ++ ("pub ".toList ++ (f.name.toList ++
        ':' :: (" " ++ f.type ++ ",").toList)) := by
    simp
  have hitem : itemOf? ("        pub " ++ f.name ++ ": " ++ f.type ++ ",").toList =
      some f.name.toList := by
    rw [hline]
    exact itemOf?_item isIndentation_field.blank (fun c hc => endsItem_of_isIdentRest (hname c hc))
      rfl
  rw [FieldDecl.lines, itemsOf_append, itemsOf_append,
    itemsOf_cons_of_noItem htag, itemsOf_docLines isIndentation_field hdocs, itemsOf_line hfeed,
    hitem]
  rfl

/-! ## Functions -/

/-- The parts of the function stay on their lines, and the lines of its body declare nothing. -/
structure FnDecl.IsPlain (f : FnDecl) : Prop where
  docs : ∀ d ∈ f.docs, OneLine d
  name : IsWord f.name
  params : ∀ p ∈ f.params, OneLine p.name ∧ OneLine p.type
  result : OneLine f.result
  body : ∀ l ∈ f.body, NoItem l

instance (f : FnDecl) : Decidable f.IsPlain :=
  decidable_of_iff ((∀ d ∈ f.docs, OneLine d) ∧ IsWord f.name ∧
      (∀ p ∈ f.params, OneLine p.name ∧ OneLine p.type) ∧ OneLine f.result ∧ ∀ l ∈ f.body, NoItem l)
    ⟨fun ⟨hdocs, hname, hparams, hresult, hbody⟩ => ⟨hdocs, hname, hparams, hresult, hbody⟩,
      fun h => ⟨h.docs, h.name, h.params, h.result, h.body⟩⟩

theorem FnDecl.IsPlain.oneLine_paramText {f : FnDecl} (h : f.IsPlain) : OneLine f.paramText := by
  refine OneLine.intercalate (by decide) fun s hs => ?_
  rcases List.mem_append.1 hs with hs | hs
  · split at hs
    next => exact List.mem_singleton.1 hs ▸ by decide
    next => cases hs
  · obtain ⟨p, hp, rfl⟩ := List.mem_map.1 hs
    exact ((h.params p hp).1.append (by decide)).append (h.params p hp).2

theorem itemsOf_fnLines {f : FnDecl} (h : f.IsPlain) : itemsOf f.lines = [f.item] := by
  have hfeed : OneLine ("    pub fn " ++ f.name ++ "(" ++ f.paramText ++ ") -> " ++ f.result ++
      " \x7b") :=
    (((((OneLine.append (by decide) h.name.oneLine).append (by decide)).append
      h.oneLine_paramText).append (by decide)).append h.result).append (by decide)
  have hline : ("    pub fn " ++ f.name ++ "(" ++ f.paramText ++ ") -> " ++ f.result ++
      " \x7b").toList = "    ".toList ++ ("pub ".toList ++ (f.item ++
        '(' :: (f.paramText ++ ") -> " ++ f.result ++ " \x7b").toList)) := by
    simp [FnDecl.item]
  have hitem : itemOf? ("    pub fn " ++ f.name ++ "(" ++ f.paramText ++ ") -> " ++ f.result ++
      " \x7b").toList = some f.item := by
    rw [hline]
    exact itemOf?_item isIndentation_member.blank (h.name.endsItem_append (by decide)) rfl
  have hbody : itemsOf (f.body.map ("        " ++ ·)) = [] := by
    refine itemsOf_of_noItem fun l hl => ?_
    obtain ⟨b, hb, rfl⟩ := List.mem_map.1 hl
    exact noItem_indent isIndentation_field (h.body b hb)
  have hclose : itemsOf ["    \x7d"] = [] := itemsOf_of_noItem (by decide)
  rw [FnDecl.lines, itemsOf_append, itemsOf_append, itemsOf_append,
    itemsOf_docLines isIndentation_member h.docs, itemsOf_line hfeed, hitem, hbody, hclose]
  rfl

theorem itemsOf_functionLines {fs : List FnDecl} (h : ∀ f ∈ fs, f.IsPlain) :
    itemsOf (ClientModule.functionLines fs) = fs.map FnDecl.item := by
  induction fs with
  | nil => rfl
  | cons f fs ih =>
    obtain ⟨hf, hfs⟩ := List.forall_mem_cons.1 h
    cases fs with
    | nil => exact itemsOf_fnLines hf
    | cons g fs =>
      have hgap : itemsOf [""] = [] := itemsOf_of_noItem (by decide)
      rw [ClientModule.functionLines, itemsOf_append, itemsOf_cons, itemsOf_fnLines hf, hgap,
        ih hfs]
      · rfl
      · simp

end BusDoc.Binding
