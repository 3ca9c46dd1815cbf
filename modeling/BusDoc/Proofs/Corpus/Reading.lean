import BusDoc.Corpus.Compile
import BusDoc.Proofs.Corpus.Assembly
import BusDoc.Proofs.Doc.UnitParts

/-!
# Units read block by block

* `filterMap_entriesOf`: the entries of each kind are what the blocks of that kind document.
* `length_read`: each block gives one member or one report.
* `readBlocks_skip`: under the skipping policy the reading of a unit gives both, and never fails.
* `readBlocks_abort_of_readable`, `readBlocks_abort_of_unread`: under the other policy it gives the
  same if there is nothing to report, and fails with the first report otherwise.
-/

namespace BusDoc.Doc

namespace Block

/-- The property that a property block documents. -/
def property? (b : Block) : Option Property :=
  if b.kind = .property then Doc.property? b.text else none

/-- The method that a method block documents. -/
def method? (b : Block) : Option Method := if b.kind = .method then Doc.method? b.text else none

/-- The signal that a signal block documents. -/
def signal? (b : Block) : Option SignalDecl := if b.kind = .signal then Doc.signal? b.text else none

/-- The report on the block, if it cannot be read: its kind and line, and the error in words. -/
def unread? (b : Block) (source interface : String) : Option Skipped :=
  match b.entry with
  | .ok _ => none
  | .error e => some ⟨source, interface, b.kind, b.line, e.message⟩

theorem entry_of_some {b : Block} {e : Entry} (h : entryOf? b.kind b.text = some e) :
    b.entry = .ok e := by
  rw [entry, entryAs, h]

theorem entry_of_none {b : Block} (h : entryOf? b.kind b.text = none) :
    b.entry = .error b.noMatch := by
  rw [entry, entryAs, h]

theorem unread?_of_some {b : Block} {e : Entry} (h : entryOf? b.kind b.text = some e)
    (source interface : String) : b.unread? source interface = none := by
  rw [unread?, entry_of_some h]

theorem unread?_of_none {b : Block} (h : entryOf? b.kind b.text = none)
    (source interface : String) :
    b.unread? source interface = some ⟨source, interface, b.kind, b.line, b.noMatch.message⟩ := by
  rw [unread?, entry_of_none h]

/-- The kind of a block decides which member it can document. -/
theorem bind_entryOf? (b : Block) :
    (entryOf? b.kind b.text).bind Entry.property? = b.property? ∧
      (entryOf? b.kind b.text).bind Entry.method? = b.method? ∧
      (entryOf? b.kind b.text).bind Entry.signal? = b.signal? := by
  unfold property? method? signal?
  cases b.kind with
  | property =>
    cases h : Doc.property? b.text <;>
      simp [entryOf?, h, Entry.property?, Entry.method?, Entry.signal?]
  | method =>
    cases h : Doc.method? b.text <;>
      simp [entryOf?, h, Entry.property?, Entry.method?, Entry.signal?]
  | signal =>
    cases h : Doc.signal? b.text <;>
      simp [entryOf?, h, Entry.property?, Entry.method?, Entry.signal?]

end Block

/-- What a list of blocks documents. -/
def entriesOf (bs : List Block) : List Entry := bs.filterMap fun b => entryOf? b.kind b.text

theorem entriesOf_cons (b : Block) (bs : List Block) :
    entriesOf (b :: bs) = (entryOf? b.kind b.text).toList ++ entriesOf bs := by
  rw [entriesOf, List.filterMap_cons]
  cases entryOf? b.kind b.text <;> rfl

theorem filterMap_entriesOf (bs : List Block) :
    (entriesOf bs).filterMap Entry.property? = bs.filterMap Block.property? ∧
      (entriesOf bs).filterMap Entry.method? = bs.filterMap Block.method? ∧
      (entriesOf bs).filterMap Entry.signal? = bs.filterMap Block.signal? := by
  unfold entriesOf
  rw [List.filterMap_filterMap, List.filterMap_filterMap, List.filterMap_filterMap]
  refine ⟨?_, ?_, ?_⟩ <;> congr 1 <;> funext b
  · exact b.bind_entryOf?.1
  · exact b.bind_entryOf?.2.1
  · exact b.bind_entryOf?.2.2

/-- Each block is a member or is reported. -/
theorem length_read (source interface : String) (bs : List Block) :
    (bs.filterMap Block.property?).length + (bs.filterMap Block.method?).length +
      (bs.filterMap Block.signal?).length +
      (bs.filterMap fun b => b.unread? source interface).length = bs.length := by
  induction bs with
  | nil => rfl
  | cons b bs ih =>
    simp only [List.filterMap_cons, Block.property?, Block.method?, Block.signal?, Block.unread?,
      Block.entry, Block.entryAs, entryOf?]
    simp only [Block.unread?, Block.entry, Block.entryAs, entryOf?] at ih
    cases b.kind
    · cases Doc.property? b.text <;> simp <;> omega
    · cases Doc.method? b.text <;> simp <;> omega
    · cases Doc.signal? b.text <;> simp <;> omega

namespace DocUnit

/-- The reports on the blocks of the unit that cannot be read. -/
def unread (u : DocUnit) : List Skipped :=
  u.blocks.filterMap fun b => b.unread? u.source u.interface

theorem readBlocks_skip (u : DocUnit) (bs : List Block) :
    u.readBlocks .skipMalformed bs =
      .ok (entriesOf bs, bs.filterMap fun b => b.unread? u.source u.interface) := by
  induction bs with
  | nil => rfl
  | cons b bs ih =>
    rw [readBlocks, ih, entriesOf_cons, List.filterMap_cons]
    cases hb : entryOf? b.kind b.text with
    | none =>
      rw [Block.entry_of_none hb, Block.unread?_of_none hb]
      rfl
    | some e =>
      rw [Block.entry_of_some hb, Block.unread?_of_some hb]
      rfl

theorem read_skip (u : DocUnit) :
    u.read .skipMalformed = .ok (entriesOf u.blocks, u.unread) := u.readBlocks_skip u.blocks

theorem readBlocks_abort_of_readable (u : DocUnit) {bs : List Block}
    (h : bs.filterMap (fun b => b.unread? u.source u.interface) = []) :
    u.readBlocks .abort bs = .ok (entriesOf bs, []) := by
  induction bs with
  | nil => rfl
  | cons b bs ih =>
    rw [List.filterMap_cons] at h
    cases hb : entryOf? b.kind b.text with
    | none =>
      rw [Block.unread?_of_none hb] at h
      cases h
    | some e =>
      rw [Block.unread?_of_some hb] at h
      rw [readBlocks, Block.entry_of_some hb, ih h, entriesOf_cons, hb]
      rfl

/-- Without skipping, the first block that cannot be read ends the reading, with the error that a
report on the block would give as its reason. -/
theorem readBlocks_abort_of_unread (u : DocUnit) {bs : List Block} {s : Skipped}
    {ss : List Skipped}
    (h : bs.filterMap (fun b => b.unread? u.source u.interface) = s :: ss) :
    ∃ e, u.readBlocks .abort bs = .error e ∧ e.message = s.reason := by
  induction bs with
  | nil => cases h
  | cons b bs ih =>
    rw [List.filterMap_cons] at h
    cases hb : entryOf? b.kind b.text with
    | none =>
      rw [Block.unread?_of_none hb] at h
      obtain ⟨rfl, -⟩ := List.cons_eq_cons.1 h
      rw [readBlocks, Block.entry_of_none hb]
      exact ⟨b.noMatch, rfl, rfl⟩
    | some e =>
      rw [Block.unread?_of_some hb] at h
      obtain ⟨e', he', hreason⟩ := ih h
      rw [readBlocks, Block.entry_of_some hb, he']
      exact ⟨e', rfl, hreason⟩

/-- Whatever the policy, a unit that is read gives all its members and all its reports. -/
theorem read_eq_ok {u : DocUnit} {policy : Policy} {entries : List Entry} {skips : List Skipped}
    (h : u.read policy = .ok (entries, skips)) :
    entries = entriesOf u.blocks ∧ skips = u.unread := by
  cases policy with
  | skipMalformed =>
    rw [read_skip] at h
    cases h
    exact ⟨rfl, rfl⟩
  | abort =>
    cases hu : u.unread with
    | nil =>
      rw [read, u.readBlocks_abort_of_readable hu] at h
      cases h
      exact ⟨rfl, rfl⟩
    | cons s ss =>
      obtain ⟨e, he, -⟩ := u.readBlocks_abort_of_unread hu
      rw [read, he] at h
      cases h

end DocUnit

end BusDoc.Doc
