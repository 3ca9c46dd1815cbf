import BusDoc.Doc.Unit
import BusDoc.Proofs.Text.Lines
import Mathlib.Data.List.Chain

/-!
# Documentation files as they are written

The writer beside the splitter: a file is a list of units, each with its title, header and
sections, and a section is a list of blocks indented alike. `writeUnits` gives the text of a file
and `unitsAt` what it documents, with the number of the line that each block begins at.

A `BlockText` carries what makes it one block: below an empty line it goes on indented, and no
line of it underlines the one before. The number of empty lines at each place is free.
-/

namespace BusDoc.Doc

open Text

/-- A line that is read as it is written: no line feed, no tab, no blank at its end. -/
def IsPlainLine (l : List Char) : Prop := '\n' ∉ l ∧ '\t' ∉ l ∧ trimEnd l = l

/-- The text of a title or of a header line: not empty, and trimmed. -/
def IsHeaderText (s : List Char) : Prop := s ≠ [] ∧ '\n' ∉ s ∧ '\t' ∉ s ∧ trim s = s

instance (l : List Char) : Decidable (IsPlainLine l) := inferInstanceAs (Decidable (_ ∧ _))

instance (s : List Char) : Decidable (IsHeaderText s) := inferInstanceAs (Decidable (_ ∧ _))

/-- The lines of a block without the indentation of its section. -/
structure BlockText where
  lines : List (List Char)
  plain : ∀ l ∈ lines, IsPlainLine l := by decide
  /-- The first line starts with a character that is no blank. -/
  starts : (lines.head?.bind List.head?).any (fun c => !isBlank c) = true := by decide
  ends : lines.getLast? ≠ some [] := by decide
  /-- What follows an empty line is indented. -/
  nested : lines.IsChain fun l next => l = [] → next = [] ∨ next.head? = some ' ' := by decide
  noUnderline : ∀ l ∈ lines, isUnderline l = false := by decide

/-- A section: the kind of its blocks, their indentation, and the blocks, each with a number of
empty lines behind it. -/
structure SectionLayout where
  kind : BlockKind
  indent : Nat
  indent_pos : 0 < indent := by decide
  /-- The number of empty lines under the keyword. -/
  lead : Nat := 0
  blocks : List (BlockText × Nat)

/-- A unit: its title, the header lines under it, and its sections. -/
structure UnitLayout where
  title : List Char
  title_text : IsHeaderText title := by decide
  title_ends : endsWith "hierarchy".toList (title.map asciiLower) = true := by decide
  /-- The number of equals signs under the title. -/
  width : Nat
  width_pos : 0 < width := by decide
  service : List Char
  service_text : IsHeaderText service := by decide
  interface : List Char
  interface_text : IsHeaderText interface := by decide
  no_bracket : '[' ∉ interface := by decide
  objectPath : List Char
  objectPath_text : IsHeaderText objectPath := by decide
  /-- The number of empty lines under the header, less one. -/
  lead : Nat := 0
  sections : List SectionLayout

/-! ## Writing -/

/-- The keyword of the sections whose blocks are of the kind. -/
def BlockKind.keyword : BlockKind → List Char
  | method => "Methods".toList
  | signal => "Signals".toList
  | property => "Properties".toList

/-- Empty lines. -/
def empties (n : Nat) : List (List Char) := List.replicate n []

/-- A line behind `n` spaces; an empty line stays empty. -/
def indentLine (n : Nat) (l : List Char) : List Char :=
  if l = [] then [] else List.replicate n ' ' ++ l

/-- The number of empty lines behind a block: one more if another block follows. -/
def gapBefore (following : List (BlockText × Nat)) (gap : Nat) : Nat :=
  if following.isEmpty then gap else gap + 1

/-- The lines of each block, indented by `n`, with the empty lines behind it. -/
def blockRuns (n : Nat) : List (BlockText × Nat) → List (List (List Char))
  | [] => []
  | (b, gap) :: rest =>
    (b.lines.map (indentLine n) ++ empties (gapBefore rest gap)) :: blockRuns n rest

namespace SectionLayout

/-- The lines of the section under its keyword. -/
def body (s : SectionLayout) : List (List Char) :=
  empties s.lead ++ (blockRuns s.indent s.blocks).flatten

/-- The lines of the section. -/
def lines (s : SectionLayout) : List (List Char) := (s.kind.keyword ++ [':']) :: s.body

end SectionLayout

namespace UnitLayout

/-- The lines of the header, and the empty lines under it. -/
def header (u : UnitLayout) : List (List Char) :=
  ("Service".toList ++ '\t' :: u.service) :: ("Interface".toList ++ '\t' :: u.interface) ::
    ("Object path".toList ++ '\t' :: u.objectPath) :: empties (u.lead + 1)

/-- The lines of the unit. -/
def lines (u : UnitLayout) : List (List Char) :=
  u.title :: List.replicate u.width '=' :: (u.header ++ u.sections.flatMap SectionLayout.lines)

end UnitLayout

/-- The text of a file. -/
def writeUnits (us : List UnitLayout) : List Char := terminate (us.flatMap UnitLayout.lines)

/-! ## What a file documents -/

/-- The blocks that begin at line `start`. -/
def blocksAt (kind : BlockKind) : (start : Nat) → List (BlockText × Nat) → List Block
  | _, [] => []
  | start, (b, gap) :: rest =>
    ⟨kind, unlines b.lines, start⟩ ::
      blocksAt kind (start + b.lines.length + gapBefore rest gap) rest

/-- The blocks of the sections that begin at line `start`. -/
def sectionsAt : (start : Nat) → List SectionLayout → List Block
  | _, [] => []
  | start, s :: rest =>
    blocksAt s.kind (start + 1 + s.lead) s.blocks ++ sectionsAt (start + s.lines.length) rest

/-- The unit that begins at line `start`. -/
def UnitLayout.unitAt (source : String) (start : Nat) (u : UnitLayout) : DocUnit where
  source := source
  title := String.ofList u.title
  service := String.ofList u.service
  interface := String.ofList u.interface
  objectPath := String.ofList u.objectPath
  docs := ""
  blocks := sectionsAt (start + 2 + u.header.length) u.sections

/-- The units that begin at line `start`. -/
def unitsAt (source : String) : (start : Nat) → List UnitLayout → List DocUnit
  | _, [] => []
  | start, u :: rest => u.unitAt source start :: unitsAt source (start + u.lines.length) rest

end BusDoc.Doc
