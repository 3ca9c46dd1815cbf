import BusDoc.Doc.PropertyForm
import BusDoc.Doc.Unit
import BusDoc.Text.Bytes
import Mathlib.Data.String.Basic

/-!
# Reading by byte indices

The readers once more, with every cut made at an index that counts bytes, or lines, and that is
computed where the cut is made or handed on from another line. Such a cut can fail: the index can
lie behind the end, or inside a character. A reader that also refuses malformed text gives `none`
if a cut fails and an error if the text is malformed.
-/

namespace BusDoc.Doc.Bytes

open Text
open String (utf8Len)

/-! ## Paragraphs -/

/-- The least number of bytes of spaces and tabs before a line that is not blank. -/
def commonIndent (ls : List (List Char)) : Nat :=
  leastOr0 ((ls.filter fun l => !allBlank l).map leadingBytes)

/-- A line from byte `n` on; a blank line is empty. -/
def dedentLine (n : Nat) (l : List Char) : Option (List Char) :=
  if allBlank l then some [] else (sliceFrom? n l).map trimEnd

/-- A paragraph, every line cut at the indentation that all share. -/
def cleanDocs (raw : List Char) : Option (List Char) := do
  let ls := lines raw
  let dedented ← ls.mapM (dedentLine (commonIndent ls))
  return trim (unlines dedented)

/-! ## Sections -/

/-- What follows a section keyword, with `consumed` spaces in its place, if it is empty or starts
with a space. -/
def opened (kind : BlockKind) (consumed : Nat) : List Char → Option (BlockKind × List Char)
  | [] => some (kind, List.replicate consumed ' ')
  | ' ' :: rest => some (kind, List.replicate consumed ' ' ++ ' ' :: rest)
  | _ => none

/-- What follows a keyword of `consumed` bytes without a colon that it may start with, and the bytes
in front of it. -/
def behindColon (consumed : Nat) : List Char → Nat × List Char
  | ':' :: rest => (consumed + 1, rest)
  | rest => (consumed, rest)

/-- The kind of the section that a line opens, and the line with the keyword and a colon behind it
blanked out. The line is cut behind the keyword. -/
def sectionStart (text : List Char) : Option (Option (BlockKind × List Char)) :=
  let keyword := text.takeWhile isAsciiAlpha
  match sectionKind? keyword with
  | none => some none
  | some kind => do
    let (consumed, rest) := behindColon (utf8Len keyword) (← sliceFrom? (utf8Len keyword) text)
    return opened kind consumed rest

/-- A line of a block without the indentation of the section's signatures, as far as it has it. -/
def blockLine (indent : Nat) (l : Line) : Option (List Char) :=
  if l.isBlank then some [] else sliceFrom? (min indent (leadingBytes l.text)) l.text

/-- The block made of the given lines. -/
def blockOfLines (kind : BlockKind) (indent : Nat) (ls : List Line) : Option Block := do
  let body ← ls.mapM (blockLine indent)
  return {
    kind := kind
    text := trimEnd (unlines body)
    line := (ls.head?.map Line.number).getD 1 }

/-- The blocks of a section, their lines cut at the indentation of its first line. -/
def splitBlocks (kind : BlockKind) (ls : List Line) : Option (List Block) :=
  match ls.find? fun l => !l.isBlank with
  | none => some []
  | some first =>
    let indent := leadingBytes first.text
    (cutBefore Prod.snd (markStarts indent true ls)).2.mapM fun run =>
      blockOfLines kind indent (run.map Prod.fst)

/-- The blocks of a section, whose first line holds the keyword. -/
def sectionBlocks : List Line → Option (List Block)
  | [] => some []
  | first :: body => do
    match ← sectionStart first.text with
    | some (kind, text) => splitBlocks kind (⟨first.number, text⟩ :: body)
    | none => return []

/-! ## Headers -/

/-- The name in the value of an interface header, cut at the first opening bracket. -/
def interfaceName (value : List Char) : Option (List Char) :=
  match findByte? (fun c => c = '[') value with
  | some i => (sliceTo? i value).map trim
  | none => some value

/-- One line of the header. -/
def headerStep (h : Header) (l : Line) : ExceptT UnitFault Option Header :=
  match headerValue? "Service" l.text with
  | some value => return { h with service := value }
  | none => match headerValue? "Interface" l.text with
    | some value =>
      if h.interface.isEmpty then do
        let name ← interfaceName value
        return { h with interface := name }
      else throw (.secondInterface (String.ofList value) l.number (String.ofList h.interface))
    | none => match headerValue? "Object path" l.text with
      | some value => return { h with objectPath := value }
      | none => return { h with docs := l.text :: h.docs }

/-! ## Units -/

/-- The lines from index `start` up to index `stop`. -/
def sliceLines? (start stop : Nat) (ls : List Line) : Option (List Line) :=
  if start ≤ stop ∧ stop ≤ ls.length then some ((ls.take stop).drop start) else none

/-- The indices of the titles, the first line having the given index. -/
def titlesFrom : (index : Nat) → List Line → List Nat
  | _, [] => []
  | index, l :: ls =>
    if startsUnit (l :: ls) then index :: titlesFrom (index + 1) ls else titlesFrom (index + 1) ls

/-- The line ranges of the units of a file, each going from a title to the next. -/
def unitRanges (ls : List Line) : Option (List (List Line)) :=
  match titlesFrom 0 ls with
  | [] => (sliceLines? 0 ls.length ls).map fun range => [range]
  | titles => (titles.zip (titles.tail ++ [ls.length])).mapM fun range =>
      sliceLines? range.1 range.2 ls

/-- The lines of a range under its title. -/
def unitBody (ls : List Line) : Option (List Line) :=
  if startsUnit ls then sliceLines? 2 ls.length ls else some ls

/-- The lines of a unit in front of its sections, and the sections. -/
def cutSections (body : List Line) : Option (List Line × List (List Line)) := do
  let marked ← body.mapM fun l => (sectionStart l.text).map fun start => (l, start.isSome)
  let (front, sections) := cutBefore Prod.snd marked
  return (front.map Prod.fst, sections.map (List.map Prod.fst))

/-- The blocks of the sections of a unit. -/
def blocks (sections : List (List Line)) : Option (List Block) := do
  return (← sections.mapM sectionBlocks).flatten

/-- The unit of a title, header lines and sections. -/
def unitOfParts (source title : String) (front : List Line) (sections : List (List Line)) :
    ExceptT ParseError Option (Option DocUnit) := do
  let h ← (front.foldlM headerStep {}).adapt (.malformedUnit source title)
  match h.lateFault? sections.flatten with
  | some fault => throw (.malformedUnit source title fault)
  | none =>
    if h.interface.isEmpty then
      if title = "" && sections.isEmpty then return none
      else throw (.malformedUnit source title .missingInterface)
    else
      let docs ← cleanDocs (unlines h.docs.reverse)
      let blocks ← blocks sections
      return some {
        source := source
        title := title
        service := String.ofList h.service
        interface := String.ofList h.interface
        objectPath := String.ofList h.objectPath
        docs := String.ofList docs
        blocks := blocks }

/-- The unit in a range of lines; `none` if the range is prose. -/
def unitOfLines (source : String) (ls : List Line) :
    ExceptT ParseError Option (Option DocUnit) := do
  let body ← unitBody ls
  let (front, sections) ← cutSections body
  unitOfParts source (unitTitle ls) front sections

/-- The units of a file. -/
def splitUnits (source content : String) : ExceptT ParseError Option (List DocUnit) := do
  let ranges ← unitRanges (fileLines content.toList)
  let units ← ranges.mapM (unitOfLines source)
  return units.filterMap id

/-! ## Parts of argument lists and properties -/

/-- A part of a list cut at the last blank outside braces. -/
def typeAndName (part : List Char) : Option (List Char × Option (List Char)) :=
  match lastTopBlank? 0 none (charIndices 0 part) with
  | some i => do
    let type := trim (← sliceTo? i part)
    let name := trim (← sliceFrom? i part)
    return if type.isEmpty then (name, none) else (type, some name)
  | none => some (trim part, none)

/-- The name of a property and what stands behind it, cut at the first blank. -/
def nameAndNote (text : List Char) : Option (List Char × List Char) :=
  match findByte? isBlank text with
  | some i => do return (← sliceTo? i text, trim (← sliceFrom? i text))
  | none => some (text, [])

/-- The property of a signature line and the docs under it. -/
def property (line : PropertyLine) (rawDocs : List Char) : Option Property := do
  let optional := contains optionalMark line.name || contains optionalMark line.flags
  let (name, annotation) ← nameAndNote (trim (removeFirst optionalMark line.name))
  let docs ← cleanDocs rawDocs
  let docs := if annotation.isEmpty then docs else joinDocs annotation docs
  let docs := if optional then joinDocs optionalMark docs else docs
  return {
    type := String.ofList line.type
    name := String.ofList name
    flags := parseFlags line.flags
    docs := String.ofList docs }

end BusDoc.Doc.Bytes
