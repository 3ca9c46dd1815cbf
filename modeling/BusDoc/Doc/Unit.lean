import BusDoc.Doc.Block
import BusDoc.Doc.Paragraph
import BusDoc.Text.Search

/-!
# Documentation units

A documentation file holds one unit per interface. A unit begins at an underlined title such as
`Media Transport hierarchy`; a file without such a title is one unit. Its header lines `Service`,
`Interface` and `Object path` and its docs come first, then the sections `Methods`, `Signals` and
`Properties` with their blocks. A unit without an interface, or with a second one, is malformed;
prose without any of this is no unit.
-/

namespace BusDoc.Doc

open Text

/-- What is wrong with a unit. -/
inductive UnitFault
  /-- Title or sections without an interface. -/
  | missingInterface
  /-- An interface header in a unit that already declares `declared`. -/
  | secondInterface (value : String) (line : Nat) (declared : String)
  /-- The first interface header stands behind a section keyword. -/
  | lateInterface (value : String) (line : Nat)
  deriving DecidableEq, Repr

namespace UnitFault

/-- The fault in words. -/
def message : UnitFault → String
  | missingInterface => "missing Interface header"
  | secondInterface value line declared =>
    s!"second Interface header '{value}' at line {line} (unit already declares '{declared}')"
  | lateInterface value line => s!"Interface header '{value}' at line {line} follows a section"

end UnitFault

/-- Why documentation could not be read. -/
inductive ParseError
  /-- A block is in none of the forms of its kind. -/
  | noMatch (kind : BlockKind) (line : Nat) (snippet : String)
  /-- A unit is malformed. The title is empty if the unit has none. -/
  | malformedUnit (source title : String) (fault : UnitFault)
  deriving DecidableEq, Repr

namespace ParseError

/-- The error in words. -/
def message : ParseError → String
  | noMatch kind line snippet =>
    s!"No {kind.text} found in block starting at line {line}: {quoted snippet}"
  | malformedUnit source title fault =>
    let unit := if title = "" then "<untitled>" else title
    s!"Malformed doc unit '{unit}' in {source}: {fault.message}"

end ParseError

/-- The part of a file that documents one interface. -/
structure DocUnit where
  source : String
  title : String
  service : String
  interface : String
  objectPath : String
  docs : String
  blocks : List Block
  deriving DecidableEq, Repr, Inhabited

/-! ## Titles -/

/-- A line of equals signs. -/
def isUnderline (text : List Char) : Bool :=
  let t := trim text
  !t.isEmpty && t.all (· == '=')

/-- The line ends in `hierarchy` or `hierarchies`, in any case. -/
def isTitleText (text : List Char) : Bool :=
  let t := (trim text).map asciiLower
  endsWith "hierarchy".toList t || endsWith "hierarchies".toList t

/-- The first of the lines is an underlined title. -/
def startsUnit : List Line → Bool
  | l :: next :: _ => isTitleText l.text && isUnderline next.text
  | _ => false

/-- Each line with the information whether it is an underlined title. -/
def markTitles : List Line → List (Line × Bool)
  | [] => []
  | l :: ls => (l, startsUnit (l :: ls)) :: markTitles ls

/-- The line ranges of the units of a file. -/
def unitRanges (ls : List Line) : List (List Line) :=
  match cutBefore Prod.snd (markTitles ls) with
  | (_, []) => [ls]
  | (_, runs) => runs.map (List.map Prod.fst)

/-! ## Header lines and section keywords -/

/-- The value of a header line: the keyword at column 0, alone or followed by a space. -/
def headerValue? (keyword : String) (text : List Char) : Option (List Char) :=
  match after? keyword.toList text with
  | some [] => some []
  | some (' ' :: rest) => some (trim rest)
  | _ => none

/-- The kind of the blocks under a section keyword. -/
def sectionKind? (keyword : List Char) : Option BlockKind :=
  if keyword = "Methods".toList then some .method
  else if keyword = "Signals".toList then some .signal
  else if keyword = "Properties".toList then some .property
  else none

/-- A section keyword at column 0, with or without a colon, and alone or followed by a space: the
kind of the section, and the line with the keyword blanked out so that what follows keeps its
column. -/
def sectionStart? (text : List Char) : Option (BlockKind × List Char) :=
  let keyword := text.takeWhile isAsciiAlpha
  let rest := text.dropWhile isAsciiAlpha
  match sectionKind? keyword with
  | none => none
  | some kind =>
    let (width, rest) := match rest with
      | ':' :: r => (keyword.length + 1, r)
      | r => (keyword.length, r)
    match rest with
    | [] => some (kind, List.replicate width ' ')
    | ' ' :: _ => some (kind, List.replicate width ' ' ++ rest)
    | _ => none

/-- The line opens a section. -/
def opensSection (l : Line) : Bool := (sectionStart? l.text).isSome

/-- What the header lines of a unit have said so far; the docs lines are in reverse. -/
structure Header where
  service : List Char := []
  interface : List Char := []
  objectPath : List Char := []
  docs : List (List Char) := []
  deriving DecidableEq, Repr

namespace Header

/-- One line of the header. -/
def step (h : Header) (l : Line) : Except UnitFault Header :=
  match headerValue? "Service" l.text with
  | some value => .ok { h with service := value }
  | none => match headerValue? "Interface" l.text with
    | some value =>
      if h.interface.isEmpty then .ok { h with interface := trim (value.takeWhile (· ≠ '[')) }
      else .error (.secondInterface (String.ofList value) l.number (String.ofList h.interface))
    | none => match headerValue? "Object path" l.text with
      | some value => .ok { h with objectPath := value }
      | none => .ok { h with docs := l.text :: h.docs }

/-- The header made of the given lines. -/
def ofLines (ls : List Line) : Except UnitFault Header := ls.foldlM step {}

/-- The documentation paragraph. -/
def paragraph (h : Header) : List Char := cleanDocs (unlines h.docs.reverse)

/-- The fault of an interface header behind a section keyword. -/
def lateFault (h : Header) (value : List Char) (line : Nat) : UnitFault :=
  if h.interface.isEmpty then .lateInterface (String.ofList value) line
  else .secondInterface (String.ofList value) line (String.ofList h.interface)

/-- The fault of the first interface header among the lines of the sections, if there is one. -/
def lateFault? (h : Header) (sections : List Line) : Option UnitFault :=
  sections.findSome? fun l =>
    if opensSection l then none
    else (headerValue? "Interface" l.text).map fun value => h.lateFault value l.number

end Header

/-- The blocks of a section, whose first line holds the keyword. -/
def sectionBlocks : List Line → List Block
  | [] => []
  | first :: body =>
    match sectionStart? first.text with
    | some (kind, text) => splitBlocks kind (⟨first.number, text⟩ :: body)
    | none => []

/-! ## Units -/

/-- The title of a range of lines, empty if it has none. -/
def unitTitle (ls : List Line) : String :=
  if startsUnit ls then String.ofList (trim ((ls.head?.map Line.text).getD [])) else ""

/-- The lines of a range under its title. -/
def unitBody (ls : List Line) : List Line := if startsUnit ls then ls.drop 2 else ls

/-- The unit in a range of lines; `none` if the range is prose. -/
def unitOfLines (source : String) (ls : List Line) : Except ParseError (Option DocUnit) := do
  let title := unitTitle ls
  let (front, sections) := cutBefore opensSection (unitBody ls)
  let fail (fault : UnitFault) : ParseError := .malformedUnit source title fault
  let h ← (Header.ofLines front).mapError fail
  match h.lateFault? sections.flatten with
  | some fault => throw (fail fault)
  | none =>
    if h.interface.isEmpty then
      if title = "" && sections.isEmpty then return none
      else throw (fail .missingInterface)
    else
      return some {
        source := source
        title := title
        service := String.ofList h.service
        interface := String.ofList h.interface
        objectPath := String.ofList h.objectPath
        docs := String.ofList h.paragraph
        blocks := sections.flatMap sectionBlocks }

/-- The units of a file, in order, or the fault of the first malformed one. -/
def splitUnits (source content : String) : Except ParseError (List DocUnit) := do
  let units ← (unitRanges (fileLines content.toList)).mapM (unitOfLines source)
  return units.filterMap id

end BusDoc.Doc
