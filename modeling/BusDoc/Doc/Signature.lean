import BusDoc.Api.Interface
import BusDoc.Doc.ErrorNames
import BusDoc.Doc.Paragraph

/-!
# Method and signal blocks

A signature is written `<results> Name(<arguments>)` or `Name(<arguments>) -> (<results>)`. The
argument list may go on over several lines. What stands behind it moves to the front of the docs,
which follow on the next line. Methods and signals share the form; a signal has no results.
-/

namespace BusDoc.Doc

open Text

/-- The parts of a block around its argument list. -/
structure SignatureParts where
  /-- What stands before the opening parenthesis. -/
  head : List Char
  /-- What stands between the parentheses. -/
  body : List Char
  /-- The rest of the line behind the closing parenthesis. -/
  tail : List Char
  /-- What follows that line. -/
  docs : List Char
  deriving DecidableEq, Repr

/-- A line of an argument list that goes on with it: its first character behind spaces and tabs is
no blank. -/
def continuesList (line : List Char) : Bool :=
  match line.dropWhile isIndent with
  | [] => false
  | c :: _ => !isBlank c

/-- The text between the parentheses is one list: after its first line, lines that go on with it
and then only blanks. -/
def isArgList (body : List Char) : Bool :=
  (((splitOn '\n' body).drop 1).dropWhile continuesList).all allBlank

/-- The block cut at the first opening parenthesis, which must stand on the first line, and at the
first closing one behind it. -/
def signatureParts? (text : List Char) : Option SignatureParts :=
  match text.dropWhile fun c => c ≠ '(' && c ≠ '\n' with
  | '(' :: rest =>
    match rest.dropWhile (· ≠ ')') with
    | ')' :: behind =>
      let body := rest.takeWhile (· ≠ ')')
      if isArgList body then
        let (tail, docs) := cutLine behind
        some ⟨text.takeWhile fun c => c ≠ '(' && c ≠ '\n', body, tail, docs.getD []⟩
      else none
    | _ => none
  | _ => none

/-- A member name: a capital, then letters, digits and underscores. -/
def isMemberName : List Char → Bool
  | [] => false
  | c :: s => isAsciiUpper c && s.all isIdentRest

/-- Name and results when the results stand before the name. -/
def resultsFirst? (head : List Char) : Option (List Char × List Char) :=
  let h := dropEndWhile isIndent (head.dropWhile isIndent)
  let name := (h.reverse.takeWhile fun c => !isIndent c).reverse
  let results := dropEndWhile isIndent (dropEndWhile (fun c => !isIndent c) h)
  if isMemberName name && (results.head?.map isAsciiLower).getD false then some (name, results)
  else none

/-- The name when nothing stands before it. -/
def bareName? (head : List Char) : Option (List Char) :=
  let name := dropEndWhile isIndent (head.dropWhile isIndent)
  if isMemberName name then some name else none

/-- The text behind an arrow that it starts with. -/
def afterArrow? (s : List Char) : Option (List Char) :=
  match s with
  | '-' :: '>' :: rest => some rest
  | '→' :: rest => some rest
  | _ => none

/-- The results behind an arrow, with or without parentheses, and the rest of the line. -/
def arrowResults (tail : List Char) : List Char × List Char :=
  let tail := tail.dropWhile isIndent
  match afterArrow? tail with
  | none => ([], tail)
  | some rest =>
    let rest := rest.dropWhile isIndent
    let rest := match rest with
      | '(' :: r => r
      | r => r
    (rest.takeWhile (· ≠ ')'), (rest.dropWhile (· ≠ ')')).drop 1)

/-- A signature as written: name, results, and the rest of its line. -/
structure SignatureHead where
  name : List Char
  results : List Char
  tail : List Char
  deriving DecidableEq, Repr

/-- The head of a block: the form with leading results comes first, the form with an arrow
second. -/
def SignatureParts.head? (p : SignatureParts) : Option SignatureHead :=
  match resultsFirst? p.head with
  | some (name, results) => some ⟨name, results, p.tail⟩
  | none => (bareName? p.head).map fun name =>
      let (results, tail) := arrowResults p.tail
      ⟨name, results, tail⟩

/-- A part of a list split into its type and, behind the last blank outside braces, its name. -/
def typeAndName (part : List Char) : List Char × Option (List Char) :=
  match cutLastBlank 0 part with
  | some (front, rest) =>
    if (trim front).isEmpty then (trim rest, none) else (trim front, some (trim rest))
  | none => (trim part, none)

/-- The parts of an argument list. Line breaks and runs of blanks in it count as one space, and
`void` is no argument. -/
def argParts (body : List Char) : List (List Char) :=
  (splitTop ',' (join [' '] (words isBlank body))).filter fun part => part ≠ "void".toList

/-- The arguments of the parts, the first of which is number `index`. An argument without a name
is called after its number. -/
def numberArgs : (index : Nat) → List (List Char) → List Arg
  | _, [] => []
  | index, part :: rest =>
    let (type, name) := typeAndName part
    let name := match name with
      | some n => String.ofList n
      | none => s!"arg{index}"
    ⟨String.ofList type, name⟩ :: numberArgs (index + 1) rest

/-- The types of a result list; `void` is none. -/
def resultTypes (results : List Char) : List String :=
  (((splitTop ',' results).map fun part => (typeAndName part).1).filter
    fun type => type ≠ "void".toList).map String.ofList

/-- The method that a block documents. -/
def method? (text : List Char) : Option Method := do
  let parts ← signatureParts? text
  let head ← parts.head?
  let docs := cleanDocs parts.docs
  let tail := trim head.tail
  return {
    name := String.ofList head.name
    args := numberArgs 0 (argParts parts.body)
    returns := resultTypes head.results
    docs := String.ofList (if tail.isEmpty then docs else joinDocs tail docs)
    errors := declaredErrors parts.docs }

/-- The signal that a block documents: the method it would be, without its results. -/
def signal? (text : List Char) : Option SignalDecl :=
  (method? text).map fun m => ⟨m.name, m.args, m.docs, m.errors⟩

end BusDoc.Doc
