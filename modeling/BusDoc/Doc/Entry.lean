import BusDoc.Doc.PropertyForm
import BusDoc.Doc.Signature
import BusDoc.Doc.Unit

/-!
# Blocks into entries

Reading a block in one of the three forms, and all blocks of a unit under a policy: a block that
is in no form of its kind is skipped and reported, or ends the run.
-/

namespace BusDoc.Doc

/-- What to do with a block that cannot be read. -/
inductive Policy
  /-- Leave it out and report it. -/
  | skipMalformed
  /-- Fail. -/
  | abort
  deriving DecidableEq, Repr, Inhabited

/-- The member that a text documents in the form of the given kind. -/
def entryOf? (form : BlockKind) (text : List Char) : Option Entry :=
  match form with
  | .property => (property? text).map .property
  | .method => (method? text).map .method
  | .signal => (signal? text).map .signal

namespace Block

/-- The block cannot be read. The message speaks of the kind of the block. -/
def noMatch (b : Block) : ParseError := .noMatch b.kind b.line b.snippet

/-- The block read in the form of the given kind. -/
def entryAs (b : Block) (form : BlockKind) : Except ParseError Entry :=
  match entryOf? form b.text with
  | some e => .ok e
  | none => .error b.noMatch

/-- The block read in the form of its own kind. -/
def entry (b : Block) : Except ParseError Entry := b.entryAs b.kind

end Block

/-- A block that was left out. -/
structure Skipped where
  source : String
  interface : String
  kind : BlockKind
  line : Nat
  reason : String
  deriving DecidableEq, Repr

namespace DocUnit

/-- The report on a block that was left out. -/
def skipped (u : DocUnit) (b : Block) (e : ParseError) : Skipped :=
  ⟨u.source, u.interface, b.kind, b.line, e.message⟩

/-- The entries and the reports of a list of blocks of the unit. -/
def readBlocks (u : DocUnit) (policy : Policy) :
    List Block → Except ParseError (List Entry × List Skipped)
  | [] => .ok ([], [])
  | b :: bs =>
    match b.entry with
    | .ok e => do
      let (entries, skips) ← u.readBlocks policy bs
      return (e :: entries, skips)
    | .error err =>
      match policy with
      | .abort => .error err
      | .skipMalformed => do
        let (entries, skips) ← u.readBlocks policy bs
        return (entries, u.skipped b err :: skips)

/-- The entries of the unit and the reports on the blocks that were left out. -/
def read (u : DocUnit) (policy : Policy) : Except ParseError (List Entry × List Skipped) :=
  u.readBlocks policy u.blocks

/-- The interface that the unit's header describes, without members. -/
def header (u : DocUnit) : Interface :=
  { name := u.interface, title := u.title, service := u.service, objectPath := u.objectPath,
    docs := u.docs }

end DocUnit

end BusDoc.Doc
