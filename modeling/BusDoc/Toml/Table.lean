import BusDoc.Toml.Value

/-!
# Building TOML tables

The statements of a document build one table. A key can be given a value once, a table can have a
header once, and what was written out as a value takes no additions. A dotted key adds only to
tables that dotted keys made.
-/

namespace BusDoc.Toml

/-- The entries of a table. -/
abbrev Entries := List (String × Toml)

/-- A line of a document. -/
inductive Statement
  /-- A value for a key; the path leads to the table of the key. -/
  | entry (path : List String) (key : String) (value : Toml)
  /-- The header of a table. -/
  | header (path : List String) (key : String)
  /-- The header of one more table of a list. -/
  | element (path : List String) (key : String)
  deriving Repr

/-- The entries with the table at the end of a path changed by `f`, which is also told how that
table came about. Missing tables on the way are made as `made` says. -/
def changeAt (made : TableOrigin) (f : TableOrigin → Entries → Option Entries) :
    (path : List String) → TableOrigin → Entries → Option Entries
  | [], origin, es => f origin es
  | k :: path, _, es =>
    match entryOf? k es with
    | none => do
      let inner ← changeAt made f path made []
      return insertEntry k (table made inner) es
    | some (table origin inner) =>
      if origin = .inline ∨ (made = .dotted ∧ origin = .header) then none
      else do
        let inner ← changeAt made f path origin inner
        return insertEntry k (table origin inner) es
    | some (tables elements) =>
      match elements.getLast? with
      | none => none
      | some last => do
        let last ← changeAt made f path .header last
        return insertEntry k (tables (elements.dropLast ++ [last])) es
    | some _ => none

/-- The entries of a table with a value for a new key. -/
def addEntry (key : String) (v : Toml) (es : Entries) : Option Entries :=
  if (entryOf? key es).isSome then none else some (insertEntry key v es)

/-- The entries of a table with a value for a key, to whose table the path leads. -/
def addValue (path : List String) (key : String) (v : Toml) (es : Entries) : Option Entries :=
  if path.isEmpty then addEntry key v es
  else changeAt .dotted
    (fun origin es => if origin = .dotted then addEntry key v es else none) path .dotted es

/-- The entries with the table of a header. Only a table that headers below it have named may be
there already. -/
def openTable (key : String) (es : Entries) : Option Entries :=
  match entryOf? key es with
  | none => some (insertEntry key (table .header []) es)
  | some (table .implied inner) => some (insertEntry key (table .header inner) es)
  | some _ => none

/-- The entries with one more table in a list of tables. -/
def openElement (key : String) (es : Entries) : Option Entries :=
  match entryOf? key es with
  | none => some (insertEntry key (tables [[]]) es)
  | some (tables elements) => some (insertEntry key (tables (elements ++ [[]])) es)
  | some _ => none

/-- A document half built: its entries, and the path of the table that is open. -/
structure Draft where
  entries : Entries := []
  current : List String := []

namespace Draft

/-- The document with one more statement. -/
def step (d : Draft) : Statement → Option Draft
  | .entry path key v => do
    let es ← changeAt .implied (fun _ => addValue path key v) d.current .header d.entries
    return { d with entries := es }
  | .header path key => do
    let es ← changeAt .implied (fun _ => openTable key) path .header d.entries
    return ⟨es, path ++ [key]⟩
  | .element path key => do
    let es ← changeAt .implied (fun _ => openElement key) path .header d.entries
    return ⟨es, path ++ [key]⟩

end Draft

/-- The entries of the document that the statements build. -/
def build? (statements : List Statement) : Option Entries :=
  (statements.foldlM Draft.step {}).map Draft.entries

end BusDoc.Toml
