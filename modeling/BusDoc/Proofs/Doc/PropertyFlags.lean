import BusDoc.Doc.PropertyForm
import BusDoc.Proofs.Text.Lines

/-!
# The flags of a property

The bracketed list behind the name of a property is read token by token. Of the words that tell who
may write, the last one counts; the others count wherever they stand, or not at all.

* `tells_parseFlags`: the flags that are read, against the tokens of the list.
* `FlagsTell.exclusive`: no property may only be read and be written too.
* `parseFlags_flagText`: flags that are written in brackets are read back.
-/

namespace BusDoc.Doc

open Text

/-- A token of a bracketed list as it counts: cut at the first closing bracket, without blanks
around it and in small letters. -/
def flagWord (token : List Char) : List Char :=
  (trim (token.takeWhile (· ≠ ']'))).map asciiLower

/-- The words of a bracketed list: what stands between its commas, the brackets and blanks around
the list apart. -/
def flagWords (raw : List Char) : List (List Char) :=
  (splitOn ',' (trimBoth (fun c => c == '[' || c == ']' || isBlank c) raw)).map flagWord

/-- The word of a flag, as characters. -/
abbrev wordOf (flag : Flag) : List Char := flag.word.toList

/-- The last of the words that tell who may write. -/
def lastAccess? (words : List (List Char)) : Option (List Char) :=
  (words.filter fun w => w = wordOf .readOnly ∨ w = wordOf .readWrite).getLast?

/-- The flags are those that the words ask for. -/
structure FlagsTell (words : List (List Char)) (flags : FlagSet) : Prop where
  readOnly : flags.readOnly = true ↔ lastAccess? words = some (wordOf .readOnly)
  readWrite : flags.readWrite = true ↔ lastAccess? words = some (wordOf .readWrite)
  experimental : flags.experimental = true ↔ wordOf .experimental ∈ words

variable {words : List (List Char)} {w : List Char} {flags : FlagSet}

theorem lastAccess?_concat_of_access (h : w = wordOf .readOnly ∨ w = wordOf .readWrite) :
    lastAccess? (words ++ [w]) = some w := by
  rw [lastAccess?, List.filter_append, List.filter_cons_of_pos (by simpa using h)]
  simp

theorem lastAccess?_concat_of_other (h : ¬ (w = wordOf .readOnly ∨ w = wordOf .readWrite)) :
    lastAccess? (words ++ [w]) = lastAccess? words := by
  rw [lastAccess?, List.filter_append, List.filter_cons_of_neg (by simpa using h)]
  simp [lastAccess?]

theorem FlagsTell.exclusive (h : FlagsTell words flags) :
    ¬ (flags.readOnly = true ∧ flags.readWrite = true) := by
  rintro ⟨hro, hrw⟩
  have heq := (h.readOnly.1 hro).symm.trans (h.readWrite.1 hrw)
  exact absurd heq (by decide)

/-- One token, as the word that it stands for. -/
theorem addFlag_eq (flags : FlagSet) (token : List Char) :
    addFlag flags token =
      if flagWord token = wordOf .readOnly then { flags with readWrite := false, readOnly := true }
      else if flagWord token = wordOf .readWrite then
        { flags with readOnly := false, readWrite := true }
      else if flagWord token = wordOf .experimental then { flags with experimental := true }
      else flags := rfl

theorem FlagsTell.addFlag (h : FlagsTell words flags) (token : List Char) :
    FlagsTell (words ++ [flagWord token]) (addFlag flags token) := by
  rw [addFlag_eq]
  generalize flagWord token = w
  have hro : wordOf .experimental ≠ wordOf .readOnly := by decide
  have hrw : wordOf .experimental ≠ wordOf .readWrite := by decide
  have hne : wordOf .readOnly ≠ wordOf .readWrite := by decide
  by_cases hw : w = wordOf .readOnly
  · rw [if_pos hw]
    subst hw
    constructor <;> simp [lastAccess?_concat_of_access, h.experimental, hro, hne]
  by_cases hw' : w = wordOf .readWrite
  · rw [if_neg hw, if_pos hw']
    subst hw'
    constructor <;> simp [lastAccess?_concat_of_access, h.experimental, hrw, hne.symm]
  -- any other word leaves the access as it is
  have hother : lastAccess? (words ++ [w]) = lastAccess? words :=
    lastAccess?_concat_of_other (by simpa using ⟨hw, hw'⟩)
  rw [if_neg hw, if_neg hw']
  by_cases hw'' : w = wordOf .experimental
  · rw [if_pos hw'']
    subst hw''
    constructor <;> simp [hother, h.readOnly, h.readWrite]
  · rw [if_neg hw'']
    constructor <;> simp [hother, h.readOnly, h.readWrite, h.experimental, Ne.symm hw'']

/-- The flags that are read of a bracketed list are those that its words ask for. -/
theorem tells_parseFlags (raw : List Char) : FlagsTell (flagWords raw) (parseFlags raw) := by
  have hstart : FlagsTell [] {} := by constructor <;> simp [lastAccess?]
  suffices hrun : ∀ (tokens done : List (List Char)) (flags : FlagSet),
      FlagsTell (done.map flagWord) flags →
      FlagsTell ((done ++ tokens).map flagWord) (tokens.foldl addFlag flags) from
    hrun _ [] {} hstart
  intro tokens
  induction tokens with
  | nil =>
    intro done flags h
    rwa [List.append_nil]
  | cons token tokens ih =>
    intro done flags h
    have hstep := h.addFlag token
    have := ih (done ++ [token]) _ (by simpa using hstep)
    rwa [List.append_assoc] at this

/-! ## Flags as they are written -/

/-- What the signature of a property has behind the name. -/
def flagText (flags : FlagSet) : List Char :=
  (if flags.toList.isEmpty then ""
    else " [" ++ ", ".intercalate (flags.toList.map Flag.word) ++ "]").toList

/-- Flags that are written in brackets are read back. -/
theorem parseFlags_flagText (h : ¬ (flags.readOnly = true ∧ flags.readWrite = true)) :
    parseFlags ((flagText flags).dropWhile (· ≠ '[')) = flags := by
  obtain ⟨readOnly, readWrite, experimental⟩ := flags
  cases readOnly with
  | false => cases readWrite <;> cases experimental <;> rfl
  | true =>
    obtain rfl : readWrite = false := by simpa using h
    cases experimental <;> rfl

/-- Before the brackets stands nothing but a space, and in them no parenthesis. -/
theorem plain_flagText (flags : FlagSet) :
    ((flagText flags).takeWhile (· ≠ '[')).all isIndent = true ∧ '\n' ∉ flagText flags ∧
      '(' ∉ flagText flags := by
  obtain ⟨readOnly, readWrite, experimental⟩ := flags
  cases readOnly <;> cases readWrite <;> cases experimental <;> decide

end BusDoc.Doc
