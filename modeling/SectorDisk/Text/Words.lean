import SectorDisk.Text.Quoted

/-!
# Words of a command line

Splitting a line into words the way a shell does: blanks separate words, quotes keep blanks,
a backslash takes the next character as it is.  Between double quotes a backslash escapes only the
double quote and itself.
-/

namespace SectorDisk.Text.Words

/-- Why a line has no words. -/
inductive Unfinished where
  /-- A quote was opened and not closed. -/
  | quote
  /-- The line ends with a backslash that escapes nothing. -/
  | escape
  deriving DecidableEq, Repr

/-- Where the reader stands. -/
inductive Mode where
  /-- Outside quotes. -/
  | bare
  /-- Inside the given quote. -/
  | inside (quote : Char)
  /-- After a backslash outside quotes. -/
  | escaped
  /-- After a backslash inside double quotes. -/
  | escapedInside

/-- Blanks between words. -/
def isSeparator (c : Char) : Bool :=
  c = ' ' || c = '\t' || c = '\r' || c = '\n'

/-- The words of the rest of a line.  `word` holds the characters of the word under way, last one
first, and is `none` between words. -/
def splitFrom : Mode → Option (List Char) → List Char → Except Unfinished (List String)
  | .bare, none, [] => .ok []
  | .bare, some word, [] => .ok [String.ofList word.reverse]
  | .inside _, _, [] => .error .quote
  | .escaped, _, [] => .error .escape
  | .escapedInside, _, [] => .error .escape
  | .bare, word, c :: rest =>
    if isSeparator c then
      match word with
      | none => splitFrom .bare none rest
      | some chars => (splitFrom .bare none rest).map (String.ofList chars.reverse :: ·)
    else if c = singleQuote ∨ c = doubleQuote then
      splitFrom (.inside c) (some (word.getD [])) rest
    else if c = backslash then splitFrom .escaped (some (word.getD [])) rest
    else splitFrom .bare (some (c :: word.getD [])) rest
  | .inside quote, word, c :: rest =>
    if c = quote then splitFrom .bare (some (word.getD [])) rest
    else if c = backslash ∧ quote = doubleQuote then
      splitFrom .escapedInside (some (word.getD [])) rest
    else splitFrom (.inside quote) (some (c :: word.getD [])) rest
  | .escaped, word, c :: rest => splitFrom .bare (some (c :: word.getD [])) rest
  | .escapedInside, word, c :: rest =>
    if c = doubleQuote ∨ c = backslash then
      splitFrom (.inside doubleQuote) (some (c :: word.getD [])) rest
    else splitFrom (.inside doubleQuote) (some (c :: backslash :: word.getD [])) rest

/-- The words of a line. -/
def split (line : String) : Except Unfinished (List String) :=
  splitFrom .bare none line.toList

end SectorDisk.Text.Words
