import SectorDisk.Text.Hex
import SectorDisk.Text.Printable

/-!
# Quoted text

Text and bytes as they are shown inside messages: between quotes, with what does not print written
as an escape.  Single quotes are used, unless the content has a single quote and no double quote.
-/

namespace SectorDisk.Text

/-! ## §1 Choice of quote -/

/-- The single quote. -/
def singleQuote : Char := Char.ofNat 39

/-- The double quote. -/
def doubleQuote : Char := Char.ofNat 34

/-- The backslash, which begins an escape. -/
def backslash : Char := Char.ofNat 92

/-- The quote that goes around the content. -/
def quoteFor (content : List Char) : Char :=
  if content.contains singleQuote && !content.contains doubleQuote then doubleQuote
  else singleQuote

/-! ## §2 Escapes -/

/-- The escape of a character by its number, in the shortest of the three forms. -/
def numericEscape (c : Char) : List Char :=
  let n := c.toNat
  if n < 0x100 then backslash :: 'x' :: Hex.padded 2 n
  else if n < 0x10000 then backslash :: 'u' :: Hex.padded 4 n
  else backslash :: 'U' :: Hex.padded 8 n

/-- One character between quotes; `plain` says which characters stand for themselves. -/
def escapeChar (quote : Char) (plain : Char → Bool) (c : Char) : List Char :=
  if c = quote ∨ c = backslash then [backslash, c]
  else if c = '\n' then [backslash, 'n']
  else if c = '\r' then [backslash, 'r']
  else if c = '\t' then [backslash, 't']
  else if plain c then [c]
  else numericEscape c

/-- The content between quotes. -/
def quoteWith (plain : Char → Bool) (content : List Char) : List Char :=
  let quote := quoteFor content
  quote :: content.flatMap (escapeChar quote plain) ++ [quote]

/-! ## §3 Text and bytes -/

/-- A text between quotes; printable characters stand for themselves. -/
def quoted (s : String) : String :=
  String.ofList (quoteWith isPrintable s.toList)

/-- The characters of ASCII that print. -/
def isAsciiPrintable (c : Char) : Bool :=
  32 ≤ c.toNat && c.toNat < 127

/-- Bytes between quotes, behind a `b`; printable ASCII stands for itself. -/
def quotedBytes (bytes : List UInt8) : String :=
  String.ofList ('b' :: quoteWith isAsciiPrintable (bytes.map fun b => Char.ofNat b.toNat))

/-- One byte of mutable bytes: a single quote is always escaped, and no other quote ever is. -/
def escapeMutable (c : Char) : List Char :=
  if c = doubleQuote then [c] else escapeChar singleQuote isAsciiPrintable c

/-- Mutable bytes between quotes, behind a `b`. -/
def quotedMutableBytes (bytes : List UInt8) : String :=
  let content := bytes.map fun b => Char.ofNat b.toNat
  let quote := quoteFor content
  String.ofList ('b' :: quote :: content.flatMap escapeMutable ++ [quote])

end SectorDisk.Text
