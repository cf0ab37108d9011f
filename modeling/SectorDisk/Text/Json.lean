import SectorDisk.Text.Hex
import SectorDisk.Text.Integer

/-!
# Reading JSON

A reader for JSON text as far as settings need it: texts, lists and null keep their content, of
everything else only the kind is kept.  Besides standard JSON the words `NaN`, `Infinity` and
`-Infinity` are numbers.  Lists and objects may stand in each other up to a limit.
-/

namespace SectorDisk.Text

/-- A JSON value. -/
inductive Json where
  /-- The word `null`. -/
  | null
  /-- A truth value. -/
  | bool (b : Bool)
  /-- Any number; its size never matters here. -/
  | number
  /-- A text. -/
  | text (s : String)
  /-- A list. -/
  | list (items : List Json)
  /-- An object, of which the fields are not kept. -/
  | record

namespace Json

/-! ## §1 Tokens -/

/-- Drops the blanks that JSON allows between tokens. -/
def skipBlanks (s : List Char) : List Char :=
  s.dropWhile fun c => c = ' ' || c = '\t' || c = '\n' || c = '\r'

/-- The rest of `s` after `word`, if it begins with it. -/
def after? : List Char → List Char → Option (List Char)
  | [], s => some s
  | _ :: _, [] => none
  | c :: word, d :: s => if c = d then after? word s else none

/-- The value of four hexadecimal digits. -/
def fourDigits? (a b c d : Char) : Option Nat := do
  let a ← Hex.digitValue? a
  let b ← Hex.digitValue? b
  let c ← Hex.digitValue? c
  let d ← Hex.digitValue? d
  return 4096 * a + 256 * b + 16 * c + d

/-- The character behind a one-letter escape. -/
def shortEscape? (c : Char) : Option Char :=
  match c.toNat with
  | 34 => some (Char.ofNat 34)
  | 92 => some (Char.ofNat 92)
  | 47 => some '/'
  | 98 => some (Char.ofNat 8)
  | 102 => some (Char.ofNat 12)
  | 110 => some '\n'
  | 114 => some '\r'
  | 116 => some '\t'
  | _ => none

/-- Joins the two halves of a code point beyond the first plane. -/
def joinHalves (high low : Nat) : Nat :=
  0x10000 + 1024 * (high - 0xd800) + (low - 0xdc00)

/-- Reads the rest of a text after its opening quote; the characters come last one first. -/
def readText (acc : List Char) : List Char → Option (String × List Char)
  | [] => none
  | c :: rest =>
    if c.toNat = 34 then some (String.ofList acc.reverse, rest)
    else if c.toNat < 32 then none
    else if c.toNat ≠ 92 then readText (c :: acc) rest
    else
      match rest with
      | 'u' :: a :: b :: x :: y :: rest =>
        match fourDigits? a b x y with
        | none => none
        | some n =>
          match rest with
          | s :: 'u' :: a' :: b' :: x' :: y' :: rest' =>
            match fourDigits? a' b' x' y' with
            | none => readText (Char.ofNat n :: acc) (s :: 'u' :: a' :: b' :: x' :: y' :: rest')
            | some low =>
              if s.toNat = 92 ∧ 0xd800 ≤ n ∧ n < 0xdc00 ∧ 0xdc00 ≤ low ∧ low < 0xe000 then
                readText (Char.ofNat (joinHalves n low) :: acc) rest'
              else readText (Char.ofNat n :: acc) (s :: 'u' :: a' :: b' :: x' :: y' :: rest')
          | rest => readText (Char.ofNat n :: acc) rest
      | e :: rest =>
        match shortEscape? e with
        | none => none
        | some c => readText (c :: acc) rest
      | [] => none
termination_by s => s.length

/-- A decimal digit of ASCII. -/
def isDigit (c : Char) : Bool :=
  48 ≤ c.toNat && c.toNat < 58

/-- The digits at the start of `s`, and the rest. -/
def spanDigits (s : List Char) : List Char × List Char :=
  (s.takeWhile isDigit, s.dropWhile isDigit)

/-- Skips a fraction, if there is one; the flag says so. -/
def skipFraction (s : List Char) : Bool × List Char :=
  match s with
  | '.' :: rest =>
    match spanDigits rest with
    | ([], _) => (false, s)
    | (_, rest) => (true, rest)
  | _ => (false, s)

/-- Skips an exponent, if there is one; the flag says so. -/
def skipExponent (s : List Char) : Bool × List Char :=
  match s with
  | c :: rest =>
    if c = 'e' ∨ c = 'E' then
      let unsigned :=
        match rest with
        | '+' :: r => r
        | '-' :: r => r
        | r => r
      match spanDigits unsigned with
      | ([], _) => (false, s)
      | (_, rest) => (true, rest)
    else (false, s)
  | [] => (false, s)

/-- Reads a number: a whole part without idle zeros, then a fraction and an exponent if present.
Whole numbers have at most `digitLimit` digits. -/
def readNumber (s : List Char) : Option (Json × List Char) :=
  let unsigned :=
    match s with
    | '-' :: rest => rest
    | _ => s
  let (whole, rest) :=
    match unsigned with
    | '0' :: rest => (['0'], rest)
    | _ => spanDigits unsigned
  if whole.isEmpty then none
  else
    let (fraction, rest) := skipFraction rest
    let (exponent, rest) := skipExponent rest
    if fraction || exponent then some (.number, rest)
    else if whole.length ≤ digitLimit then some (.number, rest)
    else none

/-! ## §2 Values -/

/-- The lists and objects that JSON nests. -/
inductive Nest where
  /-- A list. -/
  | list
  /-- An object. -/
  | record
  deriving DecidableEq, Repr

/-- What a list or object is called. -/
def Nest.name : Nest → String
  | .list => "array"
  | .record => "object"

/-- Why text is not read as JSON. -/
inductive Flaw where
  /-- It is no JSON. -/
  | malformed
  /-- It nests too deeply where such a list or object begins. -/
  | tooDeep (nest : Nest)
  deriving DecidableEq, Repr

/-- How many lists and objects may stand in each other. -/
def nestLimit : Nat := 980

/-- What was read, and the rest. -/
abbrev Reading (α : Type) := Except Flaw (α × List Char)

/-- A reading that may only fail for malformed text. -/
def Reading.ofOption {α : Type} : Option (α × List Char) → Reading α
  | some r => .ok r
  | none => .error .malformed

/-- The reading of a word or number. -/
def readPlain (s : List Char) : Option (Json × List Char) :=
  (after? "null".toList s).map (Json.null, ·)
    <|> (after? "true".toList s).map (Json.bool true, ·)
    <|> (after? "false".toList s).map (Json.bool false, ·)
    <|> (after? "NaN".toList s).map (Json.number, ·)
    <|> (after? "Infinity".toList s).map (Json.number, ·)
    <|> (after? "-Infinity".toList s).map (Json.number, ·)
    <|> readNumber s

mutual

/-- Reads a value that stands in `depth` others; `fuel` bounds the number of calls. -/
def readValue (depth : Nat) : Nat → List Char → Reading Json
  | 0, _ => .error .malformed
  | fuel + 1, s =>
    match s with
    | [] => .error .malformed
    | '[' :: rest =>
      if nestLimit ≤ depth then .error (.tooDeep .list)
      else
        match skipBlanks rest with
        | ']' :: rest => .ok (.list [], rest)
        | rest => (readItems (depth + 1) fuel rest).map fun (items, rest) => (.list items, rest)
    | c :: rest =>
      if c.toNat = 0x7b then
        if nestLimit ≤ depth then .error (.tooDeep .record)
        else
          match skipBlanks rest with
          | [] => .error .malformed
          | d :: rest' =>
            if d.toNat = 0x7d then .ok (.record, rest')
            else (readFields (depth + 1) fuel (d :: rest')).map (Json.record, ·)
      else if c.toNat = 34 then
        Reading.ofOption ((readText [] rest).map fun (t, rest) => (.text t, rest))
      else Reading.ofOption (readPlain s)

/-- Reads the items of a list up to its closing bracket. -/
def readItems (depth : Nat) : Nat → List Char → Reading (List Json)
  | 0, _ => .error .malformed
  | fuel + 1, s =>
    match readValue depth fuel s with
    | .error flaw => .error flaw
    | .ok (item, rest) =>
      match skipBlanks rest with
      | ']' :: rest => .ok ([item], rest)
      | ',' :: rest =>
        (readItems depth fuel (skipBlanks rest)).map fun (items, rest) => (item :: items, rest)
      | _ => .error .malformed

/-- Reads the fields of an object up to its closing brace. -/
def readFields (depth : Nat) : Nat → List Char → Except Flaw (List Char)
  | 0, _ => .error .malformed
  | fuel + 1, s =>
    match s with
    | q :: rest =>
      if q.toNat = 34 then
        match readText [] rest with
        | none => .error .malformed
        | some (_, rest) =>
          match skipBlanks rest with
          | ':' :: rest =>
            match readValue depth fuel (skipBlanks rest) with
            | .error flaw => .error flaw
            | .ok (_, rest) =>
              match skipBlanks rest with
              | ',' :: rest => readFields depth fuel (skipBlanks rest)
              | c :: rest => if c.toNat = 0x7d then .ok rest else .error .malformed
              | [] => .error .malformed
          | _ => .error .malformed
      else .error .malformed
    | [] => .error .malformed

end

/-- The value that the whole text spells. -/
def read (s : String) : Except Flaw Json :=
  let chars := skipBlanks s.toList
  match readValue 0 (2 * chars.length + 2) chars with
  | .ok (value, rest) => if (skipBlanks rest).isEmpty then .ok value else .error .malformed
  | .error flaw => .error flaw

end Json

end SectorDisk.Text
