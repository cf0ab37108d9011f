import SectorDisk.Console.Form

/-!
# Words on a command line

Telling arguments from options.  A word that begins with `-` is an option, unless it is `-` alone, a
negative number or has a space in it.  Options may be shortened as long as one option is meant.
Behind the first word `--` all words are arguments.
-/

namespace SectorDisk.Console

/-! ## §1 Kinds of words -/

/-- What a single word is. -/
inductive WordKind where
  /-- An argument. -/
  | argument
  /-- An option of the form in the given spelling, with what is attached to it. -/
  | option (switch : Switch) (spelling : String) (attached : Option String)
  /-- An option that the form does not have. -/
  | unknownOption
  /-- A word that begins several options. -/
  | ambiguous (spellings : List String)

/-- A word in its place. -/
inductive Token where
  /-- An argument. -/
  | argument (word : String)
  /-- The first word `--`. -/
  | divider
  /-- An option of the form. -/
  | option (word : String) (switch : Switch) (spelling : String) (attached : Option String)
  /-- An option that the form does not have. -/
  | unknownOption (word : String)

/-- The word `--`. -/
def dividerWord : String := "--"

/-- The word of a token. -/
def Token.word : Token → String
  | .argument word => word
  | .divider => dividerWord
  | .option word .. => word
  | .unknownOption word => word

/-! ## §2 Judging a word -/

/-- Whether a character is a decimal digit of any script. -/
def isDigit (c : Char) : Bool :=
  (Text.digitValue? c).isSome

/-- A text without the line break at its end, if it ends with one. -/
def withoutLastBreak (cs : List Char) : List Char :=
  if cs.getLast? = some '\n' then cs.dropLast else cs

/-- Whether a text is a number without sign: digits, with or without a point and digits behind it;
before a point there may be none. -/
def isUnsigned (cs : List Char) : Bool :=
  let whole := cs.takeWhile isDigit
  match cs.dropWhile isDigit with
  | [] => !whole.isEmpty
  | c :: fraction => c = '.' && !fraction.isEmpty && fraction.all isDigit

/-- Whether a word looks like a negative number. -/
def isNegativeNumber (word : String) : Bool :=
  match withoutLastBreak word.toList with
  | '-' :: rest => isUnsigned rest
  | _ => false

/-- The part of a word before its first equals sign, and the part behind it if there is one. -/
def splitEquals (word : String) : String × Option String :=
  let head := word.toList.takeWhile (· ≠ '=')
  match word.toList.dropWhile (· ≠ '=') with
  | [] => (word, none)
  | _ :: tail => (String.ofList head, some (String.ofList tail))

/-- An option that a word may stand for. -/
structure Candidate where
  /-- The option. -/
  switch : Switch
  /-- Its spelling. -/
  spelling : String
  /-- What is attached to it in the same word. -/
  attached : Option String

/-- The options that a word with two dashes may be short for. -/
def longCandidates (f : Form) (word : String) : List Candidate :=
  let (head, tail) := splitEquals word
  (f.spellings.filter fun entry => head.toList.isPrefixOf entry.1.toList).map fun entry =>
    ⟨entry.2, entry.1, tail⟩

/-- The options that a word with one dash may stand for: one of a single letter with something
attached, or one that the word begins. -/
def shortCandidates (f : Form) (word : String) : List Candidate :=
  let letter := String.ofList (word.toList.take 2)
  let behind := String.ofList (word.toList.drop 2)
  f.spellings.filterMap fun entry =>
    if entry.1 = letter then some ⟨entry.2, entry.1, some behind⟩
    else if word.toList.isPrefixOf entry.1.toList then some ⟨entry.2, entry.1, none⟩
    else none

/-- The options that a word may be short for. -/
def candidates (f : Form) (word : String) : List Candidate :=
  match word.toList with
  | _ :: '-' :: _ => longCandidates f word
  | _ => shortCandidates f word

/-- What a word is that begins with a dash and is no exact spelling of an option. -/
def judgeDashed (f : Form) (word : String) : WordKind :=
  let (head, tail) := splitEquals word
  match tail, f.spellings.lookup head with
  | some value, some switch => .option switch head (some value)
  | _, _ =>
    match candidates f word with
    | [c] => .option c.switch c.spelling c.attached
    | _ :: _ :: _ => .ambiguous ((candidates f word).map (·.spelling))
    | [] =>
      if isNegativeNumber word || word.toList.contains ' ' then .argument else .unknownOption

/-- What a word is. -/
def judge (f : Form) (word : String) : WordKind :=
  if word.toList.head? ≠ some '-' then .argument
  else
    match f.spellings.lookup word with
    | some switch => .option switch word none
    | none => if word.length = 1 then .argument else judgeDashed f word

/-! ## §3 Judging a command line -/

/-- The tokens of a command line, unless a word is ambiguous. -/
def tokens (f : Form) : List String → Except Misuse (List Token)
  | [] => .ok []
  | word :: rest =>
    if word = dividerWord then .ok (.divider :: rest.map Token.argument)
    else
      match judge f word with
      | .argument => (tokens f rest).map (Token.argument word :: ·)
      | .option switch spelling attached =>
        (tokens f rest).map (Token.option word switch spelling attached :: ·)
      | .unknownOption => (tokens f rest).map (Token.unknownOption word :: ·)
      | .ambiguous spellings => .error (.ambiguous word spellings)

/-! ## §4 Using an option -/

/-- What an option asks for. -/
inductive Wish where
  /-- Help. -/
  | help
  /-- The given value. -/
  | value (spelling text : String)
  /-- A value that has to follow. -/
  | following (spelling : String)

/-- The letter of `-h` may be repeated behind it.  What is attached otherwise is a value, which the
option does not take. -/
def strayValue : List Char → Option String
  | ['h'] => none
  | 'h' :: tail => strayValue tail
  | text => some (String.ofList text)

/-- What an option asks for, with what is attached to it. -/
def wish (switch : Switch) (spelling : String) (attached : Option String) :
    Except Misuse Wish :=
  match switch, attached with
  | .help, none => .ok .help
  | .help, some text =>
    if spelling ≠ "-h" then .error (.ignoredValue .help text)
    else
      match strayValue text.toList with
      | some stray => .error (.ignoredValue .help stray)
      | none => .ok .help
  | .valued name, some text => .ok (.value name text)
  | .valued name, none => .ok (.following name)

end SectorDisk.Console
