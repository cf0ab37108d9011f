import SectorDisk.Console.Manual
import SectorDisk.Console.Words

/-!
# Invocations

Reading a command line: `Invocation.read` gives the keys and the request that the words spell, or
the `Stop` that ends reading.  Words are used in order, and the first that cannot be used decides;
missing arguments are reported before words that are left over.
-/

namespace SectorDisk.Console

/-! ## §1 Requests -/

/-- A command with its arguments. -/
inductive Request where
  /-- Show bytes. -/
  | read (offset length : Value)
  /-- Write bytes. -/
  | write (offset data : Value)
  /-- Protect a sector. -/
  | lock (sector : Value)
  /-- Lift the protection of a sector. -/
  | unlock (sector key : Value)
  /-- Show the protection of all sectors. -/
  | lockInfo
  /-- Erase a sector. -/
  | erase (sector : Value)
  /-- Copy a sector into the mirror. -/
  | mirror (sector : Value)
  /-- Write the mirror to a file. -/
  | backup (path : Value)
  /-- Show a sector. -/
  | dump (sector : Value)
  /-- Show the metrics. -/
  | metrics
  /-- Show all at work, with the given path for the backup. -/
  | demo (path : Option String)

/-- What the words behind a command came to. -/
structure Filled where
  /-- The arguments in order. -/
  arguments : List Value := []
  /-- The value of the option, if the form has one and it was given. -/
  option : Option String := none
  /-- The words that are left over. -/
  extras : List String := []

/-- The request of a command with its arguments. -/
def Verb.request (v : Verb) (filled : Filled) : Request :=
  let first := filled.arguments.headD .none
  let second := (filled.arguments.drop 1).headD .none
  match v with
  | read => .read first second
  | write => .write first second
  | lock => .lock first
  | unlock => .unlock first second
  | lockInfo => .lockInfo
  | erase => .erase first
  | mirror => .mirror first
  | backup => .backup first
  | dump => .dump first
  | metrics => .metrics
  | demo => .demo filled.option

/-! ## §2 Filling a form -/

namespace Filled

/-- One more argument. -/
def withArgument (filled : Filled) (v : Value) : Filled :=
  { filled with arguments := filled.arguments ++ [v] }

/-- The option with a value; the value `--` stands for no value at all. -/
def withOption (filled : Filled) (value : String) : Filled :=
  { filled with option := if value = dividerWord then none else some value }

/-- One more word left over. -/
def withExtra (filled : Filled) (word : String) : Filled :=
  { filled with extras := filled.extras ++ [word] }

end Filled

/-- Reads an argument. -/
def readArgument (f : Form) (a : Argument) (text : String) : Except Stop Value :=
  match a.reader.read text with
  | .ok v => .ok v
  | .error why => .error (.misuse f (.misread a.name why))

/-- Reads an argument that may be the word `--`, which stands for no value at all. -/
def readOrEmpty (f : Form) (a : Argument) (text : String) : Except Stop Value :=
  if text = dividerWord then .ok (.list []) else readArgument f a text

/-- Fills the arguments that are `left` from tokens.  `taken` says whether the token before was
taken as an argument; a divider is dropped behind such a token or before one. -/
def fill (f : Form) (filled : Filled) (left : List Argument) (taken : Bool) :
    List Token → Except Stop Filled
  | [] =>
    if left.isEmpty then .ok filled else .error (.misuse f (.missing (left.map (·.name))))
  | .argument word :: rest =>
    match left with
    | [] => fill f (filled.withExtra word) [] false rest
    | a :: left => do
      let v ← readOrEmpty f a word
      fill f (filled.withArgument v) left true rest
  | .divider :: rest =>
    if taken then fill f filled left false rest
    else
      match left, rest with
      | a :: left, .argument word :: rest => do
        let v ← readArgument f a word
        fill f (filled.withArgument v) left true rest
      | left, rest => fill f (filled.withExtra dividerWord) left false rest
  | .unknownOption word :: rest => fill f (filled.withExtra word) left false rest
  | .option _ switch spelling attached :: rest =>
    match wish switch spelling attached with
    | .error how => .error (.misuse f how)
    | .ok .help => .error (.help f)
    | .ok (.value _ text) => fill f (filled.withOption text) left false rest
    | .ok (.following name) =>
      match rest with
      | .argument word :: rest => fill f (filled.withOption word) left false rest
      | _ => .error (.misuse f (.needsValue (.valued name)))

/-- Fills a form from words. -/
def Form.fill (f : Form) (words : List String) : Except Stop Filled :=
  match tokens f words with
  | .error how => .error (.misuse f how)
  | .ok ts => Console.fill f {} f.arguments false ts

/-! ## §3 The whole command line -/

/-- What a command line asks for. -/
structure Invocation where
  /-- The keys, if they were given. -/
  keys : Option (List String) := none
  /-- The request, if there is a command. -/
  request : Option Request := none

namespace Invocation

/-- The invocation once all words are used; words left over are refused. -/
def finish (invocation : Invocation) (extras : List String) : Except Stop Invocation :=
  match extras with
  | [] => .ok invocation
  | _ => .error (.misuse programForm (.unrecognized extras))

/-- The invocation with the given keys; the text `--` stands for no keys. -/
def withKeys (invocation : Invocation) (text : String) : Except Stop Invocation :=
  if text = dividerWord then .ok { invocation with keys := some [] }
  else
    match readKeyList text with
    | .ok keys => .ok { invocation with keys := some keys }
    | .error why => .error (.misuse programForm (.misread keysOption (.refused why)))

/-- The invocation of a command; all words behind it belong to it. -/
def command (invocation : Invocation) (extras : List String) (word : String)
    (rest : List String) : Except Stop Invocation :=
  match Verb.ofWord? word with
  | none =>
    .error (.misuse programForm (.unknownCommand word (Verb.all.map Verb.word)))
  | some verb => do
    let filled ← verb.form.fill rest
    finish { invocation with request := some (verb.request filled) } (extras ++ filled.extras)

/-- Reads tokens up to the command. -/
def readTokens (invocation : Invocation) (extras : List String) :
    List Token → Except Stop Invocation
  | [] => finish invocation extras
  | .argument word :: rest => command invocation extras word (rest.map Token.word)
  | .divider :: rest =>
    match rest with
    | [] => finish invocation (extras ++ [dividerWord])
    | _ => command invocation extras dividerWord (rest.map Token.word)
  | .unknownOption word :: rest => readTokens invocation (extras ++ [word]) rest
  | .option _ switch spelling attached :: rest =>
    match wish switch spelling attached with
    | .error how => .error (.misuse programForm how)
    | .ok .help => .error (.help programForm)
    | .ok (.value _ text) => do
      let invocation ← invocation.withKeys text
      readTokens invocation extras rest
    | .ok (.following name) =>
      match rest with
      | .argument word :: rest => do
        let invocation ← invocation.withKeys word
        readTokens invocation extras rest
      | _ => .error (.misuse programForm (.needsValue (.valued name)))

/-- Reads a command line. -/
def read (words : List String) : Except Stop Invocation :=
  match tokens programForm words with
  | .error how => .error (.misuse programForm how)
  | .ok ts => readTokens {} [] ts

end Invocation

end SectorDisk.Console
