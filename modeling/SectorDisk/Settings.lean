import SectorDisk.Failure
import SectorDisk.Text.Json
import SectorDisk.Text.LowerCase
import SectorDisk.Text.UpperCase

/-!
# Settings

The keys, the default path of backups and the level of logging.  Each comes from a named value given
by the caller, else from an environment variable whose name is read without regard to case, else
from a default.  The names that the caller gives are read without regard to case as well.  All
problems of all fields are reported together.
-/

namespace SectorDisk

/-! ## §1 Fields -/

/-- The settings of a device. -/
structure Settings where
  /-- The keys; none select the standard keyring. -/
  keys : List String := []
  /-- Where a demonstration writes its backup. -/
  backupPath : String := "/tmp/storage_backup.bin"
  /-- The least level of messages that are logged. -/
  logLevel : String := "INFO"
  deriving DecidableEq, Repr

/-- The fields of the settings. -/
inductive SettingsField where
  /-- The keys. -/
  | keys
  /-- The default path of backups. -/
  | backupPath
  /-- The level of logging. -/
  | logLevel
  deriving DecidableEq, Repr

/-- The name of a field. -/
def SettingsField.name : SettingsField → String
  | .keys => "keys"
  | .backupPath => "backup_path"
  | .logLevel => "log_level"

/-- All fields. -/
def settingsFields : List SettingsField :=
  [.keys, .backupPath, .logLevel]

/-- Whether a name given by a caller stands for a field. -/
def SettingsField.isCalled (f : SettingsField) (name : String) : Bool :=
  Text.lowerAscii name = f.name

/-- The environment variable of a field, in small letters. -/
def SettingsField.environmentName (f : SettingsField) : String :=
  "sectorstore_" ++ f.name

/-! ## §2 Problems -/

/-- What is wrong with a value. -/
inductive SettingsDefect where
  /-- It is no list. -/
  | notList
  /-- It is no text. -/
  | notText
  /-- It is bytes that are no UTF-8, or a text that has none. -/
  | notUnicode
  /-- It breaks a rule that the text states. -/
  | rule (text : String)
  /-- There is no field of that name. -/
  | extra
  deriving DecidableEq, Repr

/-- The short name of a defect. -/
def SettingsDefect.code : SettingsDefect → String
  | .notList => "list_type"
  | .notText => "string_type"
  | .notUnicode => "string_unicode"
  | .rule _ => "value_error"
  | .extra => "extra_forbidden"

/-- The text of a defect. -/
def SettingsDefect.message : SettingsDefect → String
  | .notList => "Input should be a valid list"
  | .notText => "Input should be a valid string"
  | .notUnicode =>
    "Input should be a valid string, unable to parse raw data as a unicode string"
  | .rule text => "Value error, " ++ text
  | .extra => "Extra inputs are not permitted"

/-- A defect and where it is: a field, and the index in its list where the list is at fault. -/
structure SettingsProblem where
  /-- The name of the field. -/
  field : String
  /-- The place in a list. -/
  index : Option Nat
  /-- What is wrong. -/
  defect : SettingsDefect
  deriving DecidableEq, Repr

/-- Why there are no settings. -/
inductive SettingsFailure where
  /-- A variable cannot be read at all. -/
  | unreadable (cause : Failure)
  /-- Values are wrong. -/
  | invalid (problems : List SettingsProblem)

/-! ## §3 Judging values -/

/-- The text that a value gives: a text itself, bytes in UTF-8, a command its code. -/
def settingsText (v : Value) : Except SettingsDefect String :=
  match v with
  | .string s => .ok s
  | .torn _ => .error .notUnicode
  | .bytes .view _ => .error .notText
  | .bytes _ data =>
    match Text.Utf8.decode data with
    | .ok s => .ok s
    | .error _ => .error .notUnicode
  | .command c => .ok (toString c.code)
  | _ => .error .notText

/-- The items of a value that passes as a list. -/
def settingsItems? (v : Value) : Option (List Value) :=
  match v with
  | .list items => some items
  | .bytes .view _ => v.elements?
  | .view _ => v.elements?
  | _ => none

/-- What is wrong with a key, if anything is. -/
def keyRule? (key : String) : Option String :=
  match key.toList with
  | [c] =>
    if c.toNat < 256 then none
    else some ("key " ++ Text.quoted key ++ " does not fit in a single byte")
  | _ => some ("key " ++ Text.quoted key ++ " is not a single character")

/-- What is wrong with a list of keys, if anything is. -/
def keysRule? (keys : List String) : Option String :=
  if keyLimit < keys.length then some ("at most " ++ toString keyLimit ++ " keys may be configured")
  else keys.findSome? keyRule?

/-- The problems of the items of a list, by place. -/
def itemProblems (index : Nat) : List Value → List SettingsProblem
  | [] => []
  | v :: rest =>
    match settingsText v with
    | .ok _ => itemProblems (index + 1) rest
    | .error defect => ⟨"keys", some index, defect⟩ :: itemProblems (index + 1) rest

/-- The texts of the items that are texts. -/
def itemTexts (items : List Value) : List String :=
  items.filterMap fun v => (settingsText v).toOption

/-- Judges the keys. -/
def readKeysSetting (v : Value) : Except (List SettingsProblem) (List String) :=
  match settingsItems? v with
  | none => .error [⟨"keys", none, .notList⟩]
  | some items =>
    match itemProblems 0 items with
    | [] =>
      match keysRule? (itemTexts items) with
      | none => .ok (itemTexts items)
      | some text => .error [⟨"keys", none, .rule text⟩]
    | problems => .error problems

/-- Judges a field that holds a text. -/
def readTextSetting (field : SettingsField) (v : Value) :
    Except (List SettingsProblem) String :=
  match settingsText v with
  | .ok s => .ok s
  | .error defect => .error [⟨field.name, none, defect⟩]

/-! ## §4 Sources -/

mutual

/-- The value that a JSON value gives.  Only texts and lists can pass as settings, so of the other
kinds nothing is kept. -/
def ofJson : Text.Json → Value
  | .text s => .string s
  | .list items => .list (ofJsons items)
  | _ => .none

/-- The values that JSON values give. -/
def ofJsons : List Text.Json → List Value
  | [] => []
  | item :: rest => ofJson item :: ofJsons rest

end

/-- The text of an environment variable; of several spellings the last counts. -/
def environment? (env : List (String × String)) (field : SettingsField) : Option String :=
  let sets (entry : String × String) : Bool :=
    decide (Text.lowerAscii entry.1 = field.environmentName)
  (env.reverse.find? sets).map (·.2)

/-- The value given for a field; of several spellings the first counts. -/
def givenValue? (given : List (String × Value)) (field : SettingsField) : Option Value :=
  (given.find? fun entry => field.isCalled entry.1).map (·.2)

/-- The given names that stand for no field. -/
def extraNames (given : List (String × Value)) : List String :=
  (given.map (·.1)).filter fun name => !settingsFields.any (·.isCalled name)

/-- The keys of the environment, written as JSON; the word `null` counts as not set. -/
def environmentKeys (env : List (String × String)) : Except SettingsFailure (Option Value) :=
  match environment? env .keys with
  | none => .ok none
  | some text =>
    match Text.Json.read text with
    | .error flaw => .error (.unreadable (.unreadableKeys flaw))
    | .ok .null => .ok none
    | .ok json => .ok (some (ofJson json))

/-- A judged value, or the default where no value was given. -/
def orDefault {α : Type} (default : α) (judge : Value → Except (List SettingsProblem) α) :
    Option Value → Except (List SettingsProblem) α
  | none => .ok default
  | some v => judge v

/-- The problems of a judged value. -/
def problemsOf {α : Type} : Except (List SettingsProblem) α → List SettingsProblem
  | .ok _ => []
  | .error problems => problems

/-- The settings from given values and the environment. -/
def Settings.load (given : List (String × Value)) (env : List (String × String)) :
    Except SettingsFailure Settings := do
  let fromEnv ← environmentKeys env
  let source (field : SettingsField) : Option Value :=
    givenValue? given field <|> (environment? env field).map Value.string
  let keys := orDefault [] readKeysSetting (givenValue? given .keys <|> fromEnv)
  let path := orDefault ({} : Settings).backupPath (readTextSetting .backupPath)
    (source .backupPath)
  let level := orDefault ({} : Settings).logLevel
    (fun v => (readTextSetting .logLevel v).map Text.upper) (source .logLevel)
  let extras := (extraNames given).map fun name => (⟨name, none, .extra⟩ : SettingsProblem)
  match keys, path, level, extras with
  | .ok keys, .ok path, .ok level, [] => return ⟨keys, path, level⟩
  | keys, path, level, extras =>
    throw (.invalid (problemsOf keys ++ problemsOf path ++ problemsOf level ++ extras))

end SectorDisk
