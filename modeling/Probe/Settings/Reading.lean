import Probe.Decimal.Floating
import Probe.Settings.Basic
import Probe.Text.Quoted
import Probe.Toml.Document

namespace Probe

inductive SettingsError where
  /-- The text is no document. -/
  | malformed
  | unknownKey (key : String) (known : List String)
  | wrongKind (found expected : String)
  | wrongValue (found expected : String)
  /-- There is no file under the path. -/
  | missing (path : String)
  /-- The file under the path is no text. -/
  | notText (path : String)
  deriving Repr, DecidableEq

namespace SettingsError

def oneOf : List String → String
  | [a, b] => "`" ++ a ++ "` or `" ++ b ++ "`"
  | names => "one of " ++ ", ".intercalate (names.map fun name => "`" ++ name ++ "`")

/-- What is wrong, for errors within the text of a file. -/
def cause : SettingsError → String
  | malformed => "invalid document"
  | unknownKey key known => "unknown field `" ++ key ++ "`, expected " ++ oneOf known
  | wrongKind found expected => "invalid type: " ++ found ++ ", expected " ++ expected
  | wrongValue found expected => "invalid value: " ++ found ++ ", expected " ++ expected
  | missing _ => "No such file or directory (os error 2)"
  | notText _ => "stream did not contain valid UTF-8"

def message (e : SettingsError) : String :=
  match e with
  | missing path | notText path => "failed to read config file " ++ path ++ ": " ++ e.cause
  | _ => "failed to parse toml config: " ++ e.cause

end SettingsError

namespace Toml.Item

/-- The kind and, for a plain value, the value in a message. -/
def describe : Item → String
  | text s => "string " ++ Text.quoted s
  | integer n => "integer `" ++ toString n ++ "`"
  | float x =>
    let digits := (Decimal.plain x).toList
    let shown := if x.isFinite then Decimal.withPoint digits else digits
    "floating point `" ++ String.ofList shown ++ "`"
  | boolean b => "boolean `" ++ toString b ++ "`"
  | list _ | tables _ => "sequence"
  | moment | inline _ | table .. => "map"

def wrongKind {α : Type} (item : Item) (expected : String) : Except SettingsError α :=
  .error (.wrongKind item.describe expected)

def toNat (item : Item) (expected : String) : Except SettingsError Nat :=
  match item with
  | integer (.ofNat n) => .ok n
  | integer n => .error (.wrongValue (describe (integer n)) expected)
  | item => item.wrongKind expected

def toText : Item → Except SettingsError String
  | text s => .ok s
  | item => item.wrongKind "a string"

def toBool : Item → Except SettingsError Bool
  | boolean b => .ok b
  | item => item.wrongKind "a boolean"

end Toml.Item

namespace LogSettings

def keys : List String := ["level", "json"]

/-- The settings with one of them changed by an entry. -/
def enter (s : LogSettings) (key : String) (item : Toml.Item) :
    Except SettingsError LogSettings :=
  match key with
  | "level" => do return { s with level := ← item.toText }
  | "json" => do return { s with json := ← item.toBool }
  | key => .error (.unknownKey key keys)

def ofEntries (entries : Toml.Entries) : Except SettingsError LogSettings :=
  entries.foldlM (fun s e => s.enter e.1 e.2) {}

/-- Settings in the order of their keys; what is left out keeps its default. -/
def ofList (items : List Toml.Item) : Except SettingsError LogSettings :=
  ofEntries (keys.zip items)

/-- The key under which a date or time counts as a table. -/
def momentKey : String := "$__toml_private_datetime"

def ofItem : Toml.Item → Except SettingsError LogSettings
  | .inline entries => ofEntries entries
  | .table _ entries => ofEntries entries
  | .list items => ofList items
  | .tables rows => ofList (rows.map (.table .header))
  | .moment => .error (.unknownKey momentKey keys)
  | item => item.wrongKind "struct LoggingConfig"

end LogSettings

namespace Settings

def keys : List String := ["timeout_ms", "max_operand_stack", "logging"]

/-- The settings with one of them changed by an entry. -/
def enter (s : Settings) (key : String) (item : Toml.Item) : Except SettingsError Settings :=
  match key with
  | "timeout_ms" => do return { s with timeoutMs := some (← item.toNat "u64") }
  | "max_operand_stack" => do return { s with maxOperandStack := ← item.toNat "usize" }
  | "logging" => do return { s with logging := ← LogSettings.ofItem item }
  | key => .error (.unknownKey key keys)

/-- The settings that a text asks for; what it leaves out keeps its default. -/
def ofText (text : String) : Except SettingsError Settings :=
  match Toml.parse? text with
  | none => .error .malformed
  | some entries => entries.foldlM (fun s e => s.enter e.1 e.2) {}

/-- The settings in a file with the given content, if there is such a file. -/
def ofFile (path : String) (content : Option ByteArray) : Except SettingsError Settings :=
  match content with
  | none => .error (.missing path)
  | some bytes =>
    match String.fromUTF8? bytes with
    | none => .error (.notText path)
    | some text => ofText text

end Settings

end Probe
