import Brainfuck.Datum.Codec
import Brainfuck.Toml.Parser

/-!
# Settings

The settings of the command line come from a TOML file or from generic data.
A setting that is not given keeps its default, and keys of other names are
ignored.
-/

namespace Brainfuck

structure Settings where
  tapeLength : TapeLength := TapeLength.standard
  dialect : Dialect := .c
  logFilter : String := "info"
  logDirectory : Option String := none
  deriving DecidableEq

/-- Why the value of a setting in a TOML file does not fit. -/
inductive SettingsMismatch where
  | datum (mismatch : Mismatch)
  /-- The dialect is neither a name nor a table. -/
  | notAVariant
  /-- The dialect is a table with no key. -/
  | noVariant
  /-- The dialect is a table with several keys. -/
  | severalVariants
  /-- The dialect is a table with one key, but not one of an empty table. -/
  | payload (found : Toml.Value)

namespace SettingsMismatch

def message : SettingsMismatch → String
  | datum mismatch => mismatch.message
  | notAVariant => "wanted string or table"
  | noVariant => "wanted exactly 1 element, found 0 elements"
  | severalVariants => "wanted exactly 1 element, more than 1 element"
  | payload found =>
      match found with
      | .table _ => "expected empty table"
      | .array _ => "expected empty array"
      | other => "expected table, found " ++ other.typeName

end SettingsMismatch

namespace Settings

/-- The keys of the settings, in the order of their declaration. -/
def keys : List String :=
  ["tape_length", "dialect", "log_filter", "log_dir"]

def set (settings : Settings) (key : String) (value : Datum) : Except Mismatch Settings :=
  match key with
  | "tape_length" => do return { settings with tapeLength := ← TapeLength.ofDatum value }
  | "dialect" => do return { settings with dialect := ← Dialect.ofDatum value }
  | "log_filter" => do return { settings with logFilter := ← value.readText }
  | "log_dir" =>
      match value with
      | .null => return { settings with logDirectory := none }
      | value => do return { settings with logDirectory := some (← value.readPath) }
  | _ => return settings

/-- Read settings from generic data: a mapping, or a sequence in the order of
the keys, which may end early. -/
def ofDatum : Datum → Except Mismatch Settings
  | .mapping entries => entries.foldlM (fun settings (key, value) => settings.set key value) {}
  | .sequence items => do
      let settings ←
        (keys.zip items).foldlM (fun settings (key, value) => settings.set key value) {}
      if keys.length < items.length then
        throw (.tooLong items.length)
      return settings
  | other => .error (.wrongType other "struct Config")

/-- The settings as generic data; a log directory that is not set is left out. -/
def toDatum (settings : Settings) : Datum :=
  .mapping <|
    [("tape_length", settings.tapeLength.toDatum),
     ("dialect", settings.dialect.toDatum),
     ("log_filter", .text settings.logFilter)]
      ++ settings.logDirectory.toList.map fun path => ("log_dir", .text path)

/-- Read the dialect in a TOML file: its name, or a table whose only key is its
name. -/
def readDialect : Toml.Value → Except SettingsMismatch Dialect
  | .text name => (Datum.findVariant Dialect.key Dialect.all name).mapError .datum
  | .table [] => .error .noVariant
  | .table [(name, payload)] =>
      match Datum.findVariant Dialect.key Dialect.all name with
      | .error mismatch => .error (.datum mismatch)
      | .ok dialect =>
          match payload with
          | .table [] => .ok dialect
          | .array [] => .ok dialect
          | other => .error (.payload other)
  | .table _ => .error .severalVariants
  | _ => .error .notAVariant

def setFromToml (settings : Settings) (key : String) (value : Toml.Value) :
    Except SettingsMismatch Settings :=
  if key = "dialect" then do
    return { settings with dialect := ← readDialect value }
  else (settings.set key value.toDatum).mapError .datum

/-- Read settings from the entries of a TOML file.  The keys are looked at in
alphabetical order, and the first value that does not fit decides. -/
def ofToml (entries : List (String × Toml.Value)) : Except SettingsMismatch Settings :=
  ["dialect", "log_dir", "log_filter", "tape_length"].foldlM
    (fun settings key =>
      match entries.lookup key with
      | some value => settings.setFromToml key value
      | none => .ok settings)
    {}

def override (settings : Settings) (tapeLength : Option TapeLength) (dialect : Option Dialect) :
    Settings :=
  { settings with
    tapeLength := tapeLength.getD settings.tapeLength
    dialect := dialect.getD settings.dialect }

end Settings

end Brainfuck
