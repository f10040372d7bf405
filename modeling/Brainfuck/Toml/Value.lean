import Brainfuck.Datum.Basic

/-!
# TOML values

A TOML document is a table of values by key.
-/

namespace Brainfuck

namespace Toml

/-- A value of a TOML document.  Dates and times keep their text. -/
inductive Value where
  | text (value : String)
  | integer (value : Int)
  | float (value : Float)
  | boolean (value : Bool)
  | dateTime (source : String)
  | array (items : List Value)
  | table (entries : List (String × Value))
  deriving Inhabited

namespace Value

/-- How a message names the type of a value. -/
def typeName : Value → String
  | text _ => "string"
  | integer _ => "integer"
  | float _ => "float"
  | boolean _ => "boolean"
  | dateTime _ => "datetime"
  | array _ => "array"
  | table _ => "table"

mutual

/-- Whether every integer in a value is a signed 64-bit word. -/
def hasWords : Value → Bool
  | integer value => -Int.pow 2 63 ≤ value && value < Int.pow 2 63
  | array items => itemsHaveWords items
  | table entries => entriesHaveWords entries
  | _ => true

def itemsHaveWords : List Value → Bool
  | [] => true
  | item :: rest => item.hasWords && itemsHaveWords rest

def entriesHaveWords : List (String × Value) → Bool
  | [] => true
  | (_, value) :: rest => value.hasWords && entriesHaveWords rest

end

mutual

/-- The value as generic data.  A date or time counts as a mapping. -/
def toDatum : Value → Datum
  | text value => .text value
  | integer value => .integer value
  | float value => .float value
  | boolean value => .boolean value
  | dateTime source => .mapping [("datetime", .text source)]
  | array items => .sequence (itemsToData items)
  | table entries => .mapping (entriesToData entries)

def itemsToData : List Value → List Datum
  | [] => []
  | item :: rest => item.toDatum :: itemsToData rest

def entriesToData : List (String × Value) → List (String × Datum)
  | [] => []
  | (key, value) :: rest => (key, value.toDatum) :: entriesToData rest

end

end Value

end Toml

end Brainfuck
