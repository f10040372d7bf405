import Brainfuck.Decimal.Shortest
import Brainfuck.Text.Quoted

/-!
# Generic data

Values of the kind that data formats exchange, and the readers that turn them
into scalars, lists and named variants.  A reader that meets the wrong shape
says what it found and what it expected.
-/

namespace Brainfuck

inductive Datum where
  | null
  | boolean (value : Bool)
  | integer (value : Int)
  | float (value : Float)
  | text (value : String)
  | sequence (items : List Datum)
  | mapping (entries : List (String × Datum))
  deriving Inhabited

namespace Datum

/-- How a message names a value. -/
def description : Datum → String
  | null => "null"
  | boolean value => "boolean `" ++ (if value then "true" else "false") ++ "`"
  | integer value => "integer `" ++ toString value ++ "`"
  | float value => "floating point `" ++ Decimal.text value ++ "`"
  | text value => "string " ++ Text.quoted value
  | sequence _ => "sequence"
  | mapping _ => "map"

end Datum

inductive Mismatch where
  /-- The value has a shape of its own that does not fit. -/
  | wrongType (found : Datum) (expected : String)
  /-- The shape fits, but not this value. -/
  | wrongValue (found : Datum) (expected : String)
  /-- A name that is not among the variants. -/
  | unknownVariant (name : String) (variants : List String)
  | missingField (name : String)
  /-- A record written as a sequence that ends too early. -/
  | tooShort (length : Nat) (expected : String)
  /-- A record written as a sequence with further elements. -/
  | tooLong (length : Nat)

namespace Mismatch

/-- The enumeration of the variants that a message ends with. -/
def variantList (variants : List String) : String :=
  match variants.map fun name => "`" ++ name ++ "`" with
  | [] => "there are no variants"
  | [only] => "expected " ++ only
  | [first, second] => "expected " ++ first ++ " or " ++ second
  | several => "expected one of " ++ String.intercalate ", " several

def message : Mismatch → String
  | wrongType found expected =>
      "invalid type: " ++ found.description ++ ", expected " ++ expected
  | wrongValue found expected =>
      let description :=
        match found with
        | .mapping _ => "map"
        | other => other.description
      "invalid value: " ++ description ++ ", expected " ++ expected
  | unknownVariant name variants =>
      "unknown variant `" ++ name ++ "`, " ++ variantList variants
  | missingField name => "missing field `" ++ name ++ "`"
  | tooShort length expected =>
      "invalid length " ++ toString length ++ ", expected " ++ expected
  | tooLong length =>
      "invalid length " ++ toString length ++ ", expected fewer elements in array"

end Mismatch

namespace Datum

/-- Read a natural number below `2 ^ 64`; `expected` names its type. -/
def readNatural (expected : String) : Datum → Except Mismatch Nat
  | integer value =>
      if 0 ≤ value && value < UInt64.size then .ok value.toNat
      else .error (.wrongValue (integer value) expected)
  | other => .error (.wrongType other expected)

def readText : Datum → Except Mismatch String
  | text value => .ok value
  | other => .error (.wrongType other "a string")

def readPath : Datum → Except Mismatch String
  | text value => .ok value
  | other => .error (.wrongType other "path string")

/-- Read a list.  Elements are read in order and the first bad one decides. -/
def readList {α : Type} (readItem : Datum → Except Mismatch α) :
    Datum → Except Mismatch (List α)
  | sequence items => items.mapM readItem
  | other => .error (.wrongType other "a sequence")

def findVariant {α : Type} (nameOf : α → String) (variants : List α) (name : String) :
    Except Mismatch α :=
  match variants.find? fun variant => nameOf variant = name with
  | some variant => .ok variant
  | none => .error (.unknownVariant name (variants.map nameOf))

/-- Read one of several named variants: its name, or a mapping from its name to
nothing. -/
def readVariant {α : Type} (nameOf : α → String) (variants : List α) :
    Datum → Except Mismatch α
  | text name => findVariant nameOf variants name
  | mapping [(name, payload)] =>
      match findVariant nameOf variants name, payload with
      | .ok variant, null => .ok variant
      | .ok _, other => .error (.wrongType other "unit")
      | .error mismatch, _ => .error mismatch
  | mapping entries => .error (.wrongValue (mapping entries) "map with a single key")
  | other => .error (.wrongType other "string or map")

end Datum

end Brainfuck
