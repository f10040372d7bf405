/-!
# Shortest decimal texts

A binary floating-point number stands for every real number that rounds to it.
Its decimal text is taken from the coarsest grid of multiples of a power of
ten that has a point among those reals; of two such points the nearer one is
chosen.  The text is positional, without an exponent, and always has a point.
-/

namespace Brainfuck

namespace Decimal

/-- The positive number `mantissa * 2 ^ exponent`.  `isBoundary` marks a
number whose lower neighbour is half as far away as its upper one. -/
structure Binary where
  mantissa : Nat
  exponent : Int
  isBoundary : Bool

/-- The number `digits * 10 ^ exponent`. -/
structure Scaled where
  digits : Nat
  exponent : Int
  deriving DecidableEq

namespace Binary

/-- The nearest point of the grid of multiples of `10 ^ grid` that rounds to
the number.  All quantities are counted in quarters of the last binary place
and brought to a common denominator. -/
def gridPoint? (number : Binary) (grid : Int) : Option Scaled :=
  let quarter := number.exponent - 2
  let scale := Nat.pow 2 quarter.toNat * Nat.pow 10 (-grid).toNat
  let denominator := Nat.pow 2 (-quarter).toNat * Nat.pow 10 grid.toNat
  let value := 4 * number.mantissa * scale
  let lowest :=
    (4 * number.mantissa - (if number.isBoundary then 1 else 2)) * scale
  let highest := (4 * number.mantissa + 2) * scale
  let roundsTo (digits : Nat) : Bool :=
    let point := digits * denominator
    if number.mantissa % 2 = 0 then lowest ≤ point && point ≤ highest
    else lowest < point && point < highest
  let below := value / denominator
  let remainder := value % denominator
  let (nearer, farther) :=
    if 2 * remainder < denominator then (below, below + 1) else (below + 1, below)
  if nearer ≠ 0 && roundsTo nearer then some ⟨nearer, grid⟩
  else if farther ≠ 0 && roundsTo farther then some ⟨farther, grid⟩
  else none

/-- The point of the coarsest grid that rounds to the number.  The grids run
from above the largest double-precision number to below the smallest. -/
def shortest (number : Binary) : Scaled :=
  let grids := (List.range 640).map fun step : Nat => (309 : Int) - step
  (grids.findSome? number.gridPoint?).getD ⟨0, 0⟩

end Binary

/-- The digits of a scaled number, written positionally with a point. -/
def Scaled.positional (number : Scaled) : String :=
  let digits := toString number.digits
  if 0 ≤ number.exponent then
    digits ++ String.ofList (List.replicate number.exponent.toNat '0') ++ ".0"
  else
    let places := (-number.exponent).toNat
    let padded := List.replicate (places + 1 - digits.length) '0' ++ digits.toList
    let whole := padded.length - places
    String.ofList (padded.take whole) ++ "." ++ String.ofList (padded.drop whole)

def text (number : Float) : String :=
  let bits := number.toBits.toNat
  let fraction := bits % Nat.pow 2 52
  let biased := bits / Nat.pow 2 52 % Nat.pow 2 11
  let sign := if bits / Nat.pow 2 63 = 1 then "-" else ""
  if biased = 2047 then
    if fraction = 0 then sign ++ "inf" else "NaN"
  else if biased = 0 then
    if fraction = 0 then sign ++ "0.0"
    else sign ++ (Binary.mk fraction (-1074) false).shortest.positional
  else
    let number : Binary :=
      { mantissa := Nat.pow 2 52 + fraction
        exponent := Int.ofNat biased - 1075
        isBoundary := fraction = 0 && biased ≠ 1 }
    sign ++ number.shortest.positional

end Decimal

end Brainfuck
