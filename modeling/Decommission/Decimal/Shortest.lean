/-!
# Shortest decimal text of a binary64 number

A binary64 number is written with the fewest digits that read back as the same number, and among
those with the ones nearest to it.  The search is exact: a number is `mantissa * 2 ^ power`, the
numbers that round to it form an interval, and on each decimal grid only the two neighbours of the
number can be in it first.
-/

namespace Decommission.Decimal

/-- The bit above the fraction field, which is not stored. -/
def hiddenBit : Nat := 0x10000000000000

/-- A positive binary64 number and the interval of the reals that round to it, in quarters of the
last place: the number is `4 * mantissa`, its neighbours' midpoints are `low` and `high`, and all
three are multiplied by `2 ^ power`. -/
structure Rounding where
  mantissa : Nat
  low : Nat
  high : Nat
  power : Int
  deriving Repr

namespace Rounding

/-- The rounding interval of the number with these fraction and exponent fields. -/
def ofFields (fraction exponent : Nat) : Rounding :=
  let mantissa := if exponent = 0 then fraction else fraction + hiddenBit
  let power : Int := (if exponent = 0 then 1 else (exponent : Int)) - 1077
  let narrow := fraction = 0 ∧ 1 < exponent
  { mantissa, low := 4 * mantissa - (if narrow then 1 else 2), high := 4 * mantissa + 2, power }

/-- A common scale: `x * 2 ^ power` is at most `d * 10 ^ grid` exactly if `x * a ≤ d * b`. -/
def scales (power grid : Int) : Nat × Nat :=
  (Nat.pow 2 power.toNat * Nat.pow 10 (-grid).toNat,
    Nat.pow 2 (-power).toNat * Nat.pow 10 grid.toNat)

/-- The point `digits * 10 ^ grid` rounds to the number. -/
def contains (r : Rounding) (grid : Int) (digits : Nat) : Bool :=
  let (a, b) := scales r.power grid
  if r.mantissa % 2 = 0 then r.low * a ≤ digits * b && digits * b ≤ r.high * a
  else r.low * a < digits * b && digits * b < r.high * a

/-- The point of the grid `10 ^ grid` that is nearest to the number among those that round to it. -/
def nearestOnGrid? (r : Rounding) (grid : Int) : Option Nat :=
  let (a, b) := scales r.power grid
  let number := 4 * r.mantissa * a
  let below := number / b
  let remainder := number % b
  let nearer := if 2 * remainder < b ∨ (2 * remainder = b ∧ below % 2 = 0) then below else below + 1
  let farther := if nearer = below then below + 1 else below
  if nearer ≠ 0 ∧ r.contains grid nearer then some nearer
  else if farther ≠ 0 ∧ r.contains grid farther then some farther
  else none

/-- The first grid with a hit, from `grid` downwards. -/
def search (r : Rounding) : Nat → Int → Nat × Int
  | 0, grid => (4 * r.mantissa, grid)
  | steps + 1, grid =>
      match r.nearestOnGrid? grid with
      | some digits => (digits, grid)
      | none => search r steps (grid - 1)

/-- The shortest digits and their power of ten.  No number has a point of `10 ^ 309` in its
interval, and 17 digits are always enough. -/
def shortest (r : Rounding) : Nat × Int :=
  let bits := (Nat.log2 (4 * r.mantissa) : Int) + r.power
  search r 22 (bits * 30103 / 100000 + 2)

end Rounding

structure Layout where
  /-- The least and the greatest decimal exponent that are written without an exponent part. -/
  leastPlain : Int
  greatestPlain : Int
  deriving Repr

/-- Numbers from 10^-5 up to below 10^16 are written plainly, and an exponent is not padded. -/
def Layout.message : Layout := ⟨-5, 15⟩

/-- Digits with the point behind the first `whole` of them. -/
def withPoint (digits : List Char) (whole : Nat) : String :=
  let padded := digits ++ List.replicate (whole - digits.length) '0'
  let fraction := padded.drop whole
  String.ofList (padded.take whole ++ '.' :: (if fraction.isEmpty then ['0'] else fraction))

def Layout.render (layout : Layout) (digits : Nat) (grid : Int) : String :=
  let all := Nat.toDigits 10 digits
  let exponent : Int := grid + all.length - 1
  let kept := (all.reverse.dropWhile (· = '0')).reverse
  if layout.leastPlain ≤ exponent ∧ exponent ≤ layout.greatestPlain then
    if 0 ≤ exponent then withPoint kept (exponent.toNat + 1)
    else "0." ++ String.ofList (List.replicate (-exponent - 1).toNat '0' ++ kept)
  else
    let sign := if exponent < 0 then "-" else "+"
    let mantissa := match kept with
      | [] => "0"
      | [digit] => String.ofList [digit]
      | digit :: rest => String.ofList (digit :: '.' :: rest)
    mantissa ++ "e" ++ sign ++ String.ofList (Nat.toDigits 10 exponent.natAbs)

def text (value : Float) : String :=
  let bits := value.toBits.toNat
  let sign := if bits / 0x8000000000000000 % 2 = 1 then "-" else ""
  let exponent := bits / hiddenBit % 0x800
  let fraction := bits % hiddenBit
  if exponent = 0 ∧ fraction = 0 then sign ++ "0.0"
  else
    let (digits, grid) := (Rounding.ofFields fraction exponent).shortest
    sign ++ Layout.message.render digits grid

end Decommission.Decimal
