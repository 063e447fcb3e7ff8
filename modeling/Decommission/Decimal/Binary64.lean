/-!
# Decimal numbers as binary64

A decimal number is a significand below 2^64 and a power of ten.  Its binary64 value is the
significand, rounded, times or over the power of ten, rounded again; powers out of the table are
reached by dividing by 10^308 until nothing is left.
-/

namespace Decommission.Decimal

/-- The greatest power of ten that is taken in one step. -/
def greatestPower : Nat := 308

def powerOfTen (n : Nat) : Float := Float.ofScientific 1 false n

/-- Scales `value` by a power of ten in at most `steps` divisions; `none` when the result is out of
range. -/
def scale (value : Float) : Nat → Int → Option Float
  | 0, _ => some value
  | steps + 1, exponent =>
      if exponent.natAbs ≤ greatestPower then
        if 0 ≤ exponent then
          let scaled := value * powerOfTen exponent.natAbs
          if scaled.isInf then none else some scaled
        else some (value / powerOfTen exponent.natAbs)
      else if value == 0 then some value
      else if 0 ≤ exponent then none
      else scale (value / powerOfTen greatestPower) steps (exponent + greatestPower)

/-- The binary64 value of `significand * 10 ^ exponent`, or `none` when that is out of range.  Three
divisions by 10^308 turn every significand into zero, so four steps are enough. -/
def toBinary64? (negative : Bool) (significand : UInt64) (exponent : Int) : Option Float :=
  (scale significand.toFloat 4 exponent).map fun value => if negative then -value else value

end Decommission.Decimal
