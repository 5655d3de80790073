import TreeAssembly.Decimal.Reading

/-!
# Reading a decimal by scaling

A quick way to read `digits · 10^exponent` in double precision, used by many JSON
readers: round the digits to a double, then multiply by the double nearest to
`10^exponent`, or divide by the double nearest to `10^-exponent`, rounding once more.
Exponents below `-308` first divide by `10^308` (while the value is not zero) until the
rest is in range; a positive exponent past `308`, or a product that overflows, is an
error.

The two roundings make this reading differ from the nearest double in the last place
for some texts: `1e-45` reads as the double just above the nearest one, since `10^45`
is not a double.
-/

namespace TreeAssembly
namespace Decimal

open Ieee

/-- The exact value of a finite nonnegative double, as a numerator and denominator. -/
def ratio (bits : Nat) : Nat × Nat :=
  match Format.binary64.decode bits with
  | .finite _ m q => if 0 ≤ q then (m * Nat.pow 2 q.toNat, 1) else (m, Nat.pow 2 (-q).toNat)
  | _ => (0, 1)

/-- The double nearest to `num / den`, for a nonnegative `num` and positive `den`. -/
def nearestDouble (num den : Nat) : Nat :=
  if num = 0 then 0 else Format.binary64.nearest false num den

/-- The double nearest to `10^k`. -/
def powerOfTen (k : Nat) : Nat := nearestDouble (Nat.pow 10 k) 1

/-- `x · y` rounded, for finite nonnegative doubles. -/
def timesDouble (x y : Nat) : Nat :=
  let (a, b) := ratio x
  let (c, d) := ratio y
  nearestDouble (a * c) (b * d)

/-- `x / y` rounded, for finite nonnegative doubles with `y` not zero. -/
def overDouble (x y : Nat) : Nat :=
  let (a, b) := ratio x
  let (c, d) := ratio y
  nearestDouble (a * d) (b * c)

/-- Scales the double `x` by `10^exponent` as the quick reading does, with `fuel` rounds
of division by `10^308`. -/
def scale (x : Nat) (exponent : Int) : (fuel : Nat) → Option Nat
  | 0 => none
  | fuel + 1 =>
    if exponent.natAbs ≤ 308 then
      if 0 ≤ exponent then
        let y := timesDouble x (powerOfTen exponent.toNat)
        if y = Format.binary64.infinityBits false then none else some y
      else some (overDouble x (powerOfTen exponent.natAbs))
    else if x = 0 then some 0
    else if 0 ≤ exponent then none
    else scale (overDouble x (powerOfTen 308)) (exponent + 308) fuel

/-- The bit pattern of `± digits · 10^exponent` read by scaling, or none when it
overflows. -/
def scaledReading (neg : Bool) (digits : Nat) (exponent : Int) : Option Nat :=
  (scale (nearestDouble digits 1) exponent (exponent.natAbs / 308 + 2)).map fun bits =>
    if neg then bits + Format.binary64.signBit else bits

end Decimal
end TreeAssembly
