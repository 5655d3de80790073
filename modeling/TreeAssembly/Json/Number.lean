import TreeAssembly.Decimal.Scaled

/-!
# Which JSON numbers are in range

A JSON reader that keeps a number in a 64-bit significand and a 32-bit exponent refuses
some numbers that the grammar allows: those whose value, read by scaling
(`Decimal.scaledReading`), would be infinite.  It reads a number as follows.

* Digits go into the significand while they fit below `2^64`.  A whole-part digit that
  does not fit, and every whole-part digit after it, multiplies by ten instead; a
  fraction digit that does not fit ends the fraction, and the digits after it are
  dropped.  A fraction digit that fits divides by ten.
* The exponent's digits go into a signed 32-bit number.  If they do not fit, the number
  is zero when the significand is zero or the exponent negative, and refused otherwise.
  Otherwise the exponent is added to the count from the digits, saturating at the
  32-bit bounds.
* An integer with neither fraction nor exponent whose digits all fit is kept exactly.
  Every other number is read by scaling, and it is refused when the significand is not
  zero and the scaled value overflows: for an exponent past 308 always, and otherwise
  when the rounded product of the significand and the power of ten is infinite.
-/

namespace TreeAssembly
namespace Json

/-- The largest significand. -/
def significandLimit : Nat := Nat.pow 2 64 - 1

/-- The largest exponent. -/
def exponentLimit : Nat := Nat.pow 2 31 - 1

/-- Whether appending the digit `d` to `s` passes `limit`. -/
def appendPasses (s d limit : Nat) : Bool :=
  s ≥ limit / 10 && (s > limit / 10 || d > limit % 10)

/-- Appends digits to `s` while they fit below `limit`: the result, and how many digits
are left when one does not fit. -/
def accumulate (limit s : Nat) : List Nat → Nat × Nat
  | [] => (s, 0)
  | d :: ds => if appendPasses s d limit then (s, ds.length + 1) else accumulate limit (s * 10 + d) ds

/-- Whether `s · 10^e` stays finite when read by scaling. -/
def scaledFits (s : Nat) (e : Int) : Bool :=
  if s = 0 || e < 0 then true
  else if e > 308 then false
  else Decimal.timesDouble (Decimal.nearestDouble s 1) (Decimal.powerOfTen e.toNat) !=
    Ieee.Format.binary64.infinityBits false

/-- An integer clamped to the signed 32-bit range. -/
def saturate (e : Int) : Int := max (-(Nat.pow 2 31 : Int)) (min e (Nat.pow 2 31 - 1))

/-- Whether a number with these digits is in range: `whole` and `fraction` are the digits
before and after the point, `exponent` the exponent's sign (true for positive) and
digits, if any. -/
def inRange (whole fraction : List Nat) (exponent : Option (Bool × List Nat)) : Bool :=
  let (s, extra) := accumulate significandLimit 0 whole
  let (s, dropped) := accumulate significandLimit s fraction
  let base : Int := (extra : Int) - ((fraction.length - dropped : Nat) : Int)
  match exponent with
  | none => (fraction.isEmpty && extra == 0) || scaledFits s base
  | some (positive, ds) =>
    match accumulate exponentLimit 0 ds with
    | (e, 0) => scaledFits s (saturate (if positive then base + e else base - e))
    | _ => !(s != 0 && positive)

end Json
end TreeAssembly
