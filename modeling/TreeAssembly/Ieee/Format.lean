/-!
# Binary floating-point formats

An IEEE 754 binary format is fixed by its precision `p` (significand bits, the hidden
bit included) and the width `w` of its exponent field.  A bit pattern of `1 + w + p - 1`
bits is a sign, a biased exponent and a fraction; it stands for a NaN, an infinity, or
the finite value `± m · 2^q` with a natural significand `m < 2^p`.

This module reads bit patterns as such values (`Format.decode`) and rounds a positive
rational to the nearest value of the format (`Format.nearest`), ties to the even
significand, with values past the largest finite one going to infinity.  Both work on
natural numbers only, so they can be evaluated and reasoned about exactly.
-/

namespace TreeAssembly
namespace Ieee

/-- A binary interchange format: precision (hidden bit included) and exponent width. -/
structure Format where
  precision : Nat
  exponentBits : Nat
  deriving DecidableEq, Repr

/-- What a bit pattern stands for.  A finite value is `(-1)^neg · m · 2^q`. -/
inductive Value where
  | nan
  | infinite (neg : Bool)
  | finite (neg : Bool) (m : Nat) (q : Int)
  deriving DecidableEq, Repr

namespace Format

/-- Single precision: 24 significand bits, 8 exponent bits. -/
def binary32 : Format := ⟨24, 8⟩

/-- Double precision: 53 significand bits, 11 exponent bits. -/
def binary64 : Format := ⟨53, 11⟩

/-- The exponent bias, `2^(w-1) - 1`. -/
def bias (f : Format) : Nat := Nat.pow 2 (f.exponentBits - 1) - 1

/-- Number of fraction bits, `p - 1`. -/
def fractionBits (f : Format) : Nat := f.precision - 1

/-- The smallest exponent `q` of a significand's last bit: that of the subnormals. -/
def minQ (f : Format) : Int := 1 - (f.bias : Int) - f.fractionBits

/-- The largest exponent `q` of a finite value's last bit. -/
def maxQ (f : Format) : Int := (Nat.pow 2 f.exponentBits - 2 : Nat) - (f.bias : Int) - f.fractionBits

/-- The bit pattern of the sign alone. -/
def signBit (f : Format) : Nat := Nat.pow 2 (f.exponentBits + f.fractionBits)

/-- The pattern of the all-ones exponent field with an empty fraction: infinity. -/
def infinityBits (f : Format) (neg : Bool) : Nat :=
  (if neg then f.signBit else 0) + (Nat.pow 2 f.exponentBits - 1) * Nat.pow 2 f.fractionBits

/-- The value that a bit pattern stands for. -/
def decode (f : Format) (bits : Nat) : Value :=
  let fraction := bits % Nat.pow 2 f.fractionBits
  let exponent := bits / Nat.pow 2 f.fractionBits % Nat.pow 2 f.exponentBits
  let neg := bits / f.signBit % 2 == 1
  if exponent = Nat.pow 2 f.exponentBits - 1 then
    if fraction = 0 then .infinite neg else .nan
  else if exponent = 0 then
    .finite neg fraction f.minQ
  else
    .finite neg (fraction + Nat.pow 2 f.fractionBits) ((exponent : Int) - f.bias - f.fractionBits)

/-- `⌊log₂ (num / den)⌋` for positive `num` and `den`.  The difference of the two
bit lengths is either the answer or one more, and one comparison tells which. -/
def floorLog2 (num den : Nat) : Int :=
  let k : Int := (num.log2 : Int) - den.log2
  let atLeast : Bool :=
    if 0 ≤ k then den * Nat.pow 2 k.toNat ≤ num else den ≤ num * Nat.pow 2 (-k).toNat
  if atLeast then k else k - 1

/-- `num / den` divided by `2^q`, as a numerator and a denominator. -/
def scaleDown (num den : Nat) (q : Int) : Nat × Nat :=
  if 0 ≤ q then (num, den * Nat.pow 2 q.toNat) else (num * Nat.pow 2 (-q).toNat, den)

/-- The quotient of `num` by `den`, rounded to the nearest natural number, a tie going
to the even one. -/
def roundHalfEven (num den : Nat) : Nat :=
  let m := num / den
  let r := num % den
  if 2 * r > den || (2 * r == den && m % 2 == 1) then m + 1 else m

/-- The bit pattern of the finite value `m · 2^q` with the given sign, where either
`2^(p-1) ≤ m < 2^p` and `minQ ≤ q ≤ maxQ`, or `m < 2^(p-1)` and `q = minQ`. -/
def encodeFinite (f : Format) (neg : Bool) (m : Nat) (q : Int) : Nat :=
  let sign := if neg then f.signBit else 0
  if m < Nat.pow 2 f.fractionBits then sign + m
  else sign + (q + f.bias + f.fractionBits).toNat * Nat.pow 2 f.fractionBits + (m - Nat.pow 2 f.fractionBits)

/-- The bit pattern nearest to `num / den` (with the given sign), ties to the even
significand; a value too large for the format becomes infinity.  `num / den` must be
positive. -/
def nearest (f : Format) (neg : Bool) (num den : Nat) : Nat :=
  let q := max f.minQ (floorLog2 num den - f.fractionBits)
  let (n, d) := scaleDown num den q
  let m := roundHalfEven n d
  -- rounding up may carry into a new binade
  let (m, q) := if m = Nat.pow 2 f.precision then (Nat.pow 2 f.fractionBits, q + 1) else (m, q)
  if q > f.maxQ then f.infinityBits neg else f.encodeFinite neg m q

/-- The pattern of zero with the given sign. -/
def zeroBits (f : Format) (neg : Bool) : Nat := if neg then f.signBit else 0

/-- The pattern of a quiet NaN, with the given sign. -/
def nanBits (f : Format) (neg : Bool) : Nat :=
  f.infinityBits neg + Nat.pow 2 (f.fractionBits - 1)

end Format

/-- A single-precision value, kept as its bit pattern. -/
structure Binary32 where
  bits : UInt32
  deriving DecidableEq, Repr, Inhabited

/-- A double-precision value, kept as its bit pattern. -/
structure Binary64 where
  bits : UInt64
  deriving DecidableEq, Repr, Inhabited

/-- The double-precision value equal to a single-precision one: every single-precision
value is also a double-precision value, and NaNs and infinities keep their kind and
sign. -/
def Binary32.widen (x : Binary32) : Binary64 :=
  let f := Format.binary64
  ⟨UInt64.ofNat <|
    match Format.binary32.decode x.bits.toNat with
    | .nan => f.nanBits false
    | .infinite neg => f.infinityBits neg
    | .finite neg 0 _ => f.zeroBits neg
    | .finite neg m q =>
      if 0 ≤ q then f.nearest neg (m * Nat.pow 2 q.toNat) 1 else f.nearest neg m (Nat.pow 2 (-q).toNat)⟩

end Ieee
end TreeAssembly
