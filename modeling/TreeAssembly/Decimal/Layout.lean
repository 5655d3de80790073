import TreeAssembly.Decimal.Shortest

/-!
# Writing a binary value as decimal text

The shortest digits of a value (`Decimal.shortest`) are written in one of two ways.
Positional notation places the point among the digits, padding with zeros, and always
writes at least one digit after the point (`16777216.0`, `0.001`).  Exponential
notation writes one digit, the rest after a point, and the power of ten (`1e-7`,
`1.5e300`).  Which one is used depends on the decimal exponent of the first digit.

A `Layout` holds the decisions in which text formats differ: the range of exponents
written positionally, whether a positive exponent has a `+`, how an exact tie between two
shortest candidates is settled, and the words for NaN and infinity.
-/

namespace TreeAssembly
namespace Decimal

/-- The decisions of one text format for binary values. -/
structure Layout where
  /-- The least exponent of the first digit that is written positionally. -/
  lowest : Int
  /-- The greatest exponent of the first digit that is written positionally. -/
  highest : Int
  /-- Whether a nonnegative exponent is written with a `+`. -/
  plusSign : Bool
  tie : Tie
  nanText : String
  infinityText : String

/-- `n` zeros. -/
def zeros (n : Nat) : String := String.ofList (List.replicate n '0')

/-- Digits `ds` whose first digit stands for `10^e10`, in positional notation. -/
def positional (ds : List Char) (e10 : Int) : String :=
  if 0 ≤ e10 then
    let whole := e10.toNat + 1
    if ds.length ≤ whole then String.ofList ds ++ zeros (whole - ds.length) ++ ".0"
    else String.ofList (ds.take whole) ++ "." ++ String.ofList (ds.drop whole)
  else "0." ++ zeros ((-e10).toNat - 1) ++ String.ofList ds

/-- Digits `ds` whose first digit stands for `10^e10`, in exponential notation. -/
def exponential (plusSign : Bool) (ds : List Char) (e10 : Int) : String :=
  let mantissa :=
    match ds with
    | [] => "0"
    | [d] => String.ofList [d]
    | d :: rest => String.ofList (d :: '.' :: rest)
  let sign := if e10 < 0 then "-" else if plusSign then "+" else ""
  mantissa ++ "e" ++ sign ++ toString e10.natAbs

namespace Layout

/-- The text of the finite nonzero value `± m · 2^q` of format `f`. -/
def finiteText (l : Layout) (f : Ieee.Format) (neg : Bool) (m : Nat) (q : Int) : String :=
  let (c, k) := shortest f l.tie m q
  let ds := (Nat.repr c).toList
  let e10 := k + ds.length - 1
  let body := if l.lowest ≤ e10 && e10 ≤ l.highest then positional ds e10
    else exponential l.plusSign ds e10
  (if neg then "-" else "") ++ body

/-- The text of the value with bit pattern `bits` in format `f`. -/
def write (l : Layout) (f : Ieee.Format) (bits : Nat) : String :=
  match f.decode bits with
  | .nan => l.nanText
  | .infinite neg => (if neg then "-" else "") ++ l.infinityText
  | .finite neg 0 _ => (if neg then "-" else "") ++ "0.0"
  | .finite neg m q => l.finiteText f neg m q

end Layout

end Decimal
end TreeAssembly
