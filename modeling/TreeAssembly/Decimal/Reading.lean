import TreeAssembly.Ieee.Format

/-!
# Reading decimal number text

The grammar of a floating-point number's text: an optional sign, then either one of the
words `nan`, `inf`, `infinity` in any mix of letter case, or a decimal.  A decimal has
digits with at most one point among them, at least one digit in all, and an optional
exponent: `e` or `E`, an optional sign and at least one digit.  So `1.` and `.5` are
numbers, and `.`, `1e` and ` 1` are not.

A number read this way is rounded to a binary format by `Ieee.Format.nearest`, exactly:
values past the largest finite one become infinities, and values too small become zeros
of their sign.
-/

namespace TreeAssembly
namespace Decimal

/-- A number's text, read: NaN, an infinity, or `± digits · 10^exponent`. -/
inductive Numeral where
  | nan (neg : Bool)
  | infinity (neg : Bool)
  | finite (neg : Bool) (digits : Nat) (exponent : Int)
  deriving DecidableEq, Repr

/-- The value of a run of decimal digits. -/
def digitsValue (ds : List Char) : Nat :=
  ds.foldl (fun acc c => acc * 10 + (c.toNat - '0'.toNat)) 0

/-- An optional sign: whether it is `-`, and what follows it. -/
def splitSign : List Char → Bool × List Char
  | '-' :: rest => (true, rest)
  | '+' :: rest => (false, rest)
  | cs => (false, cs)

/-- The ASCII letters of `cs` in lower case; other characters as they are. -/
def lowerAscii (cs : List Char) : List Char := cs.map Char.toLower

/-- The exponent part after `e`: an optional sign and at least one digit, nothing after. -/
def readExponent (cs : List Char) : Option Int :=
  let (neg, rest) := splitSign cs
  if rest.isEmpty || !rest.all Char.isDigit then none
  else
    let v : Int := digitsValue rest
    some (if neg then -v else v)

/-- Reads the text of a decimal without its sign. -/
def readUnsigned (cs : List Char) : Option (Nat × Int) :=
  let whole := cs.takeWhile Char.isDigit
  let rest := cs.dropWhile Char.isDigit
  let (fraction, rest) :=
    match rest with
    | '.' :: after => (after.takeWhile Char.isDigit, after.dropWhile Char.isDigit)
    | _ => ([], rest)
  if whole.isEmpty && fraction.isEmpty then none
  else
    let exponent : Option Int :=
      match rest with
      | [] => some 0
      | c :: after => if c == 'e' || c == 'E' then readExponent after else none
    exponent.map fun e => (digitsValue (whole ++ fraction), e - fraction.length)

/-- Reads a floating-point number's text, or fails. -/
def Numeral.read (s : String) : Option Numeral :=
  let (neg, rest) := splitSign s.toList
  let word := lowerAscii rest
  if word == "nan".toList then some (.nan neg)
  else if word == "inf".toList || word == "infinity".toList then some (.infinity neg)
  else (readUnsigned rest).map fun (d, e) => .finite neg d e

/-- The number of decimal digits of a positive number. -/
def digitCount (n : Nat) : Nat := (Nat.repr n).length

end Decimal

namespace Ieee.Format

open Decimal in
/-- The bit pattern of the format nearest to a numeral.  Magnitudes of `10^309` and more
overflow every format handled here, and magnitudes below `10^-325` are closer to zero
than to half the least subnormal of double precision, so both are settled without
forming the powers of ten. -/
def ofNumeral (f : Format) : Numeral → Nat
  | .nan neg => f.nanBits neg
  | .infinity neg => f.infinityBits neg
  | .finite neg digits exponent =>
    if digits = 0 then f.zeroBits neg
    else
      let top := exponent + digitCount digits
      if top > 309 then f.infinityBits neg
      else if top < -325 then f.zeroBits neg
      else if 0 ≤ exponent then f.nearest neg (digits * Nat.pow 10 exponent.toNat) 1
      else f.nearest neg digits (Nat.pow 10 (-exponent).toNat)

/-- Reads a number's text into the format, or fails when the text is no number. -/
def readDecimal (f : Format) (s : String) : Option Nat :=
  (Decimal.Numeral.read s).map f.ofNumeral

end Ieee.Format

end TreeAssembly
