import TreeAssembly.Decimal.Reading

/-!
# Shortest decimal digits

The fewest decimal digits that read back as a given finite, nonzero binary value
`m · 2^q`.  The reals that round to the value form an interval around it, reaching
halfway to each neighbour, ends included exactly when `m` is even (a tie reads back to
the even significand).  At the low end of a binade the lower neighbour is only half as
far away.

For `n = 1, 2, …` digits, the value's two neighbours on the grid of `n`-digit decimals
are tested: the first grid with a neighbour inside the interval gives the length, and
of two neighbours inside it the nearer to the value wins.  If a point of a grid lies in
the interval, so does one of the value's two neighbours on that grid, since the interval
is convex and holds the value; so no shorter decimal reads back.  An exact tie between
the two neighbours is decided by a `Tie` rule, which differs between output formats.

All arithmetic is on natural numbers: every comparison of `a · 10^k` with `b · 2^j`
moves the negative powers to the other side.
-/

namespace TreeAssembly
namespace Decimal

/-- How an exact tie between two shortest candidates is decided. -/
inductive Tie where
  /-- The candidate with an even last digit. -/
  | even
  /-- The candidate of larger magnitude. -/
  | up
  deriving DecidableEq, Repr

/-- Compares `a · 10^k` with `b · 2^j`. -/
def compareScaled (a : Nat) (k : Int) (b : Nat) (j : Int) : Ordering :=
  compare (a * Nat.pow 10 k.toNat * Nat.pow 2 (-j).toNat) (b * Nat.pow 2 j.toNat * Nat.pow 10 (-k).toNat)

/-- `⌊(b · 2^j) / 10^k⌋`. -/
def floorScaled (b : Nat) (j : Int) (k : Int) : Nat :=
  b * Nat.pow 2 j.toNat * Nat.pow 10 (-k).toNat / (Nat.pow 2 (-j).toNat * Nat.pow 10 k.toNat)

/-- `⌊log₁₀ (b · 2^j)⌋` for positive `b`: the digit counts of numerator and
denominator give the answer or one more, and one comparison tells which. -/
def floorLog10 (b : Nat) (j : Int) : Int :=
  let num := b * Nat.pow 2 j.toNat
  let den := Nat.pow 2 (-j).toNat
  let k : Int := (digitCount num : Int) - digitCount den
  if compareScaled 1 k b j != .gt then k else k - 1

/-- The rounding interval of `m · 2^q`, scaled by `2^(q-2)`: its low end, the value,
its high end, and whether the ends belong to it. -/
structure Interval where
  low : Nat
  value : Nat
  high : Nat
  scale : Int
  closed : Bool

/-- The interval of reals that round to the finite value `m · 2^q` of the format. -/
def Interval.around (f : Ieee.Format) (m : Nat) (q : Int) : Interval :=
  let narrowBelow := m = Nat.pow 2 f.fractionBits && q > f.minQ
  { low := if narrowBelow then 4 * m - 1 else 4 * m - 2
    value := 4 * m
    high := 4 * m + 2
    scale := q - 2
    closed := m % 2 == 0 }

/-- Whether `c · 10^k` lies in the interval. -/
def Interval.holds (i : Interval) (c : Nat) (k : Int) : Bool :=
  let aboveLow := compareScaled c k i.low i.scale
  let belowHigh := compareScaled c k i.high i.scale
  if i.closed then aboveLow != .lt && belowHigh != .gt
  else aboveLow == .gt && belowHigh == .lt

/-- Of the grid points `c` and `c + 1` (times `10^k`), the one nearer to the value; an
exact tie goes as `tie` says. -/
def Interval.nearer (i : Interval) (tie : Tie) (c : Nat) (k : Int) : Nat :=
  match compareScaled (2 * c + 1) k (2 * i.value) i.scale with
  | .gt => c
  | .lt => c + 1
  | .eq =>
    match tie with
    | .even => if c % 2 == 0 then c else c + 1
    | .up => c + 1

/-- Drops trailing zero digits, raising the exponent. -/
def stripZeros (c : Nat) (k : Int) : (fuel : Nat) → Nat × Int
  | 0 => (c, k)
  | fuel + 1 => if c ≠ 0 && c % 10 == 0 then stripZeros (c / 10) (k + 1) fuel else (c, k)

/-- Searches the grids of `n, n + 1, …` digits for the first that has a point in the
interval, for at most `fuel` grids. -/
def search (i : Interval) (tie : Tie) (e10 : Int) (n : Nat) : (fuel : Nat) → Nat × Int
  | 0 => (floorScaled i.value i.scale (e10 + 1 - n), e10 + 1 - n)
  | fuel + 1 =>
    let k := e10 + 1 - n
    let c := floorScaled i.value i.scale k
    match i.holds c k, i.holds (c + 1) k with
    | true, true => (i.nearer tie c k, k)
    | true, false => (c, k)
    | false, true => (c + 1, k)
    | false, false => search i tie e10 (n + 1) fuel

/-- The shortest digits of the finite nonzero value `m · 2^q` of the format, as
`(digits, exponent)` with the value read back from `digits · 10^exponent`, and no
trailing zero in `digits`. -/
def shortest (f : Ieee.Format) (tie : Tie) (m : Nat) (q : Int) : Nat × Int :=
  let i := Interval.around f m q
  let e10 := floorLog10 i.value i.scale
  let (c, k) := search i tie e10 1 40
  stripZeros c k 40

end Decimal
end TreeAssembly
