import TreeAssembly.Error
import TreeAssembly.Types.Basic
import TreeAssembly.Decimal.Reading

/-!
# Literals

A parser reports a literal token as its lexical kind and its text; this module turns the
pair into a typed value.

* An `int` is a 32-bit integer and a `long` a 64-bit one: an optional sign, then ASCII
  digits only, in range.  A `long` may end in one `l` (or else one `L`), dropped first.
* A `float` is a single-precision value and a `double` a double-precision one, read by
  the grammar of `Decimal.Numeral`.  One trailing `f` or `F` (`d` or `D`) is dropped
  first, so `inf` as a float reads `in` and fails, while `infinity` succeeds.  Values
  round to the nearest of the format; overflow gives an infinity, never an error.
* A `boolean` is true exactly when its text is `true` in any ASCII letter case.
* A `string` keeps its text as it is.
* `null` is always rejected.

A number that does not read fails with `malformed <kind> literal '<text>'`, quoting the
text with its suffix.

The text of a backtick template is what stands between its first backtick and the next.
The search works on byte offsets into the token's UTF-8 text, and resumes one byte past
the opening backtick: a backtick is one byte wide, so that offset is always a character
boundary, as `isValid_inc_of_find?_backtick` shows.
-/

namespace TreeAssembly

/-- The lexical kind of a literal token. -/
inductive LiteralKind where
  | int
  | long
  | float
  | double
  | string
  | boolean
  | null
  deriving DecidableEq, Repr

namespace LiteralKind

/-- The kind named by its lower-case word. -/
def ofName? : String → Option LiteralKind
  | "int" => some int
  | "long" => some long
  | "float" => some float
  | "double" => some double
  | "string" => some string
  | "boolean" => some boolean
  | "null" => some null
  | _ => none

end LiteralKind

open Ieee in
/-- A literal value. -/
inductive Literal where
  | int (value : Int32)
  | long (value : Int64)
  | float (value : Binary32)
  | double (value : Binary64)
  | boolean (value : Bool)
  | string (value : String)
  deriving DecidableEq, Repr, Inhabited

namespace Literal

/-- The type of a literal value. -/
def ty : Literal → ValueType
  | int _ => .int
  | long _ => .long
  | float _ => .float
  | double _ => .double
  | boolean _ => .boolean
  | string _ => .string

/-- The text of a string literal. -/
def text? : Literal → Option String
  | string s => some s
  | _ => none

/-- The value of a nonempty run of ASCII digits. -/
def readDigits (ds : List Char) : Option Nat :=
  if ds.isEmpty || !ds.all Char.isDigit then none else some (Decimal.digitsValue ds)

/-- An integer's text: an optional `+` or `-`, then ASCII digits. -/
def readInteger (s : String) : Option Int :=
  match s.toList with
  | '+' :: ds => (readDigits ds).map Int.ofNat
  | '-' :: ds => (readDigits ds).map fun n => -(n : Int)
  | ds => (readDigits ds).map Int.ofNat

/-- An integer's text, when its value lies in `[-2^(bits-1), 2^(bits-1))`. -/
def readSigned (bits : Nat) (s : String) : Option Int :=
  (readInteger s).filter fun v => -(Nat.pow 2 (bits - 1) : Int) ≤ v && v < Nat.pow 2 (bits - 1)

/-- The text without one trailing `c`, or else without one trailing upper-case `c`. -/
def dropSuffix (s : String) (c : Char) : String :=
  if s.endsWith (String.singleton c) then String.ofList s.toList.dropLast
  else if s.endsWith (String.singleton c.toUpper) then String.ofList s.toList.dropLast
  else s

/-- Reads the token text of a literal of the given kind; `loc` is where errors point. -/
def read (kind : LiteralKind) (text : String) (loc : Location) : Except BuildError Literal :=
  let malformed (k : NumberKind) : Except BuildError Literal :=
    .error (.source (.malformedNumber k text) loc)
  match kind with
  | .int =>
    match readSigned 32 text with
    | some v => .ok (.int (Int32.ofInt v))
    | none => malformed .int
  | .long =>
    match readSigned 64 (dropSuffix text 'l') with
    | some v => .ok (.long (Int64.ofInt v))
    | none => malformed .long
  | .float =>
    match Ieee.Format.binary32.readDecimal (dropSuffix text 'f') with
    | some bits => .ok (.float ⟨UInt32.ofNat bits⟩)
    | none => malformed .float
  | .double =>
    match Ieee.Format.binary64.readDecimal (dropSuffix text 'd') with
    | some bits => .ok (.double ⟨UInt64.ofNat bits⟩)
    | none => malformed .double
  | .string => .ok (.string text)
  | .boolean => .ok (.boolean (text.toList.map Char.toLower == "true".toList))
  | .null => .error (.source .nullValue loc)

end Literal

/-- The backtick, U+0060, which opens and closes a template. -/
def backtick : Char := Char.ofNat 0x60

/-- A backtick takes one byte in UTF-8. -/
theorem utf8Size_backtick : backtick.utf8Size = 1 := by decide

/-- One byte past the first backtick of a token is a character boundary of the token. -/
theorem isValid_inc_of_find?_backtick {token : String} {opening : token.Pos}
    (h : token.find? backtick = some opening) : opening.offset.inc.IsValid token := by
  obtain ⟨hne, hget, -⟩ := String.find?_char_eq_some_iff.1 h
  -- the position after the backtick is one, and it lies a backtick's width further on
  have hv := (opening.next hne).isValid
  rwa [String.Pos.offset_next, hget, ← String.Pos.Raw.increaseBy_charUtf8Size,
    utf8Size_backtick] at hv

/-- The text between the first backtick of a token and the next backtick, if there is
such a pair.  Backticks do not nest.  The token is searched by byte offsets: the rest of
it starts one byte past the opening backtick, and the text ends where the first backtick
of the rest stands. -/
def templateText (token : String) : Option String :=
  match h : token.find? backtick with
  | none => none
  | some opening =>
    let rest := token.sliceFrom (token.pos opening.offset.inc (isValid_inc_of_find?_backtick h))
    (rest.find? backtick).map fun closing => (rest.sliceTo closing).copy

end TreeAssembly
