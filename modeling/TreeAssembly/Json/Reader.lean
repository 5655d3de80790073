import TreeAssembly.Json.Value
import TreeAssembly.Json.Number

/-!
# Reading JSON text

The strict grammar of JSON text:

* blanks between tokens are spaces, tabs, line feeds and carriage returns;
* a number is an optional `-`, then `0` or a digit string not starting with `0`, then an
  optional fraction (`.` and at least one digit) and an optional exponent (`e` or `E`,
  an optional sign and at least one digit), and it must be in range (`Json.inRange`);
* a string holds no raw control character (below U+0020); its escapes are `\"`, `\\`,
  `\/`, `\b`, `\f`, `\n`, `\r`, `\t` and `\u` with four hex digits, where a high
  surrogate must be followed by an escaped low surrogate and a low surrogate may not
  stand alone;
* arrays and objects take no trailing comma, object keys are strings, and values nest at
  most 127 deep;
* after the value only blanks may follow.

Reading needs no error detail: a text is read or it is not.  The recursion is bounded by
fuel twice the length of the text, which every call consumes at least once per two
nested calls.
-/

namespace TreeAssembly
namespace Json

/-- A blank between tokens. -/
def isBlank (c : Char) : Bool := c == ' ' || c == '\t' || c == '\n' || c == '\r'

/-- The text after leading blanks. -/
def skipBlanks (cs : List Char) : List Char := cs.dropWhile isBlank

/-- The value of a hex digit. -/
def hexDigit? (c : Char) : Option Nat :=
  if c.isDigit then some (c.toNat - '0'.toNat)
  else if 'a' ≤ c && c ≤ 'f' then some (c.toNat - 'a'.toNat + 10)
  else if 'A' ≤ c && c ≤ 'F' then some (c.toNat - 'A'.toNat + 10)
  else none

/-- The value of four hex digits. -/
def hex4? (a b c d : Char) : Option Nat := do
  return (← hexDigit? a) * 4096 + (← hexDigit? b) * 256 + (← hexDigit? c) * 16 + (← hexDigit? d)

/-- The character of a one-letter escape. -/
def escape? : Char → Option Char
  | '"' => some '"'
  | '\\' => some '\\'
  | '/' => some '/'
  | 'b' => some (Char.ofNat 8)
  | 'f' => some (Char.ofNat 12)
  | 'n' => some '\n'
  | 'r' => some '\r'
  | 't' => some '\t'
  | _ => none

/-- Reads the rest of a string after its opening quote; `acc` holds the characters so
far, last first. -/
def readString (acc : List Char) : List Char → Option (String × List Char)
  | [] => none
  | '"' :: rest => some (String.ofList acc.reverse, rest)
  | '\\' :: 'u' :: a :: b :: c :: d :: rest =>
    match hex4? a b c d with
    | none => none
    | some v =>
      if 0xD800 ≤ v && v < 0xDC00 then
        match rest with
        | '\\' :: 'u' :: e :: f :: g :: h :: after =>
          match hex4? e f g h with
          | some w =>
            if 0xDC00 ≤ w && w < 0xE000 then
              readString (Char.ofNat (0x10000 + (v - 0xD800) * 0x400 + (w - 0xDC00)) :: acc) after
            else none
          | none => none
        | _ => none
      else if 0xDC00 ≤ v && v < 0xE000 then none
      else readString (Char.ofNat v :: acc) rest
  | '\\' :: e :: rest =>
    match escape? e with
    | some c => readString (c :: acc) rest
    | none => none
  | c :: rest => if c.toNat < 0x20 then none else readString (c :: acc) rest

/-- Splits off a nonempty run of digits. -/
def digitRun (cs : List Char) : Option (List Char × List Char) :=
  let ds := cs.takeWhile Char.isDigit
  if ds.isEmpty then none else some (ds, cs.dropWhile Char.isDigit)

/-- The values of decimal digits. -/
def digitValues (ds : List Char) : List Nat := ds.map fun c => c.toNat - '0'.toNat

/-- Reads a number in range (`Json.inRange`), returning its literal text. -/
def readNumber (cs : List Char) : Option (String × List Char) := do
  let (sign, cs) := match cs with
    | '-' :: rest => (['-'], rest)
    | _ => ([], cs)
  let (whole, cs) ← match cs with
    | '0' :: rest => if (rest.head?.map Char.isDigit).getD false then none else some (['0'], rest)
    | _ => digitRun cs
  let (fraction, cs) ← match cs with
    | '.' :: rest => (digitRun rest).map fun (ds, r) => ('.' :: ds, r)
    | _ => some ([], cs)
  let (exponent, cs) ← match cs with
    | e :: rest =>
      if e == 'e' || e == 'E' then
        let (sgn, rest) := match rest with
          | '+' :: r => (['+'], r)
          | '-' :: r => (['-'], r)
          | _ => ([], rest)
        (digitRun rest).map fun (ds, r) => (e :: sgn ++ ds, r)
      else some ([], cs)
    | [] => some ([], [])
  let exponentParts := match exponent with
    | _ :: '-' :: ds => some (false, digitValues ds)
    | _ :: '+' :: ds => some (true, digitValues ds)
    | _ :: ds => some (true, digitValues ds)
    | [] => none
  if !inRange (digitValues whole) (digitValues (fraction.drop 1)) exponentParts then none
  return (String.ofList (sign ++ whole ++ fraction ++ exponent), cs)

/-- The deepest nesting of arrays and objects that is read. -/
def maxDepth : Nat := 127

mutual

/-- Reads one value at nesting `depth`. -/
def readValue (depth : Nat) : (fuel : Nat) → List Char → Option (Json × List Char)
  | 0, _ => none
  | fuel + 1, cs =>
    match skipBlanks cs with
    | 'n' :: 'u' :: 'l' :: 'l' :: rest => some (.null, rest)
    | 't' :: 'r' :: 'u' :: 'e' :: rest => some (.bool true, rest)
    | 'f' :: 'a' :: 'l' :: 's' :: 'e' :: rest => some (.bool false, rest)
    | '"' :: rest => (readString [] rest).map fun (s, r) => (.string s, r)
    | '[' :: rest =>
      if depth + 1 > maxDepth then none
      else match skipBlanks rest with
        | ']' :: after => some (.array [], after)
        | _ => readItems (depth + 1) fuel [] rest
    | '{' :: rest =>
      if depth + 1 > maxDepth then none
      else match skipBlanks rest with
        | '}' :: after => some (.object [], after)
        | _ => readFields (depth + 1) fuel [] rest
    | cs => (readNumber cs).map fun (n, r) => (.number n, r)

/-- Reads the items of an array, after its opening bracket or a comma. -/
def readItems (depth : Nat) : (fuel : Nat) → List Json → List Char → Option (Json × List Char)
  | 0, _, _ => none
  | fuel + 1, acc, cs =>
    match readValue depth fuel cs with
    | none => none
    | some (v, rest) =>
      match skipBlanks rest with
      | ',' :: after => readItems depth fuel (v :: acc) after
      | ']' :: after => some (.array (v :: acc).reverse, after)
      | _ => none

/-- Reads the fields of an object, after its opening brace or a comma. -/
def readFields (depth : Nat) : (fuel : Nat) → List (String × Json) → List Char →
    Option (Json × List Char)
  | 0, _, _ => none
  | fuel + 1, acc, cs =>
    match skipBlanks cs with
    | '"' :: rest =>
      match readString [] rest with
      | none => none
      | some (key, rest) =>
        match skipBlanks rest with
        | ':' :: rest =>
          match readValue depth fuel rest with
          | none => none
          | some (v, rest) =>
            match skipBlanks rest with
            | ',' :: after => readFields depth fuel ((key, v) :: acc) after
            | '}' :: after => some (.object ((key, v) :: acc).reverse, after)
            | _ => none
        | _ => none
    | _ => none

end

/-- Reads a whole text as one JSON value with nothing but blanks after it. -/
def parse? (s : String) : Option Json :=
  let cs := s.toList
  match readValue 0 (2 * cs.length + 2) cs with
  | some (v, rest) => if (skipBlanks rest).isEmpty then some v else none
  | none => none

end Json
end TreeAssembly
