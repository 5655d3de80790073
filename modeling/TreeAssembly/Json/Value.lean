/-!
# JSON values

Events arrive as JSON, and the program tree leaves as JSON.  A `Json` value keeps an
object's fields in the order they were written, duplicates included, and a number as
its literal text: whether a number was written as an integer matters to the event
format, which rejects `1.0` where it expects a line number.
-/

namespace TreeAssembly

/-- A JSON value; objects keep their fields in order, numbers their text. -/
inductive Json where
  | null
  | bool (b : Bool)
  | number (literal : String)
  | string (s : String)
  | array (items : List Json)
  | object (fields : List (String × Json))
  deriving Repr, Inhabited

namespace Json

/-- A number from a natural number. -/
def nat (n : Nat) : Json := .number (toString n)

/-- A number from an integer. -/
def int (n : Int) : Json := .number (toString n)

/-- An optional value, `null` when absent. -/
def opt (f : α → Json) : Option α → Json
  | some a => f a
  | none => null

/-- The last field of the given name, as a reader that keeps the last of repeated
fields sees it. -/
def field? (j : Json) (key : String) : Option Json :=
  match j with
  | object fields => (fields.reverse.find? (·.1 == key)).map (·.2)
  | _ => none

/-- The value of an integer literal without sign, exponent or point. -/
def naturalLiteral? (literal : String) : Option Nat :=
  let cs := literal.toList
  if cs.isEmpty || !cs.all Char.isDigit then none
  else some (cs.foldl (fun acc c => acc * 10 + (c.toNat - '0'.toNat)) 0)

/-- The value of a number written as a nonnegative integer. -/
def asNat? : Json → Option Nat
  | number literal => naturalLiteral? literal
  | _ => none

/-- The text of a string. -/
def asString? : Json → Option String
  | string s => some s
  | _ => none

/-- The flag of a boolean. -/
def asBool? : Json → Option Bool
  | bool b => some b
  | _ => none

/-- The items of an array. -/
def asArray? : Json → Option (List Json)
  | array items => some items
  | _ => none

mutual

/-- Applies `f` to the literal text of every number in the value. -/
def mapNumbers (f : String → String) : Json → Json
  | number literal => number (f literal)
  | array items => array (mapNumbersItems f items)
  | object fields => object (mapNumbersFields f fields)
  | v => v

/-- Applies `mapNumbers` to each item. -/
def mapNumbersItems (f : String → String) : List Json → List Json
  | [] => []
  | v :: rest => mapNumbers f v :: mapNumbersItems f rest

/-- Applies `mapNumbers` to each field's value. -/
def mapNumbersFields (f : String → String) : List (String × Json) → List (String × Json)
  | [] => []
  | (k, v) :: rest => (k, mapNumbers f v) :: mapNumbersFields f rest

end

end Json

end TreeAssembly
