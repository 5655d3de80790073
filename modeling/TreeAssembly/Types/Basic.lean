/-!
# Value types

The types that values and expressions of the language can have: ten built-in types,
arrays of any type, and the user's structs and connectors, named by their source
names.  A struct type may name a struct that is declared later in the file.
-/

namespace TreeAssembly

/-- A type of the language. -/
inductive ValueType where
  | int
  | long
  | float
  | double
  | boolean
  | string
  | message
  | map
  | xml
  | json
  /-- `T[]`, derived on demand from the element type's name. -/
  | array (element : ValueType)
  /-- A user struct, possibly declared later in the file. -/
  | struct (name : String)
  /-- A user connector. -/
  | connector (name : String)
  deriving DecidableEq, Repr, Inhabited

namespace ValueType

/-- The source spelling of the type, as in `int[]`. -/
def name : ValueType → String
  | int => "int"
  | long => "long"
  | float => "float"
  | double => "double"
  | boolean => "boolean"
  | string => "string"
  | message => "message"
  | map => "map"
  | xml => "xml"
  | json => "json"
  | array element => element.name ++ "[]"
  | struct n => n
  | connector n => n

/-- Whether the type is a user struct. -/
def isStruct : ValueType → Bool
  | struct _ => true
  | _ => false

@[simp] theorem name_array (t : ValueType) : (array t).name = t.name ++ "[]" := rfl

@[simp] theorem isStruct_iff (t : ValueType) : t.isStruct = true ↔ ∃ n, t = struct n := by
  cases t <;> simp [isStruct]

/-- The built-in types with the names that every fresh registry starts with. -/
def builtins : List (String × ValueType) :=
  [("int", int), ("long", long), ("float", float), ("double", double),
   ("boolean", boolean), ("string", string), ("message", message), ("map", map),
   ("xml", xml), ("json", json)]

end ValueType

end TreeAssembly
