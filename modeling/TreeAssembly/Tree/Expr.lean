import TreeAssembly.Literal
import TreeAssembly.Symbol

/-!
# Expressions

The expression nodes of a program tree.  Every node carries the location it was built
at.  Some nodes also have a type that the builder already knows (`Expr.ty`): literals,
instance creations, casts, struct initialisers and map initialisers; the type of every
other node is left to later analysis.  Because that type is fixed by the node's kind, it
is computed from the node rather than stored beside it.
-/

namespace TreeAssembly

/-- Binary operators. -/
inductive BinaryOp where
  | add
  | sub
  | mul
  | div
  | and
  | or
  | equal
  | notEqual
  | greaterEqual
  | greaterThan
  | lessThan
  | lessEqual
  deriving DecidableEq, Repr

namespace BinaryOp

/-- Every binary operator, in a fixed order. -/
def all : List BinaryOp :=
  [add, sub, mul, div, and, or, equal, notEqual, greaterEqual, greaterThan, lessThan,
   lessEqual]

/-- The operator's source symbol. -/
def symbol : BinaryOp → String
  | add => "+"
  | sub => "-"
  | mul => "*"
  | div => "/"
  | and => "&&"
  | or => "||"
  | equal => "=="
  | notEqual => "!="
  | greaterEqual => ">="
  | greaterThan => ">"
  | lessThan => "<"
  | lessEqual => "<="

/-- The operator with the given symbol. -/
def ofSymbol? (s : String) : Option BinaryOp :=
  all.find? (·.symbol == s)

/-- The operator's name in the tree's text forms. -/
def label : BinaryOp → String
  | add => "Add"
  | sub => "Sub"
  | mul => "Mul"
  | div => "Div"
  | and => "And"
  | or => "Or"
  | equal => "Equal"
  | notEqual => "NotEqual"
  | greaterEqual => "GreaterEqual"
  | greaterThan => "GreaterThan"
  | lessThan => "LessThan"
  | lessEqual => "LessEqual"

end BinaryOp

/-- Unary operators. -/
inductive UnaryOp where
  | plus
  | minus
  | not
  deriving DecidableEq, Repr

namespace UnaryOp

/-- The operator with the given symbol: `+`, `-` or `!`. -/
def ofSymbol? : String → Option UnaryOp
  | "+" => some plus
  | "-" => some minus
  | "!" => some not
  | _ => none

/-- The operator's name in the tree's text forms. -/
def label : UnaryOp → String
  | plus => "Add"
  | minus => "Sub"
  | not => "Not"

end UnaryOp

/-- Whether a call names a function or an action of a connector. -/
inductive CallKind where
  | function
  | action
  deriving DecidableEq, Repr

/-- The name of a call's kind in the tree's text forms. -/
def CallKind.label : CallKind → String
  | .function => "FunctionInvocation"
  | .action => "ActionInvocation"

/-- An expression node. -/
inductive Expr where
  /-- A literal value. -/
  | lit (value : Literal) (loc : Location)
  /-- A plain variable: `a`. -/
  | var (name : SymbolName) (loc : Location)
  /-- An array or map element, `a[1]`; the base is the variable itself. -/
  | element (name : SymbolName) (base index : Expr) (loc : Location)
  /-- One link of a field chain, `a.b`: the reference and, unless it is the last link,
  the field that follows. -/
  | field (name : SymbolName) (reference : Expr) (next : Option Expr) (loc : Location)
  | binary (op : BinaryOp) (lhs rhs : Expr) (loc : Location)
  | unary (op : UnaryOp) (operand : Expr) (loc : Location)
  /-- A call, with its arguments in source order. -/
  | call (kind : CallKind) (name : SymbolName) (args : List Expr) (loc : Location)
  /-- `new T` for a type that is not a struct. -/
  | construct (ty : ValueType) (loc : Location)
  /-- `new S` for a user struct, possibly declared later. -/
  | structInit (name : SymbolName) (loc : Location)
  | arrayInit (elements : List Expr) (loc : Location)
  /-- A map initialiser; its entries are key-value nodes. -/
  | mapInit (entries : List Expr) (loc : Location)
  | keyValue (key : String) (value : Expr) (loc : Location)
  | cast (target : ValueType) (operand : Expr) (loc : Location)
  /-- A backtick template, kept uninterpreted. -/
  | template (text : String) (loc : Location)
  deriving Repr, Inhabited

namespace Expr

/-- Where the node was built. -/
def location : Expr → Location
  | lit _ loc | var _ loc | element _ _ _ loc | field _ _ _ loc | binary _ _ _ loc
  | unary _ _ loc | call _ _ _ loc | construct _ loc | structInit _ loc | arrayInit _ loc
  | mapInit _ loc | keyValue _ _ loc | cast _ _ loc | template _ loc => loc

/-- The type the builder knows for the node, if any. -/
def ty : Expr → Option ValueType
  | lit v _ => some v.ty
  | construct t _ => some t
  | structInit name _ => some (.struct name.name)
  | mapInit _ _ => some .map
  | cast target _ _ => some target
  | _ => none

/-- The variable that a reference node names: plain variables, elements and field
links are references; nothing else is. -/
def referenceName : Expr → Option SymbolName
  | var name _ => some name
  | element name _ _ _ => some name
  | field name _ _ _ => some name
  | _ => none

/-- Whether the node is a field link. -/
def isField : Expr → Bool
  | field .. => true
  | _ => false

/-- The string of a string literal node. -/
def stringValue? : Expr → Option String
  | lit v _ => v.text?
  | _ => none

end Expr

end TreeAssembly
