import TreeAssembly.Tree.Expr

/-!
# Statements and blocks

Statements live in blocks, and blocks in statements (loops, conditionals, nested
blocks), so the three types are defined together.  A conditional is a chain of branches,
each a condition with its block, tried in order, and an optional `else` block.  A local
variable declaration is a statement of its own; its initial value, if any, is a separate
assignment.
-/

namespace TreeAssembly

/-- A variable with its declared type: a local, a struct field or a group variable. -/
structure VariableDecl where
  name : SymbolName
  ty : ValueType
  loc : Location
  deriving Repr, Inhabited

mutual

/-- A statement node. -/
inductive Stmt where
  /-- A local variable declaration. -/
  | varDef (decl : VariableDecl) (loc : Location)
  /-- `a, b = value;` -/
  | assign (targets : List Expr) (value : Expr) (loc : Location)
  /-- `return values;`, where a bare `return` has no values. -/
  | ret (values : List Expr) (loc : Location)
  | reply (value : Expr) (loc : Location)
  | loop (condition : Expr) (body : Block) (loc : Location)
  /-- An `if` / `else if` chain: the primary branch first. -/
  | ifElse (branches : List Branch) (elseBody : Option Block) (loc : Location)
  | block (body : Block) (loc : Location)
  | call (kind : CallKind) (name : SymbolName) (args : List Expr) (loc : Location)

/-- A sequence of statements. -/
inductive Block where
  | mk (statements : List Stmt) (loc : Location)

/-- One branch of a conditional: a condition and the block it guards. -/
inductive Branch where
  | mk (condition : Expr) (body : Block) (loc : Location)

end

namespace Stmt

/-- Where the statement was built. -/
def location : Stmt → Location
  | varDef _ loc | assign _ _ loc | ret _ loc | reply _ loc | loop _ _ loc
  | ifElse _ _ loc | block _ loc | call _ _ _ loc => loc

end Stmt

namespace Block

/-- The block's statements, in source order. -/
def statements : Block → List Stmt
  | mk ss _ => ss

/-- Where the block was opened. -/
def location : Block → Location
  | mk _ loc => loc

/-- An empty block opened at `loc`. -/
def empty (loc : Location) : Block := mk [] loc

end Block

end TreeAssembly
