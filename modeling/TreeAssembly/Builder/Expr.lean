import TreeAssembly.Builder.State

/-!
# Assembling expressions

Expressions are built bottom-up: an operand is finished before the operator that uses
it, so every expression assembler takes its operands from the top of the expression
stack and pushes its result there.  Argument lists are collected between a start and an
end event; the end event names how many of the most recent expressions belong to the
list, and moves exactly those, in source order.
-/

namespace TreeAssembly
namespace Assembly

/-- Opens an expression list (also used for the targets of an assignment). -/
def startExprList : Assembly Unit :=
  modifyStacks fun s => { s with exprLists := [] :: s.exprLists }

/-- Moves the `count` most recent expressions into the open list.  There must be an
open list, and `count` expressions on the stack. -/
def endExprList (count : Nat) (loc : Location) : Assembly Unit := do
  let s ← piles
  match s.exprLists with
  | [] => structural (.noOpen .expressionList) loc
  | open_ :: rest =>
    if count > s.exprs.length then
      structural (.listTooLong count .expression s.exprs.length) loc
    else
      let (exprs, list) := moveRecent count s.exprs open_
      modifyStacks fun s => { s with exprs, exprLists := list :: rest }

/-- Opens a list of key-value pairs. -/
def startKeyValueList : Assembly Unit :=
  modifyStacks fun s => { s with keyValueLists := [] :: s.keyValueLists }

/-- Moves the `count` most recent key-value pairs into the open list. -/
def endKeyValueList (count : Nat) (loc : Location) : Assembly Unit := do
  let s ← piles
  match s.keyValueLists with
  | [] => structural (.noOpen .keyValueList) loc
  | open_ :: rest =>
    if count > s.keyValues.length then
      structural (.listTooLong count .keyValue s.keyValues.length) loc
    else
      let (keyValues, list) := moveRecent count s.keyValues open_
      modifyStacks fun s => { s with keyValues, keyValueLists := list :: rest }

/-- A literal token, read into its value. -/
def literal (kind : LiteralKind) (text : String) (loc : Location) : Assembly Unit := do
  let v ← liftExcept (Literal.read kind text loc)
  pushExpr (.lit v loc)

/-- `name[index]`: the index is the expression on top. -/
def element (name : String) (loc : Location) : Assembly Unit := do
  let index ← popExpr loc
  let sym : SymbolName := { name }
  pushExpr (.element sym (.var sym loc) index loc)

/-- A field link on a reference expression; anything else cannot have fields. -/
def fieldLink (reference : Expr) (next : Option Expr) (loc : Location) : Assembly Expr :=
  match reference.referenceName with
  | some name => pure (.field name reference next loc)
  | none => structural .fieldOfNonReference loc

/-- Links the two top reference expressions as `parent.field`.  The field becomes a
field link unless it is one already.  With fewer than two expressions this does
nothing. -/
def fieldAccess (loc : Location) : Assembly Unit := do
  if (← piles).exprs.length < 2 then return
  let f ← popExpr loc
  let f ← if f.isField then pure f else fieldLink f none loc
  let parent ← popExpr loc
  let parent ← fieldLink parent (some f) loc
  pushExpr parent

/-- A binary operation: the right operand finished last, so it is on top. -/
def binary (op : String) (loc : Location) : Assembly Unit := do
  let rhs ← popExpr loc
  let lhs ← popExpr loc
  match BinaryOp.ofSymbol? op with
  | some o => pushExpr (.binary o lhs rhs loc)
  | none => source (.unsupportedOperator op) loc

/-- A unary operation on the top expression. -/
def unary (op : String) (loc : Location) : Assembly Unit := do
  let operand ← popExpr loc
  match UnaryOp.ofSymbol? op with
  | some o => pushExpr (.unary o operand loc)
  | none => source (.unsupportedOperator op) loc

/-- A backtick template token. -/
def template (token : String) (loc : Location) : Assembly Unit :=
  match templateText token with
  | some text => pushExpr (.template text loc)
  | none => source (.malformedTemplate token) loc

/-- A cast of the top expression to the most recently queued type: in `(int)(float) x`
both names are queued before `x` is finished, so the inner cast owns the later one. -/
def cast (loc : Location) : Assembly Unit := do
  let target ← takeLastType loc
  let operand ← popExpr loc
  pushExpr (.cast target operand loc)

/-- The arguments and the callee of a call: the name was pushed before any argument
was finished. -/
def invocation (loc : Location) : Assembly (SymbolName × List Expr) := do
  let args ← popExprList loc
  let name ← popSymbolName loc
  return (name, args)

/-- A call expression. -/
def callExpr (kind : CallKind) (loc : Location) : Assembly Unit := do
  let (name, args) ← invocation loc
  pushExpr (.call kind name args loc)

/-- `new T(args)`.  A registered type that is not a struct gives an instance creation
of that type; any other name gives a struct initialiser, even for a struct never
declared.  Arguments, when flagged, are taken and dropped, with a warning when there are
any. -/
def instanceCreation (typeName : String) (argsAvailable : Bool) (loc : Location) :
    Assembly Unit := do
  if argsAvailable then
    let args ← popExprList loc
    if !args.isEmpty then
      modify fun b => { b with warnings := b.warnings ++ [⟨loc, typeName, args.length⟩] }
  match (← get).registry.lookup typeName with
  | some t =>
    if t.isStruct then pushExpr (.structInit { name := typeName } loc)
    else pushExpr (.construct t loc)
  | none => pushExpr (.structInit { name := typeName } loc)

/-- An array initialiser, with the elements of the top list when flagged. -/
def arrayInit (elementsAvailable : Bool) (loc : Location) : Assembly Unit := do
  let elements ← if elementsAvailable then popExprList loc else pure []
  pushExpr (.arrayInit elements loc)

/-- Pairs `key` with the top expression, as the next key-value pair. -/
def keyValue (key : String) (loc : Location) : Assembly Unit := do
  let value ← popExpr loc
  modifyStacks fun s => { s with keyValues := .keyValue key value loc :: s.keyValues }

/-- A map initialiser, with the pairs of the top key-value list when flagged. -/
def mapInit (entriesAvailable : Bool) (loc : Location) : Assembly Unit := do
  let entries ← if entriesAvailable then popKeyValueList loc else pure []
  pushExpr (.mapInit entries loc)

end Assembly
end TreeAssembly
