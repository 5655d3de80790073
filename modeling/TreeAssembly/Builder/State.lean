import TreeAssembly.Tree.Decl
import TreeAssembly.Types.Registry
import TreeAssembly.Event

/-!
# The builder's state

The builder keeps partial work on piles until a later event consumes it: finished
expressions, open expression lists, key-value pairs and their lists, open annotations
and annotation lists, open blocks and conditionals, package names and symbol names.
Types wait in a queue instead, because most consumers take the oldest one.  Beside the
piles it holds one slot for the callable unit being built, one for the service or
connector, and one for the struct, the file's package, the type registry, the
compilation unit collected so far, and whether an earlier event failed.

Every stack is a list with its top first; every list of collected items is in source
order.  The assemblers are functions in `Assembly`, a state monad over the builder that
can fail with a `BuildError`.  A failure keeps the builder as the failing step left it:
what an assembler took or changed before it failed stays taken or changed.  The primitives
here take an item from a stack, or fail with the structural fault that names the stack and
the event's location, before they change anything.
-/

namespace TreeAssembly

/-- An open block: where it was opened and its statements so far. -/
structure BlockFrame where
  loc : Location
  statements : List Stmt := []

/-- The finished block of a block frame. -/
def BlockFrame.finish (f : BlockFrame) : Block := .mk f.statements f.loc

/-- An open conditional: where it started, its `else if` branches so far and its
`else` block once closed. -/
structure IfFrame where
  loc : Location
  elseIfs : List Branch := []
  elseBody : Option Block := none

/-- A callable unit under construction. -/
structure UnitFrame where
  loc : Location
  parameters : List Parameter := []
  returnParameters : List Parameter := []
  connectorDecls : List ConnectorDecl := []
  body : Option Block := none

/-- A service or connector under construction. -/
structure GroupFrame where
  parameters : List Parameter := []
  connectorDecls : List ConnectorDecl := []
  variableDecls : List VariableDecl := []
  units : List CallableUnit := []

/-- A discarded argument list of an instance creation, which is reported as a
warning. -/
structure Warning where
  loc : Location
  typeName : String
  count : Nat
  deriving DecidableEq, Repr

/-- The working piles.  Each is a list with its top first, except `types`, a queue
with its oldest entry first. -/
structure Stacks where
  exprs : List Expr := []
  exprLists : List (List Expr) := []
  keyValues : List Expr := []
  keyValueLists : List (List Expr) := []
  annotations : List (List AnnotationKeyValue) := []
  annotationLists : List (List Annotation) := []
  blocks : List BlockFrame := []
  ifElses : List IfFrame := []
  types : List ValueType := []
  packageNames : List String := []
  symbolNames : List SymbolName := []

/-- Everything the builder holds between two events. -/
structure Builder where
  piles : Stacks := {}
  registry : Registry := .fresh
  /-- The package the file declared, which qualifies its top-level names. -/
  package : Option String := none
  unit : Option UnitFrame := none
  group : Option GroupFrame := none
  struct : Option (List VariableDecl) := none
  file : CompilationUnit := {}
  aborted : Bool := false
  warnings : List Warning := []

/-- The steps of a build: they read and change the builder, and may fail; a failure
carries the builder as it stood when the step failed. -/
abbrev Assembly := EStateM BuildError Builder

namespace Stacks

/-- The sizes of the non-empty piles, in the order that messages list them. -/
def pending (s : Stacks) : List (Nat × Pile) :=
  [(s.exprs.length, .expression), (s.exprLists.length, .expressionList),
   (s.keyValues.length, .keyValue), (s.keyValueLists.length, .keyValueList),
   (s.annotations.length, .annotationFrame), (s.annotationLists.length, .annotationList),
   (s.blocks.length, .block), (s.ifElses.length, .ifElse), (s.types.length, .type),
   (s.packageNames.length, .packageName), (s.symbolNames.length, .symbolName)].filter
    (·.1 != 0)

end Stacks

namespace Assembly

/-- Fails with a structural fault at the event's location. -/
def structural (fault : StructuralFault) (loc : Location) : Assembly α :=
  throw (.structural fault (some loc))

/-- Fails with a source fault at the event's location. -/
def source (fault : SourceFault) (loc : Location) : Assembly α :=
  throw (.source fault loc)

/-- The top of a stack and the rest, or the fault that names the empty stack. -/
def top (pile : Pile) (loc : Location) : List α → Assembly (α × List α)
  | x :: rest => pure (x, rest)
  | [] => structural (.emptyStack pile) loc

/-- Changes the piles. -/
def modifyStacks (f : Stacks → Stacks) : Assembly Unit :=
  modify fun b => { b with piles := f b.piles }

/-- The piles as they are. -/
def piles : Assembly Stacks := do
  return (← get).piles

/-- Pushes a finished expression. -/
def pushExpr (e : Expr) : Assembly Unit :=
  modifyStacks fun s => { s with exprs := e :: s.exprs }

/-- Takes the top expression. -/
def popExpr (loc : Location) : Assembly Expr := do
  let (e, rest) ← top .expression loc (← piles).exprs
  modifyStacks fun s => { s with exprs := rest }
  return e

/-- Takes the top expression list, closed or not. -/
def popExprList (loc : Location) : Assembly (List Expr) := do
  let (l, rest) ← top .expressionList loc (← piles).exprLists
  modifyStacks fun s => { s with exprLists := rest }
  return l

/-- Takes the top key-value list. -/
def popKeyValueList (loc : Location) : Assembly (List Expr) := do
  let (l, rest) ← top .keyValueList loc (← piles).keyValueLists
  modifyStacks fun s => { s with keyValueLists := rest }
  return l

/-- Takes the top open annotation's key-value pairs. -/
def popAnnotationFrame (loc : Location) : Assembly (List AnnotationKeyValue) := do
  let (a, rest) ← top .annotationFrame loc (← piles).annotations
  modifyStacks fun s => { s with annotations := rest }
  return a

/-- Takes the top annotation list. -/
def popAnnotationList (loc : Location) : Assembly (List Annotation) := do
  let (l, rest) ← top .annotationList loc (← piles).annotationLists
  modifyStacks fun s => { s with annotationLists := rest }
  return l

/-- Takes the innermost open block. -/
def popBlock (loc : Location) : Assembly BlockFrame := do
  let (blk, rest) ← top .block loc (← piles).blocks
  modifyStacks fun s => { s with blocks := rest }
  return blk

/-- Takes the innermost open conditional. -/
def popIfElse (loc : Location) : Assembly IfFrame := do
  let (f, rest) ← top .ifElse loc (← piles).ifElses
  modifyStacks fun s => { s with ifElses := rest }
  return f

/-- Takes the top package name. -/
def popPackageName (loc : Location) : Assembly String := do
  let (n, rest) ← top .packageName loc (← piles).packageNames
  modifyStacks fun s => { s with packageNames := rest }
  return n

/-- Takes the top package name if there is one; an empty stack is no fault here. -/
def popPackageName? : Assembly (Option String) := do
  match (← piles).packageNames with
  | n :: rest =>
    modifyStacks fun s => { s with packageNames := rest }
    return some n
  | [] => return none

/-- Takes the top symbol name. -/
def popSymbolName (loc : Location) : Assembly SymbolName := do
  let (n, rest) ← top .symbolName loc (← piles).symbolNames
  modifyStacks fun s => { s with symbolNames := rest }
  return n

/-- Takes the oldest queued type: declarations consume types in the order they were
named. -/
def takeType (loc : Location) : Assembly ValueType := do
  match (← piles).types with
  | t :: rest =>
    modifyStacks fun s => { s with types := rest }
    return t
  | [] => structural .emptyTypeQueue loc

/-- Takes the most recently queued type, the one named by the innermost construct. -/
def takeLastType (loc : Location) : Assembly ValueType := do
  match (← piles).types.getLast? with
  | some t =>
    modifyStacks fun s => { s with types := s.types.dropLast }
    return t
  | none => structural .emptyTypeQueue loc

/-- Queues a type. -/
def queueType (t : ValueType) : Assembly Unit :=
  modifyStacks fun s => { s with types := s.types ++ [t] }

/-- Appends a statement to the innermost open block. -/
def addStatement (stmt : Stmt) (loc : Location) : Assembly Unit := do
  match (← piles).blocks with
  | blk :: rest =>
    modifyStacks fun s => { s with blocks := { blk with statements := blk.statements ++ [stmt] } :: rest }
  | [] => structural (.noOpen .block) loc

/-- A top-level name, qualified by the file's package. -/
def qualified (name : String) : Assembly SymbolName := do
  return SymbolName.withPackage name (← get).package

/-- Changes the compilation unit collected so far. -/
def modifyFile (f : CompilationUnit → CompilationUnit) : Assembly Unit :=
  modify fun b => { b with file := f b.file }

end Assembly

/-- Moves the `count` most recent items of `stack` (top first) to the end of `list`,
keeping their source order; the caller has checked that there are that many. -/
def moveRecent (count : Nat) (stack : List α) (list : List α) : List α × List α :=
  (stack.drop count, list ++ (stack.take count).reverse)

end TreeAssembly
