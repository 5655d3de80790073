import TreeAssembly.Builder.Replay

/-!
# Derivations of the event grammar, and the trees they denote

A parser reports a file as the post-order flattening of the derivation it recognised:
every construct emits the events of its parts first and then the event that closes it, a
list is bracketed by a start event and an end event that counts its elements, and a
conditional is

    startIfElse c₀ B₀ (startElseIf cᵢ Bᵢ endElseIf)* (startElse E endElse)? endIfElse.

This file writes that grammar down as inductive types, one per kind of construct, with
the locations of every event they emit; `events` flattens a derivation into the event list
a parser sends.  Beside it, `eval` is the reference construction: a plain recursion over
the derivation that builds the tree in source order, with no piles at all.  It reads the
same leaves as the builder does (literal tokens, operator symbols, type names through the
registry), and it fails with the first source error in source order.

The registry and the warnings about dropped constructor arguments are the only state the
recursion threads (`Ambient`); the package that qualifies top-level names is threaded by
the file-level recursion only.  An action declared in a connector is named in that
connector directly, with no second phase.
-/

namespace TreeAssembly

/-- What the reference construction threads through a file: the type registry, and the
warnings about constructor arguments that were dropped. -/
structure Ambient where
  registry : Registry
  warnings : List Warning

namespace Ambient

/-- Records that `count` constructor arguments of a `new typeName` were dropped; nothing
is recorded when there were none. -/
def warn (a : Ambient) (loc : Location) (typeName : String) (count : Nat) : Ambient :=
  if count = 0 then a else { a with warnings := a.warnings ++ [⟨loc, typeName, count⟩] }

end Ambient

/-- The node of `new typeName`: an instance creation of a registered type that is not a
struct, and a struct initialiser for every other name. -/
def Registry.instanceOf (r : Registry) (typeName : String) (loc : Location) : Expr :=
  match r.lookup typeName with
  | some t => if t.isStruct then .structInit { name := typeName } loc else .construct t loc
  | none => .structInit { name := typeName } loc

/-- A field link of the reference construction: only references have fields. -/
def Expr.linkField (reference : Expr) (next : Option Expr) (loc : Location) :
    Except BuildError Expr :=
  match reference.referenceName with
  | some name => .ok (.field name reference next loc)
  | none => .error (.structural .fieldOfNonReference (some loc))

/-- The string of an annotation entry, which must be a string literal. -/
def Expr.annotationText (e : Expr) (loc : Location) : Except BuildError String :=
  match e.stringValue? with
  | some s => .ok s
  | none => .error (.source .annotationValue loc)

/-! ## Leaves -/

/-- A type named by a declaration or a cast: one `type` or `arrayType` event. -/
inductive TypeD where
  | named (name : String) (loc : Location)
  | array (element : String) (loc : Location)

namespace TypeD

/-- The event that names the type. -/
def event : TypeD → Event
  | named name loc => ⟨.type name, loc⟩
  | array element loc => ⟨.arrayType element, loc⟩

/-- The type, resolved through the registry; an array type is remembered there. -/
def eval (a : Ambient) : TypeD → ValueType × Ambient
  | named name _ => (a.registry.resolve name, a)
  | array element _ =>
    let (t, r) := a.registry.arrayOf element
    (t, { a with registry := r })

/-- The types of a list of type names, in order. -/
@[simp] def evalList (a : Ambient) : List TypeD → List ValueType × Ambient
  | [] => ([], a)
  | t :: ts =>
    let (ty, a) := t.eval a
    let (tys, a) := evalList a ts
    (ty :: tys, a)

end TypeD

/-- The name of a callee or of a connector: an optional package name, then the name, plain
or an action reached through a connector. -/
inductive NameD where
  | plain (pkg : Option (String × Location)) (name : String) (loc : Location)
  | action (pkg : Option (String × Location)) (connector action : String) (loc : Location)

namespace NameD

/-- The package name event, if any, then the name event. -/
def events : NameD → List Event
  | plain pkg name loc => (pkg.map fun (p, l) => ⟨.packageName p, l⟩).toList ++ [⟨.symbolName name, loc⟩]
  | action pkg connector act loc =>
    (pkg.map fun (p, l) => ⟨.packageName p, l⟩).toList ++ [⟨.connectorSymbolName connector act, loc⟩]

/-- The symbol the name denotes. -/
def symbol : NameD → SymbolName
  | plain pkg name _ => .withPackage name (pkg.map (·.1))
  | action pkg connector act _ => .forAction connector act (pkg.map (·.1))

end NameD

/-- The event that closes a call expression of the given kind. -/
def CallKind.exprStep : CallKind → Step
  | .function => .functionInvocationExpr
  | .action => .actionInvocationExpr

/-- The event that closes a call statement of the given kind. -/
def CallKind.stmtStep : CallKind → Step
  | .function => .functionInvocationStmt
  | .action => .actionInvocationStmt

/-! ## Expressions -/

mutual

/-- A derivation of an expression.  Lists are opened at one location and closed at
another, with as many elements as they hold; a constructor call, an array and a map may
come with or without their list. -/
inductive ExprD where
  | literal (kind : LiteralKind) (text : String) (loc : Location)
  | var (name : String) (loc : Location)
  | element (name : String) (index : ExprD) (loc : Location)
  | field (reference member : ExprD) (loc : Location)
  | binary (op : String) (lhs rhs : ExprD) (loc : Location)
  | unary (op : String) (operand : ExprD) (loc : Location)
  | template (token : String) (loc : Location)
  | call (kind : CallKind) (callee : NameD) (start : Location) (args : List ExprD)
      (stop loc : Location)
  | cast (target : TypeD) (operand : ExprD) (loc : Location)
  | construct (typeName : String) (loc : Location)
  | constructWith (typeName : String) (start : Location) (args : List ExprD)
      (stop loc : Location)
  | structInit (name : String) (loc : Location)
  | arrayInit (loc : Location)
  | arrayOf (start : Location) (elements : List ExprD) (stop loc : Location)
  | mapInit (loc : Location)
  | mapOf (start : Location) (entries : List EntryD) (stop loc : Location)

/-- A `key: value` entry of a map initialiser. -/
inductive EntryD where
  | mk (value : ExprD) (key : String) (loc : Location)

end

mutual

/-- The events of an expression, in post order. -/
@[simp] def ExprD.events : ExprD → List Event
  | .literal kind text loc => [⟨.literal kind text, loc⟩]
  | .var name loc => [⟨.varRef name, loc⟩]
  | .element name index loc => index.events ++ [⟨.mapArrayVarRef name, loc⟩]
  | .field reference member loc =>
    reference.events ++ member.events ++ [⟨.structFieldRef, loc⟩]
  | .binary op lhs rhs loc => lhs.events ++ rhs.events ++ [⟨.binaryExpr op, loc⟩]
  | .unary op operand loc => operand.events ++ [⟨.unaryExpr op, loc⟩]
  | .template token loc => [⟨.backtickExpr token, loc⟩]
  | .call kind callee start args stop loc =>
    callee.events ++ ⟨.startExprList, start⟩ :: ExprD.listEvents args ++
      [⟨.endExprList args.length, stop⟩, ⟨kind.exprStep, loc⟩]
  | .cast target operand loc => target.event :: operand.events ++ [⟨.typeCastExpr, loc⟩]
  | .construct typeName loc => [⟨.instanceCreationExpr typeName false, loc⟩]
  | .constructWith typeName start args stop loc =>
    ⟨.startExprList, start⟩ :: ExprD.listEvents args ++
      [⟨.endExprList args.length, stop⟩, ⟨.instanceCreationExpr typeName true, loc⟩]
  | .structInit name loc => [⟨.structInitExpr name, loc⟩]
  | .arrayInit loc => [⟨.arrayInitExpr false, loc⟩]
  | .arrayOf start elements stop loc =>
    ⟨.startExprList, start⟩ :: ExprD.listEvents elements ++
      [⟨.endExprList elements.length, stop⟩, ⟨.arrayInitExpr true, loc⟩]
  | .mapInit loc => [⟨.mapInitExpr false, loc⟩]
  | .mapOf start entries stop loc =>
    ⟨.startMapInitKeyValue, start⟩ :: EntryD.listEvents entries ++
      [⟨.endMapInitKeyValue entries.length, stop⟩, ⟨.mapInitExpr true, loc⟩]

/-- The events of the items of a list, one item after the other. -/
@[simp] def ExprD.listEvents : List ExprD → List Event
  | [] => []
  | e :: es => e.events ++ ExprD.listEvents es

/-- The events of a map entry: its value, then the entry. -/
@[simp] def EntryD.events : EntryD → List Event
  | .mk value key loc => value.events ++ [⟨.mapInitKeyValue key, loc⟩]

/-- The events of the entries of a map, one entry after the other. -/
@[simp] def EntryD.listEvents : List EntryD → List Event
  | [] => []
  | d :: ds => d.events ++ EntryD.listEvents ds

end

mutual

/-- **The reference construction of an expression**: the node the derivation denotes,
built bottom-up in source order, and the ambient after it. -/
@[simp] def ExprD.eval (a : Ambient) : ExprD → Except BuildError (Expr × Ambient)
  | .literal kind text loc => do
    let v ← Literal.read kind text loc
    return (.lit v loc, a)
  | .var name loc => return (.var { name } loc, a)
  | .element name index loc => do
    let (i, a) ← index.eval a
    return (.element { name } (.var { name } loc) i loc, a)
  | .field reference member loc => do
    let (r, a) ← reference.eval a
    let (m, a) ← member.eval a
    let m ← if m.isField then pure m else m.linkField none loc
    let r ← r.linkField (some m) loc
    return (r, a)
  | .binary op lhs rhs loc => do
    let (l, a) ← lhs.eval a
    let (r, a) ← rhs.eval a
    match BinaryOp.ofSymbol? op with
    | some o => return (.binary o l r loc, a)
    | none => throw (.source (.unsupportedOperator op) loc)
  | .unary op operand loc => do
    let (x, a) ← operand.eval a
    match UnaryOp.ofSymbol? op with
    | some o => return (.unary o x loc, a)
    | none => throw (.source (.unsupportedOperator op) loc)
  | .template token loc =>
    match templateText token with
    | some text => return (.template text loc, a)
    | none => throw (.source (.malformedTemplate token) loc)
  | .call kind callee _ args _ loc => do
    let (xs, a) ← ExprD.evalList a args
    return (.call kind callee.symbol xs loc, a)
  | .cast target operand loc => do
    let (t, a) := target.eval a
    let (x, a) ← operand.eval a
    return (.cast t x loc, a)
  | .construct typeName loc => return (a.registry.instanceOf typeName loc, a)
  | .constructWith typeName _ args _ loc => do
    let (xs, a) ← ExprD.evalList a args
    let a := a.warn loc typeName xs.length
    return (a.registry.instanceOf typeName loc, a)
  | .structInit name loc => return (.structInit { name } loc, a)
  | .arrayInit loc => return (.arrayInit [] loc, a)
  | .arrayOf _ elements _ loc => do
    let (xs, a) ← ExprD.evalList a elements
    return (.arrayInit xs loc, a)
  | .mapInit loc => return (.mapInit [] loc, a)
  | .mapOf _ entries _ loc => do
    let (kvs, a) ← EntryD.evalList a entries
    return (.mapInit kvs loc, a)

/-- The reference construction of the items of a list, in order. -/
@[simp] def ExprD.evalList (a : Ambient) : List ExprD → Except BuildError (List Expr × Ambient)
  | [] => return ([], a)
  | e :: es => do
    let (x, a) ← e.eval a
    let (xs, a) ← ExprD.evalList a es
    return (x :: xs, a)

/-- The key-value node of a map entry. -/
@[simp] def EntryD.eval (a : Ambient) : EntryD → Except BuildError (Expr × Ambient)
  | .mk value key loc => do
    let (v, a) ← value.eval a
    return (.keyValue key v loc, a)

/-- The key-value nodes of the entries of a map, in order. -/
@[simp] def EntryD.evalList (a : Ambient) : List EntryD → Except BuildError (List Expr × Ambient)
  | [] => return ([], a)
  | d :: ds => do
    let (x, a) ← d.eval a
    let (xs, a) ← EntryD.evalList a ds
    return (x :: xs, a)

end

/-! ## Statements -/

/-- A typed name: a local variable, a parameter, a struct field or a group variable. -/
structure DeclD where
  ty : TypeD
  name : String
  loc : Location

namespace DeclD

/-- The type event, then the event that declares the name (`step` says which kind of
declaration it is). -/
def events (step : String → Step) (d : DeclD) : List Event :=
  [d.ty.event, ⟨step d.name, d.loc⟩]

/-- The declared variable, with its type resolved. -/
def eval (a : Ambient) (d : DeclD) : VariableDecl × Ambient :=
  let (t, a) := d.ty.eval a
  ({ name := { name := d.name }, ty := t, loc := d.loc }, a)

/-- The declared variables of a list of declarations, in order. -/
@[simp] def evalList (a : Ambient) : List DeclD → List VariableDecl × Ambient
  | [] => ([], a)
  | d :: ds =>
    let (v, a) := d.eval a
    let (vs, a) := evalList a ds
    (v :: vs, a)

end DeclD

/-- A declared variable as a named parameter. -/
def VariableDecl.toParameter (v : VariableDecl) : Parameter :=
  { name := some v.name, ty := v.ty, loc := v.loc }

mutual

/-- A derivation of a statement.  A loop, a block and each clause of a conditional are
opened at one location and closed at another. -/
inductive StmtD where
  | varDef (decl : DeclD)
  | assign (start : Location) (targets : List ExprD) (stop : Location) (value : ExprD)
      (loc : Location)
  | ret (loc : Location)
  | retOf (start : Location) (values : List ExprD) (stop loc : Location)
  | reply (value : ExprD) (loc : Location)
  | loop (start : Location) (condition : ExprD) (body : List StmtD) (stop : Location)
  | ifElse (start : Location) (condition : ExprD) (body : List StmtD)
      (clauses : List ClauseD) (elseClause : Option ElseD) (stop : Location)
  | block (start : Location) (body : List StmtD) (stop : Location)
  | call (kind : CallKind) (callee : NameD) (start : Location) (args : List ExprD)
      (stop loc : Location)

/-- An `else if` clause: its condition and its block. -/
inductive ClauseD where
  | mk (start : Location) (condition : ExprD) (body : List StmtD) (stop : Location)

/-- The `else` clause of a conditional. -/
inductive ElseD where
  | mk (start : Location) (body : List StmtD) (stop : Location)

end

mutual

/-- The events of a statement, in post order. -/
@[simp] def StmtD.events : StmtD → List Event
  | .varDef d => d.events .variableDecl
  | .assign start targets stop value loc =>
    ⟨.startVarRefList, start⟩ :: ExprD.listEvents targets ++
      ⟨.endVarRefList targets.length, stop⟩ :: value.events ++ [⟨.assignmentStmt, loc⟩]
  | .ret loc => [⟨.returnStmt false, loc⟩]
  | .retOf start values stop loc =>
    ⟨.startExprList, start⟩ :: ExprD.listEvents values ++
      [⟨.endExprList values.length, stop⟩, ⟨.returnStmt true, loc⟩]
  | .reply value loc => value.events ++ [⟨.replyStmt, loc⟩]
  | .loop start condition body stop =>
    ⟨.startWhileStmt, start⟩ :: condition.events ++ StmtD.listEvents body ++
      [⟨.endWhileStmt, stop⟩]
  | .ifElse start condition body clauses elseClause stop =>
    ⟨.startIfElseStmt, start⟩ :: condition.events ++ StmtD.listEvents body ++
      ClauseD.listEvents clauses ++ ElseD.optEvents elseClause ++ [⟨.endIfElseStmt, stop⟩]
  | .block start body stop =>
    ⟨.startBlock, start⟩ :: StmtD.listEvents body ++ [⟨.endBlock, stop⟩]
  | .call kind callee start args stop loc =>
    callee.events ++ ⟨.startExprList, start⟩ :: ExprD.listEvents args ++
      [⟨.endExprList args.length, stop⟩, ⟨kind.stmtStep, loc⟩]

/-- The events of the statements of a block, one statement after the other. -/
@[simp] def StmtD.listEvents : List StmtD → List Event
  | [] => []
  | s :: ss => s.events ++ StmtD.listEvents ss

/-- The events of an `else if` clause. -/
@[simp] def ClauseD.events : ClauseD → List Event
  | .mk start condition body stop =>
    ⟨.startElseIfClause, start⟩ :: condition.events ++ StmtD.listEvents body ++
      [⟨.endElseIfClause, stop⟩]

/-- The events of the `else if` clauses of a conditional, in order. -/
@[simp] def ClauseD.listEvents : List ClauseD → List Event
  | [] => []
  | c :: cs => c.events ++ ClauseD.listEvents cs

/-- The events of the `else` clause, when there is one. -/
@[simp] def ElseD.optEvents : Option ElseD → List Event
  | none => []
  | some (.mk start body stop) =>
    ⟨.startElseClause, start⟩ :: StmtD.listEvents body ++ [⟨.endElseClause, stop⟩]

end

mutual

/-- **The reference construction of a statement.**  A conditional's primary branch, and
the conditional itself, sit where it started; an `else if` branch sits where its clause
started. -/
@[simp] def StmtD.eval (a : Ambient) : StmtD → Except BuildError (Stmt × Ambient)
  | .varDef d =>
    let (v, a) := d.eval a
    return (.varDef v d.loc, a)
  | .assign _ targets _ value loc => do
    let (ts, a) ← ExprD.evalList a targets
    let (v, a) ← value.eval a
    return (.assign ts v loc, a)
  | .ret loc => return (.ret [] loc, a)
  | .retOf _ values _ loc => do
    let (vs, a) ← ExprD.evalList a values
    return (.ret vs loc, a)
  | .reply value loc => do
    let (v, a) ← value.eval a
    return (.reply v loc, a)
  | .loop start condition body stop => do
    let (c, a) ← condition.eval a
    let (ss, a) ← StmtD.evalList a body
    return (.loop c (.mk ss start) stop, a)
  | .ifElse start condition body clauses elseClause _ => do
    let (c, a) ← condition.eval a
    let (ss, a) ← StmtD.evalList a body
    let (bs, a) ← ClauseD.evalList a clauses
    let (e, a) ← ElseD.evalOpt a elseClause
    return (.ifElse (.mk c (.mk ss start) start :: bs) e start, a)
  | .block start body stop => do
    let (ss, a) ← StmtD.evalList a body
    return (.block (.mk ss start) stop, a)
  | .call kind callee _ args _ loc => do
    let (xs, a) ← ExprD.evalList a args
    return (.call kind callee.symbol xs loc, a)

/-- The reference construction of the statements of a block, in order. -/
@[simp] def StmtD.evalList (a : Ambient) : List StmtD → Except BuildError (List Stmt × Ambient)
  | [] => return ([], a)
  | s :: ss => do
    let (x, a) ← s.eval a
    let (xs, a) ← StmtD.evalList a ss
    return (x :: xs, a)

/-- The branch of an `else if` clause. -/
@[simp] def ClauseD.eval (a : Ambient) : ClauseD → Except BuildError (Branch × Ambient)
  | .mk start condition body _ => do
    let (c, a) ← condition.eval a
    let (ss, a) ← StmtD.evalList a body
    return (.mk c (.mk ss start) start, a)

/-- The branches of the `else if` clauses, in order. -/
@[simp] def ClauseD.evalList (a : Ambient) : List ClauseD → Except BuildError (List Branch × Ambient)
  | [] => return ([], a)
  | c :: cs => do
    let (x, a) ← c.eval a
    let (xs, a) ← ClauseD.evalList a cs
    return (x :: xs, a)

/-- The `else` block, when there is an `else` clause. -/
@[simp] def ElseD.evalOpt (a : Ambient) : Option ElseD → Except BuildError (Option Block × Ambient)
  | none => return (none, a)
  | some (.mk start body _) => do
    let (ss, a) ← StmtD.evalList a body
    return (some (.mk ss start), a)

end

/-! ## Callable units -/

/-- A `key = value` entry of an annotation. -/
structure AnnotationEntryD where
  value : ExprD
  key : String
  loc : Location

/-- An annotation: its entries, then its positional value when it has one. -/
structure AnnotationD where
  start : Location
  entries : List AnnotationEntryD
  value : Option ExprD
  name : String
  loc : Location

/-- A return parameter list: unnamed types, or one named parameter. -/
inductive ReturnD where
  | unnamed (types : List TypeD) (loc : Location)
  | named (ty : TypeD) (name : String) (loc : Location)

/-- The body of a callable unit: its statements between an opening and a closing event. -/
structure BodyD where
  start : Location
  statements : List StmtD
  stop : Location

/-- A callable unit up to the event that names it: its annotations, parameters, return
parameters and optional body. -/
structure UnitD where
  start : Location
  annotations : List AnnotationD
  params : List DeclD
  returns : List ReturnD
  body : Option BodyD

namespace AnnotationEntryD

/-- The value's events, then the entry. -/
def events (d : AnnotationEntryD) : List Event :=
  d.value.events ++ [⟨.annotationKeyValue d.key, d.loc⟩]

/-- The entry, whose value must be a string literal. -/
def eval (a : Ambient) (d : AnnotationEntryD) : Except BuildError (AnnotationKeyValue × Ambient) := do
  let (v, a) ← d.value.eval a
  let text ← v.annotationText d.loc
  return (⟨d.key, text⟩, a)

/-- The entries of an annotation, in order. -/
@[simp] def evalList (a : Ambient) : List AnnotationEntryD →
    Except BuildError (List AnnotationKeyValue × Ambient)
  | [] => return ([], a)
  | d :: ds => do
    let (x, a) ← d.eval a
    let (xs, a) ← evalList a ds
    return (x :: xs, a)

end AnnotationEntryD

namespace AnnotationD

/-- The events of the optional positional value. -/
def valueEvents (d : AnnotationD) : List Event :=
  (d.value.map ExprD.events).getD []

/-- The events of an annotation. -/
def events (d : AnnotationD) : List Event :=
  ⟨.annotationStart, d.start⟩ :: d.entries.flatMap AnnotationEntryD.events ++ d.valueEvents ++
    [⟨.annotationEnd d.name d.value.isSome, d.loc⟩]

/-- The positional value, which must be a string literal when there is one. -/
def evalValue (a : Ambient) (loc : Location) :
    Option ExprD → Except BuildError (Option String × Ambient)
  | none => return (none, a)
  | some e => do
    let (v, a) ← e.eval a
    let text ← v.annotationText loc
    return (some text, a)

/-- The annotation. -/
def eval (a : Ambient) (d : AnnotationD) : Except BuildError ( Annotation × Ambient) := do
  let (kvs, a) ← AnnotationEntryD.evalList a d.entries
  let (value, a) ← evalValue a d.loc d.value
  return ({ name := { name := d.name }, value, keyValues := kvs, loc := d.loc }, a)

/-- The annotations of a unit or a group, in order. -/
@[simp] def evalList (a : Ambient) : List AnnotationD → Except BuildError (List Annotation × Ambient)
  | [] => return ([], a)
  | d :: ds => do
    let (x, a) ← d.eval a
    let (xs, a) ← evalList a ds
    return (x :: xs, a)

end AnnotationD

namespace ReturnD

/-- The type events, then the event that declares them. -/
def events : ReturnD → List Event
  | unnamed types loc => types.map TypeD.event ++ [⟨.returnTypes, loc⟩]
  | named ty name loc => [ty.event, ⟨.namedReturnParam name, loc⟩]

/-- The return parameters it declares: unnamed ones at the declaration, or one named
parameter. -/
def eval (a : Ambient) : ReturnD → List Parameter × Ambient
  | unnamed types loc =>
    let (tys, a) := TypeD.evalList a types
    (tys.map fun ty => { name := none, ty, loc }, a)
  | named ty name loc =>
    let (t, a) := ty.eval a
    ([{ name := some { name }, ty := t, loc }], a)

/-- The return parameters of a list of declarations, in order. -/
@[simp] def evalList (a : Ambient) : List ReturnD → List Parameter × Ambient
  | [] => ([], a)
  | r :: rs =>
    let (ps, a) := r.eval a
    let (qs, a) := evalList a rs
    (ps ++ qs, a)

end ReturnD

namespace BodyD

/-- The body's events. -/
def events (d : BodyD) : List Event :=
  ⟨.startCallableUnitBody, d.start⟩ :: StmtD.listEvents d.statements ++
    [⟨.endCallableUnitBody, d.stop⟩]

/-- The body's block, which sits where the body was opened. -/
def eval (a : Ambient) (d : BodyD) : Except BuildError (Block × Ambient) := do
  let (ss, a) ← StmtD.evalList a d.statements
  return (.mk ss d.start, a)

end BodyD

/-- The block of an optional body. -/
def BodyD.evalOpt (a : Ambient) : Option BodyD → Except BuildError (Option Block × Ambient)
  | none => return (none, a)
  | some d => do
    let (blk, a) ← d.eval a
    return (some blk, a)

/-- What the events of a callable unit collect before the event that names it. -/
structure UnitParts where
  annotations : List Annotation
  parameters : List Parameter
  returnParameters : List Parameter
  body : Option Block

namespace UnitD

/-- The events of the body, when there is one. -/
def bodyEvents (u : UnitD) : List Event :=
  (u.body.map BodyD.events).getD []

/-- The events of a unit, up to the event that names it. -/
def events (u : UnitD) : List Event :=
  ⟨.startCallableUnit, u.start⟩ :: u.annotations.flatMap AnnotationD.events ++
    u.params.flatMap (DeclD.events .param) ++ u.returns.flatMap ReturnD.events ++ u.bodyEvents

/-- The parts of a unit, in the order its events give them. -/
def evalParts (a : Ambient) (u : UnitD) : Except BuildError (UnitParts × Ambient) := do
  let (annotations, a) ← AnnotationD.evalList a u.annotations
  let (params, a) := DeclD.evalList a u.params
  let (returns, a) := ReturnD.evalList a u.returns
  let (body, a) ← BodyD.evalOpt a u.body
  return (⟨annotations, params.map (·.toParameter), returns, body⟩, a)

/-- **The reference construction of a callable unit**, given the kind, name and
visibility that the event closing it supplies.  A unit without a body has an empty block
where it started. -/
def eval (a : Ambient) (u : UnitD) (kind : UnitKind) (name : SymbolName) (isPublic : Bool)
    (loc : Location) : Except BuildError (CallableUnit × Ambient) := do
  let (p, a) ← u.evalParts a
  return ({ kind, name, isPublic, annotations := p.annotations, parameters := p.parameters,
            returnParameters := p.returnParameters, connectorDecls := [],
            body := p.body.getD (.empty u.start), frameSize := 0, loc }, a)

end UnitD

/-! ## Services and connectors -/

/-- A member of a service or a connector. -/
inductive MemberD where
  | param (d : DeclD)
  | varDecl (d : DeclD)
  | connectorDecl (connector ctor : NameD) (start : Location) (args : List ExprD)
      (stop : Location) (varName : String) (loc : Location)
  | resource (u : UnitD) (name : String) (loc : Location)
  | action (u : UnitD) (name : String) (loc : Location)

/-- A service or a connector: its annotations and members, closed by the event that names
it. -/
structure GroupD where
  start : Location
  annotations : List AnnotationD
  members : List MemberD
  kind : GroupKind
  name : String
  loc : Location

/-- The event that closes a group of the given kind. -/
def GroupKind.step (kind : GroupKind) (name : String) : Step :=
  match kind with
  | .service => .service name
  | .connector => .connector name

namespace MemberD

/-- The events of a member. -/
def events : MemberD → List Event
  | param d => d.events .param
  | varDecl d => d.events .variableDecl
  | connectorDecl connector ctor start args stop varName loc =>
    connector.events ++ ctor.events ++ ⟨.startExprList, start⟩ :: ExprD.listEvents args ++
      [⟨.endExprList args.length, stop⟩, ⟨.connectorDecl varName, loc⟩]
  | resource u name loc => u.events ++ [⟨.resource name, loc⟩]
  | action u name loc => u.events ++ [⟨.action name, loc⟩]

/-- The name of a unit of a group.  In a connector (`owner` is its name), an action is
named in the connector outright; every other unit is named in the package only. -/
def unitName (pkg : Option String) (owner : Option String) (kind : UnitKind)
    (name : String) : SymbolName :=
  match kind, owner with
  | .action, some c => { SymbolName.withPackage name pkg with connectorName := some c }
  | _, _ => .withPackage name pkg

/-- Adds a member to the parts of its group collected so far. -/
def eval (a : Ambient) (pkg owner : Option String) (g : GroupFrame) :
    MemberD → Except BuildError (GroupFrame × Ambient)
  | param d =>
    let (v, a) := d.eval a
    .ok ({ g with parameters := g.parameters ++ [v.toParameter] }, a)
  | varDecl d =>
    let (v, a) := d.eval a
    .ok ({ g with variableDecls := g.variableDecls ++ [v] }, a)
  | connectorDecl connector _ _ args _ varName loc => do
    let (xs, a) ← ExprD.evalList a args
    let d : ConnectorDecl :=
      { connector := connector.symbol, varName := { name := varName }, args := xs, loc }
    return ({ g with connectorDecls := g.connectorDecls ++ [d] }, a)
  | resource u name loc => do
    let (cu, a) ← u.eval a .resource (unitName pkg owner .resource name) false loc
    return ({ g with units := g.units ++ [cu] }, a)
  | action u name loc => do
    let (cu, a) ← u.eval a .action (unitName pkg owner .action name) false loc
    return ({ g with units := g.units ++ [cu] }, a)

/-- Adds the members, in order. -/
@[simp] def evalList (a : Ambient) (pkg owner : Option String) (g : GroupFrame) :
    List MemberD → Except BuildError (GroupFrame × Ambient)
  | [] => .ok (g, a)
  | m :: ms => do
    let (g, a) ← m.eval a pkg owner g
    evalList a pkg owner g ms

end MemberD

namespace GroupD

/-- The events of a group. -/
def events (g : GroupD) : List Event :=
  ⟨.startCallableUnitGroup, g.start⟩ :: g.annotations.flatMap AnnotationD.events ++
    g.members.flatMap MemberD.events ++ [⟨g.kind.step g.name, g.loc⟩]

/-- The connector that owns the actions of a group: the group itself when it is a
connector. -/
def owner (g : GroupD) : Option String :=
  match g.kind with
  | .connector => some g.name
  | .service => none

/-- **The reference construction of a service or a connector**, in the package `pkg`. -/
def eval (a : Ambient) (pkg : Option String) (g : GroupD) :
    Except BuildError (Group × Ambient) := do
  let (annotations, a) ← AnnotationD.evalList a g.annotations
  let (parts, a) ← MemberD.evalList a pkg g.owner {} g.members
  return ({ kind := g.kind, name := .withPackage g.name pkg, annotations,
            parameters := parts.parameters, connectorDecls := parts.connectorDecls,
            variableDecls := parts.variableDecls, units := parts.units, loc := g.loc }, a)

end GroupD

/-! ## Files -/

/-- A top-level declaration. -/
inductive TopD where
  | package (name : String) (nameLoc loc : Location)
  | importPackage (path : String) (pathLoc : Location) (given : Option String)
      (loc : Location)
  | registerConnector (name : String) (loc : Location)
  | constant (ty : TypeD) (value : ExprD) (name : String) (loc : Location)
  | struct (start : Location) (fields : List DeclD) (name : String) (isPublic : Bool)
      (loc : Location)
  | function (u : UnitD) (name : String) (isPublic : Bool) (loc : Location)
  | typeConverter (u : UnitD) (name : String) (isPublic : Bool) (loc : Location)
  | group (g : GroupD)

/-- Adds a service or a connector to a compilation unit. -/
def CompilationUnit.addGroup (u : CompilationUnit) (g : Group) : CompilationUnit :=
  match g.kind with
  | .service => { u with services := u.services ++ [g] }
  | .connector => { u with connectors := u.connectors ++ [g] }

/-- What the reference construction of a file has built so far: the compilation unit,
the package that qualifies top-level names, and the ambient. -/
structure FileState where
  unit : CompilationUnit
  package : Option String
  ambient : Ambient

namespace TopD

/-- The events of a top-level declaration. -/
def events : TopD → List Event
  | package name nameLoc loc => [⟨.packageName name, nameLoc⟩, ⟨.packageDecl, loc⟩]
  | importPackage path pathLoc given loc =>
    [⟨.packageName path, pathLoc⟩, ⟨.importPackage given, loc⟩]
  | registerConnector name loc => [⟨.registerConnectorType name, loc⟩]
  | constant ty value name loc => ty.event :: value.events ++ [⟨.constant name, loc⟩]
  | struct start fields name isPublic loc =>
    ⟨.startStruct, start⟩ :: fields.flatMap (DeclD.events .structField) ++
      [⟨.structDefinition name isPublic, loc⟩]
  | function u name isPublic loc => u.events ++ [⟨.function name isPublic, loc⟩]
  | typeConverter u name isPublic loc => u.events ++ [⟨.typeConverter name isPublic, loc⟩]
  | group g => g.events

/-- Adds a top-level declaration to the file built so far. -/
def eval (s : FileState) : TopD → Except BuildError FileState
  | package name _ _ =>
    .ok { s with package := some name, unit := { s.unit with package := some name } }
  | importPackage path _ given loc =>
    .ok { s with unit := { s.unit with
      imports := s.unit.imports ++ [{ path, name := ImportPackage.nameFor path given, loc }] } }
  | registerConnector name _ =>
    .ok { s with ambient := { s.ambient with
      registry := (s.ambient.registry.registerConnector name).2 } }
  | constant ty value name loc => do
    let (t, a) := ty.eval s.ambient
    let (v, a) ← value.eval a
    let c : Const := { name := .withPackage name s.package, ty := t, value := v, loc }
    return { s with unit := { s.unit with consts := s.unit.consts ++ [c] }, ambient := a }
  | struct _ fields name isPublic loc =>
    let (fs, a) := DeclD.evalList s.ambient fields
    let d : StructDecl := { name := .withPackage name s.package, isPublic, fields := fs, loc }
    .ok { s with unit := { s.unit with structs := s.unit.structs ++ [d] },
                 ambient := { a with registry := (a.registry.registerStruct name).2 } }
  | function u name isPublic loc => do
    let (cu, a) ← u.eval s.ambient .function (.withPackage name s.package) isPublic loc
    return { s with unit := { s.unit with functions := s.unit.functions ++ [cu] }, ambient := a }
  | typeConverter u name isPublic loc => do
    let (cu, a) ← u.eval s.ambient .typeConverter (.withPackage name s.package) isPublic loc
    return { s with unit := { s.unit with typeConverters := s.unit.typeConverters ++ [cu] },
                    ambient := a }
  | group g => do
    let (grp, a) ← g.eval s.ambient s.package
    return { s with unit := s.unit.addGroup grp, ambient := a }

/-- Adds top-level declarations, in order. -/
@[simp] def evalList (s : FileState) : List TopD → Except BuildError FileState
  | [] => .ok s
  | t :: ts => do
    let s ← t.eval s
    evalList s ts

end TopD

/-- A derivation of a whole file: its top-level declarations in order. -/
structure FileD where
  decls : List TopD

namespace FileD

/-- The events a parser sends for the file. -/
def events (d : FileD) : List Event :=
  d.decls.flatMap TopD.events

/-- **The reference construction of a file** over the registry `r`: the compilation unit,
and the ambient it leaves (the registry handed back and the warnings). -/
def build (r : Registry) (d : FileD) : Except BuildError (CompilationUnit × Ambient) := do
  let s ← TopD.evalList { unit := {}, package := none, ambient := ⟨r, []⟩ } d.decls
  return (s.unit, s.ambient)

end FileD

end TreeAssembly
