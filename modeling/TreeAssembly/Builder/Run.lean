import TreeAssembly.Builder.Decl

/-!
# Running a build

`Builder.apply` feeds one event to its assembler.  The first event that fails aborts
the builder: what its assembler did before it failed stays done, and every later event,
and the final `finish`, fail with `builder aborted by an earlier error` without changing
anything.

`Builder.finish` hands out the compilation unit and the registry once every stack is
empty and no callable unit, group or struct is still open; otherwise it names what is
left.  `Builder.replay` applies a list of events and reports, for each, the number of
expressions waiting afterwards or the error.
-/

namespace TreeAssembly

namespace Assembly

/-- The assembler of one construction step at its location. -/
def step (loc : Location) : Step → Assembly Unit
  | .symbolName name => do
    let pkg ← popPackageName?
    modifyStacks fun s => { s with symbolNames := .withPackage name pkg :: s.symbolNames }
  | .connectorSymbolName connector action => do
    let pkg ← popPackageName?
    modifyStacks fun s =>
      { s with symbolNames := .forAction connector action pkg :: s.symbolNames }
  | .packageName name =>
    modifyStacks fun s => { s with packageNames := name :: s.packageNames }
  | .packageDecl => do
    let name ← popPackageName loc
    modify fun b => { b with package := some name }
    modifyFile fun f => { f with package := some name }
  | .importPackage given => do
    let path ← popPackageName loc
    modifyFile fun f =>
      { f with imports := f.imports ++ [{ path, name := ImportPackage.nameFor path given, loc }] }
  | .type name => do queueType ((← get).registry.resolve name)
  | .arrayType name => do
    let (t, r) := (← get).registry.arrayOf name
    modify fun b => { b with registry := r }
    queueType t
  | .registerConnectorType name =>
    modify fun b => { b with registry := (b.registry.registerConnector name).2 }
  | .annotationStart => annotationStart
  | .annotationKeyValue key => annotationKeyValue key loc
  | .annotationEnd name valueAvailable => annotationEnd name valueAvailable loc
  | .param name => param name loc
  | .returnTypes => returnTypes loc
  | .namedReturnParam name => namedReturnParam name loc
  | .constant name => constant name loc
  | .variableDecl name => variableDecl name loc
  | .connectorDecl name => connectorDecl name loc
  | .startExprList => startExprList
  | .endExprList count => endExprList count loc
  | .startVarRefList => startExprList
  | .endVarRefList count => endExprList count loc
  | .startMapInitKeyValue => startKeyValueList
  | .endMapInitKeyValue count => endKeyValueList count loc
  | .literal kind text => literal kind text loc
  | .varRef name => pushExpr (.var { name } loc)
  | .mapArrayVarRef name => element name loc
  | .structFieldRef => fieldAccess loc
  | .binaryExpr op => binary op loc
  | .unaryExpr op => unary op loc
  | .backtickExpr text => template text loc
  | .functionInvocationExpr => callExpr .function loc
  | .actionInvocationExpr => callExpr .action loc
  | .typeCastExpr => cast loc
  | .instanceCreationExpr typeName argsAvailable => instanceCreation typeName argsAvailable loc
  | .structInitExpr name => pushExpr (.structInit { name } loc)
  | .arrayInitExpr elementsAvailable => arrayInit elementsAvailable loc
  | .mapInitKeyValue key => keyValue key loc
  | .mapInitExpr entriesAvailable => mapInit entriesAvailable loc
  | .assignmentStmt => assignment loc
  | .returnStmt valuesAvailable => returnStmt valuesAvailable loc
  | .replyStmt => reply loc
  | .startWhileStmt => openBlock loc
  | .endWhileStmt => endWhile loc
  | .startIfElseStmt => startIfElse loc
  | .startElseIfClause => openBlock loc
  | .endElseIfClause => endElseIf loc
  | .startElseClause => openBlock loc
  | .endElseClause => endElse loc
  | .endIfElseStmt => endIfElse loc
  | .startBlock => openBlock loc
  | .endBlock => endBlock loc
  | .functionInvocationStmt => callStmt .function loc
  | .actionInvocationStmt => callStmt .action loc
  | .startCallableUnit => startUnit loc
  | .startCallableUnitBody => openBlock loc
  | .endCallableUnitBody => endUnitBody loc
  | .function name isPublic => topLevelUnit .function name isPublic loc
  | .typeConverter name isPublic => topLevelUnit .typeConverter name isPublic loc
  | .resource name => groupedUnit .resource name loc
  | .action name => groupedUnit .action name loc
  | .startCallableUnitGroup => startGroup loc
  | .service name => finishGroup .service name loc
  | .connector name => finishGroup .connector name loc
  | .startStruct => startStruct loc
  | .structField name => structField name loc
  | .structDefinition name isPublic => structDefinition name isPublic loc

end Assembly

namespace Builder

/-- A builder over a registry carried in from earlier builds. -/
def withRegistry (r : Registry) : Builder := { registry := r }

/-- The number of expressions waiting on the expression stack. -/
def pendingExprs (b : Builder) : Nat := b.piles.exprs.length

/-- Applies one event.  An aborted builder refuses it; a failing event aborts the
builder, which keeps what the assembler changed before it failed. -/
def apply (b : Builder) (e : Event) : Builder × Except BuildError Unit :=
  if b.aborted then (b, .error .aborted)
  else
    match (Assembly.step e.loc e.step).run b with
    | .ok () b' => (b', .ok ())
    | .error err b' => ({ b' with aborted := true }, .error err)

/-- The finished compilation unit and the registry, or what is still pending. -/
def finish (b : Builder) : Except BuildError (CompilationUnit × Registry) :=
  if b.aborted then .error .aborted
  else
    match b.piles.pending with
    | _ :: _ => .error (.structural (.unbalanced b.piles.pending) none)
    | [] =>
      if b.unit.isSome then .error (.structural (.unfinished .unit) none)
      else if b.group.isSome then .error (.structural (.unfinished .group) none)
      else if b.struct.isSome then .error (.structural (.unfinished .struct) none)
      else .ok (b.file, b.registry)

/-- Applies events in order; each outcome is the number of waiting expressions after the
event, or the event's error. -/
def applyAll (b : Builder) : List Event → Builder × List (Except BuildError Nat)
  | [] => (b, [])
  | e :: es =>
    let (b, r) := b.apply e
    let outcome := r.map fun () => b.pendingExprs
    let (b, rs) := applyAll b es
    (b, outcome :: rs)

end Builder

end TreeAssembly
