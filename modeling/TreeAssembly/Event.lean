import TreeAssembly.Literal

/-!
# Construction events

A parser reports each production it recognises as one event, in source order; the
builder folds the events into a program tree.  Each event names one construction step,
carries that step's arguments, and the location of the production that caused it.
-/

namespace TreeAssembly

/-- One construction step, with its arguments; the location is kept beside it in
`Event`. -/
inductive Step where
  -- identifiers and packages
  | symbolName (name : String)
  | connectorSymbolName (connector action : String)
  | packageName (name : String)
  | packageDecl
  | importPackage (given : Option String)
  -- types
  | type (name : String)
  | arrayType (name : String)
  | registerConnectorType (name : String)
  -- annotations
  | annotationStart
  | annotationKeyValue (key : String)
  | annotationEnd (name : String) (valueAvailable : Bool)
  -- parameters and declarations
  | param (name : String)
  | returnTypes
  | namedReturnParam (name : String)
  | constant (name : String)
  | variableDecl (name : String)
  | connectorDecl (name : String)
  -- lists
  | startExprList
  | endExprList (count : Nat)
  | startVarRefList
  | endVarRefList (count : Nat)
  | startMapInitKeyValue
  | endMapInitKeyValue (count : Nat)
  -- expressions
  | literal (kind : LiteralKind) (text : String)
  | varRef (name : String)
  | mapArrayVarRef (name : String)
  | structFieldRef
  | binaryExpr (op : String)
  | unaryExpr (op : String)
  | backtickExpr (text : String)
  | functionInvocationExpr
  | actionInvocationExpr
  | typeCastExpr
  | instanceCreationExpr (typeName : String) (argsAvailable : Bool)
  | structInitExpr (name : String)
  | arrayInitExpr (elementsAvailable : Bool)
  | mapInitKeyValue (key : String)
  | mapInitExpr (entriesAvailable : Bool)
  -- statements
  | assignmentStmt
  | returnStmt (valuesAvailable : Bool)
  | replyStmt
  | startWhileStmt
  | endWhileStmt
  | startIfElseStmt
  | startElseIfClause
  | endElseIfClause
  | startElseClause
  | endElseClause
  | endIfElseStmt
  | startBlock
  | endBlock
  | functionInvocationStmt
  | actionInvocationStmt
  -- callable units and groups
  | startCallableUnit
  | startCallableUnitBody
  | endCallableUnitBody
  | function (name : String) (isPublic : Bool)
  | typeConverter (name : String) (isPublic : Bool)
  | resource (name : String)
  | action (name : String)
  | startCallableUnitGroup
  | service (name : String)
  | connector (name : String)
  -- structs
  | startStruct
  | structField (name : String)
  | structDefinition (name : String) (isPublic : Bool)
  deriving DecidableEq, Repr

/-- A construction step and the location of the production that caused it. -/
structure Event where
  step : Step
  loc : Location
  deriving DecidableEq, Repr

end TreeAssembly
