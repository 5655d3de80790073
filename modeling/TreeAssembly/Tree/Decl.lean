import TreeAssembly.Tree.Stmt

/-!
# Declarations and the compilation unit

The finished top-level pieces of a program: callable units (functions, actions,
resources, type converters), groups of them (services of resources, connectors of
actions), structs, constants and imports, gathered in one `CompilationUnit` per built
file.
-/

namespace TreeAssembly

/-- A `key = "value"` pair of an annotation. -/
structure AnnotationKeyValue where
  key : String
  value : String
  deriving DecidableEq, Repr

/-- An annotation such as `@Path("/echo")`, with its positional value if any. -/
structure Annotation where
  name : SymbolName
  value : Option String
  keyValues : List AnnotationKeyValue
  loc : Location
  deriving Repr

/-- A parameter or return parameter; return parameters may be unnamed. -/
structure Parameter where
  name : Option SymbolName
  ty : ValueType
  loc : Location
  deriving Repr

/-- `Conn c = new Conn(args);` -/
structure ConnectorDecl where
  connector : SymbolName
  varName : SymbolName
  args : List Expr
  loc : Location
  deriving Repr

/-- A constant with its type and value. -/
structure Const where
  name : SymbolName
  ty : ValueType
  value : Expr
  loc : Location
  deriving Repr

/-- An imported package and the name it is known by. -/
structure ImportPackage where
  path : String
  /-- The alias if one was given, otherwise the last segment of the path. -/
  name : String
  loc : Location
  deriving DecidableEq, Repr

/-- The name an import is known by: the alias when given, even an empty one, and
otherwise the part of the path after its last `.`. -/
def ImportPackage.nameFor (path : String) (given : Option String) : String :=
  match given with
  | some a => a
  | none => String.ofList ((path.toList.reverse.takeWhile (· != '.')).reverse)

/-- A struct declaration. -/
structure StructDecl where
  name : SymbolName
  isPublic : Bool
  fields : List VariableDecl
  loc : Location
  deriving Repr

/-- The kinds of callable units. -/
inductive UnitKind where
  | function
  | action
  | resource
  | typeConverter
  deriving DecidableEq, Repr

/-- The name of a unit kind in the tree's text forms. -/
def UnitKind.label : UnitKind → String
  | .function => "Function"
  | .action => "Action"
  | .resource => "Resource"
  | .typeConverter => "TypeConverter"

/-- A function, action, resource or type converter. -/
structure CallableUnit where
  kind : UnitKind
  name : SymbolName
  isPublic : Bool
  annotations : List Annotation
  parameters : List Parameter
  returnParameters : List Parameter
  connectorDecls : List ConnectorDecl
  body : Block
  /-- Filled in by the pass that lays out stack frames; always zero here. -/
  frameSize : Nat
  loc : Location

/-- The kinds of groups of callable units. -/
inductive GroupKind where
  | service
  | connector
  deriving DecidableEq, Repr

/-- The name of a group kind in the tree's text forms. -/
def GroupKind.label : GroupKind → String
  | .service => "Service"
  | .connector => "Connector"

/-- A service (of resources) or a connector (of actions). -/
structure Group where
  kind : GroupKind
  name : SymbolName
  annotations : List Annotation
  parameters : List Parameter
  connectorDecls : List ConnectorDecl
  variableDecls : List VariableDecl
  units : List CallableUnit
  loc : Location

/-- The unit of the group with the given bare name. -/
def Group.findUnit? (g : Group) (name : String) : Option CallableUnit :=
  g.units.find? (·.name.name == name)

/-- The root of one built file. -/
structure CompilationUnit where
  package : Option String := none
  imports : List ImportPackage := []
  consts : List Const := []
  structs : List StructDecl := []
  services : List Group := []
  connectors : List Group := []
  functions : List CallableUnit := []
  typeConverters : List CallableUnit := []

namespace CompilationUnit

/-- The function with the given bare name. -/
def findFunction? (u : CompilationUnit) (name : String) : Option CallableUnit :=
  u.functions.find? (·.name.name == name)

/-- The connector with the given bare name. -/
def findConnector? (u : CompilationUnit) (name : String) : Option Group :=
  u.connectors.find? (·.name.name == name)

/-- The service with the given bare name. -/
def findService? (u : CompilationUnit) (name : String) : Option Group :=
  u.services.find? (·.name.name == name)

end CompilationUnit

end TreeAssembly
