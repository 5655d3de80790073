import TreeAssembly.Tree.Decl
import TreeAssembly.Outline.Basic
import TreeAssembly.Decimal.Layout

/-!
# The tree as an outline

The debug outline of a compilation unit shows every node as a record named for its
kind (`CallableUnit { … }`, `Expr { … }`, `NodeLocation { … }`) with its fields in
declaration order; a variant with data is a constructor (`Return([…])`,
`Array(Int)`), one with named data a record (`Binary { op: Add, … }`), and one without
data its bare name.  Absent optional values are `None`, present ones `Some(…)`.

Binary values are written with their fewest digits, ties going up, positionally for
decimal exponents from -4 to 15 and with an unsigned exponent otherwise (`1e300`,
`1e-7`); NaN is `NaN` and the infinities `inf` and `-inf`.
-/

namespace TreeAssembly

open Decimal in
/-- How the outline writes binary values of either precision. -/
def outlineFloat : Layout :=
  { lowest := -4, highest := 15, plusSign := false, tie := .up, nanText := "NaN",
    infinityText := "inf" }

namespace TreeOutline

open Outline

/-- A location. -/
def location (l : Location) : Outline :=
  record "NodeLocation" [("file", text l.file), ("line", atom (toString l.line.toNat))]

/-- A symbol name. -/
def symbol (s : SymbolName) : Outline :=
  record "SymbolName" [("name", text s.name), ("pkg_path", opt text s.pkgPath),
    ("connector_name", opt text s.connectorName)]

/-- A type. -/
def type : ValueType → Outline
  | .int => atom "Int"
  | .long => atom "Long"
  | .float => atom "Float"
  | .double => atom "Double"
  | .boolean => atom "Boolean"
  | .string => atom "String"
  | .message => atom "Message"
  | .map => atom "Map"
  | .xml => atom "Xml"
  | .json => atom "Json"
  | .array t => tuple "Array" [type t]
  | .struct n => tuple "Struct" [text n]
  | .connector n => tuple "Connector" [text n]

/-- A literal value. -/
def literal : Literal → Outline
  | .int v => tuple "Int" [atom (toString v.toInt)]
  | .long v => tuple "Long" [atom (toString v.toInt)]
  | .float v => tuple "Float" [atom (outlineFloat.write .binary32 v.bits.toNat)]
  | .double v => tuple "Double" [atom (outlineFloat.write .binary64 v.bits.toNat)]
  | .boolean b => tuple "Boolean" [flag b]
  | .string s => tuple "String" [text s]

/-- An expression node around the outline of its kind. -/
def node (e : Expr) (kind : Outline) : Outline :=
  record "Expr" [("kind", kind), ("ty", opt type e.ty), ("location", location e.location)]

mutual

/-- An expression. -/
def expr : Expr → Outline
  | e@(.lit v _) => node e (tuple "Literal" [literal v])
  | e@(.var name _) => node e (tuple "VariableRef" [symbol name])
  | e@(.element name base index _) =>
    node e (record "ArrayMapAccess"
      [("name", symbol name), ("base", expr base), ("index", expr index)])
  | e@(.field name reference next _) =>
    node e (tuple "StructFieldAccess" [record "FieldAccess"
      [("name", symbol name), ("reference", expr reference), ("field", optExpr next)]])
  | e@(.binary op lhs rhs _) =>
    node e (record "Binary" [("op", atom op.label), ("lhs", expr lhs), ("rhs", expr rhs)])
  | e@(.unary op operand _) =>
    node e (record "Unary" [("op", atom op.label), ("operand", expr operand)])
  | e@(.call kind name args _) =>
    node e (tuple kind.label [record "Invocation"
      [("name", symbol name), ("args", list (exprs args))]])
  | e@(.construct _ _) => node e (atom "InstanceCreation")
  | e@(.structInit name _) => node e (record "StructInit" [("name", symbol name)])
  | e@(.arrayInit elements _) => node e (tuple "ArrayInit" [list (exprs elements)])
  | e@(.mapInit entries _) => node e (tuple "MapInit" [list (exprs entries)])
  | e@(.keyValue key value _) =>
    node e (record "KeyValue" [("key", text key), ("value", expr value)])
  | e@(.cast target operand _) =>
    node e (record "TypeCast" [("target", type target), ("expr", expr operand)])
  | e@(.template t _) => node e (tuple "Template" [text t])

/-- A list of expressions. -/
def exprs : List Expr → List Outline
  | [] => []
  | e :: es => expr e :: exprs es

/-- An optional expression. -/
def optExpr : Option Expr → Outline
  | none => atom "None"
  | some e => tuple "Some" [expr e]

end

/-- A variable declaration. -/
def variableDecl (d : VariableDecl) : Outline :=
  record "VariableDecl" [("name", symbol d.name), ("ty", type d.ty),
    ("location", location d.loc)]

/-- A call's name and arguments. -/
def invocation (name : SymbolName) (args : List Expr) : Outline :=
  record "Invocation" [("name", symbol name), ("args", list (exprs args))]

mutual

/-- A statement. -/
def stmt : Stmt → Outline
  | .varDef d loc => wrap (tuple "VariableDef" [variableDecl d]) loc
  | .assign targets value loc =>
    wrap (record "Assign" [("targets", list (exprs targets)), ("value", expr value)]) loc
  | .ret values loc => wrap (tuple "Return" [list (exprs values)]) loc
  | .reply value loc => wrap (tuple "Reply" [expr value]) loc
  | .loop condition body loc =>
    wrap (record "While" [("condition", expr condition), ("body", block body)]) loc
  | .ifElse branches elseBody loc =>
    wrap (tuple "IfElse" [record "IfElse"
      [("branches", list (branchList branches)), ("else_body", optBlock elseBody)]]) loc
  | .block body loc => wrap (tuple "Block" [block body]) loc
  | .call kind name args loc => wrap (tuple kind.label [invocation name args]) loc
where
  wrap (kind : Outline) (loc : Location) : Outline :=
    record "Stmt" [("kind", kind), ("location", location loc)]

/-- A block. -/
def block : Block → Outline
  | .mk statements loc =>
    record "Block" [("statements", list (stmtList statements)), ("location", location loc)]

/-- A branch of a conditional. -/
def branch : Branch → Outline
  | .mk condition body loc =>
    record "IfBranch" [("condition", expr condition), ("body", block body),
      ("location", location loc)]

/-- A list of statements. -/
def stmtList : List Stmt → List Outline
  | [] => []
  | s :: ss => stmt s :: stmtList ss

/-- A list of branches. -/
def branchList : List Branch → List Outline
  | [] => []
  | b :: bs => branch b :: branchList bs

/-- An optional block. -/
def optBlock : Option Block → Outline
  | none => atom "None"
  | some b => tuple "Some" [block b]

end

/-- An annotation. -/
def annotationNode (a : Annotation) : Outline :=
  record "Annotation" [("name", symbol a.name), ("value", opt text a.value),
    ("key_values", list (a.keyValues.map fun kv =>
      record "AnnotationKeyValue" [("key", text kv.key), ("value", text kv.value)])),
    ("location", location a.loc)]

/-- A parameter. -/
def parameter (p : Parameter) : Outline :=
  record "Parameter" [("name", opt symbol p.name), ("ty", type p.ty),
    ("location", location p.loc)]

/-- A connector declaration. -/
def connectorDecl (d : ConnectorDecl) : Outline :=
  record "ConnectorDecl" [("connector", symbol d.connector), ("var_name", symbol d.varName),
    ("args", list (exprs d.args)), ("location", location d.loc)]

/-- A callable unit. -/
def callable (u : CallableUnit) : Outline :=
  record "CallableUnit" [("kind", atom u.kind.label), ("name", symbol u.name),
    ("is_public", flag u.isPublic), ("annotations", list (u.annotations.map annotationNode)),
    ("parameters", list (u.parameters.map parameter)),
    ("return_parameters", list (u.returnParameters.map parameter)),
    ("connector_decls", list (u.connectorDecls.map connectorDecl)),
    ("body", block u.body), ("frame_size", atom (toString u.frameSize)),
    ("location", location u.loc)]

/-- A service or connector. -/
def group (g : Group) : Outline :=
  record "CallableUnitGroup" [("kind", atom g.kind.label), ("name", symbol g.name),
    ("annotations", list (g.annotations.map annotationNode)),
    ("parameters", list (g.parameters.map parameter)),
    ("connector_decls", list (g.connectorDecls.map connectorDecl)),
    ("variable_decls", list (g.variableDecls.map variableDecl)),
    ("units", list (g.units.map callable)), ("location", location g.loc)]

/-- A compilation unit. -/
def unit (u : CompilationUnit) : Outline :=
  record "CompilationUnit" [("package", opt text u.package),
    ("imports", list (u.imports.map fun i =>
      record "ImportPackage" [("path", text i.path), ("name", text i.name),
        ("location", location i.loc)])),
    ("consts", list (u.consts.map fun c =>
      record "Const" [("name", symbol c.name), ("ty", type c.ty), ("value", expr c.value),
        ("location", location c.loc)])),
    ("structs", list (u.structs.map fun s =>
      record "Struct" [("name", symbol s.name), ("is_public", flag s.isPublic),
        ("fields", list (s.fields.map variableDecl)), ("location", location s.loc)])),
    ("services", list (u.services.map group)),
    ("connectors", list (u.connectors.map group)),
    ("functions", list (u.functions.map callable)),
    ("type_converters", list (u.typeConverters.map callable))]

end TreeOutline

end TreeAssembly
