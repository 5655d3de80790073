import TreeAssembly.Tree.Decl
import TreeAssembly.Json.Value
import TreeAssembly.Decimal.Layout
import TreeAssembly.Decimal.Scaled

/-!
# The tree as JSON

Every node is an object with its fields in declaration order; an enumeration without
data is its name as a string (`"Int"`, `"Function"`, `"InstanceCreation"`), and one with
data is an object with the constructor's name as its only key (`{"Array": "Int"}`,
`{"Literal": {"Int": 42}}`).  Absent optional values are `null`.

Binary values are written with their fewest digits (`Decimal.shortest`), positionally
for decimal exponents from -5 to 15 in double precision (-6 to 12 in single
precision), with `.0` after a whole number and a signed exponent otherwise (`1e+300`,
`1e-7`); an exact tie between two shortest candidates goes to the even one.  NaN and
the infinities have no JSON number and are written `null`.  A style may write single
values widened to double precision, which shows more digits (`1.100000023841858`).
-/

namespace TreeAssembly

open Decimal in
/-- How JSON writes double-precision values. -/
def jsonDouble : Layout :=
  { lowest := -5, highest := 15, plusSign := true, tie := .even, nanText := "NaN",
    infinityText := "inf" }

open Decimal in
/-- How JSON writes single-precision values. -/
def jsonSingle : Layout :=
  { lowest := -6, highest := 12, plusSign := true, tie := .even, nanText := "NaN",
    infinityText := "inf" }

/-- The literal that a number literal becomes when a JSON reader that reads decimals by
scaling (`Decimal.scaledReading`) reads it as a double and writes it back.  Integer
literals, which such a reader keeps as integers, stay as they are, as do literals out of
its range. -/
def readBack (literal : String) : String :=
  if literal.any fun c => c == '.' || c == 'e' || c == 'E' then
    match Decimal.Numeral.read literal with
    | some (.finite neg digits exponent) =>
      match Decimal.scaledReading neg digits exponent with
      | some bits => jsonDouble.write .binary64 bits
      | none => literal
    | _ => literal
  else literal

/-- Choices in writing the tree as JSON. -/
structure JsonStyle where
  /-- Write single-precision values as the equal double-precision values. -/
  widenSingles : Bool := false

namespace TreeJson

open Json

/-- A finite binary value as a JSON number, or `null` for NaN and the infinities. -/
def binary (l : Decimal.Layout) (f : Ieee.Format) (bits : Nat) : Json :=
  match f.decode bits with
  | .finite .. => .number (l.write f bits)
  | _ => .null

/-- A double-precision value. -/
def double (x : Ieee.Binary64) : Json := binary jsonDouble .binary64 x.bits.toNat

/-- A single-precision value, widened when the style says so. -/
def single (st : JsonStyle) (x : Ieee.Binary32) : Json :=
  if st.widenSingles then double x.widen else binary jsonSingle .binary32 x.bits.toNat

/-- An object with one key: a constructor with data. -/
def tagged (name : String) (v : Json) : Json := .object [(name, v)]

/-- A location. -/
def location (l : Location) : Json :=
  .object [("file", .string l.file), ("line", nat l.line.toNat)]

/-- A symbol name. -/
def symbol (s : SymbolName) : Json :=
  .object [("name", .string s.name), ("pkg_path", opt .string s.pkgPath),
    ("connector_name", opt .string s.connectorName)]

/-- A type. -/
def type : ValueType → Json
  | .int => .string "Int"
  | .long => .string "Long"
  | .float => .string "Float"
  | .double => .string "Double"
  | .boolean => .string "Boolean"
  | .string => .string "String"
  | .message => .string "Message"
  | .map => .string "Map"
  | .xml => .string "Xml"
  | .json => .string "Json"
  | .array t => tagged "Array" (type t)
  | .struct n => tagged "Struct" (.string n)
  | .connector n => tagged "Connector" (.string n)

/-- A literal value. -/
def literal (st : JsonStyle) : Literal → Json
  | .int v => tagged "Int" (int v.toInt)
  | .long v => tagged "Long" (int v.toInt)
  | .float v => tagged "Float" (single st v)
  | .double v => tagged "Double" (double v)
  | .boolean b => tagged "Boolean" (.bool b)
  | .string s => tagged "String" (.string s)

/-- An expression node around the JSON of its kind. -/
def node (e : Expr) (kind : Json) : Json :=
  .object [("kind", kind), ("ty", opt type e.ty), ("location", location e.location)]

mutual

/-- An expression. -/
def expr (st : JsonStyle) : Expr → Json
  | e@(.lit v _) => node e (tagged "Literal" (literal st v))
  | e@(.var name _) => node e (tagged "VariableRef" (symbol name))
  | e@(.element name base index _) =>
    node e (tagged "ArrayMapAccess"
      (.object [("name", symbol name), ("base", expr st base), ("index", expr st index)]))
  | e@(.field name reference next _) =>
    node e (tagged "StructFieldAccess"
      (.object [("name", symbol name), ("reference", expr st reference),
        ("field", optExpr st next)]))
  | e@(.binary op lhs rhs _) =>
    node e (tagged "Binary"
      (.object [("op", .string op.label), ("lhs", expr st lhs), ("rhs", expr st rhs)]))
  | e@(.unary op operand _) =>
    node e (tagged "Unary" (.object [("op", .string op.label), ("operand", expr st operand)]))
  | e@(.call kind name args _) =>
    node e (tagged kind.label (.object [("name", symbol name), ("args", .array (exprs st args))]))
  | e@(.construct _ _) => node e (.string "InstanceCreation")
  | e@(.structInit name _) => node e (tagged "StructInit" (.object [("name", symbol name)]))
  | e@(.arrayInit elements _) => node e (tagged "ArrayInit" (.array (exprs st elements)))
  | e@(.mapInit entries _) => node e (tagged "MapInit" (.array (exprs st entries)))
  | e@(.keyValue key value _) =>
    node e (tagged "KeyValue" (.object [("key", .string key), ("value", expr st value)]))
  | e@(.cast target operand _) =>
    node e (tagged "TypeCast" (.object [("target", type target), ("expr", expr st operand)]))
  | e@(.template text _) => node e (tagged "Template" (.string text))

/-- A list of expressions. -/
def exprs (st : JsonStyle) : List Expr → List Json
  | [] => []
  | e :: es => expr st e :: exprs st es

/-- An optional expression. -/
def optExpr (st : JsonStyle) : Option Expr → Json
  | none => .null
  | some e => expr st e

end

/-- A variable declaration. -/
def variableDecl (d : VariableDecl) : Json :=
  .object [("name", symbol d.name), ("ty", type d.ty), ("location", location d.loc)]

/-- A call's name and arguments. -/
def invocation (st : JsonStyle) (name : SymbolName) (args : List Expr) : Json :=
  .object [("name", symbol name), ("args", .array (exprs st args))]

mutual

/-- A statement. -/
def stmt (st : JsonStyle) : Stmt → Json
  | .varDef d loc => wrap (tagged "VariableDef" (variableDecl d)) loc
  | .assign targets value loc =>
    wrap (tagged "Assign" (.object [("targets", .array (exprs st targets)),
      ("value", expr st value)])) loc
  | .ret values loc => wrap (tagged "Return" (.array (exprs st values))) loc
  | .reply value loc => wrap (tagged "Reply" (expr st value)) loc
  | .loop condition body loc =>
    wrap (tagged "While" (.object [("condition", expr st condition), ("body", block st body)])) loc
  | .ifElse branches elseBody loc =>
    wrap (tagged "IfElse" (.object [("branches", .array (branchList st branches)),
      ("else_body", optBlock st elseBody)])) loc
  | .block body loc => wrap (tagged "Block" (block st body)) loc
  | .call kind name args loc => wrap (tagged kind.label (invocation st name args)) loc
where
  wrap (kind : Json) (loc : Location) : Json :=
    .object [("kind", kind), ("location", location loc)]

/-- A block. -/
def block (st : JsonStyle) : Block → Json
  | .mk statements loc =>
    .object [("statements", .array (stmtList st statements)), ("location", location loc)]

/-- A branch of a conditional. -/
def branch (st : JsonStyle) : Branch → Json
  | .mk condition body loc =>
    .object [("condition", expr st condition), ("body", block st body),
      ("location", location loc)]

/-- A list of statements. -/
def stmtList (st : JsonStyle) : List Stmt → List Json
  | [] => []
  | s :: ss => stmt st s :: stmtList st ss

/-- A list of branches. -/
def branchList (st : JsonStyle) : List Branch → List Json
  | [] => []
  | b :: bs => branch st b :: branchList st bs

/-- An optional block. -/
def optBlock (st : JsonStyle) : Option Block → Json
  | none => .null
  | some b => block st b

end

/-- An annotation. -/
def annotationNode (a : Annotation) : Json :=
  .object [("name", symbol a.name), ("value", opt .string a.value),
    ("key_values", .array (a.keyValues.map fun kv =>
      .object [("key", .string kv.key), ("value", .string kv.value)])),
    ("location", location a.loc)]

/-- A parameter. -/
def parameter (p : Parameter) : Json :=
  .object [("name", opt symbol p.name), ("ty", type p.ty), ("location", location p.loc)]

/-- A connector declaration. -/
def connectorDecl (st : JsonStyle) (d : ConnectorDecl) : Json :=
  .object [("connector", symbol d.connector), ("var_name", symbol d.varName),
    ("args", .array (exprs st d.args)), ("location", location d.loc)]

/-- A callable unit. -/
def callable (st : JsonStyle) (u : CallableUnit) : Json :=
  .object [("kind", .string u.kind.label), ("name", symbol u.name),
    ("is_public", .bool u.isPublic), ("annotations", .array (u.annotations.map annotationNode)),
    ("parameters", .array (u.parameters.map parameter)),
    ("return_parameters", .array (u.returnParameters.map parameter)),
    ("connector_decls", .array (u.connectorDecls.map (connectorDecl st))),
    ("body", block st u.body), ("frame_size", nat u.frameSize),
    ("location", location u.loc)]

/-- A service or connector. -/
def group (st : JsonStyle) (g : Group) : Json :=
  .object [("kind", .string g.kind.label), ("name", symbol g.name),
    ("annotations", .array (g.annotations.map annotationNode)),
    ("parameters", .array (g.parameters.map parameter)),
    ("connector_decls", .array (g.connectorDecls.map (connectorDecl st))),
    ("variable_decls", .array (g.variableDecls.map variableDecl)),
    ("units", .array (g.units.map (callable st))), ("location", location g.loc)]

/-- A compilation unit. -/
def unit (st : JsonStyle) (u : CompilationUnit) : Json :=
  .object [("package", opt .string u.package),
    ("imports", .array (u.imports.map fun i =>
      .object [("path", .string i.path), ("name", .string i.name), ("location", location i.loc)])),
    ("consts", .array (u.consts.map fun c =>
      .object [("name", symbol c.name), ("ty", type c.ty), ("value", expr st c.value),
        ("location", location c.loc)])),
    ("structs", .array (u.structs.map fun s =>
      .object [("name", symbol s.name), ("is_public", .bool s.isPublic),
        ("fields", .array (s.fields.map variableDecl)), ("location", location s.loc)])),
    ("services", .array (u.services.map (group st))),
    ("connectors", .array (u.connectors.map (group st))),
    ("functions", .array (u.functions.map (callable st))),
    ("type_converters", .array (u.typeConverters.map (callable st)))]

end TreeJson

end TreeAssembly
