import TreeAssembly.Builder.Stmt

/-!
# Assembling declarations

Annotations collect key-value pairs and then join the annotation list that their callable
unit or group opened.  Parameters, return parameters, variables and connector
declarations join the open callable unit, or else the open group.  A callable unit is
finished by the event that names it (function, type converter, resource or action); a
resource or action then joins its group.  A group is finished by the service or connector
event; a connector stamps its own name onto every action it holds that has no connector
yet.  A struct collects fields until its definition, which also registers its name as a
type.

Top-level names (callable units, groups, structs, constants) are qualified with the
file's package; variables, parameters and fields are not.
-/

namespace TreeAssembly
namespace Assembly

/-- The value of an annotation entry, which must be a string literal. -/
def annotationValue (e : Expr) (loc : Location) : Assembly String :=
  match e.stringValue? with
  | some s => pure s
  | none => source .annotationValue loc

/-- Opens an annotation. -/
def annotationStart : Assembly Unit :=
  modifyStacks fun s => { s with annotations := [] :: s.annotations }

/-- `key = "value"` inside the open annotation; the value is the top expression. -/
def annotationKeyValue (key : String) (loc : Location) : Assembly Unit := do
  let value ← popExpr loc
  let value ← annotationValue value loc
  match (← piles).annotations with
  | kvs :: rest => modifyStacks fun s => { s with annotations := (kvs ++ [⟨key, value⟩]) :: rest }
  | [] => structural (.noOpen .annotationFrame) loc

/-- Closes the open annotation, with a positional value from the top expression when
flagged, and adds it to the open annotation list. -/
def annotationEnd (name : String) (valueAvailable : Bool) (loc : Location) : Assembly Unit := do
  let kvs ← popAnnotationFrame loc
  let value ← if valueAvailable then
      let e ← popExpr loc
      some <$> annotationValue e loc
    else pure none
  let a : Annotation := { name := { name }, value, keyValues := kvs, loc }
  match (← piles).annotationLists with
  | l :: rest => modifyStacks fun s => { s with annotationLists := (l ++ [a]) :: rest }
  | [] => structural (.noOpen .annotationList) loc

/-- Changes the open callable unit. -/
def modifyUnit (f : UnitFrame → UnitFrame) : Assembly Unit :=
  modify fun b => { b with unit := b.unit.map f }

/-- Changes the open group. -/
def modifyGroup (f : GroupFrame → GroupFrame) : Assembly Unit :=
  modify fun b => { b with group := b.group.map f }

/-- A parameter of the open callable unit, or else of the open group. -/
def param (name : String) (loc : Location) : Assembly Unit := do
  let ty ← takeType loc
  let p : Parameter := { name := some { name }, ty, loc }
  let b ← get
  if b.unit.isSome then modifyUnit fun u => { u with parameters := u.parameters ++ [p] }
  else if b.group.isSome then modifyGroup fun g => { g with parameters := g.parameters ++ [p] }
  else structural (.misplaced .parameter) loc

/-- Unnamed return parameters: every queued type, in order. -/
def returnTypes (loc : Location) : Assembly Unit := do
  let b ← get
  if b.unit.isNone then structural (.misplaced .returnTypes) loc
  let ps := b.piles.types.map fun ty => ({ name := none, ty, loc } : Parameter)
  modifyStacks fun s => { s with types := [] }
  modifyUnit fun u => { u with returnParameters := u.returnParameters ++ ps }

/-- A named return parameter of the open callable unit. -/
def namedReturnParam (name : String) (loc : Location) : Assembly Unit := do
  let ty ← takeType loc
  if (← get).unit.isNone then structural (.misplaced .returnParameter) loc
  modifyUnit fun u =>
    { u with returnParameters := u.returnParameters ++ [{ name := some { name }, ty, loc }] }

/-- A constant: its type is the oldest queued one, its value the top expression. -/
def constant (name : String) (loc : Location) : Assembly Unit := do
  let ty ← takeType loc
  let value ← popExpr loc
  let qname ← qualified name
  modifyFile fun f => { f with consts := f.consts ++ [{ name := qname, ty, value, loc }] }

/-- A variable: a statement of the current block inside a callable unit, or a variable
of the open group. -/
def variableDecl (name : String) (loc : Location) : Assembly Unit := do
  let ty ← takeType loc
  let decl : VariableDecl := { name := { name }, ty, loc }
  let b ← get
  if b.unit.isSome then addStatement (.varDef decl loc) loc
  else if b.group.isSome then
    modifyGroup fun g => { g with variableDecls := g.variableDecls ++ [decl] }
  else structural (.misplaced .variableDecl) loc

/-- `Conn c = new Conn(args);`.  The connector's name was pushed twice, once for the
declared type and once for the constructor; the second is dropped. -/
def connectorDecl (varName : String) (loc : Location) : Assembly Unit := do
  if (← piles).symbolNames.length < 2 then structural (.connectorNames varName) loc
  let _ ← popSymbolName loc
  let connector ← popSymbolName loc
  let args ← popExprList loc
  let d : ConnectorDecl := { connector, varName := { name := varName }, args, loc }
  let b ← get
  if b.unit.isSome then modifyUnit fun u => { u with connectorDecls := u.connectorDecls ++ [d] }
  else if b.group.isSome then
    modifyGroup fun g => { g with connectorDecls := g.connectorDecls ++ [d] }
  else structural (.misplaced .connectorDecl) loc

/-- Opens a callable unit and its annotation list; only one unit is open at a time. -/
def startUnit (loc : Location) : Assembly Unit := do
  if (← get).unit.isSome then structural (.reopened .unit) loc
  modify fun b => { b with unit := some { loc } }
  modifyStacks fun s => { s with annotationLists := [] :: s.annotationLists }

/-- Ends the body of the open callable unit: the innermost block. -/
def endUnitBody (loc : Location) : Assembly Unit := do
  let body ← popBlock loc
  if (← get).unit.isNone then structural (.misplaced .unitBody) loc
  modifyUnit fun u => { u with body := some body.finish }

/-- Finishes the open callable unit with its annotations.  A unit without a body gets an
empty block where the unit started. -/
def finishUnit (kind : UnitKind) (name : String) (isPublic : Bool) (loc : Location) :
    Assembly CallableUnit := do
  let some frame := (← get).unit | structural (.noOpenUnit name) loc
  modify fun b => { b with unit := none }
  let annotations ← popAnnotationList loc
  let qname ← qualified name
  return { kind, name := qname, isPublic, annotations, parameters := frame.parameters,
           returnParameters := frame.returnParameters, connectorDecls := frame.connectorDecls,
           body := frame.body.getD (.empty frame.loc), frameSize := 0, loc }

/-- A function or type converter, which joins the compilation unit. -/
def topLevelUnit (kind : UnitKind) (name : String) (isPublic : Bool) (loc : Location) :
    Assembly Unit := do
  let u ← finishUnit kind name isPublic loc
  match kind with
  | .typeConverter => modifyFile fun f => { f with typeConverters := f.typeConverters ++ [u] }
  | _ => modifyFile fun f => { f with functions := f.functions ++ [u] }

/-- A resource or action, which joins the open group. -/
def groupedUnit (kind : UnitKind) (name : String) (loc : Location) : Assembly Unit := do
  if (← get).group.isNone then structural (.misplaced .groupedUnit) loc
  let u ← finishUnit kind name false loc
  modifyGroup fun g => { g with units := g.units ++ [u] }

/-- Opens a group and its annotation list; only one group is open at a time. -/
def startGroup (loc : Location) : Assembly Unit := do
  if (← get).group.isSome then structural (.reopened .group) loc
  modify fun b => { b with group := some {} }
  modifyStacks fun s => { s with annotationLists := [] :: s.annotationLists }

/-- Stamps a connector's bare name onto an action that has no connector yet. -/
def stampAction (connector : String) (u : CallableUnit) : CallableUnit :=
  if u.kind = .action then { u with name := u.name.bindConnector connector } else u

/-- Finishes the open group, with no callable unit still open in it. -/
def finishGroup (kind : GroupKind) (name : String) (loc : Location) : Assembly Unit := do
  if (← get).unit.isSome then structural (.unitStillOpen name) loc
  let some frame := (← get).group | structural (.noOpenGroup name) loc
  modify fun b => { b with group := none }
  let annotations ← popAnnotationList loc
  let qname ← qualified name
  let units := match kind with
    | .connector => frame.units.map (stampAction qname.name)
    | .service => frame.units
  let g : Group := { kind, name := qname, annotations, parameters := frame.parameters,
                     connectorDecls := frame.connectorDecls,
                     variableDecls := frame.variableDecls, units, loc }
  match kind with
  | .service => modifyFile fun f => { f with services := f.services ++ [g] }
  | .connector => modifyFile fun f => { f with connectors := f.connectors ++ [g] }

/-- Opens a struct; only one struct is open at a time. -/
def startStruct (loc : Location) : Assembly Unit := do
  if (← get).struct.isSome then structural (.reopened .struct) loc
  modify fun b => { b with struct := some [] }

/-- A field of the open struct, typed by the oldest queued type. -/
def structField (name : String) (loc : Location) : Assembly Unit := do
  let ty ← takeType loc
  let some fields := (← get).struct | structural (.misplaced .structField) loc
  modify fun b => { b with struct := some (fields ++ [{ name := { name }, ty, loc }]) }

/-- Finishes the open struct and registers its name as a struct type. -/
def structDefinition (name : String) (isPublic : Bool) (loc : Location) : Assembly Unit := do
  let some fields := (← get).struct | structural (.noOpenStruct name) loc
  modify fun b => { b with struct := none }
  let qname ← qualified name
  modifyFile fun f => { f with structs := f.structs ++ [{ name := qname, isPublic, fields, loc }] }
  modify fun b => { b with registry := (b.registry.registerStruct name).2 }

end Assembly
end TreeAssembly
