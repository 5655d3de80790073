import TreeAssembly.Event
import TreeAssembly.Json.Value

/-!
# Events from JSON

An event is a JSON object whose `event` field names the step in snake case, and whose
other fields carry the step's arguments and its `location`, an object with a string
`file` and a 32-bit `line`.  The rules:

* a field that is missing fails, except the flags (`value_available`, `args_available`,
  `elements_available`, `entries_available`, `values_available`, `is_public`), which
  default to false, and `alias`, which defaults to no alias;
* a field of the wrong JSON type fails; so does `null` for a flag, while `null` for
  `alias` means no alias;
* a count is an integer literal below `2^64`, a line one below `2^32`; `1.0`, `-1` and
  `-0` are no counts;
* a literal `kind` is a lower-case kind name, or an object whose single field has that
  name and the value `null` or `{}`;
* a field named twice fails, and fields the step does not have are ignored.

An event may also be written as an array: the step's name first, then its fields in
their declared order, `location` last; trailing defaulted fields may be left out, extra
items fail.  A location may likewise be `[file, line]`.
-/

namespace TreeAssembly
namespace EventJson

/-- The values of the named fields of an object or of the items of an array, in the
order of `names`; an absent field is `none`.  A field named twice, or an array longer
than `names`, fails. -/
def values (body : Json) (names : List String) : Option (List (Option Json)) :=
  match body with
  | .object fields =>
    names.mapM fun n =>
      match fields.filter (·.1 == n) with
      | [] => some none
      | [(_, v)] => some (some v)
      | _ => none
  | .array items =>
    if items.length ≤ names.length then
      some ((List.range names.length).map fun i => items[i]?)
    else none
  | _ => none

/-- A required string. -/
def text : Option Json → Option String
  | some (.string s) => some s
  | _ => none

/-- A flag that defaults to false. -/
def flag : Option Json → Option Bool
  | none => some false
  | some (.bool b) => some b
  | _ => none

/-- An optional string: absent or `null` is none. -/
def optText : Option Json → Option (Option String)
  | none => some none
  | some .null => some none
  | some (.string s) => some (some s)
  | _ => none

/-- A natural number below `2^bits`, written as an integer literal. -/
def word (bits : Nat) : Option Json → Option Nat
  | some (.number literal) => (Json.naturalLiteral? literal).filter (· < Nat.pow 2 bits)
  | _ => none

/-- A literal kind: its name, or a one-field object naming it whose value is `null` or
the empty object. -/
def kind : Option Json → Option LiteralKind
  | some (.string s) => LiteralKind.ofName? s
  | some (.object [(s, .null)]) => LiteralKind.ofName? s
  | some (.object [(s, .object [])]) => LiteralKind.ofName? s
  | _ => none

/-- A location: `{file, line}` or `[file, line]`. -/
def location : Option Json → Option Location
  | some body => do
    match ← values body ["file", "line"] with
    | [file, line] =>
      let line ← word 32 line
      return { file := ← text file, line := UInt32.ofNat line }
    | _ => none
  | none => none

/-- The step named `tag`, read from its fields; `location` is not among them. -/
def step (tag : String) (body : Json) : Option (Step × Option Json) := do
  -- the declared fields of the step, `location` last
  let read (names : List String) (k : List (Option Json) → Option Step) :
      Option (Step × Option Json) := do
    let vs ← values body (names ++ ["location"])
    return (← k vs.dropLast, vs.getLast?.join)
  match tag with
  | "create_symbol_name" => read ["name"] fun | [n] => return .symbolName (← text n) | _ => none
  | "create_connector_symbol_name" => read ["connector", "action"] fun
    | [c, a] => return .connectorSymbolName (← text c) (← text a) | _ => none
  | "create_package_name" => read ["name"] fun | [n] => return .packageName (← text n) | _ => none
  | "create_package_decl" => read [] fun _ => some .packageDecl
  | "add_import_package" => read ["alias"] fun | [a] => return .importPackage (← optText a) | _ => none
  | "create_type" => read ["name"] fun | [n] => return .type (← text n) | _ => none
  | "create_array_type" => read ["name"] fun | [n] => return .arrayType (← text n) | _ => none
  | "register_connector_type" => read ["name"] fun
    | [n] => return .registerConnectorType (← text n) | _ => none
  | "start_annotation" => read [] fun _ => some .annotationStart
  | "create_annotation_key_value" => read ["key"] fun
    | [k] => return .annotationKeyValue (← text k) | _ => none
  | "end_annotation" => read ["name", "value_available"] fun
    | [n, v] => return .annotationEnd (← text n) (← flag v) | _ => none
  | "create_param" => read ["name"] fun | [n] => return .param (← text n) | _ => none
  | "create_return_types" => read [] fun _ => some .returnTypes
  | "create_named_return_param" => read ["name"] fun
    | [n] => return .namedReturnParam (← text n) | _ => none
  | "create_constant" => read ["name"] fun | [n] => return .constant (← text n) | _ => none
  | "create_variable_decl" => read ["name"] fun | [n] => return .variableDecl (← text n) | _ => none
  | "create_connector_decl" => read ["name"] fun
    | [n] => return .connectorDecl (← text n) | _ => none
  | "start_expr_list" => read [] fun _ => some .startExprList
  | "end_expr_list" => read ["count"] fun | [c] => return .endExprList (← word 64 c) | _ => none
  | "start_var_ref_list" => read [] fun _ => some .startVarRefList
  | "end_var_ref_list" => read ["count"] fun | [c] => return .endVarRefList (← word 64 c) | _ => none
  | "start_map_init_key_value" => read [] fun _ => some .startMapInitKeyValue
  | "end_map_init_key_value" => read ["count"] fun
    | [c] => return .endMapInitKeyValue (← word 64 c) | _ => none
  | "create_literal" => read ["kind", "text"] fun
    | [k, t] => return .literal (← kind k) (← text t) | _ => none
  | "create_var_ref" => read ["name"] fun | [n] => return .varRef (← text n) | _ => none
  | "create_map_array_var_ref" => read ["name"] fun
    | [n] => return .mapArrayVarRef (← text n) | _ => none
  | "create_struct_field_ref" => read [] fun _ => some .structFieldRef
  | "create_binary_expr" => read ["op"] fun | [o] => return .binaryExpr (← text o) | _ => none
  | "create_unary_expr" => read ["op"] fun | [o] => return .unaryExpr (← text o) | _ => none
  | "create_backtick_expr" => read ["text"] fun | [t] => return .backtickExpr (← text t) | _ => none
  | "create_function_invocation_expr" => read [] fun _ => some .functionInvocationExpr
  | "create_action_invocation_expr" => read [] fun _ => some .actionInvocationExpr
  | "create_type_cast_expr" => read [] fun _ => some .typeCastExpr
  | "create_instance_creation_expr" => read ["type_name", "args_available"] fun
    | [n, a] => return .instanceCreationExpr (← text n) (← flag a) | _ => none
  | "create_struct_init_expr" => read ["name"] fun
    | [n] => return .structInitExpr (← text n) | _ => none
  | "create_array_init_expr" => read ["elements_available"] fun
    | [e] => return .arrayInitExpr (← flag e) | _ => none
  | "create_map_init_key_value" => read ["key"] fun
    | [k] => return .mapInitKeyValue (← text k) | _ => none
  | "create_map_init_expr" => read ["entries_available"] fun
    | [e] => return .mapInitExpr (← flag e) | _ => none
  | "create_assignment_stmt" => read [] fun _ => some .assignmentStmt
  | "create_return_stmt" => read ["values_available"] fun
    | [v] => return .returnStmt (← flag v) | _ => none
  | "create_reply_stmt" => read [] fun _ => some .replyStmt
  | "start_while_stmt" => read [] fun _ => some .startWhileStmt
  | "end_while_stmt" => read [] fun _ => some .endWhileStmt
  | "start_if_else_stmt" => read [] fun _ => some .startIfElseStmt
  | "start_else_if_clause" => read [] fun _ => some .startElseIfClause
  | "end_else_if_clause" => read [] fun _ => some .endElseIfClause
  | "start_else_clause" => read [] fun _ => some .startElseClause
  | "end_else_clause" => read [] fun _ => some .endElseClause
  | "end_if_else_stmt" => read [] fun _ => some .endIfElseStmt
  | "start_block" => read [] fun _ => some .startBlock
  | "end_block" => read [] fun _ => some .endBlock
  | "create_function_invocation_stmt" => read [] fun _ => some .functionInvocationStmt
  | "create_action_invocation_stmt" => read [] fun _ => some .actionInvocationStmt
  | "start_callable_unit" => read [] fun _ => some .startCallableUnit
  | "start_callable_unit_body" => read [] fun _ => some .startCallableUnitBody
  | "end_callable_unit_body" => read [] fun _ => some .endCallableUnitBody
  | "create_function" => read ["name", "is_public"] fun
    | [n, p] => return .function (← text n) (← flag p) | _ => none
  | "create_type_converter" => read ["name", "is_public"] fun
    | [n, p] => return .typeConverter (← text n) (← flag p) | _ => none
  | "create_resource" => read ["name"] fun | [n] => return .resource (← text n) | _ => none
  | "create_action" => read ["name"] fun | [n] => return .action (← text n) | _ => none
  | "start_callable_unit_group" => read [] fun _ => some .startCallableUnitGroup
  | "create_service" => read ["name"] fun | [n] => return .service (← text n) | _ => none
  | "create_connector" => read ["name"] fun | [n] => return .connector (← text n) | _ => none
  | "start_struct" => read [] fun _ => some .startStruct
  | "create_struct_field" => read ["name"] fun | [n] => return .structField (← text n) | _ => none
  | "create_struct_definition" => read ["name", "is_public"] fun
    | [n, p] => return .structDefinition (← text n) (← flag p) | _ => none
  | _ => none

end EventJson

/-- Reads an event from its JSON form, or fails. -/
def Event.ofJson? (j : Json) : Option Event := do
  let (tag, body) ← match j with
    | .object fields =>
      match fields.filter (·.1 == "event") with
      | [(_, .string tag)] => some (tag, Json.object (fields.filter (·.1 != "event")))
      | _ => none
    | .array (.string tag :: rest) => some (tag, .array rest)
    | _ => none
  let (s, loc) ← EventJson.step tag body
  return { step := s, loc := ← EventJson.location loc }

end TreeAssembly
