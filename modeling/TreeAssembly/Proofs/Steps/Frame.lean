import TreeAssembly.Proofs.Steps.Expr
import TreeAssembly.Proofs.Steps.Stmt
import TreeAssembly.Proofs.Steps.Decl

/-!
# Events that work on the piles alone

Most events of a build never reach past the working piles: they name things, collect
annotations, open and close lists and build expressions and statements.  `Step.onPiles`
names them once, and `run_onPiles_ok` proves, from the inversion lemmas of the other
files under `Steps`, that a successful one leaves the rest of the builder as it was: the
registry, the package, the open unit, group and struct, and the compilation unit.  An
instance creation is the one event among them that may also add a warning.

An invariant that reads only the parts past the piles then needs its own argument only
for the events that `onPiles` leaves out: the declarations, the units and groups, the
types and the structs.

## Main statements

* `Step.onPiles`: the events that work on the piles alone.
* `Assembly.run_onPiles_ok`: a successful one replaces the piles and the warnings and
  nothing else.
-/

namespace TreeAssembly

/-- The events that work on the piles alone: names, annotations, lists, expressions and
statements. -/
def Step.onPiles : Step → Bool
  | .symbolName _ | .connectorSymbolName _ _ | .packageName _
  | .annotationStart | .annotationKeyValue _ | .annotationEnd _ _
  | .startExprList | .endExprList _ | .startVarRefList | .endVarRefList _
  | .startMapInitKeyValue | .endMapInitKeyValue _
  | .literal _ _ | .varRef _ | .mapArrayVarRef _ | .structFieldRef | .binaryExpr _
  | .unaryExpr _ | .backtickExpr _ | .functionInvocationExpr | .actionInvocationExpr
  | .typeCastExpr | .instanceCreationExpr _ _ | .structInitExpr _ | .arrayInitExpr _
  | .mapInitKeyValue _ | .mapInitExpr _
  | .assignmentStmt | .returnStmt _ | .replyStmt | .startWhileStmt | .endWhileStmt
  | .startIfElseStmt | .startElseIfClause | .endElseIfClause | .startElseClause
  | .endElseClause | .endIfElseStmt | .startBlock | .endBlock
  | .functionInvocationStmt | .actionInvocationStmt | .startCallableUnitBody => true
  | _ => false

namespace Assembly

variable {loc : Location} {b b' : Builder}

/-- **Events on the piles.**  A successful event that works on the piles alone leaves the
builder as it was but for its piles and its warnings. -/
theorem run_onPiles_ok {s : Step} (hs : s.onPiles = true)
    (h : (step loc s).run b = .ok () b') :
    ∃ piles warnings, b' = { b with piles, warnings } := by
  cases s <;> simp only [Step.onPiles, Bool.false_eq_true] at hs <;> simp only [step] at h
  -- the events whose assembler only pushes onto a pile
  case packageName | annotationStart | startExprList | startVarRefList
      | startMapInitKeyValue | varRef | structInitExpr | startWhileStmt | startIfElseStmt
      | startElseIfClause | startElseClause | startBlock | startCallableUnitBody =>
    simp [annotationStart, startExprList, startKeyValueList, openBlock, startIfElse] at h
    exact ⟨_, _, h.symm⟩
  case symbolName name =>
    obtain ⟨-, -, -, rfl⟩ := run_symbolName_ok loc h
    exact ⟨_, _, rfl⟩
  case connectorSymbolName connector action =>
    obtain ⟨-, -, -, rfl⟩ := run_connectorSymbolName_ok loc h
    exact ⟨_, _, rfl⟩
  case annotationKeyValue key =>
    obtain ⟨-, -, -, -, -, -, -, -, rfl⟩ := run_annotationKeyValue_ok h
    exact ⟨_, _, rfl⟩
  case annotationEnd name valueAvailable =>
    obtain ⟨-, -, -, -, -, -, -, -, -, rfl⟩ := run_annotationEnd_ok h
    exact ⟨_, _, rfl⟩
  case endExprList count | endVarRefList count =>
    obtain ⟨-, -, -, -, rfl⟩ := run_endExprList_ok h
    exact ⟨_, _, rfl⟩
  case endMapInitKeyValue count =>
    obtain ⟨-, -, -, -, rfl⟩ := run_endKeyValueList_ok h
    exact ⟨_, _, rfl⟩
  -- expressions
  case literal kind text =>
    obtain ⟨-, -, rfl⟩ := run_literal_ok h
    exact ⟨_, _, rfl⟩
  case mapArrayVarRef name =>
    obtain ⟨-, -, -, rfl⟩ := run_element_ok h
    exact ⟨_, _, rfl⟩
  case structFieldRef =>
    rcases run_fieldAccess_ok h with ⟨-, rfl⟩ | ⟨-, -, -, -, -, -, -, -, rfl⟩
    · exact ⟨_, _, rfl⟩
    · exact ⟨_, _, rfl⟩
  case binaryExpr op =>
    obtain ⟨-, -, -, -, -, -, rfl⟩ := run_binary_ok h
    exact ⟨_, _, rfl⟩
  case unaryExpr op =>
    obtain ⟨-, -, -, -, -, rfl⟩ := run_unary_ok h
    exact ⟨_, _, rfl⟩
  case backtickExpr text =>
    obtain ⟨-, -, rfl⟩ := run_template_ok h
    exact ⟨_, _, rfl⟩
  case functionInvocationExpr | actionInvocationExpr =>
    obtain ⟨-, -, -, -, -, -, rfl⟩ := run_callExpr_ok h
    exact ⟨_, _, rfl⟩
  case typeCastExpr =>
    obtain ⟨-, -, -, -, -, rfl⟩ := run_cast_ok h
    exact ⟨_, _, rfl⟩
  case instanceCreationExpr typeName argsAvailable =>
    obtain ⟨-, -, -, -, -, rfl⟩ := run_instanceCreation_ok h
    exact ⟨_, _, rfl⟩
  case arrayInitExpr elementsAvailable =>
    obtain ⟨-, -, -, rfl⟩ := run_arrayInit_ok h
    exact ⟨_, _, rfl⟩
  case mapInitKeyValue key =>
    obtain ⟨-, -, -, rfl⟩ := run_keyValue_ok h
    exact ⟨_, _, rfl⟩
  case mapInitExpr entriesAvailable =>
    obtain ⟨-, -, -, rfl⟩ := run_mapInit_ok h
    exact ⟨_, _, rfl⟩
  -- statements
  case assignmentStmt =>
    obtain ⟨-, -, -, -, -, -, -, -, -, rfl⟩ := run_assignment_ok h
    exact ⟨_, _, rfl⟩
  case returnStmt valuesAvailable =>
    obtain ⟨-, -, -, -, -, -, rfl⟩ := run_returnStmt_ok h
    exact ⟨_, _, rfl⟩
  case replyStmt =>
    obtain ⟨-, -, -, -, -, -, rfl⟩ := run_reply_ok h
    exact ⟨_, _, rfl⟩
  case endWhileStmt =>
    obtain ⟨-, -, -, -, -, -, -, rfl⟩ := run_endWhile_ok h
    exact ⟨_, _, rfl⟩
  case endElseIfClause =>
    obtain ⟨-, -, -, -, -, -, -, -, -, rfl⟩ := run_endElseIf_ok h
    exact ⟨_, _, rfl⟩
  case endElseClause =>
    obtain ⟨-, -, -, -, -, -, -, rfl⟩ := run_endElse_ok h
    exact ⟨_, _, rfl⟩
  case endIfElseStmt =>
    obtain ⟨-, -, -, -, -, -, -, -, -, -, rfl⟩ := run_endIfElse_ok h
    exact ⟨_, _, rfl⟩
  case endBlock =>
    obtain ⟨-, -, -, -, rfl⟩ := run_endBlock_ok h
    exact ⟨_, _, rfl⟩
  case functionInvocationStmt | actionInvocationStmt =>
    obtain ⟨-, -, -, -, -, -, -, -, -, rfl⟩ := run_callStmt_ok h
    exact ⟨_, _, rfl⟩

end Assembly
end TreeAssembly
