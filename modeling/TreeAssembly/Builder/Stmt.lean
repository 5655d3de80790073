import TreeAssembly.Builder.Expr

/-!
# Assembling statements

A finished statement goes into the innermost open block.  Loops, conditionals and nested
blocks open a block of their own when they start and take it when they end.

A conditional opens its chain and the block of its primary branch together.  Each
`else if` clause opens a block; when it ends, the block is paired with the condition
finished most recently.  The primary condition was finished before any other, so it is
the one left on the stack when the chain ends.  The chain's statement, and its primary
branch, take the location where the chain started; an `else if` branch takes the
location where its clause started.
-/

namespace TreeAssembly
namespace Assembly

/-- Opens a block at `loc`. -/
def openBlock (loc : Location) : Assembly Unit :=
  modifyStacks fun s => { s with blocks := { loc } :: s.blocks }

/-- Closes the innermost block as a statement of the block around it. -/
def endBlock (loc : Location) : Assembly Unit := do
  let blk ← popBlock loc
  addStatement (.block blk.finish loc) loc

/-- `targets = value;`: the target list was opened before the value was finished. -/
def assignment (loc : Location) : Assembly Unit := do
  let value ← popExpr loc
  let targets ← popExprList loc
  addStatement (.assign targets value loc) loc

/-- `return values;`, with the values of the top list when flagged. -/
def returnStmt (valuesAvailable : Bool) (loc : Location) : Assembly Unit := do
  let values ← if valuesAvailable then popExprList loc else pure []
  addStatement (.ret values loc) loc

/-- `reply value;` -/
def reply (loc : Location) : Assembly Unit := do
  let value ← popExpr loc
  addStatement (.reply value loc) loc

/-- A call statement. -/
def callStmt (kind : CallKind) (loc : Location) : Assembly Unit := do
  let (name, args) ← invocation loc
  addStatement (.call kind name args loc) loc

/-- Ends a loop: its condition is the top expression, its body the innermost block. -/
def endWhile (loc : Location) : Assembly Unit := do
  let condition ← popExpr loc
  let body ← popBlock loc
  addStatement (.loop condition body.finish loc) loc

/-- Starts a conditional: the chain and the block of its primary branch. -/
def startIfElse (loc : Location) : Assembly Unit :=
  modifyStacks fun s => { s with ifElses := { loc } :: s.ifElses, blocks := { loc } :: s.blocks }

/-- Changes the innermost open conditional, which must exist. -/
def modifyIfElse (loc : Location) (f : IfFrame → Assembly IfFrame) : Assembly Unit := do
  match (← piles).ifElses with
  | frame :: rest =>
    let frame ← f frame
    modifyStacks fun s => { s with ifElses := frame :: rest }
  | [] => structural (.noOpen .ifElse) loc

/-- Ends an `else if` clause: its block and the most recent condition make a branch,
located where the clause started. -/
def endElseIf (loc : Location) : Assembly Unit := do
  if (← piles).ifElses.isEmpty then structural (.noOpen .ifElse) loc
  let body ← popBlock loc
  let condition ← popExpr loc
  modifyIfElse loc fun f =>
    pure { f with elseIfs := f.elseIfs ++ [.mk condition body.finish body.loc] }

/-- Ends the `else` clause; a chain has at most one. -/
def endElse (loc : Location) : Assembly Unit := do
  if (← piles).ifElses.isEmpty then structural (.noOpen .ifElse) loc
  let body ← popBlock loc
  modifyIfElse loc fun f =>
    match f.elseBody with
    | some _ => structural .secondElse body.loc
    | none => pure { f with elseBody := some body.finish }

/-- Ends the chain: the primary condition is the one left on the stack, and the primary
block the innermost one.  The statement goes where the chain started. -/
def endIfElse (loc : Location) : Assembly Unit := do
  let frame ← popIfElse loc
  let condition ← popExpr loc
  let thenBody ← popBlock loc
  let branches := Branch.mk condition thenBody.finish frame.loc :: frame.elseIfs
  addStatement (.ifElse branches frame.elseBody frame.loc) frame.loc

end Assembly
end TreeAssembly
