import TreeAssembly.Proofs.Assembly

/-!
# Where an assembler can fail

A build fails for one of two reasons (`BuildError`): the events are inconsistent, a
*structural* fault, or the program uses something this layer rejects, a *source* fault.
Most assemblers can only meet the first kind: they take items from piles and slots, and
fail when one is empty or closed.  This file proves that of each of them, in the form
`Assembly.FaultsAt loc m`: every error that `m` raises, from any builder, is a structural
fault located at `loc`, the location of the event being assembled.

`FaultsAt` composes along the program of an assembler: a `bind` of two computations that
fault only at `loc` faults only at `loc` (`FaultsAt.bind`), a computation that never fails
faults nowhere (`FaultsAt.of_ok`), and the primitives that take from a pile fault at the
location they are given.  Each assembler's lemma is then its program read as a proof.

Six assemblers can fail at the source (literals, the two operators, templates and the two
annotation events), and two place a structural fault elsewhere than at their event: the
end of an `else` clause reports a second `else` where the popped block began, and the end
of a conditional adds its statement where the conditional began.  `Step.faultSite` names
the location each event fails at, and `Assembly.endElse_fault` and `Assembly.endIfElse_fault`
show that these two still fail structurally only, at that site.

## Main statements

* `Assembly.FaultsAt` and its combinators.
* `Assembly.faultsAt_step`: every event other than the eight above faults only
  structurally, at its own location.
* `Assembly.structural_step`: every event that does not check the program's text fails
  only structurally.
-/

namespace TreeAssembly

/-- Where an event fails, given the piles it finds: at the event's location, except for the
end of an `else` clause whose conditional already has an `else` block, which fails where the
block just closed began, and the end of a conditional around which no block would be left
open, which fails where the conditional began. -/
def Step.faultSite (p : Stacks) (loc : Location) : Step → Location
  | .endElseClause =>
    match p.ifElses, p.blocks with
    | frame :: _, blk :: _ => if frame.elseBody.isSome then blk.loc else loc
    | _, _ => loc
  | .endIfElseStmt =>
    match p.ifElses, p.exprs, p.blocks with
    | frame :: _, _ :: _, [_] => frame.loc
    | _, _, _ => loc
  | _ => loc

namespace Assembly

/-- Every error that `m` raises, from any builder, is a structural fault at `loc`. -/
def FaultsAt (loc : Location) {α : Type} (m : Assembly α) : Prop :=
  ∀ b d b', m.run b = .error d b' → ∃ f, d = .structural f (some loc)

namespace FaultsAt

variable {α β : Type} {loc : Location}

/-- A computation each of whose runs succeeds or fails with a structural fault at `loc`. -/
theorem of_run {m : Assembly α}
    (h : ∀ b, (∃ a b', m.run b = .ok a b') ∨ ∃ f b', m.run b = .error (.structural f (some loc)) b') :
    FaultsAt loc m := by
  intro b d b' hd
  rcases h b with ⟨a, b₁, hp⟩ | ⟨f, b₁, hf⟩ <;> rw [hd] at *
  · cases hp
  · cases hf
    exact ⟨f, rfl⟩

/-- A computation that never fails. -/
theorem of_ok {m : Assembly α} (h : ∀ b, ∃ a b', m.run b = .ok a b') : FaultsAt loc m :=
  of_run fun b => .inl (h b)

theorem bind {m : Assembly α} {f : α → Assembly β} (hm : FaultsAt loc m)
    (hf : ∀ a, FaultsAt loc (f a)) : FaultsAt loc (m >>= f) := by
  intro b d b' h
  rcases run_bind_error h with hr | ⟨a, b₁, -, hr⟩
  · exact hm b d b' hr
  · exact hf a b₁ d b' hr

theorem ite {c : Prop} [Decidable c] {t e : Assembly α} (ht : FaultsAt loc t)
    (he : FaultsAt loc e) : FaultsAt loc (if c then t else e) := by
  split
  · exact ht
  · exact he

theorem structural (f : StructuralFault) : FaultsAt loc (Assembly.structural f loc : Assembly α) :=
  of_run fun _ => .inr ⟨f, _, rfl⟩

/-- An `if` without `else` followed by the rest of the program, as `do` writes it. -/
theorem ifThen {c : Prop} [Decidable c] {m : Assembly PUnit} {k : PUnit → Assembly β}
    (hm : FaultsAt loc m) (hk : ∀ u, FaultsAt loc (k u)) :
    FaultsAt loc (if c then m >>= k else k ⟨⟩) :=
  .ite (.bind hm hk) (hk _)

/-- A choice between two computations whose result the rest of the program takes. -/
theorem branch {c : Prop} [Decidable c] {t e : Assembly α} {k : α → Assembly β}
    (ht : FaultsAt loc t) (he : FaultsAt loc e) (hk : ∀ a, FaultsAt loc (k a)) :
    FaultsAt loc (if c then t >>= k else e >>= k) :=
  .ite (.bind ht hk) (.bind he hk)

theorem pure (a : α) : FaultsAt loc (Pure.pure a : Assembly α) := of_ok fun _ => ⟨_, _, rfl⟩

theorem get : FaultsAt loc (MonadState.get : Assembly Builder) := of_ok fun _ => ⟨_, _, rfl⟩

theorem modify (f : Builder → Builder) : FaultsAt loc (modify f : Assembly Unit) :=
  of_ok fun _ => ⟨_, _, rfl⟩

theorem piles : FaultsAt loc Assembly.piles := of_ok fun _ => ⟨_, _, rfl⟩

theorem modifyStacks (f : Stacks → Stacks) : FaultsAt loc (Assembly.modifyStacks f) :=
  of_ok fun _ => ⟨_, _, rfl⟩

theorem modifyFile (f : CompilationUnit → CompilationUnit) : FaultsAt loc (Assembly.modifyFile f) :=
  of_ok fun _ => ⟨_, _, rfl⟩

theorem pushExpr (e : Expr) : FaultsAt loc (Assembly.pushExpr e) := of_ok fun _ => ⟨_, _, rfl⟩

theorem queueType (t : ValueType) : FaultsAt loc (Assembly.queueType t) := of_ok fun _ => ⟨_, _, rfl⟩

theorem qualified (name : String) : FaultsAt loc (Assembly.qualified name) :=
  of_ok fun _ => ⟨_, _, rfl⟩

theorem popPackageName? : FaultsAt loc Assembly.popPackageName? :=
  of_ok fun b => by rw [run_popPackageName?]; split <;> simp

/-! ### The piles: an empty one is reported at the location given -/

theorem popExpr : FaultsAt loc (Assembly.popExpr loc) :=
  of_run fun b => by rw [run_popExpr]; split <;> simp

theorem popExprList : FaultsAt loc (Assembly.popExprList loc) :=
  of_run fun b => by rw [run_popExprList]; split <;> simp

theorem popKeyValueList : FaultsAt loc (Assembly.popKeyValueList loc) :=
  of_run fun b => by rw [run_popKeyValueList]; split <;> simp

theorem popAnnotationFrame : FaultsAt loc (Assembly.popAnnotationFrame loc) :=
  of_run fun b => by rw [run_popAnnotationFrame]; split <;> simp

theorem popAnnotationList : FaultsAt loc (Assembly.popAnnotationList loc) :=
  of_run fun b => by rw [run_popAnnotationList]; split <;> simp

theorem popBlock : FaultsAt loc (Assembly.popBlock loc) :=
  of_run fun b => by rw [run_popBlock]; split <;> simp

theorem popIfElse : FaultsAt loc (Assembly.popIfElse loc) :=
  of_run fun b => by rw [run_popIfElse]; split <;> simp

theorem popPackageName : FaultsAt loc (Assembly.popPackageName loc) :=
  of_run fun b => by rw [run_popPackageName]; split <;> simp

theorem popSymbolName : FaultsAt loc (Assembly.popSymbolName loc) :=
  of_run fun b => by rw [run_popSymbolName]; split <;> simp

theorem takeType : FaultsAt loc (Assembly.takeType loc) :=
  of_run fun b => by rw [run_takeType]; split <;> simp

theorem takeLastType : FaultsAt loc (Assembly.takeLastType loc) :=
  of_run fun b => by rw [run_takeLastType]; split <;> simp

theorem addStatement (s : Stmt) : FaultsAt loc (Assembly.addStatement s loc) :=
  of_run fun b => by rw [run_addStatement]; split <;> simp

end FaultsAt

variable {loc : Location}

/-! ## Expressions -/

theorem faultsAt_endExprList (count : Nat) : FaultsAt loc (endExprList count loc) := by
  refine .bind .piles fun s => ?_
  split
  · exact .structural _
  · exact .ite (.structural _) (.modifyStacks _)

theorem faultsAt_endKeyValueList (count : Nat) : FaultsAt loc (endKeyValueList count loc) := by
  refine .bind .piles fun s => ?_
  split
  · exact .structural _
  · exact .ite (.structural _) (.modifyStacks _)

theorem faultsAt_element (name : String) : FaultsAt loc (element name loc) :=
  .bind .popExpr fun _ => .pushExpr _

theorem faultsAt_fieldLink (r : Expr) (next : Option Expr) : FaultsAt loc (fieldLink r next loc) := by
  unfold fieldLink
  split
  · exact .pure _
  · exact .structural _

theorem faultsAt_fieldAccess : FaultsAt loc (fieldAccess loc) :=
  .bind .piles fun _ => .ite (.pure _) <|
    .bind .popExpr fun _ => .branch (.pure _) (faultsAt_fieldLink _ _) fun _ =>
      .bind .popExpr fun _ => .bind (faultsAt_fieldLink _ _) fun _ => .pushExpr _

theorem faultsAt_cast : FaultsAt loc (cast loc) :=
  .bind .takeLastType fun _ => .bind .popExpr fun _ => .pushExpr _

theorem faultsAt_invocation : FaultsAt loc (invocation loc) :=
  .bind .popExprList fun _ => .bind .popSymbolName fun _ => .pure _

theorem faultsAt_callExpr (kind : CallKind) : FaultsAt loc (callExpr kind loc) :=
  .bind faultsAt_invocation fun _ => .pushExpr _

theorem faultsAt_instanceCreation (typeName : String) (flag : Bool) :
    FaultsAt loc (instanceCreation typeName flag loc) := by
  unfold instanceCreation
  dsimp only
  -- the arguments, if any, are dropped; then the node is pushed, in each of three places
  refine .ite (.bind .popExprList fun _ => .ite (.bind (.modify _) fun _ => ?_) ?_) ?_ <;>
  · refine .bind .get fun b => ?_
    split
    · exact .ite (.pushExpr _) (.pushExpr _)
    · exact .pushExpr _

theorem faultsAt_arrayInit (flag : Bool) : FaultsAt loc (arrayInit flag loc) :=
  .branch .popExprList (.pure _) fun _ => .pushExpr _

theorem faultsAt_keyValue (key : String) : FaultsAt loc (keyValue key loc) :=
  .bind .popExpr fun _ => .modifyStacks _

theorem faultsAt_mapInit (flag : Bool) : FaultsAt loc (mapInit flag loc) :=
  .branch .popKeyValueList (.pure _) fun _ => .pushExpr _

/-! ## Statements -/

theorem faultsAt_endBlock : FaultsAt loc (endBlock loc) :=
  .bind .popBlock fun _ => .addStatement _

theorem faultsAt_assignment : FaultsAt loc (assignment loc) :=
  .bind .popExpr fun _ => .bind .popExprList fun _ => .addStatement _

theorem faultsAt_returnStmt (flag : Bool) : FaultsAt loc (returnStmt flag loc) :=
  .branch .popExprList (.pure _) fun _ => .addStatement _

theorem faultsAt_reply : FaultsAt loc (reply loc) :=
  .bind .popExpr fun _ => .addStatement _

theorem faultsAt_callStmt (kind : CallKind) : FaultsAt loc (callStmt kind loc) :=
  .bind faultsAt_invocation fun _ => .addStatement _

theorem faultsAt_endWhile : FaultsAt loc (endWhile loc) :=
  .bind .popExpr fun _ => .bind .popBlock fun _ => .addStatement _

/-- Changing the innermost conditional faults where the change does, or at `loc` when there
is none. -/
theorem faultsAt_modifyIfElse {f : IfFrame → Assembly IfFrame} (hf : ∀ frame, FaultsAt loc (f frame)) :
    FaultsAt loc (modifyIfElse loc f) := by
  refine .bind .piles fun s => ?_
  split
  · exact .bind (hf _) fun _ => .modifyStacks _
  · exact .structural _

theorem faultsAt_endElseIf : FaultsAt loc (endElseIf loc) :=
  .bind .piles fun _ => .ifThen (.structural _) fun _ =>
    .bind .popBlock fun _ => .bind .popExpr fun _ => faultsAt_modifyIfElse fun _ => .pure _

/-! ## Declarations -/

theorem faultsAt_param (name : String) : FaultsAt loc (param name loc) :=
  .bind .takeType fun _ => .bind .get fun _ =>
    .ite (.modify _) (.ite (.modify _) (.structural _))

theorem faultsAt_returnTypes : FaultsAt loc (returnTypes loc) :=
  .bind .get fun _ => .ifThen (.structural _) fun _ =>
    .bind (.modifyStacks _) fun _ => .modify _

theorem faultsAt_namedReturnParam (name : String) : FaultsAt loc (namedReturnParam name loc) :=
  .bind .takeType fun _ => .bind .get fun _ => .ifThen (.structural _) fun _ =>
    .modify _

theorem faultsAt_constant (name : String) : FaultsAt loc (constant name loc) :=
  .bind .takeType fun _ => .bind .popExpr fun _ => .bind (.qualified _) fun _ => .modifyFile _

theorem faultsAt_variableDecl (name : String) : FaultsAt loc (variableDecl name loc) :=
  .bind .takeType fun _ => .bind .get fun _ =>
    .ite (.addStatement _) (.ite (.modify _) (.structural _))

theorem faultsAt_connectorDecl (varName : String) : FaultsAt loc (connectorDecl varName loc) :=
  .bind .piles fun _ => .ifThen (.structural _) fun _ =>
    .bind .popSymbolName fun _ => .bind .popSymbolName fun _ => .bind .popExprList fun _ =>
      .bind .get fun _ => .ite (.modify _) (.ite (.modify _) (.structural _))

theorem faultsAt_startUnit : FaultsAt loc (startUnit loc) :=
  .bind .get fun _ => .ifThen (.structural _) fun _ =>
    .bind (.modify _) fun _ => .modifyStacks _

theorem faultsAt_endUnitBody : FaultsAt loc (endUnitBody loc) :=
  .bind .popBlock fun _ => .bind .get fun _ => .ifThen (.structural _) fun _ =>
    .modify _

theorem faultsAt_finishUnit (kind : UnitKind) (name : String) (isPublic : Bool) :
    FaultsAt loc (finishUnit kind name isPublic loc) := by
  refine .bind .get fun b => ?_
  split
  · exact .bind (.modify _) fun _ => .bind .popAnnotationList fun _ =>
      .bind (.qualified _) fun _ => .pure _
  · exact .structural _

theorem faultsAt_topLevelUnit (kind : UnitKind) (name : String) (isPublic : Bool) :
    FaultsAt loc (topLevelUnit kind name isPublic loc) := by
  refine .bind (faultsAt_finishUnit _ _ _) fun _ => ?_
  split <;> exact .modifyFile _

theorem faultsAt_groupedUnit (kind : UnitKind) (name : String) :
    FaultsAt loc (groupedUnit kind name loc) :=
  .bind .get fun _ => .ifThen (.structural _) fun _ =>
    .bind (faultsAt_finishUnit _ _ _) fun _ => .modify _

theorem faultsAt_startGroup : FaultsAt loc (startGroup loc) :=
  .bind .get fun _ => .ifThen (.structural _) fun _ =>
    .bind (.modify _) fun _ => .modifyStacks _

theorem faultsAt_finishGroup (kind : GroupKind) (name : String) :
    FaultsAt loc (finishGroup kind name loc) := by
  refine .bind .get fun _ => .ifThen (.structural _) fun _ => .bind .get fun b => ?_
  split
  · refine .bind (.modify _) fun _ => .bind .popAnnotationList fun _ =>
      .bind (.qualified _) fun _ => ?_
    split <;> exact .modifyFile _
  · exact .structural _

theorem faultsAt_startStruct : FaultsAt loc (startStruct loc) :=
  .bind .get fun _ => .ifThen (.structural _) fun _ => .modify _

theorem faultsAt_structField (name : String) : FaultsAt loc (structField name loc) := by
  refine .bind .takeType fun _ => .bind .get fun b => ?_
  split
  · exact .modify _
  · exact .structural _

theorem faultsAt_structDefinition (name : String) (isPublic : Bool) :
    FaultsAt loc (structDefinition name isPublic loc) := by
  refine .bind .get fun b => ?_
  split
  · exact .bind (.modify _) fun _ => .bind (.qualified _) fun _ =>
      .bind (.modifyFile _) fun _ => .modify _
  · exact .structural _

/-! ## The two that fault elsewhere -/

/-- The end of an `else` clause fails structurally at its fault site: a second `else` is
reported where the popped block began. -/
theorem endElse_fault {b b' : Builder} {d : BuildError} (h : (endElse loc).run b = .error d b') :
    ∃ f, d = .structural f (some (Step.endElseClause.faultSite b.piles loc)) := by
  rcases hi : b.piles.ifElses with _ | ⟨frame, frames⟩
  · simp [endElse, hi] at h
    exact ⟨.noOpen .ifElse, by simp [← h, Step.faultSite, hi]⟩
  rcases hb : b.piles.blocks with _ | ⟨blk, blks⟩
  · simp [endElse, hi, hb] at h
    exact ⟨.emptyStack .block, by simp [← h, Step.faultSite, hi, hb]⟩
  rcases he : frame.elseBody with _ | e <;> simp [endElse, modifyIfElse, hi, hb, he] at h
  exact ⟨.secondElse, by simp [← h, Step.faultSite, hi, hb, he]⟩

/-- The end of a conditional fails structurally at its fault site: the statement is added
where the conditional began. -/
theorem endIfElse_fault {b b' : Builder} {d : BuildError} (h : (endIfElse loc).run b = .error d b') :
    ∃ f, d = .structural f (some (Step.endIfElseStmt.faultSite b.piles loc)) := by
  rcases hi : b.piles.ifElses with _ | ⟨frame, frames⟩
  · simp [endIfElse, hi] at h
    exact ⟨.emptyStack .ifElse, by simp [← h, Step.faultSite, hi]⟩
  rcases hx : b.piles.exprs with _ | ⟨x, xs⟩
  · simp [endIfElse, hi, hx] at h
    exact ⟨.emptyStack .expression, by simp [← h, Step.faultSite, hi, hx]⟩
  rcases hb : b.piles.blocks with _ | ⟨blk, _ | ⟨blk', blks⟩⟩ <;> simp [endIfElse, hi, hx, hb] at h
  · exact ⟨.emptyStack .block, by simp [← h, Step.faultSite, hi, hx, hb]⟩
  · exact ⟨.noOpen .block, by simp [← h, Step.faultSite, hi, hx, hb]⟩

end Assembly

/-- The events whose assembler checks the program's text: a literal token, an operator
symbol, a template token or an annotation value. -/
def Step.checksSource : Step → Bool
  | .literal .. | .binaryExpr _ | .unaryExpr _ | .backtickExpr _ | .annotationKeyValue _
  | .annotationEnd .. => true
  | _ => false

namespace Assembly

variable {loc : Location}

/-- **Every event that does not check the program's text faults only structurally, at its
own location**, but for the ends of an `else` clause and of a conditional. -/
theorem faultsAt_step {s : Step} (hs : s.checksSource = false) (he : s ≠ .endElseClause)
    (hi : s ≠ .endIfElseStmt) : FaultsAt loc (step loc s) := by
  cases s <;> simp only [Step.checksSource, Bool.true_eq_false] at hs <;> simp only [step]
  -- names, packages and types
  case symbolName | connectorSymbolName => exact .bind .popPackageName? fun _ => .modifyStacks _
  case packageName | annotationStart | startExprList | startVarRefList | startMapInitKeyValue
      | startWhileStmt | startIfElseStmt | startElseIfClause | startElseClause | startBlock
      | startCallableUnitBody =>
    exact .modifyStacks _
  case packageDecl => exact .bind .popPackageName fun _ => .bind (.modify _) fun _ => .modifyFile _
  case importPackage => exact .bind .popPackageName fun _ => .modifyFile _
  case type => exact .bind .get fun _ => .queueType _
  case arrayType => exact .bind .get fun _ => .bind (.modify _) fun _ => .queueType _
  case registerConnectorType => exact .modify _
  -- lists and expressions
  case endExprList | endVarRefList => exact faultsAt_endExprList _
  case endMapInitKeyValue => exact faultsAt_endKeyValueList _
  case varRef | structInitExpr => exact .pushExpr _
  case mapArrayVarRef => exact faultsAt_element _
  case structFieldRef => exact faultsAt_fieldAccess
  case functionInvocationExpr | actionInvocationExpr => exact faultsAt_callExpr _
  case typeCastExpr => exact faultsAt_cast
  case instanceCreationExpr => exact faultsAt_instanceCreation _ _
  case arrayInitExpr => exact faultsAt_arrayInit _
  case mapInitKeyValue => exact faultsAt_keyValue _
  case mapInitExpr => exact faultsAt_mapInit _
  -- statements
  case assignmentStmt => exact faultsAt_assignment
  case returnStmt => exact faultsAt_returnStmt _
  case replyStmt => exact faultsAt_reply
  case endWhileStmt => exact faultsAt_endWhile
  case endElseIfClause => exact faultsAt_endElseIf
  case endElseClause => exact absurd rfl he
  case endIfElseStmt => exact absurd rfl hi
  case endBlock => exact faultsAt_endBlock
  case functionInvocationStmt | actionInvocationStmt => exact faultsAt_callStmt _
  -- declarations, units, groups and structs
  case param => exact faultsAt_param _
  case returnTypes => exact faultsAt_returnTypes
  case namedReturnParam => exact faultsAt_namedReturnParam _
  case constant => exact faultsAt_constant _
  case variableDecl => exact faultsAt_variableDecl _
  case connectorDecl => exact faultsAt_connectorDecl _
  case startCallableUnit => exact faultsAt_startUnit
  case endCallableUnitBody => exact faultsAt_endUnitBody
  case function | typeConverter => exact faultsAt_topLevelUnit _ _ _
  case resource | action => exact faultsAt_groupedUnit _ _
  case startCallableUnitGroup => exact faultsAt_startGroup
  case service | connector => exact faultsAt_finishGroup _ _
  case startStruct => exact faultsAt_startStruct
  case structField => exact faultsAt_structField _
  case structDefinition => exact faultsAt_structDefinition _ _

/-- Every event that does not check the program's text fails only structurally. -/
theorem structural_step {s : Step} (hs : s.checksSource = false) {b b' : Builder} {d : BuildError}
    (h : (step loc s).run b = .error d b') : ∃ f l, d = .structural f l := by
  by_cases he : s = .endElseClause
  · subst he
    obtain ⟨f, rfl⟩ := endElse_fault h
    exact ⟨f, _, rfl⟩
  by_cases hi : s = .endIfElseStmt
  · subst hi
    obtain ⟨f, rfl⟩ := endIfElse_fault h
    exact ⟨f, _, rfl⟩
  obtain ⟨f, rfl⟩ := faultsAt_step hs he hi b d b' h
  exact ⟨f, _, rfl⟩

end Assembly
end TreeAssembly
