import TreeAssembly.Proofs.Refinement.Expr

/-!
# Statements are built as the reference builds them

Inside the body of a callable unit, the events of a statement followed by any further
events run like those further events started from the same builder with the reference's
statement appended to the innermost open block.  Loops, blocks and the clauses of a
conditional open a block of their own; their statements go there, and the event that
closes them takes that block back.  A conditional also keeps a frame for its `else if`
branches and its `else` block; each clause adds to that frame.

The hypotheses are those that hold between two statements of a body: the builder is ready,
no type is queued (a declaration takes the oldest queued type), and a callable unit is
open (a variable declaration is a statement only there).

* `StmtD.replays`, `StmtD.listReplays`: every statement and every list of statements.
* `ClauseD.replays`, `ClauseD.listReplays`: an `else if` clause adds its branch to the
  innermost conditional.
* `ElseD.optReplays`: an `else` clause sets the innermost conditional's `else` block.
-/

namespace TreeAssembly

namespace Builder

/-- A builder between two statements of a body: ready, with no type queued and a callable
unit open. -/
def StmtReady (b : Builder) : Prop :=
  b.Ready ∧ b.piles.types = [] ∧ b.unit.isSome = true

/-- `b` with the statements `ss` appended to the innermost open block `blk`, above the
blocks `rest`, and the ambient `a` in place. -/
def addStmts (b : Builder) (blk : BlockFrame) (rest : List BlockFrame) (ss : List Stmt)
    (a : Ambient) : Builder :=
  { b with piles := { b.piles with blocks := { blk with statements := blk.statements ++ ss } :: rest },
           registry := a.registry, warnings := a.warnings }

/-- `b` with the branches `brs` added to the innermost conditional `f`, above the
conditionals `fs`, and the ambient `a` in place. -/
def addBranches (b : Builder) (f : IfFrame) (fs : List IfFrame) (brs : List Branch)
    (a : Ambient) : Builder :=
  { b with piles := { b.piles with ifElses := { f with elseIfs := f.elseIfs ++ brs } :: fs },
           registry := a.registry, warnings := a.warnings }

@[simp] theorem ambient_addStmts (b : Builder) (blk : BlockFrame) (rest : List BlockFrame)
    (ss : List Stmt) (a : Ambient) : (b.addStmts blk rest ss a).ambient = a := rfl

@[simp] theorem ambient_addBranches (b : Builder) (f : IfFrame) (fs : List IfFrame)
    (brs : List Branch) (a : Ambient) : (b.addBranches f fs brs a).ambient = a := rfl

theorem addStmts_addStmts (b : Builder) (blk : BlockFrame) (rest : List BlockFrame)
    (ss ts : List Stmt) (a a' : Ambient) :
    (b.addStmts blk rest ss a).addStmts { blk with statements := blk.statements ++ ss } rest ts a' =
      b.addStmts blk rest (ss ++ ts) a' := by
  simp [addStmts]

theorem addBranches_addBranches (b : Builder) (f : IfFrame) (fs : List IfFrame)
    (brs cs : List Branch) (a a' : Ambient) :
    (b.addBranches f fs brs a).addBranches { f with elseIfs := f.elseIfs ++ brs } fs cs a' =
      b.addBranches f fs (brs ++ cs) a' := by
  simp [addBranches]

theorem addStmts_nil {b : Builder} {blk : BlockFrame} {rest : List BlockFrame}
    (h : b.piles.blocks = blk :: rest) : b.addStmts blk rest [] b.ambient = b := by
  rcases blk with ⟨l, ss⟩
  simp only [addStmts, List.append_nil, ← h]
  rfl

theorem addBranches_nil {b : Builder} {f : IfFrame} {fs : List IfFrame}
    (h : b.piles.ifElses = f :: fs) : b.addBranches f fs [] b.ambient = b := by
  rcases f with ⟨l, brs, e⟩
  simp only [addBranches, List.append_nil, ← h]
  rfl

end Builder

open Builder

/-! ## What a derivation must do -/

/-- The events of `s` append the reference's statement to the innermost open block. -/
def StmtD.Replays (s : StmtD) : Prop :=
  ∀ (b : Builder) (blk : BlockFrame) (rest : List BlockFrame) (k : List Event),
    b.StmtReady → b.piles.blocks = blk :: rest →
    b.exec (s.events ++ k) = s.eval b.ambient >>= fun p => (b.addStmts blk rest [p.1] p.2).exec k

/-- The events of a list of statements append them, in order, to the innermost open block. -/
def StmtD.ListReplays (ss : List StmtD) : Prop :=
  ∀ (b : Builder) (blk : BlockFrame) (rest : List BlockFrame) (k : List Event),
    b.StmtReady → b.piles.blocks = blk :: rest →
    b.exec (StmtD.listEvents ss ++ k) =
      StmtD.evalList b.ambient ss >>= fun p => (b.addStmts blk rest p.1 p.2).exec k

/-- The events of an `else if` clause add the reference's branch to the innermost
conditional. -/
def ClauseD.Replays (c : ClauseD) : Prop :=
  ∀ (b : Builder) (f : IfFrame) (fs : List IfFrame) (k : List Event),
    b.StmtReady → b.piles.ifElses = f :: fs →
    b.exec (c.events ++ k) = c.eval b.ambient >>= fun p => (b.addBranches f fs [p.1] p.2).exec k

/-- The events of the `else if` clauses add their branches in order. -/
def ClauseD.ListReplays (cs : List ClauseD) : Prop :=
  ∀ (b : Builder) (f : IfFrame) (fs : List IfFrame) (k : List Event),
    b.StmtReady → b.piles.ifElses = f :: fs →
    b.exec (ClauseD.listEvents cs ++ k) =
      ClauseD.evalList b.ambient cs >>= fun p => (b.addBranches f fs p.1 p.2).exec k

/-- The events of an optional `else` clause set the innermost conditional's `else` block,
which was not set yet. -/
def ElseD.OptReplays (o : Option ElseD) : Prop :=
  ∀ (b : Builder) (f : IfFrame) (fs : List IfFrame) (k : List Event),
    b.StmtReady → b.piles.ifElses = f :: fs → f.elseBody = none →
    b.exec (ElseD.optEvents o ++ k) = ElseD.evalOpt b.ambient o >>= fun p =>
      { b with piles := { b.piles with ifElses := { f with elseBody := p.1 } :: fs },
               registry := p.2.registry, warnings := p.2.warnings }.exec k

/-! ## Lists -/

theorem StmtD.listReplays_nil : StmtD.ListReplays [] := by
  intro b blk rest k _ hblk
  simp [StmtD.listEvents, StmtD.evalList, addStmts_nil hblk]

theorem StmtD.listReplays_cons {s : StmtD} {ss : List StmtD} (hs : s.Replays)
    (hss : StmtD.ListReplays ss) : StmtD.ListReplays (s :: ss) := by
  intro b blk rest k hr hblk
  rw [StmtD.listEvents, List.append_assoc, hs b blk rest _ hr hblk]
  rcases hx : s.eval b.ambient with err | ⟨x, a⟩
  · simp [StmtD.evalList, hx]
  simp only [ok_bind]
  rw [hss _ { blk with statements := blk.statements ++ [x] } rest _ (by exact hr) rfl,
    ambient_addStmts]
  rcases hxs : StmtD.evalList a ss with err | ⟨xs, a'⟩
  · simp [StmtD.evalList, hx, hxs]
  · simp [StmtD.evalList, hx, hxs, addStmts_addStmts]

theorem ClauseD.listReplays_nil : ClauseD.ListReplays [] := by
  intro b f fs k _ hf
  simp [ClauseD.listEvents, ClauseD.evalList, addBranches_nil hf]

theorem ClauseD.listReplays_cons {c : ClauseD} {cs : List ClauseD} (hc : c.Replays)
    (hcs : ClauseD.ListReplays cs) : ClauseD.ListReplays (c :: cs) := by
  intro b f fs k hr hf
  rw [ClauseD.listEvents, List.append_assoc, hc b f fs _ hr hf]
  rcases hx : c.eval b.ambient with err | ⟨x, a⟩
  · simp [ClauseD.evalList, hx]
  simp only [ok_bind]
  rw [hcs _ { f with elseIfs := f.elseIfs ++ [x] } fs _ (by exact hr) rfl, ambient_addBranches]
  rcases hxs : ClauseD.evalList a cs with err | ⟨xs, a'⟩
  · simp [ClauseD.evalList, hx, hxs]
  · simp [ClauseD.evalList, hx, hxs, addBranches_addBranches]

/-! ## One lemma per kind of statement -/

section Nodes

variable {loc start stop : Location}

theorem replays_varDef {d : DeclD} : (StmtD.varDef d).Replays := by
  intro b blk rest k hr hblk
  obtain ⟨⟨hb, -⟩, ht, hu⟩ := hr
  simp only [StmtD.events, DeclD.events, List.cons_append, List.nil_append]
  rw [exec_type d.ty hb]
  rcases hd : d.ty.eval b.ambient with ⟨ty, a⟩
  -- the declaration's type is the only one queued, and a unit is open
  rw [exec_cons_of_run (e := ⟨.variableDecl d.name, d.loc⟩) k (by exact hb)
    (Assembly.run_variableDecl_unit (by rw [ht]; rfl) (by exact hu) (by exact hblk))]
  simp [StmtD.eval, DeclD.eval, hd, ht, addStmts]

theorem replays_assign {targets : List ExprD} {value : ExprD} :
    (StmtD.assign start targets stop value loc).Replays := by
  intro b blk rest k hr hblk
  simp only [StmtD.events, List.cons_append, List.append_assoc, List.nil_append]
  rw [exec_exprBracket (ExprD.listReplays targets) rfl rfl hr.1]
  rcases hts : ExprD.evalList b.ambient targets with err | ⟨ts, a⟩
  · simp [StmtD.eval, hts]
  simp only [ok_bind]
  rw [ExprD.replays value _ _ (by exact hr.1), ambient_mk]
  rcases hv : value.eval a with err | ⟨v, a'⟩
  · simp [StmtD.eval, hts, hv]
  -- the value is on top, the targets are the top list, over the statement's block
  rw [ok_bind, exec_cons_of_run (e := ⟨.assignmentStmt, loc⟩) k (by exact hr.1.1)
    (Assembly.run_assignment_eq rfl rfl (by exact hblk))]
  simp [StmtD.eval, hts, hv, addStmts, pushResults]

theorem replays_ret : (StmtD.ret loc).Replays := by
  intro b blk rest k hr hblk
  rw [StmtD.events, List.singleton_append, exec_cons_of_run (e := ⟨.returnStmt false, loc⟩) k
    hr.1.1 (Assembly.run_returnStmt_bare hblk)]
  simp [StmtD.eval, addStmts, ambient]

theorem replays_retOf {values : List ExprD} : (StmtD.retOf start values stop loc).Replays := by
  intro b blk rest k hr hblk
  simp only [StmtD.events, List.cons_append, List.append_assoc, List.nil_append]
  rw [exec_exprBracket (ExprD.listReplays values) rfl rfl hr.1]
  rcases hvs : ExprD.evalList b.ambient values with err | ⟨vs, a⟩
  · simp [StmtD.eval, hvs]
  rw [ok_bind, exec_cons_of_run (e := ⟨.returnStmt true, loc⟩) k (by exact hr.1.1)
    (Assembly.run_returnStmt_values rfl (by exact hblk))]
  simp [StmtD.eval, hvs, addStmts]

theorem replays_reply {value : ExprD} : (StmtD.reply value loc).Replays := by
  intro b blk rest k hr hblk
  rw [StmtD.events, List.append_assoc, ExprD.replays value b _ hr.1]
  rcases hv : value.eval b.ambient with err | ⟨v, a⟩
  · simp [StmtD.eval, hv]
  rw [ok_bind, List.singleton_append, exec_cons_of_run (e := ⟨.replyStmt, loc⟩) k
    (by exact hr.1.1) (Assembly.run_reply_eq rfl (by exact hblk))]
  simp [StmtD.eval, hv, addStmts, pushResults]

theorem replays_loop {condition : ExprD} {body : List StmtD} (hs : StmtD.ListReplays body) :
    (StmtD.loop start condition body stop).Replays := by
  intro b blk rest k hr hblk
  simp only [StmtD.events, List.cons_append, List.append_assoc, List.nil_append]
  rw [exec_cons_of_run (e := ⟨.startWhileStmt, start⟩) _ hr.1.1 (Assembly.run_openBlock b)]
  -- the condition is finished inside the loop's block, and the body goes into that block
  rw [ExprD.replays condition _ _ (by exact hr.1)]
  change condition.eval b.ambient >>= _ = _
  rcases hc : condition.eval b.ambient with err | ⟨c, a⟩
  · simp [StmtD.eval, hc]
  simp only [ok_bind]
  rw [hs _ { loc := start } (blk :: rest) _ (by exact hr) (by simp [pushResults, hblk]),
    ambient_pushResults]
  rcases hss : StmtD.evalList a body with err | ⟨ss, a'⟩
  · simp [StmtD.eval, hc, hss]
  -- the condition is on top, and the loop's block above the one it joins
  rw [ok_bind, exec_cons_of_run (e := ⟨.endWhileStmt, stop⟩) k (by exact hr.1.1)
    (Assembly.run_endWhile_eq rfl rfl)]
  simp [StmtD.eval, hc, hss, hblk, addStmts, pushResults, BlockFrame.finish]

theorem replays_ifElse {condition : ExprD} {body : List StmtD} {clauses : List ClauseD}
    {elseClause : Option ElseD} (hs : StmtD.ListReplays body) (hc : ClauseD.ListReplays clauses)
    (he : ElseD.OptReplays elseClause) :
    (StmtD.ifElse start condition body clauses elseClause stop).Replays := by
  intro b blk rest k hr hblk
  simp only [StmtD.events, List.cons_append, List.append_assoc, List.nil_append]
  rw [exec_cons_of_run (e := ⟨.startIfElseStmt, start⟩) _ hr.1.1 (Assembly.run_startIfElse b)]
  -- the primary condition stays on the expression pile until the chain ends
  rw [ExprD.replays condition _ _ (by exact hr.1)]
  change condition.eval b.ambient >>= _ = _
  rcases hcnd : condition.eval b.ambient with err | ⟨c, a₁⟩
  · simp [StmtD.eval, hcnd]
  simp only [ok_bind]
  rw [hs _ { loc := start } (blk :: rest) _ (by exact hr) (by simp [pushResults, hblk]),
    ambient_pushResults]
  rcases hss : StmtD.evalList a₁ body with err | ⟨ss, a₂⟩
  · simp [StmtD.eval, hcnd, hss]
  simp only [ok_bind]
  rw [hc _ { loc := start } b.piles.ifElses _ (by exact hr) (by simp [addStmts, pushResults]),
    ambient_addStmts]
  rcases hbs : ClauseD.evalList a₂ clauses with err | ⟨brs, a₃⟩
  · simp [StmtD.eval, hcnd, hss, hbs]
  simp only [ok_bind]
  rw [he _ { loc := start, elseIfs := [] ++ brs } b.piles.ifElses _ (by exact hr)
    (by simp [addBranches, addStmts, pushResults]) rfl, ambient_addBranches]
  rcases heb : ElseD.evalOpt a₃ elseClause with err | ⟨eb, a₄⟩
  · simp [StmtD.eval, hcnd, hss, hbs, heb]
  -- the chain's frame, its primary condition and its primary block are on top
  rw [ok_bind, exec_cons_of_run (e := ⟨.endIfElseStmt, stop⟩) k (by exact hr.1.1)
    (Assembly.run_endIfElse_eq rfl rfl rfl)]
  simp [StmtD.eval, hcnd, hss, hbs, heb, hblk, addStmts, addBranches, pushResults,
    BlockFrame.finish]

theorem replays_block {body : List StmtD} (hs : StmtD.ListReplays body) :
    (StmtD.block start body stop).Replays := by
  intro b blk rest k hr hblk
  simp only [StmtD.events, List.cons_append, List.append_assoc, List.nil_append]
  rw [exec_cons_of_run (e := ⟨.startBlock, start⟩) _ hr.1.1 (Assembly.run_openBlock b)]
  rw [hs _ { loc := start } (blk :: rest) _ (by exact hr) (by simp [hblk])]
  change StmtD.evalList b.ambient body >>= _ = _
  rcases hss : StmtD.evalList b.ambient body with err | ⟨ss, a⟩
  · simp [StmtD.eval, hss]
  rw [ok_bind, exec_cons_of_run (e := ⟨.endBlock, stop⟩) k (by exact hr.1.1)
    (Assembly.run_endBlock_eq rfl)]
  simp [StmtD.eval, hss, addStmts, BlockFrame.finish]

/-- A call statement's closing event runs the call assembler of its kind. -/
theorem CallKind.step_stmtStep (kind : CallKind) (loc : Location) :
    Assembly.step loc kind.stmtStep = Assembly.callStmt kind loc := by
  cases kind <;> rfl

theorem replays_callStmt {kind : CallKind} {callee : NameD} {args : List ExprD} :
    (StmtD.call kind callee start args stop loc).Replays := by
  intro b blk rest k hr hblk
  simp only [StmtD.events, List.append_assoc, List.cons_append, List.nil_append]
  rw [exec_name callee hr.1, exec_exprBracket (ExprD.listReplays args) rfl rfl (by exact hr.1)]
  change ExprD.evalList b.ambient args >>= _ = _
  rcases hxs : ExprD.evalList b.ambient args with err | ⟨xs, a⟩
  · simp [StmtD.eval, hxs]
  -- the arguments are the top list and the callee the top name, over the statement's block
  rw [ok_bind, exec_cons_of_run (e := ⟨kind.stmtStep, loc⟩) k (by exact hr.1.1) (by
    rw [CallKind.step_stmtStep]
    exact Assembly.run_callStmt_eq rfl rfl (by exact hblk))]
  simp [StmtD.eval, hxs, addStmts]

theorem replays_clause {condition : ExprD} {body : List StmtD} (hs : StmtD.ListReplays body) :
    (ClauseD.mk start condition body stop).Replays := by
  intro b f fs k hr hf
  simp only [ClauseD.events, List.cons_append, List.append_assoc, List.nil_append]
  rw [exec_cons_of_run (e := ⟨.startElseIfClause, start⟩) _ hr.1.1 (Assembly.run_openBlock b)]
  rw [ExprD.replays condition _ _ (by exact hr.1)]
  change condition.eval b.ambient >>= _ = _
  rcases hc : condition.eval b.ambient with err | ⟨c, a⟩
  · simp [ClauseD.eval, hc]
  simp only [ok_bind]
  rw [hs _ { loc := start } b.piles.blocks _ (by exact hr) (by simp [pushResults]),
    ambient_pushResults]
  rcases hss : StmtD.evalList a body with err | ⟨ss, a'⟩
  · simp [ClauseD.eval, hc, hss]
  -- the clause's block is innermost and its condition on top, inside the conditional
  rw [ok_bind, exec_cons_of_run (e := ⟨.endElseIfClause, stop⟩) k (by exact hr.1.1)
    (Assembly.run_endElseIf_eq (by exact hf) rfl rfl)]
  simp [ClauseD.eval, hc, hss, addStmts, addBranches, pushResults, BlockFrame.finish]

theorem ElseD.optReplays_none : ElseD.OptReplays none := by
  intro b f fs k _ hf hnone
  rcases f with ⟨l, brs, e⟩
  simp only at hnone
  subst hnone
  simp only [ElseD.optEvents, ElseD.evalOpt, List.nil_append, except_pure, ok_bind, ← hf]
  rfl

theorem replays_else {body : List StmtD} (hs : StmtD.ListReplays body) :
    ElseD.OptReplays (some (.mk start body stop)) := by
  intro b f fs k hr hf hnone
  simp only [ElseD.optEvents, List.cons_append, List.append_assoc, List.nil_append]
  rw [exec_cons_of_run (e := ⟨.startElseClause, start⟩) _ hr.1.1 (Assembly.run_openBlock b)]
  rw [hs _ { loc := start } b.piles.blocks _ (by exact hr) rfl]
  change StmtD.evalList b.ambient body >>= _ = _
  rcases hss : StmtD.evalList b.ambient body with err | ⟨ss, a⟩
  · simp [ElseD.evalOpt, hss]
  -- the clause's block is innermost, inside a conditional that has no `else` block yet
  rw [ok_bind, exec_cons_of_run (e := ⟨.endElseClause, stop⟩) k (by exact hr.1.1)
    (Assembly.run_endElse_eq (by exact hf) rfl hnone)]
  simp [ElseD.evalOpt, hss, addStmts, BlockFrame.finish]

end Nodes

/-! ## Every statement -/

mutual

/-- **Every statement derivation replays as the reference builds it.** -/
theorem StmtD.replays : (s : StmtD) → s.Replays
  | .varDef _ => replays_varDef
  | .assign .. => replays_assign
  | .ret _ => replays_ret
  | .retOf .. => replays_retOf
  | .reply .. => replays_reply
  | .loop _ _ body _ => replays_loop (StmtD.listReplays body)
  | .ifElse _ _ body clauses elseClause _ =>
    replays_ifElse (StmtD.listReplays body) (ClauseD.listReplays clauses)
      (ElseD.optReplays elseClause)
  | .block _ body _ => replays_block (StmtD.listReplays body)
  | .call .. => replays_callStmt

/-- Every list of statements replays as the reference builds it. -/
theorem StmtD.listReplays : (ss : List StmtD) → StmtD.ListReplays ss
  | [] => StmtD.listReplays_nil
  | s :: ss => StmtD.listReplays_cons (StmtD.replays s) (StmtD.listReplays ss)

/-- Every `else if` clause replays as the reference builds it. -/
theorem ClauseD.replays : (c : ClauseD) → c.Replays
  | .mk _ _ body _ => replays_clause (StmtD.listReplays body)

/-- Every list of `else if` clauses replays as the reference builds it. -/
theorem ClauseD.listReplays : (cs : List ClauseD) → ClauseD.ListReplays cs
  | [] => ClauseD.listReplays_nil
  | c :: cs => ClauseD.listReplays_cons (ClauseD.replays c) (ClauseD.listReplays cs)

/-- Every optional `else` clause replays as the reference builds it. -/
theorem ElseD.optReplays : (o : Option ElseD) → ElseD.OptReplays o
  | none => ElseD.optReplays_none
  | some (.mk _ body _) => replays_else (StmtD.listReplays body)

end

end TreeAssembly
