import TreeAssembly.Proofs.Steps.Expr

/-!
# What a successful statement event leaves

The statement assemblers, in the form of `Steps.Expr`: when one succeeds, the piles it
reads had the shape it pops, and the builder it leaves is `b` with exactly the listed
piles replaced, and the equations the other way that the refinement proofs cite.  Every
finished statement goes through `addStatement`, so each of these lemmas ends with the
innermost open block grown by one statement.

## Main statements

* `run_addStatement_ok`: the innermost block takes the statement.
* `run_assignment_ok`, `run_returnStmt_ok`, `run_reply_ok`, `run_callStmt_ok`: the
  simple statements.
* `run_endBlock_ok`, `run_endWhile_ok`: the statements that close a block of their own.
* `run_endElseIf_ok`, `run_endElse_ok`, `run_endIfElse_ok`: a conditional collects its
  `else if` branches and its `else` block in its frame, and closes with its primary
  branch in front.
* `run_assignment_eq`, `run_endElse_eq`, `run_endIfElse_eq`, ...: the same steps from the
  piles they find.
-/

namespace TreeAssembly
namespace Assembly

variable {loc : Location} {b b' : Builder}

/-- A statement joins the innermost open block. -/
theorem run_addStatement_ok {s : Stmt} (h : (addStatement s loc).run b = .ok () b') :
    ∃ blk rest, b.piles.blocks = blk :: rest ∧
      b' = { b with piles := { b.piles with
        blocks := { blk with statements := blk.statements ++ [s] } :: rest } } := by
  rcases hb : b.piles.blocks with _ | ⟨blk, rest⟩ <;> simp [hb] at h
  exact ⟨blk, rest, rfl, h.symm⟩

/-- Opening a block pushes an empty one. -/
theorem run_openBlock (b : Builder) :
    (openBlock loc).run b =
      .ok () { b with piles := { b.piles with blocks := { loc } :: b.piles.blocks } } := rfl

/-- Starting a conditional opens its frame and the block of its primary branch. -/
theorem run_startIfElse (b : Builder) :
    (startIfElse loc).run b = .ok () { b with piles := { b.piles with
      ifElses := { loc } :: b.piles.ifElses, blocks := { loc } :: b.piles.blocks } } := rfl

/-- A nested block closes into a statement of the block around it. -/
theorem run_endBlock_ok (h : (endBlock loc).run b = .ok () b') :
    ∃ blk outer rest, b.piles.blocks = blk :: outer :: rest ∧
      b' = { b with piles := { b.piles with
        blocks := { outer with statements := outer.statements ++ [.block blk.finish loc] } ::
          rest } } := by
  rcases hb : b.piles.blocks with _ | ⟨blk, _ | ⟨outer, rest⟩⟩ <;> simp [endBlock, hb] at h
  exact ⟨blk, outer, rest, rfl, h.symm⟩

/-- Over two blocks, a nested block closes into a statement of the one around it. -/
theorem run_endBlock_eq {blk outer : BlockFrame} {rest : List BlockFrame}
    (hb : b.piles.blocks = blk :: outer :: rest) :
    (endBlock loc).run b = .ok () { b with piles := { b.piles with
      blocks := { outer with statements := outer.statements ++ [.block blk.finish loc] } ::
        rest } } := by
  simp [endBlock, hb]

/-- An assignment takes its value from the top expression and its targets from the top
list. -/
theorem run_assignment_ok (h : (assignment loc).run b = .ok () b') :
    ∃ v rest targets lists blk blocks, b.piles.exprs = v :: rest ∧
      b.piles.exprLists = targets :: lists ∧ b.piles.blocks = blk :: blocks ∧
      b' = { b with piles := { b.piles with
        exprs := rest, exprLists := lists,
        blocks := { blk with statements := blk.statements ++ [.assign targets v loc] } ::
          blocks } } := by
  rcases hx : b.piles.exprs with _ | ⟨v, rest⟩ <;> simp [assignment, hx] at h
  rcases hl : b.piles.exprLists with _ | ⟨targets, lists⟩ <;> simp [hl] at h
  rcases hb : b.piles.blocks with _ | ⟨blk, blocks⟩ <;> simp [hb] at h
  exact ⟨v, rest, targets, lists, blk, blocks, rfl, rfl, rfl, h.symm⟩

/-- Over a value, a target list and a block, an assignment joins the block. -/
theorem run_assignment_eq {v : Expr} {rest targets : List Expr} {lists : List (List Expr)}
    {blk : BlockFrame} {blocks : List BlockFrame} (hx : b.piles.exprs = v :: rest)
    (hl : b.piles.exprLists = targets :: lists) (hb : b.piles.blocks = blk :: blocks) :
    (assignment loc).run b = .ok () { b with piles := { b.piles with
      exprs := rest, exprLists := lists,
      blocks := { blk with statements := blk.statements ++ [.assign targets v loc] } ::
        blocks } } := by
  simp [assignment, hx, hl, hb]

/-- A return takes its values from the top list when flagged. -/
theorem run_returnStmt_ok {flag : Bool} (h : (returnStmt flag loc).run b = .ok () b') :
    ∃ values lists blk blocks, (flag = false ∧ values = [] ∧ lists = b.piles.exprLists ∨
        flag = true ∧ b.piles.exprLists = values :: lists) ∧ b.piles.blocks = blk :: blocks ∧
      b' = { b with piles := { b.piles with
        exprLists := lists,
        blocks := { blk with statements := blk.statements ++ [.ret values loc] } :: blocks } } := by
  cases flag
  · rcases hb : b.piles.blocks with _ | ⟨blk, blocks⟩ <;> simp [returnStmt, hb] at h
    exact ⟨[], _, blk, blocks, .inl ⟨rfl, rfl, rfl⟩, rfl, h.symm⟩
  · rcases hl : b.piles.exprLists with _ | ⟨values, lists⟩ <;> simp [returnStmt, hl] at h
    rcases hb : b.piles.blocks with _ | ⟨blk, blocks⟩ <;> simp [hb] at h
    exact ⟨values, lists, blk, blocks, .inr ⟨rfl, rfl⟩, rfl, h.symm⟩

/-- A return without values joins the innermost block. -/
theorem run_returnStmt_bare {blk : BlockFrame} {blocks : List BlockFrame}
    (hb : b.piles.blocks = blk :: blocks) :
    (returnStmt false loc).run b = .ok () { b with piles := { b.piles with
      blocks := { blk with statements := blk.statements ++ [.ret [] loc] } :: blocks } } := by
  simp [returnStmt, hb]

/-- A return with values takes the top list and joins the innermost block. -/
theorem run_returnStmt_values {values : List Expr} {lists : List (List Expr)} {blk : BlockFrame}
    {blocks : List BlockFrame} (hl : b.piles.exprLists = values :: lists)
    (hb : b.piles.blocks = blk :: blocks) :
    (returnStmt true loc).run b = .ok () { b with piles := { b.piles with
      exprLists := lists,
      blocks := { blk with statements := blk.statements ++ [.ret values loc] } :: blocks } } := by
  simp [returnStmt, hl, hb]

/-- A reply takes the top expression. -/
theorem run_reply_ok (h : (reply loc).run b = .ok () b') :
    ∃ v rest blk blocks, b.piles.exprs = v :: rest ∧ b.piles.blocks = blk :: blocks ∧
      b' = { b with piles := { b.piles with
        exprs := rest,
        blocks := { blk with statements := blk.statements ++ [.reply v loc] } :: blocks } } := by
  rcases hx : b.piles.exprs with _ | ⟨v, rest⟩ <;> simp [reply, hx] at h
  rcases hb : b.piles.blocks with _ | ⟨blk, blocks⟩ <;> simp [hb] at h
  exact ⟨v, rest, blk, blocks, rfl, rfl, h.symm⟩

/-- Over a value and a block, a reply joins the block. -/
theorem run_reply_eq {v : Expr} {rest : List Expr} {blk : BlockFrame} {blocks : List BlockFrame}
    (hx : b.piles.exprs = v :: rest) (hb : b.piles.blocks = blk :: blocks) :
    (reply loc).run b = .ok () { b with piles := { b.piles with
      exprs := rest,
      blocks := { blk with statements := blk.statements ++ [.reply v loc] } :: blocks } } := by
  simp [reply, hx, hb]

/-- A call statement takes the top symbol name and the top list. -/
theorem run_callStmt_ok {kind : CallKind} (h : (callStmt kind loc).run b = .ok () b') :
    ∃ args lists name names blk blocks, b.piles.exprLists = args :: lists ∧
      b.piles.symbolNames = name :: names ∧ b.piles.blocks = blk :: blocks ∧
      b' = { b with piles := { b.piles with
        exprLists := lists, symbolNames := names,
        blocks := { blk with statements := blk.statements ++ [.call kind name args loc] } ::
          blocks } } := by
  simp only [callStmt, EStateM.run_bind] at h
  rcases hi : (invocation loc).run b with ⟨⟨name, args⟩, b₁⟩ | ⟨err, b₁⟩ <;> simp [hi] at h
  obtain ⟨args, lists, name, names, hl, hn, ⟨⟩, rfl⟩ := run_invocation_ok hi
  rcases hb : b.piles.blocks with _ | ⟨blk, blocks⟩ <;> simp [hb] at h
  exact ⟨args, lists, name, names, blk, blocks, hl, hn, rfl, h.symm⟩

/-- Over a callee, an argument list and a block, a call statement joins the block. -/
theorem run_callStmt_eq {kind : CallKind} {args : List Expr} {lists : List (List Expr)}
    {name : SymbolName} {names : List SymbolName} {blk : BlockFrame} {blocks : List BlockFrame}
    (hl : b.piles.exprLists = args :: lists) (hn : b.piles.symbolNames = name :: names)
    (hb : b.piles.blocks = blk :: blocks) :
    (callStmt kind loc).run b = .ok () { b with piles := { b.piles with
      exprLists := lists, symbolNames := names,
      blocks := { blk with statements := blk.statements ++ [.call kind name args loc] } ::
        blocks } } := by
  simp [callStmt, invocation, hl, hn, hb]

/-- A loop takes its condition from the top expression and its body from the innermost
block, and joins the block around it. -/
theorem run_endWhile_ok (h : (endWhile loc).run b = .ok () b') :
    ∃ c rest body blk blocks, b.piles.exprs = c :: rest ∧
      b.piles.blocks = body :: blk :: blocks ∧
      b' = { b with piles := { b.piles with
        exprs := rest,
        blocks := { blk with statements := blk.statements ++ [.loop c body.finish loc] } ::
          blocks } } := by
  rcases hx : b.piles.exprs with _ | ⟨c, rest⟩ <;> simp [endWhile, hx] at h
  rcases hb : b.piles.blocks with _ | ⟨body, _ | ⟨blk, blocks⟩⟩ <;> simp [hb] at h
  exact ⟨c, rest, body, blk, blocks, rfl, rfl, h.symm⟩

/-- Over a condition and two blocks, a loop closes its body into the block around it. -/
theorem run_endWhile_eq {c : Expr} {rest : List Expr} {body blk : BlockFrame}
    {blocks : List BlockFrame} (hx : b.piles.exprs = c :: rest)
    (hb : b.piles.blocks = body :: blk :: blocks) :
    (endWhile loc).run b = .ok () { b with piles := { b.piles with
      exprs := rest,
      blocks := { blk with statements := blk.statements ++ [.loop c body.finish loc] } ::
        blocks } } := by
  simp [endWhile, hx, hb]

/-- An `else if` clause pairs its block with the top expression, as a branch located
where its block was opened. -/
theorem run_endElseIf_ok (h : (endElseIf loc).run b = .ok () b') :
    ∃ body blocks c rest f fs, b.piles.ifElses = f :: fs ∧ b.piles.blocks = body :: blocks ∧
      b.piles.exprs = c :: rest ∧
      b' = { b with piles := { b.piles with
        blocks := blocks, exprs := rest,
        ifElses := { f with elseIfs := f.elseIfs ++ [.mk c body.finish body.loc] } :: fs } } := by
  rcases hf : b.piles.ifElses with _ | ⟨f, fs⟩ <;> simp [endElseIf, hf] at h
  rcases hb : b.piles.blocks with _ | ⟨body, blocks⟩ <;> simp [hb] at h
  rcases hx : b.piles.exprs with _ | ⟨c, rest⟩ <;> simp [hx, modifyIfElse] at h
  exact ⟨body, blocks, c, rest, f, fs, rfl, rfl, rfl, h.symm⟩

/-- Inside a conditional, an `else if` clause pairs its block with the top expression. -/
theorem run_endElseIf_eq {body : BlockFrame} {blocks : List BlockFrame} {c : Expr}
    {rest : List Expr} {f : IfFrame} {fs : List IfFrame} (hf : b.piles.ifElses = f :: fs)
    (hb : b.piles.blocks = body :: blocks) (hx : b.piles.exprs = c :: rest) :
    (endElseIf loc).run b = .ok () { b with piles := { b.piles with
      blocks := blocks, exprs := rest,
      ifElses := { f with elseIfs := f.elseIfs ++ [.mk c body.finish body.loc] } :: fs } } := by
  simp [endElseIf, hf, hb, hx, modifyIfElse]

/-- The `else` clause gives the chain its `else` block, which it did not have yet. -/
theorem run_endElse_ok (h : (endElse loc).run b = .ok () b') :
    ∃ body blocks f fs, b.piles.ifElses = f :: fs ∧ b.piles.blocks = body :: blocks ∧
      f.elseBody = none ∧
      b' = { b with piles := { b.piles with
        blocks := blocks, ifElses := { f with elseBody := some body.finish } :: fs } } := by
  rcases hf : b.piles.ifElses with _ | ⟨f, fs⟩ <;> simp [endElse, hf] at h
  rcases hb : b.piles.blocks with _ | ⟨body, blocks⟩ <;> simp [hb, modifyIfElse] at h
  rcases he : f.elseBody with _ | e <;> simp [he] at h
  exact ⟨body, blocks, f, fs, rfl, rfl, he, h.symm⟩

/-- Inside a conditional without an `else` block, the `else` clause gives it one. -/
theorem run_endElse_eq {body : BlockFrame} {blocks : List BlockFrame} {f : IfFrame}
    {fs : List IfFrame} (hf : b.piles.ifElses = f :: fs) (hb : b.piles.blocks = body :: blocks)
    (he : f.elseBody = none) :
    (endElse loc).run b = .ok () { b with piles := { b.piles with
      blocks := blocks, ifElses := { f with elseBody := some body.finish } :: fs } } := by
  simp [endElse, hf, hb, he, modifyIfElse]

/-- The chain closes with the top expression and the innermost block as its primary
branch, located where the chain started, in front of its `else if` branches. -/
theorem run_endIfElse_ok (h : (endIfElse loc).run b = .ok () b') :
    ∃ f fs c rest body blk blocks, b.piles.ifElses = f :: fs ∧ b.piles.exprs = c :: rest ∧
      b.piles.blocks = body :: blk :: blocks ∧
      b' = { b with piles := { b.piles with
        ifElses := fs, exprs := rest,
        blocks := { blk with statements := blk.statements ++
          [.ifElse (.mk c body.finish f.loc :: f.elseIfs) f.elseBody f.loc] } :: blocks } } := by
  rcases hf : b.piles.ifElses with _ | ⟨f, fs⟩ <;> simp [endIfElse, hf] at h
  rcases hx : b.piles.exprs with _ | ⟨c, rest⟩ <;> simp [hx] at h
  rcases hb : b.piles.blocks with _ | ⟨body, _ | ⟨blk, blocks⟩⟩ <;> simp [hb] at h
  exact ⟨f, fs, c, rest, body, blk, blocks, rfl, rfl, rfl, h.symm⟩

/-- Over its frame, its primary condition and two blocks, a conditional closes into the
block around it. -/
theorem run_endIfElse_eq {f : IfFrame} {fs : List IfFrame} {c : Expr} {rest : List Expr}
    {body blk : BlockFrame} {blocks : List BlockFrame} (hf : b.piles.ifElses = f :: fs)
    (hx : b.piles.exprs = c :: rest) (hb : b.piles.blocks = body :: blk :: blocks) :
    (endIfElse loc).run b = .ok () { b with piles := { b.piles with
      ifElses := fs, exprs := rest,
      blocks := { blk with statements := blk.statements ++
        [.ifElse (.mk c body.finish f.loc :: f.elseIfs) f.elseBody f.loc] } :: blocks } } := by
  simp [endIfElse, hf, hx, hb]

end Assembly
end TreeAssembly
