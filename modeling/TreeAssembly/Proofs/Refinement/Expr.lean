import TreeAssembly.Proofs.Steps.Decl

/-!
# Expressions are built as the reference builds them

The builder folds the post-order events of an expression into its piles; the reference
construction of `Derivation` recurses over the derivation.  This file shows that the two
agree on every expression, in continuation form: from a builder that is ready (nothing
failed, no package name pending), the events of an expression followed by any further
events run like those further events started from the same builder with the reference's
node pushed on the expression pile and the reference's registry and warnings in place.
When the reference fails, the events fail with the same error.

The continuation is what lets the pieces compose: an operand's events are always followed
by more events, and run on piles that already hold the operands before it.  A node's case
runs its operands with their own replay lemmas and then its closing event with
`exec_cons_of_run` and the assembler's equation from `Steps`.

* `exec_name`, `exec_type`: the leaves that go to the symbol pile and to the type queue.
* `exec_exprBracket`, `exec_entryBracket`: a list between its start and end events is
  collected in source order.
* `ExprD.replays`, `EntryD.replays` and their list forms: the simulation itself, one lemma
  per kind of node, assembled by a structural recursion over the derivation.
-/

namespace TreeAssembly

namespace Builder

/-- The registry and the warnings: the part of a builder that the reference construction
threads. -/
def ambient (b : Builder) : Ambient := ⟨b.registry, b.warnings⟩

/-- A builder that can take the events of a construct: no earlier event failed, and no
package name is waiting for a name to qualify. -/
def Ready (b : Builder) : Prop := b.aborted = false ∧ b.piles.packageNames = []

/-- `b` with the finished expressions `xs` pushed in order, the last on top, and the ambient
`a` in place. -/
def pushResults (b : Builder) (xs : List Expr) (a : Ambient) : Builder :=
  { b with piles := { b.piles with exprs := xs.reverse ++ b.piles.exprs },
           registry := a.registry, warnings := a.warnings }

/-- `b` with the key-value nodes `kvs` pushed in order and the ambient `a` in place. -/
def pushEntries (b : Builder) (kvs : List Expr) (a : Ambient) : Builder :=
  { b with piles := { b.piles with keyValues := kvs.reverse ++ b.piles.keyValues },
           registry := a.registry, warnings := a.warnings }

@[simp] theorem registry_ambient (b : Builder) : b.ambient.registry = b.registry := rfl

@[simp] theorem warnings_ambient (b : Builder) : b.ambient.warnings = b.warnings := rfl

@[simp] theorem ambient_mk (ps : Stacks) (a : Ambient) (package : Option String)
    (unit : Option UnitFrame) (group : Option GroupFrame) (struct : Option (List VariableDecl))
    (file : CompilationUnit) (aborted : Bool) :
    (Builder.mk ps a.registry package unit group struct file aborted a.warnings).ambient = a := rfl

@[simp] theorem ambient_pushResults (b : Builder) (xs : List Expr) (a : Ambient) :
    (b.pushResults xs a).ambient = a := rfl

@[simp] theorem ambient_pushEntries (b : Builder) (kvs : List Expr) (a : Ambient) :
    (b.pushEntries kvs a).ambient = a := rfl

theorem pushResults_pushResults (b : Builder) (xs ys : List Expr) (a a' : Ambient) :
    (b.pushResults xs a).pushResults ys a' = b.pushResults (xs ++ ys) a' := by
  simp [pushResults]

theorem pushEntries_pushEntries (b : Builder) (xs ys : List Expr) (a a' : Ambient) :
    (b.pushEntries xs a).pushEntries ys a' = b.pushEntries (xs ++ ys) a' := by
  simp [pushEntries]

end Builder

open Builder

/-- The `count` most recent items, pushed in source order, come back in source order. -/
theorem moveRecent_reverse_append {α : Type} (xs rest open_ : List α) :
    moveRecent xs.length (xs.reverse ++ rest) open_ = (rest, open_ ++ xs) := by
  simp [moveRecent]

variable {b : Builder} {k : List Event}

/-! ## Leaves -/

/-- A name, with its package name if it has one, goes to the symbol pile. -/
theorem exec_name (n : NameD) (hr : b.Ready) (k : List Event) :
    b.exec (n.events ++ k) =
      { b with piles := { b.piles with symbolNames := n.symbol :: b.piles.symbolNames } }.exec k := by
  obtain ⟨hb, hp⟩ := hr
  -- the package name, when there is one, is the only one pending when the name takes it
  rcases n with ⟨_ | ⟨p, l⟩, name, loc⟩ | ⟨_ | ⟨p, l⟩, connector, act, loc⟩ <;>
    simp only [NameD.events, NameD.symbol, Option.map_none, Option.map_some, Option.toList_none,
      Option.toList_some, List.nil_append, List.cons_append]
  case plain.none =>
    rw [exec_cons_of_run (e := ⟨.symbolName name, loc⟩) k hb (Assembly.run_symbolName_eq name b)]
    simp [hp]
  case plain.some =>
    rw [exec_cons_of_run (e := ⟨.packageName p, l⟩) _ hb (Assembly.run_packageName p b),
      exec_cons_of_run (e := ⟨.symbolName name, loc⟩) k (by exact hb)
        (Assembly.run_symbolName_eq name _)]
    simp [hp]
  case action.none =>
    rw [exec_cons_of_run (e := ⟨.connectorSymbolName connector act, loc⟩) k hb
      (Assembly.run_connectorSymbolName_eq connector act b)]
    simp [hp]
  case action.some =>
    rw [exec_cons_of_run (e := ⟨.packageName p, l⟩) _ hb (Assembly.run_packageName p b),
      exec_cons_of_run (e := ⟨.connectorSymbolName connector act, loc⟩) k (by exact hb)
        (Assembly.run_connectorSymbolName_eq connector act _)]
    simp [hp]

/-- A type goes to the back of the type queue, and an array type is remembered. -/
theorem exec_type (t : TypeD) (hb : b.aborted = false) (k : List Event) :
    b.exec (t.event :: k) =
      { b with piles := { b.piles with types := b.piles.types ++ [(t.eval b.ambient).1] },
               registry := (t.eval b.ambient).2.registry,
               warnings := (t.eval b.ambient).2.warnings }.exec k := by
  cases t with
  | named name loc =>
    rw [TypeD.event, exec_cons_of_run (e := ⟨.type name, loc⟩) k hb (Assembly.run_type name b)]
    simp [TypeD.eval, ambient]
  | array element loc =>
    rw [TypeD.event, exec_cons_of_run (e := ⟨.arrayType element, loc⟩) k hb
      (Assembly.run_arrayType element b)]
    simp [TypeD.eval, ambient]

/-! ## What a derivation must do -/

/-- The events of `e` push the node the reference builds, with the reference's ambient, or
fail with the reference's error; nothing else changes. -/
def ExprD.Replays (e : ExprD) : Prop :=
  ∀ (b : Builder) (k : List Event), b.Ready →
    b.exec (e.events ++ k) = e.eval b.ambient >>= fun p => (b.pushResults [p.1] p.2).exec k

/-- The events of a list push its items in source order, the last on top. -/
def ExprD.ListReplays (es : List ExprD) : Prop :=
  ∀ (b : Builder) (k : List Event), b.Ready →
    b.exec (ExprD.listEvents es ++ k) =
      ExprD.evalList b.ambient es >>= fun p => (b.pushResults p.1 p.2).exec k

/-- The events of a map entry push its key-value node on the key-value pile. -/
def EntryD.Replays (d : EntryD) : Prop :=
  ∀ (b : Builder) (k : List Event), b.Ready →
    b.exec (d.events ++ k) = d.eval b.ambient >>= fun p => (b.pushEntries [p.1] p.2).exec k

/-- The events of a list of map entries push their nodes in source order. -/
def EntryD.ListReplays (ds : List EntryD) : Prop :=
  ∀ (b : Builder) (k : List Event), b.Ready →
    b.exec (EntryD.listEvents ds ++ k) =
      EntryD.evalList b.ambient ds >>= fun p => (b.pushEntries p.1 p.2).exec k

/-! ## Lists -/

theorem ExprD.length_of_evalList {a a' : Ambient} {xs : List Expr} {es : List ExprD}
    (h : ExprD.evalList a es = .ok (xs, a')) : xs.length = es.length := by
  induction es generalizing a a' xs with
  | nil =>
    simp only [ExprD.evalList, except_pure, Except.ok.injEq, Prod.mk.injEq] at h
    simp [← h.1]
  | cons e es ih =>
    rcases he : e.eval a with err | ⟨x, a₁⟩ <;> simp only [ExprD.evalList, he] at h
    · simp at h
    rcases hs : ExprD.evalList a₁ es with err | ⟨ys, a₂⟩ <;> simp [hs] at h
    obtain ⟨rfl, -⟩ := h
    simp [ih hs]

theorem EntryD.length_of_evalList {a a' : Ambient} {xs : List Expr} {ds : List EntryD}
    (h : EntryD.evalList a ds = .ok (xs, a')) : xs.length = ds.length := by
  induction ds generalizing a a' xs with
  | nil =>
    simp only [EntryD.evalList, except_pure, Except.ok.injEq, Prod.mk.injEq] at h
    simp [← h.1]
  | cons d ds ih =>
    rcases hd : d.eval a with err | ⟨x, a₁⟩ <;> simp only [EntryD.evalList, hd] at h
    · simp at h
    rcases hs : EntryD.evalList a₁ ds with err | ⟨ys, a₂⟩ <;> simp [hs] at h
    obtain ⟨rfl, -⟩ := h
    simp [ih hs]

theorem ExprD.listReplays_nil : ExprD.ListReplays [] := by
  intro b k _
  simp [ExprD.listEvents, ExprD.evalList, pushResults, ambient]

theorem ExprD.listReplays_cons {e : ExprD} {es : List ExprD} (he : e.Replays)
    (hs : ExprD.ListReplays es) : ExprD.ListReplays (e :: es) := by
  intro b k hr
  rw [ExprD.listEvents, List.append_assoc, he b _ hr]
  rcases hx : e.eval b.ambient with err | ⟨x, a⟩
  · simp [ExprD.evalList, hx]
  · simp only [ok_bind]
    rw [hs _ _ (by exact hr), ambient_pushResults]
    rcases hxs : ExprD.evalList a es with err | ⟨xs, a'⟩
    · simp [ExprD.evalList, hx, hxs]
    · simp [ExprD.evalList, hx, hxs, pushResults_pushResults]

theorem EntryD.listReplays_nil : EntryD.ListReplays [] := by
  intro b k _
  simp [EntryD.listEvents, EntryD.evalList, pushEntries, ambient]

theorem EntryD.listReplays_cons {d : EntryD} {ds : List EntryD} (hd : d.Replays)
    (hs : EntryD.ListReplays ds) : EntryD.ListReplays (d :: ds) := by
  intro b k hr
  rw [EntryD.listEvents, List.append_assoc, hd b _ hr]
  rcases hx : d.eval b.ambient with err | ⟨x, a⟩
  · simp [EntryD.evalList, hx]
  · simp only [ok_bind]
    rw [hs _ _ (by exact hr), ambient_pushEntries]
    rcases hxs : EntryD.evalList a ds with err | ⟨xs, a'⟩
    · simp [EntryD.evalList, hx, hxs]
    · simp [EntryD.evalList, hx, hxs, pushEntries_pushEntries]

/-- A call expression's closing event runs the call assembler of its kind. -/
theorem CallKind.step_exprStep (kind : CallKind) (loc : Location) :
    Assembly.step loc kind.exprStep = Assembly.callExpr kind loc := by
  cases kind <;> rfl

/-- **A bracketed expression list collects its items in source order**: the start event
opens an empty list, the items are pushed one after the other, and the end event, which
counts them, moves exactly them into the list. -/
theorem exec_exprBracket {es : List ExprD} (hl : ExprD.ListReplays es) {o c : Event}
    (ho : Assembly.step o.loc o.step = Assembly.startExprList)
    (hc : Assembly.step c.loc c.step = Assembly.endExprList es.length c.loc)
    (hr : b.Ready) (k : List Event) :
    b.exec (o :: (ExprD.listEvents es ++ c :: k)) = ExprD.evalList b.ambient es >>= fun p =>
      { b with piles := { b.piles with exprLists := p.1 :: b.piles.exprLists },
               registry := p.2.registry, warnings := p.2.warnings }.exec k := by
  rw [exec_cons_of_run _ hr.1 (by rw [ho]; exact Assembly.run_startExprList b)]
  rw [hl _ _ (by exact hr)]
  change ExprD.evalList b.ambient es >>= _ = _
  rcases hxs : ExprD.evalList b.ambient es with err | ⟨xs, a⟩
  · rfl
  -- the items are the newest expressions, above an empty open list
  rw [ok_bind, exec_cons_of_run _ (by exact hr.1) (by
    rw [hc, ← ExprD.length_of_evalList hxs, ← List.length_reverse]
    exact Assembly.run_endExprList_eq (by exact rfl) (by exact rfl))]
  simp [pushResults]

/-- A bracketed list of map entries collects their nodes in source order. -/
theorem exec_entryBracket {ds : List EntryD} (hl : EntryD.ListReplays ds) (start stop : Location)
    (hr : b.Ready) (k : List Event) :
    b.exec (⟨.startMapInitKeyValue, start⟩ :: (EntryD.listEvents ds ++
        ⟨.endMapInitKeyValue ds.length, stop⟩ :: k)) =
      EntryD.evalList b.ambient ds >>= fun p =>
        { b with piles := { b.piles with keyValueLists := p.1 :: b.piles.keyValueLists },
                 registry := p.2.registry, warnings := p.2.warnings }.exec k := by
  rw [exec_cons_of_run (e := ⟨.startMapInitKeyValue, start⟩) _ hr.1 (Assembly.run_startKeyValueList b)]
  rw [hl _ _ (by exact hr)]
  change EntryD.evalList b.ambient ds >>= _ = _
  rcases hxs : EntryD.evalList b.ambient ds with err | ⟨xs, a⟩
  · rfl
  -- the entries are the newest key-value pairs, above an empty open list
  rw [ok_bind, exec_cons_of_run (e := ⟨.endMapInitKeyValue ds.length, stop⟩) _ (by exact hr.1) (by
    rw [← EntryD.length_of_evalList hxs, ← List.length_reverse]
    exact Assembly.run_endKeyValueList_eq (by exact rfl) (by exact rfl))]
  simp [pushEntries]

/-! ## One lemma per kind of node -/

section Nodes

variable {loc start stop : Location}

theorem replays_literal {kind : LiteralKind} {text : String} :
    (ExprD.literal kind text loc).Replays := by
  intro b k hr
  rw [ExprD.events, List.singleton_append]
  rcases hv : Literal.read kind text loc with d | v
  · rw [exec_cons_of_error (e := ⟨.literal kind text, loc⟩) k hr.1 (Assembly.run_literal_error hv)]
    simp [ExprD.eval, hv]
  · rw [exec_cons_of_run (e := ⟨.literal kind text, loc⟩) k hr.1 (Assembly.run_literal_eq hv)]
    simp [ExprD.eval, hv, pushResults, ambient]

theorem replays_var {name : String} : (ExprD.var name loc).Replays := by
  intro b k hr
  rw [ExprD.events, List.singleton_append,
    exec_cons_of_run (e := ⟨.varRef name, loc⟩) k hr.1 (Assembly.run_pushExpr _ b)]
  simp [ExprD.eval, pushResults, ambient]

theorem replays_element {name : String} {index : ExprD} (hi : index.Replays) :
    (ExprD.element name index loc).Replays := by
  intro b k hr
  rw [ExprD.events, List.append_assoc, hi b _ hr]
  rcases hx : index.eval b.ambient with err | ⟨i, a⟩
  · simp [ExprD.eval, hx]
  -- the index is on top of the pile
  have hpile : (b.pushResults [i] a).piles.exprs = i :: b.piles.exprs := rfl
  rw [ok_bind, List.singleton_append, exec_cons_of_run (e := ⟨.mapArrayVarRef name, loc⟩) k
    (by exact hr.1) (Assembly.run_element_eq hpile)]
  simp [ExprD.eval, hx, pushResults]

theorem replays_field {reference member : ExprD} (hf : reference.Replays) (hm : member.Replays) :
    (ExprD.field reference member loc).Replays := by
  intro b k hr
  simp only [ExprD.events, List.append_assoc]
  rw [hf b _ hr]
  rcases hx : reference.eval b.ambient with err | ⟨r, a⟩
  · simp [ExprD.eval, hx]
  rw [ok_bind, hm _ _ (by exact hr), ambient_pushResults]
  rcases hy : member.eval a with err | ⟨m, a'⟩
  · simp [ExprD.eval, hx, hy]
  rw [ok_bind, List.singleton_append]
  -- both operands are on the pile, the member on top; the member is linked first, then
  -- the reference, as the reference construction does
  have hpile : ((b.pushResults [r] a).pushResults [m] a').piles.exprs = m :: r :: b.piles.exprs :=
    rfl
  cases hmf : m.isField
  · rcases hmn : m.referenceName with _ | mn
    · rw [exec_cons_of_error (e := ⟨.structFieldRef, loc⟩) k (by exact hr.1)
        (Assembly.run_fieldAccess_fieldError hpile hmf hmn)]
      simp [ExprD.eval, hx, hy, hmf, hmn, Expr.linkField]
    rcases hrn : r.referenceName with _ | rn
    · rw [exec_cons_of_error (e := ⟨.structFieldRef, loc⟩) k (by exact hr.1)
        (Assembly.run_fieldAccess_parentError hpile (.inr ⟨mn, hmn⟩) hrn)]
      simp [ExprD.eval, hx, hy, hmf, hmn, hrn, Expr.linkField]
    · rw [exec_cons_of_run (e := ⟨.structFieldRef, loc⟩) k (by exact hr.1)
        (Assembly.run_fieldAccess_eq hpile (.inr ⟨mn, hmf, hmn, rfl⟩) hrn)]
      simp [ExprD.eval, hx, hy, hmf, hmn, hrn, Expr.linkField, pushResults]
  · rcases hrn : r.referenceName with _ | rn
    · rw [exec_cons_of_error (e := ⟨.structFieldRef, loc⟩) k (by exact hr.1)
        (Assembly.run_fieldAccess_parentError hpile (.inl hmf) hrn)]
      simp [ExprD.eval, hx, hy, hmf, hrn, Expr.linkField]
    · rw [exec_cons_of_run (e := ⟨.structFieldRef, loc⟩) k (by exact hr.1)
        (Assembly.run_fieldAccess_eq hpile (.inl ⟨hmf, rfl⟩) hrn)]
      simp [ExprD.eval, hx, hy, hmf, hrn, Expr.linkField, pushResults]

theorem replays_binary {op : String} {lhs rhs : ExprD} (hl : lhs.Replays) (hr' : rhs.Replays) :
    (ExprD.binary op lhs rhs loc).Replays := by
  intro b k hr
  simp only [ExprD.events, List.append_assoc]
  rw [hl b _ hr]
  rcases hx : lhs.eval b.ambient with err | ⟨l, a⟩
  · simp [ExprD.eval, hx]
  rw [ok_bind, hr' _ _ (by exact hr), ambient_pushResults]
  rcases hy : rhs.eval a with err | ⟨r, a'⟩
  · simp [ExprD.eval, hx, hy]
  rw [ok_bind, List.singleton_append]
  -- the right operand, finished last, is on top
  have hpile : ((b.pushResults [l] a).pushResults [r] a').piles.exprs = r :: l :: b.piles.exprs :=
    rfl
  rcases ho : BinaryOp.ofSymbol? op with _ | o
  · rw [exec_cons_of_error (e := ⟨.binaryExpr op, loc⟩) k (by exact hr.1)
      (Assembly.run_binary_unsupported hpile ho)]
    simp [ExprD.eval, hx, hy, ho]
  · rw [exec_cons_of_run (e := ⟨.binaryExpr op, loc⟩) k (by exact hr.1)
      (Assembly.run_binary_eq hpile ho)]
    simp [ExprD.eval, hx, hy, ho, pushResults]

theorem replays_unary {op : String} {operand : ExprD} (ho : operand.Replays) :
    (ExprD.unary op operand loc).Replays := by
  intro b k hr
  rw [ExprD.events, List.append_assoc, ho b _ hr]
  rcases hx : operand.eval b.ambient with err | ⟨x, a⟩
  · simp [ExprD.eval, hx]
  rw [ok_bind, List.singleton_append]
  have hpile : (b.pushResults [x] a).piles.exprs = x :: b.piles.exprs := rfl
  rcases hu : UnaryOp.ofSymbol? op with _ | u
  · rw [exec_cons_of_error (e := ⟨.unaryExpr op, loc⟩) k (by exact hr.1)
      (Assembly.run_unary_unsupported hpile hu)]
    simp [ExprD.eval, hx, hu]
  · rw [exec_cons_of_run (e := ⟨.unaryExpr op, loc⟩) k (by exact hr.1)
      (Assembly.run_unary_eq hpile hu)]
    simp [ExprD.eval, hx, hu, pushResults]

theorem replays_template {token : String} : (ExprD.template token loc).Replays := by
  intro b k hr
  rw [ExprD.events, List.singleton_append]
  rcases ht : templateText token with _ | text
  · rw [exec_cons_of_error (e := ⟨.backtickExpr token, loc⟩) k hr.1
      (Assembly.run_template_malformed ht)]
    simp [ExprD.eval, ht]
  · rw [exec_cons_of_run (e := ⟨.backtickExpr token, loc⟩) k hr.1 (Assembly.run_template_eq ht)]
    simp [ExprD.eval, ht, pushResults, ambient]

theorem replays_call {kind : CallKind} {callee : NameD} {args : List ExprD}
    (ha : ExprD.ListReplays args) : (ExprD.call kind callee start args stop loc).Replays := by
  intro b k hr
  simp only [ExprD.events, List.append_assoc, List.cons_append, List.nil_append]
  rw [exec_name callee hr, exec_exprBracket ha rfl rfl (by exact hr)]
  change ExprD.evalList b.ambient args >>= _ = _
  rcases hxs : ExprD.evalList b.ambient args with err | ⟨xs, a⟩
  · simp [ExprD.eval, hxs]
  -- the arguments are the top list, the callee the top name
  rw [ok_bind, exec_cons_of_run (e := ⟨kind.exprStep, loc⟩) k (by exact hr.1)
    (by rw [CallKind.step_exprStep]; exact Assembly.run_callExpr_eq rfl rfl)]
  simp [ExprD.eval, hxs, pushResults]

theorem replays_cast {target : TypeD} {operand : ExprD} (ho : operand.Replays) :
    (ExprD.cast target operand loc).Replays := by
  intro b k hr
  simp only [ExprD.events, List.cons_append, List.append_assoc]
  rw [exec_type target hr.1]
  rcases ht : target.eval b.ambient with ⟨ty, a⟩
  rw [ho _ _ (by exact hr), ambient_mk]
  rcases hx : operand.eval a with err | ⟨x, a'⟩
  · simp [ExprD.eval, ht, hx]
  -- the target is the type queued last, the operand the top expression
  rw [ok_bind, List.nil_append, exec_cons_of_run (e := ⟨.typeCastExpr, loc⟩) k
    (by exact hr.1) (Assembly.run_cast_eq (t := ty) (by simp [pushResults]) (by exact rfl))]
  simp [ExprD.eval, ht, hx, pushResults]

theorem replays_construct {typeName : String} : (ExprD.construct typeName loc).Replays := by
  intro b k hr
  rw [ExprD.events, List.singleton_append,
    exec_cons_of_run (e := ⟨.instanceCreationExpr typeName false, loc⟩) k hr.1
      (Assembly.run_instanceCreation_bare typeName b)]
  simp [ExprD.eval, pushResults, ambient]

theorem replays_constructWith {typeName : String} {args : List ExprD}
    (ha : ExprD.ListReplays args) :
    (ExprD.constructWith typeName start args stop loc).Replays := by
  intro b k hr
  simp only [ExprD.events, List.append_assoc, List.cons_append, List.nil_append]
  rw [exec_exprBracket ha rfl rfl hr]
  rcases hxs : ExprD.evalList b.ambient args with err | ⟨xs, a⟩
  · simp [ExprD.eval, hxs]
  -- the arguments are dropped, with a warning when there are any
  rw [ok_bind, exec_cons_of_run (e := ⟨.instanceCreationExpr typeName true, loc⟩) k
    (by exact hr.1) (Assembly.run_instanceCreation_args rfl)]
  rcases xs with _ | ⟨x, xs⟩ <;> simp [ExprD.eval, hxs, Ambient.warn, pushResults]

theorem replays_structInit {name : String} : (ExprD.structInit name loc).Replays := by
  intro b k hr
  rw [ExprD.events, List.singleton_append,
    exec_cons_of_run (e := ⟨.structInitExpr name, loc⟩) k hr.1 (Assembly.run_pushExpr _ b)]
  simp [ExprD.eval, pushResults, ambient]

theorem replays_arrayInit : (ExprD.arrayInit loc).Replays := by
  intro b k hr
  rw [ExprD.events, List.singleton_append,
    exec_cons_of_run (e := ⟨.arrayInitExpr false, loc⟩) k hr.1 (Assembly.run_arrayInit_bare b)]
  simp [ExprD.eval, pushResults, ambient]

theorem replays_arrayOf {elements : List ExprD} (he : ExprD.ListReplays elements) :
    (ExprD.arrayOf start elements stop loc).Replays := by
  intro b k hr
  simp only [ExprD.events, List.append_assoc, List.cons_append, List.nil_append]
  rw [exec_exprBracket he rfl rfl hr]
  rcases hxs : ExprD.evalList b.ambient elements with err | ⟨xs, a⟩
  · simp [ExprD.eval, hxs]
  rw [ok_bind, exec_cons_of_run (e := ⟨.arrayInitExpr true, loc⟩) k (by exact hr.1)
    (Assembly.run_arrayInit_elements rfl)]
  simp [ExprD.eval, hxs, pushResults]

theorem replays_mapInit : (ExprD.mapInit loc).Replays := by
  intro b k hr
  rw [ExprD.events, List.singleton_append,
    exec_cons_of_run (e := ⟨.mapInitExpr false, loc⟩) k hr.1 (Assembly.run_mapInit_bare b)]
  simp [ExprD.eval, pushResults, ambient]

theorem replays_mapOf {entries : List EntryD} (he : EntryD.ListReplays entries) :
    (ExprD.mapOf start entries stop loc).Replays := by
  intro b k hr
  simp only [ExprD.events, List.append_assoc, List.cons_append, List.nil_append]
  rw [exec_entryBracket he start stop hr]
  rcases hxs : EntryD.evalList b.ambient entries with err | ⟨xs, a⟩
  · simp [ExprD.eval, hxs]
  rw [ok_bind, exec_cons_of_run (e := ⟨.mapInitExpr true, loc⟩) k (by exact hr.1)
    (Assembly.run_mapInit_entries rfl)]
  simp [ExprD.eval, hxs, pushResults]

theorem replays_entry {value : ExprD} {key : String} (hv : value.Replays) :
    (EntryD.mk value key loc).Replays := by
  intro b k hr
  rw [EntryD.events, List.append_assoc, hv b _ hr]
  rcases hx : value.eval b.ambient with err | ⟨x, a⟩
  · simp [EntryD.eval, hx]
  -- the value is on top of the pile
  have hpile : (b.pushResults [x] a).piles.exprs = x :: b.piles.exprs := rfl
  rw [ok_bind, List.singleton_append, exec_cons_of_run (e := ⟨.mapInitKeyValue key, loc⟩) k
    (by exact hr.1) (Assembly.run_keyValue_eq hpile)]
  simp [EntryD.eval, hx, pushResults, pushEntries]

end Nodes

/-! ## Every expression -/

mutual

/-- **Every expression derivation replays as the reference builds it.** -/
theorem ExprD.replays : (e : ExprD) → e.Replays
  | .literal .. => replays_literal
  | .var .. => replays_var
  | .element _ index _ => replays_element (ExprD.replays index)
  | .field reference member _ => replays_field (ExprD.replays reference) (ExprD.replays member)
  | .binary _ lhs rhs _ => replays_binary (ExprD.replays lhs) (ExprD.replays rhs)
  | .unary _ operand _ => replays_unary (ExprD.replays operand)
  | .template .. => replays_template
  | .call _ _ _ args _ _ => replays_call (ExprD.listReplays args)
  | .cast _ operand _ => replays_cast (ExprD.replays operand)
  | .construct .. => replays_construct
  | .constructWith _ _ args _ _ => replays_constructWith (ExprD.listReplays args)
  | .structInit .. => replays_structInit
  | .arrayInit _ => replays_arrayInit
  | .arrayOf _ elements _ _ => replays_arrayOf (ExprD.listReplays elements)
  | .mapInit _ => replays_mapInit
  | .mapOf _ entries _ _ => replays_mapOf (EntryD.listReplays entries)

/-- Every list of expression derivations replays as the reference builds it. -/
theorem ExprD.listReplays : (es : List ExprD) → ExprD.ListReplays es
  | [] => ExprD.listReplays_nil
  | e :: es => ExprD.listReplays_cons (ExprD.replays e) (ExprD.listReplays es)

/-- Every map entry replays as the reference builds it. -/
theorem EntryD.replays : (d : EntryD) → d.Replays
  | .mk value _ _ => replays_entry (ExprD.replays value)

/-- Every list of map entries replays as the reference builds it. -/
theorem EntryD.listReplays : (ds : List EntryD) → EntryD.ListReplays ds
  | [] => EntryD.listReplays_nil
  | d :: ds => EntryD.listReplays_cons (EntryD.replays d) (EntryD.listReplays ds)

end

end TreeAssembly
