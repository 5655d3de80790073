import TreeAssembly.Proofs.Assembly
import TreeAssembly.Proofs.Derivation

/-!
# What a successful expression event leaves

One lemma for each expression assembler: when it succeeds, the piles it reads had the
shape it pops, and the builder it leaves is `b` with exactly the listed piles replaced.
The lemmas go from a successful run to that shape, which is the direction every invariant
of the builder needs; invariant proofs cite them and never unfold an assembler.

Each assembler also has equations the other way, from the piles to the outcome, failures
included (`run_binary_eq`, `run_binary_unsupported`, ...).  The refinement proofs replay
a derivation event by event with them, so they too never unfold an assembler.  For closing
a list the equations together are its whole contract.

## Main statements

* `run_endExprList_ok`, `run_endKeyValueList_ok`: closing a list moves the most recent
  items into it, in source order.
* `closeList_moves_recent_items`: the whole contract of closing a list, what it leaves when
  it succeeds and the fault it reports when it does not.
* `run_element_ok`, `run_fieldAccess_ok`: the reference nodes.  A field access does
  nothing on fewer than two expressions; otherwise both of its operands are references.
* `run_binary_ok`, `run_unary_ok`, `run_cast_ok`, `run_callExpr_ok`: the operators take
  their operands from the top of the expression pile and push the node built from them.
* `run_literal_ok`, `run_template_ok`, `run_instanceCreation_ok`, `run_arrayInit_ok`,
  `run_keyValue_ok`, `run_mapInit_ok`: the leaves and the initialisers.
* `run_literal_eq`, `run_literal_error`, `run_instanceCreation_bare`,
  `run_instanceCreation_args`, ...: the outcome of each assembler on the piles it finds.
-/

namespace TreeAssembly
namespace Assembly

variable {loc : Location} {b b' : Builder}

/-! ## Lists -/

/-- Opening an expression list pushes an empty one. -/
theorem run_startExprList (b : Builder) :
    startExprList.run b =
      .ok () { b with piles := { b.piles with exprLists := [] :: b.piles.exprLists } } := rfl

/-- Opening a key-value list pushes an empty one. -/
theorem run_startKeyValueList (b : Builder) :
    startKeyValueList.run b =
      .ok () { b with piles := { b.piles with keyValueLists := [] :: b.piles.keyValueLists } } :=
  rfl

/-- Closing an expression list moves the `count` most recent expressions into it. -/
theorem run_endExprList_ok {count : Nat} (h : (endExprList count loc).run b = .ok () b') :
    ∃ l rest, b.piles.exprLists = l :: rest ∧ count ≤ b.piles.exprs.length ∧
      b' = { b with piles := { b.piles with
        exprs := b.piles.exprs.drop count,
        exprLists := (l ++ (b.piles.exprs.take count).reverse) :: rest } } := by
  rcases hl : b.piles.exprLists with _ | ⟨l, rest⟩ <;> simp [endExprList, hl] at h
  by_cases hc : count > b.piles.exprs.length <;> simp [hc, moveRecent] at h
  exact ⟨l, rest, rfl, by omega, h.symm⟩

/-- Closing a key-value list moves the `count` most recent pairs into it. -/
theorem run_endKeyValueList_ok {count : Nat}
    (h : (endKeyValueList count loc).run b = .ok () b') :
    ∃ l rest, b.piles.keyValueLists = l :: rest ∧ count ≤ b.piles.keyValues.length ∧
      b' = { b with piles := { b.piles with
        keyValues := b.piles.keyValues.drop count,
        keyValueLists := (l ++ (b.piles.keyValues.take count).reverse) :: rest } } := by
  rcases hl : b.piles.keyValueLists with _ | ⟨l, rest⟩ <;> simp [endKeyValueList, hl] at h
  by_cases hc : count > b.piles.keyValues.length <;> simp [hc, moveRecent] at h
  exact ⟨l, rest, rfl, by omega, h.symm⟩

/-- Closing an expression list over the newest expressions `recent` moves them into the
open list, oldest first, and keeps everything else. -/
theorem run_endExprList_eq {recent older top : List Expr} {lists : List (List Expr)}
    (hx : b.piles.exprs = recent ++ older) (hl : b.piles.exprLists = top :: lists) :
    (endExprList recent.length loc).run b =
      .ok () { b with piles := { b.piles with
        exprs := older, exprLists := (top ++ recent.reverse) :: lists } } := by
  have hfit : ¬ recent.length + older.length < recent.length := by omega
  simp [endExprList, hx, hl, hfit, moveRecent]

theorem run_endExprList_noOpen {count : Nat} (hl : b.piles.exprLists = []) :
    (endExprList count loc).run b = .error (.structural (.noOpen .expressionList) (some loc)) b := by
  simp [endExprList, hl]

theorem run_endExprList_tooLong {count : Nat} (hl : b.piles.exprLists ≠ [])
    (hc : b.piles.exprs.length < count) :
    (endExprList count loc).run b =
      .error (.structural (.listTooLong count .expression b.piles.exprs.length) (some loc)) b := by
  obtain ⟨top, lists, hl'⟩ := List.exists_cons_of_ne_nil hl
  simp [endExprList, hl', hc]

/-- Closing a key-value list over the newest pairs `recent` moves them into the open list,
oldest first, and keeps everything else. -/
theorem run_endKeyValueList_eq {recent older top : List Expr} {lists : List (List Expr)}
    (hx : b.piles.keyValues = recent ++ older) (hl : b.piles.keyValueLists = top :: lists) :
    (endKeyValueList recent.length loc).run b =
      .ok () { b with piles := { b.piles with
        keyValues := older, keyValueLists := (top ++ recent.reverse) :: lists } } := by
  have hfit : ¬ recent.length + older.length < recent.length := by omega
  simp [endKeyValueList, hx, hl, hfit, moveRecent]

theorem run_endKeyValueList_noOpen {count : Nat} (hl : b.piles.keyValueLists = []) :
    (endKeyValueList count loc).run b =
      .error (.structural (.noOpen .keyValueList) (some loc)) b := by
  simp [endKeyValueList, hl]

theorem run_endKeyValueList_tooLong {count : Nat} (hl : b.piles.keyValueLists ≠ [])
    (hc : b.piles.keyValues.length < count) :
    (endKeyValueList count loc).run b =
      .error (.structural (.listTooLong count .keyValue b.piles.keyValues.length) (some loc)) b := by
  obtain ⟨top, lists, hl'⟩ := List.exists_cons_of_ne_nil hl
  simp [endKeyValueList, hl', hc]

/-- **Closing a list moves exactly the most recent items, or fails.**  Piles are lists with
their top first, so the `n` most recent expressions are a prefix `recent` of the pile,
newest first.  Closing a list of `n` appends them to the open list on top, in source order,
leaves the expressions below them, and changes nothing else.  With no open list it fails
with `no open expression list`; with an open list but fewer than `n` expressions, with
`list of n expression(s) requested but only d available`.  Both checks come before any
change, so a failed step hands back the builder it was given, unchanged.  A success
therefore never asks for more items than there are.  Key-value lists are closed alike, over
the key-value pile. -/
theorem closeList_moves_recent_items (b : Builder) (loc : Location) :
    (∀ recent older top lists, b.piles.exprs = recent ++ older →
      b.piles.exprLists = top :: lists →
      (endExprList recent.length loc).run b =
        .ok () { b with piles := { b.piles with
          exprs := older, exprLists := (top ++ recent.reverse) :: lists } }) ∧
    (∀ n, b.piles.exprLists = [] →
      (endExprList n loc).run b = .error (.structural (.noOpen .expressionList) (some loc)) b) ∧
    (∀ n, b.piles.exprLists ≠ [] → b.piles.exprs.length < n →
      (endExprList n loc).run b =
        .error (.structural (.listTooLong n .expression b.piles.exprs.length) (some loc)) b) ∧
    (∀ n b', (endExprList n loc).run b = .ok () b' → n ≤ b.piles.exprs.length) ∧
    (∀ recent older top lists, b.piles.keyValues = recent ++ older →
      b.piles.keyValueLists = top :: lists →
      (endKeyValueList recent.length loc).run b =
        .ok () { b with piles := { b.piles with
          keyValues := older, keyValueLists := (top ++ recent.reverse) :: lists } }) ∧
    (∀ n, b.piles.keyValueLists = [] →
      (endKeyValueList n loc).run b = .error (.structural (.noOpen .keyValueList) (some loc)) b) ∧
    (∀ n, b.piles.keyValueLists ≠ [] → b.piles.keyValues.length < n →
      (endKeyValueList n loc).run b =
        .error (.structural (.listTooLong n .keyValue b.piles.keyValues.length) (some loc)) b) ∧
    (∀ n b', (endKeyValueList n loc).run b = .ok () b' → n ≤ b.piles.keyValues.length) :=
  ⟨fun _ _ _ _ hx hl => run_endExprList_eq hx hl, fun _ hl => run_endExprList_noOpen hl,
    fun _ hl hc => run_endExprList_tooLong hl hc,
    fun _ _ h => by obtain ⟨-, -, -, hn, -⟩ := run_endExprList_ok h; exact hn,
    fun _ _ _ _ hx hl => run_endKeyValueList_eq hx hl, fun _ hl => run_endKeyValueList_noOpen hl,
    fun _ hl hc => run_endKeyValueList_tooLong hl hc,
    fun _ _ h => by obtain ⟨-, -, -, hn, -⟩ := run_endKeyValueList_ok h; exact hn⟩

/-- Over the expressions `0`, `1` and `2`, pushed in that order, closing an open list of two
moves `1` and `2` into it and leaves `0`; a list of four is refused, naming the three that
are there, and the builder stays as it was. -/
theorem closeList_moves_recent_items_three :
    (endExprList 2 default).run
        { piles := { exprs := [.lit (.int 2) default, .lit (.int 1) default, .lit (.int 0) default],
                     exprLists := [[]] } } =
      .ok () { piles := { exprs := [.lit (.int 0) default],
                            exprLists := [[.lit (.int 1) default, .lit (.int 2) default]] } } ∧
    (endExprList 4 default).run
        { piles := { exprs := [.lit (.int 2) default, .lit (.int 1) default, .lit (.int 0) default],
                     exprLists := [[]] } } =
      .error (.structural (.listTooLong 4 .expression 3) (some default))
        { piles := { exprs := [.lit (.int 2) default, .lit (.int 1) default, .lit (.int 0) default],
                     exprLists := [[]] } } := by
  have h := closeList_moves_recent_items
    { piles := { exprs := [.lit (.int 2) default, .lit (.int 1) default, .lit (.int 0) default],
                 exprLists := [[]] } } default
  exact ⟨h.1 [.lit (.int 2) default, .lit (.int 1) default] [.lit (.int 0) default] [] [] rfl rfl,
    h.2.2.1 4 (by simp) (by decide)⟩

/-! ## References -/

/-- An element access wraps the top expression, its index, with the variable itself as
the base. -/
theorem run_element_ok {name : String} (h : (element name loc).run b = .ok () b') :
    ∃ i rest, b.piles.exprs = i :: rest ∧
      b' = { b with piles := { b.piles with
        exprs := .element { name } (.var { name } loc) i loc :: rest } } := by
  rcases hx : b.piles.exprs with _ | ⟨i, rest⟩ <;> simp [element, hx] at h
  exact ⟨i, rest, rfl, h.symm⟩

/-- Over an index on top, an element access wraps it. -/
theorem run_element_eq {name : String} {i : Expr} {rest : List Expr}
    (hx : b.piles.exprs = i :: rest) :
    (element name loc).run b =
      .ok () { b with piles := { b.piles with
        exprs := .element { name } (.var { name } loc) i loc :: rest } } := by
  simp [element, hx]

/-- A field link is made only on a reference, and named after the variable it refers
to. -/
theorem run_fieldLink_ok {r : Expr} {next : Option Expr} {x : Expr}
    (h : (fieldLink r next loc).run b = .ok x b') :
    ∃ name, r.referenceName = some name ∧ x = .field name r next loc ∧ b' = b := by
  rcases hr : r.referenceName with _ | name <;> simp [fieldLink, hr] at h
  exact ⟨name, rfl, h.1.symm, h.2.symm⟩

/-- A field access on fewer than two expressions changes nothing; otherwise it links the
second expression, a reference, to the top one, which is a field link already or a
reference that becomes the last link. -/
theorem run_fieldAccess_ok (h : (fieldAccess loc).run b = .ok () b') :
    b.piles.exprs.length < 2 ∧ b' = b ∨
      ∃ f p rest f' name, b.piles.exprs = f :: p :: rest ∧
        (f.isField ∧ f' = f ∨
          ∃ n, f.isField = false ∧ f.referenceName = some n ∧ f' = .field n f none loc) ∧
        p.referenceName = some name ∧
        b' = { b with piles := { b.piles with exprs := .field name p (some f') loc :: rest } } := by
  rcases hx : b.piles.exprs with _ | ⟨f, _ | ⟨p, rest⟩⟩
  · simp [fieldAccess, hx] at h
    exact .inl ⟨by simp, h.symm⟩
  · simp [fieldAccess, hx] at h
    exact .inl ⟨by simp, h.symm⟩
  · have hlen : ¬ b.piles.exprs.length < 2 := by
      rw [hx, List.length_cons, List.length_cons]
      omega
    simp only [fieldAccess, EStateM.run_bind, run_piles, hlen, if_false] at h
    simp [hx] at h
    rcases hp : p.referenceName with _ | name
    · -- the parent is no reference: every branch fails
      cases hf : f.isField <;> simp [hf] at h
      · rcases hn : f.referenceName with _ | n <;> simp [fieldLink, hn, hp] at h
      · simp [fieldLink, hp] at h
    · refine .inr ⟨f, p, rest, ?_⟩
      cases hf : f.isField <;> simp [hf] at h
      · rcases hn : f.referenceName with _ | n <;> simp [fieldLink, hn, hp] at h
        exact ⟨_, name, rfl, .inr ⟨n, rfl, rfl, rfl⟩, hp, h.symm⟩
      · simp [fieldLink, hp] at h
        exact ⟨f, name, rfl, .inl ⟨rfl, rfl⟩, hp, h.symm⟩

/-- On two expressions, a field access links the top one, unless it is a field link
already, as the field of the one below, when both are references: the converse of
`run_fieldAccess_ok`. -/
theorem run_fieldAccess_eq {f p f' : Expr} {rest : List Expr} {name : SymbolName}
    (hx : b.piles.exprs = f :: p :: rest)
    (hf : f.isField ∧ f' = f ∨
      ∃ n, f.isField = false ∧ f.referenceName = some n ∧ f' = .field n f none loc)
    (hp : p.referenceName = some name) :
    (fieldAccess loc).run b =
      .ok () { b with piles := { b.piles with exprs := .field name p (some f') loc :: rest } } := by
  have hlen : ¬ b.piles.exprs.length < 2 := by
    rw [hx, List.length_cons, List.length_cons]
    omega
  simp only [fieldAccess, EStateM.run_bind, run_piles, hlen, if_false]
  rcases hf with ⟨hf, rfl⟩ | ⟨n, hf, hn, rfl⟩
  · simp [hx, hf, fieldLink, hp]
  · simp [hx, hf, fieldLink, hn, hp]

/-- On two expressions whose top one is neither a field link nor a reference, a field
access fails once it has taken that one. -/
theorem run_fieldAccess_fieldError {f p : Expr} {rest : List Expr}
    (hx : b.piles.exprs = f :: p :: rest) (hf : f.isField = false) (hn : f.referenceName = none) :
    (fieldAccess loc).run b = .error (.structural .fieldOfNonReference (some loc))
      { b with piles := { b.piles with exprs := p :: rest } } := by
  have hlen : ¬ b.piles.exprs.length < 2 := by
    rw [hx, List.length_cons, List.length_cons]
    omega
  simp only [fieldAccess, EStateM.run_bind, run_piles, hlen, if_false]
  simp [hx, hf, fieldLink, hn]

/-- On two expressions whose top one links and whose other one is no reference, a field
access fails once it has taken both. -/
theorem run_fieldAccess_parentError {f p : Expr} {rest : List Expr}
    (hx : b.piles.exprs = f :: p :: rest) (hf : f.isField ∨ ∃ n, f.referenceName = some n)
    (hp : p.referenceName = none) :
    (fieldAccess loc).run b = .error (.structural .fieldOfNonReference (some loc))
      { b with piles := { b.piles with exprs := rest } } := by
  have hlen : ¬ b.piles.exprs.length < 2 := by
    rw [hx, List.length_cons, List.length_cons]
    omega
  simp only [fieldAccess, EStateM.run_bind, run_piles, hlen, if_false]
  rcases hf with hf | ⟨n, hn⟩
  · simp [hx, hf, fieldLink, hp]
  · cases hf : f.isField <;> simp [hx, hf, fieldLink, hn, hp]

/-! ## Operators -/

/-- A binary operation takes the right operand from the top and the left one below it. -/
theorem run_binary_ok {op : String} (h : (binary op loc).run b = .ok () b') :
    ∃ r l rest o, b.piles.exprs = r :: l :: rest ∧ BinaryOp.ofSymbol? op = some o ∧
      b' = { b with piles := { b.piles with exprs := .binary o l r loc :: rest } } := by
  rcases hx : b.piles.exprs with _ | ⟨r, _ | ⟨l, rest⟩⟩ <;> simp [binary, hx] at h
  rcases ho : BinaryOp.ofSymbol? op with _ | o <;> simp [ho] at h
  exact ⟨r, l, rest, o, rfl, rfl, h.symm⟩

/-- Over two operands and a supported symbol, a binary operation pushes its node. -/
theorem run_binary_eq {op : String} {r l : Expr} {rest : List Expr} {o : BinaryOp}
    (hx : b.piles.exprs = r :: l :: rest) (ho : BinaryOp.ofSymbol? op = some o) :
    (binary op loc).run b =
      .ok () { b with piles := { b.piles with exprs := .binary o l r loc :: rest } } := by
  simp [binary, hx, ho]

/-- An unsupported symbol is refused at the source once both operands are taken. -/
theorem run_binary_unsupported {op : String} {r l : Expr} {rest : List Expr}
    (hx : b.piles.exprs = r :: l :: rest) (ho : BinaryOp.ofSymbol? op = none) :
    (binary op loc).run b =
      .error (.source (.unsupportedOperator op) loc) { b with piles := { b.piles with exprs := rest } } := by
  simp [binary, hx, ho]

/-- A unary operation wraps the top expression. -/
theorem run_unary_ok {op : String} (h : (unary op loc).run b = .ok () b') :
    ∃ x rest o, b.piles.exprs = x :: rest ∧ UnaryOp.ofSymbol? op = some o ∧
      b' = { b with piles := { b.piles with exprs := .unary o x loc :: rest } } := by
  rcases hx : b.piles.exprs with _ | ⟨x, rest⟩ <;> simp [unary, hx] at h
  rcases ho : UnaryOp.ofSymbol? op with _ | o <;> simp [ho] at h
  exact ⟨x, rest, o, rfl, rfl, h.symm⟩

/-- Over an operand and a supported symbol, a unary operation pushes its node. -/
theorem run_unary_eq {op : String} {x : Expr} {rest : List Expr} {o : UnaryOp}
    (hx : b.piles.exprs = x :: rest) (ho : UnaryOp.ofSymbol? op = some o) :
    (unary op loc).run b =
      .ok () { b with piles := { b.piles with exprs := .unary o x loc :: rest } } := by
  simp [unary, hx, ho]

/-- An unsupported symbol is refused at the source once the operand is taken. -/
theorem run_unary_unsupported {op : String} {x : Expr} {rest : List Expr}
    (hx : b.piles.exprs = x :: rest) (ho : UnaryOp.ofSymbol? op = none) :
    (unary op loc).run b =
      .error (.source (.unsupportedOperator op) loc) { b with piles := { b.piles with exprs := rest } } := by
  simp [unary, hx, ho]

/-- A cast takes the most recently queued type and the top expression. -/
theorem run_cast_ok (h : (cast loc).run b = .ok () b') :
    ∃ t x rest, b.piles.types.getLast? = some t ∧ b.piles.exprs = x :: rest ∧
      b' = { b with piles := { b.piles with
        types := b.piles.types.dropLast,
        exprs := .cast t x loc :: rest } } := by
  rcases ht : b.piles.types.getLast? with _ | t <;> simp [cast, ht] at h
  rcases hx : b.piles.exprs with _ | ⟨x, rest⟩ <;> simp [hx] at h
  exact ⟨t, x, rest, rfl, rfl, h.symm⟩

/-- Over a queued type and an operand, a cast pushes its node. -/
theorem run_cast_eq {t : ValueType} {x : Expr} {rest : List Expr}
    (ht : b.piles.types.getLast? = some t) (hx : b.piles.exprs = x :: rest) :
    (cast loc).run b =
      .ok () { b with piles := { b.piles with
        types := b.piles.types.dropLast, exprs := .cast t x loc :: rest } } := by
  simp [cast, ht, hx]

/-- The callee and arguments of a call are the top symbol name and the top list. -/
theorem run_invocation_ok {x : SymbolName × List Expr}
    (h : (invocation loc).run b = .ok x b') :
    ∃ args lists name names, b.piles.exprLists = args :: lists ∧
      b.piles.symbolNames = name :: names ∧ x = (name, args) ∧
      b' = { b with piles := { b.piles with exprLists := lists, symbolNames := names } } := by
  rcases hl : b.piles.exprLists with _ | ⟨args, lists⟩ <;> simp [invocation, hl] at h
  rcases hn : b.piles.symbolNames with _ | ⟨name, names⟩ <;> simp [hn] at h
  obtain ⟨rfl, rfl⟩ := h
  exact ⟨args, lists, name, names, rfl, rfl, rfl, rfl⟩

/-- A call expression is pushed with the top symbol name and the top list. -/
theorem run_callExpr_ok {kind : CallKind} (h : (callExpr kind loc).run b = .ok () b') :
    ∃ args lists name names, b.piles.exprLists = args :: lists ∧
      b.piles.symbolNames = name :: names ∧
      b' = { b with piles := { b.piles with
        exprLists := lists, symbolNames := names,
        exprs := .call kind name args loc :: b.piles.exprs } } := by
  simp only [callExpr, EStateM.run_bind] at h
  rcases hi : (invocation loc).run b with ⟨⟨name, args⟩, b₁⟩ | ⟨err, b₁⟩ <;> simp [hi] at h
  obtain ⟨args, lists, name, names, hl, hn, ⟨⟩, rfl⟩ := run_invocation_ok hi
  exact ⟨args, lists, name, names, hl, hn, h.symm⟩

/-- Over a callee and an argument list, a call expression pushes its node. -/
theorem run_callExpr_eq {kind : CallKind} {args : List Expr} {lists : List (List Expr)}
    {name : SymbolName} {names : List SymbolName}
    (hl : b.piles.exprLists = args :: lists) (hn : b.piles.symbolNames = name :: names) :
    (callExpr kind loc).run b =
      .ok () { b with piles := { b.piles with
        exprLists := lists, symbolNames := names,
        exprs := .call kind name args loc :: b.piles.exprs } } := by
  simp [callExpr, invocation, hl, hn]

/-! ## Leaves and initialisers -/

/-- A literal is pushed with the value read from its token. -/
theorem run_literal_ok {kind : LiteralKind} {text : String}
    (h : (literal kind text loc).run b = .ok () b') :
    ∃ v, Literal.read kind text loc = .ok v ∧
      b' = { b with piles := { b.piles with exprs := .lit v loc :: b.piles.exprs } } := by
  rcases hv : Literal.read kind text loc with err | v <;> simp [literal, hv] at h
  exact ⟨v, rfl, h.symm⟩

/-- A literal whose token reads is pushed with its value. -/
theorem run_literal_eq {kind : LiteralKind} {text : String} {v : Literal}
    (hv : Literal.read kind text loc = .ok v) :
    (literal kind text loc).run b =
      .ok () { b with piles := { b.piles with exprs := .lit v loc :: b.piles.exprs } } := by
  simp [literal, hv]

/-- A literal whose token does not read fails with the reader's error, before any change. -/
theorem run_literal_error {kind : LiteralKind} {text : String} {d : BuildError}
    (hv : Literal.read kind text loc = .error d) : (literal kind text loc).run b = .error d b := by
  simp [literal, hv]

/-- A template is pushed with the text between the token's backticks. -/
theorem run_template_ok {token : String} (h : (template token loc).run b = .ok () b') :
    ∃ text, templateText token = some text ∧
      b' = { b with piles := { b.piles with exprs := .template text loc :: b.piles.exprs } } := by
  rcases ht : templateText token with _ | text <;> simp [template, ht] at h
  exact ⟨text, rfl, h.symm⟩

/-- A template token with its backticks is pushed with its text. -/
theorem run_template_eq {token text : String} (ht : templateText token = some text) :
    (template token loc).run b =
      .ok () { b with piles := { b.piles with exprs := .template text loc :: b.piles.exprs } } := by
  simp [template, ht]

/-- A template token without its backticks is refused at the source. -/
theorem run_template_malformed {token : String} (ht : templateText token = none) :
    (template token loc).run b = .error (.source (.malformedTemplate token) loc) b := by
  simp [template, ht]

/-- `new T` takes and drops the top list when flagged, warning when it is not empty, and
pushes an instance creation of a registered type that is not a struct, or else a struct
initialiser of the bare name. -/
theorem run_instanceCreation_ok {typeName : String} {argsAvailable : Bool}
    (h : (instanceCreation typeName argsAvailable loc).run b = .ok () b') :
    ∃ lists warnings x,
      (argsAvailable = false ∧ lists = b.piles.exprLists ∧ warnings = b.warnings ∨
        ∃ args, argsAvailable = true ∧ b.piles.exprLists = args :: lists ∧
          warnings = if args.isEmpty then b.warnings
            else b.warnings ++ [⟨loc, typeName, args.length⟩]) ∧
      (x = .structInit { name := typeName } loc ∧
          (∀ t, b.registry.lookup typeName = some t → t.isStruct) ∨
        ∃ t, b.registry.lookup typeName = some t ∧ t.isStruct = false ∧ x = .construct t loc) ∧
      b' = { b with
        piles := { b.piles with exprLists := lists, exprs := x :: b.piles.exprs },
        warnings } := by
  -- the node is what the event pushes without arguments: it reads only the registry,
  -- which dropping the arguments leaves alone
  have hnode : ∀ b₁ : Builder, (instanceCreation typeName false loc).run b₁ = .ok () b' →
      b₁.registry = b.registry →
      ∃ x, (x = .structInit { name := typeName } loc ∧
          (∀ t, b.registry.lookup typeName = some t → t.isStruct) ∨
        ∃ t, b.registry.lookup typeName = some t ∧ t.isStruct = false ∧ x = .construct t loc) ∧
      b' = { b₁ with piles := { b₁.piles with exprs := x :: b₁.piles.exprs } } := by
    intro b₁ h hreg
    rw [← hreg]
    rcases ht : b₁.registry.lookup typeName with _ | t
    · simp [instanceCreation, ht] at h
      exact ⟨_, .inl ⟨rfl, by simp⟩, h.symm⟩
    · cases hs : t.isStruct <;> simp [instanceCreation, ht, hs] at h
      · exact ⟨_, .inr ⟨t, rfl, hs, rfl⟩, h.symm⟩
      · exact ⟨_, .inl ⟨rfl, fun t' ht' => by cases ht'; exact hs⟩, h.symm⟩
  cases argsAvailable
  · obtain ⟨x, hx, rfl⟩ := hnode b h rfl
    exact ⟨_, _, x, .inl ⟨rfl, rfl, rfl⟩, hx, rfl⟩
  · simp only [instanceCreation, if_true, EStateM.run_bind] at h
    rcases hl : b.piles.exprLists with _ | ⟨args, lists⟩ <;> simp [hl] at h
    by_cases he : args = [] <;> simp [he] at h
    · obtain ⟨x, hx, rfl⟩ := hnode { b with piles := { b.piles with exprLists := lists } }
        (by simpa [instanceCreation] using h) rfl
      exact ⟨lists, _, x, .inr ⟨args, rfl, rfl, by simp [he]⟩, hx, rfl⟩
    · obtain ⟨x, hx, rfl⟩ := hnode
        { b with piles := { b.piles with exprLists := lists },
                 warnings := b.warnings ++ [⟨loc, typeName, args.length⟩] }
        (by simpa [instanceCreation] using h) rfl
      exact ⟨lists, _, x, .inr ⟨args, rfl, rfl, by simp [he]⟩, hx, rfl⟩

/-- `new T` without arguments pushes the node the registry gives for `T`. -/
theorem run_instanceCreation_bare (typeName : String) (b : Builder) :
    (instanceCreation typeName false loc).run b =
      .ok () { b with piles := { b.piles with
        exprs := b.registry.instanceOf typeName loc :: b.piles.exprs } } := by
  rcases h : b.registry.lookup typeName with _ | t
  · simp [instanceCreation, Registry.instanceOf, h]
  · rcases hs : t.isStruct <;> simp [instanceCreation, Registry.instanceOf, h, hs]

/-- `new T(args)` takes the top expression list, warns when it is not empty, and then
pushes the node the registry gives for `T`. -/
theorem run_instanceCreation_args {typeName : String} {l : List Expr} {rest : List (List Expr)}
    (hl : b.piles.exprLists = l :: rest) :
    (instanceCreation typeName true loc).run b =
      .ok () { b with
        piles := { b.piles with
          exprLists := rest, exprs := b.registry.instanceOf typeName loc :: b.piles.exprs },
        warnings := if l.isEmpty then b.warnings
          else b.warnings ++ [⟨loc, typeName, l.length⟩] } := by
  rcases h : b.registry.lookup typeName with _ | t
  · rcases l with _ | ⟨x, xs⟩ <;> simp [instanceCreation, Registry.instanceOf, h, hl]
  · rcases hs : t.isStruct <;> rcases l with _ | ⟨x, xs⟩ <;>
      simp [instanceCreation, Registry.instanceOf, h, hs, hl]

/-- `new T(args)` with no open expression list fails on the empty pile. -/
theorem run_instanceCreation_noList {typeName : String} (hl : b.piles.exprLists = []) :
    (instanceCreation typeName true loc).run b =
      .error (.structural (.emptyStack .expressionList) (some loc)) b := by
  simp [instanceCreation, hl]

/-- An array initialiser takes the top list as its elements when flagged. -/
theorem run_arrayInit_ok {flag : Bool} (h : (arrayInit flag loc).run b = .ok () b') :
    ∃ es lists, (flag = false ∧ es = [] ∧ lists = b.piles.exprLists ∨
        flag = true ∧ b.piles.exprLists = es :: lists) ∧
      b' = { b with piles := { b.piles with
        exprLists := lists, exprs := .arrayInit es loc :: b.piles.exprs } } := by
  cases flag
  · simp [arrayInit] at h
    exact ⟨[], _, .inl ⟨rfl, rfl, rfl⟩, h.symm⟩
  · rcases hl : b.piles.exprLists with _ | ⟨es, lists⟩ <;> simp [arrayInit, hl] at h
    exact ⟨es, lists, .inr ⟨rfl, rfl⟩, h.symm⟩

/-- An array initialiser without elements pushes an empty one. -/
theorem run_arrayInit_bare (b : Builder) :
    (arrayInit false loc).run b =
      .ok () { b with piles := { b.piles with exprs := .arrayInit [] loc :: b.piles.exprs } } := by
  simp [arrayInit]

/-- An array initialiser with elements takes the top list. -/
theorem run_arrayInit_elements {l : List Expr} {lists : List (List Expr)}
    (hl : b.piles.exprLists = l :: lists) :
    (arrayInit true loc).run b =
      .ok () { b with piles := { b.piles with
        exprLists := lists, exprs := .arrayInit l loc :: b.piles.exprs } } := by
  simp [arrayInit, hl]

/-- A key-value pair moves the top expression, as its value, to the key-value pile. -/
theorem run_keyValue_ok {key : String} (h : (keyValue key loc).run b = .ok () b') :
    ∃ v rest, b.piles.exprs = v :: rest ∧
      b' = { b with piles := { b.piles with
        exprs := rest, keyValues := .keyValue key v loc :: b.piles.keyValues } } := by
  rcases hx : b.piles.exprs with _ | ⟨v, rest⟩ <;> simp [keyValue, hx] at h
  exact ⟨v, rest, rfl, h.symm⟩

/-- Over a value on top, a key-value pair moves it to the key-value pile. -/
theorem run_keyValue_eq {key : String} {v : Expr} {rest : List Expr}
    (hx : b.piles.exprs = v :: rest) :
    (keyValue key loc).run b =
      .ok () { b with piles := { b.piles with
        exprs := rest, keyValues := .keyValue key v loc :: b.piles.keyValues } } := by
  simp [keyValue, hx]

/-- A map initialiser takes the top key-value list as its entries when flagged. -/
theorem run_mapInit_ok {flag : Bool} (h : (mapInit flag loc).run b = .ok () b') :
    ∃ es lists, (flag = false ∧ es = [] ∧ lists = b.piles.keyValueLists ∨
        flag = true ∧ b.piles.keyValueLists = es :: lists) ∧
      b' = { b with piles := { b.piles with
        keyValueLists := lists, exprs := .mapInit es loc :: b.piles.exprs } } := by
  cases flag
  · simp [mapInit] at h
    exact ⟨[], _, .inl ⟨rfl, rfl, rfl⟩, h.symm⟩
  · rcases hl : b.piles.keyValueLists with _ | ⟨es, lists⟩ <;> simp [mapInit, hl] at h
    exact ⟨es, lists, .inr ⟨rfl, rfl⟩, h.symm⟩

/-- A map initialiser without entries pushes an empty one. -/
theorem run_mapInit_bare (b : Builder) :
    (mapInit false loc).run b =
      .ok () { b with piles := { b.piles with exprs := .mapInit [] loc :: b.piles.exprs } } := by
  simp [mapInit]

/-- A map initialiser with entries takes the top key-value list. -/
theorem run_mapInit_entries {l : List Expr} {lists : List (List Expr)}
    (hl : b.piles.keyValueLists = l :: lists) :
    (mapInit true loc).run b =
      .ok () { b with piles := { b.piles with
        keyValueLists := lists, exprs := .mapInit l loc :: b.piles.exprs } } := by
  simp [mapInit, hl]

end Assembly
end TreeAssembly
