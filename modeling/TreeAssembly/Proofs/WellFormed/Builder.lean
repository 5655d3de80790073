import TreeAssembly.Proofs.WellFormed.Tree
import TreeAssembly.Proofs.Steps.Failure

/-!
# Every tree the builder hands out is well-formed

The builder is a state machine whose events may come in any order; nothing forces them to
be well nested.  Well-formedness of its output is therefore a run invariant: every pile
and every slot of the builder holds only well-formed pieces (`Builder.WellFormed`), a fresh
builder does, and every event that succeeds keeps it so.  A failing event keeps only what
its assembler took before it failed, which leaves a trimmed builder (`Builder.Trimmed`)
with fewer pieces and nothing new, and a refused one leaves the builder as it was; so every
run keeps the invariant, and a builder that finishes hands out its file, which is
well-formed.

Each event's case cites the lemma of `Steps` that says what the event leaves; the
expressions it builds are well-formed because their operands come off piles that hold
only well-formed pieces.  Two cases carry the shape of field chains and maps: a field
access makes its field a link, which is a field link already or a reference wrapped as
the last link (`Expr.WellFormed.link`), and key-value pairs go to a pile of their own, from
which only a map initialiser takes them.

## Main statements

* `Builder.WellFormed.step`: every event that succeeds keeps the builder well-formed.
* `Builder.WellFormed.of_trimmed`: so does every failing one.
* `Builder.WellFormed.applyAll`: so does every run, from a builder that is.
* `replay_wellFormed`: every compilation unit a replay hands out is well-formed.
-/

namespace TreeAssembly

/-- **The builder's invariant**: every pile and slot holds only well-formed pieces.  The
expression pile and the expression lists hold expressions that may stand anywhere; the
key-value pile and lists hold map entries. -/
structure Builder.WellFormed (b : Builder) : Prop where
  exprs : ∀ e ∈ b.piles.exprs, e.WellFormed
  exprLists : ∀ l ∈ b.piles.exprLists, ∀ e ∈ l, e.WellFormed
  keyValues : ∀ e ∈ b.piles.keyValues, e.Entry
  keyValueLists : ∀ l ∈ b.piles.keyValueLists, ∀ e ∈ l, e.Entry
  blocks : ∀ f ∈ b.piles.blocks, ∀ s ∈ f.statements, s.WellFormed
  ifElses : ∀ f ∈ b.piles.ifElses, f.WellFormed
  unit : ∀ u ∈ b.unit, u.WellFormed
  group : ∀ g ∈ b.group, g.WellFormed
  file : b.file.WellFormed

namespace Builder.WellFormed

variable {b b' : Builder} {loc : Location}

/-! ## Expressions

An operand popped from a pile of a well-formed builder is well-formed, and what is left
below it still is; each lemma reads this off the equation `Steps` gives for the pile. -/

theorem pushExpr (hb : b.WellFormed) {x : Expr} (hx : x.WellFormed)
    (h : (Assembly.pushExpr x).run b = .ok () b') : b'.WellFormed := by
  simp only [Assembly.run_pushExpr, EStateM.Result.ok.injEq, true_and] at h
  subst h
  exact { hb with exprs := List.forall_mem_cons.2 ⟨hx, hb.exprs⟩ }

theorem startExprList (hb : b.WellFormed)
    (h : Assembly.startExprList.run b = .ok () b') : b'.WellFormed := by
  simp [Assembly.startExprList] at h
  subst h
  exact { hb with exprLists := List.forall_mem_cons.2 ⟨by simp, hb.exprLists⟩ }

theorem endExprList (hb : b.WellFormed) {count : Nat}
    (h : (Assembly.endExprList count loc).run b = .ok () b') : b'.WellFormed := by
  obtain ⟨l, rest, hl, -, rfl⟩ := Assembly.run_endExprList_ok h
  obtain ⟨hl₁, hrest⟩ := List.forall_mem_cons.1 (hl ▸ hb.exprLists)
  -- the moved expressions come from the top of the expression pile
  have hmoved : ∀ e ∈ (b.piles.exprs.take count).reverse, e.WellFormed :=
    fun e he => hb.exprs e (List.mem_of_mem_take (List.mem_reverse.1 he))
  exact { hb with exprs := fun e he => hb.exprs e (List.mem_of_mem_drop he),
                  exprLists := List.forall_mem_cons.2
                    ⟨List.forall_mem_append.2 ⟨hl₁, hmoved⟩, hrest⟩ }

theorem startKeyValueList (hb : b.WellFormed)
    (h : Assembly.startKeyValueList.run b = .ok () b') : b'.WellFormed := by
  simp [Assembly.startKeyValueList] at h
  subst h
  exact { hb with keyValueLists := List.forall_mem_cons.2 ⟨by simp, hb.keyValueLists⟩ }

theorem endKeyValueList (hb : b.WellFormed) {count : Nat}
    (h : (Assembly.endKeyValueList count loc).run b = .ok () b') : b'.WellFormed := by
  obtain ⟨l, rest, hl, -, rfl⟩ := Assembly.run_endKeyValueList_ok h
  obtain ⟨hl₁, hrest⟩ := List.forall_mem_cons.1 (hl ▸ hb.keyValueLists)
  have hmoved : ∀ e ∈ (b.piles.keyValues.take count).reverse, e.Entry :=
    fun e he => hb.keyValues e (List.mem_of_mem_take (List.mem_reverse.1 he))
  exact { hb with keyValues := fun e he => hb.keyValues e (List.mem_of_mem_drop he),
                  keyValueLists := List.forall_mem_cons.2
                    ⟨List.forall_mem_append.2 ⟨hl₁, hmoved⟩, hrest⟩ }

theorem literal (hb : b.WellFormed) {kind : LiteralKind} {text : String}
    (h : (Assembly.literal kind text loc).run b = .ok () b') : b'.WellFormed := by
  obtain ⟨v, -, rfl⟩ := Assembly.run_literal_ok h
  exact { hb with exprs := List.forall_mem_cons.2 ⟨.lit rfl, hb.exprs⟩ }

theorem element (hb : b.WellFormed) {name : String}
    (h : (Assembly.element name loc).run b = .ok () b') : b'.WellFormed := by
  obtain ⟨i, rest, hx, rfl⟩ := Assembly.run_element_ok h
  obtain ⟨hi, hrest⟩ := List.forall_mem_cons.1 (hx ▸ hb.exprs)
  exact { hb with exprs := List.forall_mem_cons.2 ⟨.element ⟨rfl, rfl⟩ hi, hrest⟩ }

/-- A field access keeps the builder well-formed: its field becomes a link, which the
field link on top already is, and which a reference becomes as the last link. -/
theorem fieldAccess (hb : b.WellFormed) (h : (Assembly.fieldAccess loc).run b = .ok () b') :
    b'.WellFormed := by
  rcases Assembly.run_fieldAccess_ok h with ⟨-, rfl⟩ | ⟨f, p, rest, f', name, hx, hf', hp, rfl⟩
  · exact hb
  obtain ⟨hf, hpw, hrest⟩ : f.WellFormed ∧ p.WellFormed ∧ ∀ e ∈ rest, e.WellFormed := by
    simpa [hx] using hb.exprs
  have hlink : f'.Link := by
    rcases hf' with ⟨hfield, rfl⟩ | ⟨n, -, hn, rfl⟩
    · exact hf.link hfield
    · exact .last hn hf
  exact { hb with exprs := List.forall_mem_cons.2 ⟨.field hp hpw hlink, hrest⟩ }

theorem binary (hb : b.WellFormed) {op : String}
    (h : (Assembly.binary op loc).run b = .ok () b') : b'.WellFormed := by
  obtain ⟨r, l, rest, o, hx, -, rfl⟩ := Assembly.run_binary_ok h
  obtain ⟨hr, hl, hrest⟩ : r.WellFormed ∧ l.WellFormed ∧ ∀ e ∈ rest, e.WellFormed := by
    simpa [hx] using hb.exprs
  exact { hb with exprs := List.forall_mem_cons.2 ⟨.binary hl hr, hrest⟩ }

theorem unary (hb : b.WellFormed) {op : String}
    (h : (Assembly.unary op loc).run b = .ok () b') : b'.WellFormed := by
  obtain ⟨x, rest, o, hx, -, rfl⟩ := Assembly.run_unary_ok h
  obtain ⟨hxw, hrest⟩ := List.forall_mem_cons.1 (hx ▸ hb.exprs)
  exact { hb with exprs := List.forall_mem_cons.2 ⟨.unary hxw, hrest⟩ }

theorem template (hb : b.WellFormed) {token : String}
    (h : (Assembly.template token loc).run b = .ok () b') : b'.WellFormed := by
  obtain ⟨text, ht, rfl⟩ := Assembly.run_template_ok h
  have hx : (Expr.template text loc).WellFormed := .template (backtick_notMem_of_templateText ht)
  exact { hb with exprs := List.forall_mem_cons.2 ⟨hx, hb.exprs⟩ }

theorem cast (hb : b.WellFormed) (h : (Assembly.cast loc).run b = .ok () b') :
    b'.WellFormed := by
  obtain ⟨t, x, rest, -, hx, rfl⟩ := Assembly.run_cast_ok h
  obtain ⟨hxw, hrest⟩ := List.forall_mem_cons.1 (hx ▸ hb.exprs)
  exact { hb with exprs := List.forall_mem_cons.2 ⟨.cast rfl hxw, hrest⟩ }

theorem callExpr (hb : b.WellFormed) {kind : CallKind}
    (h : (Assembly.callExpr kind loc).run b = .ok () b') : b'.WellFormed := by
  obtain ⟨args, lists, name, names, hl, -, rfl⟩ := Assembly.run_callExpr_ok h
  obtain ⟨hargs, hrest⟩ := List.forall_mem_cons.1 (hl ▸ hb.exprLists)
  exact { hb with exprs := List.forall_mem_cons.2 ⟨.call hargs, hb.exprs⟩, exprLists := hrest }

/-- `new T` pushes an instance creation only of a type that is not a struct, and otherwise a
struct initialiser of the bare name. -/
theorem instanceCreation (hb : b.WellFormed) {typeName : String} {flag : Bool}
    (h : (Assembly.instanceCreation typeName flag loc).run b = .ok () b') :
    b'.WellFormed := by
  obtain ⟨lists, warnings, x, hlists, hx, rfl⟩ := Assembly.run_instanceCreation_ok h
  have hls : ∀ l ∈ lists, ∀ e ∈ l, e.WellFormed := by
    rcases hlists with ⟨-, rfl, -⟩ | ⟨args, -, hl, -⟩
    · exact hb.exprLists
    · exact (List.forall_mem_cons.1 (hl ▸ hb.exprLists)).2
  have hxw : x.WellFormed := by
    rcases hx with ⟨rfl, -⟩ | ⟨t, -, ht, rfl⟩
    · exact .structInit ⟨rfl, rfl⟩ rfl
    · exact .construct rfl ht
  exact { hb with exprs := List.forall_mem_cons.2 ⟨hxw, hb.exprs⟩, exprLists := hls }

theorem arrayInit (hb : b.WellFormed) {flag : Bool}
    (h : (Assembly.arrayInit flag loc).run b = .ok () b') : b'.WellFormed := by
  obtain ⟨es, lists, hes, rfl⟩ := Assembly.run_arrayInit_ok h
  rcases hes with ⟨-, rfl, rfl⟩ | ⟨-, hl⟩
  · exact { hb with exprs := List.forall_mem_cons.2 ⟨.arrayInit (by simp), hb.exprs⟩ }
  · obtain ⟨hes, hrest⟩ := List.forall_mem_cons.1 (hl ▸ hb.exprLists)
    exact { hb with exprs := List.forall_mem_cons.2 ⟨.arrayInit hes, hb.exprs⟩,
                    exprLists := hrest }

/-- A key-value pair goes to the key-value pile, never to the expression pile. -/
theorem keyValue (hb : b.WellFormed) {key : String}
    (h : (Assembly.keyValue key loc).run b = .ok () b') : b'.WellFormed := by
  obtain ⟨v, rest, hx, rfl⟩ := Assembly.run_keyValue_ok h
  obtain ⟨hv, hrest⟩ := List.forall_mem_cons.1 (hx ▸ hb.exprs)
  exact { hb with exprs := hrest, keyValues := List.forall_mem_cons.2 ⟨.keyValue hv, hb.keyValues⟩ }

theorem mapInit (hb : b.WellFormed) {flag : Bool}
    (h : (Assembly.mapInit flag loc).run b = .ok () b') : b'.WellFormed := by
  obtain ⟨es, lists, hes, rfl⟩ := Assembly.run_mapInit_ok h
  rcases hes with ⟨-, rfl, rfl⟩ | ⟨-, hl⟩
  · exact { hb with exprs := List.forall_mem_cons.2 ⟨.mapInit (by simp), hb.exprs⟩ }
  · obtain ⟨hes, hrest⟩ := List.forall_mem_cons.1 (hl ▸ hb.keyValueLists)
    exact { hb with exprs := List.forall_mem_cons.2 ⟨.mapInit hes, hb.exprs⟩,
                    keyValueLists := hrest }

/-! ## Statements

Every finished statement joins the innermost block, and `blocks_grow` is the one fact
about that. -/

/-- Growing the innermost block by a well-formed statement keeps every open block
well-formed. -/
theorem blocks_grow {blk : BlockFrame} {rest : List BlockFrame} {s : Stmt}
    (hbs : ∀ f ∈ blk :: rest, ∀ s ∈ f.statements, s.WellFormed) (hs : s.WellFormed) :
    ∀ f ∈ { blk with statements := blk.statements ++ [s] } :: rest,
      ∀ s ∈ f.statements, s.WellFormed := by
  obtain ⟨hblk, hrest⟩ := List.forall_mem_cons.1 hbs
  exact List.forall_mem_cons.2
    ⟨List.forall_mem_append.2 ⟨hblk, List.forall_mem_singleton.2 hs⟩, hrest⟩

theorem openBlock (hb : b.WellFormed) (h : (Assembly.openBlock loc).run b = .ok () b') :
    b'.WellFormed := by
  simp [Assembly.openBlock] at h
  subst h
  exact { hb with blocks := List.forall_mem_cons.2 ⟨by simp, hb.blocks⟩ }

theorem endBlock (hb : b.WellFormed) (h : (Assembly.endBlock loc).run b = .ok () b') :
    b'.WellFormed := by
  obtain ⟨blk, outer, rest, hbl, rfl⟩ := Assembly.run_endBlock_ok h
  obtain ⟨hblk, hrest⟩ := List.forall_mem_cons.1 (hbl ▸ hb.blocks)
  exact { hb with blocks := blocks_grow hrest (.block (BlockFrame.wellFormed_finish hblk)) }

theorem assignment (hb : b.WellFormed) (h : (Assembly.assignment loc).run b = .ok () b') :
    b'.WellFormed := by
  obtain ⟨v, rest, targets, lists, blk, blocks, hx, hl, hbl, rfl⟩ :=
    Assembly.run_assignment_ok h
  obtain ⟨hv, hrest⟩ := List.forall_mem_cons.1 (hx ▸ hb.exprs)
  obtain ⟨htargets, hlists⟩ := List.forall_mem_cons.1 (hl ▸ hb.exprLists)
  exact { hb with exprs := hrest, exprLists := hlists,
                  blocks := blocks_grow (hbl ▸ hb.blocks) (.assign htargets hv) }

theorem returnStmt (hb : b.WellFormed) {flag : Bool}
    (h : (Assembly.returnStmt flag loc).run b = .ok () b') : b'.WellFormed := by
  obtain ⟨values, lists, blk, blocks, hv, hbl, rfl⟩ := Assembly.run_returnStmt_ok h
  rcases hv with ⟨-, rfl, rfl⟩ | ⟨-, hl⟩
  · exact { hb with blocks := blocks_grow (hbl ▸ hb.blocks) (.ret (by simp)) }
  · obtain ⟨hvalues, hlists⟩ := List.forall_mem_cons.1 (hl ▸ hb.exprLists)
    exact { hb with exprLists := hlists,
                    blocks := blocks_grow (hbl ▸ hb.blocks) (.ret hvalues) }

theorem reply (hb : b.WellFormed) (h : (Assembly.reply loc).run b = .ok () b') :
    b'.WellFormed := by
  obtain ⟨v, rest, blk, blocks, hx, hbl, rfl⟩ := Assembly.run_reply_ok h
  obtain ⟨hv, hrest⟩ := List.forall_mem_cons.1 (hx ▸ hb.exprs)
  exact { hb with exprs := hrest, blocks := blocks_grow (hbl ▸ hb.blocks) (.reply hv) }

theorem callStmt (hb : b.WellFormed) {kind : CallKind}
    (h : (Assembly.callStmt kind loc).run b = .ok () b') : b'.WellFormed := by
  obtain ⟨args, lists, name, names, blk, blocks, hl, -, hbl, rfl⟩ := Assembly.run_callStmt_ok h
  obtain ⟨hargs, hlists⟩ := List.forall_mem_cons.1 (hl ▸ hb.exprLists)
  exact { hb with exprLists := hlists, blocks := blocks_grow (hbl ▸ hb.blocks) (.call hargs) }

theorem endWhile (hb : b.WellFormed) (h : (Assembly.endWhile loc).run b = .ok () b') :
    b'.WellFormed := by
  obtain ⟨c, rest, body, blk, blocks, hx, hbl, rfl⟩ := Assembly.run_endWhile_ok h
  obtain ⟨hc, hrest⟩ := List.forall_mem_cons.1 (hx ▸ hb.exprs)
  obtain ⟨hbody, hblocks⟩ := List.forall_mem_cons.1 (hbl ▸ hb.blocks)
  exact { hb with exprs := hrest,
                  blocks := blocks_grow hblocks (.loop hc (BlockFrame.wellFormed_finish hbody)) }

theorem startIfElse (hb : b.WellFormed) (h : (Assembly.startIfElse loc).run b = .ok () b') :
    b'.WellFormed := by
  simp [Assembly.startIfElse] at h
  subst h
  exact { hb with blocks := List.forall_mem_cons.2 ⟨by simp, hb.blocks⟩,
                  ifElses := List.forall_mem_cons.2 ⟨⟨by simp, by simp⟩, hb.ifElses⟩ }

/-- An `else if` branch is located where its block was opened. -/
theorem endElseIf (hb : b.WellFormed) (h : (Assembly.endElseIf loc).run b = .ok () b') :
    b'.WellFormed := by
  obtain ⟨body, blocks, c, rest, f, fs, hf, hbl, hx, rfl⟩ := Assembly.run_endElseIf_ok h
  obtain ⟨hc, hrest⟩ := List.forall_mem_cons.1 (hx ▸ hb.exprs)
  obtain ⟨hbody, hblocks⟩ := List.forall_mem_cons.1 (hbl ▸ hb.blocks)
  obtain ⟨hf₁, hfs⟩ := List.forall_mem_cons.1 (hf ▸ hb.ifElses)
  have hbr : (Branch.mk c body.finish body.loc).ElseIf :=
    .mk hc (BlockFrame.wellFormed_finish hbody)
  exact { hb with exprs := hrest, blocks := hblocks,
                  ifElses := List.forall_mem_cons.2 ⟨⟨List.forall_mem_append.2
                    ⟨hf₁.elseIfs, List.forall_mem_singleton.2 hbr⟩, hf₁.elseBody⟩, hfs⟩ }

theorem endElse (hb : b.WellFormed) (h : (Assembly.endElse loc).run b = .ok () b') :
    b'.WellFormed := by
  obtain ⟨body, blocks, f, fs, hf, hbl, -, rfl⟩ := Assembly.run_endElse_ok h
  obtain ⟨hbody, hblocks⟩ := List.forall_mem_cons.1 (hbl ▸ hb.blocks)
  obtain ⟨hf₁, hfs⟩ := List.forall_mem_cons.1 (hf ▸ hb.ifElses)
  have helse : ∀ blk ∈ some body.finish, blk.WellFormed := by
    rintro _ ⟨⟩
    exact BlockFrame.wellFormed_finish hbody
  exact { hb with blocks := hblocks,
                  ifElses := List.forall_mem_cons.2 ⟨⟨hf₁.elseIfs, helse⟩, hfs⟩ }

/-- The chain closes with its primary branch first, at the chain's own location. -/
theorem endIfElse (hb : b.WellFormed) (h : (Assembly.endIfElse loc).run b = .ok () b') :
    b'.WellFormed := by
  obtain ⟨f, fs, c, rest, body, blk, blocks, hf, hx, hbl, rfl⟩ := Assembly.run_endIfElse_ok h
  obtain ⟨hc, hrest⟩ := List.forall_mem_cons.1 (hx ▸ hb.exprs)
  obtain ⟨hbody, hblocks⟩ := List.forall_mem_cons.1 (hbl ▸ hb.blocks)
  obtain ⟨hf₁, hfs⟩ := List.forall_mem_cons.1 (hf ▸ hb.ifElses)
  exact { hb with exprs := hrest, ifElses := hfs,
                  blocks := blocks_grow hblocks
                    (.ifElse hc (BlockFrame.wellFormed_finish hbody) hf₁.elseIfs hf₁.elseBody) }

/-! ## Declarations

Annotations, parameters and struct fields hold no expression; connector declarations,
constants and unit bodies do, and finished units and groups carry them into the file. -/

theorem annotationKeyValue (hb : b.WellFormed) {key : String}
    (h : (Assembly.annotationKeyValue key loc).run b = .ok () b') : b'.WellFormed := by
  obtain ⟨v, rest, str, kvs, frames, hx, -, -, rfl⟩ := Assembly.run_annotationKeyValue_ok h
  exact { hb with exprs := (List.forall_mem_cons.1 (hx ▸ hb.exprs)).2 }

theorem annotationEnd (hb : b.WellFormed) {name : String} {flag : Bool}
    (h : (Assembly.annotationEnd name flag loc).run b = .ok () b') : b'.WellFormed := by
  obtain ⟨kvs, frames, value, rest, l, lists, -, hrest, -, rfl⟩ :=
    Assembly.run_annotationEnd_ok h
  rcases hrest with ⟨-, -, rfl⟩ | ⟨-, v, -, hx, -⟩
  · exact { hb with }
  · exact { hb with exprs := (List.forall_mem_cons.1 (hx ▸ hb.exprs)).2 }

theorem param (hb : b.WellFormed) {name : String}
    (h : (Assembly.param name loc).run b = .ok () b') : b'.WellFormed := by
  obtain ⟨t, types, -, ⟨u, hu, rfl⟩ | ⟨-, g, hg, rfl⟩⟩ := Assembly.run_param_ok h
  · have hw := hb.unit u hu
    exact { hb with unit := by rintro _ ⟨⟩; exact { hw with } }
  · have hw := hb.group g hg
    exact { hb with group := by rintro _ ⟨⟩; exact { hw with } }

theorem returnTypes (hb : b.WellFormed) (h : (Assembly.returnTypes loc).run b = .ok () b') :
    b'.WellFormed := by
  obtain ⟨u, hu, rfl⟩ := Assembly.run_returnTypes_ok h
  have hw := hb.unit u hu
  exact { hb with unit := by rintro _ ⟨⟩; exact { hw with } }

theorem namedReturnParam (hb : b.WellFormed) {name : String}
    (h : (Assembly.namedReturnParam name loc).run b = .ok () b') : b'.WellFormed := by
  obtain ⟨t, types, u, -, hu, rfl⟩ := Assembly.run_namedReturnParam_ok h
  have hw := hb.unit u hu
  exact { hb with unit := by rintro _ ⟨⟩; exact { hw with } }

theorem constant (hb : b.WellFormed) {name : String}
    (h : (Assembly.constant name loc).run b = .ok () b') : b'.WellFormed := by
  obtain ⟨t, types, v, rest, -, hx, rfl⟩ := Assembly.run_constant_ok h
  obtain ⟨hv, hrest⟩ := List.forall_mem_cons.1 (hx ▸ hb.exprs)
  have hconsts : ∀ c ∈ b.file.consts ++ [⟨.withPackage name b.package, t, v, loc⟩],
      c.value.WellFormed :=
    List.forall_mem_append.2 ⟨hb.file.consts, List.forall_mem_singleton.2 hv⟩
  exact { hb with exprs := hrest, file := { hb.file with consts := hconsts } }

theorem variableDecl (hb : b.WellFormed) {name : String}
    (h : (Assembly.variableDecl name loc).run b = .ok () b') : b'.WellFormed := by
  obtain ⟨t, types, -, ⟨-, blk, blocks, hbl, rfl⟩ | ⟨-, g, hg, rfl⟩⟩ :=
    Assembly.run_variableDecl_ok h
  · exact { hb with blocks := blocks_grow (hbl ▸ hb.blocks) .varDef }
  · have hw := hb.group g hg
    exact { hb with group := by rintro _ ⟨⟩; exact { hw with } }

/-- A connector declaration takes its arguments from the top list, into the open unit or
the open group. -/
theorem connectorDecl (hb : b.WellFormed) {varName : String}
    (h : (Assembly.connectorDecl varName loc).run b = .ok () b') : b'.WellFormed := by
  obtain ⟨n, connector, names, args, lists, -, hl, hplace⟩ := Assembly.run_connectorDecl_ok h
  obtain ⟨hargs, hlists⟩ := List.forall_mem_cons.1 (hl ▸ hb.exprLists)
  have hd : ∀ ds : List ConnectorDecl, (∀ d ∈ ds, ∀ a ∈ d.args, a.WellFormed) →
      ∀ d ∈ ds ++ [⟨connector, { name := varName }, args, loc⟩], ∀ a ∈ d.args, a.WellFormed :=
    fun _ hds => List.forall_mem_append.2 ⟨hds, List.forall_mem_singleton.2 hargs⟩
  rcases hplace with ⟨u, hu, rfl⟩ | ⟨-, g, hg, rfl⟩
  · have hw := hb.unit u hu
    exact { hb with exprLists := hlists,
                    unit := by rintro _ ⟨⟩; exact { hw with connectorDecls := hd _ hw.connectorDecls } }
  · have hw := hb.group g hg
    exact { hb with exprLists := hlists,
                    group := by rintro _ ⟨⟩; exact { hw with connectorDecls := hd _ hw.connectorDecls } }

theorem startUnit (hb : b.WellFormed) (h : (Assembly.startUnit loc).run b = .ok () b') :
    b'.WellFormed := by
  obtain ⟨-, rfl⟩ := Assembly.run_startUnit_ok h
  exact { hb with unit := by rintro _ ⟨⟩; exact ⟨by simp, by simp⟩ }

theorem endUnitBody (hb : b.WellFormed) (h : (Assembly.endUnitBody loc).run b = .ok () b') :
    b'.WellFormed := by
  obtain ⟨body, blocks, u, hbl, hu, rfl⟩ := Assembly.run_endUnitBody_ok h
  obtain ⟨hbody, hblocks⟩ := List.forall_mem_cons.1 (hbl ▸ hb.blocks)
  have hw := hb.unit u hu
  have hbody' : ∀ blk ∈ some body.finish, blk.WellFormed := by
    rintro _ ⟨⟩
    exact BlockFrame.wellFormed_finish hbody
  exact { hb with blocks := hblocks,
                  unit := by rintro _ ⟨⟩; exact { hw with body := hbody' } }

/-- Finishing a unit leaves a well-formed builder and gives a well-formed unit. -/
theorem finishUnit (hb : b.WellFormed) {kind : UnitKind} {name : String} {isPublic : Bool}
    {u : CallableUnit} (h : (Assembly.finishUnit kind name isPublic loc).run b = .ok u b') :
    b'.WellFormed ∧ u.WellFormed := by
  obtain ⟨frame, anns, lists, hu, -, rfl, rfl⟩ := Assembly.run_finishUnit_ok h
  exact ⟨{ hb with unit := by rintro _ ⟨⟩ }, (hb.unit frame hu).toUnit _ _ _ _ _⟩

theorem topLevelUnit (hb : b.WellFormed) {kind : UnitKind} {name : String} {isPublic : Bool}
    (h : (Assembly.topLevelUnit kind name isPublic loc).run b = .ok () b') :
    b'.WellFormed := by
  obtain ⟨u, b₁, hf, hplace⟩ := Assembly.run_topLevelUnit_ok h
  obtain ⟨hb₁, hu⟩ := hb.finishUnit hf
  have hadd {us : List CallableUnit} (hus : ∀ u ∈ us, u.WellFormed) :
      ∀ u' ∈ us ++ [u], u'.WellFormed :=
    List.forall_mem_append.2 ⟨hus, List.forall_mem_singleton.2 hu⟩
  rcases hplace with ⟨-, rfl⟩ | ⟨-, rfl⟩
  · exact { hb₁ with file := { hb₁.file with typeConverters := hadd hb₁.file.typeConverters } }
  · exact { hb₁ with file := { hb₁.file with functions := hadd hb₁.file.functions } }

theorem groupedUnit (hb : b.WellFormed) {kind : UnitKind} {name : String}
    (h : (Assembly.groupedUnit kind name loc).run b = .ok () b') : b'.WellFormed := by
  obtain ⟨g, u, b₁, hg, hf, rfl⟩ := Assembly.run_groupedUnit_ok h
  obtain ⟨hb₁, hu⟩ := hb.finishUnit hf
  have hw := hb.group g hg
  have hunits : ∀ u' ∈ g.units ++ [u], u'.WellFormed :=
    List.forall_mem_append.2 ⟨hw.units, List.forall_mem_singleton.2 hu⟩
  exact { hb₁ with group := by rintro _ ⟨⟩; exact { hw with units := hunits } }

theorem startGroup (hb : b.WellFormed) (h : (Assembly.startGroup loc).run b = .ok () b') :
    b'.WellFormed := by
  obtain ⟨-, rfl⟩ := Assembly.run_startGroup_ok h
  exact { hb with group := by rintro _ ⟨⟩; exact ⟨by simp, by simp⟩ }

theorem finishGroup (hb : b.WellFormed) {kind : GroupKind} {name : String}
    (h : (Assembly.finishGroup kind name loc).run b = .ok () b') : b'.WellFormed := by
  obtain ⟨frame, anns, lists, -, hg, -, hplace⟩ := Assembly.run_finishGroup_ok h
  have hw := (hb.group frame hg).toGroup kind (.withPackage name b.package) anns loc
  have hadd {gs : List Group} (hgs : ∀ g ∈ gs, g.WellFormed) :
      ∀ g ∈ gs ++ [frame.toGroup kind (.withPackage name b.package) anns loc], g.WellFormed :=
    List.forall_mem_append.2 ⟨hgs, List.forall_mem_singleton.2 hw⟩
  rcases hplace with ⟨-, rfl⟩ | ⟨-, rfl⟩
  · exact { hb with group := by rintro _ ⟨⟩, file := { hb.file with services := hadd hb.file.services } }
  · exact { hb with group := by rintro _ ⟨⟩,
                    file := { hb.file with connectors := hadd hb.file.connectors } }

theorem structDefinition (hb : b.WellFormed) {name : String} {isPublic : Bool}
    (h : (Assembly.structDefinition name isPublic loc).run b = .ok () b') :
    b'.WellFormed := by
  obtain ⟨fields, -, rfl⟩ := Assembly.run_structDefinition_ok h
  exact { hb with file := { hb.file with } }

/-! ## Runs -/

/-- **Every event that succeeds keeps the builder well-formed.** -/
theorem step (hb : b.WellFormed) {s : Step} (h : (Assembly.step loc s).run b = .ok () b') :
    b'.WellFormed := by
  cases s <;> simp only [Assembly.step] at h
  -- the events that touch no expression
  case symbolName name =>
    obtain ⟨-, -, -, rfl⟩ := Assembly.run_symbolName_ok loc h
    exact { hb with }
  case connectorSymbolName connector action =>
    obtain ⟨-, -, -, rfl⟩ := Assembly.run_connectorSymbolName_ok loc h
    exact { hb with }
  case packageName name | type name | arrayType name | registerConnectorType name =>
    simp at h
    subst h
    exact { hb with }
  case packageDecl =>
    obtain ⟨-, -, -, rfl⟩ := Assembly.run_packageDecl_ok h
    exact { hb with file := { hb.file with } }
  case importPackage given =>
    obtain ⟨-, -, -, rfl⟩ := Assembly.run_importPackage_ok h
    exact { hb with file := { hb.file with } }
  case annotationStart =>
    simp [Assembly.annotationStart] at h
    subst h
    exact { hb with }
  case startStruct =>
    obtain ⟨-, rfl⟩ := Assembly.run_startStruct_ok h
    exact { hb with }
  case structField name =>
    obtain ⟨-, -, -, -, -, rfl⟩ := Assembly.run_structField_ok h
    exact { hb with }
  case structDefinition name isPublic => exact hb.structDefinition h
  -- declarations
  case annotationKeyValue key => exact hb.annotationKeyValue h
  case annotationEnd name valueAvailable => exact hb.annotationEnd h
  case param name => exact hb.param h
  case returnTypes => exact hb.returnTypes h
  case namedReturnParam name => exact hb.namedReturnParam h
  case constant name => exact hb.constant h
  case variableDecl name => exact hb.variableDecl h
  case connectorDecl name => exact hb.connectorDecl h
  case startCallableUnit => exact hb.startUnit h
  case startCallableUnitBody => exact hb.openBlock h
  case endCallableUnitBody => exact hb.endUnitBody h
  case function name isPublic => exact hb.topLevelUnit h
  case typeConverter name isPublic => exact hb.topLevelUnit h
  case resource name => exact hb.groupedUnit h
  case action name => exact hb.groupedUnit h
  case startCallableUnitGroup => exact hb.startGroup h
  case service name => exact hb.finishGroup h
  case connector name => exact hb.finishGroup h
  -- expressions
  case startExprList => exact hb.startExprList h
  case endExprList count => exact hb.endExprList h
  case startVarRefList => exact hb.startExprList h
  case endVarRefList count => exact hb.endExprList h
  case startMapInitKeyValue => exact hb.startKeyValueList h
  case endMapInitKeyValue count => exact hb.endKeyValueList h
  case literal kind text => exact hb.literal h
  case varRef name => exact hb.pushExpr (.var ⟨rfl, rfl⟩) h
  case mapArrayVarRef name => exact hb.element h
  case structFieldRef => exact hb.fieldAccess h
  case binaryExpr op => exact hb.binary h
  case unaryExpr op => exact hb.unary h
  case backtickExpr text => exact hb.template h
  case functionInvocationExpr => exact hb.callExpr h
  case actionInvocationExpr => exact hb.callExpr h
  case typeCastExpr => exact hb.cast h
  case instanceCreationExpr typeName argsAvailable => exact hb.instanceCreation h
  case structInitExpr name => exact hb.pushExpr (.structInit ⟨rfl, rfl⟩ rfl) h
  case arrayInitExpr elementsAvailable => exact hb.arrayInit h
  case mapInitKeyValue key => exact hb.keyValue h
  case mapInitExpr entriesAvailable => exact hb.mapInit h
  -- statements
  case assignmentStmt => exact hb.assignment h
  case returnStmt valuesAvailable => exact hb.returnStmt h
  case replyStmt => exact hb.reply h
  case startWhileStmt => exact hb.openBlock h
  case endWhileStmt => exact hb.endWhile h
  case startIfElseStmt => exact hb.startIfElse h
  case startElseIfClause => exact hb.openBlock h
  case endElseIfClause => exact hb.endElseIf h
  case startElseClause => exact hb.openBlock h
  case endElseClause => exact hb.endElse h
  case endIfElseStmt => exact hb.endIfElse h
  case startBlock => exact hb.openBlock h
  case endBlock => exact hb.endBlock h
  case functionInvocationStmt => exact hb.callStmt h
  case actionInvocationStmt => exact hb.callStmt h

/-- A fresh builder, over any registry, holds nothing. -/
theorem withRegistry (r : Registry) : (Builder.withRegistry r).WellFormed where
  exprs := by simp [Builder.withRegistry]
  exprLists := by simp [Builder.withRegistry]
  keyValues := by simp [Builder.withRegistry]
  keyValueLists := by simp [Builder.withRegistry]
  blocks := by simp [Builder.withRegistry]
  ifElses := by simp [Builder.withRegistry]
  unit := by rintro _ ⟨⟩
  group := by rintro _ ⟨⟩
  file := ⟨by simp [Builder.withRegistry], by simp [Builder.withRegistry],
    by simp [Builder.withRegistry], by simp [Builder.withRegistry], by simp [Builder.withRegistry]⟩

/-- A trimmed builder holds some of the pieces it held and nothing new, so it stays
well-formed. -/
theorem of_trimmed (hb : b.WellFormed) (h : b'.Trimmed b) : b'.WellFormed where
  exprs e he := hb.exprs e (h.piles.exprs.subset he)
  exprLists l hl := hb.exprLists l (h.piles.exprLists.subset hl)
  keyValues e he := hb.keyValues e (h.piles.keyValues.subset he)
  keyValueLists l hl := hb.keyValueLists l (h.piles.keyValueLists.subset hl)
  blocks f hf := hb.blocks f (h.piles.blocks.subset hf)
  ifElses f hf := hb.ifElses f (h.piles.ifElses.subset hf)
  unit u hu := by
    rcases h.unit with heq | hnone
    · exact hb.unit u (heq ▸ hu)
    · rw [hnone] at hu
      cases hu
  group g hg := by
    rcases h.group with heq | hnone
    · exact hb.group g (heq ▸ hg)
    · rw [hnone] at hg
      cases hg
  file := h.file ▸ hb.file

/-- Applying an event keeps the builder well-formed: a refused event leaves it as it was,
and a failing one leaves it trimmed. -/
theorem apply (hb : b.WellFormed) (e : Event) : (b.apply e).1.WellFormed := by
  cases ha : b.aborted
  · rcases hr : (Assembly.step e.loc e.step).run b with ⟨⟨⟩, b'⟩ | ⟨d, b'⟩
    · rw [apply_of_run_ok ha hr]
      exact hb.step hr
    · -- the abort flag is no piece, so only the trimming matters
      rw [apply_of_run_error ha hr]
      exact { hb.of_trimmed (Assembly.failsTrimmed_step e.step b d b' hr) with }
  · rw [apply_of_aborted ha]
    exact hb

/-- **Every run keeps the builder well-formed.** -/
theorem applyAll (hb : b.WellFormed) (es : List Event) : (b.applyAll es).1.WellFormed := by
  induction es generalizing b with
  | nil => exact hb
  | cons e es ih =>
    rw [applyAll_cons_fst]
    exact ih (hb.apply e)

end Builder.WellFormed

/-- **Every tree the builder hands out is well-formed, whatever the events.**  For every
registry and every list of events, well nested or not, whose replay hands out a
compilation unit, every expression, statement and block of that unit is well-formed. -/
theorem replay_wellFormed (r : Registry) (es : List Event) {u : CompilationUnit}
    {reg : Registry} (h : (Replay.run r es).result = .ok (u, reg)) : u.WellFormed := by
  obtain ⟨-, -, -, -, -, rfl, -⟩ := Builder.finish_eq_ok h
  exact ((Builder.WellFormed.withRegistry r).applyAll es).file

/-- A function whose body returns the field chain `a.b` builds, and its tree is
well-formed. -/
theorem replay_wellFormed_fieldReturn :
    ∃ u reg, (Replay.run .fresh
      [⟨.startCallableUnit, ⟨"m", 1⟩⟩, ⟨.startCallableUnitBody, ⟨"m", 1⟩⟩,
       ⟨.startExprList, ⟨"m", 2⟩⟩, ⟨.varRef "a", ⟨"m", 2⟩⟩, ⟨.varRef "b", ⟨"m", 2⟩⟩,
       ⟨.structFieldRef, ⟨"m", 2⟩⟩, ⟨.endExprList 1, ⟨"m", 2⟩⟩, ⟨.returnStmt true, ⟨"m", 2⟩⟩,
       ⟨.endCallableUnitBody, ⟨"m", 3⟩⟩, ⟨.function "f" true, ⟨"m", 1⟩⟩]).result =
        .ok (u, reg) ∧ u.WellFormed := by
  refine ⟨?u, ?reg, ?built, replay_wellFormed _ _ ?built⟩
  case built => rfl

end TreeAssembly
