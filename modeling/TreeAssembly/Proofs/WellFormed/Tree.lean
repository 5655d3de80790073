import TreeAssembly.Proofs.Steps.Decl
import TreeAssembly.Proofs.LiteralText

/-!
# Well-formed trees

The shape that every tree handed out by the builder has, node by node, whatever order its
events came in.  It is stated as inductive predicates that follow the tree types:

* literals, casts, instance creations and struct initialisers carry the type the builder
  knows for them: the literal's own type, the cast's target, a type that is not a struct,
  and the struct of the initialiser's name;
* plain variables and struct initialisers name bare identifiers, with neither a package
  nor a connector qualifier;
* an element access has as its base the plain variable it names, at the access's own
  location;
* a field link is named after the variable its reference refers to, its reference is a
  reference expression (a variable, an element or a field link), and the field that
  follows it, if any, is a field link again.  A link with no field of its own is the last
  link of a chain and stands only as the field of another link: in any other position a
  field link has a field (`Expr.WellFormed` against `Expr.Link`);
* key-value pairs stand only as the entries of map initialisers, and every entry is one
  (`Expr.Entry`);
* a template's text holds no backtick;
* a conditional has its primary branch first, located where the conditional is, and each
  `else if` branch located where its block was opened (`Branch.ElseIf`).

A compilation unit is well-formed when every expression and statement in it is: constant
values, the bodies and connector declarations of functions, type converters and of the
units of every service and connector.

## Main statements

* `Expr.WellFormed.link`: a well-formed field link may follow another link.
* `backtick_notMem_of_templateText`: the text of a template token holds no backtick.
* `UnitFrame.WellFormed.toUnit`, `GroupFrame.WellFormed.toGroup`: well-formed frames
  finish as well-formed units and groups; stamping a connector's name on its actions
  changes no expression.
-/

namespace TreeAssembly

/-- A name with neither a package nor a connector qualifier. -/
def SymbolName.Unqualified (s : SymbolName) : Prop :=
  s.pkgPath = none ∧ s.connectorName = none

mutual

/-- **A well-formed expression**, in any position where an expression may stand: an
operand, an argument, a value, a condition or the reference of a field link. -/
inductive Expr.WellFormed : Expr → Prop
  | lit {v : Literal} {loc : Location} (typed : (Expr.lit v loc).ty = some v.ty) :
      Expr.WellFormed (.lit v loc)
  | var {name : SymbolName} {loc : Location} (unqualified : name.Unqualified) :
      Expr.WellFormed (.var name loc)
  | element {name : SymbolName} {index : Expr} {loc : Location}
      (unqualified : name.Unqualified) (index_wf : Expr.WellFormed index) :
      Expr.WellFormed (.element name (.var name loc) index loc)
  | field {name : SymbolName} {reference next : Expr} {loc : Location}
      (named : reference.referenceName = some name)
      (reference_wf : Expr.WellFormed reference) (next_wf : Expr.Link next) :
      Expr.WellFormed (.field name reference (some next) loc)
  | binary {op : BinaryOp} {lhs rhs : Expr} {loc : Location}
      (lhs_wf : Expr.WellFormed lhs) (rhs_wf : Expr.WellFormed rhs) :
      Expr.WellFormed (.binary op lhs rhs loc)
  | unary {op : UnaryOp} {operand : Expr} {loc : Location}
      (operand_wf : Expr.WellFormed operand) : Expr.WellFormed (.unary op operand loc)
  | call {kind : CallKind} {name : SymbolName} {args : List Expr} {loc : Location}
      (args_wf : ∀ a ∈ args, Expr.WellFormed a) : Expr.WellFormed (.call kind name args loc)
  | construct {t : ValueType} {loc : Location} (typed : (Expr.construct t loc).ty = some t)
      (not_struct : t.isStruct = false) : Expr.WellFormed (.construct t loc)
  | structInit {name : SymbolName} {loc : Location} (unqualified : name.Unqualified)
      (typed : (Expr.structInit name loc).ty = some (.struct name.name)) :
      Expr.WellFormed (.structInit name loc)
  | arrayInit {elements : List Expr} {loc : Location}
      (elements_wf : ∀ e ∈ elements, Expr.WellFormed e) :
      Expr.WellFormed (.arrayInit elements loc)
  | mapInit {entries : List Expr} {loc : Location} (entries_wf : ∀ e ∈ entries, Expr.Entry e) :
      Expr.WellFormed (.mapInit entries loc)
  | cast {t : ValueType} {operand : Expr} {loc : Location}
      (typed : (Expr.cast t operand loc).ty = some t) (operand_wf : Expr.WellFormed operand) :
      Expr.WellFormed (.cast t operand loc)
  | template {text : String} {loc : Location} (no_backtick : backtick ∉ text.toList) :
      Expr.WellFormed (.template text loc)

/-- A well-formed field link in the place of the field that follows another link; the
last link of a chain has no field of its own. -/
inductive Expr.Link : Expr → Prop
  | last {name : SymbolName} {reference : Expr} {loc : Location}
      (named : reference.referenceName = some name)
      (reference_wf : Expr.WellFormed reference) :
      Expr.Link (.field name reference none loc)
  | more {name : SymbolName} {reference next : Expr} {loc : Location}
      (named : reference.referenceName = some name)
      (reference_wf : Expr.WellFormed reference) (next_wf : Expr.Link next) :
      Expr.Link (.field name reference (some next) loc)

/-- A well-formed entry of a map initialiser: a key-value pair. -/
inductive Expr.Entry : Expr → Prop
  | keyValue {key : String} {value : Expr} {loc : Location} (value_wf : Expr.WellFormed value) :
      Expr.Entry (.keyValue key value loc)

end

mutual

/-- **A well-formed statement**: its expressions and blocks are well-formed, and a
conditional has its primary branch first, at the conditional's own location. -/
inductive Stmt.WellFormed : Stmt → Prop
  | varDef {decl : VariableDecl} {loc : Location} : Stmt.WellFormed (.varDef decl loc)
  | assign {targets : List Expr} {value : Expr} {loc : Location}
      (targets_wf : ∀ t ∈ targets, t.WellFormed) (value_wf : value.WellFormed) :
      Stmt.WellFormed (.assign targets value loc)
  | ret {values : List Expr} {loc : Location} (values_wf : ∀ v ∈ values, v.WellFormed) :
      Stmt.WellFormed (.ret values loc)
  | reply {value : Expr} {loc : Location} (value_wf : value.WellFormed) :
      Stmt.WellFormed (.reply value loc)
  | loop {condition : Expr} {body : Block} {loc : Location}
      (condition_wf : condition.WellFormed) (body_wf : Block.WellFormed body) :
      Stmt.WellFormed (.loop condition body loc)
  | ifElse {condition : Expr} {body : Block} {elseIfs : List Branch} {elseBody : Option Block}
      {loc : Location} (condition_wf : condition.WellFormed) (body_wf : Block.WellFormed body)
      (elseIfs_wf : ∀ br ∈ elseIfs, Branch.ElseIf br)
      (elseBody_wf : ∀ blk ∈ elseBody, Block.WellFormed blk) :
      Stmt.WellFormed (.ifElse (.mk condition body loc :: elseIfs) elseBody loc)
  | block {body : Block} {loc : Location} (body_wf : Block.WellFormed body) :
      Stmt.WellFormed (.block body loc)
  | call {kind : CallKind} {name : SymbolName} {args : List Expr} {loc : Location}
      (args_wf : ∀ a ∈ args, a.WellFormed) : Stmt.WellFormed (.call kind name args loc)

/-- A well-formed block: its statements are. -/
inductive Block.WellFormed : Block → Prop
  | mk {statements : List Stmt} {loc : Location}
      (statements_wf : ∀ s ∈ statements, Stmt.WellFormed s) :
      Block.WellFormed (.mk statements loc)

/-- A well-formed `else if` branch, located where its block was opened. -/
inductive Branch.ElseIf : Branch → Prop
  | mk {condition : Expr} {statements : List Stmt} {loc : Location}
      (condition_wf : condition.WellFormed) (body_wf : Block.WellFormed (.mk statements loc)) :
      Branch.ElseIf (.mk condition (.mk statements loc) loc)

end

/-- A callable unit whose connector declarations and body are well-formed. -/
structure CallableUnit.WellFormed (u : CallableUnit) : Prop where
  connectorDecls : ∀ d ∈ u.connectorDecls, ∀ a ∈ d.args, a.WellFormed
  body : u.body.WellFormed

/-- A service or connector whose connector declarations and units are well-formed. -/
structure Group.WellFormed (g : Group) : Prop where
  connectorDecls : ∀ d ∈ g.connectorDecls, ∀ a ∈ d.args, a.WellFormed
  units : ∀ u ∈ g.units, u.WellFormed

/-- **A well-formed compilation unit**: every expression and statement in it is. -/
structure CompilationUnit.WellFormed (f : CompilationUnit) : Prop where
  consts : ∀ c ∈ f.consts, c.value.WellFormed
  functions : ∀ u ∈ f.functions, u.WellFormed
  typeConverters : ∀ u ∈ f.typeConverters, u.WellFormed
  services : ∀ g ∈ f.services, g.WellFormed
  connectors : ∀ g ∈ f.connectors, g.WellFormed

/-- An open conditional whose `else if` branches and `else` block are well-formed. -/
structure IfFrame.WellFormed (f : IfFrame) : Prop where
  elseIfs : ∀ br ∈ f.elseIfs, br.ElseIf
  elseBody : ∀ blk ∈ f.elseBody, blk.WellFormed

/-- An open unit whose connector declarations and body, if closed, are well-formed. -/
structure UnitFrame.WellFormed (u : UnitFrame) : Prop where
  connectorDecls : ∀ d ∈ u.connectorDecls, ∀ a ∈ d.args, a.WellFormed
  body : ∀ blk ∈ u.body, blk.WellFormed

/-- An open group whose connector declarations and finished units are well-formed. -/
structure GroupFrame.WellFormed (g : GroupFrame) : Prop where
  connectorDecls : ∀ d ∈ g.connectorDecls, ∀ a ∈ d.args, a.WellFormed
  units : ∀ u ∈ g.units, u.WellFormed

/-! ## Field links and templates -/

/-- A well-formed field link, which has a field of its own, may also follow another
link. -/
theorem Expr.WellFormed.link {e : Expr} (h : e.WellFormed) (hf : e.isField) : e.Link := by
  cases h with
  | field hn hr hl => exact .more hn hr hl
  | _ => simp [Expr.isField] at hf

/-- The text of a template stops before the closing backtick, so it holds none. -/
theorem backtick_notMem_of_templateText {token text : String}
    (h : templateText token = some text) : backtick ∉ text.toList := by
  obtain ⟨-, -, -, -, ht⟩ := templateText_eq_some_iff.1 h
  exact ht

/-! ## Finished units and groups -/

/-- A block frame whose statements are well-formed finishes as a well-formed block. -/
theorem BlockFrame.wellFormed_finish {f : BlockFrame} (h : ∀ s ∈ f.statements, s.WellFormed) :
    f.finish.WellFormed := .mk h

/-- A well-formed frame finishes as a well-formed unit; a unit without a body gets the
empty block. -/
theorem UnitFrame.WellFormed.toUnit {frame : UnitFrame} (hw : frame.WellFormed)
    (kind : UnitKind) (name : SymbolName) (isPublic : Bool) (annotations : List Annotation)
    (loc : Location) : (frame.toUnit kind name isPublic annotations loc).WellFormed := by
  refine ⟨hw.connectorDecls, ?_⟩
  show (frame.body.getD (.empty frame.loc)).WellFormed
  rcases hbody : frame.body with _ | body
  · exact .mk (by simp)
  · exact hw.body body hbody

/-- Stamping a connector's name on an action changes only its name. -/
theorem CallableUnit.WellFormed.stampAction {u : CallableUnit} (hw : u.WellFormed)
    (c : String) : (Assembly.stampAction c u).WellFormed := by
  unfold Assembly.stampAction
  split
  · exact { hw with }
  · exact hw

/-- A well-formed frame finishes as a well-formed group. -/
theorem GroupFrame.WellFormed.toGroup {frame : GroupFrame} (hw : frame.WellFormed)
    (kind : GroupKind) (name : SymbolName) (annotations : List Annotation) (loc : Location) :
    (frame.toGroup kind name annotations loc).WellFormed := by
  refine ⟨hw.connectorDecls, ?_⟩
  cases kind
  · exact hw.units
  · intro x hx
    obtain ⟨u, hu, rfl⟩ := List.mem_map.1 hx
    exact (hw.units u hu).stampAction _

end TreeAssembly
