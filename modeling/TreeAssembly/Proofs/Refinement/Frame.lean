import Mathlib.Logic.Relation
import TreeAssembly.Proofs.Refinement.Stmt

/-!
# The frame law of expressions and statements

`Refinement.Expr` and `Refinement.Stmt` show that the events of a derivation run as the
reference construction builds, in continuation form, and that they fail with its error when
it fails.  This file closes the other half: for the derivations the grammar accepts, the
reference construction does not fail, so the events run through and change nothing but what
the construct is for.

An expression pushes its node and leaves every other pile, slot and the file as they were;
a statement appends itself to the innermost open block.  The two things they may also
change are the ambient: the registry, where a type cast or a declaration to an array type
remembers that array type, and the warnings, which a constructor call with arguments
extends.  `Ambient.Extends` says exactly this, and it composes along the derivation because
memoizing is a reflexive-transitive closure and warnings only grow.

A derivation is accepted when its leaves read: literal tokens the literal reader accepts,
operator symbols that are supported, template tokens with their backticks, and field
accesses between references.  That is all the reference construction checks.

## Main statements

* `ExprD.succeeds`, `StmtD.succeeds`: the reference construction of an accepted derivation
  succeeds from every ambient and only extends it.
* `ExprD.exec_events`, `StmtD.exec_events`: the events of an accepted derivation run through.
* `derivations_frame_law`: every event succeeds, and the builder changes exactly as said.
-/

namespace TreeAssembly

/-! ## What a construct may do to the ambient -/

/-- One array type remembered. -/
def Registry.MemoStep (r r' : Registry) : Prop := ∃ element, r' = (r.arrayOf element).2

/-- `r'` is `r` with array types remembered, one after the other. -/
def Registry.Memoizes : Registry → Registry → Prop := Relation.ReflTransGen Registry.MemoStep

/-- The ambient `a'` extends `a`: its registry only remembers more array types, and its
warnings continue those of `a`. -/
structure Ambient.Extends (a a' : Ambient) : Prop where
  registry : a.registry.Memoizes a'.registry
  warnings : a.warnings <+: a'.warnings

namespace Ambient.Extends

theorem refl (a : Ambient) : a.Extends a := ⟨.refl, List.prefix_refl _⟩

theorem trans {a₁ a₂ a₃ : Ambient} (h₁ : a₁.Extends a₂) (h₂ : a₂.Extends a₃) : a₁.Extends a₃ :=
  ⟨h₁.registry.trans h₂.registry, h₁.warnings.trans h₂.warnings⟩

end Ambient.Extends

theorem Ambient.extends_warn (a : Ambient) (loc : Location) (typeName : String) (count : Nat) :
    a.Extends (a.warn loc typeName count) := by
  unfold Ambient.warn
  split
  · exact .refl a
  · exact ⟨.refl, List.prefix_append _ _⟩

/-- A type name resolves without a change; an array type may be remembered. -/
theorem TypeD.extends_eval (a : Ambient) (t : TypeD) : a.Extends (t.eval a).2 := by
  cases t with
  | named name loc => exact .refl a
  | array element loc => exact ⟨.single ⟨element, rfl⟩, List.prefix_refl _⟩

theorem DeclD.extends_eval (a : Ambient) (d : DeclD) : a.Extends (d.eval a).2 :=
  TypeD.extends_eval a d.ty

/-! ## The accepted derivations -/

/-- Derivations whose node is a reference, the only nodes that have fields: a variable, an
element and a field access. -/
def ExprD.isReference : ExprD → Bool
  | .var .. | .element .. | .field .. => true
  | _ => false

mutual

/-- An expression derivation whose leaves read: literal tokens the literal reader accepts,
supported operator symbols, template tokens with their backticks, and field accesses
between references. -/
def ExprD.accepted : ExprD → Bool
  | .literal kind text loc => (Literal.read kind text loc).isOk
  | .var .. => true
  | .element _ index _ => index.accepted
  | .field reference member _ =>
    reference.isReference && member.isReference && reference.accepted && member.accepted
  | .binary op lhs rhs _ => (BinaryOp.ofSymbol? op).isSome && lhs.accepted && rhs.accepted
  | .unary op operand _ => (UnaryOp.ofSymbol? op).isSome && operand.accepted
  | .template token _ => (templateText token).isSome
  | .call _ _ _ args _ _ => ExprD.listAccepted args
  | .cast _ operand _ => operand.accepted
  | .construct .. => true
  | .constructWith _ _ args _ _ => ExprD.listAccepted args
  | .structInit .. => true
  | .arrayInit _ => true
  | .arrayOf _ elements _ _ => ExprD.listAccepted elements
  | .mapInit _ => true
  | .mapOf _ entries _ _ => EntryD.listAccepted entries

def ExprD.listAccepted : List ExprD → Bool
  | [] => true
  | e :: es => e.accepted && ExprD.listAccepted es

def EntryD.accepted : EntryD → Bool
  | .mk value _ _ => value.accepted

def EntryD.listAccepted : List EntryD → Bool
  | [] => true
  | d :: ds => d.accepted && EntryD.listAccepted ds

end

mutual

/-- A statement derivation all of whose expressions are accepted. -/
def StmtD.accepted : StmtD → Bool
  | .varDef _ => true
  | .assign _ targets _ value _ => ExprD.listAccepted targets && value.accepted
  | .ret _ => true
  | .retOf _ values _ _ => ExprD.listAccepted values
  | .reply value _ => value.accepted
  | .loop _ condition body _ => condition.accepted && StmtD.listAccepted body
  | .ifElse _ condition body clauses elseClause _ =>
    condition.accepted && StmtD.listAccepted body && ClauseD.listAccepted clauses &&
      ElseD.optAccepted elseClause
  | .block _ body _ => StmtD.listAccepted body
  | .call _ _ _ args _ _ => ExprD.listAccepted args

def StmtD.listAccepted : List StmtD → Bool
  | [] => true
  | s :: ss => s.accepted && StmtD.listAccepted ss

def ClauseD.accepted : ClauseD → Bool
  | .mk _ condition body _ => condition.accepted && StmtD.listAccepted body

def ClauseD.listAccepted : List ClauseD → Bool
  | [] => true
  | c :: cs => c.accepted && ClauseD.listAccepted cs

def ElseD.optAccepted : Option ElseD → Bool
  | none => true
  | some (.mk _ body _) => StmtD.listAccepted body

end

/-! ## The reference construction succeeds on accepted derivations -/

/-- The reference construction of `e` succeeds from every ambient, and only extends it. -/
def ExprD.Succeeds (e : ExprD) : Prop := ∀ a, ∃ x a', e.eval a = .ok (x, a') ∧ a.Extends a'

def ExprD.ListSucceeds (es : List ExprD) : Prop :=
  ∀ a, ∃ xs a', ExprD.evalList a es = .ok (xs, a') ∧ a.Extends a'

def EntryD.Succeeds (d : EntryD) : Prop := ∀ a, ∃ x a', d.eval a = .ok (x, a') ∧ a.Extends a'

def EntryD.ListSucceeds (ds : List EntryD) : Prop :=
  ∀ a, ∃ xs a', EntryD.evalList a ds = .ok (xs, a') ∧ a.Extends a'

/-- A field link on a reference succeeds, and makes a reference. -/
theorem Expr.linkField_of_referenceName {r : Expr} {name : SymbolName}
    (h : r.referenceName = some name) (next : Option Expr) (loc : Location) :
    r.linkField next loc = .ok (.field name r next loc) := by
  simp [Expr.linkField, h]

/-- The node of a reference derivation is a reference. -/
theorem ExprD.referenceName_eval {e : ExprD} (he : e.isReference = true) {a a' : Ambient}
    {x : Expr} (h : e.eval a = .ok (x, a')) : ∃ name, x.referenceName = some name := by
  cases e <;> simp only [ExprD.isReference, Bool.false_eq_true] at he
  case var name loc =>
    simp only [ExprD.eval, except_pure, Except.ok.injEq, Prod.mk.injEq] at h
    exact ⟨_, by rw [← h.1]; rfl⟩
  case element name index loc =>
    rcases hi : index.eval a with err | ⟨i, a₁⟩ <;> simp [hi] at h
    exact ⟨_, by rw [← h.1]; rfl⟩
  case field reference member loc =>
    -- whatever the operands, the node is the field link made last
    simp only [ExprD.eval] at h
    rcases hr : reference.eval a with err | ⟨r, a₁⟩ <;> simp only [hr, error_bind, ok_bind] at h
    · cases h
    rcases hm : member.eval a₁ with err | ⟨m, a₂⟩ <;> simp only [hm, error_bind, ok_bind] at h
    · cases h
    rcases hrn : r.referenceName with _ | rn <;> rcases hmf : m.isField <;>
      rcases hmn : m.referenceName with _ | mn <;> simp [hrn, hmf, hmn, Expr.linkField] at h
    all_goals exact ⟨rn, by rw [← h.1]; rfl⟩

section Nodes

variable {loc start stop : Location}

theorem succeeds_literal {kind : LiteralKind} {text : String}
    (h : (Literal.read kind text loc).isOk = true) : (ExprD.literal kind text loc).Succeeds := by
  intro a
  rcases hv : Literal.read kind text loc with d | v
  · simp [hv, Except.isOk, Except.toBool] at h
  · simpa [hv, and_assoc] using Ambient.Extends.refl a

theorem succeeds_element {name : String} {index : ExprD} (hi : index.Succeeds) :
    (ExprD.element name index loc).Succeeds := by
  intro a
  obtain ⟨i, a₁, hx, ha⟩ := hi a
  simpa [hx, and_assoc] using ha

theorem succeeds_field {reference member : ExprD} (hrr : reference.isReference = true)
    (hmr : member.isReference = true) (hr : reference.Succeeds) (hm : member.Succeeds) :
    (ExprD.field reference member loc).Succeeds := by
  intro a
  obtain ⟨r, a₁, hx, ha₁⟩ := hr a
  obtain ⟨m, a₂, hy, ha₂⟩ := hm a₁
  obtain ⟨rn, hrn⟩ := ExprD.referenceName_eval hrr hx
  obtain ⟨mn, hmn⟩ := ExprD.referenceName_eval hmr hy
  -- the member is linked unless it is a field link already; both links then succeed
  rcases hmf : m.isField
  · simpa [hx, hy, hmf, Expr.linkField_of_referenceName hrn,
      Expr.linkField_of_referenceName hmn, and_assoc] using ha₁.trans ha₂
  · simpa [hx, hy, hmf, Expr.linkField_of_referenceName hrn, and_assoc] using ha₁.trans ha₂

theorem succeeds_binary {op : String} {lhs rhs : ExprD}
    (ho : (BinaryOp.ofSymbol? op).isSome = true) (hl : lhs.Succeeds) (hr : rhs.Succeeds) :
    (ExprD.binary op lhs rhs loc).Succeeds := by
  intro a
  obtain ⟨o, ho⟩ := Option.isSome_iff_exists.mp ho
  obtain ⟨l, a₁, hx, ha₁⟩ := hl a
  obtain ⟨r, a₂, hy, ha₂⟩ := hr a₁
  simpa [hx, hy, ho, and_assoc] using ha₁.trans ha₂

theorem succeeds_unary {op : String} {operand : ExprD}
    (ho : (UnaryOp.ofSymbol? op).isSome = true) (hx : operand.Succeeds) :
    (ExprD.unary op operand loc).Succeeds := by
  intro a
  obtain ⟨o, ho⟩ := Option.isSome_iff_exists.mp ho
  obtain ⟨x, a₁, hx, ha₁⟩ := hx a
  simpa [hx, ho, and_assoc] using ha₁

theorem succeeds_template {token : String} (ht : (templateText token).isSome = true) :
    (ExprD.template token loc).Succeeds := by
  intro a
  obtain ⟨text, ht⟩ := Option.isSome_iff_exists.mp ht
  simpa [ht, and_assoc] using Ambient.Extends.refl a

theorem succeeds_call {kind : CallKind} {callee : NameD} {args : List ExprD}
    (ha : ExprD.ListSucceeds args) : (ExprD.call kind callee start args stop loc).Succeeds := by
  intro a
  obtain ⟨xs, a₁, hxs, ha₁⟩ := ha a
  simpa [hxs, and_assoc] using ha₁

theorem succeeds_cast {target : TypeD} {operand : ExprD} (hx : operand.Succeeds) :
    (ExprD.cast target operand loc).Succeeds := by
  intro a
  obtain ⟨x, a₁, hx, ha₁⟩ := hx (target.eval a).2
  simpa [hx, and_assoc] using (TypeD.extends_eval a target).trans ha₁

theorem succeeds_constructWith {typeName : String} {args : List ExprD}
    (ha : ExprD.ListSucceeds args) :
    (ExprD.constructWith typeName start args stop loc).Succeeds := by
  intro a
  obtain ⟨xs, a₁, hxs, ha₁⟩ := ha a
  simpa [hxs, and_assoc] using ha₁.trans (Ambient.extends_warn a₁ loc typeName xs.length)

theorem succeeds_arrayOf {elements : List ExprD} (he : ExprD.ListSucceeds elements) :
    (ExprD.arrayOf start elements stop loc).Succeeds := by
  intro a
  obtain ⟨xs, a₁, hxs, ha₁⟩ := he a
  simpa [hxs, and_assoc] using ha₁

theorem succeeds_mapOf {entries : List EntryD} (he : EntryD.ListSucceeds entries) :
    (ExprD.mapOf start entries stop loc).Succeeds := by
  intro a
  obtain ⟨kvs, a₁, hkvs, ha₁⟩ := he a
  simpa [hkvs, and_assoc] using ha₁

theorem succeeds_entry {value : ExprD} {key : String} (hv : value.Succeeds) :
    (EntryD.mk value key loc).Succeeds := by
  intro a
  obtain ⟨v, a₁, hv, ha₁⟩ := hv a
  simpa [hv, and_assoc] using ha₁

theorem ExprD.listSucceeds_nil : ExprD.ListSucceeds [] := fun a => ⟨[], a, rfl, .refl a⟩

theorem ExprD.listSucceeds_cons {e : ExprD} {es : List ExprD} (he : e.Succeeds)
    (hes : ExprD.ListSucceeds es) : ExprD.ListSucceeds (e :: es) := by
  intro a
  obtain ⟨x, a₁, hx, ha₁⟩ := he a
  obtain ⟨xs, a₂, hxs, ha₂⟩ := hes a₁
  simpa [hx, hxs, and_assoc] using ha₁.trans ha₂

theorem EntryD.listSucceeds_nil : EntryD.ListSucceeds [] := fun a => ⟨[], a, rfl, .refl a⟩

theorem EntryD.listSucceeds_cons {d : EntryD} {ds : List EntryD} (hd : d.Succeeds)
    (hds : EntryD.ListSucceeds ds) : EntryD.ListSucceeds (d :: ds) := by
  intro a
  obtain ⟨x, a₁, hx, ha₁⟩ := hd a
  obtain ⟨xs, a₂, hxs, ha₂⟩ := hds a₁
  simpa [hx, hxs, and_assoc] using ha₁.trans ha₂

end Nodes

mutual

/-- **The reference construction of an accepted expression succeeds**, and only extends
the ambient. -/
theorem ExprD.succeeds : (e : ExprD) → e.accepted = true → e.Succeeds
  | .literal .., h => succeeds_literal h
  | .var .., _ => fun a => ⟨_, a, rfl, .refl a⟩
  | .element _ index _, h => succeeds_element (ExprD.succeeds index h)
  | .field reference member _, h => by
    simp only [ExprD.accepted, Bool.and_eq_true] at h
    obtain ⟨⟨⟨hrr, hmr⟩, hr⟩, hm⟩ := h
    exact succeeds_field hrr hmr (ExprD.succeeds reference hr) (ExprD.succeeds member hm)
  | .binary _ lhs rhs _, h => by
    simp only [ExprD.accepted, Bool.and_eq_true] at h
    exact succeeds_binary h.1.1 (ExprD.succeeds lhs h.1.2) (ExprD.succeeds rhs h.2)
  | .unary _ operand _, h => by
    simp only [ExprD.accepted, Bool.and_eq_true] at h
    exact succeeds_unary h.1 (ExprD.succeeds operand h.2)
  | .template .., h => succeeds_template h
  | .call _ _ _ args _ _, h => succeeds_call (ExprD.listSucceeds args h)
  | .cast _ operand _, h => succeeds_cast (ExprD.succeeds operand h)
  | .construct .., _ => fun a => ⟨_, a, rfl, .refl a⟩
  | .constructWith _ _ args _ _, h => succeeds_constructWith (ExprD.listSucceeds args h)
  | .structInit .., _ => fun a => ⟨_, a, rfl, .refl a⟩
  | .arrayInit _, _ => fun a => ⟨_, a, rfl, .refl a⟩
  | .arrayOf _ elements _ _, h => succeeds_arrayOf (ExprD.listSucceeds elements h)
  | .mapInit _, _ => fun a => ⟨_, a, rfl, .refl a⟩
  | .mapOf _ entries _ _, h => succeeds_mapOf (EntryD.listSucceeds entries h)

theorem ExprD.listSucceeds : (es : List ExprD) → ExprD.listAccepted es = true →
    ExprD.ListSucceeds es
  | [], _ => ExprD.listSucceeds_nil
  | e :: es, h => by
    simp only [ExprD.listAccepted, Bool.and_eq_true] at h
    exact ExprD.listSucceeds_cons (ExprD.succeeds e h.1) (ExprD.listSucceeds es h.2)

theorem EntryD.succeeds : (d : EntryD) → d.accepted = true → d.Succeeds
  | .mk value _ _, h => succeeds_entry (ExprD.succeeds value h)

theorem EntryD.listSucceeds : (ds : List EntryD) → EntryD.listAccepted ds = true →
    EntryD.ListSucceeds ds
  | [], _ => EntryD.listSucceeds_nil
  | d :: ds, h => by
    simp only [EntryD.listAccepted, Bool.and_eq_true] at h
    exact EntryD.listSucceeds_cons (EntryD.succeeds d h.1) (EntryD.listSucceeds ds h.2)

end

/-! ## Statements -/

/-- The reference construction of `s` succeeds from every ambient, and only extends it. -/
def StmtD.Succeeds (s : StmtD) : Prop := ∀ a, ∃ x a', s.eval a = .ok (x, a') ∧ a.Extends a'

def StmtD.ListSucceeds (ss : List StmtD) : Prop :=
  ∀ a, ∃ xs a', StmtD.evalList a ss = .ok (xs, a') ∧ a.Extends a'

def ClauseD.Succeeds (c : ClauseD) : Prop := ∀ a, ∃ x a', c.eval a = .ok (x, a') ∧ a.Extends a'

def ClauseD.ListSucceeds (cs : List ClauseD) : Prop :=
  ∀ a, ∃ xs a', ClauseD.evalList a cs = .ok (xs, a') ∧ a.Extends a'

def ElseD.OptSucceeds (o : Option ElseD) : Prop :=
  ∀ a, ∃ x a', ElseD.evalOpt a o = .ok (x, a') ∧ a.Extends a'

section Nodes

variable {loc start stop : Location}

theorem succeeds_varDef (d : DeclD) : (StmtD.varDef d).Succeeds := by
  intro a
  simpa [and_assoc] using DeclD.extends_eval a d

theorem succeeds_assign {targets : List ExprD} {value : ExprD} (ht : ExprD.ListSucceeds targets)
    (hv : value.Succeeds) : (StmtD.assign start targets stop value loc).Succeeds := by
  intro a
  obtain ⟨ts, a₁, hts, ha₁⟩ := ht a
  obtain ⟨v, a₂, hv, ha₂⟩ := hv a₁
  simpa [hts, hv, and_assoc] using ha₁.trans ha₂

theorem succeeds_retOf {values : List ExprD} (hv : ExprD.ListSucceeds values) :
    (StmtD.retOf start values stop loc).Succeeds := by
  intro a
  obtain ⟨vs, a₁, hvs, ha₁⟩ := hv a
  simpa [hvs, and_assoc] using ha₁

theorem succeeds_reply {value : ExprD} (hv : value.Succeeds) : (StmtD.reply value loc).Succeeds := by
  intro a
  obtain ⟨v, a₁, hv, ha₁⟩ := hv a
  simpa [hv, and_assoc] using ha₁

theorem succeeds_loop {condition : ExprD} {body : List StmtD} (hc : condition.Succeeds)
    (hb : StmtD.ListSucceeds body) : (StmtD.loop start condition body stop).Succeeds := by
  intro a
  obtain ⟨c, a₁, hc, ha₁⟩ := hc a
  obtain ⟨ss, a₂, hss, ha₂⟩ := hb a₁
  simpa [hc, hss, and_assoc] using ha₁.trans ha₂

theorem succeeds_ifElse {condition : ExprD} {body : List StmtD} {clauses : List ClauseD}
    {elseClause : Option ElseD} (hc : condition.Succeeds) (hb : StmtD.ListSucceeds body)
    (hcs : ClauseD.ListSucceeds clauses) (he : ElseD.OptSucceeds elseClause) :
    (StmtD.ifElse start condition body clauses elseClause stop).Succeeds := by
  intro a
  obtain ⟨c, a₁, hc, ha₁⟩ := hc a
  obtain ⟨ss, a₂, hss, ha₂⟩ := hb a₁
  obtain ⟨bs, a₃, hbs, ha₃⟩ := hcs a₂
  obtain ⟨e, a₄, he, ha₄⟩ := he a₃
  simpa [hc, hss, hbs, he, and_assoc] using ha₁.trans (ha₂.trans (ha₃.trans ha₄))

theorem succeeds_block {body : List StmtD} (hb : StmtD.ListSucceeds body) :
    (StmtD.block start body stop).Succeeds := by
  intro a
  obtain ⟨ss, a₁, hss, ha₁⟩ := hb a
  simpa [hss, and_assoc] using ha₁

theorem succeeds_callStmt {kind : CallKind} {callee : NameD} {args : List ExprD}
    (ha : ExprD.ListSucceeds args) : (StmtD.call kind callee start args stop loc).Succeeds := by
  intro a
  obtain ⟨xs, a₁, hxs, ha₁⟩ := ha a
  simpa [hxs, and_assoc] using ha₁

theorem succeeds_clause {condition : ExprD} {body : List StmtD} (hc : condition.Succeeds)
    (hb : StmtD.ListSucceeds body) : (ClauseD.mk start condition body stop).Succeeds := by
  intro a
  obtain ⟨c, a₁, hc, ha₁⟩ := hc a
  obtain ⟨ss, a₂, hss, ha₂⟩ := hb a₁
  simpa [hc, hss, and_assoc] using ha₁.trans ha₂

theorem succeeds_else {body : List StmtD} (hb : StmtD.ListSucceeds body) :
    ElseD.OptSucceeds (some (.mk start body stop)) := by
  intro a
  obtain ⟨ss, a₁, hss, ha₁⟩ := hb a
  simpa [hss, and_assoc] using ha₁

theorem StmtD.listSucceeds_nil : StmtD.ListSucceeds [] := fun a => ⟨[], a, rfl, .refl a⟩

theorem StmtD.listSucceeds_cons {s : StmtD} {ss : List StmtD} (hs : s.Succeeds)
    (hss : StmtD.ListSucceeds ss) : StmtD.ListSucceeds (s :: ss) := by
  intro a
  obtain ⟨x, a₁, hx, ha₁⟩ := hs a
  obtain ⟨xs, a₂, hxs, ha₂⟩ := hss a₁
  simpa [hx, hxs, and_assoc] using ha₁.trans ha₂

theorem ClauseD.listSucceeds_nil : ClauseD.ListSucceeds [] := fun a => ⟨[], a, rfl, .refl a⟩

theorem ClauseD.listSucceeds_cons {c : ClauseD} {cs : List ClauseD} (hc : c.Succeeds)
    (hcs : ClauseD.ListSucceeds cs) : ClauseD.ListSucceeds (c :: cs) := by
  intro a
  obtain ⟨x, a₁, hx, ha₁⟩ := hc a
  obtain ⟨xs, a₂, hxs, ha₂⟩ := hcs a₁
  simpa [hx, hxs, and_assoc] using ha₁.trans ha₂

end Nodes

mutual

/-- **The reference construction of an accepted statement succeeds**, and only extends the
ambient. -/
theorem StmtD.succeeds : (s : StmtD) → s.accepted = true → s.Succeeds
  | .varDef d, _ => succeeds_varDef d
  | .assign _ targets _ value _, h => by
    simp only [StmtD.accepted, Bool.and_eq_true] at h
    exact succeeds_assign (ExprD.listSucceeds targets h.1) (ExprD.succeeds value h.2)
  | .ret _, _ => fun a => ⟨_, a, rfl, .refl a⟩
  | .retOf _ values _ _, h => succeeds_retOf (ExprD.listSucceeds values h)
  | .reply value _, h => succeeds_reply (ExprD.succeeds value h)
  | .loop _ condition body _, h => by
    simp only [StmtD.accepted, Bool.and_eq_true] at h
    exact succeeds_loop (ExprD.succeeds condition h.1) (StmtD.listSucceeds body h.2)
  | .ifElse _ condition body clauses elseClause _, h => by
    simp only [StmtD.accepted, Bool.and_eq_true] at h
    obtain ⟨⟨⟨hc, hb⟩, hcs⟩, he⟩ := h
    exact succeeds_ifElse (ExprD.succeeds condition hc) (StmtD.listSucceeds body hb)
      (ClauseD.listSucceeds clauses hcs) (ElseD.optSucceeds elseClause he)
  | .block _ body _, h => succeeds_block (StmtD.listSucceeds body h)
  | .call _ _ _ args _ _, h => succeeds_callStmt (ExprD.listSucceeds args h)

theorem StmtD.listSucceeds : (ss : List StmtD) → StmtD.listAccepted ss = true →
    StmtD.ListSucceeds ss
  | [], _ => StmtD.listSucceeds_nil
  | s :: ss, h => by
    simp only [StmtD.listAccepted, Bool.and_eq_true] at h
    exact StmtD.listSucceeds_cons (StmtD.succeeds s h.1) (StmtD.listSucceeds ss h.2)

theorem ClauseD.succeeds : (c : ClauseD) → c.accepted = true → c.Succeeds
  | .mk _ condition body _, h => by
    simp only [ClauseD.accepted, Bool.and_eq_true] at h
    exact succeeds_clause (ExprD.succeeds condition h.1) (StmtD.listSucceeds body h.2)

theorem ClauseD.listSucceeds : (cs : List ClauseD) → ClauseD.listAccepted cs = true →
    ClauseD.ListSucceeds cs
  | [], _ => ClauseD.listSucceeds_nil
  | c :: cs, h => by
    simp only [ClauseD.listAccepted, Bool.and_eq_true] at h
    exact ClauseD.listSucceeds_cons (ClauseD.succeeds c h.1) (ClauseD.listSucceeds cs h.2)

theorem ElseD.optSucceeds : (o : Option ElseD) → ElseD.optAccepted o = true → ElseD.OptSucceeds o
  | none, _ => fun a => ⟨none, a, rfl, .refl a⟩
  | some (.mk _ body _), h => succeeds_else (StmtD.listSucceeds body h)

end

/-! ## The events run through -/

open Builder

/-- **The events of an accepted expression run through** from every ready builder: they push
the reference's node and put in place the reference's ambient, which extends the builder's. -/
theorem ExprD.exec_events {e : ExprD} (he : e.accepted = true) {b : Builder} (hb : b.Ready) :
    ∃ x a, e.eval b.ambient = .ok (x, a) ∧ b.ambient.Extends a ∧
      b.exec e.events = .ok (b.pushResults [x] a) := by
  obtain ⟨x, a, hx, ha⟩ := ExprD.succeeds e he b.ambient
  have h := ExprD.replays e b [] hb
  rw [List.append_nil, hx] at h
  exact ⟨x, a, hx, ha, h⟩

/-- **The events of an accepted statement run through** between two statements of a body:
they append the reference's statement to the innermost open block. -/
theorem StmtD.exec_events {s : StmtD} (hs : s.accepted = true) {b : Builder} (hb : b.StmtReady)
    {blk : BlockFrame} {rest : List BlockFrame} (hblk : b.piles.blocks = blk :: rest) :
    ∃ x a, s.eval b.ambient = .ok (x, a) ∧ b.ambient.Extends a ∧
      b.exec s.events = .ok (b.addStmts blk rest [x] a) := by
  obtain ⟨x, a, hx, ha⟩ := StmtD.succeeds s hs b.ambient
  have h := StmtD.replays s b blk rest [] hb hblk
  rw [List.append_nil, hx] at h
  exact ⟨x, a, hx, ha, h⟩

/-- **The frame law of expressions and statements.**  From every ready builder, every event
of an accepted expression succeeds, and together they leave exactly the builder with the
reference's node on top of the expression pile: the other piles, the slots, the file and
the package are as they were, the registry has only remembered array types, and warnings
were only added.  Between two statements of a body, the events of an accepted statement
likewise all succeed and only append the reference's statement to the innermost open
block. -/
theorem derivations_frame_law :
    (∀ e : ExprD, e.accepted = true → ∀ b : Builder, b.Ready →
      ∃ x a, e.eval b.ambient = .ok (x, a) ∧
        (b.applyAll e.events).1 =
          { b with piles := { b.piles with exprs := x :: b.piles.exprs },
                   registry := a.registry, warnings := a.warnings } ∧
        (∀ o ∈ (b.applyAll e.events).2, Succeeded o) ∧
        b.registry.Memoizes a.registry ∧ b.warnings <+: a.warnings) ∧
    (∀ s : StmtD, s.accepted = true →
      ∀ (b : Builder) (blk : BlockFrame) (rest : List BlockFrame),
      b.StmtReady → b.piles.blocks = blk :: rest →
      ∃ x a, s.eval b.ambient = .ok (x, a) ∧
        (b.applyAll s.events).1 =
          { b with piles := { b.piles with
                     blocks := { blk with statements := blk.statements ++ [x] } :: rest },
                   registry := a.registry, warnings := a.warnings } ∧
        (∀ o ∈ (b.applyAll s.events).2, Succeeded o) ∧
        b.registry.Memoizes a.registry ∧ b.warnings <+: a.warnings) := by
  constructor
  · intro e he b hb
    obtain ⟨x, a, hx, ha, hexec⟩ := ExprD.exec_events he hb
    obtain ⟨hfinal, hall⟩ := applyAll_of_exec_ok hexec
    exact ⟨x, a, hx, hfinal, hall, ha.registry, ha.warnings⟩
  · intro s hs b blk rest hb hblk
    obtain ⟨x, a, hx, ha, hexec⟩ := StmtD.exec_events hs hb hblk
    obtain ⟨hfinal, hall⟩ := applyAll_of_exec_ok hexec
    exact ⟨x, a, hx, hfinal, hall, ha.registry, ha.warnings⟩

/-- A cast to an array type of a binary operation, and a conditional whose branch declares
an array variable, each remembering `int[]`: the frame law at a fresh builder and at the
body of a callable unit. -/
theorem derivations_frame_law_arrayCast :
    ∃ (e : ExprD) (s : StmtD) (b c : Builder) (blk : BlockFrame),
      e = .cast (.array "int" ⟨"p", 1⟩)
        (.binary "+" (.var "x" ⟨"p", 1⟩) (.literal .string "a" ⟨"p", 1⟩) ⟨"p", 1⟩) ⟨"p", 1⟩ ∧
      s = .ifElse ⟨"p", 2⟩ (.var "ok" ⟨"p", 2⟩) [.varDef ⟨.array "int" ⟨"p", 3⟩, "xs", ⟨"p", 3⟩⟩]
        [] (some (.mk ⟨"p", 4⟩ [] ⟨"p", 4⟩)) ⟨"p", 5⟩ ∧
      b = Builder.withRegistry .fresh ∧
      c = ((Builder.withRegistry .fresh).applyAll
        [⟨.startCallableUnit, ⟨"p", 0⟩⟩, ⟨.startCallableUnitBody, ⟨"p", 0⟩⟩]).1 ∧
      blk = { loc := ⟨"p", 0⟩ } ∧
      e.accepted = true ∧ b.Ready ∧ s.accepted = true ∧ c.StmtReady ∧ c.piles.blocks = [blk] ∧
      (∃ x a, e.eval b.ambient = .ok (x, a) ∧
        (b.applyAll e.events).1 =
          { b with piles := { b.piles with exprs := x :: b.piles.exprs },
                   registry := a.registry, warnings := a.warnings } ∧
        (∀ o ∈ (b.applyAll e.events).2, Succeeded o) ∧
        b.registry.Memoizes a.registry ∧ b.warnings <+: a.warnings) ∧
      (∃ x a, s.eval c.ambient = .ok (x, a) ∧
        (c.applyAll s.events).1 =
          { c with piles := { c.piles with
                     blocks := [{ blk with statements := blk.statements ++ [x] }] },
                   registry := a.registry, warnings := a.warnings } ∧
        (∀ o ∈ (c.applyAll s.events).2, Succeeded o) ∧
        c.registry.Memoizes a.registry ∧ c.warnings <+: a.warnings) := by
  have he : (ExprD.cast (.array "int" ⟨"p", 1⟩)
      (.binary "+" (.var "x" ⟨"p", 1⟩) (.literal .string "a" ⟨"p", 1⟩) ⟨"p", 1⟩)
      ⟨"p", 1⟩).accepted = true := by decide
  have hs : (StmtD.ifElse ⟨"p", 2⟩ (.var "ok" ⟨"p", 2⟩)
      [.varDef ⟨.array "int" ⟨"p", 3⟩, "xs", ⟨"p", 3⟩⟩] [] (some (.mk ⟨"p", 4⟩ [] ⟨"p", 4⟩))
      ⟨"p", 5⟩).accepted = true := by decide
  have hb : (Builder.withRegistry .fresh).Ready := ⟨rfl, rfl⟩
  have hc : ((Builder.withRegistry .fresh).applyAll
      [⟨.startCallableUnit, ⟨"p", 0⟩⟩, ⟨.startCallableUnitBody, ⟨"p", 0⟩⟩]).1.StmtReady :=
    ⟨⟨rfl, rfl⟩, rfl, rfl⟩
  exact ⟨_, _, _, _, _, rfl, rfl, rfl, rfl, rfl, he, hb, hs, hc, rfl,
    derivations_frame_law.1 _ he _ hb, derivations_frame_law.2 _ hs _ _ _ hc rfl⟩

end TreeAssembly
