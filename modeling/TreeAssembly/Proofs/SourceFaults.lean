import TreeAssembly.Proofs.Faults
import TreeAssembly.Proofs.LiteralText

/-!
# Which events fail at the source

`Faults` shows that all but six assemblers can fail only structurally.  This file says
exactly when the other six fail at the source, and so classifies every failure of every
event on a live builder.

The six checks are each made at one point of their assembler's program, and the order
matters: a binary or unary operator takes its operands before it looks its symbol up, so
an operator with too few operands is a structural fault whatever its symbol; an annotation
entry checks its value before it looks for the open annotation, so a bad value is reported
even with no annotation open; and the end of an annotation looks for the open annotation
before it takes its positional value.  `Step.RejectedAtSource` records these conditions on
the piles the event finds, and `Builder.apply_fails_at_source_iff` proves that they are
exactly the failures at the source.

## Main statements

* `Step.RejectedAtSource`: when an event is rejected for what the program says.
* `Assembly.source_step_iff`: an assembler fails at the source exactly then.
* `Builder.apply_fails_at_source_iff`: the same for `apply` on a live builder, with every
  other failure structural.
-/

namespace TreeAssembly

/-! ## The checks on the program's text -/

/-- A string literal, the only value an annotation accepts. -/
def Expr.IsStringLiteral (x : Expr) : Prop := ∃ s loc, x = .lit (.string s) loc

theorem Expr.stringValue?_eq_none_iff (x : Expr) : x.stringValue? = none ↔ ¬ x.IsStringLiteral := by
  unfold Expr.stringValue? Expr.IsStringLiteral
  split
  · rename_i v _
    cases v <;> simp [Literal.text?]
  · rename_i hx
    simp only [true_iff, not_exists]
    intro s loc rfl
    exact hx _ _ rfl

theorem BinaryOp.ofSymbol?_eq_none_iff (op : String) :
    BinaryOp.ofSymbol? op = none ↔
      op ∉ ["+", "-", "*", "/", "&&", "||", "==", "!=", ">=", ">", "<", "<="] := by
  have hsym : BinaryOp.all.map BinaryOp.symbol =
      ["+", "-", "*", "/", "&&", "||", "==", "!=", ">=", ">", "<", "<="] := rfl
  rw [← hsym]
  simp [BinaryOp.ofSymbol?, List.find?_eq_none]

theorem UnaryOp.ofSymbol?_eq_none_iff (op : String) :
    UnaryOp.ofSymbol? op = none ↔ op ∉ ["+", "-", "!"] := by
  unfold UnaryOp.ofSymbol?
  split <;> simp_all

/-- The literal reader only ever fails at the source, at the literal's location. -/
theorem Literal.read_error {kind : LiteralKind} {text : String} {loc : Location}
    {d : BuildError} (h : Literal.read kind text loc = .error d) : ∃ f, d = .source f loc := by
  cases kind
  case string | boolean => cases h
  case null =>
    cases h
    exact ⟨_, rfl⟩
  -- a number fails exactly when its text does not read
  all_goals
    unfold Literal.read at h
    dsimp only at h
    split at h
    · cases h
    · cases h
      exact ⟨_, rfl⟩

/-- **The events rejected for what the program says**, given the piles they find: a
literal that does not read, an operator with its operands present but a symbol that is
not supported, a template token with fewer than two backticks, an annotation entry whose
value on top is not a string literal, and the end of an open annotation whose positional
value on top is not one. -/
def Step.RejectedAtSource (p : Stacks) (loc : Location) : Step → Prop
  | .literal kind text => ∃ d, Literal.read kind text loc = .error d
  | .binaryExpr op =>
    2 ≤ p.exprs.length ∧ op ∉ ["+", "-", "*", "/", "&&", "||", "==", "!=", ">=", ">", "<", "<="]
  | .unaryExpr op => 1 ≤ p.exprs.length ∧ op ∉ ["+", "-", "!"]
  | .backtickExpr token => token.toList.count backtick < 2
  | .annotationKeyValue _ => ∃ x rest, p.exprs = x :: rest ∧ ¬ x.IsStringLiteral
  | .annotationEnd _ valueAvailable =>
    valueAvailable = true ∧ p.annotations ≠ [] ∧
      ∃ x rest, p.exprs = x :: rest ∧ ¬ x.IsStringLiteral
  | _ => False

theorem Step.not_rejectedAtSource {s : Step} (hs : s.checksSource = false) (p : Stacks)
    (loc : Location) : ¬ s.RejectedAtSource p loc := by
  cases s <;> simp_all [Step.checksSource, Step.RejectedAtSource]

namespace Assembly

variable {loc : Location} {b : Builder}

/-! ## The six checking assemblers -/

theorem source_literal_iff {kind : LiteralKind} {text : String} :
    (∃ f l b', (literal kind text loc).run b = .error (.source f l) b') ↔
      ∃ d, Literal.read kind text loc = .error d := by
  rcases hv : Literal.read kind text loc with d | v
  · obtain ⟨f, rfl⟩ := Literal.read_error hv
    simp [literal, hv]
  · simp [literal, hv]

/-- Both operands are taken before the symbol is looked up. -/
theorem source_binary_iff {op : String} :
    (∃ f l b', (binary op loc).run b = .error (.source f l) b') ↔
      2 ≤ b.piles.exprs.length ∧ BinaryOp.ofSymbol? op = none := by
  rcases hx : b.piles.exprs with _ | ⟨r, _ | ⟨l, rest⟩⟩ <;> simp [binary, hx]
  cases BinaryOp.ofSymbol? op <;> simp

/-- The operand is taken before the symbol is looked up. -/
theorem source_unary_iff {op : String} :
    (∃ f l b', (unary op loc).run b = .error (.source f l) b') ↔
      1 ≤ b.piles.exprs.length ∧ UnaryOp.ofSymbol? op = none := by
  rcases hx : b.piles.exprs with _ | ⟨x, rest⟩ <;> simp [unary, hx]
  cases UnaryOp.ofSymbol? op <;> simp

theorem source_template_iff {token : String} :
    (∃ f l b', (template token loc).run b = .error (.source f l) b') ↔ templateText token = none := by
  rcases ht : templateText token with _ | text <;> simp [template, ht]

/-- The value is checked before the open annotation is looked for. -/
theorem source_annotationKeyValue_iff {key : String} :
    (∃ f l b', (annotationKeyValue key loc).run b = .error (.source f l) b') ↔
      ∃ x rest, b.piles.exprs = x :: rest ∧ x.stringValue? = none := by
  rcases hx : b.piles.exprs with _ | ⟨x, rest⟩ <;> simp [annotationKeyValue, hx]
  rcases hs : x.stringValue? with _ | s <;> simp [annotationValue, hs]
  cases b.piles.annotations <;> simp

/-- The open annotation is looked for before the positional value is taken and checked. -/
theorem source_annotationEnd_iff {name : String} {flag : Bool} :
    (∃ f l b', (annotationEnd name flag loc).run b = .error (.source f l) b') ↔
      flag = true ∧ b.piles.annotations ≠ [] ∧
        ∃ x rest, b.piles.exprs = x :: rest ∧ x.stringValue? = none := by
  rcases ha : b.piles.annotations with _ | ⟨kvs, frames⟩ <;> simp [annotationEnd, ha]
  cases flag
  · cases b.piles.annotationLists <;> simp
  · cases b.piles.exprs with
    | nil => simp
    | cons x rest =>
      rcases hs : x.stringValue? with _ | s <;> simp [annotationValue, hs]
      cases b.piles.annotationLists <;> simp

/-- **An assembler fails at the source exactly when its event is rejected for what the
program says.** -/
theorem source_step_iff (b : Builder) (loc : Location) (s : Step) :
    (∃ f l b', (step loc s).run b = .error (.source f l) b') ↔ s.RejectedAtSource b.piles loc := by
  cases hs : s.checksSource
  · -- the other assemblers fail only structurally
    refine iff_of_false ?_ (Step.not_rejectedAtSource hs _ _)
    rintro ⟨f, l, b', h⟩
    obtain ⟨_, _, hd⟩ := structural_step hs h
    cases hd
  cases s <;> simp only [Step.checksSource, Bool.false_eq_true] at hs <;>
    simp only [step, Step.RejectedAtSource]
  case literal => exact source_literal_iff
  case binaryExpr => rw [source_binary_iff, BinaryOp.ofSymbol?_eq_none_iff]
  case unaryExpr => rw [source_unary_iff, UnaryOp.ofSymbol?_eq_none_iff]
  case backtickExpr => rw [source_template_iff, templateText_eq_none_iff]
  case annotationKeyValue => simp only [source_annotationKeyValue_iff, Expr.stringValue?_eq_none_iff]
  case annotationEnd =>
    simp only [source_annotationEnd_iff, Expr.stringValue?_eq_none_iff]

end Assembly

namespace Builder

/-- **Errors are classified exactly.**  On a builder that has not aborted, an event fails
at the source exactly when it is rejected for what the program says, and every other
failure is structural: in particular a missing operand or a missing annotation comes
before any check of the text. -/
theorem apply_fails_at_source_iff {b : Builder} (hb : b.aborted = false) (e : Event) :
    ((∃ f l, (b.apply e).2 = .error (.source f l)) ↔ e.step.RejectedAtSource b.piles e.loc) ∧
    ∀ d, (b.apply e).2 = .error d → ¬ e.step.RejectedAtSource b.piles e.loc →
      ∃ f l, d = .structural f l := by
  have hiff : (∃ f l, (b.apply e).2 = .error (.source f l)) ↔
      e.step.RejectedAtSource b.piles e.loc := by
    rw [← Assembly.source_step_iff, apply_of_live hb]
    rcases (Assembly.step e.loc e.step).run b with ⟨⟨⟩, b'⟩ | ⟨d, b'⟩ <;> simp
  refine ⟨hiff, fun d hd hr => ?_⟩
  cases d with
  | structural f l => exact ⟨f, l, rfl⟩
  | source f l => exact absurd (hiff.mp ⟨f, l, hd⟩) hr

/-- An unsupported operator between two operands is rejected at the source. -/
theorem apply_fails_at_source_iff_unsupported :
    ∃ b e, b = ((Builder.withRegistry .fresh).applyAll
        [⟨.literal .string "a", ⟨"p", 1⟩⟩, ⟨.literal .string "b", ⟨"p", 1⟩⟩]).1 ∧
      e = (⟨.binaryExpr "%", ⟨"p", 1⟩⟩ : Event) ∧ b.aborted = false ∧
      ((∃ f l, (b.apply e).2 = .error (.source f l)) ↔ e.step.RejectedAtSource b.piles e.loc) ∧
      ∀ d, (b.apply e).2 = .error d → ¬ e.step.RejectedAtSource b.piles e.loc →
        ∃ f l, d = .structural f l :=
  have hb : ((Builder.withRegistry .fresh).applyAll
      [⟨.literal .string "a", ⟨"p", 1⟩⟩, ⟨.literal .string "b", ⟨"p", 1⟩⟩]).1.aborted = false := rfl
  ⟨_, _, rfl, rfl, hb, apply_fails_at_source_iff hb _⟩

end Builder

end TreeAssembly
