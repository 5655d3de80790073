import TreeAssembly.Proofs.Run

/-!
# What each step of the builder does

Every assembler is a short program in `Assembly`, the state monad over the builder that
can fail, written with a few primitives that take from a pile or change one.  This file
states, once for each primitive, an equation for its run: the item taken and the builder
left, or the fault that names the empty pile, with the builder as it was.

With these as `simp` lemmas, later files never unfold a primitive.  The refinement proof
uses them to compute what an event does to a builder in a known state; the files under
`Steps` use them to state, for each assembler, everything a successful run can have done.

Throughout, a builder that differs from `b` in a few piles is written as a structure
update of `b`; `simp` compares such updates field by field.
-/

namespace TreeAssembly
namespace Assembly

variable {α : Type} {loc : Location} {b b' : Builder}

-- What an event of a known kind runs: its assembler.
attribute [simp] step

/-! ## Primitives -/

@[simp] theorem run_structural (f : StructuralFault) (loc : Location) (b : Builder) :
    (structural f loc : Assembly α).run b = .error (.structural f (some loc)) b := rfl

@[simp] theorem run_source (f : SourceFault) (loc : Location) (b : Builder) :
    (source f loc : Assembly α).run b = .error (.source f loc) b := rfl

@[simp] theorem run_modifyStacks (f : Stacks → Stacks) (b : Builder) :
    (modifyStacks f).run b = .ok () { b with piles := f b.piles } := rfl

@[simp] theorem run_modifyFile (f : CompilationUnit → CompilationUnit) (b : Builder) :
    (modifyFile f).run b = .ok () { b with file := f b.file } := rfl

@[simp] theorem run_pushExpr (e : Expr) (b : Builder) :
    (pushExpr e).run b = .ok () { b with piles := { b.piles with exprs := e :: b.piles.exprs } } :=
  rfl

@[simp] theorem run_queueType (t : ValueType) (b : Builder) :
    (queueType t).run b = .ok () { b with piles := { b.piles with types := b.piles.types ++ [t] } } :=
  rfl

@[simp] theorem run_piles (b : Builder) : piles.run b = .ok b.piles b := rfl

@[simp] theorem run_get (b : Builder) : (get : Assembly Builder).run b = .ok b b := rfl

@[simp] theorem run_pure (a : α) (b : Builder) : (pure a : Assembly α).run b = .ok a b := rfl

@[simp] theorem run_throw (e : BuildError) (b : Builder) :
    (throw e : Assembly α).run b = .error e b := rfl

/-- A result computed outside the builder, passed on as the step's result or failure. -/
@[simp] theorem run_liftExcept (x : Except BuildError α) (b : Builder) :
    (liftExcept x : Assembly α).run b = match x with
      | .ok a => .ok a b
      | .error e => .error e b := by
  cases x <;> rfl

@[simp] theorem run_map {β : Type} (f : α → β) (x : Assembly α) (b : Builder) :
    (f <$> x).run b = match x.run b with
      | .ok a b' => .ok (f a) b'
      | .error e b' => .error e b' := by
  show EStateM.map f x b = _
  unfold EStateM.map EStateM.run
  rcases x b <;> rfl

/-- A program followed by a continuation fails when the program fails, or when it succeeds
and the continuation then fails. -/
theorem run_bind_error {β : Type} {m : Assembly α} {f : α → Assembly β} {d : BuildError}
    (h : (m >>= f).run b = .error d b') :
    m.run b = .error d b' ∨ ∃ a b₁, m.run b = .ok a b₁ ∧ (f a).run b₁ = .error d b' := by
  rw [EStateM.run_bind] at h
  rcases hr : m.run b with ⟨a, b₁⟩ | ⟨d₁, b₁⟩ <;> rw [hr] at h
  · exact .inr ⟨a, b₁, rfl, h⟩
  · cases h
    exact .inl rfl

/-- A program followed by a continuation succeeds only when both do, one after the other. -/
theorem run_bind_ok {β : Type} {m : Assembly α} {f : α → Assembly β} {c : β}
    (h : (m >>= f).run b = .ok c b') :
    ∃ a b₁, m.run b = .ok a b₁ ∧ (f a).run b₁ = .ok c b' := by
  rw [EStateM.run_bind] at h
  rcases hr : m.run b with ⟨a, b₁⟩ | ⟨d₁, b₁⟩ <;> rw [hr] at h
  · exact ⟨a, b₁, rfl, h⟩
  · cases h

theorem run_map_error {β : Type} {f : α → β} {m : Assembly α} {d : BuildError}
    (h : (f <$> m).run b = .error d b') : m.run b = .error d b' := by
  rw [run_map] at h
  rcases hr : m.run b with ⟨a, b₁⟩ | ⟨d₁, b₁⟩ <;> rw [hr] at h <;> cases h
  rfl

theorem run_map_ok {β : Type} {f : α → β} {m : Assembly α} {c : β}
    (h : (f <$> m).run b = .ok c b') : ∃ a, m.run b = .ok a b' := by
  rw [run_map] at h
  rcases hr : m.run b with ⟨a, b₁⟩ | ⟨d₁, b₁⟩ <;> rw [hr] at h <;> cases h
  exact ⟨a, rfl⟩

@[simp] theorem run_qualified (name : String) (b : Builder) :
    (qualified name).run b = .ok (.withPackage name b.package) b := rfl

@[simp] theorem run_popExpr (loc : Location) (b : Builder) :
    (popExpr loc).run b = match b.piles.exprs with
      | x :: rest => .ok x { b with piles := { b.piles with exprs := rest } }
      | [] => .error (.structural (.emptyStack .expression) (some loc)) b := by
  rcases b with ⟨⟨_ | ⟨x, rest⟩, _⟩, _⟩ <;> rfl

@[simp] theorem run_popExprList (loc : Location) (b : Builder) :
    (popExprList loc).run b = match b.piles.exprLists with
      | l :: rest => .ok l { b with piles := { b.piles with exprLists := rest } }
      | [] => .error (.structural (.emptyStack .expressionList) (some loc)) b := by
  rcases b with ⟨⟨_, _ | ⟨l, rest⟩, _⟩, _⟩ <;> rfl

@[simp] theorem run_popKeyValueList (loc : Location) (b : Builder) :
    (popKeyValueList loc).run b = match b.piles.keyValueLists with
      | l :: rest => .ok l { b with piles := { b.piles with keyValueLists := rest } }
      | [] => .error (.structural (.emptyStack .keyValueList) (some loc)) b := by
  rcases b with ⟨⟨_, _, _, _ | ⟨l, rest⟩, _⟩, _⟩ <;> rfl

@[simp] theorem run_popAnnotationFrame (loc : Location) (b : Builder) :
    (popAnnotationFrame loc).run b = match b.piles.annotations with
      | a :: rest => .ok a { b with piles := { b.piles with annotations := rest } }
      | [] => .error (.structural (.emptyStack .annotationFrame) (some loc)) b := by
  rcases b with ⟨⟨_, _, _, _, _ | ⟨a, rest⟩, _⟩, _⟩ <;> rfl

@[simp] theorem run_popAnnotationList (loc : Location) (b : Builder) :
    (popAnnotationList loc).run b = match b.piles.annotationLists with
      | l :: rest => .ok l { b with piles := { b.piles with annotationLists := rest } }
      | [] => .error (.structural (.emptyStack .annotationList) (some loc)) b := by
  rcases b with ⟨⟨_, _, _, _, _, _ | ⟨l, rest⟩, _⟩, _⟩ <;> rfl

@[simp] theorem run_popBlock (loc : Location) (b : Builder) :
    (popBlock loc).run b = match b.piles.blocks with
      | blk :: rest => .ok blk { b with piles := { b.piles with blocks := rest } }
      | [] => .error (.structural (.emptyStack .block) (some loc)) b := by
  rcases b with ⟨⟨_, _, _, _, _, _, _ | ⟨blk, rest⟩, _⟩, _⟩ <;> rfl

@[simp] theorem run_popIfElse (loc : Location) (b : Builder) :
    (popIfElse loc).run b = match b.piles.ifElses with
      | f :: rest => .ok f { b with piles := { b.piles with ifElses := rest } }
      | [] => .error (.structural (.emptyStack .ifElse) (some loc)) b := by
  rcases b with ⟨⟨_, _, _, _, _, _, _, _ | ⟨f, rest⟩, _⟩, _⟩ <;> rfl

@[simp] theorem run_popPackageName (loc : Location) (b : Builder) :
    (popPackageName loc).run b = match b.piles.packageNames with
      | n :: rest => .ok n { b with piles := { b.piles with packageNames := rest } }
      | [] => .error (.structural (.emptyStack .packageName) (some loc)) b := by
  rcases b with ⟨⟨_, _, _, _, _, _, _, _, _, _ | ⟨n, rest⟩, _⟩, _⟩ <;> rfl

@[simp] theorem run_popPackageName? (b : Builder) :
    popPackageName?.run b = match b.piles.packageNames with
      | n :: rest => .ok (some n) { b with piles := { b.piles with packageNames := rest } }
      | [] => .ok none b := by
  rcases b with ⟨⟨_, _, _, _, _, _, _, _, _, _ | ⟨n, rest⟩, _⟩, _⟩ <;> rfl

@[simp] theorem run_popSymbolName (loc : Location) (b : Builder) :
    (popSymbolName loc).run b = match b.piles.symbolNames with
      | n :: rest => .ok n { b with piles := { b.piles with symbolNames := rest } }
      | [] => .error (.structural (.emptyStack .symbolName) (some loc)) b := by
  rcases b with ⟨⟨_, _, _, _, _, _, _, _, _, _, _ | ⟨n, rest⟩⟩, _⟩ <;> rfl

@[simp] theorem run_takeType (loc : Location) (b : Builder) :
    (takeType loc).run b = match b.piles.types with
      | t :: rest => .ok t { b with piles := { b.piles with types := rest } }
      | [] => .error (.structural .emptyTypeQueue (some loc)) b := by
  rcases b with ⟨⟨_, _, _, _, _, _, _, _, _ | ⟨t, rest⟩, _⟩, _⟩ <;> rfl

@[simp] theorem run_takeLastType (loc : Location) (b : Builder) :
    (takeLastType loc).run b = match b.piles.types.getLast? with
      | some t => .ok t { b with piles := { b.piles with types := b.piles.types.dropLast } }
      | none => .error (.structural .emptyTypeQueue (some loc)) b := by
  cases h : b.piles.types.getLast? <;> simp [takeLastType, piles, h]

@[simp] theorem run_addStatement (stmt : Stmt) (loc : Location) (b : Builder) :
    (addStatement stmt loc).run b = match b.piles.blocks with
      | blk :: rest => .ok () { b with piles := { b.piles with
          blocks := { blk with statements := blk.statements ++ [stmt] } :: rest } }
      | [] => .error (.structural (.noOpen .block) (some loc)) b := by
  rcases b with ⟨⟨_, _, _, _, _, _, _ | ⟨blk, rest⟩, _⟩, _⟩ <;> rfl

end Assembly
end TreeAssembly
