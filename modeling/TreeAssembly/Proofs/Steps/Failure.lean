import TreeAssembly.Proofs.Assembly

/-!
# What a failing step leaves

A step that fails keeps what it did before it failed, and `Builder.apply` marks that
builder as aborted.  So the builder that a failing event leaves is not, in general, the one
it found.  What it can be is fixed by the order in which every assembler works: it checks and
takes before it changes.  Before its last step that can fail, an assembler only takes items
from the tops of the piles and closes the open callable unit or group; everything else it
does (pushing, adding to a block or to the compilation unit, registering a type, opening a
slot) comes after.

`Builder.Trimmed b' b` says exactly that much of `b'`: every pile of `b'` is a sublist of the
same pile of `b`, the unit and group slots are as in `b` or closed, and the struct slot, the
registry, the package, the compilation unit, the warnings and the abort flag are those of
`b`.  It is a preorder, and each invariant of the builder that only reads the items it holds
survives it.

`Assembly.FailsTrimmed m` says that every failing run of `m` leaves its builder trimmed.  It
composes along an assembler's program, as `FaultsAt` does: after a step that only takes
(`Assembly.Trims`) whatever fails next still trims, and a step that cannot fail
(`Assembly.NeverFails`) adds no failure.  Each assembler's lemma is its program read as a
proof, and `failsTrimmed_step` gathers them.

## Main statements

* `Builder.Trimmed`: what a failing step can have done to a builder.
* `Assembly.failsTrimmed_step`: every failing step leaves its builder trimmed.
* `Builder.apply_error_trimmed`: an event that a live builder refuses leaves it trimmed and
  aborted.
-/

namespace TreeAssembly

/-- Every pile of `s'` is a sublist of the same pile of `s`: `s'` has only lost items. -/
structure Stacks.Within (s' s : Stacks) : Prop where
  exprs : List.Sublist s'.exprs s.exprs
  exprLists : List.Sublist s'.exprLists s.exprLists
  keyValues : List.Sublist s'.keyValues s.keyValues
  keyValueLists : List.Sublist s'.keyValueLists s.keyValueLists
  annotations : List.Sublist s'.annotations s.annotations
  annotationLists : List.Sublist s'.annotationLists s.annotationLists
  blocks : List.Sublist s'.blocks s.blocks
  ifElses : List.Sublist s'.ifElses s.ifElses
  types : List.Sublist s'.types s.types
  packageNames : List.Sublist s'.packageNames s.packageNames
  symbolNames : List.Sublist s'.symbolNames s.symbolNames

namespace Stacks.Within

@[refl] theorem refl (s : Stacks) : s.Within s :=
  ⟨.refl _, .refl _, .refl _, .refl _, .refl _, .refl _, .refl _, .refl _, .refl _, .refl _,
    .refl _⟩

theorem trans {s'' s' s : Stacks} (h₁ : s''.Within s') (h₂ : s'.Within s) : s''.Within s :=
  ⟨h₁.exprs.trans h₂.exprs, h₁.exprLists.trans h₂.exprLists, h₁.keyValues.trans h₂.keyValues,
    h₁.keyValueLists.trans h₂.keyValueLists, h₁.annotations.trans h₂.annotations,
    h₁.annotationLists.trans h₂.annotationLists, h₁.blocks.trans h₂.blocks,
    h₁.ifElses.trans h₂.ifElses, h₁.types.trans h₂.types,
    h₁.packageNames.trans h₂.packageNames, h₁.symbolNames.trans h₂.symbolNames⟩

end Stacks.Within

/-- `b'` is `b` with items taken from its piles and its open callable unit or group possibly
closed; nothing else differs. -/
structure Builder.Trimmed (b' b : Builder) : Prop where
  piles : b'.piles.Within b.piles
  unit : b'.unit = b.unit ∨ b'.unit = none
  group : b'.group = b.group ∨ b'.group = none
  struct : b'.struct = b.struct
  registry : b'.registry = b.registry
  package : b'.package = b.package
  file : b'.file = b.file
  warnings : b'.warnings = b.warnings
  aborted : b'.aborted = b.aborted

namespace Builder.Trimmed

@[refl] theorem refl (b : Builder) : b.Trimmed b :=
  ⟨.refl _, .inl rfl, .inl rfl, rfl, rfl, rfl, rfl, rfl, rfl⟩

theorem trans {b'' b' b : Builder} (h₁ : b''.Trimmed b') (h₂ : b'.Trimmed b) : b''.Trimmed b := by
  refine ⟨h₁.piles.trans h₂.piles, ?_, ?_, h₁.struct.trans h₂.struct,
    h₁.registry.trans h₂.registry, h₁.package.trans h₂.package, h₁.file.trans h₂.file,
    h₁.warnings.trans h₂.warnings, h₁.aborted.trans h₂.aborted⟩
  · rcases h₁.unit with h | h
    · rw [h]
      exact h₂.unit
    · exact .inr h
  · rcases h₁.group with h | h
    · rw [h]
      exact h₂.group
    · exact .inr h

/-- Replacing the piles by smaller ones trims. -/
theorem of_piles {b : Builder} {s : Stacks} (h : s.Within b.piles) :
    ({ b with piles := s } : Builder).Trimmed b :=
  ⟨h, .inl rfl, .inl rfl, rfl, rfl, rfl, rfl, rfl, rfl⟩

end Builder.Trimmed

namespace Assembly

variable {α β : Type} {loc : Location}

/-- Every run of `m`, successful or failing, leaves its builder trimmed: `m` only takes. -/
structure Trims (m : Assembly α) : Prop where
  ok : ∀ {b a b'}, m.run b = .ok a b' → b'.Trimmed b
  error : ∀ {b d b'}, m.run b = .error d b' → b'.Trimmed b

/-- `m` succeeds from every builder. -/
def NeverFails (m : Assembly α) : Prop := ∀ b, ∃ a b', m.run b = .ok a b'

/-- Every failing run of `m` leaves its builder trimmed. -/
def FailsTrimmed (m : Assembly α) : Prop :=
  ∀ b d b', m.run b = .error d b' → b'.Trimmed b

namespace Trims

/-- A step that leaves the builder as it was, whether it succeeds or fails. -/
theorem of_run {m : Assembly α}
    (h : ∀ b, (∃ a, m.run b = .ok a b) ∨ ∃ d, m.run b = .error d b) : Trims m where
  ok {b a b'} hok := by
    rcases h b with ⟨a₁, h₁⟩ | ⟨d₁, h₁⟩ <;> rw [h₁] at hok <;> cases hok
    rfl
  error {b d b'} herr := by
    rcases h b with ⟨a₁, h₁⟩ | ⟨d₁, h₁⟩ <;> rw [h₁] at herr <;> cases herr
    rfl

theorem bind {m : Assembly α} {f : α → Assembly β} (hm : Trims m) (hf : ∀ a, Trims (f a)) :
    Trims (m >>= f) where
  ok h := by
    obtain ⟨a, b₁, hr, hk⟩ := run_bind_ok h
    exact ((hf a).ok hk).trans (hm.ok hr)
  error h := by
    rcases run_bind_error h with hr | ⟨a, b₁, hr, hk⟩
    · exact hm.error hr
    · exact ((hf a).error hk).trans (hm.ok hr)

theorem map {m : Assembly α} (f : α → β) (hm : Trims m) : Trims (f <$> m) where
  ok h := by
    obtain ⟨a, hr⟩ := run_map_ok h
    exact hm.ok hr
  error h := hm.error (run_map_error h)

theorem ite {c : Prop} [Decidable c] {t e : Assembly α} (ht : Trims t) (he : Trims e) :
    Trims (if c then t else e) := by
  split
  · exact ht
  · exact he

theorem pure (a : α) : Trims (Pure.pure a : Assembly α) := of_run fun _ => .inl ⟨a, rfl⟩

theorem get : Trims (MonadState.get : Assembly Builder) := of_run fun b => .inl ⟨b, rfl⟩

theorem piles : Trims Assembly.piles := of_run fun b => .inl ⟨b.piles, rfl⟩

theorem structural (f : StructuralFault) : Trims (Assembly.structural f loc : Assembly α) :=
  of_run fun _ => .inr ⟨_, rfl⟩

theorem source (f : SourceFault) : Trims (Assembly.source f loc : Assembly α) :=
  of_run fun _ => .inr ⟨_, rfl⟩

theorem liftExcept (x : Except BuildError α) : Trims (liftExcept x : Assembly α) :=
  of_run fun b => by cases x <;> simp

/-- Taking the top of the pile `p`, which `set` replaces by its rest, or failing without a
change when it is empty. -/
theorem of_pop {γ : Type} {m : Assembly α} (p : Stacks → List γ) (set : Stacks → List γ → Stacks)
    (hset : ∀ s x rest, p s = x :: rest → (set s rest).Within s)
    (hnil : ∀ b, p b.piles = [] → ∃ d, m.run b = .error d b)
    (hcons : ∀ b x rest, p b.piles = x :: rest → ∃ a, m.run b = .ok a { b with piles := set b.piles rest }) :
    Trims m where
  ok {b a b'} h := by
    rcases hp : p b.piles with _ | ⟨x, rest⟩
    · obtain ⟨d, hd⟩ := hnil b hp
      rw [hd] at h
      cases h
    · obtain ⟨a₁, ha⟩ := hcons b x rest hp
      rw [ha] at h
      cases h
      exact .of_piles (hset _ _ _ hp)
  error {b d b'} h := by
    rcases hp : p b.piles with _ | ⟨x, rest⟩
    · obtain ⟨d₁, hd⟩ := hnil b hp
      rw [hd] at h
      cases h
      rfl
    · obtain ⟨a₁, ha⟩ := hcons b x rest hp
      rw [ha] at h
      cases h

theorem popExpr : Trims (Assembly.popExpr loc) :=
  of_pop Stacks.exprs (fun s l => { s with exprs := l })
    (fun s x rest h => { Stacks.Within.refl s with exprs := h ▸ List.sublist_cons_self x rest })
    (fun b h => ⟨_, by simp [h]; rfl⟩) (fun b x rest h => ⟨x, by simp [h]⟩)

theorem popExprList : Trims (Assembly.popExprList loc) :=
  of_pop Stacks.exprLists (fun s l => { s with exprLists := l })
    (fun s x rest h => { Stacks.Within.refl s with exprLists := h ▸ List.sublist_cons_self x rest })
    (fun b h => ⟨_, by simp [h]; rfl⟩) (fun b x rest h => ⟨x, by simp [h]⟩)

theorem popKeyValueList : Trims (Assembly.popKeyValueList loc) :=
  of_pop Stacks.keyValueLists (fun s l => { s with keyValueLists := l })
    (fun s x rest h =>
      { Stacks.Within.refl s with keyValueLists := h ▸ List.sublist_cons_self x rest })
    (fun b h => ⟨_, by simp [h]; rfl⟩) (fun b x rest h => ⟨x, by simp [h]⟩)

theorem popAnnotationFrame : Trims (Assembly.popAnnotationFrame loc) :=
  of_pop Stacks.annotations (fun s l => { s with annotations := l })
    (fun s x rest h =>
      { Stacks.Within.refl s with annotations := h ▸ List.sublist_cons_self x rest })
    (fun b h => ⟨_, by simp [h]; rfl⟩) (fun b x rest h => ⟨x, by simp [h]⟩)

theorem popAnnotationList : Trims (Assembly.popAnnotationList loc) :=
  of_pop Stacks.annotationLists (fun s l => { s with annotationLists := l })
    (fun s x rest h =>
      { Stacks.Within.refl s with annotationLists := h ▸ List.sublist_cons_self x rest })
    (fun b h => ⟨_, by simp [h]; rfl⟩) (fun b x rest h => ⟨x, by simp [h]⟩)

theorem popBlock : Trims (Assembly.popBlock loc) :=
  of_pop Stacks.blocks (fun s l => { s with blocks := l })
    (fun s x rest h => { Stacks.Within.refl s with blocks := h ▸ List.sublist_cons_self x rest })
    (fun b h => ⟨_, by simp [h]; rfl⟩) (fun b x rest h => ⟨x, by simp [h]⟩)

theorem popIfElse : Trims (Assembly.popIfElse loc) :=
  of_pop Stacks.ifElses (fun s l => { s with ifElses := l })
    (fun s x rest h => { Stacks.Within.refl s with ifElses := h ▸ List.sublist_cons_self x rest })
    (fun b h => ⟨_, by simp [h]; rfl⟩) (fun b x rest h => ⟨x, by simp [h]⟩)

theorem popPackageName : Trims (Assembly.popPackageName loc) :=
  of_pop Stacks.packageNames (fun s l => { s with packageNames := l })
    (fun s x rest h =>
      { Stacks.Within.refl s with packageNames := h ▸ List.sublist_cons_self x rest })
    (fun b h => ⟨_, by simp [h]; rfl⟩) (fun b x rest h => ⟨x, by simp [h]⟩)

theorem popSymbolName : Trims (Assembly.popSymbolName loc) :=
  of_pop Stacks.symbolNames (fun s l => { s with symbolNames := l })
    (fun s x rest h =>
      { Stacks.Within.refl s with symbolNames := h ▸ List.sublist_cons_self x rest })
    (fun b h => ⟨_, by simp [h]; rfl⟩) (fun b x rest h => ⟨x, by simp [h]⟩)

theorem takeType : Trims (Assembly.takeType loc) :=
  of_pop Stacks.types (fun s l => { s with types := l })
    (fun s x rest h => { Stacks.Within.refl s with types := h ▸ List.sublist_cons_self x rest })
    (fun b h => ⟨_, by simp [h]; rfl⟩) (fun b x rest h => ⟨x, by simp [h]⟩)

theorem takeLastType : Trims (Assembly.takeLastType loc) where
  ok {b a b'} h := by
    rw [run_takeLastType] at h
    split at h <;> cases h
    exact .of_piles { Stacks.Within.refl _ with types := List.dropLast_sublist _ }
  error {b d b'} h := by
    rw [run_takeLastType] at h
    split at h <;> cases h
    rfl

/-- Closing the open callable unit trims. -/
theorem closeUnit : Trims (modify fun b : Builder => { b with unit := none }) where
  ok h := by
    cases h
    exact ⟨.refl _, .inr rfl, .inl rfl, rfl, rfl, rfl, rfl, rfl, rfl⟩
  error h := by cases h

/-- Closing the open group trims. -/
theorem closeGroup : Trims (modify fun b : Builder => { b with group := none }) where
  ok h := by
    cases h
    exact ⟨.refl _, .inl rfl, .inr rfl, rfl, rfl, rfl, rfl, rfl, rfl⟩
  error h := by cases h

end Trims

namespace NeverFails

theorem bind {m : Assembly α} {f : α → Assembly β} (hm : NeverFails m)
    (hf : ∀ a, NeverFails (f a)) : NeverFails (m >>= f) := by
  intro b
  obtain ⟨a, b₁, h₁⟩ := hm b
  obtain ⟨c, b₂, h₂⟩ := hf a b₁
  refine ⟨c, b₂, ?_⟩
  rw [EStateM.run_bind, h₁]
  exact h₂

theorem ite {c : Prop} [Decidable c] {t e : Assembly α} (ht : NeverFails t)
    (he : NeverFails e) : NeverFails (if c then t else e) := by
  split
  · exact ht
  · exact he

theorem pure (a : α) : NeverFails (Pure.pure a : Assembly α) := fun b => ⟨a, b, rfl⟩

theorem get : NeverFails (MonadState.get : Assembly Builder) := fun b => ⟨b, b, rfl⟩

theorem modify (f : Builder → Builder) : NeverFails (modify f : Assembly PUnit) :=
  fun b => ⟨⟨⟩, f b, rfl⟩

theorem modifyStacks (f : Stacks → Stacks) : NeverFails (Assembly.modifyStacks f) :=
  fun _ => ⟨_, _, rfl⟩

theorem modifyFile (f : CompilationUnit → CompilationUnit) : NeverFails (Assembly.modifyFile f) :=
  fun _ => ⟨_, _, rfl⟩

theorem pushExpr (e : Expr) : NeverFails (Assembly.pushExpr e) := fun _ => ⟨_, _, rfl⟩

theorem queueType (t : ValueType) : NeverFails (Assembly.queueType t) := fun _ => ⟨_, _, rfl⟩

theorem qualified (name : String) : NeverFails (Assembly.qualified name) := fun _ => ⟨_, _, rfl⟩

theorem popPackageName? : NeverFails Assembly.popPackageName? := fun b => by
  rw [run_popPackageName?]
  split <;> exact ⟨_, _, rfl⟩

end NeverFails

namespace FailsTrimmed

theorem of_trims {m : Assembly α} (hm : Trims m) : FailsTrimmed m :=
  fun _ _ _ h => hm.error h

theorem of_neverFails {m : Assembly α} (hm : NeverFails m) : FailsTrimmed m := by
  intro b d b' h
  obtain ⟨a, b₁, hok⟩ := hm b
  rw [hok] at h
  cases h

/-- After a step that only takes, whatever fails next still trims. -/
theorem bind {m : Assembly α} {f : α → Assembly β} (hm : Trims m)
    (hf : ∀ a, FailsTrimmed (f a)) : FailsTrimmed (m >>= f) := by
  intro b d b' h
  rcases run_bind_error h with hr | ⟨a, b₁, hr, hk⟩
  · exact hm.error hr
  · exact (hf a b₁ d b' hk).trans (hm.ok hr)

/-- Steps that cannot fail add no failure, whatever they change. -/
theorem bind_total {m : Assembly α} {f : α → Assembly β} (hm : FailsTrimmed m)
    (hf : ∀ a, NeverFails (f a)) : FailsTrimmed (m >>= f) := by
  intro b d b' h
  rcases run_bind_error h with hr | ⟨a, b₁, -, hk⟩
  · exact hm b d b' hr
  · -- the rest cannot fail
    obtain ⟨c, b₂, hok⟩ := hf a b₁
    rw [hok] at hk
    cases hk

theorem ite {c : Prop} [Decidable c] {t e : Assembly α} (ht : FailsTrimmed t)
    (he : FailsTrimmed e) : FailsTrimmed (if c then t else e) := by
  split
  · exact ht
  · exact he

/-- An `if` without `else` followed by the rest of the program, as `do` writes it. -/
theorem ifThen {c : Prop} [Decidable c] {m : Assembly PUnit} {k : PUnit → Assembly β}
    (hm : Trims m) (hk : ∀ u, FailsTrimmed (k u)) :
    FailsTrimmed (if c then m >>= k else k ⟨⟩) :=
  .ite (.bind hm hk) (hk _)

/-- A choice between two steps that only take, whose result the rest of the program takes. -/
theorem branch {c : Prop} [Decidable c] {t e : Assembly α} {k : α → Assembly β}
    (ht : Trims t) (he : Trims e) (hk : ∀ a, FailsTrimmed (k a)) :
    FailsTrimmed (if c then t >>= k else e >>= k) :=
  .ite (.bind ht hk) (.bind he hk)

theorem structural (f : StructuralFault) : FailsTrimmed (Assembly.structural f loc : Assembly α) :=
  of_trims (.structural f)

theorem source (f : SourceFault) : FailsTrimmed (Assembly.source f loc : Assembly α) :=
  of_trims (.source f)

theorem pushExpr (e : Expr) : FailsTrimmed (Assembly.pushExpr e) :=
  of_neverFails (.pushExpr e)

theorem modifyStacks (f : Stacks → Stacks) : FailsTrimmed (Assembly.modifyStacks f) :=
  of_neverFails (.modifyStacks f)

theorem modify (f : Builder → Builder) : FailsTrimmed (modify f : Assembly PUnit) :=
  of_neverFails (.modify f)

/-- Adding a statement fails, on no open block, before it changes anything. -/
theorem addStatement (s : Stmt) : FailsTrimmed (Assembly.addStatement s loc) := by
  intro b d b' h
  rw [run_addStatement] at h
  split at h
  · cases h
  · cases h
    rfl

end FailsTrimmed

/-! ## Expressions -/

theorem failsTrimmed_endExprList (count : Nat) : FailsTrimmed (endExprList count loc) := by
  refine .bind .piles fun s => ?_
  split
  · exact .structural _
  · exact .ite (.structural _) (.modifyStacks _)

theorem failsTrimmed_endKeyValueList (count : Nat) : FailsTrimmed (endKeyValueList count loc) := by
  refine .bind .piles fun s => ?_
  split
  · exact .structural _
  · exact .ite (.structural _) (.modifyStacks _)

theorem failsTrimmed_literal (kind : LiteralKind) (text : String) :
    FailsTrimmed (literal kind text loc) :=
  .bind (.liftExcept _) fun _ => .pushExpr _

theorem failsTrimmed_element (name : String) : FailsTrimmed (element name loc) :=
  .bind .popExpr fun _ => .pushExpr _

theorem trims_fieldLink (r : Expr) (next : Option Expr) : Trims (fieldLink r next loc) := by
  unfold fieldLink
  split
  · exact .pure _
  · exact .structural _

theorem failsTrimmed_fieldAccess : FailsTrimmed (fieldAccess loc) :=
  .bind .piles fun _ => .ite (.of_trims (.pure _)) <|
    .bind .popExpr fun _ => .branch (.pure _) (trims_fieldLink _ _) fun _ =>
      .bind .popExpr fun _ => .bind (trims_fieldLink _ _) fun _ => .pushExpr _

theorem failsTrimmed_binary (op : String) : FailsTrimmed (binary op loc) := by
  refine .bind .popExpr fun _ => .bind .popExpr fun _ => ?_
  split
  · exact .pushExpr _
  · exact .source _

theorem failsTrimmed_unary (op : String) : FailsTrimmed (unary op loc) := by
  refine .bind .popExpr fun _ => ?_
  split
  · exact .pushExpr _
  · exact .source _

theorem failsTrimmed_template (token : String) : FailsTrimmed (template token loc) := by
  unfold template
  split
  · exact .pushExpr _
  · exact .source _

theorem failsTrimmed_cast : FailsTrimmed (cast loc) :=
  .bind .takeLastType fun _ => .bind .popExpr fun _ => .pushExpr _

theorem trims_invocation : Trims (invocation loc) :=
  .bind .popExprList fun _ => .bind .popSymbolName fun _ => .pure _

theorem failsTrimmed_callExpr (kind : CallKind) : FailsTrimmed (callExpr kind loc) :=
  .bind trims_invocation fun _ => .pushExpr _

/-- Dropping the arguments, with or without a warning, comes before anything that could
fail, and nothing after it can. -/
theorem failsTrimmed_instanceCreation (typeName : String) (flag : Bool) :
    FailsTrimmed (instanceCreation typeName flag loc) := by
  unfold instanceCreation
  dsimp only
  -- the node is pushed in three places, none of which can fail
  refine .ite (.bind .popExprList fun _ => .of_neverFails (.ite (.bind (.modify _) fun _ => ?_) ?_))
    (.of_neverFails ?_) <;>
  · refine .bind .get fun b => ?_
    split
    · exact .ite (.pushExpr _) (.pushExpr _)
    · exact .pushExpr _

theorem failsTrimmed_arrayInit (flag : Bool) : FailsTrimmed (arrayInit flag loc) :=
  .branch .popExprList (.pure _) fun _ => .pushExpr _

theorem failsTrimmed_keyValue (key : String) : FailsTrimmed (keyValue key loc) :=
  .bind .popExpr fun _ => .modifyStacks _

theorem failsTrimmed_mapInit (flag : Bool) : FailsTrimmed (mapInit flag loc) :=
  .branch .popKeyValueList (.pure _) fun _ => .pushExpr _

/-! ## Statements -/

theorem failsTrimmed_endBlock : FailsTrimmed (endBlock loc) :=
  .bind .popBlock fun _ => .addStatement _

theorem failsTrimmed_assignment : FailsTrimmed (assignment loc) :=
  .bind .popExpr fun _ => .bind .popExprList fun _ => .addStatement _

theorem failsTrimmed_returnStmt (flag : Bool) : FailsTrimmed (returnStmt flag loc) :=
  .branch .popExprList (.pure _) fun _ => .addStatement _

theorem failsTrimmed_reply : FailsTrimmed (reply loc) :=
  .bind .popExpr fun _ => .addStatement _

theorem failsTrimmed_callStmt (kind : CallKind) : FailsTrimmed (callStmt kind loc) :=
  .bind trims_invocation fun _ => .addStatement _

theorem failsTrimmed_endWhile : FailsTrimmed (endWhile loc) :=
  .bind .popExpr fun _ => .bind .popBlock fun _ => .addStatement _

/-- Changing the innermost conditional fails before it changes anything, when the change
itself only takes. -/
theorem failsTrimmed_modifyIfElse {f : IfFrame → Assembly IfFrame} (hf : ∀ frame, Trims (f frame)) :
    FailsTrimmed (modifyIfElse loc f) := by
  refine .bind .piles fun s => ?_
  split
  · exact .bind (hf _) fun _ => .modifyStacks _
  · exact .structural _

theorem failsTrimmed_endElseIf : FailsTrimmed (endElseIf loc) :=
  .bind .piles fun _ => .ifThen (.structural _) fun _ =>
    .bind .popBlock fun _ => .bind .popExpr fun _ => failsTrimmed_modifyIfElse fun _ => .pure _

/-- A second `else` is refused after its block is taken, and before the conditional changes. -/
theorem failsTrimmed_endElse : FailsTrimmed (endElse loc) :=
  .bind .piles fun _ => .ifThen (.structural _) fun _ =>
    .bind .popBlock fun body => failsTrimmed_modifyIfElse fun frame => by
      split
      · exact .structural _
      · exact .pure _

theorem failsTrimmed_endIfElse : FailsTrimmed (endIfElse loc) :=
  .bind .popIfElse fun _ => .bind .popExpr fun _ => .bind .popBlock fun _ => .addStatement _

/-! ## Declarations -/

theorem trims_annotationValue (x : Expr) : Trims (annotationValue x loc) := by
  unfold annotationValue
  split
  · exact .pure _
  · exact .source _

theorem failsTrimmed_annotationKeyValue (key : String) :
    FailsTrimmed (annotationKeyValue key loc) := by
  refine .bind .popExpr fun x => .bind (trims_annotationValue x) fun _ => .bind .piles fun _ => ?_
  split
  · exact .modifyStacks _
  · exact .structural _

theorem failsTrimmed_annotationEnd (name : String) (flag : Bool) :
    FailsTrimmed (annotationEnd name flag loc) := by
  unfold annotationEnd
  dsimp only
  refine .bind .popAnnotationFrame fun _ => ?_
  -- the positional value, when flagged, is taken and checked before the list is looked for
  split
  · refine .bind .popExpr fun x => .bind (.map _ (trims_annotationValue x)) fun _ =>
      .bind .piles fun _ => ?_
    split
    · exact .modifyStacks _
    · exact .structural _
  · refine .bind (.pure _) fun _ => .bind .piles fun _ => ?_
    split
    · exact .modifyStacks _
    · exact .structural _

theorem failsTrimmed_param (name : String) : FailsTrimmed (param name loc) :=
  .bind .takeType fun _ => .bind .get fun _ =>
    .ite (.modify _) (.ite (.modify _) (.structural _))

theorem failsTrimmed_returnTypes : FailsTrimmed (returnTypes loc) :=
  .bind .get fun _ => .ifThen (.structural _) fun _ =>
    .of_neverFails (.bind (.modifyStacks _) fun _ => .modify _)

theorem failsTrimmed_namedReturnParam (name : String) : FailsTrimmed (namedReturnParam name loc) :=
  .bind .takeType fun _ => .bind .get fun _ => .ifThen (.structural _) fun _ => .modify _

theorem failsTrimmed_constant (name : String) : FailsTrimmed (constant name loc) :=
  .bind .takeType fun _ => .bind .popExpr fun _ =>
    .of_neverFails (.bind (.qualified _) fun _ => .modifyFile _)

theorem failsTrimmed_variableDecl (name : String) : FailsTrimmed (variableDecl name loc) :=
  .bind .takeType fun _ => .bind .get fun _ =>
    .ite (.addStatement _) (.ite (.modify _) (.structural _))

theorem failsTrimmed_connectorDecl (varName : String) : FailsTrimmed (connectorDecl varName loc) :=
  .bind .piles fun _ => .ifThen (.structural _) fun _ =>
    .bind .popSymbolName fun _ => .bind .popSymbolName fun _ => .bind .popExprList fun _ =>
      .bind .get fun _ => .ite (.modify _) (.ite (.modify _) (.structural _))

theorem failsTrimmed_startUnit : FailsTrimmed (startUnit loc) :=
  .bind .get fun _ => .ifThen (.structural _) fun _ =>
    .of_neverFails (.bind (.modify _) fun _ => .modifyStacks _)

theorem failsTrimmed_endUnitBody : FailsTrimmed (endUnitBody loc) :=
  .bind .popBlock fun _ => .bind .get fun _ => .ifThen (.structural _) fun _ => .modify _

/-- Finishing a unit closes it before it takes its annotation list, so a missing list leaves
the unit closed. -/
theorem failsTrimmed_finishUnit (kind : UnitKind) (name : String) (isPublic : Bool) :
    FailsTrimmed (finishUnit kind name isPublic loc) := by
  refine .bind .get fun b => ?_
  split
  · exact .bind .closeUnit fun _ => .bind .popAnnotationList fun _ =>
      .of_neverFails (.bind (.qualified _) fun _ => .pure _)
  · exact .structural _

theorem failsTrimmed_topLevelUnit (kind : UnitKind) (name : String) (isPublic : Bool) :
    FailsTrimmed (topLevelUnit kind name isPublic loc) := by
  refine .bind_total (failsTrimmed_finishUnit _ _ _) fun _ => ?_
  split <;> exact .modifyFile _

theorem failsTrimmed_groupedUnit (kind : UnitKind) (name : String) :
    FailsTrimmed (groupedUnit kind name loc) :=
  .bind .get fun _ => .ifThen (.structural _) fun _ =>
    .bind_total (failsTrimmed_finishUnit _ _ _) fun _ => .modify _

theorem failsTrimmed_startGroup : FailsTrimmed (startGroup loc) :=
  .bind .get fun _ => .ifThen (.structural _) fun _ =>
    .of_neverFails (.bind (.modify _) fun _ => .modifyStacks _)

/-- Finishing a group closes it before it takes its annotation list. -/
theorem failsTrimmed_finishGroup (kind : GroupKind) (name : String) :
    FailsTrimmed (finishGroup kind name loc) := by
  refine .bind .get fun _ => .ifThen (.structural _) fun _ => .bind .get fun b => ?_
  split
  · refine .bind .closeGroup fun _ => .bind .popAnnotationList fun _ =>
      .of_neverFails (.bind (.qualified _) fun _ => ?_)
    split <;> exact .modifyFile _
  · exact .structural _

theorem failsTrimmed_startStruct : FailsTrimmed (startStruct loc) :=
  .bind .get fun _ => .ifThen (.structural _) fun _ => .modify _

theorem failsTrimmed_structField (name : String) : FailsTrimmed (structField name loc) := by
  refine .bind .takeType fun _ => .bind .get fun b => ?_
  split
  · exact .modify _
  · exact .structural _

/-- A struct definition fails only when no struct is open, before anything changes; its
registration comes last. -/
theorem failsTrimmed_structDefinition (name : String) (isPublic : Bool) :
    FailsTrimmed (structDefinition name isPublic loc) := by
  refine .bind .get fun b => ?_
  split
  · exact .of_neverFails (.bind (.modify _) fun _ => .bind (.qualified _) fun _ =>
      .bind (.modifyFile _) fun _ => .modify _)
  · exact .structural _

/-! ## Every step -/

/-- **Every step that fails leaves its builder trimmed.** -/
theorem failsTrimmed_step (s : Step) : FailsTrimmed (step loc s) := by
  cases s <;> simp only [step]
  -- names, packages and types
  case symbolName | connectorSymbolName =>
    exact .of_neverFails (.bind .popPackageName? fun _ => .modifyStacks _)
  case packageName | annotationStart | startExprList | startVarRefList | startMapInitKeyValue
      | startWhileStmt | startIfElseStmt | startElseIfClause | startElseClause | startBlock
      | startCallableUnitBody =>
    exact .modifyStacks _
  case packageDecl =>
    exact .bind .popPackageName fun _ => .of_neverFails (.bind (.modify _) fun _ => .modifyFile _)
  case importPackage => exact .bind .popPackageName fun _ => .of_neverFails (.modifyFile _)
  case type => exact .of_neverFails (.bind .get fun _ => .queueType _)
  case arrayType => exact .of_neverFails (.bind .get fun _ => .bind (.modify _) fun _ => .queueType _)
  case registerConnectorType => exact .modify _
  -- lists and expressions
  case endExprList | endVarRefList => exact failsTrimmed_endExprList _
  case endMapInitKeyValue => exact failsTrimmed_endKeyValueList _
  case literal => exact failsTrimmed_literal _ _
  case varRef | structInitExpr => exact .pushExpr _
  case mapArrayVarRef => exact failsTrimmed_element _
  case structFieldRef => exact failsTrimmed_fieldAccess
  case binaryExpr => exact failsTrimmed_binary _
  case unaryExpr => exact failsTrimmed_unary _
  case backtickExpr => exact failsTrimmed_template _
  case functionInvocationExpr | actionInvocationExpr => exact failsTrimmed_callExpr _
  case typeCastExpr => exact failsTrimmed_cast
  case instanceCreationExpr => exact failsTrimmed_instanceCreation _ _
  case arrayInitExpr => exact failsTrimmed_arrayInit _
  case mapInitKeyValue => exact failsTrimmed_keyValue _
  case mapInitExpr => exact failsTrimmed_mapInit _
  -- statements
  case assignmentStmt => exact failsTrimmed_assignment
  case returnStmt => exact failsTrimmed_returnStmt _
  case replyStmt => exact failsTrimmed_reply
  case endWhileStmt => exact failsTrimmed_endWhile
  case endElseIfClause => exact failsTrimmed_endElseIf
  case endElseClause => exact failsTrimmed_endElse
  case endIfElseStmt => exact failsTrimmed_endIfElse
  case endBlock => exact failsTrimmed_endBlock
  case functionInvocationStmt | actionInvocationStmt => exact failsTrimmed_callStmt _
  -- declarations, units, groups and structs
  case annotationKeyValue => exact failsTrimmed_annotationKeyValue _
  case annotationEnd => exact failsTrimmed_annotationEnd _ _
  case param => exact failsTrimmed_param _
  case returnTypes => exact failsTrimmed_returnTypes
  case namedReturnParam => exact failsTrimmed_namedReturnParam _
  case constant => exact failsTrimmed_constant _
  case variableDecl => exact failsTrimmed_variableDecl _
  case connectorDecl => exact failsTrimmed_connectorDecl _
  case startCallableUnit => exact failsTrimmed_startUnit
  case endCallableUnitBody => exact failsTrimmed_endUnitBody
  case function | typeConverter => exact failsTrimmed_topLevelUnit _ _ _
  case resource | action => exact failsTrimmed_groupedUnit _ _
  case startCallableUnitGroup => exact failsTrimmed_startGroup
  case service | connector => exact failsTrimmed_finishGroup _ _
  case startStruct => exact failsTrimmed_startStruct
  case structField => exact failsTrimmed_structField _
  case structDefinition => exact failsTrimmed_structDefinition _ _

end Assembly

namespace Builder

/-- **A refused event leaves the builder trimmed and aborted.**  A live builder that refuses
an event keeps what the event's assembler took before it failed, and nothing else changes
but the abort flag. -/
theorem apply_error_trimmed {b : Builder} {e : Event} {d : BuildError} (hb : b.aborted = false)
    (h : (b.apply e).2 = .error d) :
    ∃ b' : Builder, b'.Trimmed b ∧ (b.apply e).1 = { b' with aborted := true } := by
  rcases hr : (Assembly.step e.loc e.step).run b with ⟨⟨⟩, b'⟩ | ⟨d', b'⟩
  · rw [apply_of_run_ok hb hr] at h
    cases h
  · rw [apply_of_run_error hb hr]
    exact ⟨b', Assembly.failsTrimmed_step e.step b d' b' hr, rfl⟩

end Builder
end TreeAssembly
