import TreeAssembly.Proofs.Derivation
import TreeAssembly.Proofs.Steps.Expr
import TreeAssembly.Proofs.Registry.Events

/-!
# Instance creation resolves a name as a type reference does

A type reference `T` queues `r.resolve T`: the type registered under `T`, or a struct `T`
still to be declared.  `new T` decides differently.  It looks `T` up, builds an instance
creation when the entry is a type other than a struct, and otherwise builds a struct
initialiser *from the raw name* `T`, dropping whatever struct the entry held.  The two
agree only because a struct found under a key is the struct of that key
(`Registry.Invariant.lookup_struct`), and that holds of every registry a build can hold,
including one carried in from an earlier file, by the registry's invariant and by
`Builder.reachable_registry_applyAll`.

The consequence is that a struct may be used before it is declared.  While nothing but a
struct definition ever enters the registry under a name `n`, that is, `n` is not a key of
the registry the build starts from, no connector type `n` is registered and no array type
is remembered under the key `n`, every registry of the run resolves `n` to the struct `n`,
before its definition and after it alike (`Builder.resolve_applyAll`).

## Main statements

* `Registry.instanceOf_eq`, `Registry.Invariant.ty_instanceOf`: the node of `new T` is
  built from the type `T` resolves to, and in a registry that satisfies the invariant it
  has that type.
* `instanceCreation_resolves_as_type`: for every builder a replay over a reachable registry
  leaves, a type reference and `new T` agree on the type of `T`, and a name that only a
  struct definition can register resolves to its struct before the definition and after.
-/

namespace TreeAssembly

namespace Registry

variable {r : Registry} {n : String}

/-- A name resolves to the struct of that name exactly when it is free or holds that
struct. -/
theorem resolve_eq_struct_iff :
    r.resolve n = .struct n ↔ r.lookup n = none ∨ r.lookup n = some (.struct n) := by
  rcases h : r.lookup n with _ | t
  · simp [h]
  · simp [h, resolve]

/-- `new n` builds the node of the type `n` resolves to: a struct initialiser of the raw
name when that type is a struct, an instance creation of it otherwise. -/
theorem instanceOf_eq (loc : Location) :
    r.instanceOf n loc =
      if (r.resolve n).isStruct then .structInit { name := n } loc else .construct (r.resolve n) loc := by
  rcases h : r.lookup n with _ | t
  · simp [instanceOf, h]
  · rcases hs : t.isStruct <;> simp [instanceOf, h, hs]

/-- **The node of `new n` carries the type `n` resolves to**: a struct entry is always the
struct of its own key, so rebuilding the struct from the raw name loses nothing. -/
theorem Invariant.ty_instanceOf (hr : r.Invariant) (loc : Location) :
    (r.instanceOf n loc).ty = some (r.resolve n) := by
  rcases h : r.lookup n with _ | t
  · simp [instanceOf, h, Expr.ty]
  · cases t
    case struct m =>
      -- the entry is the struct of its key
      obtain rfl := hr.lookup_struct h
      simp [instanceOf, h, Expr.ty]
    all_goals simp [instanceOf, h, Expr.ty, ValueType.isStruct]

/-- An event that succeeds keeps `n` resolving to the struct `n`, unless it registers a
connector type `n` or remembers an array type under the key `n`. -/
theorem resolve_onRegistry {s : Step} (h : r.resolve n = .struct n)
    (hc : s ≠ .registerConnectorType n) (ha : ∀ m, s = .arrayType m → m ++ "[]" ≠ n) :
    (s.onRegistry r).resolve n = .struct n := by
  rw [resolve_eq_struct_iff] at h ⊢
  cases s
  case arrayType m =>
    have hk : n ≠ m ++ "[]" := fun e => ha m rfl e.symm
    simpa [Step.onRegistry, lookup_arrayOf, hk] using h
  case registerConnectorType m =>
    have hk : n ≠ m := fun e => hc (by rw [e])
    simpa [Step.onRegistry, registerConnector, lookup_register, hk] using h
  case structDefinition m _ =>
    -- a struct registered under `n` is the struct `n`; under another name it is not seen
    by_cases hk : n = m
    · subst hk
      rcases h with h | h <;> simp [Step.onRegistry, registerStruct, lookup_register, h]
    · simpa [Step.onRegistry, registerStruct, lookup_register, hk] using h
  all_goals exact h

end Registry

namespace Builder

variable {b : Builder} {n : String}

/-- **Run lemma**: a run whose events neither register a connector type `n` nor remember an
array type under the key `n` keeps `n` resolving to the struct `n`. -/
theorem resolve_applyAll (h : b.registry.resolve n = .struct n) {es : List Event}
    (hc : ∀ e ∈ es, e.step ≠ .registerConnectorType n)
    (ha : ∀ e ∈ es, ∀ m, e.step = .arrayType m → m ++ "[]" ≠ n) :
    (b.applyAll es).1.registry.resolve n = .struct n := by
  induction es generalizing b with
  | nil => exact h
  | cons e es ih =>
    rw [applyAll_cons_fst]
    refine ih ?_ (fun e' he' => hc e' (.tail _ he')) (fun e' he' => ha e' (.tail _ he'))
    -- the event either failed and left the registry alone, or had its registry effect
    rcases registry_apply b e with he | he <;> rw [he]
    · exact h
    · exact Registry.resolve_onRegistry h (hc e (.head _)) (ha e (.head _))

end Builder

open Assembly in
/-- **Instance creation resolves a name exactly as a type reference does.**  Let `b` be
the builder that any events `es` leave over a reachable registry `r`, and `n` any name.
A type reference `n` queues `b.registry.resolve n`.  `new n` without arguments succeeds and
pushes one node `x` whose type is that same type: a struct initialiser of `n` when it is a
struct, an instance creation of it otherwise.  With arguments, `new n` fails on the empty
pile when no expression list is open, before it changes the builder, and otherwise also
takes the top list and drops it, warning when it is not empty.

Consequently, when `n` is not a key of `r`, and no event of `es` registers a connector type
`n` or remembers an array type under the key `n`, then `n` resolves to the struct `n` in `b`,
so a type reference, an instance creation and a struct initialiser of `n` are all tagged
with the struct `n`, before the struct's definition as after it. -/
theorem instanceCreation_resolves_as_type (r : Registry) (hr : r.Reachable) (es : List Event)
    (b : Builder) (hb : b = (Replay.run r es).builder) (n : String) (loc : Location) :
    (step loc (.type n)).run b =
        .ok () { b with piles := { b.piles with types := b.piles.types ++ [b.registry.resolve n] } } ∧
      (∃ x, x.ty = some (b.registry.resolve n) ∧
        x = (if (b.registry.resolve n).isStruct then .structInit { name := n } loc
          else .construct (b.registry.resolve n) loc) ∧
        (step loc (.instanceCreationExpr n false)).run b =
          .ok () { b with piles := { b.piles with exprs := x :: b.piles.exprs } } ∧
        (b.piles.exprLists = [] → (step loc (.instanceCreationExpr n true)).run b =
          .error (.structural (.emptyStack .expressionList) (some loc)) b) ∧
        ∀ l rest, b.piles.exprLists = l :: rest →
          (step loc (.instanceCreationExpr n true)).run b =
            .ok () { b with
              piles := { b.piles with exprLists := rest, exprs := x :: b.piles.exprs },
              warnings := if l.isEmpty then b.warnings else b.warnings ++ [⟨loc, n, l.length⟩] }) ∧
      (r.lookup n = none → (∀ e ∈ es, e.step ≠ .registerConnectorType n) →
        (∀ e ∈ es, ∀ m, e.step = .arrayType m → m ++ "[]" ≠ n) →
        b.registry.resolve n = .struct n ∧
        (step loc (.type n)).run b =
          .ok () { b with piles := { b.piles with types := b.piles.types ++ [.struct n] } } ∧
        (∀ flag b', (step loc (.instanceCreationExpr n flag)).run b = .ok () b' →
          b'.piles.exprs = .structInit { name := n } loc :: b.piles.exprs) ∧
        (step loc (.structInitExpr n)).run b =
          .ok () { b with piles := { b.piles with
            exprs := .structInit { name := n } loc :: b.piles.exprs } }) := by
  -- the builder's registry is reachable, so it satisfies the invariant
  have hinv : b.registry.Invariant := by
    subst hb
    exact (Builder.reachable_registry_applyAll (b := .withRegistry r) hr es).invariant
  have htype : ∀ t, b.registry.resolve n = t →
      (step loc (.type n)).run b =
        .ok () { b with piles := { b.piles with types := b.piles.types ++ [t] } } := by
    rintro t rfl
    rfl
  refine ⟨htype _ rfl, ⟨_, hinv.ty_instanceOf loc, Registry.instanceOf_eq loc,
    run_instanceCreation_bare n b, run_instanceCreation_noList,
    fun l rest hl => run_instanceCreation_args hl⟩, fun hn hc ha => ?_⟩
  -- a name that only a struct definition can register resolves to its struct throughout
  have hres : b.registry.resolve n = .struct n := by
    subst hb
    exact Builder.resolve_applyAll (b := .withRegistry r) (by simp [Builder.withRegistry, hn]) hc ha
  refine ⟨hres, htype _ hres, fun flag b' h => ?_, rfl⟩
  obtain ⟨lists, warnings, x, -, hx, rfl⟩ := run_instanceCreation_ok h
  rcases hx with ⟨rfl, -⟩ | ⟨t, ht, hs, -⟩
  · rfl
  · -- an entry under `n` is the struct `n`, which is no instance type
    rcases Registry.resolve_eq_struct_iff.mp hres with hl | hl <;> rw [hl] at ht <;> cases ht
    simp [ValueType.isStruct] at hs

/-- Over a fresh registry, after the struct `Person` is defined, `new Person` pushes a
struct initialiser typed `Person`, as the type reference `Person` does. -/
theorem instanceCreation_resolves_as_type_person :
    ∃ b, b = (Replay.run .fresh [⟨.startStruct, ⟨"p", 1⟩⟩,
        ⟨.structDefinition "Person" true, ⟨"p", 2⟩⟩]).builder ∧
      (Assembly.step ⟨"p", 3⟩ (.type "Person")).run b =
        .ok () { b with piles := { b.piles with
          types := b.piles.types ++ [b.registry.resolve "Person"] } } ∧
      (∃ x, x.ty = some (b.registry.resolve "Person") ∧
        x = (if (b.registry.resolve "Person").isStruct then .structInit { name := "Person" } ⟨"p", 3⟩
          else .construct (b.registry.resolve "Person") ⟨"p", 3⟩) ∧
        (Assembly.step ⟨"p", 3⟩ (.instanceCreationExpr "Person" false)).run b =
          .ok () { b with piles := { b.piles with exprs := x :: b.piles.exprs } } ∧
        (b.piles.exprLists = [] → (Assembly.step ⟨"p", 3⟩ (.instanceCreationExpr "Person" true)).run b =
          .error (.structural (.emptyStack .expressionList) (some ⟨"p", 3⟩)) b) ∧
        ∀ l rest, b.piles.exprLists = l :: rest →
          (Assembly.step ⟨"p", 3⟩ (.instanceCreationExpr "Person" true)).run b =
            .ok () { b with
              piles := { b.piles with exprLists := rest, exprs := x :: b.piles.exprs },
              warnings := if l.isEmpty then b.warnings
                else b.warnings ++ [⟨⟨"p", 3⟩, "Person", l.length⟩] }) ∧
      (Registry.fresh.lookup "Person" = none →
        (∀ e ∈ [(⟨.startStruct, ⟨"p", 1⟩⟩ : Event), ⟨.structDefinition "Person" true, ⟨"p", 2⟩⟩],
          e.step ≠ .registerConnectorType "Person") →
        (∀ e ∈ [(⟨.startStruct, ⟨"p", 1⟩⟩ : Event), ⟨.structDefinition "Person" true, ⟨"p", 2⟩⟩],
          ∀ m, e.step = .arrayType m → m ++ "[]" ≠ "Person") →
        b.registry.resolve "Person" = .struct "Person" ∧
        (Assembly.step ⟨"p", 3⟩ (.type "Person")).run b =
          .ok () { b with piles := { b.piles with types := b.piles.types ++ [.struct "Person"] } } ∧
        (∀ flag b', (Assembly.step ⟨"p", 3⟩ (.instanceCreationExpr "Person" flag)).run b =
            .ok () b' →
          b'.piles.exprs = .structInit { name := "Person" } ⟨"p", 3⟩ :: b.piles.exprs) ∧
        (Assembly.step ⟨"p", 3⟩ (.structInitExpr "Person")).run b =
          .ok () { b with piles := { b.piles with
            exprs := .structInit { name := "Person" } ⟨"p", 3⟩ :: b.piles.exprs } }) :=
  ⟨_, rfl, instanceCreation_resolves_as_type .fresh .fresh _ _ rfl "Person" ⟨"p", 3⟩⟩

end TreeAssembly
