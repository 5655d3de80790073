import TreeAssembly.Proofs.Registry.Events

/-!
# The array-type memo

`Registry.arrayOf e` remembers the array type it makes under the key `e[]` and returns
what it finds there on every later call.  The memo is keyed by the element's *spelling*,
not by the type the spelling resolves to, and no entry is ever replaced.  So the memo is
not transparent: the answer can differ from the array of what `e` resolves to now
(`Registry.arrayOf_stale_after_connector`).

It can differ in two ways only.  A name that is not known resolves to the placeholder
struct of its spelling, and the memo keeps the array of that placeholder.  Registering the
name as a struct later gives it the placeholder's meaning, so nothing is lost; registering
it as a connector, or remembering an array type under it (the name itself ends in `[]`),
gives it another one, and the memo goes stale.  And a struct or connector may be
registered under the key `e[]` itself before any array of `e` is asked for: then
`arrayOf e` returns that struct or connector, which is no array at all.

`Registry.MemoEntry r e t` lists these cases, and every reachable registry holds under every
key `e[]` only such an entry (`Registry.Reachable.memoInvariant`).  The proof is the usual
induction over the registry's operations.  The step is `MemoEntry.register`: every
operation registers a free name `k` with a struct or connector of that name or with an
array type, and such a registration turns a memo entry into a memo entry, because the only
resolution it can change is the placeholder of `k`, into a connector or an array type.

## Main statements

* `Registry.arrayOf_stale_after_connector`: a stale memo, after `Foo[]` was remembered
  and `Foo` then registered as a connector.
* `Registry.Reachable.memoInvariant`: the entries under `e[]` of every reachable registry.
* `arrayType_queues_memo_entry`: what `arrayOf` returns in a reachable registry, and what
  an array type reference queues next to the plain type reference, in every builder of a
  chain of builds.
-/

namespace TreeAssembly
namespace Registry

variable {r : Registry} {e k : String} {t u : ValueType}

/-! ## Array keys -/

/-- An element name is not its own array key. -/
theorem ne_arrayKey (e : String) : e ≠ e ++ "[]" := by
  intro h
  have := congrArg String.length h
  simp at this

/-- No built-in name is an array key: each ends in a letter. -/
theorem lookup_fresh_arrayKey (e : String) : fresh.lookup (e ++ "[]") = none := by
  have hlast : (e ++ "[]").toList.getLast? = some ']' := by simp [String.toList_append]
  have hbuiltin : ∀ p ∈ ValueType.builtins, p.1.toList.getLast? ≠ some ']' := by decide
  rw [lookup, List.lookup_eq_none_iff]
  intro p hp
  rw [bne_iff_ne]
  intro hk
  rw [hk] at hlast
  exact hbuiltin p hp hlast

/-- The resolution of a name after registering a free name `k`: unchanged unless the name
is `k` itself. -/
theorem resolve_register (r : Registry) (k e : String) (u : ValueType) :
    (r.register k u).2.resolve e =
      (r.lookup e).getD (if e = k then u else .struct e) := by
  rw [resolve, lookup_register]
  rcases r.lookup e with _ | w
  · by_cases he : e = k <;> simp [he]
  · rfl

/-! ## Memo entries -/

/-- What a reachable registry may hold under the key `e[]`: the array of what `e` resolves to
now; the array of the placeholder struct `e`, remembered while `e` was unknown, once `e` has
become a connector or an array type; or a struct or connector registered under the key
itself. -/
def MemoEntry (r : Registry) (e : String) (t : ValueType) : Prop :=
  t = .array (r.resolve e) ∨
    (t = .array (.struct e) ∧ ∃ w, r.lookup e = some w ∧ (w = .connector e ∨ ∃ v, w = .array v)) ∨
    t = .struct (e ++ "[]") ∨ t = .connector (e ++ "[]")

/-- Every entry under an array key is a memo entry. -/
def MemoInvariant (r : Registry) : Prop :=
  ∀ e t, r.lookup (e ++ "[]") = some t → r.MemoEntry e t

/-- The types the registry's operations register under a name `k`: the struct or the
connector `k`, or an array type. -/
def Registrable (k : String) (u : ValueType) : Prop :=
  u = .struct k ∨ u = .connector k ∨ ∃ v, u = .array v

/-- **A memo entry stays one** when a free name is registered with a registrable type: the
only resolution that changes is that of the name itself, from its placeholder to the new
type, and a struct of the same name is the placeholder again. -/
theorem MemoEntry.register (h : r.MemoEntry e t) (hu : Registrable k u) :
    (r.register k u).2.MemoEntry e t := by
  rcases h with rfl | ⟨rfl, w, hw, hshape⟩ | rfl | rfl
  · rcases he : r.lookup e with _ | w
    · -- `e` was unknown: the memo is the array of its placeholder
      rw [resolve_of_lookup_none r e he]
      by_cases hek : e = k
      · subst hek
        rcases hu with rfl | rfl | ⟨v, rfl⟩
        · left
          simp [resolve_register, he]
        · exact .inr (.inl ⟨rfl, _, by simp [lookup_register, he], .inl rfl⟩)
        · exact .inr (.inl ⟨rfl, _, by simp [lookup_register, he], .inr ⟨v, rfl⟩⟩)
      · left
        simp [resolve_register, he, hek]
    · -- `e` was known: its resolution stays as it was
      left
      simp [resolve_register, he]
  · exact .inr (.inl ⟨rfl, w, lookup_register_of_some hw k u, hshape⟩)
  · exact .inr (.inr (.inl rfl))
  · exact .inr (.inr (.inr rfl))

namespace MemoInvariant

theorem fresh : fresh.MemoInvariant := by
  intro e t h
  rw [lookup_fresh_arrayKey] at h
  cases h

theorem reset (r : Registry) : r.reset.MemoInvariant := MemoInvariant.fresh

/-- **Step lemma**: registering a free name with a registrable type keeps the invariant, when
the new entry is itself a memo entry if its name is an array key. -/
theorem register (hr : r.MemoInvariant) (hu : Registrable k u)
    (hnew : ∀ e, k = e ++ "[]" → (r.register k u).2.MemoEntry e u) :
    (r.register k u).2.MemoInvariant := by
  intro e t h
  rw [lookup_register] at h
  rcases hold : r.lookup (e ++ "[]") with _ | t'
  · -- the entry is the new one
    rw [hold] at h
    by_cases hk : e ++ "[]" = k
    · simp only [hk, if_true, Option.none_or, Option.some.injEq] at h
      subst h
      exact hnew e hk.symm
    · simp [hk] at h
  · rw [hold, Option.some_or, Option.some.injEq] at h
    subst h
    exact (hr e _ hold).register hu

theorem registerStruct (hr : r.MemoInvariant) (name : String) :
    (r.registerStruct name).2.MemoInvariant :=
  hr.register (.inl rfl) fun _ hk => .inr (.inr (.inl (by rw [hk])))

theorem registerConnector (hr : r.MemoInvariant) (name : String) :
    (r.registerConnector name).2.MemoInvariant :=
  hr.register (.inr (.inl rfl)) fun _ hk => .inr (.inr (.inr (by rw [hk])))

/-- Remembering the array of `x` stores the array of what `x` resolves to, and storing it
under `x[]` does not change how `x` resolves. -/
theorem arrayOf (hr : r.MemoInvariant) (x : String) : (r.arrayOf x).2.MemoInvariant := by
  rw [arrayOf_snd]
  refine hr.register (.inr (.inr ⟨_, rfl⟩)) fun e hk => .inl ?_
  obtain rfl : x = e := by simpa using hk
  rw [resolve_register, if_neg (ne_arrayKey x)]
  rfl

end MemoInvariant

/-- **Run lemma**: every reachable registry holds only memo entries under array keys. -/
theorem Reachable.memoInvariant (h : r.Reachable) : r.MemoInvariant := by
  induction h with
  | fresh => exact .fresh
  | arrayOf _ element ih => exact ih.arrayOf element
  | registerStruct _ name ih => exact ih.registerStruct name
  | registerConnector _ name ih => exact ih.registerConnector name
  | reset => exact .reset _

/-- The array type of `e` in a reachable registry is the one remembered under `e[]`, or the
array of what `e` resolves to; either way a memo entry. -/
theorem Reachable.arrayOf_memoEntry (h : r.Reachable) (e : String) :
    r.MemoEntry e (r.arrayOf e).1 := by
  rw [arrayOf_fst]
  rcases hk : r.lookup (e ++ "[]") with _ | t
  · exact .inl rfl
  · exact h.memoInvariant e t hk

/-- **The memo is not transparent.**  Remember `Foo[]` while `Foo` is unknown, then register
the connector `Foo`: the array type of `Foo` is still the array of the placeholder struct,
while `Foo` resolves to the connector. -/
theorem arrayOf_stale_after_connector :
    Reachable ((fresh.arrayOf "Foo").2.registerConnector "Foo").2 ∧
      (((fresh.arrayOf "Foo").2.registerConnector "Foo").2.arrayOf "Foo").1 =
        .array (.struct "Foo") ∧
      ((fresh.arrayOf "Foo").2.registerConnector "Foo").2.resolve "Foo" = .connector "Foo" ∧
      (((fresh.arrayOf "Foo").2.registerConnector "Foo").2.arrayOf "Foo").1 ≠
        .array (((fresh.arrayOf "Foo").2.registerConnector "Foo").2.resolve "Foo") :=
  ⟨.registerConnector (.arrayOf .fresh "Foo") "Foo", by decide, by decide, by decide⟩

end Registry

/-! ## Chains of builds -/

/-- Every build of a chain over a reachable registry runs over a reachable registry, and
hands a reachable one on. -/
theorem Replay.reachable_chain {r : Registry} (hr : r.Reachable) (files : List (Bool × List Event)) :
    ∀ rep ∈ Replay.chain r files, rep.builder.registry.Reachable ∧ rep.nextRegistry.Reachable := by
  induction files generalizing r with
  | nil => simp [Replay.chain]
  | cons file files ih =>
    obtain ⟨reset, events⟩ := file
    have hstart : (if reset then r.reset else r).Reachable := by
      cases reset
      · exact hr
      · exact .reset hr
    -- the builder's registry is reachable, and it is what a finished build hands on
    have hbuilder := Builder.reachable_registry_applyAll (b := .withRegistry _) hstart events
    have hnext : (Replay.run (if reset then r.reset else r) events).nextRegistry.Reachable := by
      unfold Replay.nextRegistry
      split
      · rename_i u r' hres
        obtain ⟨-, -, -, -, -, -, rfl⟩ := Builder.finish_eq_ok hres
        exact hbuilder
      · exact .fresh
    intro rep hrep
    rcases List.mem_cons.mp hrep with rfl | hrep
    · exact ⟨hbuilder, hnext⟩
    · exact ih hnext rep hrep

/-- **The array-type memo, at both levels.**  In every reachable registry, the array type of
`e` is the entry remembered under `e[]`, or else the array of what `e` resolves to; and it is
a memo entry: the array of what `e` resolves to now, the array of the placeholder struct `e`
once `e` has become a connector or an array type, or a struct or connector registered under
`e[]` itself.

Every builder of a chain of builds over a reachable registry, at any point of any of its
files, holds a reachable registry.  In every builder over a reachable registry, an array
type reference `e[]` queues exactly the array type that the registry's `arrayOf e` gives, and
remembers it, while the type reference `e` queues what `e` resolves to: the two agree unless
the memo is stale or was registered directly. -/
theorem arrayType_queues_memo_entry :
    (∀ r : Registry, r.Reachable → ∀ e,
      (r.arrayOf e).1 = (r.lookup (e ++ "[]")).getD (.array (r.resolve e)) ∧
        r.MemoEntry e (r.arrayOf e).1) ∧
    (∀ r : Registry, r.Reachable → ∀ files, ∀ rep ∈ Replay.chain r files,
      rep.builder.registry.Reachable) ∧
    ∀ b : Builder, b.registry.Reachable → ∀ e loc,
      (Assembly.step loc (.arrayType e)).run b =
          .ok () { b with registry := (b.registry.arrayOf e).2,
                            piles := { b.piles with
                              types := b.piles.types ++ [(b.registry.arrayOf e).1] } } ∧
        (Assembly.step loc (.type e)).run b =
          .ok () { b with piles := { b.piles with types := b.piles.types ++ [b.registry.resolve e] } } ∧
        b.registry.MemoEntry e (b.registry.arrayOf e).1 := by
  refine ⟨fun r hr e => ⟨Registry.arrayOf_fst r e, hr.arrayOf_memoEntry e⟩,
    fun r hr files rep hrep => (Replay.reachable_chain hr files rep hrep).1,
    fun b hb e loc => ⟨Assembly.run_arrayType e b, Assembly.run_type e b, hb.arrayOf_memoEntry e⟩⟩

/-- In the registry where `Foo[]` was remembered before `Foo` became a connector, the array
type of `Foo` is the stale memo entry, the array of the struct `Foo`; a builder over that
registry, alone or as the next file of a chain, queues that array for `Foo[]` and the
connector for `Foo`. -/
theorem arrayType_queues_memo_entry_foo :
    ∃ r, r = ((Registry.fresh.arrayOf "Foo").2.registerConnector "Foo").2 ∧ r.Reachable ∧
      (r.arrayOf "Foo").1 = .array (.struct "Foo") ∧ r.resolve "Foo" = .connector "Foo" ∧
      r.MemoEntry "Foo" (.array (.struct "Foo")) ∧
      (∀ rep ∈ Replay.chain r [(false, [⟨.arrayType "Foo", ⟨"p", 1⟩⟩])],
        rep.builder.registry.Reachable) ∧
      (Assembly.step ⟨"p", 1⟩ (.arrayType "Foo")).run (Builder.withRegistry r) =
          .ok () { Builder.withRegistry r with
                      registry := (r.arrayOf "Foo").2,
                      piles := { types := [.array (.struct "Foo")] } } ∧
        (Assembly.step ⟨"p", 1⟩ (.type "Foo")).run (Builder.withRegistry r) =
          .ok () { Builder.withRegistry r with piles := { types := [.connector "Foo"] } } := by
  refine ⟨_, rfl, ?_⟩
  have hr : Registry.Reachable ((Registry.fresh.arrayOf "Foo").2.registerConnector "Foo").2 :=
    .registerConnector (.arrayOf .fresh "Foo") "Foo"
  have harray : (((Registry.fresh.arrayOf "Foo").2.registerConnector "Foo").2.arrayOf "Foo").1 =
      .array (.struct "Foo") := by decide
  have hresolve : ((Registry.fresh.arrayOf "Foo").2.registerConnector "Foo").2.resolve "Foo" =
      .connector "Foo" := by decide
  have hmemo := (arrayType_queues_memo_entry.1 _ hr "Foo").2
  have hqueue := arrayType_queues_memo_entry.2.2
    (Builder.withRegistry ((Registry.fresh.arrayOf "Foo").2.registerConnector "Foo").2) hr "Foo" ⟨"p", 1⟩
  rw [harray] at hmemo
  refine ⟨hr, harray, hresolve, hmemo, arrayType_queues_memo_entry.2.1 _ hr _, ?_, ?_⟩
  · rw [← harray]
    exact hqueue.1
  · rw [← hresolve]
    exact hqueue.2.1

end TreeAssembly
