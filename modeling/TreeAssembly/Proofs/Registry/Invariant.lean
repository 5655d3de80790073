import Mathlib.Data.List.Nodup
import TreeAssembly.Types.Registry

/-!
# The type registry's representation invariant

A registry keeps its entries to itself: a program obtains one only as a fresh registry and
changes it only through the registry's own operations, which remember array types,
register structs and connectors, or reset it.  Look-ups and resolution read a registry and
leave it as it is.  `Registry.Reachable` names the registries obtained so.

Every reachable registry satisfies `Registry.Invariant`: the ten built-in types are
present, the keys are distinct, and every entry holds a type whose name is its key.  The
last part is the one with content.  A struct or a connector is registered under its own
name, but an array type is stored under `element[]` and built from the *resolved* element
type, which may be an entry stored earlier under any name.  Its name agrees with its key
only because the resolved element's name agrees with `element`, by the same invariant:
the induction over the operations carries it from entry to entry.

## Main statements

* `Registry.Invariant.register`, `Registry.Invariant.arrayOf`: the step lemmas.
* `Registry.Reachable.invariant`: every reachable registry satisfies the invariant.
* `Registry.Invariant.resolve_name`, `Registry.Invariant.arrayOf_name`: resolving a name
  gives a type of that name, and the array type of `element` is named `element[]`.
* `Registry.reachable_representation`: the invariant with the operations' frame laws,
  first registration wins, and reset.
-/

namespace TreeAssembly
namespace Registry

/-- The registries a program can obtain: a fresh one, and whatever the registry's
operations make of one it has. -/
inductive Reachable : Registry → Prop
  | fresh : Reachable fresh
  | arrayOf {r : Registry} (h : Reachable r) (element : String) : Reachable (r.arrayOf element).2
  | registerStruct {r : Registry} (h : Reachable r) (name : String) :
      Reachable (r.registerStruct name).2
  | registerConnector {r : Registry} (h : Reachable r) (name : String) :
      Reachable (r.registerConnector name).2
  | reset {r : Registry} (h : Reachable r) : Reachable r.reset

/-- **The representation invariant**: the built-in types are present under their names,
no key occurs twice, and every entry's type is named by its key. -/
structure Invariant (r : Registry) : Prop where
  builtins : ∀ p ∈ ValueType.builtins, r.lookup p.1 = some p.2
  keys_nodup : (r.entries.map Prod.fst).Nodup
  named : ∀ p ∈ r.entries, p.2.name = p.1

variable {r : Registry} {k name element : String} {t : ValueType}

/-! ## Look-ups -/

theorem mem_entries_of_lookup (h : r.lookup k = some t) : (k, t) ∈ r.entries := by
  obtain ⟨l₁, l₂, he, -⟩ := List.lookup_eq_some_iff.mp h
  rw [he]
  simp

theorem not_mem_keys_of_lookup (h : r.lookup k = none) : k ∉ r.entries.map Prod.fst := by
  have hall := List.lookup_eq_none_iff.mp h
  simp only [List.mem_map, not_exists, not_and]
  intro p hp hk
  simpa [hk] using hall p hp

/-- An addition never hides what was registered before. -/
theorem lookup_register_of_some (h : r.lookup k = some t) (name : String) (t' : ValueType) :
    (r.register name t').2.lookup k = some t := by
  rw [lookup_register, h]
  rfl

theorem lookup_arrayOf_of_some (h : r.lookup k = some t) (element : String) :
    (r.arrayOf element).2.lookup k = some t := by
  rw [arrayOf_snd]
  exact lookup_register_of_some h _ _

namespace Invariant

theorem fresh : Registry.fresh.Invariant where
  builtins := by decide
  keys_nodup := by decide
  named := by decide

theorem reset (r : Registry) : r.reset.Invariant := Invariant.fresh

/-- The type found under a key is named by that key. -/
theorem lookup_name (hr : r.Invariant) (h : r.lookup k = some t) : t.name = k :=
  hr.named _ (mem_entries_of_lookup h)

/-- A struct found under a key is the struct of that name. -/
theorem lookup_struct (hr : r.Invariant) {n : String} (h : r.lookup k = some (.struct n)) :
    n = k :=
  hr.lookup_name h

/-- **Resolving a name gives a type of that name**: the entry stored under it, or a struct
of that name. -/
theorem resolve_name (hr : r.Invariant) (name : String) : (r.resolve name).name = name := by
  rcases h : r.lookup name with _ | t
  · rw [resolve_of_lookup_none r name h]
    rfl
  · rw [resolve_of_lookup_some r name t h]
    exact hr.lookup_name h

/-- The array type of `element` is named `element[]`, remembered or made afresh. -/
theorem arrayOf_name (hr : r.Invariant) (element : String) :
    (r.arrayOf element).1.name = element ++ "[]" := by
  rw [arrayOf_fst]
  rcases h : r.lookup (element ++ "[]") with _ | t
  · simp [hr.resolve_name element]
  · exact hr.lookup_name h

/-- **Step lemma**: registering a type under its own name keeps the invariant. -/
theorem register (hr : r.Invariant) (ht : t.name = name) : (r.register name t).2.Invariant := by
  rcases h : r.lookup name with _ | t'
  · -- the name is free, so the entry is appended and its key is new
    simp only [Registry.register, h]
    refine ⟨fun p hp => ?_, ?_, ?_⟩
    · rw [lookup_append_entry, hr.builtins p hp]
      rfl
    · rw [List.map_append, List.map_singleton]
      exact hr.keys_nodup.append (List.nodup_singleton _)
        (List.disjoint_singleton.mpr (not_mem_keys_of_lookup h))
    · simp only [List.mem_append, List.mem_singleton]
      rintro p (hp | rfl)
      · exact hr.named p hp
      · exact ht
  · simpa [Registry.register, h] using hr

theorem registerStruct (hr : r.Invariant) (name : String) : (r.registerStruct name).2.Invariant :=
  hr.register rfl

theorem registerConnector (hr : r.Invariant) (name : String) :
    (r.registerConnector name).2.Invariant :=
  hr.register rfl

/-- **Step lemma**: remembering an array type keeps the invariant, because the type stored
under `element[]` is the array of the resolved element, whose name is `element`. -/
theorem arrayOf (hr : r.Invariant) (element : String) : (r.arrayOf element).2.Invariant := by
  rw [arrayOf_snd]
  exact hr.register (by simp [hr.resolve_name element])

end Invariant

/-- **Run lemma**: every reachable registry satisfies the invariant. -/
theorem Reachable.invariant (h : r.Reachable) : r.Invariant := by
  induction h with
  | fresh => exact .fresh
  | arrayOf _ element ih => exact ih.arrayOf element
  | registerStruct _ name ih => exact ih.registerStruct name
  | registerConnector _ name ih => exact ih.registerConnector name
  | reset => exact .reset _

/-- **The registry's representation invariant.**  In every reachable registry: (a) the ten
built-in names map to their types; (b) the keys are distinct and every entry's type is
named by its key, so resolving any name gives a type of that name and the array type of
any element name `e` is named `e[]`; (c) remembering an array type and registering a
struct or a connector keep every entry found before, registering reports a taken name,
and changes nothing, exactly when the name is taken, and remembering an array type adds at
most the entry under `element[]`, and only when that key is free; (d) resetting gives the
fresh registry. -/
theorem reachable_representation (hr : r.Reachable) :
    (∀ p ∈ ValueType.builtins, r.lookup p.1 = some p.2) ∧
    ((r.entries.map Prod.fst).Nodup ∧ (∀ p ∈ r.entries, p.2.name = p.1) ∧
      (∀ n, (r.resolve n).name = n) ∧ (∀ e, (r.arrayOf e).1.name = e ++ "[]")) ∧
    ((∀ k t, r.lookup k = some t → ∀ n e,
        (r.registerStruct n).2.lookup k = some t ∧ (r.registerConnector n).2.lookup k = some t ∧
        (r.arrayOf e).2.lookup k = some t) ∧
      (∀ n, ((r.registerStruct n).1 = false ∧ (r.registerStruct n).2 = r ↔
          (r.lookup n).isSome) ∧
        ((r.registerConnector n).1 = false ∧ (r.registerConnector n).2 = r ↔
          (r.lookup n).isSome)) ∧
      (∀ e k, (r.arrayOf e).2.lookup k = r.lookup k ∨
        k = e ++ "[]" ∧ r.lookup k = none)) ∧
    r.reset = fresh := by
  have hinv := hr.invariant
  refine ⟨hinv.builtins, ⟨hinv.keys_nodup, hinv.named, hinv.resolve_name, hinv.arrayOf_name⟩,
    ⟨fun k t hk n e => ⟨lookup_register_of_some hk _ _, lookup_register_of_some hk _ _,
      lookup_arrayOf_of_some hk e⟩, fun n => ⟨register_eq_false_iff r n _,
      register_eq_false_iff r n _⟩, fun e k => ?_⟩, rfl⟩
  -- only a free `e[]` can gain an entry
  rw [lookup_arrayOf]
  rcases h : r.lookup k with _ | t
  · by_cases hk : k = e ++ "[]"
    · exact .inr ⟨hk, rfl⟩
    · simp [hk]
  · exact .inl rfl

/-- A registry that has remembered `Person[]` after registering the struct `Person`
satisfies the invariant and its laws. -/
theorem reachable_representation_person :
    ∃ r, r = ((fresh.registerStruct "Person").2.arrayOf "Person").2 ∧ r.Reachable ∧
    (∀ p ∈ ValueType.builtins, r.lookup p.1 = some p.2) ∧
    ((r.entries.map Prod.fst).Nodup ∧ (∀ p ∈ r.entries, p.2.name = p.1) ∧
      (∀ n, (r.resolve n).name = n) ∧ (∀ e, (r.arrayOf e).1.name = e ++ "[]")) ∧
    ((∀ k t, r.lookup k = some t → ∀ n e,
        (r.registerStruct n).2.lookup k = some t ∧ (r.registerConnector n).2.lookup k = some t ∧
        (r.arrayOf e).2.lookup k = some t) ∧
      (∀ n, ((r.registerStruct n).1 = false ∧ (r.registerStruct n).2 = r ↔
          (r.lookup n).isSome) ∧
        ((r.registerConnector n).1 = false ∧ (r.registerConnector n).2 = r ↔
          (r.lookup n).isSome)) ∧
      (∀ e k, (r.arrayOf e).2.lookup k = r.lookup k ∨
        k = e ++ "[]" ∧ r.lookup k = none)) ∧
    r.reset = fresh :=
  have hr : Reachable ((fresh.registerStruct "Person").2.arrayOf "Person").2 :=
    .arrayOf (.registerStruct .fresh "Person") "Person"
  ⟨_, rfl, hr, reachable_representation hr⟩

end Registry
end TreeAssembly
