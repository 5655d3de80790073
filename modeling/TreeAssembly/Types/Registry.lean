import TreeAssembly.Types.Basic

/-!
# The type registry

A registry maps type names to types.  It starts with the ten built-in types, and a
build adds to it: struct and connector declarations register their names, and array
types are remembered under the name `element[]` the first time they are asked for.
A name is never overwritten: the first registration wins, and a later one reports
that the name was taken.

The entries are kept as a list of pairs in the order they were added; every name
occurs at most once, since each addition first checks that its name is free.
-/

namespace TreeAssembly

/-- A table from type names to types; the first registration of a name wins. -/
structure Registry where
  entries : List (String × ValueType)
  deriving DecidableEq, Repr

namespace Registry

/-- The registry of a fresh build: the built-in types only. -/
def fresh : Registry := ⟨ValueType.builtins⟩

instance : Inhabited Registry := ⟨fresh⟩

/-- Drops every registration of the user and keeps the built-in types. -/
def reset (_ : Registry) : Registry := fresh

/-- The type registered under `name`, if any. -/
def lookup (r : Registry) (name : String) : Option ValueType :=
  r.entries.lookup name

/-- The type registered under `name`, or a struct of that name when the name is not
known yet: such a struct may be declared later in the file. -/
def resolve (r : Registry) (name : String) : ValueType :=
  (r.lookup name).getD (.struct name)

/-- The array type with elements named `element`, and the registry that remembers it
under `element[]`.  A remembered array type is returned as it was first made. -/
def arrayOf (r : Registry) (element : String) : ValueType × Registry :=
  let key := element ++ "[]"
  match r.lookup key with
  | some t => (t, r)
  | none =>
    let t := ValueType.array (r.resolve element)
    (t, ⟨r.entries ++ [(key, t)]⟩)

/-- Registers `t` under `name` unless the name is taken; the flag says whether it was
registered. -/
def register (r : Registry) (name : String) (t : ValueType) : Bool × Registry :=
  match r.lookup name with
  | some _ => (false, r)
  | none => (true, ⟨r.entries ++ [(name, t)]⟩)

/-- Registers a user struct under its own name. -/
def registerStruct (r : Registry) (name : String) : Bool × Registry :=
  r.register name (.struct name)

/-- Registers a user connector under its own name. -/
def registerConnector (r : Registry) (name : String) : Bool × Registry :=
  r.register name (.connector name)

@[simp] theorem resolve_of_lookup_some (r : Registry) (name : String) (t : ValueType)
    (h : r.lookup name = some t) : r.resolve name = t := by
  simp [resolve, h]

@[simp] theorem resolve_of_lookup_none (r : Registry) (name : String)
    (h : r.lookup name = none) : r.resolve name = .struct name := by
  simp [resolve, h]

/-! ## Look-ups after an addition

An entry is added at the end, and a look-up finds the first entry of its name, so what
was registered before is found as it was: the first registration wins. -/

theorem lookup_append_entry (r : Registry) (key k : String) (t : ValueType) :
    (⟨r.entries ++ [(key, t)]⟩ : Registry).lookup k =
      (r.lookup k).or (if k = key then some t else none) := by
  by_cases hk : k = key
  · simp [lookup, List.lookup_append, hk]
  · have hne : (k == key) = false := by simpa using hk
    simp [lookup, List.lookup_append, List.lookup_cons, hne, hk]

theorem lookup_register (r : Registry) (name k : String) (t : ValueType) :
    (r.register name t).2.lookup k = (r.lookup k).or (if k = name then some t else none) := by
  rcases h : r.lookup name with _ | t'
  · simp only [register, h, lookup_append_entry]
  · by_cases hk : k = name
    · subst hk
      simp [register, h]
    · simp [register, h, hk]

/-- Registering reports a taken name, and then changes nothing, exactly when the name is
taken. -/
theorem register_eq_false_iff (r : Registry) (name : String) (t : ValueType) :
    (r.register name t).1 = false ∧ (r.register name t).2 = r ↔ (r.lookup name).isSome := by
  rcases h : r.lookup name with _ | t' <;> simp [register, h]

/-- Remembering an array type is registering it under `element[]`. -/
theorem arrayOf_snd (r : Registry) (element : String) :
    (r.arrayOf element).2 = (r.register (element ++ "[]") (.array (r.resolve element))).2 := by
  rcases h : r.lookup (element ++ "[]") with _ | t <;> simp [arrayOf, register, h]

/-- The array type returned is the one remembered, or else the array of the resolved
element type. -/
theorem arrayOf_fst (r : Registry) (element : String) :
    (r.arrayOf element).1 = (r.lookup (element ++ "[]")).getD (.array (r.resolve element)) := by
  rcases h : r.lookup (element ++ "[]") with _ | t <;> simp [arrayOf, h]

theorem lookup_arrayOf (r : Registry) (element k : String) :
    (r.arrayOf element).2.lookup k =
      (r.lookup k).or (if k = element ++ "[]" then some (.array (r.resolve element)) else none) := by
  rw [arrayOf_snd, lookup_register]

end Registry

end TreeAssembly
