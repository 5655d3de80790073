import TreeAssembly.Builder.Replay

/-!
# Runs of the builder: the first error wins

`Builder.apply` feeds one event to its assembler, and `Builder.applyAll` feeds a list,
recording each event's outcome.  A replay, as a parser's driver runs it, stops at the
first failing event; `Builder.exec` is that loop, and it is the form in which the later
files state what a run of events does.

The point of this file is the abort rule.  An event that fails marks the builder as
aborted, which keeps what the failing assembler changed; an aborted builder refuses every
event with `builder aborted by an earlier error` and changes nothing.  So a run splits at
its first failure into

* a prefix whose events all succeed,
* the failing event, whose error is the one the replay reports, and
* a suffix whose events are all refused, without touching the builder,

and a failed run never hands out a compilation unit (`replay_first_error`).

## Contents

* `exec_append`, `exec_cons_of_run`, `exec_cons_of_error`: how `exec` composes.
* `applyAll_append`, `applyAll_of_aborted`: outcome lists of a split run, and of a run on
  an aborted builder.
* `finish_eq_ok`: what a builder that finishes holds.
* `outcome_run`: a replay reports exactly what `exec` followed by `finish` gives.
* `replay_first_error`: the abort rule for every run, as described above.
-/

namespace TreeAssembly

/-! ## Results that pass through failing steps -/

@[simp] theorem except_pure {ε α : Type} (a : α) : (pure a : Except ε α) = .ok a := rfl

@[simp] theorem except_throw {ε α : Type} (e : ε) : (throw e : Except ε α) = .error e := rfl

@[simp] theorem ok_bind {ε α β : Type} (a : α) (f : α → Except ε β) :
    (Except.ok a >>= f) = f a := rfl

@[simp] theorem error_bind {ε α β : Type} (e : ε) (f : α → Except ε β) :
    (Except.error e >>= f) = .error e := rfl

@[simp] theorem map_ok {ε α β : Type} (a : α) (f : α → β) :
    (f <$> (Except.ok a : Except ε α)) = .ok (f a) := rfl

@[simp] theorem map_error {ε α β : Type} (e : ε) (f : α → β) :
    (f <$> (Except.error e : Except ε α)) = .error e := rfl

@[simp] theorem except_map_ok {ε α β : Type} (a : α) (f : α → β) :
    (Except.ok a : Except ε α).map f = .ok (f a) := rfl

@[simp] theorem except_map_error {ε α β : Type} (e : ε) (f : α → β) :
    (Except.error e : Except ε α).map f = .error e := rfl

namespace Builder

/-! ## One event -/

theorem apply_of_aborted {b : Builder} (h : b.aborted = true) (e : Event) :
    b.apply e = (b, .error .aborted) := by
  simp [apply, h]

/-- An event applied to a live builder runs its assembler; failure marks the builder that
the assembler left as aborted. -/
theorem apply_of_live {b : Builder} (h : b.aborted = false) (e : Event) :
    b.apply e = match (Assembly.step e.loc e.step).run b with
      | .ok () b' => (b', .ok ())
      | .error err b' => ({ b' with aborted := true }, .error err) := by
  show (if b.aborted then _ else _) = _
  exact if_neg (by simp [h])

/-- A live builder whose assembler accepts the event becomes the assembler's builder. -/
theorem apply_of_run_ok {b b' : Builder} {e : Event} (hb : b.aborted = false)
    (h : (Assembly.step e.loc e.step).run b = .ok () b') : b.apply e = (b', .ok ()) := by
  rw [apply_of_live hb, h]

/-- A live builder whose assembler fails keeps what the assembler changed, and is
aborted. -/
theorem apply_of_run_error {b b' : Builder} {e : Event} {d : BuildError}
    (hb : b.aborted = false) (h : (Assembly.step e.loc e.step).run b = .error d b') :
    b.apply e = ({ b' with aborted := true }, .error d) := by
  rw [apply_of_live hb, h]

/-- Whatever an event does, if it fails the builder is aborted afterwards. -/
theorem aborted_of_apply_error {b : Builder} {e : Event} {d : BuildError}
    (h : (b.apply e).2 = .error d) : (b.apply e).1.aborted = true := by
  cases hb : b.aborted with
  | true => rw [apply_of_aborted hb]; exact hb
  | false =>
    rw [apply_of_live hb] at h ⊢
    cases hr : (Assembly.step e.loc e.step).run b with
    | ok _ b' => simp [hr] at h
    | error err b' => rfl

/-! ## Runs that stop at the first failure -/

/-- Applies events in order and stops at the first failing one: its error, or the builder
that the events leave. -/
def exec (b : Builder) : List Event → Except BuildError Builder
  | [] => .ok b
  | e :: es =>
    match b.apply e with
    | (b', .ok ()) => b'.exec es
    | (_, .error err) => .error err

@[simp] theorem exec_nil (b : Builder) : b.exec [] = .ok b := rfl

theorem exec_cons (b : Builder) (e : Event) (es : List Event) :
    b.exec (e :: es) = match b.apply e with
      | (b', .ok ()) => b'.exec es
      | (_, .error err) => .error err := rfl

/-- A live builder whose assembler accepts the event goes on from the assembler's
state. -/
theorem exec_cons_of_run {b b' : Builder} {e : Event} (es : List Event)
    (hb : b.aborted = false) (h : (Assembly.step e.loc e.step).run b = .ok () b') :
    b.exec (e :: es) = b'.exec es := by
  rw [exec_cons, apply_of_run_ok hb h]

/-- A live builder whose assembler refuses the event stops with the assembler's error. -/
theorem exec_cons_of_error {b b' : Builder} {e : Event} {d : BuildError} (es : List Event)
    (hb : b.aborted = false) (h : (Assembly.step e.loc e.step).run b = .error d b') :
    b.exec (e :: es) = .error d := by
  rw [exec_cons, apply_of_run_error hb h]

/-- **Running two lists of events is running the first and then the second.** -/
theorem exec_append (b : Builder) (xs ys : List Event) :
    b.exec (xs ++ ys) = b.exec xs >>= fun b' => b'.exec ys := by
  induction xs generalizing b with
  | nil => rfl
  | cons e es ih =>
    rw [List.cons_append, exec_cons, exec_cons]
    split
    · exact ih _
    · rfl

/-! ## Outcome lists -/

theorem applyAll_nil (b : Builder) : b.applyAll [] = (b, []) := rfl

@[simp] theorem applyAll_cons_fst (b : Builder) (e : Event) (es : List Event) :
    (b.applyAll (e :: es)).1 = ((b.apply e).1.applyAll es).1 := rfl

@[simp] theorem applyAll_cons_snd (b : Builder) (e : Event) (es : List Event) :
    (b.applyAll (e :: es)).2 =
      ((b.apply e).2.map fun () => (b.apply e).1.pendingExprs) ::
        ((b.apply e).1.applyAll es).2 := rfl

/-- **An aborted builder refuses every event and stays as it is.** -/
theorem applyAll_of_aborted {b : Builder} (h : b.aborted = true) (es : List Event) :
    b.applyAll es = (b, es.map fun _ => .error .aborted) := by
  induction es with
  | nil => rfl
  | cons e es ih =>
    apply Prod.ext
    · rw [applyAll_cons_fst, apply_of_aborted h, ih]
    · rw [applyAll_cons_snd, apply_of_aborted h, ih]
      rfl

/-- The outcomes of a split run are those of its two parts, the second part starting
where the first one left the builder. -/
theorem applyAll_append (b : Builder) (xs ys : List Event) :
    b.applyAll (xs ++ ys) =
      (((b.applyAll xs).1.applyAll ys).1,
        (b.applyAll xs).2 ++ ((b.applyAll xs).1.applyAll ys).2) := by
  induction xs generalizing b with
  | nil => rfl
  | cons e es ih =>
    rw [List.cons_append]
    apply Prod.ext
    · rw [applyAll_cons_fst, applyAll_cons_fst, ih]
    · rw [applyAll_cons_snd, applyAll_cons_snd, ih, applyAll_cons_fst, List.cons_append]

/-- Whether an outcome reports success. -/
def Succeeded (o : Except BuildError Nat) : Prop := ∃ n, o = .ok n

/-- When `exec` runs through, every event succeeded and `applyAll` ends where `exec`
does. -/
theorem applyAll_of_exec_ok {b b' : Builder} {es : List Event} (h : b.exec es = .ok b') :
    (b.applyAll es).1 = b' ∧ ∀ o ∈ (b.applyAll es).2, Succeeded o := by
  induction es generalizing b with
  | nil =>
    cases h
    exact ⟨rfl, by simp [applyAll_nil]⟩
  | cons e es ih =>
    rw [exec_cons] at h
    split at h
    · rename_i b₁ he
      obtain ⟨h₁, h₂⟩ := ih h
      refine ⟨by rw [applyAll_cons_fst, he]; exact h₁, ?_⟩
      simp only [applyAll_cons_snd, he, List.mem_cons, forall_eq_or_imp]
      exact ⟨⟨_, rfl⟩, h₂⟩
    · cases h

/-- When `exec` stops with `d`, the run splits at its first failure: a prefix of
successes, the failing event with error `d`, and the rest. -/
theorem split_of_exec_error {b : Builder} {es : List Event} {d : BuildError}
    (h : b.exec es = .error d) :
    ∃ pre e post, es = pre ++ e :: post ∧ (∀ o ∈ (b.applyAll pre).2, Succeeded o) ∧
      ((b.applyAll pre).1.apply e).2 = .error d := by
  induction es generalizing b with
  | nil => cases h
  | cons e es ih =>
    rw [exec_cons] at h
    split at h
    · rename_i b₁ he
      obtain ⟨pre, e', post, rfl, hpre, hfail⟩ := ih h
      refine ⟨e :: pre, e', post, rfl, ?_, ?_⟩
      · simp only [applyAll_cons_snd, he, List.mem_cons, forall_eq_or_imp]
        exact ⟨⟨_, rfl⟩, hpre⟩
      · rw [applyAll_cons_fst, he]
        exact hfail
    · rename_i b₁ err he
      cases h
      refine ⟨[], e, es, rfl, by simp [applyAll_nil], ?_⟩
      rw [applyAll_nil]
      simp [he]

/-! ## What a replay reports -/

/-- A builder finishes only when nothing failed, no pile holds anything and no unit, group
or struct is open, and then it hands out the file it collected with its registry. -/
theorem finish_eq_ok {b : Builder} {u : CompilationUnit} {r : Registry}
    (h : b.finish = .ok (u, r)) :
    b.aborted = false ∧ b.piles.pending = [] ∧ b.unit = none ∧ b.group = none ∧
      b.struct = none ∧ u = b.file ∧ r = b.registry := by
  unfold finish at h
  split at h
  · cases h
  rename_i ha
  split at h
  · cases h
  rename_i hp
  rcases hu : b.unit with _ | fu <;> rcases hg : b.group with _ | fg <;>
    rcases hs : b.struct with _ | fs <;> simp [hu, hg, hs] at h
  exact ⟨by simpa using ha, hp, rfl, rfl, rfl, h.1.symm, h.2.symm⟩

/-- The first failing outcome, counted from `k`, found by any test that picks out the
failures. -/
theorem find?_zipIdx_of_exec {b : Builder} {es : List Event}
    {p : Except BuildError Nat × Nat → Bool} (hp : ∀ x, p x = !x.1.toBool) (k : Nat) :
    match b.exec es with
    | .ok _ => ((b.applyAll es).2.zipIdx k).find? p = none
    | .error d => (((b.applyAll es).2.zipIdx k).find? p).map (·.1) = some (.error d) := by
  induction es generalizing b k with
  | nil => rfl
  | cons e es ih =>
    rcases he : b.apply e with ⟨b₁, err | ⟨⟨⟩⟩⟩
    · rw [exec_cons, he]
      simp [he, Except.map, hp, Except.toBool]
    · rw [exec_cons, he]
      simp only [applyAll_cons_snd, he, Except.map, List.zipIdx_cons, List.find?_cons, hp,
        Except.toBool, Bool.not_true]
      exact ih (k + 1)

/-- **A replay reports the first failing event's error, or else what finishing the
builder gives.** -/
theorem outcome_run (r : Registry) (es : List Event) :
    (Replay.run r es).outcome =
      ((withRegistry r).exec es >>= fun b => b.finish.map (·.1)) := by
  simp only [Replay.outcome, Replay.firstFailure?, Replay.run]
  -- name the replay's test for a failure, so that the search lemma can be applied to it
  generalize hP : (fun (x : Except BuildError Nat × Nat) => (_ : Bool)) = p
  have hp : ∀ x, p x = !x.1.toBool := by
    rintro ⟨_ | _, _⟩ <;> rw [← hP] <;> rfl
  have hfind := @find?_zipIdx_of_exec (withRegistry r) es p hp 0
  split at hfind
  · rename_i b' hexec
    rw [hfind, hexec, (applyAll_of_exec_ok hexec).1]
    rfl
  · rename_i d hexec
    rw [hexec]
    obtain ⟨⟨o, i⟩, hsome, ho⟩ := Option.map_eq_some_iff.mp hfind
    simp only at ho
    rw [hsome, ho]
    rfl

end Builder

/-! ## The abort rule -/

open Builder in
/-- **First error wins and freezes the builder.**  Run any list of events on a builder over
any registry.  If `exec` runs through, every event succeeded and a replay reports what
finishing the final builder gives.  If it stops with `d`, the events split as
`pre ++ e :: post` where every event of `pre` succeeded and `e` failed with `d`; every
event of `post` is refused with `builder aborted by an earlier error` and no location,
and leaves the builder as `e` left it; finishing that builder fails with the same aborted
error, a replay reports `d`, and every longer list of events that starts with these
reports `d` as well, with the same outcomes followed by refusals. -/
theorem replay_first_error (r : Registry) (es : List Event) :
    match (withRegistry r).exec es with
    | .ok b' =>
      (∀ o ∈ ((withRegistry r).applyAll es).2, Succeeded o) ∧
        ((withRegistry r).applyAll es).1 = b' ∧
        (Replay.run r es).outcome = b'.finish.map (·.1)
    | .error d =>
      ∃ pre e post, es = pre ++ e :: post ∧
        (∀ o ∈ ((withRegistry r).applyAll pre).2, Succeeded o) ∧
        (((withRegistry r).applyAll pre).1.apply e).2 = .error d ∧
        ((withRegistry r).applyAll es).2 = ((withRegistry r).applyAll pre).2 ++
          .error d :: post.map (fun _ => .error (.structural .aborted none)) ∧
        (∀ k ≤ post.length, ((withRegistry r).applyAll (pre ++ e :: post.take k)).1 =
          (((withRegistry r).applyAll pre).1.apply e).1) ∧
        ((withRegistry r).applyAll es).1.finish = .error (.structural .aborted none) ∧
        StructuralFault.aborted.message = "builder aborted by an earlier error" ∧
        ∀ more, (Replay.run r (es ++ more)).outcome = .error d ∧
          ((withRegistry r).applyAll (es ++ more)).2 =
            ((withRegistry r).applyAll es).2 ++
              more.map (fun _ => .error (.structural .aborted none)) := by
  split
  · rename_i b' hexec
    obtain ⟨hend, hall⟩ := applyAll_of_exec_ok hexec
    refine ⟨hall, hend, ?_⟩
    rw [outcome_run, hexec]
    rfl
  · rename_i d hexec
    obtain ⟨pre, e, post, rfl, hpre, hfail⟩ := split_of_exec_error hexec
    -- the builder right after the failing event, which every later event leaves alone
    have hdead := aborted_of_apply_error hfail
    have hafter : ∀ rest : List Event,
        (withRegistry r).applyAll (pre ++ e :: rest) =
          ((((withRegistry r).applyAll pre).1.apply e).1,
            ((withRegistry r).applyAll pre).2 ++ .error d :: rest.map fun _ => .error .aborted) := by
      intro rest
      rw [applyAll_append]
      apply Prod.ext
      · simp only [applyAll_cons_fst, applyAll_of_aborted hdead]
      · simp only [applyAll_cons_snd, applyAll_of_aborted hdead, hfail]
        rfl
    refine ⟨pre, e, post, rfl, hpre, hfail, by rw [hafter]; rfl, ?_, ?_, rfl, ?_⟩
    · intro k _
      rw [hafter]
    · rw [hafter]
      simp [finish, hdead, BuildError.aborted]
    · intro more
      have hmore : pre ++ e :: post ++ more = pre ++ e :: (post ++ more) := by simp
      refine ⟨?_, ?_⟩
      · rw [outcome_run, exec_append, hexec]
        rfl
      · rw [hmore, hafter, hafter]
        simp [BuildError.aborted]

end TreeAssembly
