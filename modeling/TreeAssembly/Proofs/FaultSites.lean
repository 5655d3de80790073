import TreeAssembly.Proofs.SourceFaults

/-!
# Where a failure is reported

A failing event reports a location, and a driver prints it beside the event's own.  This
file proves that they agree, with two exceptions that come from the order in which the
ends of a conditional take their frames.

* The end of an `else` clause takes the innermost block and hands it to the innermost
  conditional; when that conditional already has an `else` block, the second one is
  refused where the block just taken began.
* The end of a conditional takes its frame, its condition and its primary block, and adds
  the finished statement to the block around it, *at the conditional's own location*; when
  no block is left around it, the missing block is reported there.

`Faults` names this location `Step.faultSite`, shows that the two ends fail there, and that
every other event that does not check the program's text fails at its own location.  The
six checking ones fail at the source or on an empty pile, both at the event; this file
shows it with `Assembly.ErrsAt`, a weaker form of `FaultsAt` that admits source faults.
Only the refusal of an aborted builder and the failures of `finish` carry no location.

## Main statements

* `Assembly.ErrsAt` and its combinators.
* `Assembly.step_error_location`: every assembler fails at its event's fault site.
* `failure_locations`: every failure of `apply` on a live builder is located at the site;
  the refusals of an aborted builder and the failures of `finish` are not located.
-/

namespace TreeAssembly

namespace Assembly

/-- Every error that `m` raises, from any builder, is located at `loc`. -/
def ErrsAt (loc : Location) {α : Type} (m : Assembly α) : Prop :=
  ∀ b d b', m.run b = .error d b' → d.location = some loc

namespace ErrsAt

variable {α β : Type} {loc : Location}

theorem of_faultsAt {m : Assembly α} (h : FaultsAt loc m) : ErrsAt loc m := by
  intro b d b' hd
  obtain ⟨f, rfl⟩ := h b d b' hd
  rfl

theorem bind {m : Assembly α} {f : α → Assembly β} (hm : ErrsAt loc m)
    (hf : ∀ a, ErrsAt loc (f a)) : ErrsAt loc (m >>= f) := by
  intro b d b' h
  rcases run_bind_error h with hr | ⟨a, b₁, -, hr⟩
  · exact hm b d b' hr
  · exact hf a b₁ d b' hr

theorem source (f : SourceFault) : ErrsAt loc (Assembly.source f loc : Assembly α) := by
  intro b d b' h
  cases h
  rfl

/-- A value read from the program's text, when the reader fails only at `loc`. -/
theorem lift {x : Except BuildError α} (hx : ∀ d, x = .error d → d.location = some loc) :
    ErrsAt loc (liftExcept x : Assembly α) := by
  intro b d b' h
  rcases hv : x with d' | v <;> simp [hv] at h
  obtain ⟨rfl, -⟩ := h
  exact hx _ hv

theorem map {m : Assembly α} (f : α → β) (hm : ErrsAt loc m) : ErrsAt loc (f <$> m) :=
  fun b d b' h => hm b d b' (run_map_error h)

theorem annotationValue (x : Expr) : ErrsAt loc (Assembly.annotationValue x loc) := by
  unfold Assembly.annotationValue
  split
  · exact of_faultsAt (.pure _)
  · exact source _

end ErrsAt

variable {loc : Location}

/-! ## The six checking assemblers fail at their event -/

theorem errsAt_literal (kind : LiteralKind) (text : String) : ErrsAt loc (literal kind text loc) :=
  .bind (.lift fun _ h => by obtain ⟨f, rfl⟩ := Literal.read_error h; rfl) fun _ =>
    .of_faultsAt (.pushExpr _)

theorem errsAt_binary (op : String) : ErrsAt loc (binary op loc) := by
  refine .bind (.of_faultsAt .popExpr) fun _ => .bind (.of_faultsAt .popExpr) fun _ => ?_
  split
  · exact .of_faultsAt (.pushExpr _)
  · exact .source _

theorem errsAt_unary (op : String) : ErrsAt loc (unary op loc) := by
  refine .bind (.of_faultsAt .popExpr) fun _ => ?_
  split
  · exact .of_faultsAt (.pushExpr _)
  · exact .source _

theorem errsAt_template (token : String) : ErrsAt loc (template token loc) := by
  unfold template
  split
  · exact .of_faultsAt (.pushExpr _)
  · exact .source _

theorem errsAt_annotationKeyValue (key : String) : ErrsAt loc (annotationKeyValue key loc) := by
  refine .bind (.of_faultsAt .popExpr) fun x => .bind (.annotationValue x) fun _ =>
    .bind (.of_faultsAt .piles) fun _ => ?_
  split
  · exact .of_faultsAt (.modifyStacks _)
  · exact .of_faultsAt (.structural _)

theorem errsAt_annotationEnd (name : String) (flag : Bool) :
    ErrsAt loc (annotationEnd name flag loc) := by
  unfold annotationEnd
  dsimp only
  refine .bind (.of_faultsAt .popAnnotationFrame) fun _ => ?_
  -- the positional value, when flagged, is taken and checked before the list is looked for
  split
  · refine .bind (.of_faultsAt .popExpr) fun x => .bind (.map _ (.annotationValue x)) fun _ =>
      .bind (.of_faultsAt .piles) fun _ => ?_
    split
    · exact .of_faultsAt (.modifyStacks _)
    · exact .of_faultsAt (.structural _)
  · refine .bind (.of_faultsAt (.pure _)) fun _ => .bind (.of_faultsAt .piles) fun _ => ?_
    split
    · exact .of_faultsAt (.modifyStacks _)
    · exact .of_faultsAt (.structural _)

/-! ## Every assembler -/

/-- **Every assembler fails at its event's fault site.** -/
theorem step_error_location {s : Step} {b b' : Builder} {d : BuildError}
    (h : (step loc s).run b = .error d b') : d.location = some (s.faultSite b.piles loc) := by
  by_cases he : s = .endElseClause
  · subst he
    obtain ⟨f, rfl⟩ := endElse_fault h
    rfl
  by_cases hi : s = .endIfElseStmt
  · subst hi
    obtain ⟨f, rfl⟩ := endIfElse_fault h
    rfl
  -- every other event fails at its own location
  have hsite : s.faultSite b.piles loc = loc := by
    cases s <;> first | rfl | exact absurd rfl he | exact absurd rfl hi
  rw [hsite]
  cases hs : s.checksSource
  · exact ErrsAt.of_faultsAt (faultsAt_step hs he hi) b d b' h
  cases s <;> simp only [Step.checksSource, Bool.false_eq_true] at hs <;> simp only [step] at h
  case literal => exact errsAt_literal _ _ b d b' h
  case binaryExpr => exact errsAt_binary _ b d b' h
  case unaryExpr => exact errsAt_unary _ b d b' h
  case backtickExpr => exact errsAt_template _ b d b' h
  case annotationKeyValue => exact errsAt_annotationKeyValue _ b d b' h
  case annotationEnd => exact errsAt_annotationEnd _ _ b d b' h

end Assembly

namespace Builder

/-- A builder fails to finish only with an error that has no location. -/
theorem finish_error_location {b : Builder} {d : BuildError} (h : b.finish = .error d) :
    d.location = none := by
  unfold finish at h
  split at h
  · cases h
    rfl
  split at h
  · cases h
    rfl
  split at h
  · cases h
    rfl
  split at h
  · cases h
    rfl
  split at h
  · cases h
    rfl
  · cases h

end Builder

open Builder in
/-- **Every failure carries the failing event's location, with exactly two exceptions.**  When
`apply` refuses an event `e` on a live builder, the error is located at `e`'s fault site: `e`'s
own location, except for the end of an `else` clause whose conditional already has an `else`
block, located where the block it just took began, and the end of a conditional with no
block left around it once its frame, condition and primary block are taken, located where
the conditional began.  An aborted builder refuses every event with the aborted error, which
has no location; and so do the failures of `finish`. -/
theorem failure_locations :
    (∀ (b : Builder) (e : Event) (d : BuildError), (b.apply e).2 = .error d →
      (b.aborted = false → d.location = some (e.step.faultSite b.piles e.loc)) ∧
      (b.aborted = true → d = .aborted ∧ d.location = none)) ∧
    ∀ (b : Builder) (d : BuildError), b.finish = .error d → d.location = none := by
  refine ⟨fun b e d h => ⟨fun hb => ?_, fun hb => ?_⟩, fun b d h => finish_error_location h⟩
  · rw [apply_of_live hb] at h
    rcases hr : (Assembly.step e.loc e.step).run b with ⟨⟨⟩, b'⟩ | ⟨err, b'⟩ <;> rw [hr] at h
    · cases h
    · cases h
      exact Assembly.step_error_location hr
  · rw [apply_of_aborted hb] at h
    cases h
    exact ⟨rfl, rfl⟩

/-- A second `else` is refused where its block began, at line 4, not at the event on line
5; and the unfinished build fails without a location. -/
theorem failure_locations_secondElse :
    ∃ b, b = ((Builder.withRegistry .fresh).applyAll [⟨.startIfElseStmt, ⟨"p", 1⟩⟩,
        ⟨.literal .boolean "true", ⟨"p", 1⟩⟩, ⟨.startElseClause, ⟨"p", 2⟩⟩,
        ⟨.endElseClause, ⟨"p", 3⟩⟩, ⟨.startElseClause, ⟨"p", 4⟩⟩]).1 ∧
      (b.apply ⟨.endElseClause, ⟨"p", 5⟩⟩).2 = .error (.structural .secondElse (some ⟨"p", 4⟩)) ∧
      b.aborted = false ∧
      (BuildError.structural .secondElse (some ⟨"p", 4⟩)).location =
        some (Step.endElseClause.faultSite b.piles ⟨"p", 5⟩) ∧
      b.finish = .error (.structural (.unbalanced [(1, .expression), (2, .block), (1, .ifElse)]) none) ∧
      (BuildError.structural (.unbalanced [(1, .expression), (2, .block), (1, .ifElse)]) none).location =
        none :=
  by
    refine ⟨_, rfl, rfl, rfl, ?_, ?hfinish, failure_locations.2 _ _ ?hfinish⟩
    · exact (failure_locations.1 _ ⟨.endElseClause, ⟨"p", 5⟩⟩ _ (by rfl)).1 rfl
    · rfl

end TreeAssembly
