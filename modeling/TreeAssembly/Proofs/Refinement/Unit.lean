import TreeAssembly.Proofs.Refinement.Stmt

/-!
# Callable units are built as the reference builds them

A callable unit's events open a unit frame and an annotation list, then give its
annotations, parameters, return parameters and body; the event that names the unit closes
it.  This file follows those events from a ready builder with no type queued and no unit
open, and shows that they leave the reference's parts in the frame and in the annotation
list (`exec_unitParts`).  The pieces each have their own lemma: annotations go to the open
annotation list, declarations to the open frame, return types to its return parameters, and
the body's statements to the body's block.
-/

namespace TreeAssembly

open Builder

variable {b : Builder}

/-! ## Annotations -/

/-- An annotation entry adds its key and text to the innermost open annotation. -/
theorem exec_annotationEntry (d : AnnotationEntryD) {kvs : List AnnotationKeyValue}
    {rest : List (List AnnotationKeyValue)} (hr : b.Ready) (hf : b.piles.annotations = kvs :: rest)
    (k : List Event) :
    b.exec (d.events ++ k) = d.eval b.ambient >>= fun p =>
      { b with piles := { b.piles with annotations := (kvs ++ [p.1]) :: rest },
               registry := p.2.registry, warnings := p.2.warnings }.exec k := by
  rw [AnnotationEntryD.events, List.append_assoc, ExprD.replays d.value b _ hr]
  rcases hv : d.value.eval b.ambient with err | ⟨v, a⟩
  · simp [AnnotationEntryD.eval, hv]
  -- the value is on top, and it must be a string literal
  have hx : (b.pushResults [v] a).piles.exprs = v :: b.piles.exprs := rfl
  rw [ok_bind, List.singleton_append]
  rcases ht : v.stringValue? with _ | text
  · rw [exec_cons_of_error (e := ⟨.annotationKeyValue d.key, d.loc⟩) k (by exact hr.1)
      (Assembly.run_annotationKeyValue_notString hx ht)]
    simp [AnnotationEntryD.eval, hv, ht, Expr.annotationText]
  · rw [exec_cons_of_run (e := ⟨.annotationKeyValue d.key, d.loc⟩) k (by exact hr.1)
      (Assembly.run_annotationKeyValue_eq hx ht (by exact hf))]
    simp [AnnotationEntryD.eval, hv, ht, Expr.annotationText, pushResults]

theorem exec_annotationEntries (ds : List AnnotationEntryD) {kvs : List AnnotationKeyValue}
    {rest : List (List AnnotationKeyValue)} (hr : b.Ready) (hf : b.piles.annotations = kvs :: rest)
    (k : List Event) :
    b.exec (ds.flatMap AnnotationEntryD.events ++ k) =
      AnnotationEntryD.evalList b.ambient ds >>= fun p =>
        { b with piles := { b.piles with annotations := (kvs ++ p.1) :: rest },
                 registry := p.2.registry, warnings := p.2.warnings }.exec k := by
  induction ds generalizing b kvs with
  | nil =>
    simp only [List.flatMap_nil, List.nil_append, AnnotationEntryD.evalList, except_pure, ok_bind,
      List.append_nil, ← hf]
    rfl
  | cons d ds ih =>
    rw [List.flatMap_cons, List.append_assoc, exec_annotationEntry d hr hf]
    rcases hx : d.eval b.ambient with err | ⟨x, a⟩
    · simp [AnnotationEntryD.evalList, hx]
    simp only [ok_bind]
    rw [ih (by exact hr) rfl, ambient_mk]
    rcases hxs : AnnotationEntryD.evalList a ds with err | ⟨xs, a'⟩
    · simp [AnnotationEntryD.evalList, hx, hxs]
    · simp [AnnotationEntryD.evalList, hx, hxs]

/-- **An annotation joins the innermost open annotation list**, with its entries in order
and its positional value when it has one. -/
theorem exec_annotation (d : AnnotationD) {l : List Annotation} {ls : List (List Annotation)}
    (hr : b.Ready) (hl : b.piles.annotationLists = l :: ls) (k : List Event) :
    b.exec (d.events ++ k) = d.eval b.ambient >>= fun p =>
      { b with piles := { b.piles with annotationLists := (l ++ [p.1]) :: ls },
               registry := p.2.registry, warnings := p.2.warnings }.exec k := by
  simp only [AnnotationD.events, List.cons_append, List.append_assoc]
  rw [exec_cons_of_run (e := ⟨.annotationStart, d.start⟩) _ hr.1 (Assembly.run_annotationStart b)]
  rw [exec_annotationEntries d.entries (by exact hr) rfl]
  change AnnotationEntryD.evalList b.ambient d.entries >>= _ = _
  rcases hkvs : AnnotationEntryD.evalList b.ambient d.entries with err | ⟨kvs, a⟩
  · simp [AnnotationD.eval, hkvs]
  simp only [ok_bind]
  rcases hd : d with ⟨start, entries, _ | value, name, loc⟩
  · -- with no positional value the annotation closes at once
    simp only [AnnotationD.valueEvents, Option.map_none, Option.getD_none, List.nil_append,
      Option.isSome_none]
    rw [exec_cons_of_run (e := ⟨.annotationEnd name false, loc⟩) k (by exact hr.1)
      (Assembly.run_annotationEnd_bare rfl (by exact hl))]
    simp [AnnotationD.eval, AnnotationD.evalValue, hd ▸ hkvs]
  · simp only [AnnotationD.valueEvents, Option.map_some, Option.getD_some, Option.isSome_some]
    rw [ExprD.replays value _ _ (by exact hr), ambient_mk]
    rcases hv : value.eval a with err | ⟨v, a'⟩
    · simp [AnnotationD.eval, AnnotationD.evalValue, hd ▸ hkvs, hv]
    -- the open annotation is found first, then the positional value is taken and checked
    rw [ok_bind, List.nil_append k]
    rcases ht : v.stringValue? with _ | text
    · rw [exec_cons_of_error (e := ⟨.annotationEnd name true, loc⟩) k (by exact hr.1)
        (Assembly.run_annotationEnd_notString rfl (by exact rfl) ht)]
      simp [AnnotationD.eval, AnnotationD.evalValue, hd ▸ hkvs, hv, ht, Expr.annotationText]
    · rw [exec_cons_of_run (e := ⟨.annotationEnd name true, loc⟩) k (by exact hr.1)
        (Assembly.run_annotationEnd_value rfl (by exact rfl) ht (by exact hl))]
      simp [AnnotationD.eval, AnnotationD.evalValue, hd ▸ hkvs, hv, ht, Expr.annotationText,
        pushResults]

theorem exec_annotations (ds : List AnnotationD) {l : List Annotation}
    {ls : List (List Annotation)} (hr : b.Ready) (hl : b.piles.annotationLists = l :: ls)
    (k : List Event) :
    b.exec (ds.flatMap AnnotationD.events ++ k) = AnnotationD.evalList b.ambient ds >>= fun p =>
      { b with piles := { b.piles with annotationLists := (l ++ p.1) :: ls },
               registry := p.2.registry, warnings := p.2.warnings }.exec k := by
  induction ds generalizing b l with
  | nil =>
    simp only [List.flatMap_nil, List.nil_append, AnnotationD.evalList, except_pure, ok_bind,
      List.append_nil, ← hl]
    rfl
  | cons d ds ih =>
    rw [List.flatMap_cons, List.append_assoc, exec_annotation d hr hl]
    rcases hx : d.eval b.ambient with err | ⟨x, a⟩
    · simp [AnnotationD.evalList, hx]
    simp only [ok_bind]
    rw [ih (by exact hr) rfl, ambient_mk]
    rcases hxs : AnnotationD.evalList a ds with err | ⟨xs, a'⟩
    · simp [AnnotationD.evalList, hx, hxs]
    · simp [AnnotationD.evalList, hx, hxs]

/-! ## Parameters, return parameters and the body -/

/-- **Parameters join the open callable unit**, each typed by the type named just before
it. -/
theorem exec_params (ds : List DeclD) {fr : UnitFrame} (hr : b.Ready) (ht : b.piles.types = [])
    (hu : b.unit = some fr) (k : List Event) :
    b.exec (ds.flatMap (DeclD.events .param) ++ k) =
      { b with unit := some { fr with parameters := fr.parameters ++
                 (DeclD.evalList b.ambient ds).1.map VariableDecl.toParameter },
               registry := (DeclD.evalList b.ambient ds).2.registry,
               warnings := (DeclD.evalList b.ambient ds).2.warnings }.exec k := by
  obtain ⟨hb, hp⟩ := hr
  induction ds generalizing b fr with
  | nil =>
    simp only [List.flatMap_nil, List.nil_append, DeclD.evalList, List.map_nil, List.append_nil,
      ← hu]
    rfl
  | cons d ds ih =>
    rw [List.flatMap_cons, List.append_assoc, DeclD.events, List.cons_append, exec_type d.ty hb]
    rcases hd : d.ty.eval b.ambient with ⟨ty, a⟩
    -- the queue holds the parameter's type alone; spelling out the piles lets the empty
    -- queue after the parameter be compared with the one before it
    rcases b with ⟨⟨_, _, _, _, _, _, _, _, types, _, _⟩, _⟩
    simp only at ht hu hb hp
    subst ht hu hb hp
    rw [List.singleton_append, exec_cons_of_run (e := ⟨.param d.name, d.loc⟩) _ (by exact rfl)
      (Assembly.run_param_unit (by exact rfl) (by exact rfl))]
    simp [DeclD.evalList, DeclD.eval, hd, ih, VariableDecl.toParameter]

/-- Type names go to the back of the type queue, in order. -/
theorem exec_types (ts : List TypeD) (hb : b.aborted = false) (k : List Event) :
    b.exec (ts.map TypeD.event ++ k) =
      { b with piles := { b.piles with types := b.piles.types ++ (TypeD.evalList b.ambient ts).1 },
               registry := (TypeD.evalList b.ambient ts).2.registry,
               warnings := (TypeD.evalList b.ambient ts).2.warnings }.exec k := by
  induction ts generalizing b with
  | nil =>
    simp only [List.map_nil, List.nil_append, TypeD.evalList, List.append_nil, registry_ambient,
      warnings_ambient]
  | cons t ts ih =>
    rw [List.map_cons, List.cons_append, exec_type t hb]
    rcases ht : t.eval b.ambient with ⟨ty, a⟩
    rw [ih (by exact hb), ambient_mk]
    simp [TypeD.evalList, ht]

/-- A return declaration adds its parameters to the open callable unit. -/
theorem exec_return (r : ReturnD) {fr : UnitFrame} (hr : b.Ready) (ht : b.piles.types = [])
    (hu : b.unit = some fr) (k : List Event) :
    b.exec (r.events ++ k) =
      { b with unit := some { fr with returnParameters := fr.returnParameters ++ (r.eval b.ambient).1 },
               registry := (r.eval b.ambient).2.registry,
               warnings := (r.eval b.ambient).2.warnings }.exec k := by
  obtain ⟨hb, hp⟩ := hr
  rcases b with ⟨⟨_, _, _, _, _, _, _, _, types, _, _⟩, _⟩
  simp only at ht hu hb hp
  subst ht hu hb hp
  cases r with
  | unnamed types loc =>
    -- the queue holds exactly the declared types, and they are taken all at once
    rw [ReturnD.events, List.append_assoc, exec_types types rfl, List.singleton_append,
      exec_cons_of_run (e := ⟨.returnTypes, loc⟩) k (by exact rfl)
        (Assembly.run_returnTypes_eq (by exact rfl))]
    simp [ReturnD.eval]
  | named ty name loc =>
    simp only [ReturnD.events, List.cons_append, List.nil_append]
    rw [exec_type ty rfl, exec_cons_of_run (e := ⟨.namedReturnParam name, loc⟩) k (by exact rfl)
      (Assembly.run_namedReturnParam_eq (by exact rfl) (by exact rfl))]
    simp [ReturnD.eval]

theorem exec_returns (rs : List ReturnD) {fr : UnitFrame} (hr : b.Ready) (ht : b.piles.types = [])
    (hu : b.unit = some fr) (k : List Event) :
    b.exec (rs.flatMap ReturnD.events ++ k) =
      { b with unit := some { fr with returnParameters := fr.returnParameters ++
                 (ReturnD.evalList b.ambient rs).1 },
               registry := (ReturnD.evalList b.ambient rs).2.registry,
               warnings := (ReturnD.evalList b.ambient rs).2.warnings }.exec k := by
  induction rs generalizing b fr with
  | nil =>
    simp only [List.flatMap_nil, List.nil_append, ReturnD.evalList, List.append_nil,
      registry_ambient, warnings_ambient, ← hu]
  | cons r rs ih =>
    rw [List.flatMap_cons, List.append_assoc, exec_return r hr ht hu]
    rcases hr' : r.eval b.ambient with ⟨ps, a⟩
    dsimp only
    rw [ih (by exact hr) (by exact ht) (by rfl), ambient_mk]
    simp [ReturnD.evalList, hr']

/-- **The body's statements go to the body's block**, which becomes the open unit's body. -/
theorem exec_body (o : Option BodyD) {fr : UnitFrame} (hr : b.Ready) (ht : b.piles.types = [])
    (hu : b.unit = some fr) (hbody : fr.body = none) (k : List Event) :
    b.exec ((o.map BodyD.events).getD [] ++ k) = BodyD.evalOpt b.ambient o >>= fun p =>
      { b with unit := some { fr with body := p.1 },
               registry := p.2.registry, warnings := p.2.warnings }.exec k := by
  cases o with
  | none =>
    rcases fr with ⟨l, ps, rs, cs, body⟩
    simp only at hbody
    subst hbody
    simp only [Option.map_none, Option.getD_none, List.nil_append, BodyD.evalOpt, except_pure,
      ok_bind, registry_ambient, warnings_ambient, ← hu]
  | some d =>
    simp only [Option.map_some, Option.getD_some, BodyD.events, List.cons_append,
      List.append_assoc, List.nil_append]
    rw [exec_cons_of_run (e := ⟨.startCallableUnitBody, d.start⟩) _ hr.1
      (Assembly.run_openBlock b)]
    rw [StmtD.listReplays d.statements _ { loc := d.start } b.piles.blocks _
      (by exact ⟨hr, ht, by simp [hu]⟩) rfl]
    change StmtD.evalList b.ambient d.statements >>= _ = _
    rcases hss : StmtD.evalList b.ambient d.statements with err | ⟨ss, a⟩
    · simp [BodyD.evalOpt, BodyD.eval, hss]
    -- the body's block is innermost, inside the open unit
    rw [ok_bind, exec_cons_of_run (e := ⟨.endCallableUnitBody, d.stop⟩) k (by exact hr.1)
      (Assembly.run_endUnitBody_eq (by exact rfl) (by exact hu))]
    simp [BodyD.evalOpt, BodyD.eval, hss, addStmts, BlockFrame.finish]

/-! ## A whole unit -/

/-- **The events of a callable unit leave the reference's parts** in a unit frame opened
where the unit starts, and its annotations in the annotation list it opened. -/
theorem exec_unitParts (u : UnitD) (hr : b.Ready) (ht : b.piles.types = []) (hu : b.unit = none)
    (k : List Event) :
    b.exec (u.events ++ k) = u.evalParts b.ambient >>= fun p =>
      { b with piles := { b.piles with annotationLists := p.1.annotations :: b.piles.annotationLists },
               unit := some { loc := u.start, parameters := p.1.parameters,
                              returnParameters := p.1.returnParameters, body := p.1.body },
               registry := p.2.registry, warnings := p.2.warnings }.exec k := by
  simp only [UnitD.events, UnitD.bodyEvents, List.cons_append, List.append_assoc]
  rw [exec_cons_of_run (e := ⟨.startCallableUnit, u.start⟩) _ hr.1 (Assembly.run_startUnit_eq hu)]
  rw [@exec_annotations _ u.annotations [] _ (by exact hr) (by rfl)]
  change AnnotationD.evalList b.ambient u.annotations >>= _ = _
  rcases hanns : AnnotationD.evalList b.ambient u.annotations with err | ⟨anns, a₁⟩
  · simp [UnitD.evalParts, hanns]
  simp only [ok_bind]
  rw [exec_params u.params (by exact hr) (by exact ht) (by rfl), ambient_mk]
  rcases hps : DeclD.evalList a₁ u.params with ⟨ps, a₂⟩
  dsimp only
  rw [exec_returns u.returns (by exact hr) (by exact ht) (by rfl), ambient_mk]
  rcases hrs : ReturnD.evalList a₂ u.returns with ⟨rs, a₃⟩
  dsimp only
  rw [exec_body u.body (by exact hr) (by exact ht) (by rfl) rfl, ambient_mk]
  rcases hbody : BodyD.evalOpt a₃ u.body with err | ⟨body, a₄⟩
  · simp [UnitD.evalParts, hanns, hps, hrs, hbody]
  · simp [UnitD.evalParts, hanns, hps, hrs, hbody]

end TreeAssembly
