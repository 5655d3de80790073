import TreeAssembly.Proofs.Refinement.Unit

/-!
# Files are built as the reference builds them

The top of the simulation.  Between two top-level declarations the builder holds nothing
pending and nothing open; it is then determined by the reference's file state
(`FileState.toBuilder`).  Every top-level declaration takes the builder of one file state
to the builder of the next, or fails with the reference's error (`TopD.replays`); so does
a whole file, and finishing the last builder hands out the reference's compilation unit
and registry.

Services and connectors collect their members in a group frame.  The builder finishes an
action before the connector's name is known, and the connector stamps its name onto its
actions when it is finished; the reference names the actions in the connector outright.
`MemberD.evalList_owner` shows that the two ways give the same units.

The main result, `replay_refines_reference`, reads this off `Replay.run`: on the events of
any file derivation, over any registry, every event succeeds and the replay hands out the
reference's unit, registry and warnings, or the replay's outcome is the reference's first
error.
-/

namespace TreeAssembly

open Builder

variable {b : Builder}

/-! ## Group members -/

/-- A declaration in a group joins its parameters or its variables, typed by the type
named just before it. -/
theorem exec_groupDecl (d : DeclD) {fr : GroupFrame} (hr : b.Ready) (ht : b.piles.types = [])
    (hu : b.unit = none) (hg : b.group = some fr) (k : List Event) :
    b.exec (d.events .param ++ k) =
      { b with group := some { fr with parameters :=
                 fr.parameters ++ [(d.eval b.ambient).1.toParameter] },
               registry := (d.eval b.ambient).2.registry,
               warnings := (d.eval b.ambient).2.warnings }.exec k ∧
    b.exec (d.events .variableDecl ++ k) =
      { b with group := some { fr with variableDecls := fr.variableDecls ++ [(d.eval b.ambient).1] },
               registry := (d.eval b.ambient).2.registry,
               warnings := (d.eval b.ambient).2.warnings }.exec k := by
  obtain ⟨hb, hp⟩ := hr
  rcases b with ⟨⟨_, _, _, _, _, _, _, _, types, _, _⟩, _⟩
  simp only at ht hu hg hb hp
  subst ht hu hg hb hp
  simp only [DeclD.events, List.cons_append, List.nil_append]
  rw [exec_type d.ty rfl, exec_type d.ty rfl]
  rcases hd : d.ty.eval _ with ⟨ty, a⟩
  -- the declaration's type is the only one queued, and no unit is open
  constructor
  · rw [exec_cons_of_run (e := ⟨.param d.name, d.loc⟩) k rfl
      (Assembly.run_param_group rfl rfl rfl)]
    simp [DeclD.eval, hd, VariableDecl.toParameter]
  · rw [exec_cons_of_run (e := ⟨.variableDecl d.name, d.loc⟩) k rfl
      (Assembly.run_variableDecl_group rfl rfl rfl)]
    simp [DeclD.eval, hd]

/-- **A member joins the open group** as the reference adds it, with the group's units named
in the package only: the connector's name comes later. -/
theorem exec_member (m : MemberD) {fr : GroupFrame} (hr : b.Ready) (ht : b.piles.types = [])
    (hu : b.unit = none) (hg : b.group = some fr) (k : List Event) :
    b.exec (m.events ++ k) = m.eval b.ambient b.package none fr >>= fun p =>
      { b with group := some p.1, registry := p.2.registry, warnings := p.2.warnings }.exec k := by
  cases m with
  | param d =>
    rw [MemberD.events, (exec_groupDecl d hr ht hu hg k).1]
    simp [MemberD.eval]
  | varDecl d =>
    rw [MemberD.events, (exec_groupDecl d hr ht hu hg k).2]
    simp [MemberD.eval]
  | connectorDecl connector ctor start args stop varName loc =>
    simp only [MemberD.events, List.append_assoc, List.cons_append, List.nil_append]
    rw [exec_name connector hr, exec_name ctor (by exact hr),
      exec_exprBracket (ExprD.listReplays args) rfl rfl (by exact hr)]
    change ExprD.evalList b.ambient args >>= _ = _
    rcases hxs : ExprD.evalList b.ambient args with err | ⟨xs, a⟩
    · simp [MemberD.eval, hxs]
    · -- both names are on the symbol pile; the one pushed last, the constructor's, is dropped
      rw [ok_bind, exec_cons_of_run (e := ⟨.connectorDecl varName, loc⟩) k (by exact hr.1)
        (Assembly.run_connectorDecl_group rfl rfl (by exact hu) (by exact hg))]
      simp [MemberD.eval, hxs]
  | resource u name loc =>
    rw [MemberD.events, List.append_assoc, exec_unitParts u hr ht hu]
    rcases hp : u.evalParts b.ambient with err | ⟨p, a⟩
    · simp [MemberD.eval, UnitD.eval, hp]
    -- the unit's frame is open, over its annotation list, inside the group
    rw [ok_bind, List.singleton_append, exec_cons_of_run (e := ⟨.resource name, loc⟩) k
      (by exact hr.1) (Assembly.run_groupedUnit_eq (by exact hg) rfl rfl)]
    simp [MemberD.eval, MemberD.unitName, UnitD.eval, UnitFrame.toUnit, hp, hu]
  | action u name loc =>
    rw [MemberD.events, List.append_assoc, exec_unitParts u hr ht hu]
    rcases hp : u.evalParts b.ambient with err | ⟨p, a⟩
    · simp [MemberD.eval, UnitD.eval, hp]
    rw [ok_bind, List.singleton_append, exec_cons_of_run (e := ⟨.action name, loc⟩) k
      (by exact hr.1) (Assembly.run_groupedUnit_eq (by exact hg) rfl rfl)]
    simp [MemberD.eval, MemberD.unitName, UnitD.eval, UnitFrame.toUnit, hp, hu]

theorem exec_members (ms : List MemberD) {fr : GroupFrame} (hr : b.Ready)
    (ht : b.piles.types = []) (hu : b.unit = none) (hg : b.group = some fr) (k : List Event) :
    b.exec (ms.flatMap MemberD.events ++ k) = MemberD.evalList b.ambient b.package none fr ms >>=
      fun p => { b with group := some p.1, registry := p.2.registry, warnings := p.2.warnings }.exec k := by
  induction ms generalizing b fr with
  | nil =>
    simp only [List.flatMap_nil, List.nil_append, MemberD.evalList, ok_bind, registry_ambient,
      warnings_ambient, ← hg]
  | cons m ms ih =>
    rw [List.flatMap_cons, List.append_assoc, exec_member m hr ht hu hg]
    rcases hx : m.eval b.ambient b.package none fr with err | ⟨fr', a⟩
    · simp [MemberD.evalList, hx]
    simp only [ok_bind]
    rw [ih (by exact hr) (by exact ht) (by exact hu) (by rfl), ambient_mk]
    rcases hxs : MemberD.evalList a b.package none fr' ms with err | ⟨fr'', a'⟩
    · simp [MemberD.evalList, hx, hxs]
    · simp [MemberD.evalList, hx, hxs]

/-! ## The connector's name on its actions -/

/-- The frame with the connector `c` stamped onto its actions. -/
def GroupFrame.stampActions (c : String) (g : GroupFrame) : GroupFrame :=
  { g with units := g.units.map (Assembly.stampAction c) }

/-- Naming an action in its connector at once, or stamping the connector's name on it
afterwards, gives the same member. -/
theorem MemberD.eval_owner (m : MemberD) (a : Ambient) (pkg : Option String) (c : String)
    (g : GroupFrame) :
    m.eval a pkg (some c) (g.stampActions c) =
      (m.eval a pkg none g).map fun p => (p.1.stampActions c, p.2) := by
  cases m with
  | param d => simp [MemberD.eval, GroupFrame.stampActions]
  | varDecl d => simp [MemberD.eval, GroupFrame.stampActions]
  | connectorDecl connector ctor start args stop varName loc =>
    rcases h : ExprD.evalList a args with err | ⟨xs, a'⟩ <;>
      simp [MemberD.eval, GroupFrame.stampActions, h]
  | resource u name loc =>
    rcases h : u.evalParts a with err | ⟨p, a'⟩ <;>
      simp [MemberD.eval, UnitD.eval, MemberD.unitName, GroupFrame.stampActions,
        Assembly.stampAction, h]
  | action u name loc =>
    rcases h : u.evalParts a with err | ⟨p, a'⟩ <;>
      simp [MemberD.eval, UnitD.eval, MemberD.unitName, GroupFrame.stampActions,
        Assembly.stampAction, SymbolName.withPackage, h]

/-- **The two-phase naming of a connector's actions is the direct one**: collecting the
members with unqualified actions and then stamping the connector's name on them gives the
members the reference collects. -/
theorem MemberD.evalList_owner (ms : List MemberD) (a : Ambient) (pkg : Option String)
    (c : String) (g : GroupFrame) :
    MemberD.evalList a pkg (some c) (g.stampActions c) ms =
      (MemberD.evalList a pkg none g ms).map fun p => (p.1.stampActions c, p.2) := by
  induction ms generalizing a g with
  | nil => simp [MemberD.evalList]
  | cons m ms ih =>
    simp only [MemberD.evalList, MemberD.eval_owner]
    rcases h : m.eval a pkg none g with err | ⟨g', a'⟩
    · simp
    · simp [ih]

/-- A group's closing event runs the group assembler of its kind. -/
theorem GroupKind.assembly_step (kind : GroupKind) (name : String) (loc : Location) :
    Assembly.step loc (kind.step name) = Assembly.finishGroup kind name loc := by
  cases kind <;> rfl

/-- **A service or a connector joins the file** as the reference builds it. -/
theorem exec_group (g : GroupD) (hr : b.Ready) (ht : b.piles.types = []) (hu : b.unit = none)
    (hg : b.group = none) (k : List Event) :
    b.exec (g.events ++ k) = g.eval b.ambient b.package >>= fun p =>
      { b with file := b.file.addGroup p.1, registry := p.2.registry,
               warnings := p.2.warnings }.exec k := by
  rcases g with ⟨start, annotations, members, kind, name, loc⟩
  simp only [GroupD.events, List.cons_append, List.append_assoc]
  rw [exec_cons_of_run (e := ⟨.startCallableUnitGroup, start⟩) _ hr.1
    (Assembly.run_startGroup_eq hg)]
  rw [@exec_annotations _ annotations [] _ (by exact hr) (by rfl)]
  change AnnotationD.evalList b.ambient annotations >>= _ = _
  rcases hanns : AnnotationD.evalList b.ambient annotations with err | ⟨anns, a₁⟩
  · simp [GroupD.eval, hanns]
  simp only [ok_bind]
  rw [@exec_members _ members {} (by exact hr) (by exact ht) (by exact hu) (by rfl),
    ambient_mk]
  rcases hms : MemberD.evalList a₁ b.package none {} members with err | ⟨fr, a₂⟩
  · -- the reference collects the members with the actions named at once; without an
    -- owner it fails at the same member
    cases kind
    · simp [GroupD.eval, GroupD.owner, hanns, hms]
    · have h := MemberD.evalList_owner members a₁ b.package name {}
      simp only [GroupFrame.stampActions, List.map_nil] at h
      simp [GroupD.eval, GroupD.owner, hanns, h, hms]
  -- no unit is open, and the group's frame is open over its annotation list
  rw [ok_bind, List.nil_append k, exec_cons_of_run (e := ⟨kind.step name, loc⟩) k
    (by exact hr.1) (by
      rw [GroupKind.assembly_step]
      exact Assembly.run_finishGroup_eq (by exact hu) rfl rfl)]
  cases kind
  · simp [GroupD.eval, GroupD.owner, hanns, hms, GroupFrame.toGroup, CompilationUnit.addGroup, hg]
  · have h := MemberD.evalList_owner members a₁ b.package name {}
    simp only [GroupFrame.stampActions, List.map_nil] at h
    simp [GroupD.eval, GroupD.owner, hanns, h, hms, GroupFrame.toGroup,
      CompilationUnit.addGroup, SymbolName.withPackage, hg]

/-! ## Top-level declarations -/

/-- Struct fields join the open struct, each typed by the type named just before it. -/
theorem exec_structFields (ds : List DeclD) {fs : List VariableDecl} (hr : b.Ready)
    (ht : b.piles.types = []) (hs : b.struct = some fs) (k : List Event) :
    b.exec (ds.flatMap (DeclD.events .structField) ++ k) =
      { b with struct := some (fs ++ (DeclD.evalList b.ambient ds).1),
               registry := (DeclD.evalList b.ambient ds).2.registry,
               warnings := (DeclD.evalList b.ambient ds).2.warnings }.exec k := by
  obtain ⟨hb, hp⟩ := hr
  induction ds generalizing b fs with
  | nil =>
    simp only [List.flatMap_nil, List.nil_append, DeclD.evalList, List.append_nil,
      registry_ambient, warnings_ambient, ← hs]
  | cons d ds ih =>
    rw [List.flatMap_cons, List.append_assoc, DeclD.events, List.cons_append, exec_type d.ty hb]
    rcases hd : d.ty.eval b.ambient with ⟨ty, a⟩
    rcases b with ⟨⟨_, _, _, _, _, _, _, _, types, _, _⟩, _⟩
    simp only at ht hs hb hp
    subst ht hs hb hp
    -- the field's type is the only one queued
    rw [List.singleton_append, exec_cons_of_run (e := ⟨.structField d.name, d.loc⟩) _ rfl
      (Assembly.run_structField_eq rfl rfl)]
    simp [DeclD.evalList, DeclD.eval, hd, ih]

namespace FileState

/-- The builder that stands for a file state between two top-level declarations: nothing
pending and nothing open. -/
def toBuilder (s : FileState) : Builder :=
  { registry := s.ambient.registry, package := s.package, file := s.unit,
    warnings := s.ambient.warnings }

@[simp] theorem ambient_toBuilder (s : FileState) : s.toBuilder.ambient = s.ambient := rfl

@[simp] theorem package_toBuilder (s : FileState) : s.toBuilder.package = s.package := rfl

theorem ready_toBuilder (s : FileState) : s.toBuilder.Ready := ⟨rfl, rfl⟩

/-- Nothing is left to finish: the builder hands out the file and the registry. -/
theorem finish_toBuilder (s : FileState) : s.toBuilder.finish = .ok (s.unit, s.ambient.registry) := by
  simp [toBuilder, finish, Stacks.pending]

end FileState

/-- **Every top-level declaration replays as the reference adds it**: from the builder of a
file state, its events lead to the builder of the next state, or fail with the reference's
error. -/
theorem TopD.replays (t : TopD) (s : FileState) (k : List Event) :
    s.toBuilder.exec (t.events ++ k) = t.eval s >>= fun s' => s'.toBuilder.exec k := by
  have hr := s.ready_toBuilder
  cases t with
  | package name nameLoc loc =>
    -- the package name is the only one pending when the declaration takes it
    rw [TopD.events, List.cons_append, List.singleton_append,
      exec_cons_of_run (e := ⟨.packageName name, nameLoc⟩) _ hr.1 (Assembly.run_packageName name _),
      exec_cons_of_run (e := ⟨.packageDecl, loc⟩) k (by exact hr.1)
        (Assembly.run_packageDecl_eq (by exact rfl))]
    simp [TopD.eval, FileState.toBuilder]
  | importPackage path pathLoc given loc =>
    rw [TopD.events, List.cons_append, List.singleton_append,
      exec_cons_of_run (e := ⟨.packageName path, pathLoc⟩) _ hr.1 (Assembly.run_packageName path _),
      exec_cons_of_run (e := ⟨.importPackage given, loc⟩) k (by exact hr.1)
        (Assembly.run_importPackage_eq (by exact rfl))]
    simp [TopD.eval, FileState.toBuilder]
  | registerConnector name loc =>
    rw [TopD.events, List.singleton_append, exec_cons_of_run (e := ⟨.registerConnectorType name, loc⟩)
      k hr.1 (Assembly.run_registerConnectorType name _)]
    simp [TopD.eval, FileState.toBuilder]
  | constant ty value name loc =>
    -- the constant's type waits in the queue while its value is built
    simp only [TopD.events, List.cons_append, List.append_assoc]
    rw [exec_type ty hr.1, FileState.ambient_toBuilder]
    rcases ht : ty.eval s.ambient with ⟨t, a⟩
    rw [ExprD.replays value _ _ (by exact hr), ambient_mk]
    rcases hv : value.eval a with err | ⟨v, a'⟩
    · simp [TopD.eval, ht, hv]
    rw [ok_bind, List.nil_append k, exec_cons_of_run (e := ⟨.constant name, loc⟩) k rfl
      (Assembly.run_constant_eq rfl rfl)]
    simp [TopD.eval, ht, hv, FileState.toBuilder, pushResults]
  | struct start fields name isPublic loc =>
    simp only [TopD.events, List.cons_append, List.append_assoc]
    rw [exec_cons_of_run (e := ⟨.startStruct, start⟩) _ hr.1 (Assembly.run_startStruct_eq rfl),
      exec_structFields fields (by exact hr) rfl rfl]
    rcases hfs : DeclD.evalList s.ambient fields with ⟨fs, a⟩
    rw [List.nil_append k, exec_cons_of_run (e := ⟨.structDefinition name isPublic, loc⟩) k rfl
      (Assembly.run_structDefinition_eq rfl)]
    simp [TopD.eval, hfs, FileState.toBuilder, ambient]
  | function u name isPublic loc =>
    rw [TopD.events, List.append_assoc, exec_unitParts u hr rfl rfl, FileState.ambient_toBuilder]
    rcases hp : u.evalParts s.ambient with err | ⟨p, a⟩
    · simp [TopD.eval, UnitD.eval, hp]
    rw [ok_bind, List.singleton_append, exec_cons_of_run (e := ⟨.function name isPublic, loc⟩) k rfl
      (Assembly.run_topLevelUnit_function (by decide) rfl rfl)]
    simp [TopD.eval, UnitD.eval, UnitFrame.toUnit, hp, FileState.toBuilder]
  | typeConverter u name isPublic loc =>
    rw [TopD.events, List.append_assoc, exec_unitParts u hr rfl rfl, FileState.ambient_toBuilder]
    rcases hp : u.evalParts s.ambient with err | ⟨p, a⟩
    · simp [TopD.eval, UnitD.eval, hp]
    rw [ok_bind, List.singleton_append, exec_cons_of_run (e := ⟨.typeConverter name isPublic, loc⟩)
      k rfl (Assembly.run_topLevelUnit_typeConverter rfl rfl)]
    simp [TopD.eval, UnitD.eval, UnitFrame.toUnit, hp, FileState.toBuilder]
  | group g =>
    rw [TopD.events, exec_group g hr rfl rfl rfl]
    rcases hg : g.eval s.ambient s.package with err | ⟨grp, a⟩
    · simp [TopD.eval, hg]
    · simp [TopD.eval, hg, FileState.toBuilder]

theorem TopD.listReplays (ts : List TopD) (s : FileState) (k : List Event) :
    s.toBuilder.exec (ts.flatMap TopD.events ++ k) =
      TopD.evalList s ts >>= fun s' => s'.toBuilder.exec k := by
  induction ts generalizing s with
  | nil => simp [TopD.evalList]
  | cons t ts ih =>
    rw [List.flatMap_cons, List.append_assoc, TopD.replays t s]
    rcases ht : t.eval s with err | s'
    · simp [TopD.evalList, ht]
    · simp [TopD.evalList, ht, ih]

/-! ## Whole files -/

/-- The events of a file take a fresh builder over `r` to the builder of the reference's
final state, or fail with the reference's error. -/
theorem FileD.exec_events (r : Registry) (d : FileD) :
    (withRegistry r).exec d.events =
      TopD.evalList ⟨{}, none, ⟨r, []⟩⟩ d.decls >>= fun s => .ok s.toBuilder := by
  have h := TopD.listReplays d.decls ⟨{}, none, ⟨r, []⟩⟩ []
  simp only [List.append_nil, exec_nil] at h
  exact h

/-- **The builder refines the reference construction.**  Over any registry `r`, replay the
events of any derivation `d` of the event grammar.  When the reference builds the file,
every event succeeds, and the replay hands out the reference's compilation unit, its
registry and its warnings.  When the reference fails, the replay's outcome is the same
error. -/
theorem replay_refines_reference (r : Registry) (d : FileD) :
    match d.build r with
    | .ok (u, a) =>
      (∀ o ∈ (Replay.run r d.events).outcomes, Succeeded o) ∧
        (Replay.run r d.events).outcome = .ok u ∧
        (Replay.run r d.events).result = .ok (u, a.registry) ∧
        (Replay.run r d.events).builder.warnings = a.warnings
    | .error err => (Replay.run r d.events).outcome = .error err := by
  have hexec := FileD.exec_events r d
  rcases hs : TopD.evalList ⟨{}, none, ⟨r, []⟩⟩ d.decls with err | s
  · have hbuild : d.build r = .error err := by simp [FileD.build, hs]
    rw [hs] at hexec
    simp only [hbuild]
    rw [outcome_run, hexec]
    rfl
  · have hbuild : d.build r = .ok (s.unit, s.ambient) := by simp [FileD.build, hs]
    rw [hs] at hexec
    obtain ⟨hend, hall⟩ := applyAll_of_exec_ok hexec
    simp only [hbuild]
    refine ⟨hall, ?_, ?_, ?_⟩
    · rw [outcome_run, hexec]
      simp [FileState.finish_toBuilder]
    · simp only [Replay.run, hend, FileState.finish_toBuilder]
    · simp only [Replay.run, hend]
      rfl

end TreeAssembly
