import TreeAssembly.Proofs.Steps.Stmt

/-!
# What a successful declaration event leaves

The declaration assemblers, and the events that `step` runs in place, in the form of
`Steps.Expr`: when one succeeds, the piles and slots it reads had the shape it needs, and
the builder it leaves is `b` with exactly the listed parts replaced.  The equations the
other way, from the piles and slots to the outcome, are what the refinement proofs cite.

A finished unit or group is written with `UnitFrame.toUnit` and `GroupFrame.toGroup`,
which say once what a frame finishes as; in particular a connector stamps its bare name on
the actions it holds when it finishes, and nowhere else.

## Main statements

* `run_param_ok`, `run_variableDecl_ok`, `run_connectorDecl_ok`: a declaration joins the
  open unit, or else the open group, and fails outside both.
* `run_finishUnit_ok`, `run_topLevelUnit_ok`, `run_groupedUnit_ok`: where a finished unit
  goes.
* `run_finishGroup_ok`: a group finishes only when no unit is open in it.
* `run_symbolName_ok`, `run_packageDecl_ok`: package names qualify the next name, or
  become the file's package.
* `run_annotationEnd_value`, `run_param_unit`, `run_finishGroup_eq`, `run_symbolName_eq`,
  `run_arrayType`, ...: the same steps from the piles and slots they find.
-/

namespace TreeAssembly

/-- The callable unit that a unit frame finishes as. -/
def UnitFrame.toUnit (frame : UnitFrame) (kind : UnitKind) (name : SymbolName)
    (isPublic : Bool) (annotations : List Annotation) (loc : Location) : CallableUnit :=
  { kind, name, isPublic, annotations, parameters := frame.parameters,
    returnParameters := frame.returnParameters, connectorDecls := frame.connectorDecls,
    body := frame.body.getD (.empty frame.loc), frameSize := 0, loc }

/-- The group that a group frame finishes as: a connector stamps its bare name on its
actions. -/
def GroupFrame.toGroup (frame : GroupFrame) (kind : GroupKind) (name : SymbolName)
    (annotations : List Annotation) (loc : Location) : Group :=
  { kind, name, annotations, parameters := frame.parameters,
    connectorDecls := frame.connectorDecls, variableDecls := frame.variableDecls,
    units := match kind with
      | .connector => frame.units.map (Assembly.stampAction name.name)
      | .service => frame.units,
    loc }

namespace Assembly

variable {loc : Location} {b b' : Builder}

/-! ## Annotations -/

/-- Opening an annotation pushes an empty one. -/
theorem run_annotationStart (b : Builder) :
    annotationStart.run b =
      .ok () { b with piles := { b.piles with annotations := [] :: b.piles.annotations } } := rfl

/-- An annotation entry takes its value, a string literal, from the top expression. -/
theorem run_annotationKeyValue_ok {key : String}
    (h : (annotationKeyValue key loc).run b = .ok () b') :
    ∃ v rest s kvs frames, b.piles.exprs = v :: rest ∧ v.stringValue? = some s ∧
      b.piles.annotations = kvs :: frames ∧
      b' = { b with piles := { b.piles with
        exprs := rest, annotations := (kvs ++ [⟨key, s⟩]) :: frames } } := by
  rcases hx : b.piles.exprs with _ | ⟨v, rest⟩ <;> simp [annotationKeyValue, hx] at h
  rcases hs : v.stringValue? with _ | s <;> simp [annotationValue, hs] at h
  rcases ha : b.piles.annotations with _ | ⟨kvs, frames⟩ <;> simp [ha] at h
  exact ⟨v, rest, s, kvs, frames, rfl, hs, rfl, h.symm⟩

/-- Over a string literal, inside an open annotation, an entry joins it. -/
theorem run_annotationKeyValue_eq {key s : String} {v : Expr} {rest : List Expr}
    {kvs : List AnnotationKeyValue} {frames : List (List AnnotationKeyValue)}
    (hx : b.piles.exprs = v :: rest) (hs : v.stringValue? = some s)
    (ha : b.piles.annotations = kvs :: frames) :
    (annotationKeyValue key loc).run b = .ok () { b with piles := { b.piles with
      exprs := rest, annotations := (kvs ++ [⟨key, s⟩]) :: frames } } := by
  simp [annotationKeyValue, annotationValue, hx, hs, ha]

/-- An entry whose value is not a string literal is refused at the source once the value
is taken. -/
theorem run_annotationKeyValue_notString {key : String} {v : Expr} {rest : List Expr}
    (hx : b.piles.exprs = v :: rest) (hs : v.stringValue? = none) :
    (annotationKeyValue key loc).run b =
      .error (.source .annotationValue loc) { b with piles := { b.piles with exprs := rest } } := by
  simp [annotationKeyValue, annotationValue, hx, hs]

/-- An annotation closes with its entries, and its positional value when flagged, and
joins the open annotation list. -/
theorem run_annotationEnd_ok {name : String} {flag : Bool}
    (h : (annotationEnd name flag loc).run b = .ok () b') :
    ∃ kvs frames value rest l lists, b.piles.annotations = kvs :: frames ∧
      (flag = false ∧ value = none ∧ rest = b.piles.exprs ∨
        flag = true ∧ ∃ v s, b.piles.exprs = v :: rest ∧ v.stringValue? = some s ∧
          value = some s) ∧
      b.piles.annotationLists = l :: lists ∧
      b' = { b with piles := { b.piles with
        annotations := frames, exprs := rest,
        annotationLists := (l ++ [{ name := { name }, value, keyValues := kvs, loc }]) ::
          lists } } := by
  rcases ha : b.piles.annotations with _ | ⟨kvs, frames⟩ <;> simp [annotationEnd, ha] at h
  cases flag
  · rcases hl : b.piles.annotationLists with _ | ⟨l, lists⟩ <;> simp [hl] at h
    exact ⟨kvs, frames, none, _, l, lists, rfl, .inl ⟨rfl, rfl, rfl⟩, rfl, h.symm⟩
  · rcases hx : b.piles.exprs with _ | ⟨v, rest⟩ <;> simp [hx] at h
    rcases hs : v.stringValue? with _ | s <;> simp [annotationValue, hs] at h
    rcases hl : b.piles.annotationLists with _ | ⟨l, lists⟩ <;> simp [hl] at h
    exact ⟨kvs, frames, some s, rest, l, lists, rfl, .inr ⟨rfl, v, s, rfl, hs, rfl⟩, rfl,
      h.symm⟩

/-- Without a positional value, the open annotation closes into the open list. -/
theorem run_annotationEnd_bare {name : String} {kvs : List AnnotationKeyValue}
    {frames : List (List AnnotationKeyValue)} {l : List Annotation} {lists : List (List Annotation)}
    (ha : b.piles.annotations = kvs :: frames) (hl : b.piles.annotationLists = l :: lists) :
    (annotationEnd name false loc).run b = .ok () { b with piles := { b.piles with
      annotations := frames,
      annotationLists := (l ++ [{ name := { name }, value := none, keyValues := kvs, loc }]) ::
        lists } } := by
  simp [annotationEnd, ha, hl]

/-- With a string literal as its positional value, the open annotation closes into the
open list. -/
theorem run_annotationEnd_value {name s : String} {kvs : List AnnotationKeyValue}
    {frames : List (List AnnotationKeyValue)} {v : Expr} {rest : List Expr} {l : List Annotation}
    {lists : List (List Annotation)} (ha : b.piles.annotations = kvs :: frames)
    (hx : b.piles.exprs = v :: rest) (hs : v.stringValue? = some s)
    (hl : b.piles.annotationLists = l :: lists) :
    (annotationEnd name true loc).run b = .ok () { b with piles := { b.piles with
      annotations := frames, exprs := rest,
      annotationLists := (l ++ [{ name := { name }, value := some s, keyValues := kvs, loc }]) ::
        lists } } := by
  simp [annotationEnd, annotationValue, ha, hx, hs, hl]

/-- A positional value that is not a string literal is refused at the source once the
annotation and the value are taken. -/
theorem run_annotationEnd_notString {name : String} {kvs : List AnnotationKeyValue}
    {frames : List (List AnnotationKeyValue)} {v : Expr} {rest : List Expr}
    (ha : b.piles.annotations = kvs :: frames) (hx : b.piles.exprs = v :: rest)
    (hs : v.stringValue? = none) :
    (annotationEnd name true loc).run b = .error (.source .annotationValue loc)
      { b with piles := { b.piles with annotations := frames, exprs := rest } } := by
  simp [annotationEnd, annotationValue, ha, hx, hs]

/-! ## Parameters, variables and constants -/

/-- A parameter, typed by the oldest queued type, joins the open unit, or else the open
group. -/
theorem run_param_ok {name : String} (h : (param name loc).run b = .ok () b') :
    ∃ t types, b.piles.types = t :: types ∧
      ((∃ u, b.unit = some u ∧ b' = { b with
          piles := { b.piles with types },
          unit := some { u with parameters := u.parameters ++ [⟨some { name }, t, loc⟩] } }) ∨
        b.unit = none ∧ ∃ g, b.group = some g ∧ b' = { b with
          piles := { b.piles with types },
          group := some { g with parameters := g.parameters ++ [⟨some { name }, t, loc⟩] } }) := by
  rcases ht : b.piles.types with _ | ⟨t, types⟩ <;> simp [param, ht] at h
  refine ⟨t, types, rfl, ?_⟩
  rcases hu : b.unit with _ | u
  · rcases hg : b.group with _ | g <;> simp [hu, hg, modifyGroup] at h
    exact .inr ⟨rfl, g, rfl, h.symm⟩
  · simp [hu, modifyUnit] at h
    exact .inl ⟨u, rfl, h.symm⟩

/-- Inside a unit, a parameter typed by the oldest queued type joins it. -/
theorem run_param_unit {name : String} {t : ValueType} {types : List ValueType}
    {u : UnitFrame} (ht : b.piles.types = t :: types) (hu : b.unit = some u) :
    (param name loc).run b = .ok () { b with
      piles := { b.piles with types },
      unit := some { u with parameters := u.parameters ++ [⟨some { name }, t, loc⟩] } } := by
  simp [param, ht, hu, modifyUnit]

/-- Outside a unit, a parameter typed by the oldest queued type joins the open group. -/
theorem run_param_group {name : String} {t : ValueType} {types : List ValueType}
    {g : GroupFrame} (ht : b.piles.types = t :: types) (hu : b.unit = none)
    (hg : b.group = some g) :
    (param name loc).run b = .ok () { b with
      piles := { b.piles with types },
      group := some { g with parameters := g.parameters ++ [⟨some { name }, t, loc⟩] } } := by
  simp [param, ht, hu, hg, modifyGroup]

/-- Unnamed return parameters take every queued type, in order. -/
theorem run_returnTypes_ok (h : (returnTypes loc).run b = .ok () b') :
    ∃ u, b.unit = some u ∧ b' = { b with
      piles := { b.piles with types := [] },
      unit := some { u with returnParameters := u.returnParameters ++
        (b.piles.types.map fun ty => ⟨none, ty, loc⟩) } } := by
  rcases hu : b.unit with _ | u <;> simp [returnTypes, hu, modifyUnit] at h
  exact ⟨u, rfl, h.symm⟩

/-- Inside a unit, unnamed return parameters take every queued type. -/
theorem run_returnTypes_eq {u : UnitFrame} (hu : b.unit = some u) :
    (returnTypes loc).run b = .ok () { b with
      piles := { b.piles with types := [] },
      unit := some { u with returnParameters := u.returnParameters ++
        (b.piles.types.map fun ty => ⟨none, ty, loc⟩) } } := by
  simp [returnTypes, hu, modifyUnit]

/-- A named return parameter joins the open unit. -/
theorem run_namedReturnParam_ok {name : String}
    (h : (namedReturnParam name loc).run b = .ok () b') :
    ∃ t types u, b.piles.types = t :: types ∧ b.unit = some u ∧
      b' = { b with
        piles := { b.piles with types },
        unit := some { u with
          returnParameters := u.returnParameters ++ [⟨some { name }, t, loc⟩] } } := by
  rcases ht : b.piles.types with _ | ⟨t, types⟩ <;> simp [namedReturnParam, ht] at h
  rcases hu : b.unit with _ | u <;> simp [hu, modifyUnit] at h
  exact ⟨t, types, u, rfl, rfl, h.symm⟩

/-- Inside a unit, a named return parameter typed by the oldest queued type joins it. -/
theorem run_namedReturnParam_eq {name : String} {t : ValueType} {types : List ValueType}
    {u : UnitFrame} (ht : b.piles.types = t :: types) (hu : b.unit = some u) :
    (namedReturnParam name loc).run b = .ok () { b with
      piles := { b.piles with types },
      unit := some { u with
        returnParameters := u.returnParameters ++ [⟨some { name }, t, loc⟩] } } := by
  simp [namedReturnParam, ht, hu, modifyUnit]

/-- A constant takes the oldest queued type and the top expression, and joins the file
under its qualified name. -/
theorem run_constant_ok {name : String} (h : (constant name loc).run b = .ok () b') :
    ∃ t types v rest, b.piles.types = t :: types ∧ b.piles.exprs = v :: rest ∧
      b' = { b with
        piles := { b.piles with types, exprs := rest },
        file := { b.file with consts := b.file.consts ++
          [{ name := .withPackage name b.package, ty := t, value := v, loc }] } } := by
  rcases ht : b.piles.types with _ | ⟨t, types⟩ <;> simp [constant, ht] at h
  rcases hx : b.piles.exprs with _ | ⟨v, rest⟩ <;> simp [hx] at h
  exact ⟨t, types, v, rest, rfl, rfl, h.symm⟩

/-- Over a queued type and a value, a constant joins the file. -/
theorem run_constant_eq {name : String} {t : ValueType} {types : List ValueType} {v : Expr}
    {rest : List Expr} (ht : b.piles.types = t :: types) (hx : b.piles.exprs = v :: rest) :
    (constant name loc).run b = .ok () { b with
      piles := { b.piles with types, exprs := rest },
      file := { b.file with consts := b.file.consts ++
        [{ name := .withPackage name b.package, ty := t, value := v, loc }] } } := by
  simp [constant, ht, hx]

/-- A variable is a statement of the innermost block inside a unit, and a variable of the
open group outside one. -/
theorem run_variableDecl_ok {name : String} (h : (variableDecl name loc).run b = .ok () b') :
    ∃ t types, b.piles.types = t :: types ∧
      ((b.unit.isSome ∧ ∃ blk blocks, b.piles.blocks = blk :: blocks ∧
          b' = { b with piles := { b.piles with types, blocks := { blk with statements :=
            blk.statements ++ [.varDef ⟨{ name }, t, loc⟩ loc] } :: blocks } }) ∨
        b.unit = none ∧ ∃ g, b.group = some g ∧ b' = { b with
          piles := { b.piles with types },
          group := some { g with variableDecls := g.variableDecls ++ [⟨{ name }, t, loc⟩] } }) := by
  rcases ht : b.piles.types with _ | ⟨t, types⟩ <;> simp [variableDecl, ht] at h
  refine ⟨t, types, rfl, ?_⟩
  rcases hu : b.unit with _ | u
  · rcases hg : b.group with _ | g <;> simp [hu, hg, modifyGroup] at h
    exact .inr ⟨rfl, g, rfl, h.symm⟩
  · rcases hb : b.piles.blocks with _ | ⟨blk, blocks⟩ <;> simp [hu, hb] at h
    exact .inl ⟨rfl, blk, blocks, rfl, h.symm⟩

/-- Inside a unit, a variable typed by the oldest queued type is a statement of the
innermost block. -/
theorem run_variableDecl_unit {name : String} {t : ValueType} {types : List ValueType}
    {blk : BlockFrame} {blocks : List BlockFrame} (ht : b.piles.types = t :: types)
    (hu : b.unit.isSome) (hb : b.piles.blocks = blk :: blocks) :
    (variableDecl name loc).run b = .ok () { b with piles := { b.piles with
      types, blocks := { blk with statements :=
        blk.statements ++ [.varDef ⟨{ name }, t, loc⟩ loc] } :: blocks } } := by
  simp [variableDecl, ht, hu, hb]

/-- Outside a unit, a variable typed by the oldest queued type joins the open group. -/
theorem run_variableDecl_group {name : String} {t : ValueType} {types : List ValueType}
    {g : GroupFrame} (ht : b.piles.types = t :: types) (hu : b.unit = none)
    (hg : b.group = some g) :
    (variableDecl name loc).run b = .ok () { b with
      piles := { b.piles with types },
      group := some { g with variableDecls := g.variableDecls ++ [⟨{ name }, t, loc⟩] } } := by
  simp [variableDecl, ht, hu, hg, modifyGroup]

/-- A connector declaration drops the top symbol name, takes the connector's name below
it and the top list, and joins the open unit, or else the open group. -/
theorem run_connectorDecl_ok {varName : String}
    (h : (connectorDecl varName loc).run b = .ok () b') :
    ∃ n connector names args lists, b.piles.symbolNames = n :: connector :: names ∧
      b.piles.exprLists = args :: lists ∧
      ((∃ u, b.unit = some u ∧ b' = { b with
          piles := { b.piles with symbolNames := names, exprLists := lists },
          unit := some { u with connectorDecls := u.connectorDecls ++
            [⟨connector, { name := varName }, args, loc⟩] } }) ∨
        b.unit = none ∧ ∃ g, b.group = some g ∧ b' = { b with
          piles := { b.piles with symbolNames := names, exprLists := lists },
          group := some { g with connectorDecls := g.connectorDecls ++
            [⟨connector, { name := varName }, args, loc⟩] } }) := by
  rcases hn : b.piles.symbolNames with _ | ⟨n, _ | ⟨connector, names⟩⟩
  · simp [connectorDecl, hn] at h
  · simp [connectorDecl, hn] at h
  have hlen : ¬ b.piles.symbolNames.length < 2 := by
    rw [hn, List.length_cons, List.length_cons]
    omega
  simp only [connectorDecl, EStateM.run_bind, run_piles, hlen, if_false] at h
  rcases hl : b.piles.exprLists with _ | ⟨args, lists⟩ <;> simp [hn, hl] at h
  refine ⟨n, connector, names, args, lists, rfl, rfl, ?_⟩
  rcases hu : b.unit with _ | u
  · rcases hg : b.group with _ | g <;> simp [hu, hg, modifyGroup] at h
    exact .inr ⟨rfl, g, rfl, h.symm⟩
  · simp [hu, modifyUnit] at h
    exact .inl ⟨u, rfl, h.symm⟩

/-- Outside a unit, over two names and a list, a connector declaration joins the open
group. -/
theorem run_connectorDecl_group {varName : String} {n connector : SymbolName}
    {names : List SymbolName} {args : List Expr} {lists : List (List Expr)} {g : GroupFrame}
    (hn : b.piles.symbolNames = n :: connector :: names) (hl : b.piles.exprLists = args :: lists)
    (hu : b.unit = none) (hg : b.group = some g) :
    (connectorDecl varName loc).run b = .ok () { b with
      piles := { b.piles with symbolNames := names, exprLists := lists },
      group := some { g with connectorDecls := g.connectorDecls ++
        [⟨connector, { name := varName }, args, loc⟩] } } := by
  have hlen : ¬ b.piles.symbolNames.length < 2 := by
    rw [hn, List.length_cons, List.length_cons]
    omega
  simp only [connectorDecl, EStateM.run_bind, run_piles, hlen, if_false]
  simp [hn, hl, hu, hg, modifyGroup]

/-! ## Units -/

/-- A unit opens, with its annotation list, only when none is open. -/
theorem run_startUnit_ok (h : (startUnit loc).run b = .ok () b') :
    b.unit = none ∧ b' = { b with
      piles := { b.piles with annotationLists := [] :: b.piles.annotationLists },
      unit := some { loc } } := by
  rcases hu : b.unit with _ | u <;> simp [startUnit, hu] at h
  exact ⟨rfl, h.symm⟩

/-- With no unit open, a unit opens with its annotation list. -/
theorem run_startUnit_eq (hu : b.unit = none) :
    (startUnit loc).run b = .ok () { b with
      piles := { b.piles with annotationLists := [] :: b.piles.annotationLists },
      unit := some { loc } } := by
  simp [startUnit, hu]

/-- The innermost block becomes the body of the open unit. -/
theorem run_endUnitBody_ok (h : (endUnitBody loc).run b = .ok () b') :
    ∃ body blocks u, b.piles.blocks = body :: blocks ∧ b.unit = some u ∧ b' = { b with
      piles := { b.piles with blocks },
      unit := some { u with body := some body.finish } } := by
  rcases hb : b.piles.blocks with _ | ⟨body, blocks⟩ <;> simp [endUnitBody, hb] at h
  rcases hu : b.unit with _ | u <;> simp [hu, modifyUnit] at h
  exact ⟨body, blocks, u, rfl, rfl, h.symm⟩

/-- Inside a unit, the innermost block becomes its body. -/
theorem run_endUnitBody_eq {body : BlockFrame} {blocks : List BlockFrame} {u : UnitFrame}
    (hb : b.piles.blocks = body :: blocks) (hu : b.unit = some u) :
    (endUnitBody loc).run b = .ok () { b with
      piles := { b.piles with blocks },
      unit := some { u with body := some body.finish } } := by
  simp [endUnitBody, hb, hu, modifyUnit]

/-- A unit finishes with the annotations of its list, under its qualified name. -/
theorem run_finishUnit_ok {kind : UnitKind} {name : String} {isPublic : Bool}
    {u : CallableUnit} (h : (finishUnit kind name isPublic loc).run b = .ok u b') :
    ∃ frame anns lists, b.unit = some frame ∧ b.piles.annotationLists = anns :: lists ∧
      u = frame.toUnit kind (.withPackage name b.package) isPublic anns loc ∧
      b' = { b with piles := { b.piles with annotationLists := lists }, unit := none } := by
  rcases hu : b.unit with _ | frame <;> simp [finishUnit, hu] at h
  rcases hl : b.piles.annotationLists with _ | ⟨anns, lists⟩ <;> simp [hl] at h
  exact ⟨frame, anns, lists, rfl, rfl, h.1.symm, h.2.symm⟩

/-- The open unit finishes with the annotations of the top list. -/
theorem run_finishUnit_eq {kind : UnitKind} {name : String} {isPublic : Bool}
    {frame : UnitFrame} {anns : List Annotation} {lists : List (List Annotation)}
    (hu : b.unit = some frame) (hl : b.piles.annotationLists = anns :: lists) :
    (finishUnit kind name isPublic loc).run b =
      .ok (frame.toUnit kind (.withPackage name b.package) isPublic anns loc)
        { b with piles := { b.piles with annotationLists := lists }, unit := none } := by
  simp [finishUnit, hu, hl, UnitFrame.toUnit]

/-- A finished type converter or function joins the file. -/
theorem run_topLevelUnit_ok {kind : UnitKind} {name : String} {isPublic : Bool}
    (h : (topLevelUnit kind name isPublic loc).run b = .ok () b') :
    ∃ u b₁, (finishUnit kind name isPublic loc).run b = .ok u b₁ ∧
      (kind = .typeConverter ∧
          b' = { b₁ with file := { b₁.file with typeConverters := b₁.file.typeConverters ++ [u] } } ∨
        kind ≠ .typeConverter ∧
          b' = { b₁ with file := { b₁.file with functions := b₁.file.functions ++ [u] } }) := by
  simp only [topLevelUnit, EStateM.run_bind] at h
  rcases hf : (finishUnit kind name isPublic loc).run b with ⟨u, b₁⟩ | ⟨err, b₁⟩ <;> simp [hf] at h
  refine ⟨u, b₁, rfl, ?_⟩
  cases kind <;> simp at h ⊢ <;> exact h.symm

/-- A finished type converter joins the file's type converters. -/
theorem run_topLevelUnit_typeConverter {name : String} {isPublic : Bool} {frame : UnitFrame}
    {anns : List Annotation} {lists : List (List Annotation)}
    (hu : b.unit = some frame) (hl : b.piles.annotationLists = anns :: lists) :
    (topLevelUnit .typeConverter name isPublic loc).run b = .ok () { b with
      piles := { b.piles with annotationLists := lists }, unit := none,
      file := { b.file with typeConverters := b.file.typeConverters ++
        [frame.toUnit .typeConverter (.withPackage name b.package) isPublic anns loc] } } := by
  simp [topLevelUnit, run_finishUnit_eq hu hl]

/-- Any other finished top-level unit joins the file's functions. -/
theorem run_topLevelUnit_function {kind : UnitKind} {name : String} {isPublic : Bool}
    {frame : UnitFrame} {anns : List Annotation} {lists : List (List Annotation)}
    (hk : kind ≠ .typeConverter) (hu : b.unit = some frame)
    (hl : b.piles.annotationLists = anns :: lists) :
    (topLevelUnit kind name isPublic loc).run b = .ok () { b with
      piles := { b.piles with annotationLists := lists }, unit := none,
      file := { b.file with functions := b.file.functions ++
        [frame.toUnit kind (.withPackage name b.package) isPublic anns loc] } } := by
  cases kind <;> simp [topLevelUnit, run_finishUnit_eq hu hl] at hk ⊢

/-- A finished resource or action joins the open group. -/
theorem run_groupedUnit_ok {kind : UnitKind} {name : String}
    (h : (groupedUnit kind name loc).run b = .ok () b') :
    ∃ g u b₁, b.group = some g ∧ (finishUnit kind name false loc).run b = .ok u b₁ ∧
      b' = { b₁ with group := some { g with units := g.units ++ [u] } } := by
  rcases hg : b.group with _ | g <;> simp [groupedUnit, hg] at h
  rcases hf : (finishUnit kind name false loc).run b with ⟨u, b₁⟩ | ⟨err, b₁⟩ <;> simp [hf] at h
  obtain ⟨frame, anns, lists, -, -, -, hb₁⟩ := run_finishUnit_ok hf
  have hg₁ : b₁.group = some g := by rw [hb₁]; exact hg
  simp [modifyGroup, hg₁] at h
  exact ⟨g, u, b₁, rfl, rfl, h.symm⟩

/-- Inside a group, a finished resource or action joins it. -/
theorem run_groupedUnit_eq {kind : UnitKind} {name : String} {g : GroupFrame}
    {frame : UnitFrame} {anns : List Annotation} {lists : List (List Annotation)}
    (hg : b.group = some g) (hu : b.unit = some frame)
    (hl : b.piles.annotationLists = anns :: lists) :
    (groupedUnit kind name loc).run b = .ok () { b with
      piles := { b.piles with annotationLists := lists }, unit := none,
      group := some { g with units := g.units ++
        [frame.toUnit kind (.withPackage name b.package) false anns loc] } } := by
  simp [groupedUnit, hg, run_finishUnit_eq hu hl, modifyGroup]

/-! ## Groups and structs -/

/-- A group opens, with its annotation list, only when none is open. -/
theorem run_startGroup_ok (h : (startGroup loc).run b = .ok () b') :
    b.group = none ∧ b' = { b with
      piles := { b.piles with annotationLists := [] :: b.piles.annotationLists },
      group := some {} } := by
  rcases hg : b.group with _ | g <;> simp [startGroup, hg] at h
  exact ⟨rfl, h.symm⟩

/-- With no group open, a group opens with its annotation list. -/
theorem run_startGroup_eq (hg : b.group = none) :
    (startGroup loc).run b = .ok () { b with
      piles := { b.piles with annotationLists := [] :: b.piles.annotationLists },
      group := some {} } := by
  simp [startGroup, hg]

/-- A group finishes, with no unit open, and joins the services or the connectors of the
file. -/
theorem run_finishGroup_ok {kind : GroupKind} {name : String}
    (h : (finishGroup kind name loc).run b = .ok () b') :
    ∃ frame anns lists, b.unit = none ∧ b.group = some frame ∧
      b.piles.annotationLists = anns :: lists ∧
      (kind = .service ∧ b' = { b with
          piles := { b.piles with annotationLists := lists },
          group := none,
          file := { b.file with services := b.file.services ++
            [frame.toGroup kind (.withPackage name b.package) anns loc] } } ∨
        kind = .connector ∧ b' = { b with
          piles := { b.piles with annotationLists := lists },
          group := none,
          file := { b.file with connectors := b.file.connectors ++
            [frame.toGroup kind (.withPackage name b.package) anns loc] } }) := by
  rcases hu : b.unit with _ | u <;> simp [finishGroup, hu] at h
  rcases hg : b.group with _ | frame <;> simp [hg] at h
  rcases hl : b.piles.annotationLists with _ | ⟨anns, lists⟩ <;> simp [hl] at h
  refine ⟨frame, anns, lists, rfl, rfl, rfl, ?_⟩
  cases kind <;> simp [GroupFrame.toGroup, hu] at h ⊢ <;> exact h.symm

/-- With no unit open, the open group finishes with the annotations of the top list and
joins the file. -/
theorem run_finishGroup_eq {kind : GroupKind} {name : String} {frame : GroupFrame}
    {anns : List Annotation} {lists : List (List Annotation)} (hu : b.unit = none)
    (hg : b.group = some frame) (hl : b.piles.annotationLists = anns :: lists) :
    (finishGroup kind name loc).run b = .ok () { b with
      piles := { b.piles with annotationLists := lists }, group := none,
      file := b.file.addGroup (frame.toGroup kind (.withPackage name b.package) anns loc) } := by
  cases kind <;> simp [finishGroup, hu, hg, hl, GroupFrame.toGroup, CompilationUnit.addGroup]

/-- A struct opens only when none is open. -/
theorem run_startStruct_ok (h : (startStruct loc).run b = .ok () b') :
    b.struct = none ∧ b' = { b with struct := some [] } := by
  rcases hs : b.struct with _ | fields <;> simp [startStruct, hs] at h
  exact ⟨rfl, h.symm⟩

/-- With no struct open, a struct opens with no fields. -/
theorem run_startStruct_eq (hs : b.struct = none) :
    (startStruct loc).run b = .ok () { b with struct := some [] } := by
  simp [startStruct, hs]

/-- A field, typed by the oldest queued type, joins the open struct. -/
theorem run_structField_ok {name : String} (h : (structField name loc).run b = .ok () b') :
    ∃ t types fields, b.piles.types = t :: types ∧ b.struct = some fields ∧ b' = { b with
      piles := { b.piles with types },
      struct := some (fields ++ [⟨{ name }, t, loc⟩]) } := by
  rcases ht : b.piles.types with _ | ⟨t, types⟩ <;> simp [structField, ht] at h
  rcases hs : b.struct with _ | fields <;> simp [hs] at h
  exact ⟨t, types, fields, rfl, rfl, h.symm⟩

/-- A field typed by the oldest queued type joins the open struct. -/
theorem run_structField_eq {name : String} {t : ValueType} {types : List ValueType}
    {fields : List VariableDecl} (ht : b.piles.types = t :: types) (hs : b.struct = some fields) :
    (structField name loc).run b = .ok () { b with
      piles := { b.piles with types },
      struct := some (fields ++ [⟨{ name }, t, loc⟩]) } := by
  simp [structField, ht, hs]

/-- A struct finishes, joins the file under its qualified name and is registered as a
type. -/
theorem run_structDefinition_ok {name : String} {isPublic : Bool}
    (h : (structDefinition name isPublic loc).run b = .ok () b') :
    ∃ fields, b.struct = some fields ∧ b' = { b with
      registry := (b.registry.registerStruct name).2,
      struct := none,
      file := { b.file with structs := b.file.structs ++
        [⟨.withPackage name b.package, isPublic, fields, loc⟩] } } := by
  rcases hs : b.struct with _ | fields <;> simp [structDefinition, hs] at h
  exact ⟨fields, rfl, h.symm⟩

/-- The open struct finishes, joins the file and registers its bare name. -/
theorem run_structDefinition_eq {name : String} {isPublic : Bool} {fields : List VariableDecl}
    (hs : b.struct = some fields) :
    (structDefinition name isPublic loc).run b = .ok () { b with
      registry := (b.registry.registerStruct name).2,
      struct := none,
      file := { b.file with structs := b.file.structs ++
        [⟨.withPackage name b.package, isPublic, fields, loc⟩] } } := by
  simp [structDefinition, hs]

/-! ## Names, packages and types -/

/-- A package name waits on its pile for the name or declaration that takes it. -/
theorem run_packageName (name : String) (b : Builder) :
    (step loc (.packageName name)).run b =
      .ok () { b with piles := { b.piles with packageNames := name :: b.piles.packageNames } } :=
  rfl

/-- A symbol name takes the top package name, when there is one, as its qualifier. -/
theorem run_symbolName_eq (name : String) (b : Builder) :
    (step loc (.symbolName name)).run b = .ok () { b with piles := { b.piles with
      packageNames := b.piles.packageNames.tail,
      symbolNames := .withPackage name b.piles.packageNames.head? :: b.piles.symbolNames } } := by
  rcases hp : b.piles.packageNames with _ | ⟨n, names⟩ <;> simp [hp]

/-- The name of an action reached through a connector is qualified like a symbol name. -/
theorem run_connectorSymbolName_eq (connector action : String) (b : Builder) :
    (step loc (.connectorSymbolName connector action)).run b = .ok () { b with
      piles := { b.piles with
        packageNames := b.piles.packageNames.tail,
        symbolNames := .forAction connector action b.piles.packageNames.head? ::
          b.piles.symbolNames } } := by
  rcases hp : b.piles.packageNames with _ | ⟨n, names⟩ <;> simp [hp]

/-- A type name joins the back of the queue as the registry resolves it. -/
theorem run_type (name : String) (b : Builder) :
    (step loc (.type name)).run b = .ok () { b with piles := { b.piles with
      types := b.piles.types ++ [b.registry.resolve name] } } := rfl

/-- An array type joins the back of the queue, and the registry remembers it. -/
theorem run_arrayType (name : String) (b : Builder) :
    (step loc (.arrayType name)).run b = .ok () { b with
      registry := (b.registry.arrayOf name).2,
      piles := { b.piles with types := b.piles.types ++ [(b.registry.arrayOf name).1] } } := rfl

/-- Registering a connector type changes the registry alone. -/
theorem run_registerConnectorType (name : String) (b : Builder) :
    (step loc (.registerConnectorType name)).run b =
      .ok () { b with registry := (b.registry.registerConnector name).2 } := rfl

/-- A symbol name is qualified by the top package name, which it takes, if there is one. -/
theorem run_symbolName_ok (loc : Location) {name : String}
    (h : (step loc (.symbolName name)).run b = .ok () b') :
    ∃ pkg names, (b.piles.packageNames = [] ∧ pkg = none ∧ names = [] ∨
        ∃ n, b.piles.packageNames = n :: names ∧ pkg = some n) ∧
      b' = { b with piles := { b.piles with
        packageNames := names,
        symbolNames := .withPackage name pkg :: b.piles.symbolNames } } := by
  rcases hp : b.piles.packageNames with _ | ⟨n, names⟩ <;> simp [hp] at h
  · exact ⟨none, [], .inl ⟨rfl, rfl, rfl⟩, by rw [← h, ← hp]⟩
  · exact ⟨some n, names, .inr ⟨n, rfl, rfl⟩, h.symm⟩

/-- The name of an action reached through a connector, qualified like a symbol name. -/
theorem run_connectorSymbolName_ok (loc : Location) {connector action : String}
    (h : (step loc (.connectorSymbolName connector action)).run b = .ok () b') :
    ∃ pkg names, (b.piles.packageNames = [] ∧ pkg = none ∧ names = [] ∨
        ∃ n, b.piles.packageNames = n :: names ∧ pkg = some n) ∧
      b' = { b with piles := { b.piles with
        packageNames := names,
        symbolNames := .forAction connector action pkg :: b.piles.symbolNames } } := by
  rcases hp : b.piles.packageNames with _ | ⟨n, names⟩ <;> simp [hp] at h
  · exact ⟨none, [], .inl ⟨rfl, rfl, rfl⟩, by rw [← h, ← hp]⟩
  · exact ⟨some n, names, .inr ⟨n, rfl, rfl⟩, h.symm⟩

/-- The file's package is the top package name. -/
theorem run_packageDecl_ok (h : (step loc .packageDecl).run b = .ok () b') :
    ∃ n names, b.piles.packageNames = n :: names ∧ b' = { b with
      piles := { b.piles with packageNames := names },
      package := some n,
      file := { b.file with package := some n } } := by
  rcases hp : b.piles.packageNames with _ | ⟨n, names⟩ <;> simp [hp] at h
  exact ⟨n, names, rfl, h.symm⟩

/-- Over a package name, a package declaration makes it the file's package. -/
theorem run_packageDecl_eq {n : String} {names : List String}
    (hp : b.piles.packageNames = n :: names) :
    (step loc .packageDecl).run b = .ok () { b with
      piles := { b.piles with packageNames := names },
      package := some n,
      file := { b.file with package := some n } } := by
  simp [hp]

/-- An import takes its path from the top package name. -/
theorem run_importPackage_ok {given : Option String}
    (h : (step loc (.importPackage given)).run b = .ok () b') :
    ∃ path names, b.piles.packageNames = path :: names ∧ b' = { b with
      piles := { b.piles with packageNames := names },
      file := { b.file with imports := b.file.imports ++
        [⟨path, ImportPackage.nameFor path given, loc⟩] } } := by
  rcases hp : b.piles.packageNames with _ | ⟨path, names⟩ <;> simp [hp] at h
  exact ⟨path, names, rfl, h.symm⟩

/-- Over a package name, an import adds it as a path to the file's imports. -/
theorem run_importPackage_eq {given : Option String} {path : String} {names : List String}
    (hp : b.piles.packageNames = path :: names) :
    (step loc (.importPackage given)).run b = .ok () { b with
      piles := { b.piles with packageNames := names },
      file := { b.file with imports := b.file.imports ++
        [⟨path, ImportPackage.nameFor path given, loc⟩] } } := by
  simp [hp]

end Assembly

end TreeAssembly
