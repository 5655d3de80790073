import Mathlib.Data.List.Induction
import TreeAssembly.Proofs.Run
import TreeAssembly.Proofs.Steps.Frame
import TreeAssembly.Proofs.Steps.Failure

/-!
# Which callable units carry a connector

An action is finished before the connector around it has a name.  So it is named in two
phases: `Assembly.finishUnit` qualifies it by its package alone, and the connector, when
it finishes, stamps its own bare name on the actions it holds (`Assembly.stampAction`).
The stamp binds only a name that has no connector yet (`SymbolName.bindConnector`) and
keeps a qualified one as it is, so the two phases are right only if nothing else ever
puts a connector on a unit.  This file shows that nothing does, whatever the order of the
events: in every compilation unit a build hands out,

* every action of a connector carries that connector's bare name and, besides it, exactly
  the name and package it was finished with, by an `action` event of the build;
* no other callable unit carries a connector: no function, no type converter, no unit of
  a service and no resource of a connector.

## The invariant

`Builder.UnitNames r es b` says what the callable units of `b` carry after the events
`es` over the registry `r`.  The units of the open group carry no connector, and an
action among them is named as an `action` event of `es` named it (`ActionName`); the
finished units are as the main statement says.  The events on the piles keep it by
`Assembly.run_onPiles_ok`, and every other event by its inversion lemma
(`UnitNames.step`); a replay keeps it from the empty builder on, by induction on the
events from the last (`UnitNames.applyAll`).

## Main statements

* `replay_unit_qualifiers`: the connector qualifiers of every unit a build hands out.
-/

namespace TreeAssembly

namespace Assembly

variable {loc : Location} {b b' : Builder}

@[simp] theorem kind_stampAction (c : String) (u : CallableUnit) :
    (stampAction c u).kind = u.kind := by
  unfold stampAction; split <;> rfl

/-- The stamp binds an action that carries no connector yet. -/
theorem name_stampAction_of_action {c : String} {u : CallableUnit} (hk : u.kind = .action)
    (hn : u.name.connectorName = none) :
    (stampAction c u).name = { u.name with connectorName := some c } := by
  simp [stampAction, hk, hn]

theorem stampAction_of_ne {c : String} {u : CallableUnit} (hk : u.kind ≠ .action) :
    stampAction c u = u := by
  simp [stampAction, hk]

/-- A finished unit has the kind it is finished as and its bare name in the builder's
package, so no connector; finishing it leaves no unit open and changes only the piles
besides. -/
theorem run_finishUnit_name {kind : UnitKind} {name : String} {isPublic : Bool}
    {u : CallableUnit} (h : (finishUnit kind name isPublic loc).run b = .ok u b') :
    u.kind = kind ∧ u.name = .withPackage name b.package ∧
      ∃ piles, b' = { b with piles, unit := none } := by
  obtain ⟨frame, anns, lists, -, -, rfl, rfl⟩ := run_finishUnit_ok h
  exact ⟨rfl, rfl, _, rfl⟩

end Assembly

/-- The names that the `action` events of `es` finish units with, over the registry `r`:
the event's bare name, in the package the builder had just before the event. -/
def ActionName (r : Registry) (es : List Event) (s : SymbolName) : Prop :=
  ∃ pre n loc post, es = pre ++ ⟨.action n, loc⟩ :: post ∧
    s = .withPackage n ((Builder.withRegistry r).applyAll pre).1.package

/-- An action name stays one when later events follow. -/
theorem ActionName.append {r : Registry} {es : List Event} {s : SymbolName}
    (h : ActionName r es s) (more : List Event) : ActionName r (es ++ more) s := by
  obtain ⟨pre, n, loc, post, rfl, hs⟩ := h
  exact ⟨pre, n, loc, post ++ more, by simp, hs⟩

/-- The connectors that the callable units of `b` carry, after the events `es` over the
registry `r`. -/
structure Builder.UnitNames (r : Registry) (es : List Event) (b : Builder) : Prop where
  /-- The open group holds units with no connector; its actions are named by events. -/
  group : ∀ g ∈ b.group, ∀ v ∈ g.units,
    v.name.connectorName = none ∧ (v.kind = .action → ActionName r es v.name)
  functions : ∀ f ∈ b.file.functions, f.name.connectorName = none
  typeConverters : ∀ f ∈ b.file.typeConverters, f.name.connectorName = none
  services : ∀ g ∈ b.file.services, ∀ v ∈ g.units, v.name.connectorName = none
  /-- An action of a connector is named by an event and carries the connector. -/
  actions : ∀ c ∈ b.file.connectors, ∀ v ∈ c.units, v.kind = .action →
    ∃ s, ActionName r es s ∧ v.name = { s with connectorName := some c.name.name }
  others : ∀ c ∈ b.file.connectors, ∀ v ∈ c.units, v.kind ≠ .action →
    v.name.connectorName = none

namespace Builder.UnitNames

variable {r : Registry} {es : List Event} {loc : Location} {b b' : Builder}

/-- A fresh builder, over any registry, holds no unit. -/
theorem withRegistry (r : Registry) : (Builder.withRegistry r).UnitNames r [] where
  group := by rintro _ ⟨⟩
  functions := by simp [Builder.withRegistry]
  typeConverters := by simp [Builder.withRegistry]
  services := by simp [Builder.withRegistry]
  actions := by simp [Builder.withRegistry]
  others := by simp [Builder.withRegistry]

/-- What holds after some events holds after more. -/
theorem append (hb : b.UnitNames r es) (more : List Event) : b.UnitNames r (es ++ more) where
  group g hg v hv := ⟨(hb.group g hg v hv).1, fun hk => ((hb.group g hg v hv).2 hk).append more⟩
  functions := hb.functions
  typeConverters := hb.typeConverters
  services := hb.services
  actions c hc v hv hk := by
    obtain ⟨s, hs, hname⟩ := hb.actions c hc v hv hk
    exact ⟨s, hs.append more, hname⟩
  others := hb.others

/-! ## The events that move units -/

theorem topLevelUnit (hb : b.UnitNames r es) {kind : UnitKind} {name : String}
    {isPublic : Bool} (h : (Assembly.topLevelUnit kind name isPublic loc).run b = .ok () b') :
    b'.UnitNames r es := by
  obtain ⟨u, b₁, hf, hplace⟩ := Assembly.run_topLevelUnit_ok h
  obtain ⟨-, hun, piles, rfl⟩ := Assembly.run_finishUnit_name hf
  have hadd {us : List CallableUnit} (hus : ∀ f ∈ us, f.name.connectorName = none) :
      ∀ f ∈ us ++ [u], f.name.connectorName = none :=
    List.forall_mem_append.2 ⟨hus, List.forall_mem_singleton.2 (by rw [hun]; rfl)⟩
  rcases hplace with ⟨-, rfl⟩ | ⟨-, rfl⟩
  · exact { hb with typeConverters := hadd hb.typeConverters }
  · exact { hb with functions := hadd hb.functions }

/-- A resource or action joins the open group with no connector; an action is named by
the event that finishes it, in the package of its time. -/
theorem groupedUnit (hb : b.UnitNames r es) {kind : UnitKind} {name : String}
    (hname : kind = .action → ActionName r es (.withPackage name b.package))
    (h : (Assembly.groupedUnit kind name loc).run b = .ok () b') : b'.UnitNames r es := by
  obtain ⟨g, u, b₁, hg, hf, rfl⟩ := Assembly.run_groupedUnit_ok h
  obtain ⟨hkind, hun, piles, rfl⟩ := Assembly.run_finishUnit_name hf
  have hunits : ∀ v ∈ g.units ++ [u],
      v.name.connectorName = none ∧ (v.kind = .action → ActionName r es v.name) :=
    List.forall_mem_append.2 ⟨hb.group g hg, List.forall_mem_singleton.2
      ⟨by rw [hun]; rfl, fun hk => hun ▸ hname (hkind ▸ hk)⟩⟩
  exact { hb with group := by rintro _ ⟨⟩; exact hunits }

theorem startGroup (hb : b.UnitNames r es) (h : (Assembly.startGroup loc).run b = .ok () b') :
    b'.UnitNames r es := by
  obtain ⟨-, rfl⟩ := Assembly.run_startGroup_ok h
  exact { hb with group := by rintro _ ⟨⟩; simp }

/-- A connector stamps its bare name on its actions, which carried none; a service keeps
its units as they are. -/
theorem finishGroup (hb : b.UnitNames r es) {kind : GroupKind} {name : String}
    (h : (Assembly.finishGroup kind name loc).run b = .ok () b') : b'.UnitNames r es := by
  obtain ⟨frame, anns, lists, -, hg, -, hplace⟩ := Assembly.run_finishGroup_ok h
  have hframe := hb.group frame hg
  rcases hplace with ⟨rfl, rfl⟩ | ⟨rfl, rfl⟩
  · have hservices : ∀ g ∈ b.file.services ++
        [frame.toGroup .service (.withPackage name b.package) anns loc],
        ∀ v ∈ g.units, v.name.connectorName = none :=
      List.forall_mem_append.2 ⟨hb.services, List.forall_mem_singleton.2
        fun v hv => (hframe v hv).1⟩
    exact { hb with group := by rintro _ ⟨⟩, services := hservices }
  · generalize hc : frame.toGroup .connector (.withPackage name b.package) anns loc = c
    have hname : c.name.name = name := by rw [← hc]; rfl
    -- every unit of the new connector is the stamp of a unit of the frame
    have hstamp : ∀ v ∈ c.units, ∃ w ∈ frame.units, Assembly.stampAction name w = v := by
      rw [← hc]
      simp [GroupFrame.toGroup, SymbolName.withPackage]
    have hactions : ∀ v ∈ c.units, v.kind = .action →
        ∃ s, ActionName r es s ∧ v.name = { s with connectorName := some c.name.name } := by
      intro v hv hk
      obtain ⟨w, hw, rfl⟩ := hstamp v hv
      rw [Assembly.kind_stampAction] at hk
      rw [hname]
      exact ⟨w.name, (hframe w hw).2 hk, Assembly.name_stampAction_of_action hk (hframe w hw).1⟩
    have hothers : ∀ v ∈ c.units, v.kind ≠ .action → v.name.connectorName = none := by
      intro v hv hk
      obtain ⟨w, hw, rfl⟩ := hstamp v hv
      rw [Assembly.kind_stampAction] at hk
      rw [Assembly.stampAction_of_ne hk]
      exact (hframe w hw).1
    exact { hb with
      group := by rintro _ ⟨⟩
      actions := List.forall_mem_append.2 ⟨hb.actions, List.forall_mem_singleton.2 hactions⟩
      others := List.forall_mem_append.2 ⟨hb.others, List.forall_mem_singleton.2 hothers⟩ }

/-! ## Runs -/

/-- **Every event that succeeds keeps the connector qualifiers**, given that an `action`
event names its unit as `ActionName` says. -/
theorem step (hb : b.UnitNames r es) {s : Step}
    (hname : ∀ n, s = .action n → ActionName r es (.withPackage n b.package))
    (h : (Assembly.step loc s).run b = .ok () b') : b'.UnitNames r es := by
  cases hs : s.onPiles
  case true =>
    obtain ⟨piles, warnings, rfl⟩ := Assembly.run_onPiles_ok hs h
    exact { hb with }
  cases s <;> simp only [Step.onPiles, Bool.true_eq_false] at hs <;> simp only [Assembly.step] at h
  -- the events that move units
  case function name isPublic => exact hb.topLevelUnit h
  case typeConverter name isPublic => exact hb.topLevelUnit h
  case resource name => exact hb.groupedUnit (by rintro ⟨⟩) h
  case action name => exact hb.groupedUnit (fun _ => hname name rfl) h
  case startCallableUnitGroup => exact hb.startGroup h
  case service name => exact hb.finishGroup h
  case connector name => exact hb.finishGroup h
  -- the declarations, which change the open group past its units
  case param name =>
    obtain ⟨-, -, -, ⟨-, -, rfl⟩ | ⟨-, g, hg, rfl⟩⟩ := Assembly.run_param_ok h
    · exact { hb with }
    · exact { hb with group := by rintro _ ⟨⟩; exact hb.group g hg }
  case variableDecl name =>
    obtain ⟨-, -, -, ⟨-, -, -, -, rfl⟩ | ⟨-, g, hg, rfl⟩⟩ := Assembly.run_variableDecl_ok h
    · exact { hb with }
    · exact { hb with group := by rintro _ ⟨⟩; exact hb.group g hg }
  case connectorDecl name =>
    obtain ⟨-, -, -, -, -, -, -, ⟨-, -, rfl⟩ | ⟨-, g, hg, rfl⟩⟩ := Assembly.run_connectorDecl_ok h
    · exact { hb with }
    · exact { hb with group := by rintro _ ⟨⟩; exact hb.group g hg }
  -- the events that leave every unit alone
  case packageDecl =>
    obtain ⟨-, -, -, rfl⟩ := Assembly.run_packageDecl_ok h
    exact { hb with }
  case importPackage given =>
    obtain ⟨-, -, -, rfl⟩ := Assembly.run_importPackage_ok h
    exact { hb with }
  case type name | arrayType name | registerConnectorType name =>
    simp at h
    subst h
    exact { hb with }
  case returnTypes =>
    obtain ⟨-, -, rfl⟩ := Assembly.run_returnTypes_ok h
    exact { hb with }
  case namedReturnParam name =>
    obtain ⟨-, -, -, -, -, rfl⟩ := Assembly.run_namedReturnParam_ok h
    exact { hb with }
  case constant name =>
    obtain ⟨-, -, -, -, -, -, rfl⟩ := Assembly.run_constant_ok h
    exact { hb with }
  case startCallableUnit =>
    obtain ⟨-, rfl⟩ := Assembly.run_startUnit_ok h
    exact { hb with }
  case endCallableUnitBody =>
    obtain ⟨-, -, -, -, -, rfl⟩ := Assembly.run_endUnitBody_ok h
    exact { hb with }
  case startStruct =>
    obtain ⟨-, rfl⟩ := Assembly.run_startStruct_ok h
    exact { hb with }
  case structField name =>
    obtain ⟨-, -, -, -, -, rfl⟩ := Assembly.run_structField_ok h
    exact { hb with }
  case structDefinition name isPublic =>
    obtain ⟨-, -, rfl⟩ := Assembly.run_structDefinition_ok h
    exact { hb with }

/-- A trimmed builder has the file it had and its group or none, so it keeps the
qualifiers. -/
theorem of_trimmed (hb : b.UnitNames r es) (h : b'.Trimmed b) : b'.UnitNames r es where
  group g hg := by
    rcases h.group with heq | hnone
    · exact hb.group g (heq ▸ hg)
    · rw [hnone] at hg
      cases hg
  functions := by rw [h.file]; exact hb.functions
  typeConverters := by rw [h.file]; exact hb.typeConverters
  services := by rw [h.file]; exact hb.services
  actions := by rw [h.file]; exact hb.actions
  others := by rw [h.file]; exact hb.others

/-- Applying an event keeps the qualifiers, with the event added to the history: a
refused event leaves the units as they were, a failing one leaves the builder trimmed, and
an `action` event finishes its unit in the package the builder has when the event comes. -/
theorem apply (hb : b.UnitNames r es)
    (hpkg : b.package = ((Builder.withRegistry r).applyAll es).1.package) (e : Event) :
    (b.apply e).1.UnitNames r (es ++ [e]) := by
  obtain ⟨s, l⟩ := e
  cases ha : b.aborted
  · rcases hr : (Assembly.step l s).run b with ⟨⟨⟩, b'⟩ | ⟨d, b'⟩
    · rw [apply_of_run_ok ha hr]
      refine (hb.append _).step ?_ hr
      rintro n rfl
      exact ⟨es, n, l, [], rfl, by rw [hpkg]⟩
    · rw [apply_of_run_error ha hr]
      exact { (hb.append _).of_trimmed (Assembly.failsTrimmed_step s b d b' hr) with }
  · rw [apply_of_aborted ha]
    exact hb.append _

/-- **Every run keeps the connector qualifiers.** -/
theorem applyAll (r : Registry) (es : List Event) :
    ((Builder.withRegistry r).applyAll es).1.UnitNames r es := by
  -- the history grows at its end, so the induction adds the last event
  induction es using List.reverseRecOn with
  | nil => exact withRegistry r
  | append_singleton es e ih =>
    simp only [applyAll_append, applyAll_cons_fst, applyAll_nil]
    exact ih.apply rfl e

end Builder.UnitNames

/-- **The connector qualifiers of a build.**  For every registry and every list of events
whose replay hands out a compilation unit: every action of a connector carries that
connector's bare name, and besides it the bare name of an `action` event of the build and
the package the builder had just before that event; every other callable unit (the
functions, the type converters, the units of the services and the resources of the
connectors) carries no connector. -/
theorem replay_unit_qualifiers (r : Registry) (es : List Event) {u : CompilationUnit}
    {reg : Registry} (h : (Replay.run r es).result = .ok (u, reg)) :
    (∀ c ∈ u.connectors, ∀ a ∈ c.units, a.kind = .action →
      ∃ pre n loc post, es = pre ++ ⟨.action n, loc⟩ :: post ∧
        a.name = .forAction c.name.name n ((Builder.withRegistry r).applyAll pre).1.package) ∧
    (∀ c ∈ u.connectors, ∀ a ∈ c.units, a.kind ≠ .action → a.name.connectorName = none) ∧
    (∀ g ∈ u.services, ∀ a ∈ g.units, a.name.connectorName = none) ∧
    (∀ f ∈ u.functions, f.name.connectorName = none) ∧
    (∀ f ∈ u.typeConverters, f.name.connectorName = none) := by
  obtain ⟨-, -, -, -, -, rfl, -⟩ := Builder.finish_eq_ok h
  have hb := Builder.UnitNames.applyAll r es
  refine ⟨fun c hc a ha hk => ?_, hb.others, hb.services, hb.functions, hb.typeConverters⟩
  obtain ⟨s, ⟨pre, n, loc, post, hes, rfl⟩, hname⟩ := hb.actions c hc a ha hk
  exact ⟨pre, n, loc, post, hes, hname⟩

/-- A connector `Client` with one action `get`, in the package `http`: the build succeeds,
and the action is `http:Client.get`. -/
theorem replay_unit_qualifiers_client :
    ∃ es u reg, es = [⟨.packageName "http", ⟨"c", 1⟩⟩, ⟨.packageDecl, ⟨"c", 1⟩⟩,
        ⟨.startCallableUnitGroup, ⟨"c", 2⟩⟩, ⟨.startCallableUnit, ⟨"c", 3⟩⟩,
        ⟨.action "get", ⟨"c", 3⟩⟩, ⟨.connector "Client", ⟨"c", 2⟩⟩] ∧
      (Replay.run .fresh es).result = .ok (u, reg) ∧
      ((∀ c ∈ u.connectors, ∀ a ∈ c.units, a.kind = .action →
        ∃ pre n loc post, es = pre ++ ⟨.action n, loc⟩ :: post ∧
          a.name = .forAction c.name.name n ((Builder.withRegistry .fresh).applyAll pre).1.package) ∧
      (∀ c ∈ u.connectors, ∀ a ∈ c.units, a.kind ≠ .action → a.name.connectorName = none) ∧
      (∀ g ∈ u.services, ∀ a ∈ g.units, a.name.connectorName = none) ∧
      (∀ f ∈ u.functions, f.name.connectorName = none) ∧
      (∀ f ∈ u.typeConverters, f.name.connectorName = none)) := by
  refine ⟨_, ?u, ?reg, rfl, ?built, replay_unit_qualifiers _ _ ?built⟩
  case built => rfl

end TreeAssembly
