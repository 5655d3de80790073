/-!
# Qualified symbol names

A symbol name couples a bare identifier with the package it lives in and, for actions,
the connector that owns it.  Its canonical text is `pkg:connector.name`, with absent
parts left out.  Only the connector qualifier changes after a name is made, and only
once: actions are finished before the name of their connector is known, and the
connector stamps itself onto them when it is finished.
-/

namespace TreeAssembly

/-- An identifier with its optional package and connector qualifiers. -/
structure SymbolName where
  name : String
  pkgPath : Option String := none
  connectorName : Option String := none
  deriving DecidableEq, Repr, Inhabited

namespace SymbolName

/-- A bare name, qualified by `pkg` when one is given. -/
def withPackage (name : String) (pkg : Option String) : SymbolName :=
  { name, pkgPath := pkg }

/-- The name of an action reached through a connector, as in `http:Client.get`. -/
def forAction (connector action : String) (pkg : Option String) : SymbolName :=
  { name := action, pkgPath := pkg, connectorName := some connector }

/-- The canonical `pkg:connector.name` text; absent parts are left out. -/
def qualified (s : SymbolName) : String :=
  (match s.pkgPath with
    | some pkg => pkg ++ ":"
    | none => "") ++
  (match s.connectorName with
    | some c => c ++ "."
    | none => "") ++ s.name

/-- Stamps the owning connector onto a name that has no connector yet; a name that
already has one is kept as it is. -/
def bindConnector (s : SymbolName) (connector : String) : SymbolName :=
  match s.connectorName with
  | some _ => s
  | none => { s with connectorName := some connector }

@[simp] theorem bindConnector_of_none (s : SymbolName) (c : String)
    (h : s.connectorName = none) : s.bindConnector c = { s with connectorName := some c } := by
  simp [bindConnector, h]

@[simp] theorem bindConnector_of_some (s : SymbolName) (c d : String)
    (h : s.connectorName = some d) : s.bindConnector c = s := by
  simp [bindConnector, h]

@[simp] theorem name_bindConnector (s : SymbolName) (c : String) :
    (s.bindConnector c).name = s.name := by
  unfold bindConnector; split <;> rfl

end SymbolName

end TreeAssembly
