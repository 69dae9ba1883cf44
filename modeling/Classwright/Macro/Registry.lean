import Classwright.Action
import Classwright.Macro.Expansion
import Classwright.Table

/-!
# Macro — the registry

A registry is filled, then read: the first expansion freezes it for good, whether or not it
succeeds.

* `Registry`: the templates by name, and whether expansion has begun.
* `Registry.register`, `Registry.registerAll`: filling it.
* `Registry.template`, `Registry.expand`: reading it.
-/

namespace Classwright.Macro

/-- Templates by name; frozen once expansion has begun. -/
structure Registry where
  templates : Table Text Text := []
  frozen : Bool := false

namespace Registry

/-- The template of a name, if it is registered. -/
def template? (registry : Registry) (name : Text) : Option Text :=
  registry.templates.find? name

/-- The number of macros. -/
def size (registry : Registry) : Nat := registry.templates.length

/-- The warning about a name that is registered once more. -/
def redefinition (name : Text) : Text :=
  "Macro " ++ name.quoted ++ " is defined more than once; the last definition wins"

/-- Registers a template. A later one of the same name takes the place of the earlier, with a
warning. -/
def register (name template : Text) : Action Registry Unit := do
  let registry ← Action.state
  if registry.frozen then throw (.frozenRegistry name)
  if name = [] then throw .unnamedMacro
  if registry.templates.contains name then
    Action.log .warning Log.macros (redefinition name)
  Action.put { registry with templates := registry.templates.insert name template }

/-- Registers templates in order, up to the first that is refused. -/
def registerAll : List (Text × Text) → Action Registry Unit
  | [] => pure ()
  | (name, template) :: rest => do
      register name template
      registerAll rest

/-- The template of a name; a name that is not registered is a failure. -/
def template (name : Text) : Action Registry Text := do
  match (← Action.state).template? name with
  | some t => pure t
  | none => throw (.undefinedMacro name)

/-- Is the name registered? -/
def isRegistered (name : Text) : Action Registry Bool :=
  return (← Action.state).templates.contains name

/-- The text with every call replaced. From now on the registry is frozen. -/
def expand (t : Text) : Action Registry Text := do
  let registry ← Action.state
  Action.put { registry with frozen := true }
  Action.ofExcept (expandWith registry.template? t)

end Registry

end Classwright.Macro
