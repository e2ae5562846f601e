import PathRouter.Config.Settings

/-!
# Layers of settings

Settings come in layers: defaults, a file of assignments, the variables of an environment, and
overrides. A layer hides the layers below it, name by name. How the file is written and read is not
said here: whatever bindings come from it, they are a layer.
-/

set_option autoImplicit false

namespace PathRouter

/-- Where settings come from. -/
structure Layers where
  /-- What the file of assignments binds, if there is one. A name in it may have no value. -/
  file? : Option (Bindings (Option String)) := none
  /-- The variables of the surrounding process. -/
  process : Bindings (Option String) := .empty
  /-- The environment, if it is not that of the process. -/
  environment? : Option (Bindings (Option String)) := none
  overrides : Bindings Value := .empty
  /-- What the names of variables begin with. -/
  lead : String := "URIROUTE_"

namespace Layers

/-- What a name says about a setting: the remainder after the lead, in lower case. -/
def settingName? (lead name : String) : Option String :=
  if lead.toList.isPrefixOf name.toList then
    some (Text.lower (String.ofList (name.toList.drop lead.length)))
  else none

/-- The settings among variables. A variable without a value sets nothing. -/
def extract (lead : String) (known : Bindings (Option String)) : List (String × Value) :=
  known.items.filterMap fun (name, value?) =>
    match settingName? lead name, value? with
    | some s, some value => some (s, .ofText value)
    | _, _ => none

/-- The values of all layers, the higher in place of the lower. -/
def merge (l : Layers) : Bindings Value :=
  ((Bindings.empty.insertAll (extract l.lead (l.file?.getD .empty))).insertAll
    (extract l.lead (l.environment?.getD l.process))).insertAll l.overrides.items

/-- The settings that the layers express. -/
def load (l : Layers) : Except ConfigError Settings := Settings.ofBindings l.merge

end Layers

end PathRouter
