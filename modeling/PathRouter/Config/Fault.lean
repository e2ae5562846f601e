import PathRouter.Value

/-!
# What can be wrong with a configuration

The faults of settings and their wording.
-/

set_option autoImplicit false

namespace PathRouter

/-- Why settings are refused. -/
inductive ConfigFault where
  | unknownNames (names : List String)
  | unknownName (name : String)
  | empty (name : String)
  | notBoolean (name : String) (value : Value)
  | notNumber (name : String) (value : Value)
  | notInteger (name : String) (value : Value)
  /-- A number that is not in the range `bound` describes. -/
  | outOfRange (name bound : String) (value : Value)
  /-- A cache and settings that disagree on whether defaults are validated. -/
  | mismatch (cache settings : Bool)

/-- The wording of a fault. -/
def ConfigFault.message : ConfigFault → String
  | .unknownNames names => "Unknown router config keys: " ++ ", ".intercalate names
  | .unknownName name => "Unknown router config key: " ++ name
  | .empty name => name ++ " cannot be empty"
  | .notBoolean name value => name ++ " must be a boolean, got " ++ value.shown
  | .notNumber name value => name ++ " must be a number, got " ++ value.shown
  | .notInteger name value => name ++ " must be an integer, got " ++ value.shown
  | .outOfRange name bound value => name ++ " must be " ++ bound ++ ", got " ++ value.printed
  | .mismatch cache settings =>
    "Cache validate_defaults=" ++ (Value.bool cache).shown ++
      " does not match config validate_defaults=" ++ (Value.bool settings).shown

/-- Whether a fault can be worded: the value that its wording shows can be written out. -/
def ConfigFault.isWritable : ConfigFault → Bool
  | .notBoolean _ value | .notNumber _ value | .notInteger _ value | .outOfRange _ _ value =>
    value.isWritable
  | .unknownNames _ | .unknownName _ | .empty _ | .mismatch .. => true

/-- Why no settings come about: they have a fault, or one that cannot be worded, an integer is too
large for a duration, or a value cannot be compared with a number. -/
inductive ConfigError where
  | fault (f : ConfigFault)
  | unwritable
  | tooLarge
  | incomparable (operator kind : String)

end PathRouter
