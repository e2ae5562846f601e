import PathRouter.Parameters
import PathRouter.Config.Fault
import PathRouter.Decimal.Numeral
import PathRouter.Diagnostic
import PathRouter.Text.Case

/-!
# Settings

The settings of a registry. Values that come from outside are brought into the kind of their
setting: a text is read as what it spells. However settings come about, they are checked for their
ranges.
-/

set_option autoImplicit false

namespace PathRouter

open Text

namespace Value

/-- What a text from outside spells: a truth value, nothing, an integer or a decimal. Any other text
stays a text. -/
def ofText (s : String) : Value :=
  let word := lower (trim s)
  if ["true", "yes", "on"].contains word then .bool true
  else if ["false", "no", "off"].contains word then .bool false
  else if ["none", "null", ""].contains word then .null
  else match Decimal.integer? word.toList with
    | some n => .int n
    | none => match Decimal.decimal? word.toList with
      | some x => .float x
      | none => .text s

/-- A truth value as an integer. -/
def ofBool (b : Bool) : Int := if b then 1 else 0

/-- Whether a value is less than an integer, unless the two cannot be compared. -/
def below? (v : Value) (bound : Int) : Option Bool :=
  match v with
  | .int n => some (n < bound)
  | .bool b => some (ofBool b < bound)
  | .float x => some (x < Float.ofInt bound)
  | _ => none

/-- Whether a value is at most an integer, unless the two cannot be compared. -/
def atMost? (v : Value) (bound : Int) : Option Bool :=
  match v with
  | .int n => some (n ≤ bound)
  | .bool b => some (ofBool b ≤ bound)
  | .float x => some (x ≤ Float.ofInt bound)
  | _ => none

/-- Whether a value is missing. -/
def isNull : Value → Bool
  | .null => true
  | _ => false

/-- The truth value that a value equals. -/
def truth? : Value → Option Bool
  | .bool b => some b
  | .int n => if n = 0 then some false else if n = 1 then some true else none
  | .float x => if x == 0 then some false else if x == 1 then some true else none
  | _ => none

/-- Whether a value counts as true: it is neither missing nor zero nor empty. -/
def isTruthy : Value → Bool
  | .null => false
  | .bool b => b
  | .int n => n != 0
  | .float x => x != 0
  | .text s => s != ""
  | .list items => !items.isEmpty
  | .record fields => !fields.isEmpty

/-- The least count that is not below a number. There is none for infinity, which is above all
counts, and for NaN, which none of them reaches; other values are no numbers. -/
def leastCount? : Value → Option Int
  | .int n => some n
  | .bool b => some (ofBool b)
  | .float x => Decimal.ceil? x
  | _ => none

/-- A number of seconds, unless it is too large for one. -/
def seconds? : Value → Option Float
  | .int n => Decimal.ofInt? n
  | .bool b => Decimal.ofInt? (ofBool b)
  | .float x => some x
  | _ => none

end Value

/-- The names of the settings. -/
inductive Setting where
  /-- The number of compiled patterns that are kept. -/
  | cacheSize
  /-- For how many seconds a compiled pattern is kept, if not for ever. -/
  | cacheTtl
  /-- Whether defaults are checked against their constraints. -/
  | validateDefaults
  /-- The greatest number of routes, if there is one. -/
  | maxPatterns
  deriving DecidableEq

namespace Setting

/-- All settings, in the order in which they are read. -/
def all : List Setting := [.cacheSize, .cacheTtl, .validateDefaults, .maxPatterns]

/-- The name of a setting. -/
def name : Setting → String
  | .cacheSize => "cache_size"
  | .cacheTtl => "cache_ttl"
  | .validateDefaults => "validate_defaults"
  | .maxPatterns => "max_patterns"

/-- The setting of a name. -/
def ofName? (name : String) : Option Setting := all.find? (·.name == name)

/-- Whether a setting may be missing. -/
def isOptional : Setting → Bool
  | .cacheTtl | .maxPatterns => true
  | .cacheSize | .validateDefaults => false

/-- Refuses a setting for a fault, or for the fault that its value cannot even be written out. -/
def refuse {α : Type} (f : ConfigFault) : Except ConfigError α :=
  .error (if f.isWritable then .fault f else .unwritable)

/-- A value as a truth value. -/
def asTruth (s : Setting) (v : Value) : Except ConfigError Value :=
  match v.truth? with
  | some b => .ok (.bool b)
  | none => refuse (.notBoolean s.name v)

/-- A number as an integer. -/
def asInteger (s : Setting) : Value → Except ConfigError Value
  | .int n => .ok (.int n)
  | .float x =>
    match Decimal.toInt? x with
    | some n => .ok (.int n)
    | none => refuse (.notInteger s.name (.float x))
  | v => refuse (.notNumber s.name v)

/-- A number as a duration. -/
def asDuration (s : Setting) : Value → Except ConfigError Value
  | .int n =>
    match Decimal.ofInt? n with
    | some x => .ok (.float x)
    | none => .error .tooLarge
  | .float x => .ok (.float x)
  | v => refuse (.notNumber s.name v)

/-- A value that is no text, in the kind of a setting. -/
def convert (s : Setting) (v : Value) : Except ConfigError Value :=
  if v.isNull then
    if s.isOptional then .ok .null else refuse (.empty s.name)
  else match s with
    | .cacheSize | .maxPatterns => s.asInteger v
    | .cacheTtl => s.asDuration v
    | .validateDefaults => s.asTruth v

/-- A value from outside in the kind of a setting. -/
def coerce (s : Setting) : Value → Except ConfigError Value
  | .text t => s.convert (.ofText t)
  | v => s.convert v

/-- The setting of a name from outside. -/
def named (name : String) : Except ConfigError Setting :=
  match ofName? name with
  | some s => .ok s
  | none => refuse (.unknownName name)

end Setting

/-- The settings of a registry. -/
structure Settings where
  cacheSize : Value := .int 1000
  cacheTtl : Value := .null
  validateDefaults : Value := .bool true
  maxPatterns : Value := .null
  deriving Inhabited

namespace Settings

/-- The value of a setting. -/
def get (c : Settings) : Setting → Value
  | .cacheSize => c.cacheSize
  | .cacheTtl => c.cacheTtl
  | .validateDefaults => c.validateDefaults
  | .maxPatterns => c.maxPatterns

/-- The settings with one of them changed. -/
def set (c : Settings) (s : Setting) (v : Value) : Settings :=
  match s with
  | .cacheSize => { c with cacheSize := v }
  | .cacheTtl => { c with cacheTtl := v }
  | .validateDefaults => { c with validateDefaults := v }
  | .maxPatterns => { c with maxPatterns := v }

/-- Refuses a value that is out of the range `bound` describes, or that has no place among numbers.
-/
def checkRange (s : Setting) (v : Value) (bound operator : String) (outside? : Option Bool) :
    Except ConfigError Unit :=
  match outside? with
  | none => .error (.incomparable operator v.kindName)
  | some true => Setting.refuse (.outOfRange s.name bound v)
  | some false => .ok ()

/-- Settings whose values are in their ranges. -/
def check (c : Settings) : Except ConfigError Settings := do
  checkRange .cacheSize c.cacheSize ">= 0" "<" (c.cacheSize.below? 0)
  if !c.cacheTtl.isNull then
    checkRange .cacheTtl c.cacheTtl "> 0" "<=" (c.cacheTtl.atMost? 0)
  if !c.maxPatterns.isNull then
    checkRange .maxPatterns c.maxPatterns ">= 1" "<" (c.maxPatterns.below? 1)
  return c

/-- Settings with values that are taken as they are. -/
def ofValues (values : Bindings Value) : Except ConfigError Settings := do
  let c ← values.items.foldlM
    (fun (c : Settings) (name, v) => return c.set (← Setting.named name) v) {}
  c.check

/-- The values of all settings, by their names. -/
def toBindings (c : Settings) : Bindings Value :=
  .ofList (Setting.all.map fun s => (s.name, c.get s))

/-- Changes a setting if `data` has a value for it. -/
def take (data : Bindings Value) (c : Settings) (s : Setting) : Except ConfigError Settings :=
  match data.get? s.name with
  | none => .ok c
  | some v => return c.set s (← s.coerce v)

/-- Settings with values from outside. -/
def ofBindings (data : Bindings Value) : Except ConfigError Settings :=
  let unknown := data.names.filter fun name => (Setting.ofName? name).isNone
  if unknown.isEmpty then do
    let c ← Setting.all.foldlM (take data) {}
    c.check
  else Setting.refuse (.unknownNames (sortTexts unknown))

/-- The settings with some of them changed to values from outside. -/
def withOverrides (c : Settings) (overrides : Bindings Value) : Except ConfigError Settings := do
  let changed ← overrides.items.foldlM
    (fun (c : Settings) (name, v) => do
      let s ← Setting.named name
      return c.set s (← s.coerce v)) c
  changed.check

end Settings

/-- The limits of a registry: its settings, each in the type of its kind. -/
structure Limits where
  cacheSize : Int := 1000
  cacheTtl? : Option Float := none
  validateDefaults : Bool := true
  maxPatterns? : Option Int := none

/-- A size that no cache reaches. -/
def Limits.endless : Int := 0x8000000000000000

/-- The limits that settings express. Values that are taken as they are may be numbers of any kind:
routes and cached patterns are counted up to the least count that is not below the number, and
without end if there is none. -/
def Settings.limits (c : Settings) : Limits where
  cacheSize := c.cacheSize.leastCount?.getD Limits.endless
  cacheTtl? := c.cacheTtl.seconds?
  validateDefaults := c.validateDefaults.isTruthy
  maxPatterns? := c.maxPatterns.leastCount?

end PathRouter
