import PathRouter.Route.Basic

/-!
# Events

What a registry reports about its work, and the wording of the reports.
-/

set_option autoImplicit false

namespace PathRouter

open Text

/-- How much an event matters. -/
inductive Level where
  | debug
  | info
  | error
  deriving DecidableEq

namespace Level

/-- The name of a level. -/
def name : Level → String
  | .debug => "DEBUG"
  | .info => "INFO"
  | .error => "ERROR"

/-- The level of a name. -/
def ofName? (name : String) : Option Level := [debug, info, error].find? (·.name == name)

/-- The rank of a level among the levels. -/
def rank : Level → Nat
  | .debug => 0
  | .info => 1
  | .error => 2

end Level

/-- An event in the work of a registry. -/
inductive Event where
  /-- A registration failed, and with it all that were pending. -/
  | discarded (pattern : PatternRef) (cause : Failure)
  | rolledBack (count : Nat)
  | cleared
  /-- A block of registrations failed after `count` routes. -/
  | aborted (count : Nat) (live : Option Int)
  /-- A load found no room for the route of a declaration. -/
  | capped (index : Nat) (cause : Failure)
  | refused (index : Nat) (source : Option String) (cause : Failure)
  | committed (version : Int) (count : Nat) (unchanged : Bool)
  /-- A path is matched by two patterns of one score. -/
  | tied (method path winner other : String) (score : Nat)

namespace Event

/-- How much an event matters. -/
def level : Event → Level
  | .discarded .. | .aborted .. | .capped .. | .refused .. => .error
  | .rolledBack _ | .cleared | .committed .. => .info
  | .tied .. => .debug

/-- The wording of an event. -/
def text : Event → String
  | .discarded pattern cause =>
    "Discarding pending routes after " ++ pattern.describe ++ " failed: " ++ cause.message
  | .rolledBack count => "Rolled back " ++ toString count ++ " pending routes"
  | .cleared => "Cleared pattern registry"
  | .aborted count live =>
    "Load aborted after " ++ toString count ++ " routes; keeping generation " ++
      (live.map toString).getD "None"
  | .capped index cause =>
    "Load failed at declaration #" ++ toString index ++ ": " ++ cause.message
  | .refused index source cause =>
    "Load failed at declaration #" ++ toString index ++ " (" ++
      (source.map quoted).getD "None" ++ "): " ++ cause.message
  | .committed version count unchanged =>
    "Committed generation " ++ toString version ++ " with " ++ toString count ++ " routes" ++
      (if unchanged then " (route table unchanged)" else "")
  | .tied method path winner other score =>
    method ++ " " ++ quoted path ++ " matches " ++ quoted winner ++ " and " ++ quoted other ++
      " with score " ++ toString score ++ "; lexical order picks " ++ quoted winner

end Event

end PathRouter
