import PathRouter.Regex.Reader

/-!
# Expressions that can be run

Reading settles the spelling of an expression; what is left to check is that every lookbehind has a
fixed width. `compile` does both and gives the expression with the number of its capturing groups.
-/

set_option autoImplicit false

namespace PathRouter.Regex

/-- The name of a kind of repetition in messages. -/
def Greed.name : Greed → String
  | .greedy => "MAX_REPEAT"
  | .reluctant => "MIN_REPEAT"
  | .possessive => "POSSESSIVE_REPEAT"

/-- The widest body a lookbehind may have, one less than `2 ^ 32`. -/
def maxLookbehind : Nat := 0xffffffff

/-- Refuses a lookbehind without a fixed width and, if `plain` is set, any repetition. Elements are
checked from left to right, a group before its body. -/
def check (plain : Bool) : Regex → Except Error Unit
  | .seq r s | .alt r s | .cond _ r s => do
    check plain r
    check plain s
  | .group _ r | .scoped r | .atomic r | .lookAhead _ r => check plain r
  | .rep greed _ _ r =>
    if plain then .error (.fault (.noRepetition greed.name)) else check plain r
  | .lookBehind _ w r =>
    if maxLookbehind < w.least then .error (.fault .endlessLookbehind)
    else if w.least ≠ w.most then .error (.fault .variableLookbehind)
    else check plain r
  | .empty | .char .. | .anchor .. | .backref .. => .ok ()

/-- An expression that can be run. -/
structure Program where
  regex : Regex
  /-- The number of capturing groups. -/
  groups : Nat
  deriving DecidableEq, Inhabited

/-- Reads and checks an expression. Where spelling is `strict`, group numbers are in plain digits.
-/
def compile (strict : Bool) (modes : Modes) (pattern : List Char) : Except Error Program := do
  let r ← read strict modes pattern
  let regex := r.top.body
  check (r.globals.contains 't') regex
  return ⟨regex, r.table.next - 1⟩

end PathRouter.Regex
