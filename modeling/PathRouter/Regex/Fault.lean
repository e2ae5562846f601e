import PathRouter.Text.Quoted

/-!
# What can be wrong with an expression

`Problem` lists the faults of spelling that reading an expression can meet, each with the place
where it is reported; `Fault` adds the faults that are found once the whole expression has been
read, and `Excess` the limits of the engine, which are no faults of spelling. `Fault.message` is
the wording. How deeply groups may be nested has no limit here.
-/

set_option autoImplicit false

namespace PathRouter.Regex

open Text

/-- A fault of spelling. -/
inductive Problem where
  | loneBackslash
  | badEscape (shown : List Char)
  | incompleteEscape (shown : List Char)
  | octalTooLarge (shown : List Char)
  | noOpeningBrace
  | missingName (what : String)
  | unterminatedName (terminator : Char)
  | undefinedCharacter (name : List Char)
  | unterminatedClass
  | badRange (low high : List Char)
  | leastExceedsMost
  | nothingToRepeat
  | multipleRepeat
  | unbalanced
  | unterminatedGroup
  | unterminatedComment
  | unexpectedEnd
  | unknownExtension (shown : List Char)
  | badGroupName (name : List Char)
  | redefinedGroup (name : List Char) (index previous : Nat)
  | unknownGroupName (name : List Char)
  | badGroupNumber
  | invalidReference (index : Nat)
  | openGroup
  | lookbehindGroup
  | moreThanTwoBranches
  | unknownFlag
  | missingFlagOrEnd
  | missingFlag
  | missingColon
  | localeFlag
  | incompatibleFlags
  | flagsNotAtStart
  | globalFlagOn
  | typeFlagOff
  | globalFlagOff
  | flagOnAndOff
  deriving DecidableEq

/-- The wording of a fault of spelling. -/
def Problem.message : Problem → String
  | .loneBackslash => "bad escape (end of pattern)"
  | .badEscape shown => "bad escape " ++ String.ofList shown
  | .incompleteEscape shown => "incomplete escape " ++ String.ofList shown
  | .octalTooLarge shown =>
    "octal escape value " ++ String.ofList shown ++ " outside of range 0-0o377"
  | .noOpeningBrace => "missing \x7b"
  | .missingName what => "missing " ++ what
  | .unterminatedName terminator => "missing " ++ terminator.toString ++ ", unterminated name"
  | .undefinedCharacter name => "undefined character name " ++ quoted (String.ofList name)
  | .unterminatedClass => "unterminated character set"
  | .badRange low high =>
    "bad character range " ++ String.ofList low ++ "-" ++ String.ofList high
  | .leastExceedsMost => "min repeat greater than max repeat"
  | .nothingToRepeat => "nothing to repeat"
  | .multipleRepeat => "multiple repeat"
  | .unbalanced => "unbalanced parenthesis"
  | .unterminatedGroup => "missing ), unterminated subpattern"
  | .unterminatedComment => "missing ), unterminated comment"
  | .unexpectedEnd => "unexpected end of pattern"
  | .unknownExtension shown => "unknown extension ?" ++ String.ofList shown
  | .badGroupName name => "bad character in group name " ++ quoted (String.ofList name)
  | .redefinedGroup name index previous =>
    "redefinition of group name " ++ quoted (String.ofList name) ++ " as group " ++
      toString index ++ "; was group " ++ toString previous
  | .unknownGroupName name => "unknown group name " ++ quoted (String.ofList name)
  | .badGroupNumber => "bad group number"
  | .invalidReference index => "invalid group reference " ++ toString index
  | .openGroup => "cannot refer to an open group"
  | .lookbehindGroup => "cannot refer to group defined in the same lookbehind subpattern"
  | .moreThanTwoBranches => "conditional backref with more than two branches"
  | .unknownFlag => "unknown flag"
  | .missingFlagOrEnd => "missing -, : or )"
  | .missingFlag => "missing flag"
  | .missingColon => "missing :"
  | .localeFlag => "bad inline flags: cannot use 'L' flag with a str pattern"
  | .incompatibleFlags => "bad inline flags: flags 'a', 'u' and 'L' are incompatible"
  | .flagsNotAtStart => "global flags not at the start of the expression"
  | .globalFlagOn => "bad inline flags: cannot turn on global flag"
  | .typeFlagOff => "bad inline flags: cannot turn off flags 'a', 'u' and 'L'"
  | .globalFlagOff => "bad inline flags: cannot turn off global flag"
  | .flagOnAndOff => "bad inline flags: flag turned on and off"

/-- Why an expression is refused. -/
inductive Fault where
  /-- A fault of spelling at a position, counted in characters from the start. -/
  | misspelt (problem : Problem) (position : Nat)
  /-- A group number that is not spelt in plain digits, refused where spelling is strict. -/
  | looseGroupNumber (name : List Char) (position : Nat)
  /-- A lookbehind whose body can take up different numbers of characters. -/
  | variableLookbehind
  /-- A lookbehind whose body is longer than any text can be. -/
  | endlessLookbehind
  /-- A repetition, named by its kind, where the whole expression is set to have none. -/
  | noRepetition (kind : String)
  deriving DecidableEq

/-- A limit of the engine. -/
inductive Excess where
  /-- A bound of a repetition beyond the greatest one. -/
  | repetition
  /-- An escape for a code point beyond 31 bits. -/
  | codePoint
  /-- A bound of a repetition with too many digits. -/
  | digits (count : Nat)
  /-- Classes set both to ASCII and to all scripts. -/
  | alphabets
  deriving DecidableEq

/-- The outcome of reading an expression that does not succeed. -/
inductive Error where
  | fault (f : Fault)
  | excess (e : Excess)
  deriving DecidableEq

/-- The line and the column of a position, both counted from one; the column of the first line is
one more than the position. -/
def lineAndColumn (pattern : List Char) (position : Nat) : Nat × Nat :=
  let before := pattern.take position
  (before.count '\n' + 1, (before.reverse.takeWhile (· != '\n')).length + 1)

/-- The wording of a fault of `pattern`. Line and column are told where there are several lines. -/
def Fault.message (pattern : List Char) : Fault → String
  | .misspelt problem position =>
    let text := problem.message ++ " at position " ++ toString position
    if pattern.contains '\n' then
      let (line, column) := lineAndColumn pattern position
      text ++ " (line " ++ toString line ++ ", column " ++ toString column ++ ")"
    else text
  | .looseGroupNumber name position =>
    "bad character in group name " ++ quoted (String.ofList name) ++ " at position " ++
      toString position
  | .variableLookbehind => "look-behind requires fixed-width pattern"
  | .endlessLookbehind => "looks too much behind"
  | .noRepetition kind => "internal: unsupported template operator " ++ kind

/-- The wording of a limit of the engine. -/
def Excess.message : Excess → String
  | .repetition => "the repetition number is too large"
  | .codePoint => "Python int too large to convert to C int"
  | .digits count =>
    "Exceeds the limit (4300 digits) for integer string conversion: value has " ++
      toString count ++ " digits; use sys.set_int_max_str_digits() to increase the limit"
  | .alphabets => "ASCII and UNICODE flags are incompatible"

end PathRouter.Regex
