import JogShuttle.Text.Digit
import JogShuttle.Text.Literal

/-!
# What is wrong with a pattern

A flaw makes a pattern invalid; it is reported with the place where it was noticed. A fault is no
verdict on the pattern at all: it stops the reading of whatever holds the pattern.
-/

set_option autoImplicit false

namespace JogShuttle

namespace Pattern

inductive Flaw where
  | escapeAtEnd
  | badEscape (text : String)
  | incompleteEscape (text : String)
  | octalRange (text : String)
  | unknownCharacterName (name : String)
  | missing (what : String)
  | unterminatedName (closing : String)
  | openGroup
  | sameLookBehind
  | invalidReference (group : Nat)
  | unterminatedSet
  | badRange (first last : String)
  | repeatBounds
  | nothingToRepeat
  | multipleRepeat
  | unexpectedEnd
  | badGroupName (name : String)
  | unknownGroupName (name : String)
  | badGroupNumber
  | redefinition (name : String) (group previous : Nat)
  | unknownExtension (text : String)
  | unterminatedComment
  | unterminatedSubpattern
  | unbalanced
  | tooManyBranches
  | lateGlobalFlags
  | localeFlag
  | incompatibleFlags
  | unknownFlag
  | globalFlagOn
  | globalFlagOff
  | typeFlagOff
  | flagOnAndOff
  | behindWidth
  | templateRepeat (operator : String)
deriving DecidableEq, Inhabited

def Flaw.message : Flaw → String
  | escapeAtEnd => "bad escape (end of pattern)"
  | badEscape t => "bad escape " ++ t
  | incompleteEscape t => "incomplete escape " ++ t
  | octalRange t => "octal escape value " ++ t ++ " outside of range 0-0o377"
  | unknownCharacterName n => "undefined character name " ++ Text.literal n
  | missing w => "missing " ++ w
  | unterminatedName c => "missing " ++ c ++ ", unterminated name"
  | openGroup => "cannot refer to an open group"
  | sameLookBehind => "cannot refer to group defined in the same lookbehind subpattern"
  | invalidReference g => "invalid group reference " ++ toString g
  | unterminatedSet => "unterminated character set"
  | badRange a b => "bad character range " ++ a ++ "-" ++ b
  | repeatBounds => "min repeat greater than max repeat"
  | nothingToRepeat => "nothing to repeat"
  | multipleRepeat => "multiple repeat"
  | unexpectedEnd => "unexpected end of pattern"
  | badGroupName n => "bad character in group name " ++ Text.literal n
  | unknownGroupName n => "unknown group name " ++ Text.literal n
  | badGroupNumber => "bad group number"
  | redefinition n g p =>
    "redefinition of group name " ++ Text.literal n ++ " as group " ++ toString g ++
      "; was group " ++ toString p
  | unknownExtension t => "unknown extension ?" ++ t
  | unterminatedComment => "missing ), unterminated comment"
  | unterminatedSubpattern => "missing ), unterminated subpattern"
  | unbalanced => "unbalanced parenthesis"
  | tooManyBranches => "conditional backref with more than two branches"
  | lateGlobalFlags => "global flags not at the start of the expression"
  | localeFlag => "bad inline flags: cannot use 'L' flag with a str pattern"
  | incompatibleFlags => "bad inline flags: flags 'a', 'u' and 'L' are incompatible"
  | unknownFlag => "unknown flag"
  | globalFlagOn => "bad inline flags: cannot turn on global flag"
  | globalFlagOff => "bad inline flags: cannot turn off global flag"
  | typeFlagOff => "bad inline flags: cannot turn off flags 'a', 'u' and 'L'"
  | flagOnAndOff => "bad inline flags: flag turned on and off"
  | behindWidth => "look-behind requires fixed-width pattern"
  | templateRepeat o => "internal: unsupported template operator " ++ o

/-- A count that is too large or has too many digits, flags that exclude each other, a program that
is found broken, or groups that are nested too deeply. How deeply they can be nested depends on the
room that is left where the pattern is read, so the standard reader sets no bound, and it is for a
reader in a narrower place to give the last of these. -/
inductive Fault where
  | repetition
  | digits (count : Nat)
  | flags
  | program
  | nesting
deriving DecidableEq, Inhabited

inductive Failure where
  | flaw (flaw : Flaw) (position : Option Nat)
  | fault (fault : Fault)
deriving DecidableEq, Inhabited

/-- Line and column of a place in a text, counted from one. -/
def lineColumn (before : List Char) : Nat × Nat :=
  (before.count '\n' + 1, (before.reverse.takeWhile (· != '\n')).length + 1)

/-- The report on a flaw: with its place if it has one, and with line and column if the pattern
runs over several lines. -/
def describeFlaw (source : List Char) (flaw : Flaw) : Option Nat → String
  | none => flaw.message
  | some p =>
    let place := flaw.message ++ " at position " ++ toString p
    if source.contains '\n' then
      let (line, column) := lineColumn (source.take p)
      place ++ " (line " ++ toString line ++ ", column " ++ toString column ++ ")"
    else place

end Pattern

end JogShuttle
