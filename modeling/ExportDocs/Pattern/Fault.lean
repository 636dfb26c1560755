/-
# ExportDocs.Pattern.Fault -- what can be wrong with a pattern
-/
import ExportDocs.Text.Quoted

namespace ExportDocs

set_option autoImplicit false

/-- A problem with a pattern. -/
inductive PatternProblem where
  | unterminatedGroup
  | unterminatedSet
  | unterminatedComment
  | unexpectedEnd
  | unbalanced
  | nothingToRepeat
  | multipleRepeat
  | repeatBounds
  | escapeAtEnd
  | badEscape (escape : Text)
  | incompleteEscape (escape : Text)
  | octalTooLarge (escape : Text)
  | badRange (low high : Text)
  | unknownExtension (extension : Text)
  | missingName
  | unterminatedName (closer : Char)
  | badName (name : Text)
  | unknownName (name : Text)
  | repeatedName (name : Text) (number earlier : Nat)
  | openReference
  | missingReference (number : Nat)
  | misplacedFlags
  | unknownFlag
  | unfinishedFlags
  | missingFlag
  | missingColon
  | byteFlag
  | clashingFlags
  | flagsTwice
  | typeFlagsOff
  /-- A look back over texts of several lengths. -/
  | variableWidth
  deriving DecidableEq, Repr, Inhabited

/-- The words for a problem. -/
def PatternProblem.message : PatternProblem → Text
  | .unterminatedGroup => "missing ), unterminated subpattern".toList
  | .unterminatedSet => "unterminated character set".toList
  | .unterminatedComment => "missing ), unterminated comment".toList
  | .unexpectedEnd => "unexpected end of pattern".toList
  | .unbalanced => "unbalanced parenthesis".toList
  | .nothingToRepeat => "nothing to repeat".toList
  | .multipleRepeat => "multiple repeat".toList
  | .repeatBounds => "min repeat greater than max repeat".toList
  | .escapeAtEnd => "bad escape (end of pattern)".toList
  | .badEscape escape => "bad escape ".toList ++ escape
  | .incompleteEscape escape => "incomplete escape ".toList ++ escape
  | .octalTooLarge escape =>
    "octal escape value ".toList ++ escape ++ " outside of range 0-0o377".toList
  | .badRange low high => "bad character range ".toList ++ low ++ '-' :: high
  | .unknownExtension extension => "unknown extension ".toList ++ extension
  | .missingName => "missing group name".toList
  | .unterminatedName closer => "missing ".toList ++ closer :: ", unterminated name".toList
  | .badName name => "bad character in group name ".toList ++ Text.quoted name
  | .unknownName name => "unknown group name ".toList ++ Text.quoted name
  | .repeatedName name number earlier =>
    "redefinition of group name ".toList ++ Text.quoted name ++ " as group ".toList ++
      Text.ofNat number ++ "; was group ".toList ++ Text.ofNat earlier
  | .openReference => "cannot refer to an open group".toList
  | .missingReference number => "invalid group reference ".toList ++ Text.ofNat number
  | .misplacedFlags => "global flags not at the start of the expression".toList
  | .unknownFlag => "unknown flag".toList
  | .unfinishedFlags => "missing -, : or )".toList
  | .missingFlag => "missing flag".toList
  | .missingColon => "missing :".toList
  | .byteFlag => "bad inline flags: cannot use 'L' flag with a str pattern".toList
  | .clashingFlags => "bad inline flags: flags 'a', 'u' and 'L' are incompatible".toList
  | .flagsTwice => "bad inline flags: flag turned on and off".toList
  | .typeFlagsOff => "bad inline flags: cannot turn off flags 'a', 'u' and 'L'".toList
  | .variableWidth => "look-behind requires fixed-width pattern".toList

/-- A problem and where it lies, if it lies at one place. -/
structure PatternFault where
  problem : PatternProblem
  position : Option Nat
  deriving DecidableEq, Repr, Inhabited

/-- The message of a fault in a pattern.  Line and column are given for a pattern of several
lines. -/
def PatternFault.message (pattern : Text) (fault : PatternFault) : Text :=
  match fault.position with
  | none => fault.problem.message
  | some position =>
    let before := pattern.take position
    let line := before.count '\n' + 1
    let column := (before.reverse.takeWhile (· != '\n')).length + 1
    fault.problem.message ++ " at position ".toList ++ Text.ofNat position ++
      if pattern.contains '\n' then
        " (line ".toList ++ Text.ofNat line ++ ", column ".toList ++ Text.ofNat column ++ [')']
      else []

end ExportDocs
