import EnvAudit.Text.Digit
import EnvAudit.Text.Quoted

/-! Why a pattern is refused, with the text of every reason. Most faults belong to one place of the pattern. -/
namespace EnvAudit.Pattern

inductive Flaw
  | escapeAtEnd
  | incompleteEscape (escape : List Char)
  | badEscape (escape : List Char)
  | octalTooLarge (escape : List Char)
  | missing (what : String)
  | openName (closing : Char)
  | unknownCharacterName (name : List Char)
  | openGroupReference
  | lookBehindReference
  | noSuchGroup (group : Nat)
  | unknownGroupName (name : List Char)
  | badGroupName (name : List Char)
  | groupZero
  | repeatedGroupName (name : List Char) (group earlier : Nat)
  | openSet
  | badRange (first last : List Char)
  | repetitionOrder
  | nothingToRepeat
  | repeatedRepetition
  | patternEnd
  | unknownExtension (extension : List Char)
  | openComment
  | openGroup
  | unbalanced
  | lateOptions
  | manyBranches
  | localeOption
  | clashingOptions
  | unknownOption
  | globalOptionOn
  | globalOptionOff
  | modeOptionOff
  | optionOnAndOff
  | lookBehindWidth
  | lookBehindTooFar
deriving Repr, DecidableEq

private def spelled (text : List Char) : String := String.ofList text

private def quotedName (name : List Char) : String := String.ofList (Text.quoted name)

def Flaw.reason : Flaw → String
  | .escapeAtEnd => "bad escape (end of pattern)"
  | .incompleteEscape escape => "incomplete escape " ++ spelled escape
  | .badEscape escape => "bad escape " ++ spelled escape
  | .octalTooLarge escape => "octal escape value " ++ spelled escape ++ " outside of range 0-0o377"
  | .missing what => "missing " ++ what
  | .openName closing => "missing " ++ spelled [closing] ++ ", unterminated name"
  | .unknownCharacterName name => "undefined character name " ++ quotedName name
  | .openGroupReference => "cannot refer to an open group"
  | .lookBehindReference => "cannot refer to group defined in the same lookbehind subpattern"
  | .noSuchGroup group => "invalid group reference " ++ toString group
  | .unknownGroupName name => "unknown group name " ++ quotedName name
  | .badGroupName name => "bad character in group name " ++ quotedName name
  | .groupZero => "bad group number"
  | .repeatedGroupName name group earlier =>
    "redefinition of group name " ++ quotedName name ++ " as group " ++ toString group ++ "; was group " ++ toString earlier
  | .openSet => "unterminated character set"
  | .badRange first last => "bad character range " ++ spelled first ++ "-" ++ spelled last
  | .repetitionOrder => "min repeat greater than max repeat"
  | .nothingToRepeat => "nothing to repeat"
  | .repeatedRepetition => "multiple repeat"
  | .patternEnd => "unexpected end of pattern"
  | .unknownExtension extension => "unknown extension ?" ++ spelled extension
  | .openComment => "missing ), unterminated comment"
  | .openGroup => "missing ), unterminated subpattern"
  | .unbalanced => "unbalanced parenthesis"
  | .lateOptions => "global flags not at the start of the expression"
  | .manyBranches => "conditional backref with more than two branches"
  | .localeOption => "bad inline flags: cannot use 'L' flag with a str pattern"
  | .clashingOptions => "bad inline flags: flags 'a', 'u' and 'L' are incompatible"
  | .unknownOption => "unknown flag"
  | .globalOptionOn => "bad inline flags: cannot turn on global flag"
  | .globalOptionOff => "bad inline flags: cannot turn off global flag"
  | .modeOptionOff => "bad inline flags: cannot turn off flags 'a', 'u' and 'L'"
  | .optionOnAndOff => "bad inline flags: flag turned on and off"
  | .lookBehindWidth => "look-behind requires fixed-width pattern"
  | .lookBehindTooFar => "looks too much behind"

/-- Why a pattern is refused: a flaw, at a place when it belongs to one, a repetition beyond the greatest count or
with too many digits, groups that nest too deeply, or options for the whole pattern that exclude each other. -/
inductive Fault
  | flawed (flaw : Flaw) (position : Option Nat)
  | repetitionTooLarge
  | longNumber (digits : Nat)
  | nestingTooDeep
  | clashingModes
deriving Repr, DecidableEq

def lineNote (pattern : List Char) (position : Nat) : String :=
  if pattern.contains '\n' then
    let before := pattern.take position
    " (line " ++ toString ((before.filter (· == '\n')).length + 1) ++ ", column "
      ++ toString ((before.reverse.takeWhile (· != '\n')).length + 1) ++ ")"
  else ""

def Fault.message (pattern : List Char) : Fault → String
  | .flawed flaw none => flaw.reason
  | .flawed flaw (some position) =>
    flaw.reason ++ " at position " ++ toString position ++ lineNote pattern position
  | .repetitionTooLarge => "the repetition number is too large"
  | .longNumber digits => Text.longNumberMessage digits
  | .nestingTooDeep => "maximum recursion depth exceeded"
  | .clashingModes => "ASCII and UNICODE flags are incompatible"

end EnvAudit.Pattern
