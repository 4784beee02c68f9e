import ShaderBuild.Pattern.Span

/-!
What can be wrong with the text of a pattern.
-/

set_option autoImplicit false
set_option relaxedAutoImplicit false

namespace ShaderBuild.Pattern

/-- How many parts of a pattern can stand within one another. -/
def maxDepth : Nat := 250

inductive Mistake where
  | setUnclosed
  | setEscape
  | setRangeReversed
  | setRangeEnd
  | countMissing
  | countTooLarge
  | countUnclosed
  | countsReversed
  | escapeUnfinished
  | escapeUnknown
  | backreference
  | codeEmpty
  | codeDigit
  | codeNoCharacter
  | edgeUnclosed
  | edgeUnknown
  | edgeUnfinished
  | propertyInvalid
  | propertyUnknown
  | propertyValueUnknown
  | groupUnclosed
  | groupUnopened
  | nameEmpty
  | nameCharacter
  | nameUnfinished
  | nameRepeated
  | lookAround
  | flagUnknown
  | flagRepeated
  | flagNegationRepeated
  | flagNegationLast
  | flagsUnfinished
  | nothingToRepeat
  | tooDeep
  | beyondAscii
  | noCharacters
  | noScriptSets
  | noScriptCase
  deriving DecidableEq, Repr

def Mistake.message : Mistake → String
  | .setUnclosed => "unclosed character class"
  | .setEscape => "invalid escape sequence found in character class"
  | .setRangeReversed => "invalid character class range, the start must be <= the end"
  | .setRangeEnd => "invalid range boundary, must be a literal"
  | .countMissing => "repetition quantifier expects a valid decimal"
  | .countTooLarge => "decimal literal invalid"
  | .countUnclosed => "unclosed counted repetition"
  | .countsReversed => "invalid repetition count range, the start must be <= the end"
  | .escapeUnfinished => "incomplete escape sequence, reached end of pattern prematurely"
  | .escapeUnknown => "unrecognized escape sequence"
  | .backreference => "backreferences are not supported"
  | .codeEmpty => "hexadecimal literal empty"
  | .codeDigit => "invalid hexadecimal digit"
  | .codeNoCharacter => "hexadecimal literal is not a Unicode scalar value"
  | .edgeUnclosed =>
    "special word boundary assertion is either unclosed or contains an invalid character"
  | .edgeUnknown =>
    "unrecognized special word boundary assertion, valid choices are: start, end, start-half " ++
      "or end-half"
  | .edgeUnfinished =>
    "found either the beginning of a special word boundary or a bounded repetition on a \\b " ++
      "with an opening brace, but no closing brace"
  | .propertyInvalid => "invalid Unicode character class"
  | .propertyUnknown => "Unicode property not found"
  | .propertyValueUnknown => "Unicode property value not found"
  | .groupUnclosed => "unclosed group"
  | .groupUnopened => "unopened group"
  | .nameEmpty => "empty capture group name"
  | .nameCharacter => "invalid capture group character"
  | .nameUnfinished => "unclosed capture group name"
  | .nameRepeated => "duplicate capture group name"
  | .lookAround => "look-around, including look-ahead and look-behind, is not supported"
  | .flagUnknown => "unrecognized flag"
  | .flagRepeated => "duplicate flag"
  | .flagNegationRepeated => "flag negation operator repeated"
  | .flagNegationLast => "dangling flag negation operator"
  | .flagsUnfinished => "expected flag but got end of regex"
  | .nothingToRepeat => "repetition operator missing expression"
  | .tooDeep =>
    "exceed the maximum number of nested parentheses/brackets (" ++ toString maxDepth ++ ")"
  | .beyondAscii => "Unicode not allowed here"
  | .noCharacters => "pattern can match invalid UTF-8"
  | .noScriptSets =>
    "Unicode-aware Perl class not found (make sure the unicode-perl feature is enabled)"
  | .noScriptCase =>
    "Unicode-aware case insensitivity matching is not available (make sure the unicode-case " ++
      "feature is enabled)"

/-- A mistake and the parts of the text that it is about, from the left. -/
structure Fault where
  mistake : Mistake
  spans : List Span
  deriving DecidableEq, Repr

/-- A mistake in one part of a text, and so no result. -/
def refuse {α : Type} (mistake : Mistake) (span : Span) : Except Fault α :=
  .error ⟨mistake, [span]⟩

end ShaderBuild.Pattern
