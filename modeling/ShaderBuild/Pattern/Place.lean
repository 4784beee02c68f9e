import ShaderBuild.Pattern.CharSet

/-!
Places between two characters, either of which may be missing at an end of a text.
-/

set_option autoImplicit false
set_option relaxedAutoImplicit false

namespace ShaderBuild

/-- A place at a word. The halves ask for one side of it alone. -/
inductive WordEdge where
  | boundary
  | noBoundary
  | start
  | stop
  | startHalf
  | stopHalf
  deriving DecidableEq, Repr

/-- Whether an edge is between two characters, by whether each is one of a word. -/
def WordEdge.holds (before following : Bool) : WordEdge → Bool
  | .boundary => before != following
  | .noBoundary => before == following
  | .start => !before && following
  | .stop => before && !following
  | .startHalf => !before
  | .stopHalf => !following

inductive Place where
  | textStart
  | textEnd
  | lineStart
  | lineEnd
  /-- As `lineStart`, where a carriage return and a line feed also end a line together. -/
  | lineStartAny
  | lineEndAny
  /-- An edge of a word of letters, digits and low lines. -/
  | word (edge : WordEdge)
  /-- An edge of a word in any script, which is found nowhere. -/
  | scriptWord (edge : WordEdge)
  deriving DecidableEq, Repr

namespace Place

def isWord (c : Option Char) : Bool := c.any CharSet.word.contains

/-- Whether the place is there between two characters. -/
def holds (before following : Option Char) : Place → Bool
  | .textStart => before.isNone
  | .textEnd => following.isNone
  | .lineStart => before.all (· == '\n')
  | .lineEnd => following.all (· == '\n')
  | .lineStartAny => before.all (· == '\n') || (before == some '\r' && following != some '\n')
  | .lineEndAny => following.all (· == '\r') || (following == some '\n' && before != some '\r')
  | .word edge => edge.holds (isWord before) (isWord following)
  | .scriptWord _ => false

end Place

end ShaderBuild
