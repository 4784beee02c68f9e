/-!
Places and parts of a text, told by lines and columns.
-/

set_option autoImplicit false
set_option relaxedAutoImplicit false

namespace ShaderBuild.Pattern

/-- A place in a text in front of a character. Lines and columns are counted from one. -/
structure Position where
  line : Nat := 1
  column : Nat := 1
  deriving DecidableEq, Repr

/-- The place behind a character. -/
def Position.after (position : Position) (c : Char) : Position :=
  if c = '\n' then ⟨position.line + 1, 1⟩ else ⟨position.line, position.column + 1⟩

/-- A part of a text, from one place up to another. -/
structure Span where
  start : Position
  stop : Position
  deriving DecidableEq, Repr

namespace Span

/-- The part with nothing in it. -/
def nothing (position : Position) : Span := ⟨position, position⟩

/-- The part that is one character. -/
def char (position : Position) (c : Char) : Span := ⟨position, position.after c⟩

def isOneLine (span : Span) : Bool := span.start.line == span.stop.line

/-- The number of marks that show a part of one line. An empty part has one, for its place. -/
def width (span : Span) : Nat := max 1 (span.stop.column - span.start.column)

end Span

end ShaderBuild.Pattern
