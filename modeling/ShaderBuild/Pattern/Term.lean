import ShaderBuild.Pattern.Place
import ShaderBuild.Pattern.Span

/-!
Patterns as they are written. A term keeps the part of the text that it was read from, and says
nothing yet of the flags that hold there.
-/

set_option autoImplicit false
set_option relaxedAutoImplicit false

namespace ShaderBuild.Pattern

/-- What can be switched on and off within a pattern. -/
inductive Flag where
  | anyCase
  /-- The two anchors hold at the ends of lines as well. -/
  | byLine
  /-- The dot takes the ends of lines as well. -/
  | dotAll
  /-- Repetitions are short unless asked otherwise, which makes no difference to what matches. -/
  | short
  /-- Patterns are about the characters of all scripts. -/
  | anyScript
  /-- A carriage return ends a line as well. -/
  | anyLineEnd
  /-- Blanks and comments stand for nothing. -/
  | spaced
  deriving DecidableEq, Repr

/-- Flags in the order in which they are switched. -/
abbrev Switches := List (Flag × Bool)

/-- A character, perhaps written as a byte. -/
structure Literal where
  span : Span
  char : Char
  isByte : Bool := false
  deriving DecidableEq, Repr

/-- The sets that are written as one letter behind a backslash. -/
inductive Sign where
  | digit
  | blank
  | word
  deriving DecidableEq, Repr

/-- A place that is asked for. -/
inductive Anchor where
  | textStart
  | textEnd
  /-- The start of the text, or of a line. -/
  | start
  | stop
  | word (edge : WordEdge)
  deriving DecidableEq, Repr

/-- The smallest parts of a pattern. -/
inductive Atom where
  | literal (literal : Literal)
  | dot (span : Span)
  | sign (span : Span) (sign : Sign) (negated : Bool)
  /-- The characters with a property, by its name. -/
  | property (span : Span) (name : String)
  | anchor (span : Span) (anchor : Anchor)
  deriving DecidableEq, Repr

def Atom.span : Atom → Span
  | .literal char => char.span
  | .dot span | .sign span .. | .property span _ | .anchor span _ => span

inductive SetOperator where
  | inter
  | diff
  | symmDiff
  deriving DecidableEq, Repr

/-- What is written between brackets. -/
inductive SetTerm where
  | empty (span : Span)
  | literal (literal : Literal)
  | range (first last : Literal)
  /-- A set that has a name, such as `[:alpha:]`. -/
  | named (span : Span) (set : CharSet) (negated : Bool)
  | sign (span : Span) (sign : Sign) (negated : Bool)
  | property (span : Span) (name : String)
  | brackets (span : Span) (negated : Bool) (body : SetTerm)
  | union (span : Span) (members : List SetTerm)
  | operation (operator : SetOperator) (left right : SetTerm)
  deriving Repr

def SetTerm.span : SetTerm → Span
  | .literal char => char.span
  | .range first last => ⟨first.span.start, last.span.stop⟩
  | .empty span | .named span .. | .sign span .. | .property span _ | .brackets span ..
  | .union span _ => span
  | .operation _ left right => ⟨left.span.start, right.span.stop⟩

inductive Term where
  | empty (span : Span)
  /-- Flags for the rest of the group around. -/
  | setting (span : Span) (switches : Switches)
  | atom (atom : Atom)
  | set (set : SetTerm)
  | times (span : Span) (term : Term) (least : Nat) (most : Option Nat)
  | group (span : Span) (keeps : Bool) (switches : Switches) (term : Term)
  | sequence (span : Span) (terms : List Term)
  | branches (span : Span) (terms : List Term)
  deriving Repr

namespace Term

def span : Term → Span
  | .atom part => part.span
  | .set members => members.span
  | .empty span | .setting span _ | .times span .. | .group span .. | .sequence span _
  | .branches span _ => span

/-- Whether a repetition can take a term. -/
def isRepeatable : Term → Bool
  | .empty _ | .setting .. => false
  | _ => true

end Term

end ShaderBuild.Pattern
