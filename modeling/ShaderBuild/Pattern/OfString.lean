import ShaderBuild.Pattern.Depth
import ShaderBuild.Pattern.Machine
import ShaderBuild.Pattern.Meaning
import ShaderBuild.Pattern.Reader
import ShaderBuild.Pattern.Refusal

/-!
The pattern that a text stands for. A text is refused for what is wrong in it first, then for how
deep its parts stand within one another, then for what they mean, and last for the machines of the
pattern.
-/

set_option autoImplicit false
set_option relaxedAutoImplicit false

namespace ShaderBuild.Pattern

/-- Whether a pattern asks for the edges of words in any script. -/
def asksScript : Pattern → Bool
  | .anchor (.scriptWord _) => true
  | .empty | .text _ | .one _ | .anchor _ => false
  | .seq first second => first.asksScript || second.asksScript
  | .either left right => left.asksScript || right.asksScript
  | .times pattern _ _ | .group pattern => pattern.asksScript

/-- Why the machines of a pattern cannot be made, if they cannot. -/
def refusal? (pattern : Pattern) : Option Refusal :=
  if maxSize < pattern.machineSize .forward then some .tooLarge
  else if pattern.asksScript then some .wordEdge
  else if maxSize < pattern.machineSize .backward then some .tooLarge
  else none

/-- What a text stands for, whatever the machines. -/
def meaningOf (text : String) : Except Fault Pattern := do
  let term ← Term.ofString text
  term.checkDepth
  let (pattern, _) ← term.meaning {}
  return pattern

/-- The pattern that a text stands for. -/
def ofString (text : String) : Except Refusal Pattern :=
  match meaningOf text with
  | .error fault => .error (.fault fault)
  | .ok pattern =>
    match pattern.refusal? with
    | some refusal => .error refusal
    | none => .ok pattern

end ShaderBuild.Pattern
