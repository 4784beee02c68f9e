import ShaderBuild.Pattern.Term

/-!
The flags that hold at a place of a pattern, and what the signs that hang on them stand for.
-/

set_option autoImplicit false
set_option relaxedAutoImplicit false

namespace ShaderBuild.Pattern

structure Flags where
  anyCase : Bool := false
  byLine : Bool := false
  dotAll : Bool := false
  anyLineEnd : Bool := false
  anyScript : Bool := true
  deriving DecidableEq, Repr

namespace Flags

/-- Switches one flag. Those that say how a text is read, or in which order, say nothing here. -/
def switch (flags : Flags) : Flag × Bool → Flags
  | (.anyCase, value) => { flags with anyCase := value }
  | (.byLine, value) => { flags with byLine := value }
  | (.dotAll, value) => { flags with dotAll := value }
  | (.anyLineEnd, value) => { flags with anyLineEnd := value }
  | (.anyScript, value) => { flags with anyScript := value }
  | (.short, _) | (.spaced, _) => flags

def switchAll (flags : Flags) (switches : Switches) : Flags := switches.foldl switch flags

def dot (flags : Flags) : CharSet :=
  if flags.dotAll then .all
  else if flags.anyLineEnd then ((CharSet.single '\n').union (.single '\r')).compl
  else (CharSet.single '\n').compl

def place (flags : Flags) : Anchor → Place
  | .textStart => .textStart
  | .textEnd => .textEnd
  | .start =>
    if !flags.byLine then .textStart else if flags.anyLineEnd then .lineStartAny else .lineStart
  | .stop =>
    if !flags.byLine then .textEnd else if flags.anyLineEnd then .lineEndAny else .lineEnd
  | .word edge => if flags.anyScript then .scriptWord edge else .word edge

end Flags

end ShaderBuild.Pattern
