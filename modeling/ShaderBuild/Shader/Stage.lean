import ShaderBuild.Gl.Code

/-!
The two stages of a shader pair.
-/

set_option autoImplicit false
set_option relaxedAutoImplicit false

namespace ShaderBuild

inductive Stage where
  | vertex
  | fragment
  deriving DecidableEq, Repr

namespace Stage

def name : Stage → String
  | .vertex => "vertex"
  | .fragment => "fragment"

/-- The name with a capital, as call traces show it. -/
def title : Stage → String
  | .vertex => "Vertex"
  | .fragment => "Fragment"

def code : Stage → Gl.Code
  | .vertex => .vertexShader
  | .fragment => .fragmentShader

end Stage

end ShaderBuild
