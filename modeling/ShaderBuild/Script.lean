import ShaderBuild.Deed
import ShaderBuild.Egl.Script
import ShaderBuild.Gl.Script

/-!
A machine whose GL and EGL both follow a script. Its devices are not described.
-/

set_option autoImplicit false
set_option relaxedAutoImplicit false

namespace ShaderBuild

structure Script where
  egl : Egl.Script := {}
  gl : Gl.Script := {}
  deriving DecidableEq, Repr

namespace Script

def machine : Machine Script where
  gl.answer call script :=
    let (answer, gl) := script.gl.answer call
    (answer, { script with gl })
  egl.answer request script := (script.egl.answer request, script)
  egl.describe? _ _ := none

end Script

end ShaderBuild
