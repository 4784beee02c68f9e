import ShaderBuild.Event
import ShaderBuild.Text.Blank

/-!
Compiling one stage. What the driver says about the source is kept with it; that it does not
compile is no error.
-/

set_option autoImplicit false
set_option relaxedAutoImplicit false

namespace ShaderBuild

/-- A shader object after its one compilation. -/
structure CompiledShader where
  stage : Stage
  source : String
  status : Bool
  infoLog : String
  id : ShaderId
  deriving DecidableEq, Repr

variable {σ : Type}

/-- Submits a source. Only the refusal of a shader object is an error. -/
def compile (driver : Driver σ) (stage : Stage) (source : String) :
    Attempt Event σ CompiledShader := do
  if Text.isBlank source then
    ExceptT.lift (Event.log (.emptySource stage))
  let id ← ExceptT.mk (driver.ask (.createShader stage))
  driver.ask (.compileShader id source)
  let status ← driver.ask (.compileStatus id)
  let infoLog ← driver.ask (.shaderLog id)
  ExceptT.lift (Event.log (.compiled stage status infoLog.utf8ByteSize))
  return { stage, source, status, infoLog, id }

end ShaderBuild
