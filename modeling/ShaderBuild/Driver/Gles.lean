import ShaderBuild.Context.Basic
import ShaderBuild.Driver.Basic
import ShaderBuild.Text.Terminator

/-!
The driver behind a GL ES context. Objects, sources and statuses go through the plain GL functions;
active variables and program binaries go through the functions that the context found.
-/

set_option autoImplicit false
set_option relaxedAutoImplicit false

namespace ShaderBuild.Gles

variable {γ : Type}

/-- A new shader object. -/
def createShader (gl : Gl.Implementation γ) (stage : Stage) :
    Activity Deed γ (Except Error ShaderId) := do
  let shader ← gl.ask (.createShader stage.code)
  if shader = 0 then
    return .error (.refused (stage.name ++ " shader object: Unable to create Shader object"))
  else
    return .ok ⟨shader.toNat⟩

/-- A new program object. -/
def createProgram (gl : Gl.Implementation γ) : Activity Deed γ (Except Error ProgramId) := do
  let program ← gl.ask .createProgram
  if program = 0 then
    return .error (.refused "program object: Unable to create Program object")
  else
    return .ok ⟨program.toNat⟩

/-- The log of a shader without terminators. It is read only if it has a length. -/
def shaderLog (gl : Gl.Implementation γ) (shader : UInt32) : Activity Deed γ String := do
  let length ← gl.ask (.getShader shader .infoLogLength)
  if length > 0 then
    return Text.dropTerminators (← gl.ask (.getShaderInfoLog shader length))
  else
    return ""

/-- The log of a program without terminators. It is read only if it has a length. -/
def programLog (gl : Gl.Implementation γ) (program : UInt32) : Activity Deed γ String := do
  let length ← gl.ask (.getProgram program .infoLogLength)
  if length > 0 then
    return Text.dropTerminators (← gl.ask (.getProgramInfoLog program length))
  else
    return ""

def shaderName (shader : ShaderId) : UInt32 := UInt32.ofNat shader.number

def programName (program : ProgramId) : UInt32 := UInt32.ofNat program.number

def answer (gl : Gl.Implementation γ) (context : Context) :
    (call : Call) → Activity Deed γ call.Answer
  | .createShader stage => createShader gl stage
  | .compileShader shader source => do
    gl.ask (.shaderSource (shaderName shader) source)
    gl.ask (.compileShader (shaderName shader))
  | .compileStatus shader => do
    return (← gl.ask (.getShader (shaderName shader) .compileStatus)) == (1 : Int32)
  | .shaderLog shader => shaderLog gl (shaderName shader)
  | .createProgram => createProgram gl
  | .attachShader program shader =>
    gl.ask (.attachShader (programName program) (shaderName shader))
  | .linkProgram program => gl.ask (.linkProgram (programName program))
  | .linkStatus program => do
    return (← gl.ask (.getProgram (programName program) .linkStatus)) == (1 : Int32)
  | .parameter program code => gl.ask (.getProgram (programName program) code)
  | .programLog program => programLog gl (programName program)
  | .activeVariable interface program index maxLength =>
    Gl.describeVariable gl interface (programName program) index maxLength
  | .binary program length => do
    let (format, payload) ← Gl.fetchBinary gl context.functions (programName program) length
    return { format, payload }

/-- The driver of a context. -/
def driver (gl : Gl.Implementation γ) (context : Context) : Driver γ where
  answer := answer gl context

end ShaderBuild.Gles
