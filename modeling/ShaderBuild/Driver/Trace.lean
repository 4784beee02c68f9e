import ShaderBuild.Driver.Basic
import ShaderBuild.Gl.Trace

/-!
The text of driver calls in traces, one line for a call. A full line shows every argument. A short
line leaves out the program and shows a source by its size, a parameter by its name.
-/

set_option autoImplicit false
set_option relaxedAutoImplicit false

namespace ShaderBuild

/-- The name of the call, as both kinds of line begin with it. -/
def Call.name : Call → String
  | .createShader _ => "create_shader"
  | .compileShader _ _ => "compile_shader"
  | .compileStatus _ => "shader_compile_status"
  | .shaderLog _ => "shader_info_log"
  | .createProgram => "create_program"
  | .attachShader _ _ => "attach_shader"
  | .linkProgram _ => "link_program"
  | .linkStatus _ => "program_link_status"
  | .parameter _ _ => "program_parameter"
  | .programLog _ => "program_info_log"
  | .activeVariable interface _ _ _ => "active_" ++ interface.memberName
  | .binary _ _ => "program_binary"

def Call.fullArguments : Call → List String
  | .createShader stage => [stage.title]
  | .compileShader shader source => [toString shader.number, source]
  | .compileStatus shader => [toString shader.number]
  | .shaderLog shader => [toString shader.number]
  | .createProgram => []
  | .attachShader program shader => [toString program.number, toString shader.number]
  | .linkProgram program => [toString program.number]
  | .linkStatus program => [toString program.number]
  | .parameter program code => [toString program.number, Text.hexCode code]
  | .programLog program => [toString program.number]
  | .activeVariable _ program index maxLength =>
    [toString program.number, toString index, toString maxLength]
  | .binary program length => [toString program.number, toString length]

def Call.shortArguments : Call → List String
  | .createShader stage => [stage.title]
  | .compileShader shader source => [toString shader.number, toString source.utf8ByteSize]
  | .compileStatus shader => [toString shader.number]
  | .shaderLog shader => [toString shader.number]
  | .createProgram => []
  | .attachShader _ shader => [toString shader.number]
  | .linkProgram _ => []
  | .linkStatus _ => []
  | .parameter _ code => [if code = Gl.Code.linkStatus then "?" else Gl.parameterName code]
  | .programLog _ => []
  | .activeVariable _ _ index _ => [toString index]
  | .binary _ length => [toString length]

def Call.fullLine (call : Call) : String := traceLine (call.name :: call.fullArguments)

def Call.shortLine (call : Call) : String := traceLine (call.name :: call.shortArguments)

end ShaderBuild
