import ShaderBuild.Deed

/-!
The text of GL and EGL traces, one line for a call. Calls that a trace leaves out have no line.
-/

set_option autoImplicit false
set_option relaxedAutoImplicit false

namespace ShaderBuild

/-- The words of a line with single blanks between them. -/
def traceLine (words : List String) : String := String.intercalate " " words

namespace Gl

/-- The name of a program parameter, `?` for one that has none. -/
def parameterName (parameter : Code) : String :=
  (Code.programParameters.lookup parameter).getD "?"

def shaderParameterName (parameter : Code) : String :=
  if parameter = Code.compileStatus then "COMPILE_STATUS" else parameterName parameter

def activeFunctionName : Interface → String
  | .attributes => "glGetActiveAttrib"
  | .uniforms => "glGetActiveUniform"

/-- The line of a call and its answer. Answers show only where an object or an error comes back. -/
def Call.line? : (call : Call) → call.Answer → Option String
  | .findFunction _, _ => none
  | .getError, code => some (traceLine ["glGetError", "->", Text.hexCode code])
  | .getString _, _ => none
  | .getExtensions, _ => none
  | .getInteger parameter, _ =>
    if parameter = Code.programBinaryFormatCount then
      some "glGetIntegerv NUM_PROGRAM_BINARY_FORMATS"
    else none
  | .createShader kind, (shader : UInt32) =>
    some (traceLine ["glCreateShader", Text.hexCode kind, "->", toString shader])
  | .shaderSource shader source, _ =>
    some (traceLine ["glShaderSource", toString shader, "1", source])
  | .compileShader shader, _ => some (traceLine ["glCompileShader", toString shader])
  | .getShader shader parameter, _ =>
    some (traceLine ["glGetShaderiv", toString shader, shaderParameterName parameter])
  | .getShaderInfoLog shader size, _ =>
    some (traceLine ["glGetShaderInfoLog", toString shader, toString size])
  | .createProgram, (program : UInt32) =>
    some (traceLine ["glCreateProgram", "->", toString program])
  | .attachShader program shader, _ =>
    some (traceLine ["glAttachShader", toString program, toString shader])
  | .linkProgram program, _ => some (traceLine ["glLinkProgram", toString program])
  | .getProgram program parameter, _ =>
    some (traceLine ["glGetProgramiv", toString program, parameterName parameter])
  | .getProgramInfoLog program size, _ =>
    some (traceLine ["glGetProgramInfoLog", toString program, toString size])
  | .getActiveVariable interface program index size, _ =>
    some (traceLine
      [activeFunctionName interface, toString program, toString index, toString size])
  | .getProgramBinary function program size, _ =>
    some (traceLine [function.name, toString program, toString size])

end Gl

namespace Egl

def Surface.name : Surface → String
  | .any => "any"
  | .pbuffer => "pbuffer"

/-- The line of a request. -/
def Request.line? : Request → Option String
  | .queryDevices => none
  | .openDisplay (.device index) => some (traceLine ["egl open_display device", toString index])
  | .openDisplay .fallback => some "egl open_display default"
  | .findConfigs major surface =>
    some ("egl choose_config es" ++ toString major ++ ":" ++ surface.name ++ " rgb888")
  | .createContext _ major => some ("egl create_context " ++ toString major ++ ".0")
  | .makeCurrent _ => some "egl make_current"
  | .releaseCurrent _ => some "egl release_current"

end Egl

def Deed.line? : Deed → Option String
  | .gl call answer => call.line? answer
  | .egl request _ => request.line?
  | .logged _ => none

end ShaderBuild
