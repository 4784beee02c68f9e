/-!
The codes of GL ES that this library names.
-/

set_option autoImplicit false
set_option relaxedAutoImplicit false

namespace ShaderBuild.Gl

/-- A code as GL passes it. -/
abbrev Code := UInt32

namespace Code

def noError : Code := 0
def invalidValue : Code := 0x0501

def fragmentShader : Code := 0x8B30
def vertexShader : Code := 0x8B31

def compileStatus : Code := 0x8B81
def linkStatus : Code := 0x8B82
def infoLogLength : Code := 0x8B84
def activeUniforms : Code := 0x8B86
def activeUniformMaxLength : Code := 0x8B87
def activeAttributes : Code := 0x8B89
def activeAttributeMaxLength : Code := 0x8B8A
def programBinaryLength : Code := 0x8741
def programBinaryFormatCount : Code := 0x87FE

/-- The program parameters that have a name in traces, with that name. -/
def programParameters : List (Code × String) :=
  [(linkStatus, "LINK_STATUS"), (infoLogLength, "INFO_LOG_LENGTH"),
    (activeAttributes, "ACTIVE_ATTRIBUTES"),
    (activeAttributeMaxLength, "ACTIVE_ATTRIBUTE_MAX_LENGTH"),
    (activeUniforms, "ACTIVE_UNIFORMS"), (activeUniformMaxLength, "ACTIVE_UNIFORM_MAX_LENGTH"),
    (programBinaryLength, "PROGRAM_BINARY_LENGTH")]

end Code

end ShaderBuild.Gl
