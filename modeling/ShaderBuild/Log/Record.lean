import ShaderBuild.Error
import ShaderBuild.Shader.Stage
import ShaderBuild.Shader.Variable

/-!
What is logged. A record is a fact about a run; its level, its target and its text follow from it.
-/

set_option autoImplicit false
set_option relaxedAutoImplicit false

namespace ShaderBuild

namespace Log

/-- How much a record matters, most first. -/
inductive Level where
  | error
  | warn
  | info
  | debug
  | trace
  deriving DecidableEq, Repr

def Level.name : Level → String
  | .error => "ERROR"
  | .warn => "WARN"
  | .info => "INFO"
  | .debug => "DEBUG"
  | .trace => "TRACE"

def Level.rank : Level → Nat
  | .error => 1
  | .warn => 2
  | .info => 3
  | .debug => 4
  | .trace => 5

/-- The strings by which a GL implementation introduces itself. -/
inductive GlString where
  | vendor
  | renderer
  | version
  deriving DecidableEq, Repr

def GlString.name : GlString → String
  | .vendor => "GL_VENDOR"
  | .renderer => "GL_RENDERER"
  | .version => "GL_VERSION"

inductive Record where
  | sourceLoaded (path : String) (size : Nat)
  | emptySource (stage : Stage)
  | compiled (stage : Stage) (status : Bool) (logSize : Nat)
  | linkedUncompiled (status : Bool)
  | rejectedVariable (interface : Interface) (index : UInt32)
  | unlinkedBinary
  | binaryFetched (length : Nat) (format : Gl.Code)
  | binaryWritten (size : Nat) (format : Gl.Code) (path : String)
  | noEnumeration (fault : EglFault)
  | usingDevice (index : Nat) (description : Option String)
  | usingDefaultDisplay
  | contextUnavailable (major : Nat) (error : Error)
  | introduced (string : GlString) (value : String)
  | noBinaryFormats
  | binariesThrough (function : String)
  | noBinaryFunction
  | errorDiscarded (code : Gl.Code)
  | variableFailed (index : UInt32) (code : Gl.Code)
  | binaryFailed (code : Gl.Code)
  | emptyPayload
  | finished (vertex fragment link : Bool) (binarySize : Nat)
  | teardownFailed (error : Error)
  deriving DecidableEq, Repr

namespace Record

def level : Record → Level
  | .emptySource _ | .rejectedVariable _ _ | .unlinkedBinary | .noEnumeration _
  | .contextUnavailable _ _ | .noBinaryFormats | .noBinaryFunction | .binaryFailed _
  | .emptyPayload | .teardownFailed _ => .warn
  | .binaryWritten _ _ _ | .usingDevice _ _ | .usingDefaultDisplay | .introduced _ _
  | .finished _ _ _ _ => .info
  | .sourceLoaded _ _ | .compiled _ _ _ | .linkedUncompiled _ | .binaryFetched _ _
  | .binariesThrough _ | .errorDiscarded _ | .variableFailed _ _ => .debug

/-- The part of the program that logs the record, by the name that filters match. -/
def target : Record → String
  | .sourceLoaded _ _ => "gles_shader_compiler::source"
  | .emptySource _ | .compiled _ _ _ => "gles_shader_compiler::shader_unit"
  | .linkedUncompiled _ | .rejectedVariable _ _ => "gles_shader_compiler::program_unit"
  | .unlinkedBinary | .binaryFetched _ _ | .binaryWritten _ _ _ =>
    "gles_shader_compiler::binary_artifact"
  | .noEnumeration _ | .usingDevice _ _ | .usingDefaultDisplay | .contextUnavailable _ _
  | .introduced _ _ | .noBinaryFormats => "gles_shader_compiler::context"
  | .binariesThrough _ | .noBinaryFunction | .errorDiscarded _ | .variableFailed _ _
  | .binaryFailed _ | .emptyPayload => "gles_shader_compiler::entry_points"
  | .finished _ _ _ _ | .teardownFailed _ => "shader_compiler"

def text : Record → String
  | .sourceLoaded path size => "loaded " ++ path ++ " (" ++ toString size ++ " bytes)"
  | .emptySource stage => stage.name ++ " shader source is empty"
  | .compiled stage status logSize =>
    stage.name ++ " shader compiled: status=" ++ toString status ++ " log_len=" ++ toString logSize
  | .linkedUncompiled status =>
    "linked with a shader that failed to compile: status=" ++ toString status
  | .rejectedVariable interface index =>
    "driver rejected active " ++ interface.memberName ++ " #" ++ toString index.toNat
  | .unlinkedBinary => "extracting binary of a program that failed to link"
  | .binaryFetched length format =>
    "program binary: length=" ++ toString length ++ " format=" ++ Text.hexCode format
  | .binaryWritten size format path =>
    "wrote " ++ toString size ++ " bytes (format " ++ Text.hexCode format ++ ") to " ++ path
  | .noEnumeration fault => "EGL device enumeration unavailable: " ++ fault.message
  | .usingDevice index description =>
    "using EGL device #" ++ toString index ++ description.elim "" fun stated ↦ ": " ++ stated
  | .usingDefaultDisplay => "no EGL device found, using the default display"
  | .contextUnavailable major error =>
    "GL ES " ++ toString major ++ ".0 context unavailable: " ++ error.message
  | .introduced string value => string.name ++ ": " ++ value
  | .noBinaryFormats => "driver reports no program binary formats"
  | .binariesThrough function => "program binaries through " ++ function
  | .noBinaryFunction => "driver exposes no program binary entry point"
  | .errorDiscarded code => "discarding pending GL error " ++ Text.hexCode code
  | .variableFailed index code =>
    "active variable #" ++ toString index.toNat ++ ": GL error " ++ Text.hexCode code
  | .binaryFailed code => "program binary query failed: GL error " ++ Text.hexCode code
  | .emptyPayload => "no program binary entry point, writing an empty payload"
  | .finished vertex fragment link binarySize =>
    "vertex=" ++ toString vertex ++ " fragment=" ++ toString fragment ++ " link=" ++
      toString link ++ " binary=" ++ toString binarySize ++ " bytes"
  | .teardownFailed error => error.message

end Record

end Log

end ShaderBuild
