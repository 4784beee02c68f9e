import ShaderBuild.Deed

/-!
The driver that compiles and links. `Call` lists what it is asked for and `Call.Answer` what it
gives back. A driver may be anything that answers: each answer may depend on all calls before it,
and what it does underneath is kept beside the answer.
-/

set_option autoImplicit false
set_option relaxedAutoImplicit false

namespace ShaderBuild

/-- A shader object, by the number its driver gave it. -/
structure ShaderId where
  number : Nat
  deriving DecidableEq, Repr

/-- A program object, by the number its driver gave it. -/
structure ProgramId where
  number : Nat
  deriving DecidableEq, Repr

/-- A program in the format of its driver. -/
structure Artifact where
  format : Gl.Code
  payload : Bytes
  deriving DecidableEq, Repr

inductive Call where
  | createShader (stage : Stage)
  | compileShader (shader : ShaderId) (source : String)
  | compileStatus (shader : ShaderId)
  | shaderLog (shader : ShaderId)
  | createProgram
  | attachShader (program : ProgramId) (shader : ShaderId)
  | linkProgram (program : ProgramId)
  | linkStatus (program : ProgramId)
  | parameter (program : ProgramId) (code : Gl.Code)
  | programLog (program : ProgramId)
  /-- `maxLength` counts the terminator of the name. -/
  | activeVariable (interface : Interface) (program : ProgramId) (index : UInt32)
      (maxLength : Nat)
  | binary (program : ProgramId) (length : Nat)
  deriving DecidableEq, Repr

abbrev Call.Answer : Call → Type
  | .createShader _ => Except Error ShaderId
  | .compileShader _ _ => Unit
  | .compileStatus _ => Bool
  | .shaderLog _ => String
  | .createProgram => Except Error ProgramId
  | .attachShader _ _ => Unit
  | .linkProgram _ => Unit
  | .linkStatus _ => Bool
  | .parameter _ _ => Int32
  | .programLog _ => String
  | .activeVariable _ _ _ _ => Option ActiveVariable
  | .binary _ _ => Artifact

/-- A driver with internal state `σ`. -/
structure Driver (σ : Type) where
  answer : (call : Call) → Activity Deed σ call.Answer

end ShaderBuild
