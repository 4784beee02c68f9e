import ShaderBuild.Activity
import ShaderBuild.Log.Record
import ShaderBuild.Text.Utf8

/-!
The GL functions that a build is made with. `Call` lists them with their arguments and
`Call.Answer` says what each gives back. An implementation answers every call, and each answer may
depend on all calls before it.
-/

set_option autoImplicit false
set_option relaxedAutoImplicit false

namespace ShaderBuild.Gl

/-- The two functions that fetch a program binary. -/
inductive BinaryFunction where
  | core
  | oes
  deriving DecidableEq, Repr

def BinaryFunction.name : BinaryFunction → String
  | .core => "glGetProgramBinary"
  | .oes => "glGetProgramBinaryOES"

/-- What a query for an active variable stores. A query that fails stores nothing, so every field
keeps its default. The bytes are those written at the front of the name buffer. -/
structure VariableAnswer where
  length : Int32 := 0
  size : Int32 := 0
  type : Code := 0
  name : Bytes := []
  deriving DecidableEq, Repr

/-- What a query for a program binary stores, with the bytes written at the front of the buffer. -/
structure BinaryAnswer where
  written : Int32 := 0
  format : Code := 0
  payload : Bytes := []
  deriving DecidableEq, Repr

inductive Call where
  /-- Asks the loader whether there is a function of that name. -/
  | findFunction (name : String)
  | getError
  | getString (string : Log.GlString)
  | getExtensions
  | getInteger (parameter : Code)
  | createShader (kind : Code)
  | shaderSource (shader : UInt32) (source : String)
  | compileShader (shader : UInt32)
  | getShader (shader : UInt32) (parameter : Code)
  | getShaderInfoLog (shader : UInt32) (size : Int32)
  | createProgram
  | attachShader (program shader : UInt32)
  | linkProgram (program : UInt32)
  | getProgram (program : UInt32) (parameter : Code)
  | getProgramInfoLog (program : UInt32) (size : Int32)
  | getActiveVariable (interface : Interface) (program index : UInt32) (size : Int32)
  | getProgramBinary (function : BinaryFunction) (program : UInt32) (size : Int32)
  deriving DecidableEq, Repr

/-- What a call gives back. Objects are numbered, and zero stands for a refused one. -/
abbrev Call.Answer : Call → Type
  | .findFunction _ => Bool
  | .getError => Code
  | .getString _ => String
  | .getExtensions => List String
  | .getInteger _ => Int32
  | .createShader _ => UInt32
  | .shaderSource _ _ => Unit
  | .compileShader _ => Unit
  | .getShader _ _ => Int32
  | .getShaderInfoLog _ _ => String
  | .createProgram => UInt32
  | .attachShader _ _ => Unit
  | .linkProgram _ => Unit
  | .getProgram _ _ => Int32
  | .getProgramInfoLog _ _ => String
  | .getActiveVariable _ _ _ _ => VariableAnswer
  | .getProgramBinary _ _ _ => BinaryAnswer

/-- A GL implementation with internal state `γ`. -/
structure Implementation (γ : Type) where
  answer : (call : Call) → γ → call.Answer × γ

end ShaderBuild.Gl
