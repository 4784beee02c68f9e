import ShaderBuild.Fault.Egl
import ShaderBuild.Fault.Io

/-!
What stops a run. A shader that does not compile and a program that does not link are no errors:
both are reported as a status. Every error but a failure to write the output file is fatal: nothing
later is done.
-/

set_option autoImplicit false
set_option relaxedAutoImplicit false

namespace ShaderBuild

/-- Why there is no usable context. -/
inductive ContextFailure where
  | noDevice (requested found : Nat)
  | display
  | config
  | creation
  | activation
  | release
  | missingFunction (name : String)
  | stated (reason : String)
  deriving DecidableEq, Repr, Inhabited

/-- A failure outside this library that an error is put down to. -/
inductive Fault where
  | io (error : IoError)
  | egl (fault : EglFault)
  deriving DecidableEq, Repr

inductive Error where
  | context (failure : ContextFailure) (cause : Option Fault)
  /-- A context failure put down to another error. -/
  | contextAfter (failure : ContextFailure) (cause : Error)
  | unreadableSource (path : String) (cause : IoError)
  | illEncodedSource (path : String)
  /-- The driver refused to create an object. -/
  | refused (object : String)
  | unwritableOutput (path : String) (cause : IoError)
  | unwritableReport (cause : IoError)
  deriving DecidableEq, Repr, Inhabited

def ContextFailure.message : ContextFailure → String
  | .noDevice requested found =>
    "No EGL device #" ++ toString requested ++ " (" ++ toString found ++ " found)"
  | .display => "Failed to create EGL display"
  | .config => "Failed to select EGL configuration"
  | .creation => "Failed to create EGL context"
  | .activation => "Failed to make context active"
  | .release => "Failed to release EGL context"
  | .missingFunction name => "Failed to load " ++ name
  | .stated reason => reason

def Fault.message : Fault → String
  | .io error => error.message
  | .egl fault => fault.message

namespace Error

def message : Error → String
  | .context failure _ => failure.message
  | .contextAfter failure _ => failure.message
  | .unreadableSource path _ => "Couldn't open file \"" ++ path ++ "\""
  | .illEncodedSource path => "Shader source \"" ++ path ++ "\" is not valid UTF-8"
  | .refused object => "Driver refused to create " ++ object
  | .unwritableOutput path _ => "Failed to create file \"" ++ path ++ "\""
  | .unwritableReport cause => "Failed to write report: " ++ cause.message

/-- The messages of everything the error is put down to, nearest first. -/
def causes : Error → List String
  | .context _ cause => (cause.map Fault.message).toList
  | .contextAfter _ cause => cause.message :: cause.causes
  | .unreadableSource _ cause => [cause.message]
  | .illEncodedSource _ => []
  | .refused _ => []
  | .unwritableOutput _ cause => [cause.message]
  | .unwritableReport cause => [cause.message]

/-- Whether the run ended before its output was due to be written. -/
def isFatal : Error → Bool
  | .unwritableOutput _ _ => false
  | _ => true

theorem isFatal_eq_false_iff (error : Error) :
    error.isFatal = false ↔ ∃ path cause, error = .unwritableOutput path cause := by
  cases error <;> simp [isFatal]

end Error

end ShaderBuild
