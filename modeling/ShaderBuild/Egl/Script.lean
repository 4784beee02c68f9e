import ShaderBuild.Egl.Request

/-!
An EGL platform that follows a script: how many devices there are, which configurations are found,
and where it fails. A failure is given by the EGL error code that it leaves. There need not be an
EGL library at all; then every request fails.
-/

set_option autoImplicit false
set_option relaxedAutoImplicit false

namespace ShaderBuild.Egl

structure Script where
  devices : Nat := 1
  enumerationError : Option UInt32 := none
  displayError : Option UInt32 := none
  initializeError : Option UInt32 := none
  /-- The requests that find a configuration. -/
  configs : List (Nat × Surface) := [(3, .any), (2, .any)]
  /-- No configuration can be chosen at all. -/
  configError : Bool := false
  /-- By major version. -/
  contextErrors : List (Nat × UInt32) := []
  /-- By major version. -/
  currentErrors : List (Nat × UInt32) := []
  releaseError : Option UInt32 := none
  installed : Bool := true
  deriving DecidableEq, Repr

namespace Script

/-- A failure that left `code`, where `without` stands for the code of success. -/
def fault (without : EglFault) (code : UInt32) : EglFault :=
  if code = EglFault.success then without else .coded code

/-- A step that went wrong only if it left a code that says so. -/
def checked (code : Option UInt32) : Except EglFault Unit :=
  match code with
  | none => .ok ()
  | some code => if code = EglFault.success then .ok () else .error (.coded code)

/-- Contexts are numbered by their version. -/
def answer (script : Script) (request : Request) : request.Answer :=
  if script.installed then
    match request with
    | .queryDevices =>
      match script.enumerationError with
      | some code => .error (fault .deviceCount code)
      | none => .ok script.devices
    | .openDisplay _ =>
      match script.displayError, script.initializeError with
      | some code, _ => .error (fault .noDisplay code)
      | none, some code => .error (.coded code)
      | none, none => .ok ()
    | .findConfigs major surface =>
      if script.configError then .error .badConfig
      else .ok (if script.configs.contains (major, surface) then [0] else [])
    | .createContext _ major =>
      match script.contextErrors.lookup major with
      | some code => .error (.coded code)
      | none => .ok major
    | .makeCurrent context => checked (script.currentErrors.lookup context)
    | .releaseCurrent _ => checked script.releaseError
  else .error .libraryNotFound

/-- A platform without an EGL library. -/
def absent : Script where
  installed := false

end Script

end ShaderBuild.Egl
