import ShaderBuild.Text.Hex

/-!
Failures of the EGL platform, and their wording.
-/

set_option autoImplicit false
set_option relaxedAutoImplicit false

namespace ShaderBuild

/-- A failure of the platform layer. Most carry the EGL error code that was left behind. -/
inductive EglFault where
  /-- There is no EGL library. -/
  | libraryNotFound
  | coded (code : UInt32)
  /-- A configuration could not be chosen. -/
  | badConfig
  /-- The devices could not be counted, and EGL gives no code for it. -/
  | deviceCount
  /-- There is no display, and EGL gives no code for it. -/
  | noDisplay
  deriving DecidableEq, Repr

namespace EglFault

/-- The code by which EGL says that nothing went wrong. -/
def success : UInt32 := 0x3000

/-- What an EGL error code means. -/
def codeMeaning (code : UInt32) : String :=
  if code = 0x3001 then "initialization failed"
  else if code = 0x3002 then "access to the resource failed"
  else if code = 0x3003 then "out of memory"
  else if code = 0x3004 then "an unrecognized attribute or attribute value was passed"
  else if code = 0x3005 then "argument does not name a valid config"
  else if code = 0x3006 then "argument does not name a valid context"
  else if code = 0x3007 then "the current surface of the calling thread is no longer valid"
  else if code = 0x3008 then "argument does not name a valid display"
  else if code = 0x3009 then "arguments are inconsistent"
  else if code = 0x300a then "argument does not refer to a valid native pixmap"
  else if code = 0x300b then "argument does not refer to a valid native window"
  else if code = 0x300c then "one or more argument values are invalid"
  else if code = 0x300d then "argument does not name a valid surface"
  else if code = 0x300e then "context loss"
  else "misc platform error"

def message : EglFault → String
  | .libraryNotFound => "not found"
  | .coded code => "[" ++ Text.hexDigits code.toNat ++ "] " ++ codeMeaning code
  | .badConfig => "argument does not name a valid config"
  | .deviceCount => "Querying device count failed"
  | .noDisplay => "failed to create EGLDisplay without a reason"

end EglFault

end ShaderBuild
