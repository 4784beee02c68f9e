import ShaderBuild.Context.Display
import ShaderBuild.Gl.Query

/-!
A GL ES context that draws nowhere. Version 3 is tried first if it is asked for, then version 2. A
version is given up at its first failure; the context of the first that works is the one that is
used, and if none works the error is that of the last.
-/

set_option autoImplicit false
set_option relaxedAutoImplicit false

namespace ShaderBuild

variable {γ : Type}

structure ContextRequest where
  /-- The position in the list of EGL devices. -/
  device : Nat := 0
  /-- From 3 on, version 2 is tried if version 3 is refused. -/
  major : Nat := 3
  deriving DecidableEq, Repr

/-- A context that is current. -/
structure Context where
  handle : Nat
  functions : Gl.Functions
  deriving DecidableEq, Repr

namespace Context

/-- The versions to try, in order. -/
def versions (requested : Nat) : List Nat := if requested ≥ 3 then [3, 2] else [2]

/-- The surfaces that a configuration is looked for with, in order. -/
def surfaces : List Egl.Surface := [.any, .pbuffer]

/-- The first configuration there is. Only an empty answer leads to the next surface. -/
def firstConfig (egl : Egl.Platform γ) (major : Nat) :
    List Egl.Surface → Attempt Deed γ Nat
  | [] => throw (.context .config none)
  | surface :: rest => do
    match ← requestOrFail egl .config (.findConfigs major surface) with
    | config :: _ => return config
    | [] => firstConfig egl major rest

/-- A context of that version, made current without a surface. -/
def activate (egl : Egl.Platform γ) (major : Nat) : Attempt Deed γ Nat := do
  let config ← firstConfig egl major surfaces
  let context ← requestOrFail egl .creation (.createContext config major)
  requestOrFail egl .activation (.makeCurrent context)
  return context

/-- The first version that works, with its context. -/
def activateFirst (egl : Egl.Platform γ) (last : Error) :
    List Nat → Attempt Deed γ (Nat × Nat)
  | [] => throw last
  | major :: rest => do
    match ← ExceptT.lift (activate egl major).run with
    | .ok context => return (major, context)
    | .error error =>
      ExceptT.lift (Deed.log (.contextUnavailable major error))
      activateFirst egl error rest

/-- The extension by which version 2 hands out program binaries. -/
def binaryExtension : String := "GL_OES_get_program_binary"

/-- Logs what the implementation is called. -/
def introduce (gl : Gl.Implementation γ) (string : Log.GlString) : Activity Deed γ Unit := do
  let value ← gl.ask (.getString string)
  Deed.log (.introduced string value)

/-- Whether the context can hand out program binaries. -/
def supportsBinaries (gl : Gl.Implementation γ) (major : Nat) : Activity Deed γ Bool :=
  if major ≥ 3 then pure true
  else do return (← gl.ask .getExtensions).contains binaryExtension

/-- Whether program binaries of some format can be had. Formats are counted only where there can be
any. -/
def hasBinaryFormats (gl : Gl.Implementation γ) (major : Nat) : Activity Deed γ Bool := do
  if ← supportsBinaries gl major then
    return (← gl.ask (.getInteger .programBinaryFormatCount)) != 0
  else
    return false

/-- Finds the functions of a context that was made current. -/
def prepare (gl : Gl.Implementation γ) (major handle : Nat) : Attempt Deed γ Context := do
  let functions ← Gl.Functions.find gl major
  introduce gl .vendor
  introduce gl .renderer
  introduce gl .version
  unless ← hasBinaryFormats gl major do
    ExceptT.lift (Deed.log .noBinaryFormats)
  return { handle, functions }

/-- Makes a context. A failure to find its functions does not lead to another version. -/
def create (machine : Machine γ) (request : ContextRequest) : Attempt Deed γ Context := do
  connect machine.egl request.device
  let (major, handle) ←
    activateFirst machine.egl (.context .creation none) (versions request.major)
  prepare machine.gl major handle

/-- Releases the context. -/
def release (machine : Machine γ) (context : Context) : Attempt Deed γ Unit :=
  requestOrFail machine.egl .release (.releaseCurrent context.handle)

end Context

end ShaderBuild
