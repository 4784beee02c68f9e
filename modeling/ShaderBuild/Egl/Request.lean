import ShaderBuild.Fault.Egl

/-!
What a context asks of the EGL platform, from the list of devices to the release of the context.
-/

set_option autoImplicit false
set_option relaxedAutoImplicit false

namespace ShaderBuild.Egl

/-- Where a display comes from. -/
inductive DisplayOrigin where
  | device (index : Nat)
  | fallback
  deriving DecidableEq, Repr

/-- What a configuration has to be able to draw on. -/
inductive Surface where
  | any
  | pbuffer
  deriving DecidableEq, Repr

inductive Request where
  | queryDevices
  | openDisplay (origin : DisplayOrigin)
  | findConfigs (major : Nat) (surface : Surface)
  | createContext (config : Nat) (major : Nat)
  | makeCurrent (context : Nat)
  | releaseCurrent (context : Nat)
  deriving DecidableEq, Repr

/-- What a request gives back if it succeeds: the number of devices, the configurations that were
found, best first, or the new context. -/
abbrev Request.Result : Request → Type
  | .queryDevices => Nat
  | .openDisplay _ => Unit
  | .findConfigs _ _ => List Nat
  | .createContext _ _ => Nat
  | .makeCurrent _ => Unit
  | .releaseCurrent _ => Unit

abbrev Request.Answer (request : Request) : Type := Except EglFault request.Result

/-- An EGL platform with internal state `γ`. -/
structure Platform (γ : Type) where
  answer : (request : Request) → γ → request.Answer × γ
  /-- How a listed device is described in the log, if it is described at all. To look at that is no
  request. -/
  describe? : Nat → γ → Option String

end ShaderBuild.Egl
