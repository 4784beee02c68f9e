import ShaderBuild.Deed

/-!
Opening a display. The list of EGL devices is preferred: the requested device is opened directly.
Where devices cannot be listed, or there are none, the default display is opened instead.
-/

set_option autoImplicit false
set_option relaxedAutoImplicit false

namespace ShaderBuild

variable {γ : Type}

/-- The default display if there is no device, else the requested device if there is one of that
index. -/
def Egl.DisplayOrigin.select (found requested : Nat) : Except Error Egl.DisplayOrigin :=
  if found = 0 then .ok .fallback
  else if requested < found then .ok (.device requested)
  else .error (.context (.noDevice requested found) none)

/-- Logs which display is opened. -/
def logDisplay (egl : Egl.Platform γ) : Egl.DisplayOrigin → Activity Deed γ Unit
  | .device index => fun s ↦ Deed.log (.usingDevice index (egl.describe? index s)) s
  | .fallback => Deed.log .usingDefaultDisplay

/-- The number of devices, zero where they cannot be listed. -/
def countDevices (egl : Egl.Platform γ) : Activity Deed γ Nat := do
  match ← egl.ask .queryDevices with
  | .ok found => return found
  | .error fault =>
    Deed.log (.noEnumeration fault)
    return 0

/-- A request whose failure is an error of the context. -/
def requestOrFail (egl : Egl.Platform γ) (failure : ContextFailure) (request : Egl.Request) :
    Attempt Deed γ request.Result := do
  match ← egl.ask request with
  | .ok result => return result
  | .error fault => throw (.context failure (some (.egl fault)))

def connect (egl : Egl.Platform γ) (requested : Nat) : Attempt Deed γ Unit := do
  let found ← countDevices egl
  let origin ← ExceptT.mk (pure (Egl.DisplayOrigin.select found requested))
  ExceptT.lift (logDisplay egl origin)
  requestOrFail egl .display (.openDisplay origin)

end ShaderBuild
