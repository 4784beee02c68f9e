import ShaderBuild.Attempt
import ShaderBuild.Egl.Request
import ShaderBuild.Gl.Call

/-!
What is done on a machine with GL and EGL: calls and requests, each with its answer, and records
logged between them.
-/

set_option autoImplicit false
set_option relaxedAutoImplicit false

namespace ShaderBuild

inductive Deed where
  | gl (call : Gl.Call) (answer : call.Answer)
  | egl (request : Egl.Request) (answer : request.Answer)
  | logged (record : Log.Record)

def Deed.record? : Deed → Option Log.Record
  | .logged record => some record
  | _ => none

/-- GL and EGL over one state. -/
structure Machine (γ : Type) where
  gl : Gl.Implementation γ
  egl : Egl.Platform γ

variable {γ : Type}

/-- Makes a GL call. -/
def Gl.Implementation.ask (gl : Gl.Implementation γ) (call : Gl.Call) :
    Activity Deed γ call.Answer := fun s ↦
  let (answer, s) := gl.answer call s
  ⟨answer, [.gl call answer], s⟩

/-- Makes an EGL request. -/
def Egl.Platform.ask (egl : Egl.Platform γ) (request : Egl.Request) :
    Activity Deed γ request.Answer := fun s ↦
  let (answer, s) := egl.answer request s
  ⟨answer, [.egl request answer], s⟩

/-- Logs between calls. -/
def Deed.log (record : Log.Record) : Activity Deed γ Unit := Activity.emit (.logged record)

end ShaderBuild
