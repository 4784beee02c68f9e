import ShaderBuild.Driver.Basic

/-!
A driver that follows a script for each object: the n-th shader that is asked for gets the n-th
shader script, programs likewise, and objects beyond the script get an empty one. Names and binaries
are handed out as they are, whatever the size of the buffer.
-/

set_option autoImplicit false
set_option relaxedAutoImplicit false

namespace ShaderBuild

namespace Scripted

structure Shader where
  /-- What the creation is refused with. -/
  refusal : Option String := none
  status : Bool := true
  infoLog : String := ""
  deriving DecidableEq, Repr

structure Program where
  /-- What the creation is refused with. -/
  refusal : Option String := none
  status : Bool := true
  infoLog : String := ""
  parameters : List (Gl.Code × Int32) := []
  attributes : List (Option ActiveVariable) := []
  uniforms : List (Option ActiveVariable) := []
  binary : Artifact := ⟨0, []⟩
  deriving DecidableEq, Repr

def Program.active (program : Program) : Interface → List (Option ActiveVariable)
  | .attributes => program.attributes
  | .uniforms => program.uniforms

end Scripted

/-- A script and how many objects were asked for so far. -/
structure Scripted where
  shaders : List Scripted.Shader := []
  programs : List Scripted.Program := []
  shadersAsked : Nat := 0
  programsAsked : Nat := 0
  deriving DecidableEq, Repr

namespace Scripted

def shader (script : Scripted) (id : ShaderId) : Shader := script.shaders[id.number]?.getD {}

def program (script : Scripted) (id : ProgramId) : Program := script.programs[id.number]?.getD {}

def answer (script : Scripted) : (call : Call) → call.Answer × Scripted
  | .createShader _ =>
    let id := ShaderId.mk script.shadersAsked
    (match (script.shader id).refusal with
      | some object => .error (.refused object)
      | none => .ok id,
      { script with shadersAsked := script.shadersAsked + 1 })
  | .compileShader _ _ => ((), script)
  | .compileStatus id => ((script.shader id).status, script)
  | .shaderLog id => ((script.shader id).infoLog, script)
  | .createProgram =>
    let id := ProgramId.mk script.programsAsked
    (match (script.program id).refusal with
      | some object => .error (.refused object)
      | none => .ok id,
      { script with programsAsked := script.programsAsked + 1 })
  | .attachShader _ _ => ((), script)
  | .linkProgram _ => ((), script)
  | .linkStatus id => ((script.program id).status, script)
  | .parameter id code => (((script.program id).parameters.lookup code).getD 0, script)
  | .programLog id => ((script.program id).infoLog, script)
  | .activeVariable interface id index _ =>
    ((((script.program id).active interface)[index.toNat]?).join, script)
  | .binary id _ => ((script.program id).binary, script)

def driver : Driver Scripted where
  answer call := fun script ↦
    let (answer, script) := script.answer call
    ⟨answer, [], script⟩

end Scripted

end ShaderBuild
