import ShaderBuild.Driver.Basic
import ShaderBuild.Text.Clip

/-!
A driver with its answers laid out beforehand. Every shader of a stage gets the same answers, and
there is one program. Names are cut as a GL name buffer would cut them, and the binary fills the
buffer that it is fetched into.
-/

set_option autoImplicit false
set_option relaxedAutoImplicit false

namespace ShaderBuild

/-- A status with its log. -/
structure Verdict where
  status : Bool := false
  infoLog : String := ""
  deriving DecidableEq, Repr

/-- The answers of a canned driver, and the stages of the shaders that it has created. -/
structure Canned where
  vertex : Verdict := {}
  fragment : Verdict := {}
  link : Verdict := {}
  attributes : List ActiveVariable := []
  uniforms : List ActiveVariable := []
  /-- The index that is rejected in both interfaces. -/
  rejected : Option UInt32 := none
  binary : Artifact := ⟨0, []⟩
  refusesObjects : Bool := false
  shaders : List Stage := []
  deriving DecidableEq, Repr

/-- A name as a buffer for names of at most `maxLength` bytes holds it, less its terminator. -/
def nameInBuffer (maxLength : Nat) (name : String) : String :=
  Text.clip (nameBufferSize maxLength - 1) name

namespace Canned

/-- A pair that compiles and links, with one attribute and one uniform. -/
def simplePair : Canned where
  vertex := { status := true }
  fragment := { status := true }
  link := { status := true }
  attributes := [⟨"position", 1, 0x8B52⟩]
  uniforms := [⟨"color", 1, 0x8B52⟩]
  binary := ⟨0x8AF0, [0xDE, 0xAD, 0xBE, 0xEF]⟩

def verdict (canned : Canned) : Stage → Verdict
  | .vertex => canned.vertex
  | .fragment => canned.fragment

/-- What is said of a shader: the verdict on its stage, and nothing of one never created. -/
def verdictOf (canned : Canned) (shader : ShaderId) : Verdict :=
  (canned.shaders[shader.number]?.map canned.verdict).getD {}

def active (canned : Canned) : Interface → List ActiveVariable
  | .attributes => canned.attributes
  | .uniforms => canned.uniforms

/-- The size of the longest name, terminator included; zero if there is no variable. Each size is
cut to 32 bits before they are compared. -/
def longestName (listed : List ActiveVariable) : Int32 :=
  (listed.map fun described ↦ Int32.ofNat described.name.utf8ByteSize + 1).max?.getD 0

def parameter (canned : Canned) (code : Gl.Code) : Int32 :=
  if code = Gl.Code.infoLogLength then
    if canned.link.infoLog.isEmpty then 0
    else Int32.ofNat (canned.link.infoLog.utf8ByteSize + 1)
  else if code = Gl.Code.activeAttributes then Int32.ofNat canned.attributes.length
  else if code = Gl.Code.activeAttributeMaxLength then longestName canned.attributes
  else if code = Gl.Code.activeUniforms then Int32.ofNat canned.uniforms.length
  else if code = Gl.Code.activeUniformMaxLength then longestName canned.uniforms
  else if code = Gl.Code.programBinaryLength then Int32.ofNat canned.binary.payload.length
  else 0

def describe (canned : Canned) (interface : Interface) (index : UInt32) (maxLength : Nat) :
    Option ActiveVariable :=
  if canned.rejected = some index then none
  else
    (canned.active interface)[index.toNat]?.map fun described ↦
      { described with name := nameInBuffer maxLength described.name }

/-- The payload in a buffer of `length` bytes, with zeros behind it. -/
def fill (payload : Bytes) (length : Nat) : Bytes :=
  payload.take length ++ List.replicate (length - payload.length) 0

/-- The answer to a call and the shaders created by then. -/
def answer (canned : Canned) : (call : Call) → call.Answer × List Stage
  | .createShader stage =>
    if canned.refusesObjects then (.error (.refused "shader object"), canned.shaders)
    else (.ok ⟨canned.shaders.length⟩, canned.shaders ++ [stage])
  | .compileShader _ _ => ((), canned.shaders)
  | .compileStatus shader => ((canned.verdictOf shader).status, canned.shaders)
  | .shaderLog shader => ((canned.verdictOf shader).infoLog, canned.shaders)
  | .createProgram =>
    (if canned.refusesObjects then .error (.refused "program object") else .ok ⟨1⟩,
      canned.shaders)
  | .attachShader _ _ => ((), canned.shaders)
  | .linkProgram _ => ((), canned.shaders)
  | .linkStatus _ => (canned.link.status, canned.shaders)
  | .parameter _ code => (canned.parameter code, canned.shaders)
  | .programLog _ => (canned.link.infoLog, canned.shaders)
  | .activeVariable interface _ index maxLength =>
    (canned.describe interface index maxLength, canned.shaders)
  | .binary _ length =>
    ({ canned.binary with payload := fill canned.binary.payload length }, canned.shaders)

def driver : Driver Canned where
  answer call := fun canned ↦
    let (answer, shaders) := canned.answer call
    ⟨answer, [], { canned with shaders }⟩

end Canned

end ShaderBuild
