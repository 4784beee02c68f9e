import ShaderBuild.Shader.DataType

/-!
The active variables of a linked program: the attributes it reads and the uniforms it is set up
with. A driver describes a variable in GL terms (`ActiveVariable`); a report shows what that means
(`Variable`).
-/

set_option autoImplicit false
set_option relaxedAutoImplicit false

namespace ShaderBuild

/-- Which list of active variables of a program is meant. -/
inductive Interface where
  | attributes
  | uniforms
  deriving DecidableEq, Repr

namespace Interface

/-- The name of one member. -/
def memberName : Interface → String
  | .attributes => "attribute"
  | .uniforms => "uniform"

def name : Interface → String
  | .attributes => "attributes"
  | .uniforms => "uniforms"

/-- The program parameter that counts the members. -/
def countParameter : Interface → Gl.Code
  | .attributes => .activeAttributes
  | .uniforms => .activeUniforms

/-- The program parameter that gives the size of the longest name, terminator included. -/
def maxLengthParameter : Interface → Gl.Code
  | .attributes => .activeAttributeMaxLength
  | .uniforms => .activeUniformMaxLength

end Interface

/-- A variable as a driver describes it. -/
structure ActiveVariable where
  name : String
  size : Int32
  type : Gl.Code
  deriving DecidableEq, Repr

structure Variable where
  name : String
  arraySize : UInt32
  type : DataType
  deriving DecidableEq, Repr

/-- A variable that is no array, or has a size that makes no sense, counts as an array of one. -/
def ActiveVariable.toVariable (described : ActiveVariable) : Variable where
  name := described.name
  arraySize := if described.size < 1 then 1 else described.size.toUInt32
  type := .ofCode described.type

/-- The size of a buffer for names of at most `maxLength` bytes, terminator included. A driver that
reports no length still gets room for a name. -/
def nameBufferSize (maxLength : Nat) : Nat := if maxLength = 0 then 256 else maxLength

theorem nameBufferSize_pos (maxLength : Nat) : 0 < nameBufferSize maxLength := by
  unfold nameBufferSize
  split <;> omega

end ShaderBuild
