import ShaderBuild.Gl.Code

/-!
The data types of shader variables. GL reports them as codes; a code that GL ES 2 does not have
keeps its number.
-/

set_option autoImplicit false
set_option relaxedAutoImplicit false

namespace ShaderBuild

inductive DataType where
  | float
  | floatVec2
  | floatVec3
  | floatVec4
  | floatMat2
  | floatMat3
  | floatMat4
  | int
  | intVec2
  | intVec3
  | intVec4
  | bool
  | boolVec2
  | boolVec3
  | boolVec4
  | sampler2d
  | samplerCube
  | unknown (code : Gl.Code)
  deriving DecidableEq, Repr

namespace DataType

/-- The known types with their GL codes. -/
def codes : List (Gl.Code × DataType) :=
  [(0x1406, .float), (0x8B50, .floatVec2), (0x8B51, .floatVec3), (0x8B52, .floatVec4),
    (0x8B5A, .floatMat2), (0x8B5B, .floatMat3), (0x8B5C, .floatMat4),
    (0x1404, .int), (0x8B53, .intVec2), (0x8B54, .intVec3), (0x8B55, .intVec4),
    (0x8B56, .bool), (0x8B57, .boolVec2), (0x8B58, .boolVec3), (0x8B59, .boolVec4),
    (0x8B5E, .sampler2d), (0x8B60, .samplerCube)]

def ofCode (code : Gl.Code) : DataType := (codes.lookup code).getD (.unknown code)

/-- The short name that reports show. All unknown types share one. -/
def name : DataType → String
  | .float => "float"
  | .floatVec2 => "vec2f"
  | .floatVec3 => "vec3f"
  | .floatVec4 => "vec4f"
  | .floatMat2 => "mat2f"
  | .floatMat3 => "mat3f"
  | .floatMat4 => "mat4f"
  | .int => "int"
  | .intVec2 => "vec2i"
  | .intVec3 => "vec3i"
  | .intVec4 => "vec4i"
  | .bool => "bool"
  | .boolVec2 => "vec2b"
  | .boolVec3 => "vec3b"
  | .boolVec4 => "vec4b"
  | .sampler2d => "sampler2d"
  | .samplerCube => "samplerCube"
  | .unknown _ => "unknown type"

/-- The full name, with the code of an unknown type. -/
def title : DataType → String
  | .float => "Float"
  | .floatVec2 => "FloatVec2"
  | .floatVec3 => "FloatVec3"
  | .floatVec4 => "FloatVec4"
  | .floatMat2 => "FloatMat2"
  | .floatMat3 => "FloatMat3"
  | .floatMat4 => "FloatMat4"
  | .int => "Int"
  | .intVec2 => "IntVec2"
  | .intVec3 => "IntVec3"
  | .intVec4 => "IntVec4"
  | .bool => "Bool"
  | .boolVec2 => "BoolVec2"
  | .boolVec3 => "BoolVec3"
  | .boolVec4 => "BoolVec4"
  | .sampler2d => "Sampler2d"
  | .samplerCube => "SamplerCube"
  | .unknown code => "Unknown(" ++ toString code.toNat ++ ")"

def IsUnknown : DataType → Prop
  | .unknown _ => True
  | _ => False

end DataType

end ShaderBuild
