import ShaderBuild.Gl.Call
import ShaderBuild.Gl.Version
import ShaderBuild.Text.Clip

/-!
A GL implementation that follows a script. Objects are numbered from one in the order in which they
are asked for, refused ones included, and each takes its answers from its place in the script.
Errors wait in a queue until they are asked for, unless one sticks: then that one is always the
answer.
-/

set_option autoImplicit false
set_option relaxedAutoImplicit false

namespace ShaderBuild.Gl

namespace Script

structure Shader where
  refused : Bool := false
  status : Bool := true
  infoLog : String := ""
  /-- The length of the log that is reported in place of the true one. -/
  logLength : Option Int32 := none
  deriving DecidableEq, Repr

structure ActiveVariable where
  name : Bytes
  size : Int32 := 1
  type : Code := 0
  /-- The length of the name that is reported in place of the true one. -/
  length : Option Int32 := none
  /-- The error that the query raises. -/
  raised : Option Code := none
  deriving DecidableEq, Repr

structure Binary where
  format : Code := 0
  payload : Bytes := []
  /-- The number of bytes that is reported in place of the true one. -/
  written : Option Int32 := none
  /-- The error that the query raises. -/
  raised : Option Code := none
  deriving DecidableEq, Repr

structure Program where
  refused : Bool := false
  status : Bool := true
  infoLog : String := ""
  /-- The length of the log that is reported in place of the true one. -/
  logLength : Option Int32 := none
  /-- Parameters that are reported in place of the true ones. -/
  parameters : List (Code × Int32) := []
  attributes : List ActiveVariable := []
  uniforms : List ActiveVariable := []
  binary : Binary := {}
  deriving DecidableEq, Repr

def Program.active (program : Program) : Interface → List ActiveVariable
  | .attributes => program.attributes
  | .uniforms => program.uniforms

end Script

structure Script where
  missing : List String := []
  vendor : String := "Mock"
  renderer : String := "Mock Renderer"
  version : String := "OpenGL ES 3.0 Mock"
  extensions : List String := []
  binaryFormats : Int32 := 1
  /-- The errors that wait, oldest first. -/
  pending : List Code := []
  /-- The error that sticks, if it is not zero. -/
  sticky : Code := 0
  shaders : List Script.Shader := []
  programs : List Script.Program := []
  shadersAsked : Nat := 0
  programsAsked : Nat := 0
  deriving DecidableEq, Repr

namespace Script

/-- The script of a shader; beyond the script it is an empty one. -/
def shader (script : Script) (id : UInt32) : Shader :=
  if id = 0 then {} else script.shaders[id.toNat - 1]?.getD {}

/-- The script of a program, if there is one. -/
def program? (script : Script) (id : UInt32) : Option Program :=
  if id = 0 then none else script.programs[id.toNat - 1]?

/-- The script of a program; beyond the script it is an empty one. -/
def program (script : Script) (id : UInt32) : Program := (script.program? id).getD {}

/-- The length of a log as it is reported: none, or that of the text and its terminator. -/
def logLength (infoLog : String) (reported : Option Int32) : Int32 :=
  reported.getD (if infoLog.isEmpty then 0 else Int32.ofNat (infoLog.utf8ByteSize + 1))

def status (good : Bool) : Int32 := if good then 1 else 0

/-- The size of the longest name, terminator included; zero if there is no variable. -/
def maxNameLength (listed : List ActiveVariable) : Nat :=
  (listed.map fun scripted ↦ scripted.name.length + 1).foldl max 0

def shaderParameter (shader : Shader) (parameter : Code) : Int32 :=
  if parameter = Code.compileStatus then status shader.status
  else if parameter = Code.infoLogLength then logLength shader.infoLog shader.logLength
  else 0

def programParameter (program : Program) (parameter : Code) : Int32 :=
  match program.parameters.lookup parameter with
  | some value => value
  | none =>
    if parameter = Code.linkStatus then status program.status
    else if parameter = Code.infoLogLength then logLength program.infoLog program.logLength
    else if parameter = Code.activeAttributes then Int32.ofNat program.attributes.length
    else if parameter = Code.activeUniforms then Int32.ofNat program.uniforms.length
    else if parameter = Code.activeAttributeMaxLength then
      Int32.ofNat (maxNameLength program.attributes)
    else if parameter = Code.activeUniformMaxLength then
      Int32.ofNat (maxNameLength program.uniforms)
    else if parameter = Code.programBinaryLength then
      Int32.ofNat program.binary.payload.length
    else 0

/-- Makes an error wait. -/
def raise (script : Script) (code : Code) : Script :=
  { script with pending := script.pending ++ [code] }

/-- The error that is answered and the script without it. -/
def takeError (script : Script) : Code × Script :=
  if script.sticky ≠ 0 then (script.sticky, script)
  else
    match script.pending with
    | [] => (0, script)
    | code :: rest => (code, { script with pending := rest })

/-- A query for an active variable in a name buffer of `size` bytes. -/
def queryVariable (script : Script) (scripted : Option ActiveVariable) (size : Int32) :
    VariableAnswer × Script :=
  match scripted with
  | none => ({}, script.raise Code.invalidValue)
  | some scripted =>
    match scripted.raised with
    | some code => ({}, script.raise code)
    | none =>
      let name := scripted.name.take (size.toNatClampNeg - 1)
      ({ length := scripted.length.getD (Int32.ofNat name.length)
         size := scripted.size
         type := scripted.type
         name }, script)

/-- A query for a program binary in a buffer of `size` bytes. -/
def queryBinary (script : Script) (scripted : Option Binary) (size : Int32) :
    BinaryAnswer × Script :=
  match scripted with
  | none => ({}, script.raise Code.invalidValue)
  | some scripted =>
    match scripted.raised with
    | some code => ({}, script.raise code)
    | none =>
      let payload := scripted.payload.take size.toNatClampNeg
      ({ written := scripted.written.getD (Int32.ofNat payload.length)
         format := scripted.format
         payload }, script)

/-- The extensions as they are found. Version 3 lists them one by one, and before that they come in
one text with blanks between. -/
def foundExtensions (script : Script) : List String :=
  if majorVersion script.version ≥ 3 then script.extensions
  else (String.intercalate " " script.extensions).splitOn " "

def answer (script : Script) : (call : Call) → call.Answer × Script
  | .findFunction name => (!script.missing.contains name, script)
  | .getError => script.takeError
  | .getString .vendor => (script.vendor, script)
  | .getString .renderer => (script.renderer, script)
  | .getString .version => (script.version, script)
  | .getExtensions => (script.foundExtensions, script)
  | .getInteger parameter =>
    (if parameter = Code.programBinaryFormatCount then script.binaryFormats else 0, script)
  | .createShader _ =>
    let asked := script.shadersAsked + 1
    let id := UInt32.ofNat asked
    (if (script.shader id).refused then 0 else id, { script with shadersAsked := asked })
  | .shaderSource _ _ => ((), script)
  | .compileShader _ => ((), script)
  | .getShader id parameter => (shaderParameter (script.shader id) parameter, script)
  | .getShaderInfoLog id size =>
    (Text.clip size.toNatClampNeg (script.shader id).infoLog, script)
  | .createProgram =>
    let asked := script.programsAsked + 1
    let id := UInt32.ofNat asked
    (if (script.program id).refused then 0 else id, { script with programsAsked := asked })
  | .attachShader _ _ => ((), script)
  | .linkProgram _ => ((), script)
  | .getProgram id parameter => (programParameter (script.program id) parameter, script)
  | .getProgramInfoLog id size =>
    (Text.clip size.toNatClampNeg (script.program id).infoLog, script)
  | .getActiveVariable interface id index size =>
    script.queryVariable ((script.program? id).bind fun program ↦
      (program.active interface)[index.toNat]?) size
  | .getProgramBinary _ id size => script.queryBinary ((script.program? id).map (·.binary)) size

def implementation : Implementation Script where
  answer call script := script.answer call

end Script

end ShaderBuild.Gl
