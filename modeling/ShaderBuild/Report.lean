import ShaderBuild.Build.Link

/-!
The report of a build, in three blocks: one for each shader and one for the program. A block is a
list of pieces, each handed to the writer whole. Logs and names are shown as they are.
-/

set_option autoImplicit false
set_option relaxedAutoImplicit false

namespace ShaderBuild.Report

/-- A log with a line feed after it; an empty log is no line at all. -/
def logPieces (infoLog : String) : List String :=
  if infoLog.isEmpty then [] else [infoLog, "\n"]

/-- The line of one variable. -/
def variablePieces (member : Variable) : List String :=
  [" * ", member.name, ": ", toString member.arraySize.toNat, " x ", member.type.name, "\n"]

/-- The lines of one interface of a program. -/
def interfacePieces (interface : Interface) (members : List Variable) : List String :=
  if members.isEmpty then ["No active ", interface.name, "\n"]
  else "Active " :: interface.name :: ":\n" :: members.flatMap variablePieces

/-- The block of a shader. -/
def shaderPieces (unit : CompiledShader) : List String :=
  (if unit.status then "Compile successfull.\nLog:\n" else "Compile failed\nLog:\n") ::
    logPieces unit.infoLog

/-- The block of a program. -/
def programPieces (unit : LinkedProgram) : List String :=
  (if unit.status then "Link successfull\nLog:\n" else "Link failed\nLog:\n") ::
    (logPieces unit.infoLog ++ interfacePieces .attributes unit.attributes ++
      interfacePieces .uniforms unit.uniforms)

/-- The text of a block. -/
def text (pieces : List String) : String := String.join pieces

end ShaderBuild.Report
