import ShaderBuild.Build.Extract
import ShaderBuild.Disk.Basic
import ShaderBuild.Report
import ShaderBuild.Writer

/-!
A whole build: compile both stages, link, report each as soon as it is known, then extract the
binary and write it to a file. Stages that fail are reported and do not end the run. An object that
the driver refuses and a report that cannot be written do.
-/

set_option autoImplicit false
set_option relaxedAutoImplicit false

namespace ShaderBuild

/-- The texts of a shader pair. -/
structure ShaderPair where
  vertex : String
  fragment : String
  deriving DecidableEq, Repr

/-- Loads a shader pair, the vertex source first. -/
def ShaderPair.read {φ : Type} (disk : Disk φ) (vertex fragment : String) :
    Attempt Event φ ShaderPair := do
  let vertex ← disk.loadSource vertex
  let fragment ← disk.loadSource fragment
  return { vertex, fragment }

/-- What a run that got to its end has found. -/
structure Summary where
  vertexCompiled : Bool
  fragmentCompiled : Bool
  linked : Bool
  binaryFormat : Gl.Code
  binarySize : Nat
  deriving DecidableEq, Repr

/-- Everything that a run touches: its driver, its writer and the files. -/
structure World (σ ω φ : Type) where
  driver : σ
  writer : ω
  files : φ
  deriving DecidableEq, Repr

variable {σ ω φ α : Type}

namespace World

def onDriver (m : Attempt Event σ α) : Attempt Event (World σ ω φ) α :=
  ExceptT.mk (Activity.onPart World.driver (fun world s ↦ { world with driver := s }) m.run)

def onFiles (m : Attempt Event φ α) : Attempt Event (World σ ω φ) α :=
  ExceptT.mk (Activity.onPart World.files (fun world s ↦ { world with files := s }) m.run)

/-- Work on the writer. Its failure is an error of the report. -/
def onWriter (m : Activity Event ω (Except IoError α)) :
    Attempt Event (World σ ω φ) α :=
  ExceptT.mk (Activity.onPart World.writer (fun world s ↦ { world with writer := s })
    (Except.mapError Error.unwritableReport <$> m))

end World

/-- The tools of a run. -/
structure Tools (σ ω φ : Type) where
  driver : Driver σ
  writer : Writer ω
  disk : Disk φ

namespace Tools

/-- Compiles one stage and reports it. -/
def compileReported (tools : Tools σ ω φ) (stage : Stage) (source : String) :
    Attempt Event (World σ ω φ) CompiledShader := do
  let unit ← World.onDriver (compile tools.driver stage source)
  World.onWriter (tools.writer.writePieces (Report.shaderPieces unit))
  return unit

/-- Links two compiled shaders and reports the program. -/
def linkReported (tools : Tools σ ω φ) (vertex fragment : CompiledShader) :
    Attempt Event (World σ ω φ) LinkedProgram := do
  let program ← World.onDriver (link tools.driver vertex fragment)
  World.onWriter (tools.writer.writePieces (Report.programPieces program))
  return program

/-- Builds a shader pair into the file `output`. -/
def run (tools : Tools σ ω φ) (sources : ShaderPair) (output : String) :
    Attempt Event (World σ ω φ) Summary := do
  let vertex ← tools.compileReported .vertex sources.vertex
  let fragment ← tools.compileReported .fragment sources.fragment
  let program ← tools.linkReported vertex fragment
  World.onWriter tools.writer.flushAll
  let artifact ← World.onDriver (ExceptT.lift (extract tools.driver program))
  World.onFiles (tools.disk.save artifact output)
  return {
    vertexCompiled := vertex.status
    fragmentCompiled := fragment.status
    linked := program.status
    binaryFormat := artifact.format
    binarySize := artifact.payload.length }

end Tools

end ShaderBuild
