import ShaderBuild.Run

/-!
Builds taken apart. On a workbench each step of a build is done by itself, on units that earlier
steps have made; units of several builds may lie side by side. A step that fails adds nothing.
-/

set_option autoImplicit false
set_option relaxedAutoImplicit false

namespace ShaderBuild

/-- What has been made so far, each kind in the order of making. -/
structure Workbench where
  shaders : List CompiledShader := []
  programs : List LinkedProgram := []
  artifacts : List Artifact := []
  deriving DecidableEq, Repr

namespace Workbench

/-- What a step can be told to use. -/
inductive Part where
  | shader
  | program
  | artifact
  deriving DecidableEq, Repr

/-- A step. Units are named by their place on the workbench. -/
inductive Step where
  | compile (stage : Stage) (source : String)
  | link (vertex fragment : Nat)
  | extract (program : Nat)
  | keep (artifact : Artifact)
  | save (artifact : Nat) (path : String)
  | reportShader (shader : Nat)
  | reportProgram (program : Nat)
  | load (path : String)
  | run (sources : ShaderPair) (output : String)
  | runFiles (vertexFile fragmentFile output : String)
  deriving DecidableEq, Repr

/-- What a step yields. -/
inductive Yield where
  | shader (unit : CompiledShader)
  | program (unit : LinkedProgram)
  | artifact (artifact : Artifact)
  | saved
  | reported
  | text (source : String)
  | summary (summary : Summary)
  /-- The step names something that is not there; nothing is done. -/
  | lacking (part : Part)
  deriving DecidableEq, Repr

/-- Puts what a step yields with the others of its kind. -/
def add (bench : Workbench) : Yield → Workbench
  | .shader unit => { bench with shaders := bench.shaders ++ [unit] }
  | .program unit => { bench with programs := bench.programs ++ [unit] }
  | .artifact artifact => { bench with artifacts := bench.artifacts ++ [artifact] }
  | _ => bench

variable {σ ω φ : Type}

/-- Does a step with what lies on the workbench. -/
def yield (tools : Tools σ ω φ) (bench : Workbench) :
    Step → Attempt Event (World σ ω φ) Yield
  | .compile stage source => do
    return .shader (← World.onDriver (ShaderBuild.compile tools.driver stage source))
  | .link vertex fragment =>
    match bench.shaders[vertex]?, bench.shaders[fragment]? with
    | some vertex, some fragment => do
      return .program (← World.onDriver (ShaderBuild.link tools.driver vertex fragment))
    | _, _ => return .lacking .shader
  | .extract program =>
    match bench.programs[program]? with
    | some program => do
      return .artifact
        (← World.onDriver (ExceptT.lift (ShaderBuild.extract tools.driver program)))
    | none => return .lacking .program
  | .keep artifact => return .artifact artifact
  | .save artifact path =>
    match bench.artifacts[artifact]? with
    | some artifact => do
      World.onFiles (tools.disk.save artifact path)
      return .saved
    | none => return .lacking .artifact
  | .reportShader shader =>
    match bench.shaders[shader]? with
    | some unit => do
      World.onWriter (tools.writer.writePieces (Report.shaderPieces unit))
      return .reported
    | none => return .lacking .shader
  | .reportProgram program =>
    match bench.programs[program]? with
    | some unit => do
      World.onWriter (tools.writer.writePieces (Report.programPieces unit))
      return .reported
    | none => return .lacking .program
  | .load path => do
    return .text (← World.onFiles (tools.disk.loadSource path))
  | .run sources output => do
    return .summary (← tools.run sources output)
  | .runFiles vertexFile fragmentFile output => do
    let sources ← World.onFiles (ShaderPair.read tools.disk vertexFile fragmentFile)
    return .summary (← tools.run sources output)

/-- Does a step and puts what it yields on the workbench. -/
def perform (tools : Tools σ ω φ) (bench : Workbench) (step : Step) :
    Activity Event (World σ ω φ) (Except Error Yield × Workbench) := do
  match ← (yield tools bench step).run with
  | .ok result => return (.ok result, bench.add result)
  | .error error => return (.error error, bench)

end Workbench

end ShaderBuild
