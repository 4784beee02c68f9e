import ShaderBuild.Command.Arguments
import ShaderBuild.Command.Help
import ShaderBuild.Driver.Gles
import ShaderBuild.Log.Filter
import ShaderBuild.Run

/-!
The command from its arguments to its exit. The sources are read before a context is made, so a run
that cannot read them leaves the machine alone. A context that was made is released whatever
becomes of the build, and an error of the build outranks one of the release.
-/

set_option autoImplicit false
set_option relaxedAutoImplicit false

namespace ShaderBuild

variable {γ ω φ α : Type}

/-- Work on the machine outside any driver call. -/
def World.onMachine (m : Attempt Deed γ α) : Attempt Event (World γ ω φ) α :=
  World.onDriver (ExceptT.mk (Activity.mapTrail Event.did m.run))

namespace Command

/-- What a command works with. -/
structure Setting (γ ω φ : Type) where
  machine : Machine γ
  writer : Writer ω
  disk : Disk φ

namespace Setting

/-- The tools of a build in a context. -/
def tools (setting : Setting γ ω φ) (context : Context) : Tools γ ω φ where
  driver := Gles.driver setting.machine.gl context
  writer := setting.writer
  disk := setting.disk

/-- What comes of a build and of the release after it. -/
def conclude (summary : Except Error Summary) (teardown : Except Error Unit) :
    Attempt Event (World γ ω φ) Summary :=
  match summary, teardown with
  | .ok summary, .ok () => pure summary
  | .ok _, .error error => throw error
  | .error error, .ok () => throw error
  | .error error, .error later => do
    ExceptT.lift (Event.log (.teardownFailed later))
    throw error

/-- Builds a shader pair in a context of its own. -/
def build (setting : Setting γ ω φ) (options : Options) :
    Attempt Event (World γ ω φ) Summary := do
  let sources ←
    World.onFiles (ShaderPair.read setting.disk options.vertexFile options.fragmentFile)
  let context ← World.onMachine (Context.create setting.machine
    { device := options.device, major := options.glesVersion })
  let summary ← ExceptT.lift ((setting.tools context).run sources options.outputFile).run
  let teardown ← ExceptT.lift (World.onMachine (Context.release setting.machine context)).run
  let summary ← conclude summary teardown
  ExceptT.lift (Event.log (.finished summary.vertexCompiled summary.fragmentCompiled
    summary.linked summary.binarySize))
  return summary

end Setting

/-- How a command ends: its exit status, and what it complains about. -/
structure Exit where
  status : Nat
  complaint : String
  deriving DecidableEq, Repr

def Exit.success : Exit := ⟨0, ""⟩

/-- The texts with a line feed after each. -/
def endLines (lines : List String) : String := String.join (lines.map (· ++ "\n"))

/-- The end of a run that met an error. Its messages are not made plain. -/
def Exit.ofError (error : Error) : Exit where
  status := 1
  complaint := endLines
    ((programName ++ ": " ++ error.message) :: error.causes.map ("  caused by: " ++ ·))

/-- The end of a run with a wrong command line. -/
def Exit.ofUsage (error : UsageError) : Exit where
  status := 2
  complaint := endLines error.lines

/-- Shows a text in place of a report. -/
def Setting.print (setting : Setting γ ω φ) (text : String) :
    Activity Event (World γ ω φ) Exit := do
  let _ ← (World.onWriter (setting.writer.writePieces [text])).run
  return .success

/-- Runs the command. -/
def Setting.execute (setting : Setting γ ω φ) (arguments : List String) :
    Activity Event (World γ ω φ) Exit :=
  match parse arguments with
  | .error .help => setting.print helpText
  | .error .version => setting.print versionText
  | .error (.usage error) => pure (.ofUsage error)
  | .ok options => do
    match ← (setting.build options).run with
    | .ok _ => return .success
    | .error error => return .ofError error

/-- The text for the error stream: what is wrong with the filter, the records that it admits, and
the complaint. -/
def errorText (filter : Log.Filter) (trail : List Event) (exit : Exit) : String :=
  endLines filter.warnings ++
    String.join (((trail.flatMap Event.records).filter filter.admits).map Log.Record.shown) ++
    exit.complaint

end Command

end ShaderBuild
