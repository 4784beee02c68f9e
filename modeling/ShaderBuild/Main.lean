import ShaderBuild.Command.Execute
import ShaderBuild.Script

/-!
The command as a program. This build has no EGL library, so a run reads its sources and then finds
no display. Sources are read beforehand, and what is to be written is written afterwards.
-/

set_option autoImplicit false
set_option relaxedAutoImplicit false

namespace ShaderBuild.Command

/-- The files that a run can read, and those that it has written, oldest first. -/
structure Snapshot where
  sources : List (String × Except IoError Bytes)
  written : List (String × Bytes)

def Snapshot.disk : Disk Snapshot where
  read path snapshot := (snapshot.sources.lookup path).getD (.error (.system .noEntry))
  write path content snapshot :=
    (.ok (), { snapshot with written := snapshot.written ++ [(path, content)] })

def readSource (path : String) : IO (String × Except IoError Bytes) := do
  try
    let content ← IO.FS.readBinFile path
    return (path, .ok content.data.toList)
  catch error =>
    match error with
    | .noFileOrDirectory _ _ _ => return (path, .error (.system .noEntry))
    | .inappropriateType _ _ _ => return (path, .error (.system .isDirectory))
    | other => return (path, .error (.stated .other (toString other)))

/-- The files that the arguments name as sources. -/
def sourceFiles (arguments : List String) : List String :=
  match parse arguments with
  | .ok options => [options.vertexFile, options.fragmentFile]
  | .error _ => []

def filter : IO Log.Filter := do
  match ← IO.getEnv "RUST_LOG" with
  | some text => return .ofString text
  | none => return .standard

def runProgram (arguments : List String) : IO UInt32 := do
  let sources ← (sourceFiles arguments).mapM readSource
  let setting : Setting Script Sink.Content Snapshot :=
    { machine := Script.machine, writer := Sink.writer {}, disk := Snapshot.disk }
  let ending := setting.execute arguments
    { driver := { egl := .absent }, writer := {}, files := { sources, written := [] } }
  for (path, content) in ending.state.files.written do
    IO.FS.writeBinFile path content.toByteArray
  (← IO.getStdout).write ending.state.writer.bytes.toByteArray
  IO.eprint (errorText (← filter) ending.trail ending.value)
  return UInt32.ofNat ending.value.status

end ShaderBuild.Command

def main (arguments : List String) : IO UInt32 := ShaderBuild.Command.runProgram arguments
