import ShaderBuild.Event

/-!
Where sources are read from and the binary is written to.
-/

set_option autoImplicit false
set_option relaxedAutoImplicit false

namespace ShaderBuild

/-- Files in a state `φ`, by path. A write makes the file or replaces all of it. -/
structure Disk (φ : Type) where
  read : String → φ → Except IoError Bytes
  write : String → Bytes → φ → Except IoError Unit × φ

namespace Disk

variable {φ : Type}

/-- The text of a source file. Only its encoding is looked at. -/
def loadSource (disk : Disk φ) (path : String) : Attempt Event φ String :=
  fun files ↦
    let result := disk.read path files
    match result with
    | .error cause => ⟨.error (.unreadableSource path cause), [.loaded path result], files⟩
    | .ok bytes =>
      match Text.decode? bytes with
      | none => ⟨.error (.illEncodedSource path), [.loaded path result], files⟩
      | some text =>
        ⟨.ok text, [.loaded path result, .logged (.sourceLoaded path text.utf8ByteSize)], files⟩

/-- Writes the payload of an artifact, and nothing else, to a file. -/
def save (disk : Disk φ) (artifact : Artifact) (path : String) : Attempt Event φ Unit :=
  fun files ↦
  let (result, files) := disk.write path artifact.payload files
  match result with
  | .error cause =>
    ⟨.error (.unwritableOutput path cause), [.saved path artifact.payload result], files⟩
  | .ok () =>
    ⟨.ok (), [.saved path artifact.payload result,
      .logged (.binaryWritten artifact.payload.length artifact.format path)], files⟩

end Disk

end ShaderBuild
