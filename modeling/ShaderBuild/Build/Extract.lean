import ShaderBuild.Build.Link

/-!
Extracting the binary of a program, linked or not.
-/

set_option autoImplicit false
set_option relaxedAutoImplicit false

namespace ShaderBuild

variable {σ : Type}

/-- Fetches the binary at the length that the driver reports, and keeps no more than that. -/
def extract (driver : Driver σ) (program : LinkedProgram) : Activity Event σ Artifact := do
  unless program.status do
    Event.log .unlinkedBinary
  let reported ← driver.ask (.parameter program.id .programBinaryLength)
  let length := reported.toNatClampNeg
  let artifact ← driver.ask (.binary program.id length)
  Event.log (.binaryFetched length artifact.format)
  return { artifact with payload := artifact.payload.take length }

end ShaderBuild
