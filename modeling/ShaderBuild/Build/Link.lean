import ShaderBuild.Build.Compile

/-!
Linking two compiled stages and asking what variables the program has. Stages that did not compile
are linked all the same: the driver says that the link failed.
-/

set_option autoImplicit false
set_option relaxedAutoImplicit false

namespace ShaderBuild

/-- A program object after its one link. The variables are in the order of the driver. -/
structure LinkedProgram where
  status : Bool
  infoLog : String
  attributes : List Variable
  uniforms : List Variable
  id : ProgramId
  deriving DecidableEq, Repr

variable {σ : Type}

/-- The variables at `count` indexes from `index` on, without those that the driver rejects. -/
def describeFrom (driver : Driver σ) (interface : Interface) (program : ProgramId)
    (maxLength : Nat) : (index count : Nat) → Activity Event σ (List Variable)
  | _, 0 => pure []
  | index, count + 1 => do
    let position := UInt32.ofNat index
    match ← driver.ask (.activeVariable interface program position maxLength) with
    | some described =>
      let rest ← describeFrom driver interface program maxLength (index + 1) count
      return described.toVariable :: rest
    | none =>
      Event.log (.rejectedVariable interface position)
      describeFrom driver interface program maxLength (index + 1) count

/-- The active variables of a program. The size of the longest name is asked for once, and only if
there is a variable. -/
def activeVariables (driver : Driver σ) (interface : Interface) (program : ProgramId) :
    Activity Event σ (List Variable) := do
  let count ← driver.ask (.parameter program interface.countParameter)
  if count ≤ 0 then
    return []
  else
    let maxLength ← driver.ask (.parameter program interface.maxLengthParameter)
    describeFrom driver interface program maxLength.toNatClampNeg 0 count.toNatClampNeg

/-- The link log, read only if the driver says that there is one. -/
def linkLog (driver : Driver σ) (program : ProgramId) : Activity Event σ String := do
  if (← driver.ask (.parameter program .infoLogLength)) > 0 then
    driver.ask (.programLog program)
  else
    return ""

/-- Links two compiled shaders. Only the refusal of a program object is an error. -/
def link (driver : Driver σ) (vertex fragment : CompiledShader) :
    Attempt Event σ LinkedProgram := do
  let id ← ExceptT.mk (driver.ask .createProgram)
  driver.ask (.attachShader id vertex.id)
  driver.ask (.attachShader id fragment.id)
  driver.ask (.linkProgram id)
  let status ← driver.ask (.linkStatus id)
  let infoLog ← linkLog driver id
  unless vertex.status && fragment.status do
    ExceptT.lift (Event.log (.linkedUncompiled status))
  let attributes ← activeVariables driver .attributes id
  let uniforms ← activeVariables driver .uniforms id
  return { status, infoLog, attributes, uniforms, id }

end ShaderBuild
