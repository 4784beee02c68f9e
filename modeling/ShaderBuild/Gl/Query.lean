import ShaderBuild.Deed
import ShaderBuild.Gl.Buffer

/-!
Queries made straight through GL functions. GL keeps errors until somebody asks for them, so each
query first discards what earlier calls left behind, and afterwards asks whether it failed itself.
A context that is lost reports an error for ever; discarding gives up after `maxPending` errors.
-/

set_option autoImplicit false
set_option relaxedAutoImplicit false

namespace ShaderBuild.Gl

variable {γ : Type}

/-- The functions that were found. Only the one for program binaries may be absent. -/
structure Functions where
  binary : Option BinaryFunction
  deriving DecidableEq, Repr

/-- The functions that may fetch binaries in a context of that version, best first. Below version
3 the core function is not asked for: a platform may hand out a stub for it. -/
def binaryFunctions (major : Nat) : List BinaryFunction :=
  if major ≥ 3 then [.core, .oes] else [.oes]

/-- The functions without which nothing works. -/
def requiredFunctions : List String := ["glGetError", "glGetActiveAttrib", "glGetActiveUniform"]

namespace Functions

/-- Looks for the required functions, up to the first that is missing. -/
def require (gl : Implementation γ) : List String → Attempt Deed γ Unit
  | [] => pure ()
  | name :: rest => do
    if ← gl.ask (.findFunction name) then
      require gl rest
    else
      throw (.context (.missingFunction name) none)

/-- The first function there is. -/
def firstFound (gl : Implementation γ) :
    List BinaryFunction → Activity Deed γ (Option BinaryFunction)
  | [] => do
    Deed.log .noBinaryFunction
    return none
  | function :: rest => do
    if ← gl.ask (.findFunction function.name) then
      Deed.log (.binariesThrough function.name)
      return some function
    else
      firstFound gl rest

/-- Finds the functions for a context of version `major`. -/
def find (gl : Implementation γ) (major : Nat) : Attempt Deed γ Functions := do
  require gl requiredFunctions
  return { binary := ← firstFound gl (binaryFunctions major) }

end Functions

/-- The number of errors that are discarded before a query is made all the same. -/
def maxPending : Nat := 32

/-- Discards errors until there are none, but at most `count`. -/
def discardErrors (gl : Implementation γ) : (count : Nat) → Activity Deed γ Unit
  | 0 => pure ()
  | count + 1 => do
    let code ← gl.ask .getError
    if code = .noError then
      pure ()
    else
      Deed.log (.errorDiscarded code)
      discardErrors gl count

/-- Describes the active variable at `index`, or nothing if GL flags the query. -/
def describeVariable (gl : Implementation γ) (interface : Interface) (program index : UInt32)
    (maxLength : Nat) : Activity Deed γ (Option ActiveVariable) := do
  let size := nameBufferSize maxLength
  let passed := Int32.ofNat size
  discardErrors gl maxPending
  let answer ← gl.ask (.getActiveVariable interface program index passed)
  let code ← gl.ask .getError
  if code = .noError then
    let name := (Buffer.mk size answer.name).front (believed answer.length (passed - 1))
    return some { name := Text.decodeLenient name, size := answer.size, type := answer.type }
  else
    Deed.log (.variableFailed index code)
    return none

/-- Fetches a program binary into a buffer of `length` bytes, with its format. Without a function
for it, or if GL flags the query, the payload is empty and the format zero. -/
def fetchBinary (gl : Implementation γ) (functions : Functions) (program : UInt32)
    (length : Nat) : Activity Deed γ (Code × Bytes) :=
  match functions.binary with
  | none => do
    Deed.log .emptyPayload
    return (0, [])
  | some function => do
    let passed := Int32.ofNat length
    discardErrors gl maxPending
    let answer ← gl.ask (.getProgramBinary function program passed)
    let code ← gl.ask .getError
    if code = .noError then
      return (answer.format,
        (Buffer.mk length answer.payload).front (believed answer.written passed))
    else
      Deed.log (.binaryFailed code)
      return (0, [])

end ShaderBuild.Gl
