import ShaderBuild.Event

/-!
Where a report is written to. A writer takes some of the bytes it is handed, or fails; pieces are
handed over again, without what was taken, until nothing is left.
-/

set_option autoImplicit false
set_option relaxedAutoImplicit false

namespace ShaderBuild

/-- A writer with internal state `ω`. An attempt that is merely interrupted is made again by the
writer itself and does not show here. -/
structure Writer (ω : Type) where
  /-- How many of the bytes are taken, from the front. -/
  write : Bytes → ω → Except IoError Nat × ω
  flush : ω → Except IoError Unit × ω

namespace Writer

variable {ω : Type}

/-- Hands over all bytes. To take none of some is a failure too. -/
def writeAll (writer : Writer ω) (bytes : Bytes) : Activity Event ω (Except IoError Unit) :=
  fun s ↦
    match bytes with
    | [] => ⟨.ok (), [], s⟩
    | first :: rest =>
      match writer.write (first :: rest) s with
      | (.error error, s) => ⟨.error error, [.balked error], s⟩
      | (.ok 0, s) => ⟨.error .nothingWritten, [.balked .nothingWritten], s⟩
      | (.ok (more + 1), s) =>
        let ending := writeAll writer (rest.drop more) s
        ⟨ending.value, .took (first :: rest.take more) :: ending.trail, ending.state⟩
termination_by bytes.length
decreasing_by simp only [List.length_drop, List.length_cons]; omega

/-- Hands over pieces of text, one by one, up to the first failure. -/
def writePieces (writer : Writer ω) : List String → Activity Event ω (Except IoError Unit)
  | [] => pure (.ok ())
  | piece :: rest => do
    match ← writer.writeAll (Text.encode piece) with
    | .ok () => writePieces writer rest
    | .error error => return .error error

def flushAll (writer : Writer ω) : Activity Event ω (Except IoError Unit) := fun s ↦
  let (result, s) := writer.flush s
  ⟨result, [.flushed result], s⟩

end Writer

/-! ### Sinks -/

/-- What a full sink says to a write. -/
inductive Refusal where
  | fails (error : IoError)
  | takesNothing
  deriving DecidableEq, Repr

/-- A writer that keeps what it takes. It may have room for `limit` bytes only, and its flush may
fail. -/
structure Sink where
  limit : Option Nat := none
  refusal : Refusal := .fails (.bare .other)
  flushError : Option IoError := none
  deriving DecidableEq, Repr

namespace Sink

/-- What a sink has seen: the bytes it took, last piece first, and the number of flushes. -/
structure Content where
  pieces : List Bytes := []
  flushes : Nat := 0
  deriving DecidableEq, Repr

def Content.bytes (content : Content) : Bytes := content.pieces.reverse.flatten

def Content.size (content : Content) : Nat :=
  content.pieces.foldl (fun size piece ↦ size + piece.length) 0

/-- How many of `count` bytes the sink still has room for. -/
def room (sink : Sink) (content : Content) (count : Nat) : Nat :=
  match sink.limit with
  | none => count
  | some limit => min count (limit - content.size)

/-- A non-empty write takes what there is room for, and is refused if there is none. -/
def writer (sink : Sink) : Writer Content where
  write bytes content :=
    let taken := sink.room content bytes.length
    if taken = 0 ∧ bytes ≠ [] then
      match sink.refusal with
      | .fails error => (.error error, content)
      | .takesNothing => (.ok 0, content)
    else (.ok taken, { content with pieces := bytes.take taken :: content.pieces })
  flush content :=
    let content := { content with flushes := content.flushes + 1 }
    match sink.flushError with
    | none => (.ok (), content)
    | some error => (.error error, content)

end Sink

end ShaderBuild
