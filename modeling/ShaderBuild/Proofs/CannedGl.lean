import ShaderBuild.Driver.Canned
import ShaderBuild.Proofs.ErrorQueue

/-!
A GL implementation that describes what a canned driver describes. It numbers its objects so that
the name of a shader tells its stage, writes names and binaries into the buffers it is handed, and
raises an error for a variable that is rejected or not there. Errors wait in the order in which they
were raised.
-/

set_option autoImplicit false
set_option relaxedAutoImplicit false

namespace ShaderBuild

/-- The errors that wait, and the number of objects created. -/
structure CannedGl where
  pending : List Gl.Code
  noError_not_mem : Gl.Code.noError ∉ pending
  objects : Nat := 0

namespace CannedGl

/-- The state with one error less. -/
def withoutFirst (s : CannedGl) : CannedGl where
  pending := s.pending.tail
  noError_not_mem hmem := s.noError_not_mem (List.mem_of_mem_tail hmem)
  objects := s.objects

/-- The state with one error more. -/
def flagged (s : CannedGl) : CannedGl where
  pending := s.pending ++ [Gl.Code.invalidValue]
  noError_not_mem := by
    rw [List.mem_append, List.mem_singleton, not_or]
    exact ⟨s.noError_not_mem, by decide⟩
  objects := s.objects

/-- The state with one object more. -/
def withObject (s : CannedGl) : CannedGl := { s with objects := s.objects + 1 }

/-- The name of a new shader object. -/
def shaderName (s : CannedGl) (kind : Gl.Code) : UInt32 :=
  UInt32.ofNat (4 * s.objects + if kind = Gl.Code.fragmentShader then 2 else 1)

/-- The stage of a shader object, by its name. -/
def stageOf (shader : UInt32) : Stage := if shader.toNat % 4 = 2 then .fragment else .vertex

def status (good : Bool) : Int32 := if good then 1 else 0

/-- The length of a log with its terminator; zero if there is no log. -/
def logLength (infoLog : String) : Int32 :=
  if infoLog.isEmpty then 0 else Int32.ofNat (infoLog.utf8ByteSize + 1)

def shaderParameter (verdict : Verdict) (parameter : Gl.Code) : Int32 :=
  if parameter = Gl.Code.compileStatus then status verdict.status
  else logLength verdict.infoLog

def programParameter (canned : Canned) (parameter : Gl.Code) : Int32 :=
  if parameter = Gl.Code.linkStatus then status canned.link.status
  else canned.parameter parameter

/-- The variable at an index, unless it is rejected. -/
def active? (canned : Canned) (interface : Interface) (index : UInt32) : Option ActiveVariable :=
  if canned.rejected = some index then none else (canned.active interface)[index.toNat]?

/-- The variable in a name buffer of `size` bytes, with a terminator behind its name. -/
def describe (described : ActiveVariable) (size : Int32) : Gl.VariableAnswer :=
  let name := (Text.encode described.name).take (size.toNatClampNeg - 1)
  { length := Int32.ofNat name.length
    size := described.size
    type := described.type
    name := name ++ [0] }

def fetch (binary : Artifact) (size : Int32) : Gl.BinaryAnswer :=
  let payload := binary.payload.take size.toNatClampNeg
  { written := Int32.ofNat payload.length, format := binary.format, payload }

def answer (canned : Canned) : (call : Gl.Call) → CannedGl → call.Answer × CannedGl
  | .findFunction _, s => (true, s)
  | .getError, s => (s.pending.headD .noError, s.withoutFirst)
  | .getString _, s => ("", s)
  | .getExtensions, s => ([], s)
  | .getInteger _, s => (1, s)
  | .createShader kind, s => (s.shaderName kind, s.withObject)
  | .shaderSource _ _, s => ((), s)
  | .compileShader _, s => ((), s)
  | .getShader shader parameter, s =>
    (shaderParameter (canned.verdict (stageOf shader)) parameter, s)
  | .getShaderInfoLog shader _, s => ((canned.verdict (stageOf shader)).infoLog ++ "\x00", s)
  | .createProgram, s => (UInt32.ofNat (4 * s.objects + 3), s.withObject)
  | .attachShader _ _, s => ((), s)
  | .linkProgram _, s => ((), s)
  | .getProgram _ parameter, s => (programParameter canned parameter, s)
  | .getProgramInfoLog _ _, s => (canned.link.infoLog ++ "\x00", s)
  | .getActiveVariable interface _ index size, s =>
    match active? canned interface index with
    | some described => (describe described size, s)
    | none => ({}, s.flagged)
  | .getProgramBinary _ _ size, s => (fetch canned.binary size, s)

def implementation (canned : Canned) : Gl.Implementation CannedGl where
  answer := answer canned

/-- The errors that a call makes wait. -/
def raised (canned : Canned) : Gl.Call → List Gl.Code
  | .getActiveVariable interface _ index _ =>
    if (active? canned interface index).isSome then [] else [Gl.Code.invalidValue]
  | _ => []

theorem pending_answer (canned : Canned) (call : Gl.Call) (s : CannedGl)
    (hcall : call ≠ .getError) :
    (answer canned call s).2.pending = s.pending ++ raised canned call := by
  cases call with
  | getError => exact absurd rfl hcall
  | getActiveVariable interface program index size =>
    cases hactive : active? canned interface index <;> simp [answer, raised, hactive, flagged]
  | _ => exact (List.append_nil _).symm

/-- Errors are handed out in the order in which they were raised. -/
def errorQueue (canned : Canned) : Gl.ErrorQueue (implementation canned) where
  pending := CannedGl.pending
  raised call _ := raised canned call
  noError_not_mem := CannedGl.noError_not_mem
  getError_of_nil s hnil := by
    simp [implementation, answer, withoutFirst, hnil]
  getError_of_ne_nil s hpending := by
    obtain ⟨code, rest, hcodes⟩ := List.exists_cons_of_ne_nil hpending
    simp [implementation, answer, withoutFirst, hcodes]
  answer_perm call s hcall := by
    rw [← pending_answer canned call s hcall]
    exact .refl _

end CannedGl

end ShaderBuild
