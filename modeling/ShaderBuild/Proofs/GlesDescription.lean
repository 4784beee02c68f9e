import ShaderBuild.Driver.Gles
import ShaderBuild.Proofs.DescribedBuild
import ShaderBuild.Proofs.LenientDecoding
import ShaderBuild.Proofs.QueryIsolation

/-!
A GL implementation that is like a canned driver makes the driver behind it describe what the canned
one describes. Stale errors are discarded before the queries that are checked, terminators are taken
off the logs, and names and binaries come out of their buffers as they were put in.
-/

set_option autoImplicit false
set_option relaxedAutoImplicit false

namespace ShaderBuild

variable {γ : Type}

/-! ### GL that is like a canned driver -/

/-- The text is the log with any number of terminators behind it. -/
def Text.IsTerminated (log text : String) : Prop :=
  ∃ count, text = log ++ String.ofList (List.replicate count '\x00')

theorem Text.IsTerminated.dropTerminators_eq {log text : String} (h : IsTerminated log text)
    (hlog : log.toList.getLast? ≠ some '\x00') : dropTerminators text = log := by
  obtain ⟨count, rfl⟩ := h
  exact dropTerminators_append log count hlog

namespace Gl

/-- As much of the name as a buffer of `size` bytes holds before a terminator was copied. -/
structure VariableAnswer.Copies (answer : VariableAnswer) (described : ActiveVariable)
    (size : Nat) : Prop where
  length_eq : answer.length = Int32.ofNat (min described.name.utf8ByteSize (size - 1))
  size_eq : answer.size = described.size
  type_eq : answer.type = described.type
  name_prefix : (Text.encode described.name).take (size - 1) <+: answer.name

/-- The payload was copied as a whole. -/
structure BinaryAnswer.Copies (answer : BinaryAnswer) (binary : Artifact) : Prop where
  written_eq : answer.written = Int32.ofNat binary.payload.length
  format_eq : answer.format = binary.format
  payload_prefix : binary.payload <+: answer.payload

/-- Whether the call is neither a query for a variable nor for an error. -/
def Call.isQuiet : Call → Bool
  | .getError => false
  | .getActiveVariable _ _ _ _ => false
  | _ => true

/-- The implementation says of its objects what the canned driver says of its own. Only a query for
a variable that is rejected raises an error. -/
structure Likeness (gl : Implementation γ) (canned : Canned) (function : BinaryFunction) where
  queue : ErrorQueue gl
  made : γ → Made → Prop
  made_answer : ∀ call s fact, made s fact → made (gl.answer call s).2 fact
  raised_eq_nil : ∀ call s, call.isQuiet = true → queue.raised call s = []
  createShader : ∀ stage s name t, gl.answer (.createShader stage.code) s = (name, t) →
    name ≠ 0 ∧ made t (.shader ⟨name.toNat⟩ stage)
  compileShader : ∀ id stage s, made s (.shader id stage) →
    made (gl.answer (.compileShader (Gles.shaderName id)) s).2 (.compiled id stage)
  compileStatus : ∀ id stage s, made s (.compiled id stage) →
    ((gl.answer (.getShader (Gles.shaderName id) .compileStatus) s).1 == (1 : Int32)) =
      (canned.verdict stage).status
  shaderLog_pos : ∀ id stage s, made s (.compiled id stage) →
    (canned.verdict stage).infoLog ≠ "" →
    (gl.answer (.getShader (Gles.shaderName id) .infoLogLength) s).1 > 0
  shaderLog : ∀ id stage s length t, made s (.compiled id stage) →
    gl.answer (.getShader (Gles.shaderName id) .infoLogLength) s = (length, t) → length > 0 →
    Text.IsTerminated (canned.verdict stage).infoLog
      (gl.answer (.getShaderInfoLog (Gles.shaderName id) length) t).1
  createProgram : ∀ s name t, gl.answer .createProgram s = (name, t) →
    name ≠ 0 ∧ made t (.program ⟨name.toNat⟩)
  linkProgram : ∀ id s, made s (.program id) →
    made (gl.answer (.linkProgram (Gles.programName id)) s).2 (.linked id)
  linkStatus : ∀ id s, made s (.linked id) →
    ((gl.answer (.getProgram (Gles.programName id) .linkStatus) s).1 == (1 : Int32)) =
      canned.link.status
  parameter : ∀ id code s, made s (.linked id) → code ∈ Canned.parameters →
    (gl.answer (.getProgram (Gles.programName id) code) s).1 = canned.parameter code
  programLog : ∀ id s, made s (.linked id) → canned.parameter .infoLogLength > 0 →
    Text.IsTerminated canned.link.infoLog
      (gl.answer (.getProgramInfoLog (Gles.programName id) (canned.parameter .infoLogLength)) s).1
  rejected : ∀ interface id index size s, made s (.linked id) → canned.rejected = some index →
    (queue.raised (.getActiveVariable interface (Gles.programName id) index size) s).length = 1
  active : ∀ interface id index size s described, made s (.linked id) →
    canned.rejected ≠ some index → (canned.active interface)[index.toNat]? = some described →
    0 < size → size < 0x80000000 →
    queue.raised (.getActiveVariable interface (Gles.programName id) index (Int32.ofNat size)) s =
        [] ∧
      (gl.answer (.getActiveVariable interface (Gles.programName id) index (Int32.ofNat size))
        s).1.Copies described size
  binary : ∀ id s, made s (.linked id) →
    (gl.answer (.getProgramBinary function (Gles.programName id)
      (Int32.ofNat canned.binary.payload.length)) s).1.Copies canned.binary

/-! ### What comes out of a buffer -/

theorem Buffer.front_of_prefix {size : Nat} {bytes written : Bytes} (h : bytes <+: written)
    (hsize : bytes.length ≤ size) : (Buffer.mk size written).front bytes.length = bytes := by
  obtain ⟨rest, rfl⟩ := h
  have hnone : bytes.length - (bytes ++ rest).length = 0 := by
    rw [List.length_append]
    omega
  rw [front]
  simp only [Nat.min_eq_left hsize, hnone, List.take_left, List.replicate_zero, List.append_nil]

theorem believed_ofNat {count limit : Nat} (h : count ≤ limit) (hlimit : limit < 0x80000000) :
    believed (Int32.ofNat count) (Int32.ofNat limit) = count := by
  rw [believed, Int32.toInt_ofNat_of_lt (by omega), Int32.toInt_ofNat_of_lt hlimit]
  omega

/-- A name comes out of a buffer as it is read after the bytes that the buffer had room for. -/
theorem accepted_active_eq_of_copies {answer : VariableAnswer} {described : ActiveVariable}
    {maxLength : Nat} (h : answer.Copies described (nameBufferSize maxLength))
    (hlt : nameBufferSize maxLength < 0x80000000) (interface : Interface) (program index : UInt32)
    (function : BinaryFunction) :
    (Query.active interface program index maxLength).accepted function answer =
      some { described with
        name := Text.decodeLenient
          ((Text.encode described.name).take (nameBufferSize maxLength - 1)) } := by
  have hpos := nameBufferSize_pos maxLength
  have hlimit : Int32.ofNat (nameBufferSize maxLength) - 1 =
      Int32.ofNat (nameBufferSize maxLength - 1) :=
    (Int32.ofNat_sub (nameBufferSize maxLength) 1 hpos).symm
  have hcount : min described.name.utf8ByteSize (nameBufferSize maxLength - 1) =
      ((Text.encode described.name).take (nameBufferSize maxLength - 1)).length := by
    rw [List.length_take, Text.length_encode, Nat.min_comm]
  have hroom := List.length_take_le (nameBufferSize maxLength - 1) (Text.encode described.name)
  simp only [Query.accepted]
  rw [h.length_eq, hcount, hlimit, believed_ofNat hroom (by omega),
    Buffer.front_of_prefix h.name_prefix (by omega), h.size_eq, h.type_eq]

/-- A name that fits in the buffer comes out whole. -/
theorem accepted_active_of_copies {answer : VariableAnswer} {described : ActiveVariable}
    {maxLength : Nat} (h : answer.Copies described (nameBufferSize maxLength))
    (hroom : described.name.utf8ByteSize < nameBufferSize maxLength)
    (hlt : nameBufferSize maxLength < 0x80000000) (interface : Interface) (program index : UInt32)
    (function : BinaryFunction) :
    (Query.active interface program index maxLength).accepted function answer =
      some described := by
  have hwhole : (Text.encode described.name).take (nameBufferSize maxLength - 1) =
      Text.encode described.name := List.take_of_length_le (by rw [Text.length_encode]; omega)
  rw [accepted_active_eq_of_copies h hlt, hwhole, Text.decodeLenient_encode]

theorem accepted_binary_of_copies {answer : BinaryAnswer} {binary : Artifact}
    (h : answer.Copies binary) (hlt : binary.payload.length < 0x80000000) (program : UInt32)
    (function : BinaryFunction) :
    (Query.binary program binary.payload.length).accepted function answer =
      (binary.format, binary.payload) := by
  simp only [Query.accepted]
  rw [h.written_eq, believed_ofNat (Nat.le_refl _) hlt,
    Buffer.front_of_prefix h.payload_prefix (Nat.le_refl _), h.format_eq]

namespace Likeness

variable {gl : Implementation γ} {canned : Canned} {function : BinaryFunction}

/-- States in which all waiting errors can be discarded. -/
def IsSteady (likeness : Likeness gl canned function) (s : γ) : Prop :=
  (likeness.queue.pending s).length ≤ maxPending

/-- A later state in which objects are as they were. -/
abbrev Later (likeness : Likeness gl canned function) (s t : γ) : Prop :=
  Keeps likeness.IsSteady likeness.made s t

theorem later_answer (likeness : Likeness gl canned function) (call : Call) {s : γ}
    (hs : likeness.IsSteady s) (hquiet : call.isQuiet = true) :
    likeness.Later s (gl.answer call s).2 where
  steady := by
    have hcall : call ≠ .getError := by
      rintro rfl
      cases hquiet
    have hlength := likeness.queue.length_pending_answer hcall s
    rw [likeness.raised_eq_nil call s hquiet, List.length_nil, Nat.add_zero] at hlength
    rw [IsSteady, hlength]
    exact hs
  made := likeness.made_answer call s

theorem made_discardErrors (likeness : Likeness gl canned function) (count : Nat) {s : γ}
    {fact : Made} (h : likeness.made s fact) :
    likeness.made (discardErrors gl count s).state fact := by
  induction count generalizing s with
  | zero => exact h
  | succ count ih =>
    have htaken := likeness.made_answer .getError s fact h
    by_cases hcode : (gl.answer .getError s).1 = .noError
    · rw [discardErrors_of_noError count hcode]
      exact htaken
    · rw [discardErrors_of_error count hcode]
      exact ih htaken

theorem later_checked {α : Type} (likeness : Likeness gl canned function) {call : Call}
    {accepted : call.Answer → α} {rejected : α} {failed : Code → Log.Record} {s : γ}
    (hs : likeness.IsSteady s) (hcall : call ≠ .getError)
    (hraised : (likeness.queue.raised call (settled gl s)).length ≤ 1) :
    likeness.Later s (checked gl call accepted rejected failed s).state where
  steady := by
    rw [IsSteady, likeness.queue.length_pending_checked hcall hs]
    omega
  made fact hfact := by
    rw [checked_state]
    exact likeness.made_answer _ _ _ (likeness.made_answer _ _ _
      (likeness.made_discardErrors maxPending hfact))

end Likeness

end Gl

/-! ### The driver behind it -/

namespace Gles

open Gl

variable {gl : Implementation γ} {canned : Canned} {function : BinaryFunction} {context : Context}

theorem shaderName_toNat (name : UInt32) : shaderName ⟨name.toNat⟩ = name := UInt32.ofNat_toNat

theorem createShader_of_likeness (likeness : Likeness gl canned function) (stage : Stage) {s : γ}
    (hs : likeness.IsSteady s) :
    ∃ id, (createShader gl stage s).value = .ok id ∧
      likeness.Later s (createShader gl stage s).state ∧
      likeness.made (createShader gl stage s).state (.shader id stage) := by
  have hlater := likeness.later_answer (.createShader stage.code) hs rfl
  obtain ⟨hname, hmade⟩ := likeness.createShader stage s _ _ rfl
  refine ⟨⟨(gl.answer (.createShader stage.code) s).1.toNat⟩, ?_, ?_, ?_⟩
  · simp [createShader, hname]
  · simpa [createShader, hname] using hlater
  · simpa [createShader, hname] using hmade

theorem createProgram_of_likeness (likeness : Likeness gl canned function) {s : γ}
    (hs : likeness.IsSteady s) :
    ∃ id, (createProgram gl s).value = .ok id ∧
      likeness.Later s (createProgram gl s).state ∧
      likeness.made (createProgram gl s).state (.program id) := by
  have hlater := likeness.later_answer .createProgram hs rfl
  obtain ⟨hname, hmade⟩ := likeness.createProgram s _ _ rfl
  refine ⟨⟨(gl.answer .createProgram s).1.toNat⟩, ?_, ?_, ?_⟩
  · simp [createProgram, hname]
  · simpa [createProgram, hname] using hlater
  · simpa [createProgram, hname] using hmade

theorem shaderLog_of_likeness (likeness : Likeness gl canned function)
    (hregular : canned.IsRegular) {id : ShaderId} {stage : Stage} {s : γ}
    (hs : likeness.IsSteady s) (hmade : likeness.made s (.compiled id stage)) :
    (shaderLog gl (shaderName id) s).value = (canned.verdict stage).infoLog ∧
      likeness.Later s (shaderLog gl (shaderName id) s).state := by
  have hmeasured := likeness.later_answer (.getShader (shaderName id) .infoLogLength) hs rfl
  by_cases hlength : (gl.answer (.getShader (shaderName id) .infoLogLength) s).1 > 0
  · have hlog := (likeness.shaderLog id stage s _ _ hmade rfl hlength).dropTerminators_eq
      (hregular.shaderLog_unterminated stage)
    have hread := likeness.later_answer (.getShaderInfoLog (shaderName id)
      (gl.answer (.getShader (shaderName id) .infoLogLength) s).1) hmeasured.steady rfl
    refine ⟨?_, ?_⟩
    · simp [shaderLog, hlength, hlog]
    · simpa [shaderLog, hlength] using hmeasured.trans hread
  · have hlog : (canned.verdict stage).infoLog = "" :=
      Decidable.not_not.mp fun hlog ↦ hlength (likeness.shaderLog_pos id stage s hmade hlog)
    refine ⟨?_, ?_⟩
    · simp [shaderLog, hlength, hlog]
    · simpa [shaderLog, hlength] using hmeasured

theorem programLog_of_likeness (likeness : Likeness gl canned function)
    (hregular : canned.IsRegular) {id : ProgramId} {s : γ} (hs : likeness.IsSteady s)
    (hmade : likeness.made s (.linked id)) :
    (programLog gl (programName id) s).value = canned.link.infoLog ∧
      likeness.Later s (programLog gl (programName id) s).state := by
  have hmeasured := likeness.later_answer (.getProgram (programName id) .infoLogLength) hs rfl
  have hparameter := likeness.parameter id .infoLogLength s hmade (by decide)
  by_cases hlength : canned.parameter .infoLogLength > 0
  · have hlog := (likeness.programLog id _ (hmeasured.made _ hmade) hlength).dropTerminators_eq
      hregular.linkLog_unterminated
    have hread := likeness.later_answer (.getProgramInfoLog (programName id)
      (canned.parameter .infoLogLength)) hmeasured.steady rfl
    rw [← hparameter] at hlength hlog hread
    refine ⟨?_, ?_⟩
    · simp [programLog, hlength, hlog]
    · simpa [programLog, hlength] using hmeasured.trans hread
  · have hlog : canned.link.infoLog = "" := Decidable.not_not.mp fun hlog ↦
      hlength (hregular.isCountable.parameter_infoLogLength_pos_iff.mpr hlog)
    rw [← hparameter] at hlength
    refine ⟨?_, ?_⟩
    · simp [programLog, hlength, hlog]
    · simpa [programLog, hlength] using hmeasured

theorem activeVariable_of_likeness (likeness : Likeness gl canned function)
    (hregular : canned.IsRegular) {interface : Interface} {id : ProgramId} {index : Nat} {s : γ}
    (hs : likeness.IsSteady s) (hmade : likeness.made s (.linked id))
    (hindex : index < (canned.active interface).length) :
    let ending := describeVariable gl interface (programName id) (.ofNat index)
      (Canned.maxNameLength (canned.active interface)) s
    ending.value = canned.variableAt interface index ∧ likeness.Later s ending.state := by
  intro ending
  let query := Query.active interface (programName id) (.ofNat index)
    (Canned.maxNameLength (canned.active interface))
  have hchecked : ending = checked gl (query.call function) (query.accepted function)
    query.rejected query.failed s := rfl
  have hcall := query.call_ne_getError function
  have hsettled : likeness.made (settled gl s) (.linked id) :=
    likeness.made_discardErrors maxPending hmade
  have hroom := Canned.lt_maxNameLength (List.getElem_mem hindex)
  have hlt := hregular.isCountable.maxNameLength_lt interface
  have hsize : nameBufferSize (Canned.maxNameLength (canned.active interface)) =
      Canned.maxNameLength (canned.active interface) := if_neg (by omega)
  rw [hchecked]
  -- A rejected index raises one error, and a name never fills the buffer that was asked for it.
  by_cases hrejected : canned.rejected = some (.ofNat index)
  · have hraised : (likeness.queue.raised (query.call function) (settled gl s)).length = 1 :=
      likeness.rejected interface id _ _ _ hsettled hrejected
    have hne : likeness.queue.raised (query.call function) (settled gl s) ≠ [] :=
      List.ne_nil_of_length_pos (by omega)
    refine ⟨?_, likeness.later_checked hs hcall (by omega)⟩
    rw [likeness.queue.checked_value_of_raised_ne_nil hcall hne, Canned.variableAt,
      if_pos hrejected]
    rfl
  · have hlisted : (canned.active interface)[(UInt32.ofNat index).toNat]? =
        some (canned.active interface)[index] := by
      rw [hregular.isCountable.toNat_ofNat_index hindex, List.getElem?_eq_getElem hindex]
    obtain ⟨hraised, hcopies⟩ := likeness.active interface id (.ofNat index)
      (nameBufferSize (Canned.maxNameLength (canned.active interface))) _ _ hsettled hrejected
      hlisted (by omega) (by omega)
    have hquiet : likeness.queue.raised (query.call function) (settled gl s) = [] := hraised
    refine ⟨?_, likeness.later_checked hs hcall (by rw [hquiet]; exact Nat.zero_le 1)⟩
    rw [likeness.queue.checked_value_of_raised_eq_nil hcall hs hquiet, Canned.variableAt,
      if_neg hrejected, List.getElem?_eq_getElem hindex]
    exact accepted_active_of_copies hcopies (by omega) (by omega) interface (programName id)
      (.ofNat index) function

theorem fetchBinary_of_likeness (likeness : Likeness gl canned function)
    (hregular : canned.IsRegular) {functions : Functions}
    (hfunction : functions.binary = some function) {id : ProgramId} {s : γ}
    (hs : likeness.IsSteady s) (hmade : likeness.made s (.linked id)) :
    let ending := fetchBinary gl functions (programName id) canned.binary.payload.length s
    ending.value = (canned.binary.format, canned.binary.payload) ∧
      likeness.Later s ending.state := by
  intro ending
  let query := Query.binary (programName id) canned.binary.payload.length
  have hchecked : ending = checked gl (query.call function) (query.accepted function)
    query.rejected query.failed s := congrFun (query.make_eq_checked gl hfunction) s
  have hcall := query.call_ne_getError function
  have hsettled : likeness.made (settled gl s) (.linked id) :=
    likeness.made_discardErrors maxPending hmade
  have hlt := hregular.binary_lt
  have hquiet : likeness.queue.raised (query.call function) (settled gl s) = [] :=
    likeness.raised_eq_nil _ _ rfl
  rw [hchecked]
  refine ⟨?_, likeness.later_checked hs hcall (by rw [hquiet]; exact Nat.zero_le 1)⟩
  rw [likeness.queue.checked_value_of_raised_eq_nil hcall hs hquiet]
  exact accepted_binary_of_copies (likeness.binary id _ hsettled) (by omega) (programName id)
    function

/-- The driver behind such an implementation describes what the canned driver describes. -/
def description (likeness : Likeness gl canned function) (hregular : canned.IsRegular)
    (hfunction : context.functions.binary = some function) :
    (driver gl context).Description canned where
  steady := likeness.IsSteady
  made := likeness.made
  createShader stage s hs := createShader_of_likeness likeness stage hs
  compileShader id stage source s hs hmade := by
    have hsubmitted := likeness.later_answer (.shaderSource (shaderName id) source) hs rfl
    have hcompiled := likeness.later_answer (.compileShader (shaderName id)) hsubmitted.steady rfl
    exact ⟨hsubmitted.trans hcompiled, likeness.compileShader id stage _ (hsubmitted.made _ hmade)⟩
  compileStatus id stage s hs hmade :=
    ⟨likeness.compileStatus id stage s hmade,
      likeness.later_answer (.getShader (shaderName id) .compileStatus) hs rfl⟩
  shaderLog id stage s hs hmade := shaderLog_of_likeness likeness hregular hs hmade
  createProgram s hs := createProgram_of_likeness likeness hs
  attachShader id shader s hs :=
    likeness.later_answer (.attachShader (programName id) (shaderName shader)) hs rfl
  linkProgram id s hs hmade :=
    ⟨likeness.later_answer (.linkProgram (programName id)) hs rfl,
      likeness.linkProgram id s hmade⟩
  linkStatus id s hs hmade :=
    ⟨likeness.linkStatus id s hmade,
      likeness.later_answer (.getProgram (programName id) .linkStatus) hs rfl⟩
  parameter id code s hs hmade hcode :=
    ⟨likeness.parameter id code s hmade hcode,
      likeness.later_answer (.getProgram (programName id) code) hs rfl⟩
  programLog id s hs hmade := programLog_of_likeness likeness hregular hs hmade
  activeVariable interface id index maxLength s hs hmade hindex hlongest := by
    subst hlongest
    exact activeVariable_of_likeness likeness hregular hs hmade hindex
  binary id length s hs hmade hlength := by
    subst hlength
    obtain ⟨hvalue, hlater⟩ := fetchBinary_of_likeness likeness hregular hfunction hs hmade
    refine ⟨?_, hlater⟩
    simp [driver, answer, hvalue]

end Gles

end ShaderBuild
