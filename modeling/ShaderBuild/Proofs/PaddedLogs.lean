import ShaderBuild.Proofs.AlikeBuilds
import ShaderBuild.Proofs.HandedLogs

/-!
Logs with terminators. Two GL implementations may differ in nothing but the NULs behind the logs
that they hand back, and in the lengths that go with them. A log that is only NULs may then be read
behind one of them and be skipped behind the other. Whatever is done on a workbench, it comes to the
same behind both: to the same units and summaries, the same report and the same files
(`padded_logs_invisible`). NULs that are put behind the logs of an implementation are a case of this
(`Gl.Padding.Fits.padsLogs`).
-/

set_option autoImplicit false
set_option relaxedAutoImplicit false

namespace ShaderBuild

variable {γ γ' ω φ α β : Type}

/-! ### Padded logs -/

/-- Nothing of what is done with GL is compared, but the values and the states. -/
abbrev AnswersAlike (alike : γ → γ' → Prop) (m : Activity Deed γ α) (m' : Activity Deed γ' α) :
    Prop :=
  ComeAlike (fun _ ↦ ([] : List Deed)) alike m m'

theorem answersAlike_of {alike : γ → γ' → Prop} {m : Activity Deed γ α} {m' : Activity Deed γ' α}
    (h : ∀ s t, alike s t → (m' t).value = (m s).value ∧ alike (m s).state (m' t).state) :
    AnswersAlike alike m m' := by
  have hnone : ∀ trail : List Deed, trail.flatMap (fun _ ↦ ([] : List Deed)) = [] :=
    fun trail ↦ List.flatMap_eq_nil_iff.mpr fun _ _ ↦ rfl
  exact fun s t hstates ↦ ⟨(h s t hstates).1, by rw [hnone, hnone], (h s t hstates).2⟩

/-- Whether the call is for a log or for its length. -/
def Gl.Call.isForLog : Gl.Call → Bool
  | .getShader _ parameter => decide (parameter = .infoLogLength)
  | .getShaderInfoLog _ _ => true
  | .getProgram _ parameter => decide (parameter = .infoLogLength)
  | .getProgramInfoLog _ _ => true
  | _ => false

/-- In states that are alike, both implementations answer alike, but any number of NULs may stand
behind the logs that the second one hands back, and the lengths of logs may differ. -/
structure Gl.PadsLogs (gl : Implementation γ) (gl' : Implementation γ') (alike : γ → γ' → Prop) :
    Prop where
  answer : ∀ call s t, call.isForLog = false → alike s t →
    (gl'.answer call t).1 = (gl.answer call s).1 ∧
      alike (gl.answer call s).2 (gl'.answer call t).2
  shaderLog : ∀ shader s t, alike s t →
    Text.IsTerminated (shaderInfoLog gl shader s).value (shaderInfoLog gl' shader t).value ∧
      alike (shaderInfoLog gl shader s).state (shaderInfoLog gl' shader t).state
  /-- To ask for the length of the log of a program leaves both as they were. -/
  measured : ∀ program s t, alike s t →
    alike (gl.answer (.getProgram program .infoLogLength) s).2
      (gl'.answer (.getProgram program .infoLogLength) t).2
  programLog : ∀ program s t, alike s t →
    Text.IsTerminated (programInfoLog gl program s).value (programInfoLog gl' program t).value
  /-- To read the log of a program leaves either of them as it was. -/
  read : ∀ program s t, alike s t → alike (programInfoLog gl program s).state t
  read' : ∀ program s t, alike s t → alike s (programInfoLog gl' program t).state
  measures : MeasuresLogs gl
  measures' : MeasuresLogs gl'

namespace Gl.PadsLogs

variable {gl : Implementation γ} {gl' : Implementation γ'} {alike : γ → γ' → Prop}

theorem ask_alike (h : PadsLogs gl gl' alike) {call : Call} (hcall : call.isForLog = false) :
    AnswersAlike alike (gl.ask call) (gl'.ask call) := by
  intro s t hstates
  obtain ⟨hanswer, hlater⟩ := h.answer call s t hcall hstates
  exact ⟨hanswer, rfl, hlater⟩

theorem discardErrors_alike (h : PadsLogs gl gl' alike) (count : Nat) :
    AnswersAlike alike (discardErrors gl count) (discardErrors gl' count) := by
  induction count with
  | zero => exact comeAlike_pure ()
  | succ count ih =>
    refine comeAlike_bind (h.ask_alike rfl) fun (code : Code) ↦ ?_
    show AnswersAlike alike (if code = .noError then _ else _) (if code = .noError then _ else _)
    split_ifs
    · exact comeAlike_pure ()
    · exact comeAlike_bind (comeAlike_emit _) fun _ ↦ ih

theorem describeVariable_alike (h : PadsLogs gl gl' alike) (interface : Interface)
    (program index : UInt32) (maxLength : Nat) :
    AnswersAlike alike (describeVariable gl interface program index maxLength)
      (describeVariable gl' interface program index maxLength) := by
  refine comeAlike_bind (h.discardErrors_alike maxPending) fun _ ↦ ?_
  refine comeAlike_bind (h.ask_alike rfl) fun answer ↦ ?_
  refine comeAlike_bind (h.ask_alike rfl) fun (code : Code) ↦ ?_
  show AnswersAlike alike (if code = .noError then _ else _) (if code = .noError then _ else _)
  split_ifs
  · exact comeAlike_pure _
  · exact comeAlike_bind (comeAlike_emit _) fun _ ↦ comeAlike_pure _

theorem fetchBinary_alike (h : PadsLogs gl gl' alike) (functions : Functions) (program : UInt32)
    (length : Nat) :
    AnswersAlike alike (fetchBinary gl functions program length)
      (fetchBinary gl' functions program length) := by
  unfold fetchBinary
  cases functions.binary with
  | none => exact comeAlike_bind (comeAlike_emit _) fun _ ↦ comeAlike_pure _
  | some function =>
    refine comeAlike_bind (h.discardErrors_alike maxPending) fun _ ↦ ?_
    refine comeAlike_bind (h.ask_alike rfl) fun answer ↦ ?_
    refine comeAlike_bind (h.ask_alike rfl) fun (code : Code) ↦ ?_
    show AnswersAlike alike (if code = .noError then _ else _) (if code = .noError then _ else _)
    split_ifs
    · exact comeAlike_pure _
    · exact comeAlike_bind (comeAlike_emit _) fun _ ↦ comeAlike_pure _

end Gl.PadsLogs

/-! ### Drivers of a context -/

/-- Whether the call is for the log of a program or for its length. -/
def Call.isForProgramLog : Call → Bool
  | .parameter _ code => decide (code = .infoLogLength)
  | .programLog _ => true
  | _ => false

namespace Gles

variable {gl : Gl.Implementation γ} {gl' : Gl.Implementation γ'} {alike : γ → γ' → Prop}
  {context : Context}

theorem shaderLog_alike (h : Gl.PadsLogs gl gl' alike) (shader : UInt32) :
    AnswersAlike alike (shaderLog gl shader) (shaderLog gl' shader) := by
  refine answersAlike_of fun s t hstates ↦ ?_
  obtain ⟨hpadded, hlater⟩ := h.shaderLog shader s t hstates
  rw [shaderLog_eq, shaderLog_eq, Activity.map_apply, Activity.map_apply]
  exact ⟨hpadded.dropTerminators_eq_dropTerminators, hlater⟩

theorem answer_alike (h : Gl.PadsLogs gl gl' alike) {call : Call}
    (hcall : call.isForProgramLog = false) :
    AnswersAlike alike (answer gl context call) (answer gl' context call) := by
  cases call with
  | createShader stage =>
    refine comeAlike_bind (h.ask_alike rfl) fun (shader : UInt32) ↦ ?_
    show AnswersAlike alike (if shader = 0 then _ else _) (if shader = 0 then _ else _)
    split_ifs <;> exact comeAlike_pure _
  | compileShader shader source =>
    exact comeAlike_bind (h.ask_alike rfl) fun _ ↦ h.ask_alike rfl
  | compileStatus shader => exact comeAlike_bind (h.ask_alike rfl) fun _ ↦ comeAlike_pure _
  | shaderLog shader => exact shaderLog_alike h (shaderName shader)
  | createProgram =>
    refine comeAlike_bind (h.ask_alike rfl) fun (program : UInt32) ↦ ?_
    show AnswersAlike alike (if program = 0 then _ else _) (if program = 0 then _ else _)
    split_ifs <;> exact comeAlike_pure _
  | attachShader program shader => exact h.ask_alike rfl
  | linkProgram program => exact h.ask_alike rfl
  | linkStatus program => exact comeAlike_bind (h.ask_alike rfl) fun _ ↦ comeAlike_pure _
  | parameter program code => exact h.ask_alike hcall
  | programLog program => cases hcall
  | activeVariable interface program index maxLength =>
    exact h.describeVariable_alike interface (programName program) index maxLength
  | binary program length =>
    exact comeAlike_bind (h.fetchBinary_alike context.functions (programName program) length)
      fun _ ↦ comeAlike_pure _

theorem doAlike_ask (h : Gl.PadsLogs gl gl' alike) {call : Call}
    (hcall : call.isForProgramLog = false) :
    DoAlike alike ((driver gl context).ask call) ((driver gl' context).ask call) := by
  intro s t hstates
  obtain ⟨hvalue, -, hlater⟩ := @answer_alike _ _ gl gl' alike context h call hcall s t hstates
  exact ⟨hvalue, rfl, hlater⟩

theorem doAlike_run_ask_bind (h : Gl.PadsLogs gl gl' alike) {call : Call}
    {next : call.Answer → Attempt Event γ β} {next' : call.Answer → Attempt Event γ' β}
    (hcall : call.isForProgramLog = false)
    (hnext : ∀ answer, DoAlike alike (next answer).run (next' answer).run) :
    DoAlike alike (ExceptT.lift ((driver gl context).ask call) >>= next).run
      (ExceptT.lift ((driver gl' context).ask call) >>= next').run :=
  comeAlike_run_bind (comeAlike_run_lift (doAlike_ask h hcall)) hnext

/-! ### The two ways to an empty log -/

/-- Whether or not the log of a program is read, what comes of it is the log that GL would hand
back, less terminators. -/
theorem linkLog_eq (program : ProgramId) (s : γ)
    (hunmeasured : (gl.answer (.getProgram (programName program) .infoLogLength) s).1 ≤ 0 →
      (Gl.programInfoLog gl (programName program)
        (gl.answer (.getProgram (programName program) .infoLogLength) s).2).value = "") :
    let measured := (gl.answer (.getProgram (programName program) .infoLogLength) s).2
    let ending := linkLog (driver gl context) program s
    ending.value =
        Text.dropTerminators (Gl.programInfoLog gl (programName program) measured).value ∧
      ending.trail.flatMap Event.undriven = [] ∧
      (ending.state = measured ∨
        ending.state = (Gl.programInfoLog gl (programName program) measured).state) := by
  intro measured ending
  by_cases hlength : (gl.answer (.getProgram (programName program) .infoLogLength) s).1 > 0
  · refine ⟨?_, ?_, .inr ?_⟩ <;>
      simp [ending, measured, linkLog, driver, answer, Gl.Implementation.ask, hlength,
        programLog_eq, Event.undriven]
  · have hnone := hunmeasured (Int32.not_lt.mp hlength)
    refine ⟨?_, ?_, .inl ?_⟩
    · simp only [measured, hnone, Text.dropTerminators_empty]
      simp [ending, linkLog, driver, answer, Gl.Implementation.ask, hlength]
    · simp [ending, linkLog, driver, answer, Gl.Implementation.ask, hlength, Event.undriven]
    · simp [ending, measured, linkLog, driver, answer, Gl.Implementation.ask, hlength]

theorem doAlike_linkLog (h : Gl.PadsLogs gl gl' alike) (program : ProgramId) :
    DoAlike alike (linkLog (driver gl context) program) (linkLog (driver gl' context) program) := by
  intro s t hstates
  obtain ⟨hvalue, htrail, hlater⟩ :=
    @linkLog_eq _ gl context program s (h.measures (programName program) s)
  obtain ⟨hvalue', htrail', hlater'⟩ :=
    @linkLog_eq _ gl' context program t (h.measures' (programName program) t)
  have hmeasured := h.measured (programName program) s t hstates
  have hpadded := h.programLog (programName program) _ _ hmeasured
  refine ⟨?_, by rw [htrail, htrail'], ?_⟩
  · rw [hvalue, hvalue', hpadded.dropTerminators_eq_dropTerminators]
  -- One of the two may have read the log that the other one skipped.
  · rcases hlater with hlater | hlater <;> rcases hlater' with hlater' | hlater' <;>
      rw [hlater, hlater']
    · exact hmeasured
    · exact h.read' _ _ _ hmeasured
    · exact h.read _ _ _ hmeasured
    · exact h.read _ _ _ (h.read' _ _ _ hmeasured)

/-! ### Stages of a build -/

theorem doAlike_compile (h : Gl.PadsLogs gl gl' alike) (stage : Stage) (source : String) :
    DoAlike alike (compile (driver gl context) stage source).run
      (compile (driver gl' context) stage source).run := by
  unfold compile
  refine doAlike_run_when_log_bind ?_
  have hcreate : DoAlike alike ((driver gl context).ask (.createShader stage))
      ((driver gl' context).ask (.createShader stage)) := doAlike_ask h rfl
  refine comeAlike_run_bind hcreate fun id ↦ ?_
  refine doAlike_run_ask_bind h rfl fun _ ↦ ?_
  refine doAlike_run_ask_bind h rfl fun status ↦ ?_
  refine doAlike_run_ask_bind h rfl fun infoLog ↦ ?_
  exact comeAlike_run_bind (comeAlike_run_lift (doAlike_log _)) fun _ ↦ comeAlike_run_pure _

theorem doAlike_describeFrom (h : Gl.PadsLogs gl gl' alike) (interface : Interface)
    (program : ProgramId) (maxLength index count : Nat) :
    DoAlike alike (describeFrom (driver gl context) interface program maxLength index count)
      (describeFrom (driver gl' context) interface program maxLength index count) := by
  induction count generalizing index with
  | zero => exact comeAlike_pure []
  | succ count ih =>
    refine comeAlike_bind (doAlike_ask h rfl) fun answer ↦ ?_
    cases answer with
    | some described => exact comeAlike_bind (ih (index + 1)) fun rest ↦ comeAlike_pure _
    | none => exact comeAlike_bind (doAlike_log _) fun _ ↦ ih (index + 1)

theorem doAlike_activeVariables (h : Gl.PadsLogs gl gl' alike) (interface : Interface)
    (program : ProgramId) :
    DoAlike alike (activeVariables (driver gl context) interface program)
      (activeVariables (driver gl' context) interface program) := by
  have hcount : (Call.parameter program interface.countParameter).isForProgramLog = false := by
    cases interface <;> rfl
  have hlongest :
      (Call.parameter program interface.maxLengthParameter).isForProgramLog = false := by
    cases interface <;> rfl
  refine comeAlike_bind (doAlike_ask h hcount) fun (count : Int32) ↦ ?_
  show DoAlike alike (if count ≤ 0 then _ else _) (if count ≤ 0 then _ else _)
  split_ifs
  · exact comeAlike_pure []
  · refine comeAlike_bind (doAlike_ask h hlongest) fun longest ↦ ?_
    exact doAlike_describeFrom h interface program _ 0 _

theorem doAlike_link (h : Gl.PadsLogs gl gl' alike) (vertex fragment : CompiledShader) :
    DoAlike alike (link (driver gl context) vertex fragment).run
      (link (driver gl' context) vertex fragment).run := by
  unfold link
  have hcreate : DoAlike alike ((driver gl context).ask .createProgram)
      ((driver gl' context).ask .createProgram) := doAlike_ask h rfl
  refine comeAlike_run_bind hcreate fun program ↦ ?_
  refine doAlike_run_ask_bind h rfl fun _ ↦ ?_
  refine doAlike_run_ask_bind h rfl fun _ ↦ ?_
  refine doAlike_run_ask_bind h rfl fun _ ↦ ?_
  refine doAlike_run_ask_bind h rfl fun status ↦ ?_
  refine comeAlike_run_bind (comeAlike_run_lift (doAlike_linkLog h program)) fun infoLog ↦ ?_
  refine doAlike_run_unless_log_bind ?_
  refine comeAlike_run_bind (comeAlike_run_lift (doAlike_activeVariables h .attributes program))
    fun attributes ↦ ?_
  refine comeAlike_run_bind (comeAlike_run_lift (doAlike_activeVariables h .uniforms program))
    fun uniforms ↦ ?_
  exact comeAlike_run_pure _

theorem doAlike_extract (h : Gl.PadsLogs gl gl' alike) (program : LinkedProgram) :
    DoAlike alike (extract (driver gl context) program) (extract (driver gl' context) program) := by
  unfold extract
  refine doAlike_unless_log_bind ?_
  refine comeAlike_bind (doAlike_ask h rfl) fun length ↦ ?_
  refine comeAlike_bind (doAlike_ask h rfl) fun artifact ↦ ?_
  exact comeAlike_bind (doAlike_log _) fun _ ↦ comeAlike_pure _

theorem buildAlike (h : Gl.PadsLogs gl gl' alike) (context : Context) :
    BuildAlike alike (driver gl context) (driver gl' context) where
  compile := doAlike_compile h
  link := doAlike_link h
  extract := doAlike_extract h

end Gles

/-! ### NULs behind every log -/

namespace Gl

/-- How many NULs more stand behind the log of each object. -/
structure Padding where
  shader : UInt32 → Nat
  program : UInt32 → Nat

namespace Padding

def nuls (count : Nat) : String := String.ofList (List.replicate count '\x00')

def padLength (count : Nat) (parameter : Code) (value : Int32) : Int32 :=
  if parameter = .infoLogLength then value + Int32.ofNat count else value

/-- Reads into `size` bytes what `read` reads, and NULs behind it. -/
def readPadded (count : Nat) (read : Int32 → Activity Deed γ String) (size : Int32) (s : γ) :
    String × γ :=
  let own := readAt read (size - Int32.ofNat count) s
  (own.value ++ nuls count, own.state)

/-- The implementation with NULs behind its logs. The lengths of the logs count them. -/
def onto (padding : Padding) (gl : Implementation γ) : Implementation γ where
  answer
    | .getShader shader parameter, s =>
      let (value, t) := gl.answer (.getShader shader parameter) s
      (padLength (padding.shader shader) parameter value, t)
    | .getShaderInfoLog shader size, s =>
      readPadded (padding.shader shader) (fun own ↦ gl.ask (.getShaderInfoLog shader own)) size s
    | .getProgram program parameter, s =>
      let (value, t) := gl.answer (.getProgram program parameter) s
      (padLength (padding.program program) parameter value, t)
    | .getProgramInfoLog program size, s =>
      readPadded (padding.program program) (fun own ↦ gl.ask (.getProgramInfoLog program own)) size
        s
    | call, s => gl.answer call s

/-- No length is negative or too large to count the NULs too, and neither asking for the length of
the log of a program nor reading it changes anything. -/
structure Fits (padding : Padding) (gl : Implementation γ) : Prop where
  shaderLength : ∀ shader s,
    let length := (gl.answer (.getShader shader .infoLogLength) s).1.toInt
    0 ≤ length ∧ length + padding.shader shader < 0x80000000
  programLength : ∀ program s,
    let length := (gl.answer (.getProgram program .infoLogLength) s).1.toInt
    0 ≤ length ∧ length + padding.program program < 0x80000000
  measured : ∀ program s, (gl.answer (.getProgram program .infoLogLength) s).2 = s
  read : ∀ program size s, (gl.answer (.getProgramInfoLog program size) s).2 = s

theorem toInt_add_ofNat {length : Int32} {count : Nat} (hnonneg : 0 ≤ length.toInt)
    (hlt : length.toInt + count < 0x80000000) :
    (length + Int32.ofNat count).toInt = length.toInt + count := by
  rw [Int32.toInt_add, Int32.toInt_ofNat_of_lt (by omega), Int.bmod_eq_of_le (by omega) (by omega)]

/-- At the length that counts the NULs, the log is read with the NULs behind it. -/
theorem readAt_readPadded {read read' : Int32 → Activity Deed γ String} {length : Int32}
    {count : Nat} (hnonneg : 0 ≤ length.toInt) (hlt : length.toInt + count < 0x80000000) (s : γ)
    (hread : ∀ size, ((read' size s).value, (read' size s).state) = readPadded count read size s) :
    (readAt read' (length + Int32.ofNat count) s).value =
        (readAt read length s).value ++ nuls count ∧
      (readAt read' (length + Int32.ofNat count) s).state = (readAt read length s).state := by
  have hsum := toInt_add_ofNat hnonneg hlt
  by_cases hpos : length + Int32.ofNat count > 0
  · have hpair := hread (length + Int32.ofNat count)
    rw [readPadded, Int32.add_sub_cancel] at hpair
    rw [readAt, if_pos hpos]
    exact Prod.ext_iff.mp hpair
  · have hnone : length.toInt + count ≤ 0 := by
      rw [← hsum]
      exact Int32.le_iff_toInt_le.mp (Int32.not_lt.mp hpos)
    have hcount : count = 0 := by omega
    have hlength : ¬ length > 0 := by
      rw [gt_iff_lt, Int32.lt_iff_toInt_lt, Int32.toInt_zero]
      omega
    rw [readAt, if_neg hpos, readAt, if_neg hlength, hcount]
    exact ⟨rfl, rfl⟩

variable {padding : Padding} {gl : Implementation γ}

theorem shaderInfoLog_onto (h : padding.Fits gl) (shader : UInt32) (s : γ) :
    (shaderInfoLog (padding.onto gl) shader s).value =
        (shaderInfoLog gl shader s).value ++ nuls (padding.shader shader) ∧
      (shaderInfoLog (padding.onto gl) shader s).state = (shaderInfoLog gl shader s).state := by
  obtain ⟨hnonneg, hlt⟩ := h.shaderLength shader s
  exact readAt_readPadded hnonneg hlt _ fun _ ↦ rfl

theorem programInfoLog_onto (h : padding.Fits gl) (program : UInt32) (s : γ) :
    (programInfoLog (padding.onto gl) program s).value =
        (programInfoLog gl program s).value ++ nuls (padding.program program) ∧
      (programInfoLog (padding.onto gl) program s).state = (programInfoLog gl program s).state := by
  obtain ⟨hnonneg, hlt⟩ := h.programLength program s
  exact readAt_readPadded hnonneg hlt _ fun _ ↦ rfl

theorem state_programInfoLog (h : padding.Fits gl) (program : UInt32) (s : γ) :
    (programInfoLog gl program s).state = s := by
  by_cases hlength : (gl.answer (.getProgram program .infoLogLength) s).1 > 0 <;>
    simp [programInfoLog, readAt, hlength, h.measured, h.read]

theorem measuresLogs (h : ∀ program s, (gl.answer (.getProgram program .infoLogLength) s).2 = s) :
    MeasuresLogs gl := by
  intro program s hlength
  simp [programInfoLog, readAt, h, Int32.not_lt.mpr hlength]

/-- Whatever log stands before them, NULs behind the logs are as `PadsLogs` has them. -/
theorem Fits.padsLogs (h : padding.Fits gl) : PadsLogs gl (padding.onto gl) Eq where
  answer call s t hcall hstates := by
    subst hstates
    cases call with
    | getShader shader parameter =>
      have hparameter : parameter ≠ .infoLogLength := of_decide_eq_false hcall
      exact ⟨if_neg hparameter, rfl⟩
    | getProgram program parameter =>
      have hparameter : parameter ≠ .infoLogLength := of_decide_eq_false hcall
      exact ⟨if_neg hparameter, rfl⟩
    | getShaderInfoLog => cases hcall
    | getProgramInfoLog => cases hcall
    | _ => exact ⟨rfl, rfl⟩
  shaderLog shader s t hstates := by
    subst hstates
    obtain ⟨hvalue, hstate⟩ := shaderInfoLog_onto h shader s
    exact ⟨⟨padding.shader shader, hvalue⟩, hstate.symm⟩
  measured program s t hstates := by
    subst hstates
    rfl
  programLog program s t hstates := by
    subst hstates
    exact ⟨padding.program program, (programInfoLog_onto h program s).1⟩
  read program s t hstates := (state_programInfoLog h program s).trans hstates
  read' program s t hstates := by
    rw [(programInfoLog_onto h program t).2, state_programInfoLog h]
    exact hstates
  measures := measuresLogs h.measured
  measures' := measuresLogs h.measured

end Padding

end Gl

theorem CannedGl.toInt_logLength {infoLog : String} (hlt : infoLog.utf8ByteSize < 0x7FFFFFFF) :
    0 ≤ (logLength infoLog).toInt ∧ (logLength infoLog).toInt ≤ infoLog.utf8ByteSize + 1 := by
  rw [logLength]
  split_ifs
  · rw [Int32.toInt_zero]
    omega
  · rw [Int32.toInt_ofNat_of_lt (by omega)]
    omega

theorem CannedGl.fits {canned : Canned} {padding : Gl.Padding}
    (hshader : ∀ stage shader,
      (canned.verdict stage).infoLog.utf8ByteSize + padding.shader shader < 0x7FFFFFFF)
    (hprogram : ∀ program,
      canned.link.infoLog.utf8ByteSize + padding.program program < 0x7FFFFFFF) :
    padding.Fits (implementation canned) where
  shaderLength shader s := by
    have hroom := hshader (stageOf shader) shader
    obtain ⟨hnonneg, hle⟩ := @toInt_logLength (canned.verdict (stageOf shader)).infoLog (by omega)
    show 0 ≤ (logLength _).toInt ∧ (logLength _).toInt + _ < _
    omega
  programLength program s := by
    have hroom := hprogram program
    obtain ⟨hnonneg, hle⟩ := @toInt_logLength canned.link.infoLog (by omega)
    show 0 ≤ (logLength _).toInt ∧ (logLength _).toInt + _ < _
    omega
  measured _ _ := rfl
  read _ _ _ := rfl

/-! ### Terminators are invisible -/

/-- Behind implementations that differ in the NULs behind their logs, everything on a workbench
comes to the same: every unit with its log, every outcome, every byte of the report, every record
outside the driver, the writer and the files. Each log that is kept is the front of what GL hands
back, up to the NULs that it ends in; a log of nothing but NULs is left out of the report as no log
is. To put any number of NULs behind the logs of an implementation makes such another one of it. -/
theorem padded_logs_invisible {gl : Gl.Implementation γ} {gl' : Gl.Implementation γ'}
    {alike : γ → γ' → Prop} (h : Gl.PadsLogs gl gl' alike) (context : Context)
    (writer : Writer ω) (disk : Disk φ) (steps : List Workbench.Step) (bench : Workbench)
    {world : World γ ω φ} {world' : World γ' ω φ} (hworlds : WorldsAlike alike world world') :
    let ending := Workbench.performEach ⟨Gles.driver gl context, writer, disk⟩ steps bench world
    let ending' := Workbench.performEach ⟨Gles.driver gl' context, writer, disk⟩ steps bench world'
    (ending'.value = ending.value ∧ written ending'.trail = written ending.trail ∧
        ending'.trail.flatMap Event.undriven = ending.trail.flatMap Event.undriven ∧
        WorldsAlike alike ending.state ending'.state) ∧
      Gles.KeepsLogs gl context ∧ Gles.KeepsLogs gl' context ∧
      (∀ handed log, Text.IsLogOf handed log →
        (Report.logPieces log = [] ↔ ∀ c ∈ handed.toList, c = '\x00')) ∧
      ∀ padding : Gl.Padding, padding.Fits gl → Gl.PadsLogs gl (padding.onto gl) Eq := by
  intro ending ending'
  obtain ⟨hvalue, htrail, hlater⟩ :=
    @Workbench.doAlike_performEach _ _ _ _ alike _ _ writer disk (Gles.buildAlike h context) steps
      bench world world' hworlds
  have hwritten : written ending'.trail = written ending.trail := by
    rw [← written_flatMap_undriven ending'.trail, htrail, written_flatMap_undriven]
  exact ⟨⟨hvalue, hwritten, htrail, hlater⟩, Gles.keepsLogs h.measures, Gles.keepsLogs h.measures',
    fun _ _ hlog ↦ Report.logPieces_eq_nil_iff hlog, fun _ hfits ↦ hfits.padsLogs⟩

/-- Two of the logs have no length of their own. They are skipped without the NULs and read with
them. -/
theorem padded_logs_invisible_unmeasured :
    let canned : Canned :=
      { Canned.simplePair with fragment := { status := true, infoLog := "0:1: unused\x00value" } }
    let padding : Gl.Padding := ⟨fun shader ↦ shader.toNat % 4, fun _ ↦ 3⟩
    let gl := CannedGl.implementation canned
    let start : CannedGl := { pending := [], noError_not_mem := List.not_mem_nil }
    let context : Context := { handle := 0, functions := { binary := some .core } }
    let tools : Tools CannedGl Sink.Content FileTree :=
      ⟨Gles.driver gl context, ({} : Sink).writer, FileTree.disk⟩
    let tools' : Tools CannedGl Sink.Content FileTree :=
      ⟨Gles.driver (padding.onto gl) context, ({} : Sink).writer, FileTree.disk⟩
    let steps : List Workbench.Step :=
      [.compile .vertex "void main() {}", .compile .fragment "", .link 0 1, .reportProgram 0]
    let world : World CannedGl Sink.Content FileTree := ⟨start, {}, FileTree.empty⟩
    Gl.PadsLogs gl (padding.onto gl) Eq ∧ WorldsAlike Eq world world ∧
      (gl.answer (.getProgram 11 .infoLogLength) start).1 = 0 ∧
      ((padding.onto gl).answer (.getProgram 11 .infoLogLength) start).1 = 3 ∧
      (Workbench.performEach tools' steps {} world).value =
        (Workbench.performEach tools steps {} world).value ∧
      written (Workbench.performEach tools' steps {} world).trail =
        written (Workbench.performEach tools steps {} world).trail := by
  intro canned padding gl start context tools tools' steps world
  have hpads : Gl.PadsLogs gl (padding.onto gl) Eq := by
    have hprogram : canned.link.infoLog.utf8ByteSize + 3 < 0x7FFFFFFF := by decide
    refine Gl.Padding.Fits.padsLogs (CannedGl.fits (fun stage shader ↦ ?_) fun _ ↦ hprogram)
    have hnuls : shader.toNat % 4 < 4 := Nat.mod_lt _ (by decide)
    have hlogs : (canned.verdict stage).infoLog.utf8ByteSize ≤ 17 := by
      cases stage <;> decide
    exact Nat.lt_trans (Nat.add_lt_add_of_le_of_lt hlogs hnuls) (by decide)
  have hworlds : WorldsAlike Eq world world := ⟨rfl, rfl, rfl⟩
  obtain ⟨⟨hvalue, hwritten, -, -⟩, -⟩ := padded_logs_invisible hpads context
    ({} : Sink).writer FileTree.disk steps {} hworlds
  exact ⟨hpads, hworlds, rfl, rfl, hvalue, hwritten⟩

end ShaderBuild
