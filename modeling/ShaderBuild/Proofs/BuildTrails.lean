import ShaderBuild.Proofs.DriverDialogue

/-!
The trails of the stages of a build. For every driver, the trail of a stage is laid out by what the
driver answered: which calls were made, with which arguments, and what was logged between them. What
a driver does to find an answer is left open.
-/

set_option autoImplicit false
set_option relaxedAutoImplicit false

namespace ShaderBuild

variable {σ : Type} {driver : Driver σ}

/-! ### Compiling -/

/-- What a compilation ends with, and its trail. -/
inductive CompileTrail (stage : Stage) (source : String) :
    Except Error CompiledShader → List Event → Prop
  | refused (error : Error) (created : List Deed) :
    CompileTrail stage source (.error error)
      ((if Text.isBlank source then [.logged (.emptySource stage)] else []) ++
        [.asked (.createShader stage) (.error error) created])
  | compiled (id : ShaderId) (status : Bool) (infoLog : String)
      (created submitted judged read : List Deed) :
    CompileTrail stage source (.ok { stage, source, status, infoLog, id })
      ((if Text.isBlank source then [.logged (.emptySource stage)] else []) ++
        [.asked (.createShader stage) (.ok id) created,
          .asked (.compileShader id source) () submitted,
          .asked (.compileStatus id) status judged,
          .asked (.shaderLog id) infoLog read,
          .logged (.compiled stage status infoLog.utf8ByteSize)])

theorem conducts_compile (stage : Stage) (source : String) :
    driver.Conducts id (compile driver stage source).run (CompileTrail stage source) := by
  unfold compile
  refine conducts_run_when_log_bind ?_
  refine conducts_run_bind (conducts_ask (.createShader stage)) ?_ ?_
  · rintro error trail ⟨created, rfl⟩
    exact .refused error created
  · rintro shader trail ⟨created, rfl⟩
    refine conducts_run_ask_bind fun _ submitted ↦ ?_
    refine conducts_run_ask_bind fun status judged ↦ ?_
    refine conducts_run_ask_bind fun infoLog read ↦ ?_
    refine conducts_run_log_bind (conducts_pure ?_)
    exact .compiled shader status infoLog created submitted judged read

/-! ### Describing variables -/

/-- The answer to a question for one variable, and what the driver did to find it. -/
abbrev MemberAnswer := Option ActiveVariable × List Deed

/-- The trail of the questions for the variables from `index` on. A rejected one is logged. -/
def membersTrail (interface : Interface) (program : ProgramId) (maxLength : Nat) :
    (index : Nat) → List MemberAnswer → List Event
  | _, [] => []
  | index, (answer, within) :: rest =>
    .asked (.activeVariable interface program (.ofNat index) maxLength) answer within ::
      ((if answer.isSome then [] else [.logged (.rejectedVariable interface (.ofNat index))]) ++
        membersTrail interface program maxLength (index + 1) rest)

/-- The variables that were described. -/
def describedMembers (answers : List MemberAnswer) : List Variable :=
  answers.filterMap fun answer ↦ answer.1.map ActiveVariable.toVariable

theorem conducts_describeFrom (interface : Interface) (program : ProgramId)
    (maxLength index count : Nat) :
    driver.Conducts id (describeFrom driver interface program maxLength index count)
      fun members trail ↦ ∃ answers : List MemberAnswer, answers.length = count ∧
        members = describedMembers answers ∧
        trail = membersTrail interface program maxLength index answers := by
  induction count generalizing index with
  | zero => exact conducts_pure ⟨[], rfl, rfl, rfl⟩
  | succ count ih =>
    rw [describeFrom]
    refine conducts_ask_bind fun answer within ↦ ?_
    cases answer with
    | some described =>
      refine conducts_bind (ih (index + 1)) fun rest trail hrest ↦ conducts_pure ?_
      obtain ⟨answers, hlength, rfl, rfl⟩ := hrest
      exact ⟨(some described, within) :: answers, by simp [hlength],
        by simp [describedMembers], by simp [membersTrail]⟩
    | none =>
      refine conducts_log_bind ((ih (index + 1)).mono fun rest trail hrest ↦ ?_)
      obtain ⟨answers, hlength, rfl, rfl⟩ := hrest
      exact ⟨(none, within) :: answers, by simp [hlength],
        by simp [describedMembers], by simp [membersTrail]⟩

/-- The active variables of a program, and the trail of asking for them. -/
inductive InterfaceTrail (interface : Interface) (program : ProgramId) :
    List Variable → List Event → Prop
  | absent (count : Int32) (counted : List Deed) (hcount : count ≤ 0) :
    InterfaceTrail interface program []
      [.asked (.parameter program interface.countParameter) count counted]
  | present (count longest : Int32) (counted measured : List Deed) (answers : List MemberAnswer)
      (hcount : ¬ count ≤ 0) (hlength : answers.length = count.toNatClampNeg) :
    InterfaceTrail interface program (describedMembers answers)
      (.asked (.parameter program interface.countParameter) count counted ::
        .asked (.parameter program interface.maxLengthParameter) longest measured ::
          membersTrail interface program longest.toNatClampNeg 0 answers)

theorem conducts_activeVariables (interface : Interface) (program : ProgramId) :
    driver.Conducts id (activeVariables driver interface program)
      (InterfaceTrail interface program) := by
  unfold activeVariables
  refine conducts_ask_bind fun count counted ↦ ?_
  split_ifs with hcount
  · exact conducts_pure (.absent count counted hcount)
  · refine conducts_ask_bind fun longest measured ↦ ?_
    refine (conducts_describeFrom _ _ _ _ _).mono fun members trail hmembers ↦ ?_
    obtain ⟨answers, hlength, rfl, rfl⟩ := hmembers
    exact .present count longest counted measured answers hcount hlength

/-! ### Linking -/

/-- The link log of a program, and the trail of reading it. -/
inductive LinkLogTrail (program : ProgramId) : String → List Event → Prop
  | absent (length : Int32) (measured : List Deed) (hlength : ¬ length > 0) :
    LinkLogTrail program "" [.asked (.parameter program .infoLogLength) length measured]
  | present (length : Int32) (infoLog : String) (measured read : List Deed)
      (hlength : length > 0) :
    LinkLogTrail program infoLog
      [.asked (.parameter program .infoLogLength) length measured,
        .asked (.programLog program) infoLog read]

theorem conducts_linkLog (program : ProgramId) :
    driver.Conducts id (linkLog driver program) (LinkLogTrail program) := by
  unfold linkLog
  refine conducts_ask_bind fun length measured ↦ ?_
  split_ifs with hlength
  · refine (conducts_ask (.programLog program)).mono fun infoLog trail htrail ↦ ?_
    obtain ⟨read, rfl⟩ := htrail
    exact .present length infoLog measured read hlength
  · exact conducts_pure (.absent length measured hlength)

/-- What a link ends with, and its trail. -/
inductive LinkTrail (vertex fragment : CompiledShader) :
    Except Error LinkedProgram → List Event → Prop
  | refused (error : Error) (created : List Deed) :
    LinkTrail vertex fragment (.error error) [.asked .createProgram (.error error) created]
  | linked (id : ProgramId) (status : Bool) (infoLog : String) (attributes uniforms : List Variable)
      (created first second joined judged : List Deed)
      (logTrail attributesTrail uniformsTrail : List Event)
      (hlog : LinkLogTrail id infoLog logTrail)
      (hattributes : InterfaceTrail .attributes id attributes attributesTrail)
      (huniforms : InterfaceTrail .uniforms id uniforms uniformsTrail) :
    LinkTrail vertex fragment (.ok { status, infoLog, attributes, uniforms, id })
      ([.asked .createProgram (.ok id) created,
          .asked (.attachShader id vertex.id) () first,
          .asked (.attachShader id fragment.id) () second,
          .asked (.linkProgram id) () joined,
          .asked (.linkStatus id) status judged] ++ logTrail ++
        (if vertex.status && fragment.status then [] else [.logged (.linkedUncompiled status)]) ++
        attributesTrail ++ uniformsTrail)

theorem conducts_link (vertex fragment : CompiledShader) :
    driver.Conducts id (link driver vertex fragment).run (LinkTrail vertex fragment) := by
  unfold link
  refine conducts_run_bind (conducts_ask .createProgram) ?_ ?_
  · rintro error trail ⟨created, rfl⟩
    exact .refused error created
  · rintro program trail ⟨created, rfl⟩
    refine conducts_run_ask_bind fun _ first ↦ ?_
    refine conducts_run_ask_bind fun _ second ↦ ?_
    refine conducts_run_ask_bind fun _ joined ↦ ?_
    refine conducts_run_ask_bind fun status judged ↦ ?_
    refine conducts_run_lift_bind (conducts_linkLog program) fun infoLog logTrail hlog ↦ ?_
    refine conducts_run_unless_log_bind ?_
    refine conducts_run_lift_bind (conducts_activeVariables .attributes program)
      fun attributes attributesTrail hattributes ↦ ?_
    refine conducts_run_lift_bind (conducts_activeVariables .uniforms program)
      fun uniforms uniformsTrail huniforms ↦ conducts_pure ?_
    simpa using @LinkTrail.linked vertex fragment program status infoLog
      attributes uniforms created first second joined judged logTrail attributesTrail
      uniformsTrail hlog hattributes huniforms

/-! ### Extracting -/

/-- The artifact of a program, and the trail of extracting it. -/
inductive ExtractTrail (program : LinkedProgram) : Artifact → List Event → Prop
  | extracted (length : Int32) (fetched : Artifact) (measured read : List Deed) :
    ExtractTrail program
      { fetched with payload := fetched.payload.take length.toNatClampNeg }
      ((if program.status then [] else [.logged .unlinkedBinary]) ++
        [.asked (.parameter program.id .programBinaryLength) length measured,
          .asked (.binary program.id length.toNatClampNeg) fetched read,
          .logged (.binaryFetched length.toNatClampNeg fetched.format)])

theorem conducts_extract (program : LinkedProgram) :
    driver.Conducts id (extract driver program) (ExtractTrail program) := by
  unfold extract
  refine conducts_unless_log_bind ?_
  refine conducts_ask_bind fun length measured ↦ ?_
  refine conducts_ask_bind fun fetched read ↦ ?_
  refine conducts_log_bind (conducts_pure ?_)
  exact .extracted length fetched measured read

end ShaderBuild
