import ShaderBuild.Disk.Tree
import ShaderBuild.Driver.Canned
import ShaderBuild.Proofs.RunTrails

/-!
The dialogue of a run. The calls of a run are settled by what the driver answers to the earlier
ones: compiling takes four calls, linking asks for the log and for the variables only where there
are any, extracting takes two. Whatever the driver is, a run with a writer that never fails makes
just these calls in this order, and none after an object was refused (`run_dialogue`).
-/

set_option autoImplicit false
set_option relaxedAutoImplicit false

namespace ShaderBuild

/-! ### What a driver replies -/

/-- Replies about a shader. -/
structure ShaderReplies where
  id : ShaderId
  status : Bool
  infoLog : String

/-- Replies about one interface of a program: one for every index below `count`. -/
structure InterfaceReplies where
  count : Int32
  longest : Int32
  members : List (Option ActiveVariable)
  length_members : members.length = count.toNatClampNeg

/-- Replies about a program. -/
structure ProgramReplies where
  id : ProgramId
  status : Bool
  logLength : Int32
  infoLog : String
  attributes : InterfaceReplies
  uniforms : InterfaceReplies

/-- Replies about the binary of a program. -/
structure BinaryReplies where
  length : Int32
  artifact : Artifact

/-! ### Dialogues -/

/-- The dialogue of compiling a source. -/
def ShaderReplies.dialogue (replies : ShaderReplies) (stage : Stage) (source : String) :
    List Exchange :=
  [⟨.createShader stage, .ok replies.id⟩, ⟨.compileShader replies.id source, ()⟩,
    ⟨.compileStatus replies.id, replies.status⟩, ⟨.shaderLog replies.id, replies.infoLog⟩]

/-- The questions for the variables from `index` on. -/
def membersDialogue (interface : Interface) (program : ProgramId) (maxLength index : Nat)
    (members : List (Option ActiveVariable)) : List Exchange :=
  (members.zipIdx index).map fun (answer, position) ↦
    ⟨.activeVariable interface program (.ofNat position) maxLength, answer⟩

/-- The dialogue about one interface. Only if there are variables, the size of the longest name is
asked for, and then every index in order. -/
def InterfaceReplies.dialogue (replies : InterfaceReplies) (interface : Interface)
    (program : ProgramId) : List Exchange :=
  ⟨.parameter program interface.countParameter, replies.count⟩ ::
    if replies.count > 0 then
      ⟨.parameter program interface.maxLengthParameter, replies.longest⟩ ::
        membersDialogue interface program replies.longest.toNatClampNeg 0 replies.members
    else []

/-- What is asked about an interface of a program. -/
inductive Call.IsAbout (interface : Interface) (program : ProgramId) : Call → Prop
  | parameter (code : Gl.Code) : Call.IsAbout interface program (.parameter program code)
  | activeVariable (index : UInt32) (maxLength : Nat) :
    Call.IsAbout interface program (.activeVariable interface program index maxLength)

theorem InterfaceReplies.isAbout_of_mem_dialogue {replies : InterfaceReplies}
    {interface : Interface} {program : ProgramId} {exchange : Exchange}
    (h : exchange ∈ replies.dialogue interface program) :
    exchange.call.IsAbout interface program := by
  unfold InterfaceReplies.dialogue at h
  rcases List.mem_cons.mp h with rfl | h
  · exact .parameter _
  split_ifs at h
  · rcases List.mem_cons.mp h with rfl | h
    · exact .parameter _
    · obtain ⟨⟨answer, position⟩, -, rfl⟩ := List.mem_map.mp h
      exact .activeVariable _ _
  · exact absurd h List.not_mem_nil

/-- The dialogue of linking two shaders. The log is asked for only if it has a length. -/
def ProgramReplies.dialogue (replies : ProgramReplies) (vertex fragment : ShaderId) :
    List Exchange :=
  [⟨.createProgram, .ok replies.id⟩, ⟨.attachShader replies.id vertex, ()⟩,
    ⟨.attachShader replies.id fragment, ()⟩, ⟨.linkProgram replies.id, ()⟩,
    ⟨.linkStatus replies.id, replies.status⟩,
    ⟨.parameter replies.id .infoLogLength, replies.logLength⟩] ++
    (if replies.logLength > 0 then [⟨.programLog replies.id, replies.infoLog⟩] else []) ++
    replies.attributes.dialogue .attributes replies.id ++
    replies.uniforms.dialogue .uniforms replies.id

/-- The dialogue of extracting the binary of a program. -/
def BinaryReplies.dialogue (replies : BinaryReplies) (program : ProgramId) : List Exchange :=
  [⟨.parameter program .programBinaryLength, replies.length⟩,
    ⟨.binary program replies.length.toNatClampNeg, replies.artifact⟩]

/-- The dialogue of building a shader pair, and the error with which an object was refused, if one
was: the dialogue ends there. -/
inductive RunDialogue (sources : ShaderPair) : Option Error → List Exchange → Prop
  | vertexRefused (error : Error) :
    RunDialogue sources (some error) [⟨.createShader .vertex, .error error⟩]
  | fragmentRefused (vertex : ShaderReplies) (error : Error) :
    RunDialogue sources (some error)
      (vertex.dialogue .vertex sources.vertex ++ [⟨.createShader .fragment, .error error⟩])
  | programRefused (vertex fragment : ShaderReplies) (error : Error) :
    RunDialogue sources (some error)
      (vertex.dialogue .vertex sources.vertex ++ fragment.dialogue .fragment sources.fragment ++
        [⟨.createProgram, .error error⟩])
  | complete (vertex fragment : ShaderReplies) (program : ProgramReplies)
      (binary : BinaryReplies) :
    RunDialogue sources none
      (vertex.dialogue .vertex sources.vertex ++ fragment.dialogue .fragment sources.fragment ++
        program.dialogue vertex.id fragment.id ++ binary.dialogue program.id)

/-! ### Trails and their dialogues -/

theorem exchanges_compileTrail_of_error {stage : Stage} {source : String} {error : Error}
    {trail : List Event} (h : CompileTrail stage source (.error error) trail) :
    exchanges trail = [⟨.createShader stage, .error error⟩] := by
  cases h
  split_ifs <;> rfl

theorem exchanges_compileTrail {stage : Stage} {source : String} {unit : CompiledShader}
    {trail : List Event} (h : CompileTrail stage source (.ok unit) trail) :
    ∃ replies : ShaderReplies, replies.id = unit.id ∧
      exchanges trail = replies.dialogue stage source := by
  cases h with
  | compiled id status infoLog =>
    refine ⟨⟨id, status, infoLog⟩, rfl, ?_⟩
    split_ifs <;> rfl

theorem exchanges_membersTrail (interface : Interface) (program : ProgramId)
    (maxLength index : Nat) (answers : List MemberAnswer) :
    exchanges (membersTrail interface program maxLength index answers) =
      membersDialogue interface program maxLength index (answers.map Prod.fst) := by
  induction answers generalizing index with
  | nil => rfl
  | cons answer rest ih =>
    obtain ⟨described, within⟩ := answer
    have hrest := ih (index + 1)
    cases described <;> simpa [membersTrail, membersDialogue] using hrest

theorem toNatClampNeg_eq_toNat_max (number : Int32) :
    number.toNatClampNeg = (max number.toInt 0).toNat := by
  show number.toInt.toNat = _
  omega

theorem toNatClampNeg_eq_zero {count : Int32} (h : count ≤ 0) : count.toNatClampNeg = 0 := by
  have hle := Int32.le_iff_toInt_le.mp h
  exact Int.toNat_of_nonpos hle

theorem exchanges_interfaceTrail {interface : Interface} {program : ProgramId}
    {members : List Variable} {trail : List Event}
    (h : InterfaceTrail interface program members trail) :
    ∃ replies : InterfaceReplies, exchanges trail = replies.dialogue interface program := by
  cases h with
  | absent count counted hcount =>
    have hnone : ¬ count > 0 := Int32.not_lt.mpr hcount
    refine ⟨⟨count, 0, [], (toNatClampNeg_eq_zero hcount).symm⟩, ?_⟩
    simp only [InterfaceReplies.dialogue, if_neg hnone]
    rfl
  | present count longest counted measured answers hcount hlength =>
    refine ⟨⟨count, longest, answers.map Prod.fst, by rw [List.length_map, hlength]⟩, ?_⟩
    have hpos : count > 0 := Int32.not_le.mp hcount
    simp [InterfaceReplies.dialogue, hpos, exchanges_membersTrail]

theorem exchanges_linkTrail_of_error {vertex fragment : CompiledShader} {error : Error}
    {trail : List Event} (h : LinkTrail vertex fragment (.error error) trail) :
    exchanges trail = [⟨.createProgram, .error error⟩] := by
  cases h
  rfl

theorem exchanges_linkTrail {vertex fragment : CompiledShader} {unit : LinkedProgram}
    {trail : List Event} (h : LinkTrail vertex fragment (.ok unit) trail) :
    ∃ replies : ProgramReplies, replies.id = unit.id ∧
      exchanges trail = replies.dialogue vertex.id fragment.id := by
  cases h with
  | linked id status infoLog attributes uniforms created first second joined judged logTrail
      attributesTrail uniformsTrail hlog hattributes huniforms =>
    obtain ⟨attributes, hattributes⟩ := exchanges_interfaceTrail hattributes
    obtain ⟨uniforms, huniforms⟩ := exchanges_interfaceTrail huniforms
    have hrecord : exchanges (if vertex.status = true ∧ fragment.status = true then []
        else [.logged (.linkedUncompiled status)]) = [] := by
      split_ifs <;> rfl
    cases hlog with
    | absent length measured hlength =>
      refine ⟨⟨id, status, length, "", attributes, uniforms⟩, rfl, ?_⟩
      simp [ProgramReplies.dialogue, hlength, hattributes, huniforms, hrecord]
    | present length _ measured read hlength =>
      refine ⟨⟨id, status, length, infoLog, attributes, uniforms⟩, rfl, ?_⟩
      simp [ProgramReplies.dialogue, hlength, hattributes, huniforms, hrecord]

theorem exchanges_extractTrail {program : LinkedProgram} {artifact : Artifact}
    {trail : List Event} (h : ExtractTrail program artifact trail) :
    ∃ replies : BinaryReplies, exchanges trail = replies.dialogue program.id := by
  cases h with
  | extracted length fetched =>
    refine ⟨⟨length, fetched⟩, ?_⟩
    split_ifs <;> rfl

theorem runDialogue_of_runTrail {sources : ShaderPair} {output : String}
    {result : Except Error Summary} {trail : List Event}
    (h : RunTrail sources output result trail) :
    ∃ refusal, RunDialogue sources refusal (exchanges trail) ∧
      ∀ error ∈ refusal, result = .error error := by
  cases h with
  | vertexRefused error trail hvertex =>
    refine ⟨some error, ?_, fun other hother ↦ by rw [Option.mem_some.mp hother]⟩
    rw [exchanges_compileTrail_of_error hvertex]
    exact .vertexRefused error
  | fragmentRefused vertex error _ _ _ hvertex hvertexBlock hfragment =>
    obtain ⟨vertexReplies, -, hvertex⟩ := exchanges_compileTrail hvertex
    refine ⟨some error, ?_, fun other hother ↦ by rw [Option.mem_some.mp hother]⟩
    rw [exchanges_append, exchanges_append, hvertex, hvertexBlock.onlyWrites.exchanges_eq_nil,
      exchanges_compileTrail_of_error hfragment, List.append_nil]
    exact .fragmentRefused vertexReplies error
  | programRefused vertex fragment error _ _ _ _ _ hvertex hvertexBlock hfragment hfragmentBlock
      hprogram =>
    obtain ⟨vertexReplies, -, hvertex⟩ := exchanges_compileTrail hvertex
    obtain ⟨fragmentReplies, -, hfragment⟩ := exchanges_compileTrail hfragment
    refine ⟨some error, ?_, fun other hother ↦ by rw [Option.mem_some.mp hother]⟩
    have hdialogue := @RunDialogue.programRefused sources vertexReplies fragmentReplies error
    simpa [hvertex, hfragment, hvertexBlock.onlyWrites.exchanges_eq_nil,
      hfragmentBlock.onlyWrites.exchanges_eq_nil, exchanges_linkTrail_of_error hprogram]
      using hdialogue
  | finished vertex fragment program _ _ _ _ _ _ _ _ hvertex hvertexBlock hfragment
      hfragmentBlock hprogram hprogramBlock hfinish =>
    obtain ⟨artifact, saved, extractTrail, saveTrail, hextract, hsave⟩ := hfinish
    obtain ⟨vertexReplies, hvertexId, hvertex⟩ := exchanges_compileTrail hvertex
    obtain ⟨fragmentReplies, hfragmentId, hfragment⟩ := exchanges_compileTrail hfragment
    obtain ⟨programReplies, hprogramId, hprogram⟩ := exchanges_linkTrail hprogram
    obtain ⟨binaryReplies, hextract⟩ := exchanges_extractTrail hextract
    refine ⟨none, ?_, fun error herror ↦ absurd herror (Option.not_mem_none error)⟩
    have hdialogue := @RunDialogue.complete sources vertexReplies fragmentReplies programReplies
      binaryReplies
    rw [hvertexId, hfragmentId, hprogramId] at hdialogue
    simpa [hvertex, hfragment, hprogram, hextract, hvertexBlock.onlyWrites.exchanges_eq_nil,
      hfragmentBlock.onlyWrites.exchanges_eq_nil, hprogramBlock.onlyWrites.exchanges_eq_nil,
      hsave.exchanges_eq_nil] using hdialogue

/-! ### The dialogue of a run -/

variable {σ ω φ : Type}

/-- Whatever the driver is, a run makes the calls of a dialogue with its answers, and no other. With
an object refused the dialogue ends, and the refusal is the error of the run. -/
theorem run_dialogue {tools : Tools σ ω φ} (hwriter : tools.writer.NeverRefuses)
    (hflush : tools.writer.AlwaysFlushes) (sources : ShaderPair) (output : String)
    (world : World σ ω φ) :
    let ending := (tools.run sources output).run world
    tools.driver.Replies world.driver (exchanges ending.trail) ending.state.driver ∧
      ∃ refusal, RunDialogue sources refusal (exchanges ending.trail) ∧
        ∀ error ∈ refusal, ending.value = .error error := by
  intro ending
  obtain ⟨hreplies, htrail⟩ := conducts_run hwriter hflush sources output world
  exact ⟨hreplies, runDialogue_of_runTrail htrail⟩

theorem run_dialogue_simplePair :
    let tools : Tools Canned Sink.Content FileTree :=
      ⟨Canned.driver, ({} : Sink).writer, FileTree.disk⟩
    let ending := (tools.run ⟨"void main() {}", ""⟩ "pair.bin").run
      ⟨Canned.simplePair, {}, FileTree.empty⟩
    tools.writer.NeverRefuses ∧ tools.writer.AlwaysFlushes ∧
      tools.driver.Replies Canned.simplePair (exchanges ending.trail) ending.state.driver ∧
      ∃ refusal, RunDialogue ⟨"void main() {}", ""⟩ refusal (exchanges ending.trail) ∧
        ∀ error ∈ refusal, ending.value = .error error := by
  intro tools ending
  have hwriter : tools.writer.NeverRefuses := Sink.neverRefuses_writer rfl
  have hflush : tools.writer.AlwaysFlushes := Sink.alwaysFlushes_writer rfl
  exact ⟨hwriter, hflush, run_dialogue hwriter hflush ⟨"void main() {}", ""⟩ "pair.bin"
    ⟨Canned.simplePair, {}, FileTree.empty⟩⟩

end ShaderBuild
