import ShaderBuild.Proofs.CommandPhases
import ShaderBuild.Proofs.DriverAgreement

/-!
The shaders that verdicts are asked for. A compilation asks for the status and the log of the shader
that it has just created, and nothing else asks for either. In the dialogue of any work, however its
steps are put together and wherever it stops, a shader is therefore created before it is judged
(`Workbench.conductsOwn_performEach`).
-/

set_option autoImplicit false
set_option relaxedAutoImplicit false

namespace ShaderBuild

variable {σ τ ω φ α β : Type}

/-! ### Verdicts on shaders -/

/-- The shader whose verdict is asked for. -/
def Call.judged? : Call → Option ShaderId
  | .compileStatus shader => some shader
  | .shaderLog shader => some shader
  | _ => none

/-- Whenever the verdict on a shader is asked for, the shader was created before. -/
def JudgesOwn (dialogue : List Exchange) : Prop :=
  ∀ before exchange after, dialogue = before ++ exchange :: after →
    ∀ shader, exchange.call.judged? = some shader →
      ∃ stage, ⟨.createShader stage, .ok shader⟩ ∈ before

theorem judgesOwn_of_none {dialogue : List Exchange}
    (h : ∀ exchange ∈ dialogue, exchange.call.judged? = none) : JudgesOwn dialogue := by
  rintro before exchange after rfl shader hjudged
  have hnone := h exchange (List.mem_append_right before List.mem_cons_self)
  rw [hjudged] at hnone
  cases hnone

theorem JudgesOwn.append {first rest : List Exchange} (hfirst : JudgesOwn first)
    (hrest : JudgesOwn rest) : JudgesOwn (first ++ rest) := by
  intro before exchange after h shader hjudged
  rcases List.append_eq_append_iff.mp h with ⟨between, rfl, heq⟩ | ⟨between, rfl, heq⟩
  · obtain ⟨stage, hcreated⟩ := hrest between exchange after heq shader hjudged
    exact ⟨stage, List.mem_append_right first hcreated⟩
  · cases between with
    | nil =>
      obtain ⟨stage, hcreated⟩ := hrest [] exchange after heq.symm shader hjudged
      exact absurd hcreated List.not_mem_nil
    | cons asked others =>
      obtain ⟨rfl, -⟩ := List.cons.inj heq
      exact hfirst before exchange others rfl shader hjudged

/-- A shader may be judged once it is created. -/
theorem judgesOwn_created {stage : Stage} {id : ShaderId} {rest : List Exchange}
    (h : ∀ exchange ∈ rest, ∀ shader, exchange.call.judged? = some shader → shader = id) :
    JudgesOwn (⟨.createShader stage, .ok id⟩ :: rest) := by
  intro before exchange after heq shader hjudged
  cases before with
  | nil =>
    obtain ⟨rfl, -⟩ := List.cons.inj heq
    cases hjudged
  | cons created others =>
    obtain ⟨rfl, rfl⟩ := List.cons.inj heq
    obtain rfl :=
      h exchange (List.mem_append_right others List.mem_cons_self) shader hjudged
    exact ⟨stage, List.mem_cons_self⟩

theorem CompileTrail.judgesOwn {stage : Stage} {source : String}
    {result : Except Error CompiledShader} {trail : List Event}
    (h : CompileTrail stage source result trail) : JudgesOwn (exchanges trail) := by
  cases result with
  | error error =>
    rw [exchanges_compileTrail_of_error h]
    exact judgesOwn_of_none (by simp [Call.judged?])
  | ok unit =>
    obtain ⟨replies, -, hdialogue⟩ := exchanges_compileTrail h
    rw [hdialogue]
    refine judgesOwn_created ?_
    simp [Call.judged?]

theorem Call.IsAbout.judged?_eq_none {interface : Interface} {program : ProgramId} {call : Call}
    (h : call.IsAbout interface program) : call.judged? = none := by
  cases h <;> rfl

theorem LinkTrail.judgesOwn {vertex fragment : CompiledShader}
    {result : Except Error LinkedProgram} {trail : List Event}
    (h : LinkTrail vertex fragment result trail) : JudgesOwn (exchanges trail) := by
  refine judgesOwn_of_none fun exchange hexchange ↦ ?_
  cases result with
  | error error =>
    rw [exchanges_linkTrail_of_error h] at hexchange
    rw [List.mem_singleton.mp hexchange]
    rfl
  | ok unit =>
    obtain ⟨replies, -, hdialogue⟩ := exchanges_linkTrail h
    rw [hdialogue, ProgramReplies.dialogue, List.mem_append, List.mem_append, List.mem_append]
      at hexchange
    rcases hexchange with ((hlinking | hlog) | hattributes) | huniforms
    · revert exchange
      simp [Call.judged?]
    · split_ifs at hlog
      · rw [List.mem_singleton.mp hlog]
        rfl
      · exact absurd hlog List.not_mem_nil
    · exact (InterfaceReplies.isAbout_of_mem_dialogue hattributes).judged?_eq_none
    · exact (InterfaceReplies.isAbout_of_mem_dialogue huniforms).judged?_eq_none

theorem ExtractTrail.judgesOwn {program : LinkedProgram} {artifact : Artifact}
    {trail : List Event} (h : ExtractTrail program artifact trail) :
    JudgesOwn (exchanges trail) := by
  obtain ⟨replies, hdialogue⟩ := exchanges_extractTrail h
  rw [hdialogue]
  exact judgesOwn_of_none (by simp [BinaryReplies.dialogue, Call.judged?])

/-! ### Work that judges shaders of its own -/

theorem joinsUp_judgesOwn : JoinsUp JudgesOwn where
  nil := judgesOwn_of_none fun _ hmem ↦ absurd hmem List.not_mem_nil
  append _ _ hfirst hrest := hfirst.append hrest

/-- Whatever the driver answers, the work judges only shaders that it has created. -/
def Driver.ConductsOwn (driver : Driver σ) (part : τ → σ) (m : Activity Event τ α) : Prop :=
  driver.Conducts part m fun _ trail ↦ JudgesOwn (exchanges trail)

section Runs

variable {driver : Driver σ} {part : τ → σ} {tools : Tools σ ω φ}

theorem conductsOwn_pure (value : α) : driver.ConductsOwn part (pure value) :=
  joinsUp_judgesOwn.converses_pure value

theorem conductsOwn_bind {m : Activity Event τ α} {next : α → Activity Event τ β}
    (hm : driver.ConductsOwn part m) (hnext : ∀ a, driver.ConductsOwn part (next a)) :
    driver.ConductsOwn part (m >>= next) := joinsUp_judgesOwn.converses_bind hm hnext

theorem conductsOwn_run_bind {m : Attempt Event τ α} {next : α → Attempt Event τ β}
    (hm : driver.ConductsOwn part m.run) (hnext : ∀ a, driver.ConductsOwn part (next a).run) :
    driver.ConductsOwn part (m >>= next).run := joinsUp_judgesOwn.converses_run_bind hm hnext

theorem conductsOwn_compile (stage : Stage) (source : String) :
    driver.ConductsOwn id (compile driver stage source).run :=
  (conducts_compile stage source).mono fun _ _ h ↦ h.judgesOwn

theorem conductsOwn_link (vertex fragment : CompiledShader) :
    driver.ConductsOwn id (link driver vertex fragment).run :=
  (conducts_link vertex fragment).mono fun _ _ h ↦ h.judgesOwn

theorem conductsOwn_extract (program : LinkedProgram) :
    driver.ConductsOwn id (extract driver program) :=
  (conducts_extract program).mono fun _ _ h ↦ h.judgesOwn

theorem conductsOwn_run (sources : ShaderPair) (output : String) :
    tools.driver.ConductsOwn World.driver (tools.run sources output).run :=
  joinsUp_judgesOwn.converses_run conductsOwn_compile conductsOwn_link conductsOwn_extract sources
    output

namespace Workbench

theorem conductsOwn_yield (bench : Workbench) (step : Step) :
    tools.driver.ConductsOwn World.driver (yield tools bench step).run := by
  cases step with
  | compile stage source =>
    exact conductsOwn_run_bind (conducts_onDriver (conductsOwn_compile stage source)) fun _ ↦
      conductsOwn_pure _
  | link vertex fragment =>
    simp only [yield]
    split
    · exact conductsOwn_run_bind (conducts_onDriver (conductsOwn_link _ _)) fun _ ↦
        conductsOwn_pure _
    · exact conductsOwn_pure _
  | extract program =>
    simp only [yield]
    split
    · exact conductsOwn_run_bind (converses_onDriver_lift (conductsOwn_extract _)) fun _ ↦
        conductsOwn_pure _
    · exact conductsOwn_pure _
  | keep artifact => exact conductsOwn_pure _
  | save artifact path =>
    simp only [yield]
    split
    · exact conductsOwn_run_bind (joinsUp_judgesOwn.converses_save _ path) fun _ ↦
        conductsOwn_pure _
    · exact conductsOwn_pure _
  | reportShader shader =>
    simp only [yield]
    split
    · exact conductsOwn_run_bind (joinsUp_judgesOwn.converses_writePieces _) fun _ ↦
        conductsOwn_pure _
    · exact conductsOwn_pure _
  | reportProgram program =>
    simp only [yield]
    split
    · exact conductsOwn_run_bind (joinsUp_judgesOwn.converses_writePieces _) fun _ ↦
        conductsOwn_pure _
    · exact conductsOwn_pure _
  | load path =>
    refine conductsOwn_run_bind (joinsUp_judgesOwn.converses_onFiles fun files ↦ ?_) fun _ ↦
      conductsOwn_pure _
    exact (tools.disk.quiet_loadSource path files).1.exchanges_eq_nil
  | run sources output =>
    exact conductsOwn_run_bind (conductsOwn_run sources output) fun _ ↦ conductsOwn_pure _
  | runFiles vertexFile fragmentFile output =>
    refine conductsOwn_run_bind (joinsUp_judgesOwn.converses_onFiles fun files ↦ ?_)
      fun sources ↦ ?_
    · exact (quiet_read tools.disk vertexFile fragmentFile files).1.exchanges_eq_nil
    · exact conductsOwn_run_bind (conductsOwn_run sources output) fun _ ↦ conductsOwn_pure _

theorem conductsOwn_performEach (tools : Tools σ ω φ) (steps : List Step) (bench : Workbench) :
    tools.driver.ConductsOwn World.driver (performEach tools steps bench) := by
  induction steps generalizing bench with
  | nil => exact conductsOwn_pure []
  | cons step rest ih =>
    have hperform : tools.driver.ConductsOwn World.driver (perform tools bench step) := by
      refine conductsOwn_bind (conductsOwn_yield bench step) fun result ↦ ?_
      cases result with
      | error error => exact conductsOwn_pure _
      | ok yielded => exact conductsOwn_pure _
    exact conductsOwn_bind hperform fun performed ↦
      conductsOwn_bind (ih performed.2) fun _ ↦ conductsOwn_pure _

end Workbench

end Runs

end ShaderBuild
