import ShaderBuild.Proofs.CommandPhases
import ShaderBuild.Proofs.FetchedBinaries
import ShaderBuild.Proofs.WellFormedBytes

/-!
The bytes of sources on their way. A file is loaded as the text whose encoding it holds, if it holds
one; a run hands that text to the driver for the stage it was loaded for, and the compiled shader
keeps it. An artifact comes back from its file in the same way, if its payload happens to be a text
(`sources_reach_driver`).
-/

set_option autoImplicit false
set_option relaxedAutoImplicit false

namespace ShaderBuild

variable {σ ω φ α β : Type}

/-! ### Loading bytes -/

/-- What comes of loading a file that holds these bytes. -/
structure LoadedAs (path : String) (bytes : Bytes) (result : Except Error String) : Prop where
  text : Text.WellFormed bytes → ∃ text, result = .ok text ∧ Text.encode text = bytes
  illEncoded : ¬ Text.WellFormed bytes → result = .error (.illEncodedSource path)
  exists_text_iff :
    (∃ text, result = .ok text ∧ Text.encode text = bytes) ↔ Text.WellFormed bytes

theorem Disk.loadedAs_of_read {disk : Disk φ} {path : String} {files : φ} {bytes : Bytes}
    (hread : disk.read path files = .ok bytes) :
    LoadedAs path bytes ((disk.loadSource path).run files).value := by
  have htext : Text.WellFormed bytes → ∃ text,
      ((disk.loadSource path).run files).value = .ok text ∧ Text.encode text = bytes := by
    intro hwell
    obtain ⟨text, rfl⟩ := Text.exists_encode_eq hwell
    exact ⟨text, gives_iff.mp (.text _ text hread (Text.decode?_eq_some_iff.mpr rfl)), rfl⟩
  refine ⟨htext, fun hill ↦ ?_, ?_, htext⟩
  · have hnone : Text.decode? bytes = none := by
      rwa [← Text.isSome_decode?_iff, Bool.not_eq_true, Option.isSome_eq_false_iff,
        Option.isNone_iff_eq_none] at hill
    exact gives_iff.mp (.illEncoded bytes hread hnone)
  · rintro ⟨text, -, rfl⟩
    exact Text.wellFormed_encode text

/-- What was saved is loaded as a file that holds the payload. -/
theorem Disk.loadedAs_of_save {disk : Disk φ} {artifact : Artifact} {path : String} {files : φ}
    (hreplaces : disk.ReplacesAt path files)
    (hsaved : ((disk.save artifact path).run files).value = .ok ()) :
    LoadedAs path artifact.payload
      ((disk.loadSource path).run ((disk.save artifact path).run files).state).value :=
  loadedAs_of_read (read_of_save hreplaces hsaved)

/-! ### Handing over sources -/

/-- Whether the call makes a shader object or submits a source to one. -/
def Call.isSubmission : Call → Bool
  | .createShader _ => true
  | .compileShader _ _ => true
  | _ => false

/-- The part of the dialogue of a trail that makes shader objects and submits sources to them. -/
def submissions (trail : List Event) : List Exchange :=
  (exchanges trail).filter fun exchange ↦ exchange.call.isSubmission

/-- A shader object is made for a stage, and it is handed the source. -/
def submission (stage : Stage) (shader : ShaderId) (source : String) : List Exchange :=
  [⟨.createShader stage, .ok shader⟩, ⟨.compileShader shader source, ()⟩]

@[simp]
theorem submissions_append (first rest : List Event) :
    submissions (first ++ rest) = submissions first ++ submissions rest := by
  rw [submissions, exchanges_append, List.filter_append, submissions, submissions]

theorem submissions_eq_nil_of_exchanges {trail : List Event} (h : exchanges trail = []) :
    submissions trail = [] := by
  rw [submissions, h, List.filter_nil]

theorem submissions_compileTrail_of_error {stage : Stage} {source : String} {error : Error}
    {trail : List Event} (h : CompileTrail stage source (.error error) trail) :
    submissions trail = [⟨.createShader stage, .error error⟩] := by
  rw [submissions, exchanges_compileTrail_of_error h]
  rfl

/-- A compiled shader keeps the source that was handed over, for the stage that it was made for. -/
structure KeepsSource (stage : Stage) (source : String) (unit : CompiledShader)
    (trail : List Event) : Prop where
  stage_eq : unit.stage = stage
  source_eq : unit.source = source
  submissions_eq : submissions trail = submission stage unit.id source

theorem CompileTrail.keeps {stage : Stage} {source : String} {unit : CompiledShader}
    {trail : List Event} (h : CompileTrail stage source (.ok unit) trail) :
    KeepsSource stage source unit trail := by
  cases h with
  | compiled id status infoLog created submitted judged read =>
    refine ⟨rfl, rfl, ?_⟩
    rw [submissions, exchanges_append, exchanges_when_logged]
    rfl

theorem keeps_compile {driver : Driver σ} {stage : Stage} {source : String} {s : σ}
    {unit : CompiledShader} (h : ((compile driver stage source).run s).value = .ok unit) :
    KeepsSource stage source unit ((compile driver stage source).run s).trail := by
  have htrail := ((@conducts_compile σ driver stage source).apply s).2
  rw [h] at htrail
  exact htrail.keeps

/-! ### A stage with its block -/

/-- The ways in which a stage with its block and what comes after it end. Whatever comes of it, no
source is submitted while the block is written. -/
inductive StageEnding (work : Ending Event σ (Except Error α))
    (next : α → World σ ω φ → Ending Event (World σ ω φ) (Except Error β)) :
    Ending Event (World σ ω φ) (Except Error β) → Prop
  | refused (error : Error) (trail : List Event) (after : World σ ω φ)
      (hwork : work.value = .error error) (htrail : submissions trail = submissions work.trail) :
    StageEnding work next ⟨.error error, trail, after⟩
  | unreported (unit : α) (cause : IoError) (trail : List Event) (after : World σ ω φ)
      (hwork : work.value = .ok unit) (htrail : submissions trail = submissions work.trail) :
    StageEnding work next ⟨.error (.unwritableReport cause), trail, after⟩
  | reported (unit : α) (trail : List Event) (after : World σ ω φ)
      (hwork : work.value = .ok unit) (htrail : submissions trail = submissions work.trail) :
    StageEnding work next ⟨(next unit after).value, trail ++ (next unit after).trail,
      (next unit after).state⟩

theorem Tools.stageEnding_reported_bind (tools : Tools σ ω φ) (work : Attempt Event σ α)
    (pieces : α → List String) (next : α → Attempt Event (World σ ω φ) β) (world : World σ ω φ) :
    StageEnding (work.run world.driver) (fun unit ↦ (next unit).run)
      ((tools.reported work pieces >>= next).run world) := by
  have hquiet : ∀ unit,
      submissions ((work.run world.driver).trail ++
        (tools.writer.writePieces (pieces unit) world.writer).trail) =
        submissions (work.run world.driver).trail := by
    intro unit
    have hblock := tools.writer.onlyWrites_writePieces (pieces unit) world.writer
    rw [submissions_append, submissions_eq_nil_of_exchanges hblock.exchanges_eq_nil,
      List.append_nil]
  cases hwork : (work.run world.driver).value with
  | error error =>
    rw [Tools.run_reported_of_refused next hwork]
    exact .refused error _ _ hwork rfl
  | ok unit =>
    cases hblock : (tools.writer.writePieces (pieces unit) world.writer).value with
    | error cause =>
      rw [Tools.run_reported_of_unwritten next hwork hblock]
      exact .unreported unit cause _ _ hwork (hquiet unit)
    | ok =>
      rw [Tools.run_reported_of_written next hwork hblock]
      exact .reported unit _ _ hwork (hquiet unit)

/-! ### What comes after the shaders -/

theorem submissions_linkTrail {vertex fragment : CompiledShader}
    {result : Except Error LinkedProgram} {trail : List Event}
    (h : LinkTrail vertex fragment result trail) : submissions trail = [] := by
  have hinterface : ∀ (interface : Interface) (program : ProgramId) (replies : InterfaceReplies),
      (replies.dialogue interface program).filter
        (fun exchange ↦ exchange.call.isSubmission) = [] := by
    intro interface program replies
    refine List.filter_eq_nil_iff.mpr fun exchange hexchange ↦ ?_
    have habout := InterfaceReplies.isAbout_of_mem_dialogue hexchange
    generalize exchange.call = call at habout
    cases habout <;> exact Bool.false_ne_true
  cases hresult : result with
  | error error =>
    rw [submissions, exchanges_linkTrail_of_error (hresult ▸ h)]
    rfl
  | ok unit =>
    obtain ⟨replies, -, hdialogue⟩ := exchanges_linkTrail (hresult ▸ h)
    rw [submissions, hdialogue, ProgramReplies.dialogue]
    simp only [List.filter_append, hinterface, List.append_nil]
    split_ifs <;> rfl

theorem submissions_finish (tools : Tools σ ω φ) (output : String)
    (vertex fragment : CompiledShader) (program : LinkedProgram) (world : World σ ω φ) :
    submissions ((tools.finish output vertex fragment program).run world).trail = [] := by
  rcases hflush : (tools.writer.flush world.writer).1 with cause | ⟨⟩
  · rw [Tools.run_finish_of_unflushed hflush]
    rfl
  · rw [Tools.run_finish_of_flushed hflush]
    have hextract := (@conducts_extract _ tools.driver program world.driver).2
    have hsave := saveTrail_save tools.disk (extract tools.driver program world.driver).value output
      world.files
    obtain ⟨replies, hreplies⟩ := exchanges_extractTrail hextract
    rw [submissions, exchanges_flushed_cons, exchanges_append, hreplies, hsave.exchanges_eq_nil]
    rfl

/-- What a run does once both shaders are reported. -/
def Tools.linkAndFinish (tools : Tools σ ω φ) (output : String) (vertex fragment : CompiledShader) :
    Attempt Event (World σ ω φ) Summary :=
  tools.reported (link tools.driver vertex fragment) Report.programPieces >>=
    tools.finish output vertex fragment

theorem submissions_linkAndFinish (tools : Tools σ ω φ) (output : String)
    (vertex fragment : CompiledShader) (world : World σ ω φ) :
    submissions ((tools.linkAndFinish output vertex fragment).run world).trail = [] := by
  have hlink := submissions_linkTrail
    ((@conducts_link σ tools.driver vertex fragment).apply world.driver).2
  have hending := tools.stageEnding_reported_bind (link tools.driver vertex fragment)
    Report.programPieces (tools.finish output vertex fragment) world
  rw [Tools.linkAndFinish]
  generalize (tools.reported _ _ >>= tools.finish output vertex fragment).run world = ending
    at hending ⊢
  cases hending with
  | refused error trail after hwork htrail => exact htrail.trans hlink
  | unreported unit cause trail after hwork htrail => exact htrail.trans hlink
  | reported unit trail after hwork htrail =>
    rw [submissions_append, htrail, hlink, submissions_finish, List.append_nil]

/-! ### A whole run -/

/-- What a run submits from the fragment stage on, by what it ends with. -/
inductive SubmitsFragment (source : String) : Except Error Summary → List Exchange → Prop
  | refused (error : Error) :
    SubmitsFragment source (.error error) [⟨.createShader .fragment, .error error⟩]
  | submitted (fragment : ShaderId) (result : Except Error Summary) :
    SubmitsFragment source result (submission .fragment fragment source)

/-- The sources that a run submits, by what it ends with: the vertex source and then the fragment
source, unless an object is refused before or the block of the vertex shader cannot be written. -/
inductive Submits (sources : ShaderPair) : Except Error Summary → List Exchange → Prop
  | vertexRefused (error : Error) :
    Submits sources (.error error) [⟨.createShader .vertex, .error error⟩]
  | vertexUnreported (vertex : ShaderId) (cause : IoError) :
    Submits sources (.error (.unwritableReport cause)) (submission .vertex vertex sources.vertex)
  | vertexReported (vertex : ShaderId) (result : Except Error Summary) (later : List Exchange)
      (hlater : SubmitsFragment sources.fragment result later) :
    Submits sources result (submission .vertex vertex sources.vertex ++ later)

/-- What a run does once the vertex shader is reported. -/
def Tools.fromFragment (tools : Tools σ ω φ) (source output : String) (vertex : CompiledShader) :
    Attempt Event (World σ ω φ) Summary :=
  tools.reported (compile tools.driver .fragment source) Report.shaderPieces >>=
    tools.linkAndFinish output vertex

theorem Tools.submitsFragment (tools : Tools σ ω φ) (source output : String)
    (vertex : CompiledShader) (world : World σ ω φ) :
    let ending := (tools.fromFragment source output vertex).run world
    SubmitsFragment source ending.value (submissions ending.trail) := by
  have hcompile := ((@conducts_compile σ tools.driver .fragment source).apply world.driver).2
  have hending := tools.stageEnding_reported_bind (compile tools.driver .fragment source)
    Report.shaderPieces (tools.linkAndFinish output vertex) world
  rw [Tools.fromFragment]
  generalize (tools.reported _ _ >>= tools.linkAndFinish output vertex).run world = ending
    at hending ⊢
  cases hending with
  | refused error trail after hwork htrail =>
    rw [hwork] at hcompile
    simp only [htrail, submissions_compileTrail_of_error hcompile]
    exact .refused error
  | unreported unit cause trail after hwork htrail =>
    simp only [htrail, (keeps_compile hwork).submissions_eq]
    exact .submitted unit.id _
  | reported unit trail after hwork htrail =>
    simp only [submissions_append, htrail, (keeps_compile hwork).submissions_eq,
      submissions_linkAndFinish, List.append_nil]
    exact .submitted unit.id _

theorem Tools.submits_run (tools : Tools σ ω φ) (sources : ShaderPair) (output : String)
    (world : World σ ω φ) :
    let ending := (tools.run sources output).run world
    Submits sources ending.value (submissions ending.trail) := by
  have hrun : tools.run sources output =
      tools.reported (compile tools.driver .vertex sources.vertex) Report.shaderPieces >>=
        tools.fromFragment sources.fragment output := rfl
  have hcompile := ((@conducts_compile σ tools.driver .vertex sources.vertex).apply world.driver).2
  have hending := tools.stageEnding_reported_bind (compile tools.driver .vertex sources.vertex)
    Report.shaderPieces (tools.fromFragment sources.fragment output) world
  rw [hrun]
  generalize (tools.reported _ _ >>= tools.fromFragment sources.fragment output).run world = ending
    at hending ⊢
  cases hending with
  | refused error trail after hwork htrail =>
    rw [hwork] at hcompile
    simp only [htrail, submissions_compileTrail_of_error hcompile]
    exact .vertexRefused error
  | unreported unit cause trail after hwork htrail =>
    simp only [htrail, (keeps_compile hwork).submissions_eq]
    exact .vertexUnreported unit.id cause
  | reported unit trail after hwork htrail =>
    simp only [submissions_append, htrail, (keeps_compile hwork).submissions_eq]
    exact .vertexReported unit.id _ _ (tools.submitsFragment sources.fragment output unit after)

/-! ### From files to the driver and back -/

/-- The text of a file that is loaded is the one that its bytes encode, and no flawed file is
loaded. Of a pair of files that can be loaded, a run submits those texts to the driver, each to a
shader object of its own stage and unless it ends before; a compiled shader keeps the text that was
submitted. What a file held before an artifact was saved in it makes no difference to what is loaded
from it then. -/
theorem sources_reach_driver (tools : Tools σ ω φ) (world : World σ ω φ) :
    (∀ path bytes, tools.disk.read path world.files = .ok bytes →
      LoadedAs path bytes ((tools.disk.loadSource path).run world.files).value) ∧
    (∀ bytes, ¬ Text.WellFormed bytes ↔
      ∃ front rest, bytes = front ++ rest ∧ Text.WellFormed front ∧ Text.Flawed rest) ∧
    (∀ vertexFile fragmentFile output vertexBytes fragmentBytes,
      tools.disk.read vertexFile world.files = .ok vertexBytes → Text.WellFormed vertexBytes →
      tools.disk.read fragmentFile world.files = .ok fragmentBytes →
      Text.WellFormed fragmentBytes →
      ∃ sources : ShaderPair, Text.encode sources.vertex = vertexBytes ∧
        Text.encode sources.fragment = fragmentBytes ∧
        ((ShaderPair.read tools.disk vertexFile fragmentFile).run world.files).value =
          .ok sources ∧
        let build : Attempt Event (World σ ω φ) Summary := do
          let sources ← World.onFiles (ShaderPair.read tools.disk vertexFile fragmentFile)
          tools.run sources output
        let ending := build.run world
        tools.driver.Replies world.driver (exchanges ending.trail) ending.state.driver ∧
          Submits sources ending.value (submissions ending.trail)) ∧
    (∀ stage source s unit,
      let ending := (compile tools.driver stage source).run s
      ending.value = .ok unit →
        tools.driver.Replies s (exchanges ending.trail) ending.state ∧
          KeepsSource stage source unit ending.trail) ∧
    (∀ artifact path, tools.disk.ReplacesAt path world.files →
      ((tools.disk.save artifact path).run world.files).value = .ok () →
      LoadedAs path artifact.payload ((tools.disk.loadSource path).run
        ((tools.disk.save artifact path).run world.files).state).value) ∧
    ∀ (artifact : Artifact) (path : String) (tree : FileTree), tree.IsRegular path →
      ((FileTree.disk.save artifact path).run tree).value = .ok () →
      LoadedAs path artifact.payload ((FileTree.disk.loadSource path).run
        ((FileTree.disk.save artifact path).run tree).state).value := by
  refine ⟨fun path bytes ↦ Disk.loadedAs_of_read, Text.not_wellFormed_iff, ?_,
    fun stage source s unit hunit ↦ ⟨(conducts_compile stage source s).1, keeps_compile hunit⟩,
    fun artifact path ↦ Disk.loadedAs_of_save,
    fun artifact path tree hregular ↦
      Disk.loadedAs_of_save (FileTree.replacesAt_of_isRegular hregular)⟩
  intro vertexFile fragmentFile output vertexBytes fragmentBytes hvertex hvertexText hfragment
    hfragmentText
  obtain ⟨vertex, hvertexLoaded, rfl⟩ := (Disk.loadedAs_of_read hvertex).text hvertexText
  obtain ⟨fragment, hfragmentLoaded, rfl⟩ := (Disk.loadedAs_of_read hfragment).text hfragmentText
  have husable : BothUsable tools.disk world.files vertexFile fragmentFile ⟨vertex, fragment⟩ :=
    ⟨Disk.gives_iff.mpr hvertexLoaded, Disk.gives_iff.mpr hfragmentLoaded⟩
  refine ⟨⟨vertex, fragment⟩, rfl, rfl, husable.value_read, ?_⟩
  intro build ending
  obtain ⟨hquiet, hfiles⟩ := quiet_read tools.disk vertexFile fragmentFile world.files
  have hread : ((World.onFiles (ShaderPair.read tools.disk vertexFile fragmentFile) :
      Attempt Event (World σ ω φ) ShaderPair).run world).value = .ok ⟨vertex, fragment⟩ :=
    husable.value_read
  have hbuild : ending = _ := Attempt.run_bind_of_ok _ hread
  rw [hbuild, World.run_onFiles, hfiles]
  refine ⟨?_, ?_⟩
  · rw [exchanges_append, hquiet.exchanges_eq_nil, List.nil_append]
    exact tools.replies_run ⟨vertex, fragment⟩ output world
  · rw [submissions_append, submissions_eq_nil_of_exchanges hquiet.exchanges_eq_nil,
      List.nil_append]
    exact tools.submits_run ⟨vertex, fragment⟩ output world

/-- A byte order mark, a NUL, CR LF and blanks reach the driver; a file in another encoding does
not, and a surrogate that was saved is not loaded. -/
theorem sources_reach_driver_marked :
    let tools : Tools Canned Sink.Content FileTree :=
      ⟨Canned.driver, ({} : Sink).writer, FileTree.disk⟩
    let vertexBytes : Bytes := [0xEF, 0xBB, 0xBF, 0x00, 0x20, 0x0D, 0x0A]
    let fragmentBytes : Bytes := [0x20, 0x0D, 0x0A, 0x20]
    let foreignBytes : Bytes := [0x2F, 0x2F, 0xE9, 0x0A]
    let files := ((FileTree.empty.put ["work", "pair.vert"] (.file vertexBytes)).put
      ["work", "pair.frag"] (.file fragmentBytes)).put ["work", "foreign.frag"] (.file foreignBytes)
    let artifact : Artifact := ⟨0x8AF0, [0xED, 0xA0, 0x80]⟩
    let saved := (FileTree.disk.save artifact "foreign.frag").run files
    let build : Attempt Event (World Canned Sink.Content FileTree) Summary := do
      let sources ← World.onFiles (ShaderPair.read tools.disk "pair.vert" "pair.frag")
      tools.run sources "pair.bin"
    let ending := build.run ⟨Canned.simplePair, {}, files⟩
    ((tools.disk.loadSource "foreign.frag").run files).value =
        .error (.illEncodedSource "foreign.frag") ∧
      (∃ sources : ShaderPair, Text.encode sources.vertex = vertexBytes ∧
        Text.encode sources.fragment = fragmentBytes ∧
        tools.driver.Replies Canned.simplePair (exchanges ending.trail) ending.state.driver ∧
        Submits sources ending.value (submissions ending.trail)) ∧
      (∃ unit, ((compile Canned.driver .fragment "\r\n").run Canned.simplePair).value = .ok unit ∧
        KeepsSource .fragment "\r\n" unit
          ((compile Canned.driver .fragment "\r\n").run Canned.simplePair).trail) ∧
      saved.value = .ok () ∧
      ((FileTree.disk.loadSource "foreign.frag").run saved.state).value =
        .error (.illEncodedSource "foreign.frag") := by
  intro tools vertexBytes fragmentBytes foreignBytes files artifact saved build ending
  obtain ⟨hloaded, hflawed, hsubmits, hkeeps, -, hsaved⟩ :=
    sources_reach_driver tools ⟨Canned.simplePair, {}, files⟩
  have hforeign : ¬ Text.WellFormed foreignBytes :=
    (hflawed foreignBytes).mpr ⟨[0x2F, 0x2F], [0xE9, 0x0A], rfl, Text.wellFormed_encode "//",
      .truncated [0x0A] rfl (by decide)⟩
  have hsurrogate : ¬ Text.WellFormed artifact.payload :=
    (hflawed artifact.payload).mpr ⟨[], artifact.payload, rfl, .nil,
      @Text.Flawed.surrogate 0xED [0xA0, 0x80] [] ⟨rfl, List.all_eq_true.mp rfl⟩ (by decide)
        (by decide)⟩
  have hvertexText : Text.WellFormed vertexBytes :=
    Text.wellFormed_encode "\uFEFF\x00 \r\n"
  have hfragmentText : Text.WellFormed fragmentBytes := Text.wellFormed_encode " \r\n "
  have hregular : files.IsRegular "foreign.frag" := by
    intro place name slashAfter device htarget
    have hplace : files.target "foreign.frag" = .ok (.entry ["work"] "foreign.frag" false) := by
      decide +kernel
    have hfound : files.find? ["work", "foreign.frag"] = some (.file foreignBytes) :=
      FileTree.find?_put_self (by decide)
    rw [hplace] at htarget
    cases htarget
    exact fun hdevice ↦ absurd (hfound.symm.trans hdevice) nofun
  have hdone : saved.value = .ok () := by decide +kernel
  obtain ⟨sources, hvertex, hfragment, -, hdialogue⟩ := hsubmits "pair.vert" "pair.frag" "pair.bin"
    vertexBytes fragmentBytes (by decide +kernel) hvertexText (by decide +kernel) hfragmentText
  exact ⟨(hloaded "foreign.frag" foreignBytes (by decide +kernel)).illEncoded hforeign,
    ⟨sources, hvertex, hfragment, hdialogue⟩, ⟨_, rfl, (hkeeps .fragment "\r\n" _ _ rfl).2⟩,
    hdone, (hsaved artifact "foreign.frag" files hregular hdone).illEncoded hsurrogate⟩

end ShaderBuild
