import ShaderBuild.Proofs.BuildTrails
import ShaderBuild.Proofs.ReportWriting
import ShaderBuild.Run

/-!
The trail of a whole run. With a writer that never fails, a run goes through the stages in order,
each followed by its block of the report, up to the first object that the driver refuses. If none is
refused, the report is flushed, the binary extracted and the file written. With any writer the calls
of a run are answered by the driver, and what holds of the dialogues of the stages and of dialogues
that are joined holds of that of the run (`JoinsUp.converses_run`).
-/

set_option autoImplicit false
set_option relaxedAutoImplicit false

namespace ShaderBuild

variable {σ τ ω φ α β : Type} {driver : Driver σ}

/-! ### Work on the parts of the world -/

namespace World

theorem run_onDriver (m : Attempt Event σ α) (world : World σ ω φ) :
    (onDriver m).run world =
      ⟨(m.run world.driver).value, (m.run world.driver).trail,
        { world with driver := (m.run world.driver).state }⟩ := rfl

theorem run_onWriter (m : Activity Event ω (Except IoError α)) (world : World σ ω φ) :
    (onWriter m).run world =
      ⟨(m world.writer).value.mapError .unwritableReport, (m world.writer).trail,
        { world with writer := (m world.writer).state }⟩ := by
  simp [onWriter]

theorem run_onFiles (m : Attempt Event φ α) (world : World σ ω φ) :
    (onFiles m).run world =
      ⟨(m.run world.files).value, (m.run world.files).trail,
        { world with files := (m.run world.files).state }⟩ := rfl

end World

theorem conducts_onDriver {m : Attempt Event σ α} {spec : Except Error α → List Event → Prop}
    (h : driver.Conducts id m.run spec) :
    driver.Conducts World.driver (World.onDriver m : Attempt Event (World σ ω φ) α).run spec :=
  fun world ↦ h world.driver

theorem conducts_onDriver_lift {m : Activity Event σ α} {spec : α → List Event → Prop}
    (h : driver.Conducts id m spec) :
    driver.Conducts World.driver
      (World.onDriver (ExceptT.lift m) : Attempt Event (World σ ω φ) α).run
      fun result trail ↦ ∃ a, result = .ok a ∧ spec a trail := by
  refine conducts_onDriver fun s ↦ ?_
  obtain ⟨hreplies, hspec⟩ := h.apply s
  rw [Attempt.run_lift_apply]
  exact ⟨hreplies, _, rfl, hspec⟩

theorem conducts_onWriter {m : Activity Event ω (Except IoError α)}
    {spec : Except Error α → List Event → Prop}
    (h : ∀ s, exchanges (m s).trail = [] ∧
      spec ((m s).value.mapError .unwritableReport) (m s).trail) :
    driver.Conducts World.driver (World.onWriter m : Attempt Event (World σ ω φ) α).run spec := by
  intro world
  obtain ⟨hnone, hspec⟩ := h world.writer
  rw [World.run_onWriter, hnone]
  exact ⟨rfl, hspec⟩

theorem conducts_onFiles {m : Attempt Event φ α} {spec : Except Error α → List Event → Prop}
    (h : ∀ s, exchanges (m.run s).trail = [] ∧ spec (m.run s).value (m.run s).trail) :
    driver.Conducts World.driver (World.onFiles m : Attempt Event (World σ ω φ) α).run spec := by
  intro world
  obtain ⟨hnone, hspec⟩ := h world.files
  rw [World.run_onFiles, hnone]
  exact ⟨rfl, hspec⟩

/-! ### Stages with their blocks -/

/-- The trail of a block of the report that was written whole. -/
structure BlockTrail (pieces : List String) (trail : List Event) : Prop where
  onlyWrites : OnlyWrites trail
  written_eq : written trail = Text.encode (Report.text pieces)

namespace Tools

/-- Work with the driver, and the block that reports what came of it. -/
def reported (tools : Tools σ ω φ) (work : Attempt Event σ α) (pieces : α → List String) :
    Attempt Event (World σ ω φ) α := do
  let unit ← World.onDriver work
  World.onWriter (tools.writer.writePieces (pieces unit))
  return unit

end Tools

theorem conducts_reported_bind {tools : Tools σ ω φ} {work : Attempt Event σ α}
    {pieces : α → List String} {next : α → Attempt Event (World σ ω φ) β}
    {middle : Except Error α → List Event → Prop} {spec : Except Error β → List Event → Prop}
    (hwriter : tools.writer.NeverRefuses)
    (hwork : tools.driver.Conducts id work.run middle)
    (herror : ∀ error trail, middle (.error error) trail → spec (.error error) trail)
    (hnext : ∀ a first block, middle (.ok a) first → BlockTrail (pieces a) block →
      tools.driver.Conducts World.driver (next a).run fun b rest ↦
        spec b (first ++ block ++ rest)) :
    tools.driver.Conducts World.driver (tools.reported work pieces >>= next).run spec := by
  rw [Tools.reported, bind_assoc]
  refine conducts_run_bind (conducts_onDriver hwork) herror fun a first hfirst ↦ ?_
  rw [bind_assoc]
  have hblock : tools.driver.Conducts World.driver
      (World.onWriter (tools.writer.writePieces (pieces a)) :
        Attempt Event (World σ ω φ) Unit).run
      fun result block ↦ result = .ok () ∧ BlockTrail (pieces a) block := by
    refine conducts_onWriter fun s ↦ ?_
    have honly := tools.writer.onlyWrites_writePieces (pieces a) s
    obtain ⟨hvalue, hwritten⟩ := hwriter.writePieces (pieces a) s
    exact ⟨honly.exchanges_eq_nil, by rw [hvalue]; rfl, honly, hwritten⟩
  refine conducts_run_bind hblock ?_ ?_
  · rintro error block ⟨herror, -⟩
    cases herror
  · rintro ⟨⟩ block ⟨-, hblock⟩
    rw [pure_bind]
    exact (hnext a first block hfirst hblock).mono fun b rest h ↦ by simpa using h

/-! ### The whole run -/

/-- What saving an artifact ends with, and its trail. -/
inductive SaveTrail (artifact : Artifact) (output : String) :
    Except Error Unit → List Event → Prop
  | failed (cause : IoError) :
    SaveTrail artifact output (.error (.unwritableOutput output cause))
      [.saved output artifact.payload (.error cause)]
  | saved :
    SaveTrail artifact output (.ok ())
      [.saved output artifact.payload (.ok ()),
        .logged (.binaryWritten artifact.payload.length artifact.format output)]

theorem saveTrail_save (disk : Disk φ) (artifact : Artifact) (output : String) (files : φ) :
    SaveTrail artifact output ((disk.save artifact output).run files).value
      ((disk.save artifact output).run files).trail := by
  rcases h : disk.write output artifact.payload files with ⟨cause | _, after⟩
  · simpa [Disk.save, ExceptT.run, h] using @SaveTrail.failed artifact output cause
  · simpa [Disk.save, ExceptT.run, h] using @SaveTrail.saved artifact output

theorem SaveTrail.exchanges_eq_nil {artifact : Artifact} {output : String}
    {result : Except Error Unit} {trail : List Event} (h : SaveTrail artifact output result trail) :
    exchanges trail = [] := by
  cases h <;> rfl

theorem conducts_save {tools : Tools σ ω φ} (artifact : Artifact) (output : String) :
    tools.driver.Conducts World.driver
      (World.onFiles (tools.disk.save artifact output) : Attempt Event (World σ ω φ) Unit).run
      (SaveTrail artifact output) := by
  refine conducts_onFiles fun files ↦ ?_
  have hsave := saveTrail_save tools.disk artifact output files
  exact ⟨hsave.exchanges_eq_nil, hsave⟩

/-- The summary of a run. -/
def summaryOf (vertex fragment : CompiledShader) (program : LinkedProgram) (artifact : Artifact) :
    Summary where
  vertexCompiled := vertex.status
  fragmentCompiled := fragment.status
  linked := program.status
  binaryFormat := artifact.format
  binarySize := artifact.payload.length

/-- What a run does after its last block. -/
def Tools.finish (tools : Tools σ ω φ) (output : String) (vertex fragment : CompiledShader)
    (program : LinkedProgram) : Attempt Event (World σ ω φ) Summary := do
  World.onWriter tools.writer.flushAll
  let artifact ← World.onDriver (ExceptT.lift (extract tools.driver program))
  World.onFiles (tools.disk.save artifact output)
  return summaryOf vertex fragment program artifact

theorem Tools.run_eq (tools : Tools σ ω φ) (sources : ShaderPair) (output : String) :
    tools.run sources output = (do
      let vertex ← tools.reported (compile tools.driver .vertex sources.vertex) Report.shaderPieces
      let fragment ←
        tools.reported (compile tools.driver .fragment sources.fragment) Report.shaderPieces
      let program ← tools.reported (link tools.driver vertex fragment) Report.programPieces
      tools.finish output vertex fragment program) := rfl

/-- What a run ends with after its last block, and the trail from there on. -/
inductive FinishTrail (output : String) (vertex fragment : CompiledShader)
    (program : LinkedProgram) : Except Error Summary → List Event → Prop
  | finished (artifact : Artifact) (saved : Except Error Unit) (extractTrail saveTrail : List Event)
      (hextract : ExtractTrail program artifact extractTrail)
      (hsave : SaveTrail artifact output saved saveTrail) :
    FinishTrail output vertex fragment program
      (saved.map fun _ ↦ summaryOf vertex fragment program artifact)
      (.flushed (.ok ()) :: (extractTrail ++ saveTrail))

theorem conducts_finish {tools : Tools σ ω φ} (hflush : tools.writer.AlwaysFlushes)
    (output : String) (vertex fragment : CompiledShader) (program : LinkedProgram) :
    tools.driver.Conducts World.driver (tools.finish output vertex fragment program).run
      (FinishTrail output vertex fragment program) := by
  unfold Tools.finish
  have hflushed : tools.driver.Conducts World.driver
      (World.onWriter tools.writer.flushAll : Attempt Event (World σ ω φ) Unit).run
      fun result trail ↦ result = .ok () ∧ trail = [.flushed (.ok ())] := by
    refine conducts_onWriter fun s ↦ ?_
    obtain ⟨t, ht⟩ := hflush s
    rw [Writer.flushAll_apply, ht]
    exact ⟨rfl, rfl, rfl⟩
  refine conducts_run_bind hflushed ?_ ?_
  · rintro error trail ⟨herror, -⟩
    cases herror
  rintro ⟨⟩ _ ⟨-, rfl⟩
  refine conducts_run_bind (conducts_onDriver_lift (conducts_extract program)) ?_ ?_
  · rintro error trail ⟨artifact, herror, -⟩
    cases herror
  rintro artifact extractTrail ⟨_, ⟨⟩, hextract⟩
  refine conducts_run_bind (conducts_save artifact output)
    (fun error saveTrail hsave ↦
      .finished artifact (.error error) extractTrail saveTrail hextract hsave) ?_
  rintro ⟨⟩ saveTrail hsave
  refine conducts_pure ?_
  rw [List.append_nil]
  exact .finished artifact (.ok ()) extractTrail saveTrail hextract hsave

/-- What a run ends with, and its trail, with a writer that never fails. -/
inductive RunTrail (sources : ShaderPair) (output : String) :
    Except Error Summary → List Event → Prop
  | vertexRefused (error : Error) (vertexTrail : List Event)
      (hvertex : CompileTrail .vertex sources.vertex (.error error) vertexTrail) :
    RunTrail sources output (.error error) vertexTrail
  | fragmentRefused (vertex : CompiledShader) (error : Error)
      (vertexTrail vertexBlock fragmentTrail : List Event)
      (hvertex : CompileTrail .vertex sources.vertex (.ok vertex) vertexTrail)
      (hvertexBlock : BlockTrail (Report.shaderPieces vertex) vertexBlock)
      (hfragment : CompileTrail .fragment sources.fragment (.error error) fragmentTrail) :
    RunTrail sources output (.error error) (vertexTrail ++ vertexBlock ++ fragmentTrail)
  | programRefused (vertex fragment : CompiledShader) (error : Error)
      (vertexTrail vertexBlock fragmentTrail fragmentBlock programTrail : List Event)
      (hvertex : CompileTrail .vertex sources.vertex (.ok vertex) vertexTrail)
      (hvertexBlock : BlockTrail (Report.shaderPieces vertex) vertexBlock)
      (hfragment : CompileTrail .fragment sources.fragment (.ok fragment) fragmentTrail)
      (hfragmentBlock : BlockTrail (Report.shaderPieces fragment) fragmentBlock)
      (hprogram : LinkTrail vertex fragment (.error error) programTrail) :
    RunTrail sources output (.error error)
      (vertexTrail ++ vertexBlock ++ (fragmentTrail ++ fragmentBlock ++ programTrail))
  | finished (vertex fragment : CompiledShader) (program : LinkedProgram)
      (result : Except Error Summary)
      (vertexTrail vertexBlock fragmentTrail fragmentBlock programTrail programBlock finishTrail :
        List Event)
      (hvertex : CompileTrail .vertex sources.vertex (.ok vertex) vertexTrail)
      (hvertexBlock : BlockTrail (Report.shaderPieces vertex) vertexBlock)
      (hfragment : CompileTrail .fragment sources.fragment (.ok fragment) fragmentTrail)
      (hfragmentBlock : BlockTrail (Report.shaderPieces fragment) fragmentBlock)
      (hprogram : LinkTrail vertex fragment (.ok program) programTrail)
      (hprogramBlock : BlockTrail (Report.programPieces program) programBlock)
      (hfinish : FinishTrail output vertex fragment program result finishTrail) :
    RunTrail sources output result
      (vertexTrail ++ vertexBlock ++ (fragmentTrail ++ fragmentBlock ++
        (programTrail ++ programBlock ++ finishTrail)))

theorem conducts_run {tools : Tools σ ω φ} (hwriter : tools.writer.NeverRefuses)
    (hflush : tools.writer.AlwaysFlushes) (sources : ShaderPair) (output : String) :
    tools.driver.Conducts World.driver (tools.run sources output).run
      (RunTrail sources output) := by
  rw [Tools.run_eq]
  refine conducts_reported_bind hwriter (conducts_compile .vertex sources.vertex)
    (fun error trail h ↦ .vertexRefused error trail h)
    fun vertex vertexTrail vertexBlock hvertex hvertexBlock ↦ ?_
  refine conducts_reported_bind hwriter (conducts_compile .fragment sources.fragment)
    (fun error trail h ↦ .fragmentRefused vertex error _ _ trail hvertex hvertexBlock h)
    fun fragment fragmentTrail fragmentBlock hfragment hfragmentBlock ↦ ?_
  refine conducts_reported_bind hwriter (conducts_link vertex fragment)
    (fun error trail h ↦ .programRefused vertex fragment error _ _ _ _ trail hvertex
      hvertexBlock hfragment hfragmentBlock h)
    fun program programTrail programBlock hprogram hprogramBlock ↦ ?_
  refine (conducts_finish hflush output vertex fragment program).mono
    fun result finishTrail hfinish ↦ ?_
  exact .finished vertex fragment program result vertexTrail vertexBlock fragmentTrail
    fragmentBlock programTrail programBlock finishTrail hvertex hvertexBlock hfragment
    hfragmentBlock hprogram hprogramBlock hfinish

/-! ### Dialogues of one kind, with any writer -/

/-- A kind of dialogue that has the empty one, and with two dialogues the one that joins them. -/
structure JoinsUp (kind : List Exchange → Prop) : Prop where
  nil : kind []
  append : ∀ first rest, kind first → kind rest → kind (first ++ rest)

theorem joinsUp_true : JoinsUp fun _ ↦ True := ⟨trivial, fun _ _ _ _ ↦ trivial⟩

/-- From every state, the calls of the activity are answered by the driver, and with their answers
they are a dialogue of the kind. -/
def Driver.Converses (driver : Driver σ) (part : τ → σ) (kind : List Exchange → Prop)
    (m : Activity Event τ α) : Prop :=
  driver.Conducts part m fun _ trail ↦ kind (exchanges trail)

theorem converses_onDriver_lift {kind : List Exchange → Prop} {m : Activity Event σ α}
    (h : driver.Converses id kind m) :
    driver.Converses World.driver kind
      (World.onDriver (ExceptT.lift m) : Attempt Event (World σ ω φ) α).run :=
  (conducts_onDriver_lift h).mono fun _ _ ⟨_, _, hkind⟩ ↦ hkind

namespace JoinsUp

variable {kind : List Exchange → Prop} {part : τ → σ}

theorem converses_pure (hkind : JoinsUp kind) (value : α) :
    driver.Converses part kind (pure value) := conducts_pure hkind.nil

theorem converses_bind (hkind : JoinsUp kind) {m : Activity Event τ α}
    {next : α → Activity Event τ β} (hm : driver.Converses part kind m)
    (hnext : ∀ a, driver.Converses part kind (next a)) :
    driver.Converses part kind (m >>= next) := by
  refine conducts_bind hm fun a first hfirst ↦ (hnext a).mono fun b rest hrest ↦ ?_
  rw [exchanges_append]
  exact hkind.append _ _ hfirst hrest

theorem converses_run_bind (hkind : JoinsUp kind) {m : Attempt Event τ α}
    {next : α → Attempt Event τ β} (hm : driver.Converses part kind m.run)
    (hnext : ∀ a, driver.Converses part kind (next a).run) :
    driver.Converses part kind (m >>= next).run := by
  rw [ExceptT.run_bind]
  refine hkind.converses_bind hm fun result ↦ ?_
  cases result with
  | error error => exact hkind.converses_pure _
  | ok a => exact hnext a

theorem converses_onWriter (hkind : JoinsUp kind) {m : Activity Event ω (Except IoError α)}
    (h : ∀ w, exchanges (m w).trail = []) :
    driver.Converses World.driver kind
      (World.onWriter m : Attempt Event (World σ ω φ) α).run := by
  refine conducts_onWriter fun w ↦ ⟨h w, ?_⟩
  rw [h w]
  exact hkind.nil

theorem converses_onFiles (hkind : JoinsUp kind) {m : Attempt Event φ α}
    (h : ∀ files, exchanges (m.run files).trail = []) :
    driver.Converses World.driver kind
      (World.onFiles m : Attempt Event (World σ ω φ) α).run := by
  refine conducts_onFiles fun files ↦ ⟨h files, ?_⟩
  rw [h files]
  exact hkind.nil

variable {tools : Tools σ ω φ}

theorem converses_writePieces (hkind : JoinsUp kind) (pieces : List String) :
    driver.Converses World.driver kind
      (World.onWriter (tools.writer.writePieces pieces) : Attempt Event (World σ ω φ) Unit).run :=
  hkind.converses_onWriter fun w ↦
    (tools.writer.onlyWrites_writePieces pieces w).exchanges_eq_nil

theorem converses_reported_bind (hkind : JoinsUp kind) {work : Attempt Event σ α}
    {pieces : α → List String} {next : α → Attempt Event (World σ ω φ) β}
    (hwork : tools.driver.Converses id kind work.run)
    (hnext : ∀ a, tools.driver.Converses World.driver kind (next a).run) :
    tools.driver.Converses World.driver kind (tools.reported work pieces >>= next).run := by
  refine hkind.converses_run_bind ?_ hnext
  refine hkind.converses_run_bind (conducts_onDriver hwork) fun unit ↦ ?_
  exact hkind.converses_run_bind (hkind.converses_writePieces _) fun _ ↦ hkind.converses_pure _

theorem converses_save (hkind : JoinsUp kind) (artifact : Artifact) (path : String) :
    driver.Converses World.driver kind
      (World.onFiles (tools.disk.save artifact path) : Attempt Event (World σ ω φ) Unit).run :=
  hkind.converses_onFiles fun files ↦
    (saveTrail_save tools.disk artifact path files).exchanges_eq_nil

/-- The dialogue of a run is of a kind that joins up if those of its stages are. -/
theorem converses_run (hkind : JoinsUp kind)
    (hcompile : ∀ stage source,
      tools.driver.Converses id kind (compile tools.driver stage source).run)
    (hlink : ∀ vertex fragment,
      tools.driver.Converses id kind (link tools.driver vertex fragment).run)
    (hextract : ∀ program, tools.driver.Converses id kind (extract tools.driver program))
    (sources : ShaderPair) (output : String) :
    tools.driver.Converses World.driver kind (tools.run sources output).run := by
  rw [Tools.run_eq]
  refine hkind.converses_reported_bind (hcompile .vertex sources.vertex) fun vertex ↦ ?_
  refine hkind.converses_reported_bind (hcompile .fragment sources.fragment) fun fragment ↦ ?_
  refine hkind.converses_reported_bind (hlink vertex fragment) fun program ↦ ?_
  refine hkind.converses_run_bind (hkind.converses_onWriter fun _ ↦ rfl) fun _ ↦ ?_
  refine hkind.converses_run_bind (converses_onDriver_lift (hextract program)) fun artifact ↦ ?_
  exact hkind.converses_run_bind (hkind.converses_save artifact output) fun _ ↦
    hkind.converses_pure _

end JoinsUp

/-- The calls of a run are answered by the driver, whatever the writer and the files do. -/
theorem Tools.replies_run (tools : Tools σ ω φ) (sources : ShaderPair) (output : String)
    (world : World σ ω φ) :
    let ending := (tools.run sources output).run world
    tools.driver.Replies world.driver (exchanges ending.trail) ending.state.driver := by
  have hconverses : tools.driver.Converses World.driver (fun _ ↦ True)
      (tools.run sources output).run :=
    joinsUp_true.converses_run
      (fun stage source ↦ (conducts_compile stage source).mono fun _ _ _ ↦ trivial)
      (fun vertex fragment ↦ (conducts_link vertex fragment).mono fun _ _ _ ↦ trivial)
      (fun program ↦ (conducts_extract program).mono fun _ _ _ ↦ trivial) sources output
  exact (hconverses world).1

end ShaderBuild
