import ShaderBuild.Proofs.RunOutcome

/-!
What a run finds out. The driver alone settles the units that a run comes to: a compiled shader of
each stage and the linked program. They are what the run reports, so the bytes of a complete report
are those of the units, whatever the writer is and however it takes them; and the report is flushed
just if it is complete (`flushed_run_iff`). A run that nobody stops comes to its end with them
(`run_of_finds`).
-/

set_option autoImplicit false
set_option relaxedAutoImplicit false

namespace ShaderBuild

variable {σ ω φ α β : Type}

/-- The units that a run reports. -/
structure Findings where
  vertex : CompiledShader
  fragment : CompiledShader
  program : LinkedProgram
  deriving DecidableEq, Repr

/-- The pieces of the whole report. -/
def Findings.pieces (found : Findings) : List String :=
  Report.shaderPieces found.vertex ++ Report.shaderPieces found.fragment ++
    Report.programPieces found.program

/-- From state `s` on, the driver lets the vertex source be compiled, then the fragment source, and
lets both be linked; this yields the units, and leaves the driver in state `t`. -/
structure Driver.Finds (driver : Driver σ) (sources : ShaderPair) (s : σ) (found : Findings)
    (t : σ) : Prop where
  vertex : ((compile driver .vertex sources.vertex).run s).value = .ok found.vertex
  fragment : ((compile driver .fragment sources.fragment).run
    ((compile driver .vertex sources.vertex).run s).state).value = .ok found.fragment
  program : ((link driver found.vertex found.fragment).run
    ((compile driver .fragment sources.fragment).run
      ((compile driver .vertex sources.vertex).run s).state).state).value = .ok found.program
  state_eq : ((link driver found.vertex found.fragment).run
    ((compile driver .fragment sources.fragment).run
      ((compile driver .vertex sources.vertex).run s).state).state).state = t

/-! ### Stages and findings -/

section Stages

variable {driver : Driver σ} {sources : ShaderPair} {s t : σ} {found : Findings}

theorem Driver.Finds.length_stages (h : driver.Finds sources s found t) :
    (driver.stages sources s).length = 3 := by
  rw [Driver.stages, stagesFrom_of_ok _ _ h.vertex, stagesFrom_of_ok _ _ h.fragment,
    stagesFrom_of_ok _ _ h.program]
  rfl

theorem Driver.Finds.reportOf_stages (h : driver.Finds sources s found t) :
    reportOf (driver.stages sources s) = Text.encode (Report.text found.pieces) := by
  rw [Driver.stages, stagesFrom_of_ok _ _ h.vertex, stagesFrom_of_ok _ _ h.fragment,
    stagesFrom_of_ok _ _ h.program, Findings.pieces, Text.encode_text_append,
    Text.encode_text_append]
  simp [reportOf]

theorem Driver.Finds.unique {found' : Findings} {t' : σ} (h : driver.Finds sources s found t)
    (h' : driver.Finds sources s found' t') : found = found' := by
  obtain ⟨vertex, fragment, program⟩ := found
  obtain ⟨vertex', fragment', program'⟩ := found'
  obtain rfl : vertex = vertex' := Except.ok.inj (h.vertex.symm.trans h'.vertex)
  obtain rfl : fragment = fragment' := Except.ok.inj (h.fragment.symm.trans h'.fragment)
  obtain rfl : program = program' := Except.ok.inj (h.program.symm.trans h'.program)
  rfl

theorem Driver.exists_finds_of_length_stages (h : (driver.stages sources s).length = 3) :
    ∃ found t, driver.Finds sources s found t := by
  rw [Driver.stages] at h
  cases hvertex : ((compile driver .vertex sources.vertex).run s).value with
  | error error =>
    rw [stagesFrom_of_error _ _ hvertex] at h
    cases h
  | ok vertex =>
    rw [stagesFrom_of_ok _ _ hvertex] at h
    cases hfragment : ((compile driver .fragment sources.fragment).run
        ((compile driver .vertex sources.vertex).run s).state).value with
    | error error =>
      rw [stagesFrom_of_error _ _ hfragment] at h
      cases h
    | ok fragment =>
      rw [stagesFrom_of_ok _ _ hfragment] at h
      cases hprogram : ((link driver vertex fragment).run
          ((compile driver .fragment sources.fragment).run
            ((compile driver .vertex sources.vertex).run s).state).state).value with
      | error error =>
        rw [stagesFrom_of_error _ _ hprogram] at h
        cases h
      | ok program => exact ⟨⟨vertex, fragment, program⟩, _, hvertex, hfragment, hprogram, rfl⟩

end Stages

/-! ### Complete reports -/

section Complete

variable {tools : Tools σ ω φ}

/-- The trail has a flush just if all of the `count` stages that there should be are there and have
been reported to the last byte. -/
def FlushedIfComplete (count : Nat) (stages : List ReportedStage) (trail : List Event) : Prop :=
  flushes trail ≠ [] ↔ stages.length = count ∧ written trail = reportOf stages

theorem flushedIfComplete_reported_bind {work : Attempt Event σ α} {pieces : α → List String}
    {next : α → Attempt Event (World σ ω φ) β} {later : α → σ → List ReportedStage} {count : Nat}
    (hwork : ∀ s, OnlyStageWork (work.run s).trail)
    (hnext : ∀ unit (world : World σ ω φ),
      FlushedIfComplete count (later unit world.driver) ((next unit).run world).trail)
    (world : World σ ω φ) :
    FlushedIfComplete (count + 1) (stagesFrom work pieces later world.driver)
      ((tools.reported work pieces >>= next).run world).trail := by
  have hstage := hwork world.driver
  unfold FlushedIfComplete
  cases hunit : (work.run world.driver).value with
  | error error =>
    rw [Tools.run_reported_of_refused next hunit, stagesFrom_of_error _ _ hunit]
    simp [hstage.flushes_eq_nil]
  | ok unit =>
    have hblock := tools.writer.onlyWrites_writePieces (pieces unit) world.writer
    rw [stagesFrom_of_ok _ _ hunit, reportOf_cons, List.length_cons]
    cases hwriter : (tools.writer.writePieces (pieces unit) world.writer).value with
    | error cause =>
      have hshort := Writer.length_written_writePieces_of_error hwriter
      rw [Tools.run_reported_of_unwritten next hunit hwriter]
      refine ⟨fun hflushed ↦ ?_, fun hcomplete ↦ ?_⟩
      · simp [hstage.flushes_eq_nil, hblock.flushes_eq_nil] at hflushed
      · have hlength := congrArg List.length hcomplete.2
        rw [written_append, hstage.written_eq_nil, List.nil_append, List.length_append] at hlength
        dsimp only at hlength
        omega
    | ok =>
      have hwritten := Writer.written_writePieces_of_ok hwriter
      rw [Tools.run_reported_of_written next hunit hwriter]
      simp only [flushes_append, written_append, hstage.flushes_eq_nil, hblock.flushes_eq_nil,
        hstage.written_eq_nil, hwritten, List.nil_append, List.append_cancel_left_eq,
        Nat.add_right_cancel_iff]
      exact hnext unit _

theorem flushedIfComplete_finish (output : String) (vertex fragment : CompiledShader)
    (program : LinkedProgram) (world : World σ ω φ) :
    FlushedIfComplete 0 [] ((tools.finish output vertex fragment program).run world).trail := by
  have hreports := @Tools.reports_finish _ _ _ tools output vertex fragment program world
  obtain ⟨before, result, after, htrail, -⟩ := hreports.flushed rfl
  refine ⟨fun _ ↦ ⟨rfl, hreports.written_eq⟩, fun _ ↦ ?_⟩
  rw [htrail, flushes_append]
  exact List.append_ne_nil_of_right_ne_nil _ (List.cons_ne_nil result (flushes after))

/-- Whatever the writer is, a run flushes its report just if the report is complete. -/
theorem flushed_run_iff (tools : Tools σ ω φ) (sources : ShaderPair) (output : String)
    (world : World σ ω φ) :
    flushes ((tools.run sources output).run world).trail ≠ [] ↔
      ∃ found t, tools.driver.Finds sources world.driver found t ∧
        written ((tools.run sources output).run world).trail =
          Text.encode (Report.text found.pieces) := by
  have hcomplete : FlushedIfComplete 3 (tools.driver.stages sources world.driver)
      ((tools.run sources output).run world).trail := by
    rw [Tools.run_eq, Driver.stages]
    refine flushedIfComplete_reported_bind
      (fun s ↦ (conducts_compile .vertex sources.vertex s).2.onlyStageWork)
      (fun vertex world ↦ ?_) world
    refine flushedIfComplete_reported_bind
      (fun s ↦ (conducts_compile .fragment sources.fragment s).2.onlyStageWork)
      (fun fragment world ↦ ?_) world
    refine flushedIfComplete_reported_bind
      (fun s ↦ (conducts_link vertex fragment s).2.onlyStageWork) (fun program world ↦ ?_) world
    exact flushedIfComplete_finish output vertex fragment program world
  refine Iff.trans hcomplete ⟨?_, ?_⟩
  · rintro ⟨hlength, hwritten⟩
    obtain ⟨found, t, hfound⟩ := Driver.exists_finds_of_length_stages hlength
    exact ⟨found, t, hfound, by rw [hwritten, hfound.reportOf_stages]⟩
  · rintro ⟨found, t, hfound, hwritten⟩
    exact ⟨hfound.length_stages, by rw [hwritten, hfound.reportOf_stages]⟩

theorem Driver.Finds.written_of_flushed {sources : ShaderPair} {output : String}
    {world : World σ ω φ} {found : Findings} {t : σ}
    (h : tools.driver.Finds sources world.driver found t)
    (hflushed : flushes ((tools.run sources output).run world).trail ≠ []) :
    written ((tools.run sources output).run world).trail =
      Text.encode (Report.text found.pieces) := by
  obtain ⟨found', t', hfound', hwritten⟩ := (flushed_run_iff tools sources output world).mp hflushed
  rw [hwritten, h.unique hfound']

/-! ### Runs that nobody stops -/

/-- These pieces were reported, the payload was written to the file `output`, and the summary is the
result if that went well. -/
structure Completes (disk : Disk φ) (output : String) (files : φ) (pieces : List String)
    (summary : Summary) (payload : Bytes)
    (ending : Ending Event (World σ ω φ) (Except Error Summary)) : Prop where
  value_eq : ending.value =
    ((disk.write output payload files).1.mapError (.unwritableOutput output)).map fun _ ↦ summary
  written_eq : written ending.trail = Text.encode (Report.text pieces)
  saves_eq : saves ending.trail = [⟨output, payload, (disk.write output payload files).1⟩]
  files_eq : ending.state.files = (disk.write output payload files).2

variable {output : String} {sources : ShaderPair} {s : σ} {files : φ}

theorem completes_reported_bind {work : Attempt Event σ α} {pieces : α → List String}
    {next : α → Attempt Event (World σ ω φ) Summary} {rest : List String} {summary : Summary}
    {payload : Bytes} {unit : α} (hwriter : tools.writer.NeverRefuses)
    (hunit : (work.run s).value = .ok unit) (hwork : OnlyStageWork (work.run s).trail)
    (hnext : ∀ w, Completes tools.disk output files rest summary payload
      ((next unit).run ⟨(work.run s).state, w, files⟩)) (w : ω) :
    Completes tools.disk output files (pieces unit ++ rest) summary payload
      ((tools.reported work pieces >>= next).run ⟨s, w, files⟩) := by
  obtain ⟨hvalue, hwritten⟩ := hwriter.writePieces (pieces unit) w
  have hblock := tools.writer.onlyWrites_writePieces (pieces unit) w
  have hrest := hnext (tools.writer.writePieces (pieces unit) w).state
  rw [Tools.run_reported_of_written next hunit hvalue]
  constructor
  · exact hrest.value_eq
  · rw [written_append, written_append, hwork.written_eq_nil, hwritten, Text.encode_text_append]
    exact congrArg _ hrest.written_eq
  · rw [saves_append, saves_append, hwork.saves_eq_nil, hblock.saves_eq_nil]
    exact hrest.saves_eq
  · exact hrest.files_eq

theorem completes_finish {program : LinkedProgram} {artifact : Artifact}
    (hflushes : tools.writer.AlwaysFlushes)
    (hartifact : (extract tools.driver program s).value = artifact)
    (vertex fragment : CompiledShader) (w : ω) :
    Completes tools.disk output files [] (summaryOf vertex fragment program artifact)
      artifact.payload ((tools.finish output vertex fragment program).run ⟨s, w, files⟩) := by
  obtain ⟨flushed, hflush⟩ := hflushes w
  have hextract := ((@conducts_extract σ tools.driver program).apply s).2
  obtain ⟨records, hrecords, hsave⟩ := tools.disk.run_save artifact output files
  rw [Tools.run_finish_of_flushed (by rw [hflush])]
  simp only [hartifact, hsave]
  constructor
  · rfl
  · simp [Event.output, hextract.written_eq_nil, hrecords.written_eq_nil, Report.text, Text.encode]
  · show saves (_ ++ .saved _ _ _ :: records) = _
    rw [saves_append, hextract.saves_eq_nil]
    exact congrArg (_ :: ·) hrecords.saves_eq_nil
  · rfl

/-- With a writer that fails nowhere a run gets to its end, whatever it finds on the way. -/
theorem Tools.run_of_finds (tools : Tools σ ω φ) {found : Findings} {t : σ} {artifact : Artifact}
    (hwriter : tools.writer.NeverRefuses) (hflushes : tools.writer.AlwaysFlushes)
    (h : tools.driver.Finds sources s found t)
    (hartifact : (extract tools.driver found.program t).value = artifact) (output : String)
    (w : ω) (files : φ) :
    Completes tools.disk output files found.pieces
      (summaryOf found.vertex found.fragment found.program artifact) artifact.payload
      ((tools.run sources output).run ⟨s, w, files⟩) := by
  have hpieces : found.pieces = Report.shaderPieces found.vertex ++
      (Report.shaderPieces found.fragment ++ (Report.programPieces found.program ++ [])) := by
    simp [Findings.pieces]
  obtain ⟨hvertex, hfragment, hprogram, rfl⟩ := h
  rw [Tools.run_eq, hpieces]
  refine completes_reported_bind hwriter hvertex
    (conducts_compile .vertex sources.vertex s).2.onlyStageWork (fun w ↦ ?_) w
  refine completes_reported_bind hwriter hfragment
    (conducts_compile .fragment sources.fragment _).2.onlyStageWork (fun w ↦ ?_) w
  refine completes_reported_bind hwriter hprogram
    (conducts_link found.vertex found.fragment _).2.onlyStageWork (fun w ↦ ?_) w
  exact completes_finish hflushes hartifact found.vertex found.fragment w

end Complete

end ShaderBuild
