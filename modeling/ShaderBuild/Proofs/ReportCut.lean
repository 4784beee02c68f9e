import ShaderBuild.Disk.Tree
import ShaderBuild.Driver.Canned
import ShaderBuild.Proofs.ReportedStages

/-!
Reports cut short. A run with a writer that takes only so many bytes is compared with the run of
the same driver and the same files whose writer never fails. Up to the cut both do the same, stage
by stage, however the writers split what they take; after a cut the run does nothing more with the
driver, and nothing at all with the files (`run_cut`).
-/

set_option autoImplicit false
set_option relaxedAutoImplicit false

namespace ShaderBuild

variable {σ ω ω' φ α β : Type}

/-! ### Two writers -/

/-- One writer never fails, the other takes `limit` bytes in all, and they answer to a flush alike
as long as both have taken the same. -/
structure WritersCutAt (free : Writer ω) (taken : ω → Bytes) (limited : Writer ω')
    (taken' : ω' → Bytes) (limit : Nat) : Prop where
  neverRefuses : free.NeverRefuses
  records : free.Records taken
  takesUpTo : limited.TakesUpTo taken' limit
  records' : limited.Records taken'
  flush_eq : ∀ w w', taken w = taken' w' → (free.flush w).1 = (limited.flush w').1

/-- Worlds that differ in their writers only. Both have taken the same, which is no more than
`limit` bytes. -/
structure InStep (taken : ω → Bytes) (taken' : ω' → Bytes) (limit : Nat) (world : World σ ω φ)
    (world' : World σ ω' φ) : Prop where
  driver_eq : world'.driver = world.driver
  files_eq : world'.files = world.files
  taken_eq : taken' world'.writer = taken world.writer
  fits : (taken world.writer).length ≤ limit

/-! ### Two runs -/

/-- The run ended because the writer had room for `room` bytes only. It did the work of the stages
up to the one whose block did not fit, and left the files as they were. -/
structure CutShort (room : Nat) (stages : List ReportedStage) (files : φ)
    (cut : Ending Event (World σ ω φ) (Except Error α)) : Prop where
  written_eq : written cut.trail = (reportOf stages).take room
  value_eq : ∃ cause, cut.value = .error (.unwritableReport cause)
  files_eq : cut.state.files = files
  work : ∃ done stage later, stages = done ++ stage :: later ∧
    (reportOf done).length ≤ room ∧ room < (reportOf (done ++ [stage])).length ∧
    withoutWrites cut.trail = workOf (done ++ [stage])
  only : ∀ event ∈ cut.trail, event.isStageWork = true ∨ event.isWrite = true

/-- Both runs end alike, and did the same but for how the report was split in parts. -/
structure SameEnding (whole : Ending Event (World σ ω φ) (Except Error α))
    (cut : Ending Event (World σ ω' φ) (Except Error α)) : Prop where
  value_eq : cut.value = whole.value
  work_eq : withoutWrites cut.trail = withoutWrites whole.trail
  driver_eq : cut.state.driver = whole.state.driver
  files_eq : cut.state.files = whole.state.files

/-- If there is room for the blocks of the stages, the second run reports them all and ends like the
first; else it is cut short. -/
structure CutRun (count room : Nat) (stages : List ReportedStage) (files : φ)
    (whole : Ending Event (World σ ω φ) (Except Error α))
    (cut : Ending Event (World σ ω' φ) (Except Error α)) : Prop where
  reports : (reportOf stages).length ≤ room → Reports count stages cut.trail
  same : (reportOf stages).length ≤ room → SameEnding whole cut
  cutShort : room < (reportOf stages).length → CutShort room stages files cut

theorem not_lt_reportOf_nil (room : Nat) : ¬ room < (reportOf []).length := Nat.not_lt_zero room

/-! ### One stage with both writers -/

section Stage

variable {tools : Tools σ ω φ} {work : Attempt Event σ α} {pieces : α → List String}
  {world : World σ ω φ}

theorem Tools.run_reported_of_refused (next : α → Attempt Event (World σ ω φ) β) {error : Error}
    (hwork : (work.run world.driver).value = .error error) :
    (tools.reported work pieces >>= next).run world =
      ⟨.error error, (work.run world.driver).trail,
        { world with driver := (work.run world.driver).state }⟩ := by
  have hdriver : ((World.onDriver work : Attempt Event (World σ ω φ) α).run world).value =
      .error error := hwork
  rw [Tools.reported, bind_assoc, Attempt.run_bind_of_error _ hdriver, World.run_onDriver]

/-- The world after a stage. -/
def Tools.afterStage (tools : Tools σ ω φ) (work : Attempt Event σ α) (pieces : List String)
    (world : World σ ω φ) : World σ ω φ :=
  { world with
    driver := (work.run world.driver).state
    writer := (tools.writer.writePieces pieces world.writer).state }

theorem Tools.run_reported_of_unwritten (next : α → Attempt Event (World σ ω φ) β) {unit : α}
    {cause : IoError} (hwork : (work.run world.driver).value = .ok unit)
    (hblock : (tools.writer.writePieces (pieces unit) world.writer).value = .error cause) :
    (tools.reported work pieces >>= next).run world =
      ⟨.error (.unwritableReport cause),
        (work.run world.driver).trail ++
          (tools.writer.writePieces (pieces unit) world.writer).trail,
        tools.afterStage work (pieces unit) world⟩ := by
  have hdriver : ((World.onDriver work : Attempt Event (World σ ω φ) α).run world).value =
      .ok unit := hwork
  have hwriter : ((World.onWriter (tools.writer.writePieces (pieces unit)) :
      Attempt Event (World σ ω φ) Unit).run
        { world with driver := (work.run world.driver).state }).value =
      .error (.unwritableReport cause) := by
    rw [World.run_onWriter, hblock]
    rfl
  rw [Tools.reported, bind_assoc, Attempt.run_bind_of_ok _ hdriver, bind_assoc, World.run_onDriver,
    Attempt.run_bind_of_error _ hwriter, World.run_onWriter, Tools.afterStage]

theorem Tools.run_reported_of_written (next : α → Attempt Event (World σ ω φ) β) {unit : α}
    (hwork : (work.run world.driver).value = .ok unit)
    (hblock : (tools.writer.writePieces (pieces unit) world.writer).value = .ok ()) :
    (tools.reported work pieces >>= next).run world =
      let ending := (next unit).run (tools.afterStage work (pieces unit) world)
      ⟨ending.value,
        (work.run world.driver).trail ++
          (tools.writer.writePieces (pieces unit) world.writer).trail ++ ending.trail,
        ending.state⟩ := by
  have hdriver : ((World.onDriver work : Attempt Event (World σ ω φ) α).run world).value =
      .ok unit := hwork
  have hwriter : ((World.onWriter (tools.writer.writePieces (pieces unit)) :
      Attempt Event (World σ ω φ) Unit).run
        { world with driver := (work.run world.driver).state }).value = .ok () := by
    rw [World.run_onWriter, hblock]
    rfl
  rw [Tools.reported, bind_assoc, Attempt.run_bind_of_ok _ hdriver, bind_assoc, World.run_onDriver,
    Attempt.run_bind_of_ok _ hwriter, World.run_onWriter, pure_bind]
  simp only [Tools.afterStage, List.append_assoc]

end Stage

theorem CutShort.later {room : Nat} {stage : ReportedStage} {stages : List ReportedStage}
    {files : φ} {block : List Event} {rest : Ending Event (World σ ω φ) (Except Error α)}
    (h : CutShort (room - stage.block.length) stages files rest)
    (hfits : stage.block.length ≤ room) (hwork : OnlyStageWork stage.work)
    (hblock : OnlyWrites block) (hwritten : written block = stage.block) :
    CutShort room (stage :: stages) files
      ⟨rest.value, stage.work ++ block ++ rest.trail, rest.state⟩ := by
  obtain ⟨done, last, later, hstages, hdone, hlast, hrest⟩ := h.work
  refine ⟨?_, h.value_eq, h.files_eq, ⟨stage :: done, last, later, ?_, ?_, ?_, ?_⟩, ?_⟩
  · simp [hwork.written_eq_nil, hwritten, h.written_eq, List.take_append,
      List.take_of_length_le hfits]
  · rw [hstages, List.cons_append]
  · rw [reportOf_cons, List.length_append]
    omega
  · rw [List.cons_append, reportOf_cons, List.length_append]
    omega
  · simp [hwork.withoutWrites_eq_self, hblock.withoutWrites_eq_nil, hrest]
  · intro event hevent
    rcases List.mem_append.mp hevent with hearlier | hlater
    · rcases List.mem_append.mp hearlier with h | h
      · exact .inl (hwork event h)
      · exact .inr (hblock event h)
    · exact h.only event hlater

theorem CutShort.here {room : Nat} {stage : ReportedStage} (stages : List ReportedStage)
    {files : φ} {block : List Event} {cause : IoError} {after : World σ ω φ}
    (hfull : room < stage.block.length) (hwork : OnlyStageWork stage.work)
    (hblock : OnlyWrites block) (hwritten : written block = stage.block.take room)
    (hfiles : after.files = files) :
    CutShort room (stage :: stages) files
      (⟨.error (.unwritableReport cause), stage.work ++ block, after⟩ :
        Ending Event (World σ ω φ) (Except Error α)) := by
  refine ⟨?_, ⟨cause, rfl⟩, hfiles, ⟨[], stage, stages, rfl, Nat.zero_le room, ?_, ?_⟩, ?_⟩
  · simp [hwork.written_eq_nil, hwritten, List.take_append,
      Nat.sub_eq_zero_of_le (Nat.le_of_lt hfull)]
  · simpa [reportOf] using hfull
  · simp [hwork.withoutWrites_eq_self, hblock.withoutWrites_eq_nil, workOf]
  · intro event hevent
    rcases List.mem_append.mp hevent with h | h
    · exact .inl (hwork event h)
    · exact .inr (hblock event h)

theorem CutRun.later {count room : Nat} {stage : ReportedStage} {stages : List ReportedStage}
    {files : φ} {block block' : List Event} {whole : Ending Event (World σ ω φ) (Except Error α)}
    {cut : Ending Event (World σ ω' φ) (Except Error α)}
    (h : CutRun count (room - stage.block.length) stages files whole cut)
    (hfits : stage.block.length ≤ room) (hwork : OnlyStageWork stage.work)
    (hblock : OnlyWrites block) (hblock' : OnlyWrites block')
    (hwritten' : written block' = stage.block) :
    CutRun (count + 1) room (stage :: stages) files
      ⟨whole.value, stage.work ++ block ++ whole.trail, whole.state⟩
      ⟨cut.value, stage.work ++ block' ++ cut.trail, cut.state⟩ := by
  have hlength : (reportOf (stage :: stages)).length =
      stage.block.length + (reportOf stages).length := by
    rw [reportOf_cons, List.length_append]
  refine ⟨fun hroom ↦ ?_, fun hroom ↦ ?_, fun hcut ↦ ?_⟩
  · exact (h.reports (by omega)).stage hwork hblock' hwritten'
  · obtain ⟨hvalue, hrest, hdriver, hfiles⟩ := h.same (by omega)
    refine ⟨hvalue, ?_, hdriver, hfiles⟩
    simp [hblock.withoutWrites_eq_nil, hblock'.withoutWrites_eq_nil, hrest]
  · exact (h.cutShort (by omega)).later hfits hwork hblock' hwritten'

theorem CutRun.here {count room : Nat} {stage : ReportedStage} (stages : List ReportedStage)
    {files : φ} {block : List Event} {cause : IoError}
    {whole : Ending Event (World σ ω φ) (Except Error α)} {after : World σ ω' φ}
    (hfull : room < stage.block.length) (hwork : OnlyStageWork stage.work)
    (hblock : OnlyWrites block) (hwritten : written block = stage.block.take room)
    (hfiles : after.files = files) :
    CutRun count room (stage :: stages) files whole
      ⟨.error (.unwritableReport cause), stage.work ++ block, after⟩ := by
  have hlong : ¬ (reportOf (stage :: stages)).length ≤ room := by
    rw [reportOf_cons, List.length_append]
    omega
  exact ⟨fun hroom ↦ absurd hroom hlong, fun hroom ↦ absurd hroom hlong,
    fun _ ↦ .here stages hfull hwork hblock hwritten hfiles⟩

theorem InStep.afterStage {tools : Tools σ ω φ} {tools' : Tools σ ω' φ} {taken : ω → Bytes}
    {taken' : ω' → Bytes} {limit : Nat} {world : World σ ω φ} {world' : World σ ω' φ}
    (hstep : InStep taken taken' limit world world')
    (h : WritersCutAt tools.writer taken tools'.writer taken' limit) (work : Attempt Event σ α)
    {pieces : List String}
    (hroom : (Text.encode (Report.text pieces)).length ≤ limit - (taken world.writer).length) :
    InStep taken taken' limit (tools.afterStage work pieces world)
        (tools'.afterStage work pieces world') ∧
      limit - (taken (tools.afterStage work pieces world).writer).length =
        limit - (taken world.writer).length - (Text.encode (Report.text pieces)).length := by
  obtain ⟨hdriver, hfiles, htaken, hfits⟩ := hstep
  obtain ⟨-, hwritten⟩ := h.neverRefuses.writePieces pieces world.writer
  have hfills := h.takesUpTo.writePieces h.records' pieces world'.writer (htaken ▸ hfits)
  have hwritten' := hfills.written_eq
  rw [htaken, List.take_of_length_le hroom] at hwritten'
  have hafter := h.records.writePieces pieces world.writer
  have hafter' := h.records'.writePieces pieces world'.writer
  rw [hwritten] at hafter
  rw [hwritten', htaken] at hafter'
  have hlength := congrArg List.length hafter
  rw [List.length_append] at hlength
  refine ⟨⟨?_, hfiles, ?_, ?_⟩, ?_⟩
  · simp only [Tools.afterStage, hdriver]
  · simp only [Tools.afterStage, hafter, hafter']
  · simp only [Tools.afterStage]
    omega
  · simp only [Tools.afterStage]
    omega

/-! ### The end of a run -/

section Finish

variable {tools : Tools σ ω φ} {output : String} {vertex fragment : CompiledShader}
  {program : LinkedProgram} {world : World σ ω φ}

theorem Tools.run_finish_of_unflushed {cause : IoError}
    (h : (tools.writer.flush world.writer).1 = .error cause) :
    (tools.finish output vertex fragment program).run world =
      ⟨.error (.unwritableReport cause), [.flushed (.error cause)],
        { world with writer := (tools.writer.flush world.writer).2 }⟩ := by
  have hflush : ((World.onWriter tools.writer.flushAll : Attempt Event (World σ ω φ) Unit).run
      world).value = .error (.unwritableReport cause) := by
    rw [World.run_onWriter, Writer.flushAll_apply, h]
    rfl
  rw [Tools.finish, Attempt.run_bind_of_error _ hflush, World.run_onWriter,
    Writer.flushAll_apply, h]

theorem Tools.run_finish_of_flushed (h : (tools.writer.flush world.writer).1 = .ok ()) :
    (tools.finish output vertex fragment program).run world =
      let extracted := extract tools.driver program world.driver
      let saved := (tools.disk.save extracted.value output).run world.files
      ⟨saved.value.map fun _ ↦ summaryOf vertex fragment program extracted.value,
        .flushed (.ok ()) :: (extracted.trail ++ saved.trail),
        ⟨extracted.state, (tools.writer.flush world.writer).2, saved.state⟩⟩ := by
  have hflush : ((World.onWriter tools.writer.flushAll : Attempt Event (World σ ω φ) Unit).run
      world).value = .ok () := by
    rw [World.run_onWriter, Writer.flushAll_apply, h]
    rfl
  rw [Tools.finish, Attempt.run_bind_of_ok _ hflush, World.run_onWriter,
    Writer.flushAll_apply, h]
  have hextract : ((World.onDriver (ExceptT.lift (extract tools.driver program)) :
      Attempt Event (World σ ω φ) Artifact).run
        { world with writer := (tools.writer.flush world.writer).2 }).value =
      .ok (extract tools.driver program world.driver).value := by
    rw [World.run_onDriver, Attempt.run_lift_apply]
  rw [Attempt.run_bind_of_ok _ hextract, World.run_onDriver, Attempt.run_lift_apply]
  simp [World.run_onFiles]

theorem Tools.reports_finish (world : World σ ω φ) :
    Reports 0 [] ((tools.finish output vertex fragment program).run world).trail := by
  rcases hflush : (tools.writer.flush world.writer).1 with cause | ⟨⟩
  · rw [run_finish_of_unflushed hflush]
    exact .of_flushed rfl rfl
  · rw [run_finish_of_flushed hflush]
    have hextract := (@conducts_extract _ tools.driver program world.driver).2
    have hsave := saveTrail_save tools.disk (extract tools.driver program world.driver).value output
      world.files
    refine .of_flushed ?_ ?_
    · rw [written_append, hextract.written_eq_nil, hsave.written_eq_nil, List.append_nil]
    · rw [flushes_append, hextract.flushes_eq_nil, hsave.flushes_eq_nil, List.append_nil]

end Finish

/-! ### A whole run with both writers -/

section Run

variable {tools : Tools σ ω φ} {work : Attempt Event σ α} {pieces : α → List String}
  {later : α → σ → List ReportedStage} {count : Nat}

theorem reports_reported_bind {next : α → Attempt Event (World σ ω φ) β}
    (hwriter : tools.writer.NeverRefuses) (hwork : ∀ s, OnlyStageWork (work.run s).trail)
    (hnext : ∀ unit world,
      Reports count (later unit world.driver) ((next unit).run world).trail)
    (world : World σ ω φ) :
    Reports (count + 1) (stagesFrom work pieces later world.driver)
      ((tools.reported work pieces >>= next).run world).trail := by
  rcases hvalue : (work.run world.driver).value with error | unit
  · rw [stagesFrom_of_error _ _ hvalue, Tools.run_reported_of_refused next hvalue]
    exact .of_refused (hwork world.driver) count
  · obtain ⟨hblock, hwritten⟩ := hwriter.writePieces (pieces unit) world.writer
    have honly := tools.writer.onlyWrites_writePieces (pieces unit) world.writer
    have hrest := hnext unit (tools.afterStage work (pieces unit) world)
    rw [stagesFrom_of_ok _ _ hvalue, Tools.run_reported_of_written next hvalue hblock]
    exact hrest.stage (hwork world.driver) honly hwritten

variable {disk : Disk φ} {driver : Driver σ}

theorem reports_run (hwriter : tools.writer.NeverRefuses) (sources : ShaderPair) (output : String)
    (world : World σ ω φ) :
    Reports 3 (tools.driver.stages sources world.driver)
      ((tools.run sources output).run world).trail := by
  rw [Tools.run_eq, Driver.stages]
  refine reports_reported_bind hwriter
    (fun s ↦ (conducts_compile .vertex sources.vertex s).2.onlyStageWork) ?_ world
  intro vertex world
  refine reports_reported_bind hwriter
    (fun s ↦ (conducts_compile .fragment sources.fragment s).2.onlyStageWork) ?_ world
  intro fragment world
  refine reports_reported_bind hwriter
    (fun s ↦ (conducts_link vertex fragment s).2.onlyStageWork) ?_ world
  intro program world
  exact tools.reports_finish world

variable {tools' : Tools σ ω' φ} {taken : ω → Bytes} {taken' : ω' → Bytes} {limit : Nat}

theorem cutRun_reported_bind {next : α → Attempt Event (World σ ω φ) β}
    {next' : α → Attempt Event (World σ ω' φ) β}
    (h : WritersCutAt tools.writer taken tools'.writer taken' limit)
    (hwork : ∀ s, OnlyStageWork (work.run s).trail)
    (hnext : ∀ unit world world', InStep taken taken' limit world world' →
      CutRun count (limit - (taken world.writer).length) (later unit world.driver) world.files
        ((next unit).run world) ((next' unit).run world'))
    (world : World σ ω φ) (world' : World σ ω' φ) (hstep : InStep taken taken' limit world world') :
    CutRun (count + 1) (limit - (taken world.writer).length)
      (stagesFrom work pieces later world.driver) world.files
      ((tools.reported work pieces >>= next).run world)
      ((tools'.reported work pieces >>= next').run world') := by
  obtain ⟨hdriver, hfiles, htaken, hfits⟩ := id hstep
  rcases hvalue : (work.run world.driver).value with error | unit
  · have hvalue' : (work.run world'.driver).value = .error error := by rw [hdriver, hvalue]
    rw [stagesFrom_of_error _ _ hvalue, Tools.run_reported_of_refused next hvalue,
      Tools.run_reported_of_refused next' hvalue', hdriver]
    have hreports := Reports.of_refused (hwork world.driver) count
    exact ⟨fun _ ↦ hreports, fun _ ↦ ⟨rfl, rfl, rfl, hfiles⟩,
      fun hcut ↦ absurd hcut (not_lt_reportOf_nil _)⟩
  have hvalue' : (work.run world'.driver).value = .ok unit := by rw [hdriver, hvalue]
  have hblock := (h.neverRefuses.writePieces (pieces unit) world.writer).1
  have honly := tools.writer.onlyWrites_writePieces (pieces unit) world.writer
  have honly' := tools'.writer.onlyWrites_writePieces (pieces unit) world'.writer
  have hfills := h.takesUpTo.writePieces h.records' (pieces unit) world'.writer (htaken ▸ hfits)
  rw [htaken] at hfills
  rw [stagesFrom_of_ok _ _ hvalue, Tools.run_reported_of_written next hvalue hblock]
  -- The block is either the one that is cut, or taken whole by both writers.
  rcases Nat.lt_or_ge (limit - (taken world.writer).length)
      (Text.encode (Report.text (pieces unit))).length with hfull | hroom
  · obtain ⟨cause, hcause⟩ := hfills.fails hfull
    rw [Tools.run_reported_of_unwritten next' hvalue' hcause, hdriver]
    exact .here _ hfull (hwork world.driver) honly' hfills.written_eq hfiles
  · obtain ⟨hafter, hleft⟩ := hstep.afterStage h work hroom
    have hwritten' := hfills.written_eq
    rw [List.take_of_length_le hroom] at hwritten'
    have hrest := hnext unit _ _ hafter
    rw [hleft] at hrest
    rw [Tools.run_reported_of_written next' hvalue' (hfills.succeeds hroom), hdriver]
    exact hrest.later hroom (hwork world.driver) honly honly' hwritten'

/-- Once the report is written whole, the writers are no longer told apart. -/
theorem cutRun_finish (h : WritersCutAt tools.writer taken tools'.writer taken' limit)
    (hdriver : tools'.driver = tools.driver) (hdisk : tools'.disk = tools.disk) (output : String)
    (vertex fragment : CompiledShader) (program : LinkedProgram) (room : Nat)
    {world : World σ ω φ} {world' : World σ ω' φ} (hstep : InStep taken taken' limit world world') :
    CutRun 0 room [] world.files ((tools.finish output vertex fragment program).run world)
      ((tools'.finish output vertex fragment program).run world') := by
  refine ⟨fun _ ↦ tools'.reports_finish world', fun _ ↦ ?_,
    fun hcut ↦ absurd hcut (not_lt_reportOf_nil room)⟩
  have hflush := h.flush_eq world.writer world'.writer hstep.taken_eq.symm
  rcases hanswer : (tools.writer.flush world.writer).1 with cause | ⟨⟩
  · rw [Tools.run_finish_of_unflushed hanswer, Tools.run_finish_of_unflushed (hflush ▸ hanswer)]
    exact ⟨rfl, rfl, hstep.driver_eq, hstep.files_eq⟩
  · rw [Tools.run_finish_of_flushed hanswer, Tools.run_finish_of_flushed (hflush ▸ hanswer),
      hdriver, hdisk, hstep.driver_eq, hstep.files_eq]
    exact ⟨rfl, rfl, rfl, rfl⟩

theorem cutRun_run (h : WritersCutAt tools.writer taken tools'.writer taken' limit)
    (hdriver : tools'.driver = tools.driver) (hdisk : tools'.disk = tools.disk)
    (sources : ShaderPair) (output : String) (world : World σ ω φ) (world' : World σ ω' φ)
    (hstep : InStep taken taken' limit world world') :
    CutRun 3 (limit - (taken world.writer).length) (tools.driver.stages sources world.driver)
      world.files ((tools.run sources output).run world)
      ((tools'.run sources output).run world') := by
  rw [Tools.run_eq, Tools.run_eq, Driver.stages, hdriver]
  refine cutRun_reported_bind h
    (fun s ↦ (conducts_compile .vertex sources.vertex s).2.onlyStageWork) ?_ world world' hstep
  intro vertex world world' hstep
  refine cutRun_reported_bind h
    (fun s ↦ (conducts_compile .fragment sources.fragment s).2.onlyStageWork) ?_ world world' hstep
  intro fragment world world' hstep
  refine cutRun_reported_bind h
    (fun s ↦ (conducts_link vertex fragment s).2.onlyStageWork) ?_ world world' hstep
  intro program world world' hstep
  exact cutRun_finish h hdriver hdisk output vertex fragment program _ hstep

end Run

theorem CutShort.flushes_eq_nil {room : Nat} {stages : List ReportedStage} {files : φ}
    {cut : Ending Event (World σ ω φ) (Except Error α)} (h : CutShort room stages files cut) :
    flushes cut.trail = [] := by
  refine List.filterMap_eq_nil_iff.mpr fun event hevent ↦ ?_
  have honly := h.only event hevent
  cases event <;> first | rfl | simp [Event.isStageWork, Event.isWrite] at honly

theorem CutShort.isExtraction_eq_false {room : Nat} {stages : List ReportedStage} {files : φ}
    {cut : Ending Event (World σ ω φ) (Except Error α)} (h : CutShort room stages files cut) :
    ∀ exchange ∈ exchanges cut.trail, exchange.call.isExtraction = false :=
  isExtraction_eq_false_of_only h.only

/-- A writer with room for `limit` bytes takes just the first `limit` bytes of the report. If there
are more, the run ends with the stage that has the next byte in its block: nothing is flushed,
extracted or saved. If there are no more, both runs do the same and end alike. A run flushes once,
after a whole report, and not at all before. -/
theorem run_cut {driver : Driver σ} {disk : Disk φ} {free : Writer ω} {limited : Writer ω'}
    {taken : ω → Bytes} {taken' : ω' → Bytes} {limit : Nat}
    (h : WritersCutAt free taken limited taken' limit) (sources : ShaderPair) (output : String)
    (s : σ) (files : φ) {w : ω} {w' : ω'} (hw : taken w = []) (hw' : taken' w' = []) :
    let whole := (Tools.run ⟨driver, free, disk⟩ sources output).run ⟨s, w, files⟩
    let cut := (Tools.run ⟨driver, limited, disk⟩ sources output).run ⟨s, w', files⟩
    let stages := driver.stages sources s
    Reports 3 stages whole.trail ∧
      written cut.trail = (written whole.trail).take limit ∧
      (limit < (written whole.trail).length →
        CutShort limit stages files cut ∧ flushes cut.trail = [] ∧
          ∀ exchange ∈ exchanges cut.trail, exchange.call.isExtraction = false) ∧
      ((written whole.trail).length ≤ limit →
        SameEnding whole cut ∧ Reports 3 stages cut.trail) := by
  intro whole cut stages
  have hwhole : Reports 3 stages whole.trail :=
    @reports_run σ ω φ ⟨driver, free, disk⟩ h.neverRefuses sources output ⟨s, w, files⟩
  have hstep : InStep taken taken' limit (⟨s, w, files⟩ : World σ ω φ) ⟨s, w', files⟩ := by
    refine ⟨rfl, rfl, ?_, ?_⟩ <;> simp [hw, hw']
  have hcut : CutRun 3 limit stages files whole cut := by
    have hrun := @cutRun_run σ ω ω' φ ⟨driver, free, disk⟩ ⟨driver, limited, disk⟩ taken taken'
      limit h rfl rfl sources output _ _ hstep
    rwa [hw] at hrun
  have hreport := hwhole.written_eq
  refine ⟨hwhole, ?_, fun hlt ↦ ?_, fun hle ↦ ?_⟩
  · rcases Nat.lt_or_ge limit (reportOf stages).length with hlt | hle
    · rw [hreport, (hcut.cutShort hlt).written_eq]
    · rw [hreport, (hcut.reports hle).written_eq, List.take_of_length_le hle]
  · rw [hreport] at hlt
    have hshort := hcut.cutShort hlt
    exact ⟨hshort, hshort.flushes_eq_nil, hshort.isExtraction_eq_false⟩
  · rw [hreport] at hle
    exact ⟨hcut.same hle, hcut.reports hle⟩

theorem Sink.writersCutAt (limit : Nat) (refusal : Refusal) (flushError : Option IoError) :
    WritersCutAt ({ flushError } : Sink).writer Content.bytes
      ({ limit := some limit, refusal, flushError } : Sink).writer Content.bytes limit where
  neverRefuses := neverRefuses_writer rfl
  records := records_writer
  takesUpTo := takesUpTo_writer rfl
  records' := records_writer
  flush_eq := by
    intro content content' _
    cases flushError <;> rfl

theorem run_cut_simplePair :
    let free : Sink := {}
    let limited : Sink := { limit := some 7, refusal := .takesNothing }
    let whole := (Tools.run ⟨Canned.driver, free.writer, FileTree.disk⟩ ⟨"void main() {}", ""⟩
      "pair.bin").run ⟨Canned.simplePair, {}, FileTree.empty⟩
    let cut := (Tools.run ⟨Canned.driver, limited.writer, FileTree.disk⟩ ⟨"void main() {}", ""⟩
      "pair.bin").run ⟨Canned.simplePair, {}, FileTree.empty⟩
    let stages := Canned.driver.stages ⟨"void main() {}", ""⟩ Canned.simplePair
    WritersCutAt free.writer Sink.Content.bytes limited.writer Sink.Content.bytes 7 ∧
      Sink.Content.bytes {} = [] ∧
      Reports 3 stages whole.trail ∧
      written cut.trail = (written whole.trail).take 7 ∧
      (7 < (written whole.trail).length →
        CutShort 7 stages FileTree.empty cut ∧ flushes cut.trail = [] ∧
          ∀ exchange ∈ exchanges cut.trail, exchange.call.isExtraction = false) ∧
      ((written whole.trail).length ≤ 7 →
        SameEnding whole cut ∧ Reports 3 stages cut.trail) := by
  intro free limited whole cut stages
  have hwriters : WritersCutAt free.writer Sink.Content.bytes limited.writer Sink.Content.bytes 7 :=
    Sink.writersCutAt 7 .takesNothing none
  have hnone : Sink.Content.bytes {} = [] := rfl
  exact ⟨hwriters, hnone, run_cut hwriters ⟨"void main() {}", ""⟩ "pair.bin" Canned.simplePair
    FileTree.empty hnone hnone⟩

end ShaderBuild
