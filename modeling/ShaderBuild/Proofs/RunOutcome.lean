import Mathlib.Control.Monad.Basic
import ShaderBuild.Proofs.ReportCut
import ShaderBuild.Proofs.RunDialogue
import ShaderBuild.Proofs.TreeWrites

/-!
What a run leaves on disk. Whatever the driver, the writer and the files are, a run either stops
before its file is due, and then has touched no file and asked for no binary, or it has its whole
report written and flushed, fetches the binary and tries one write. Which of the two it was, and how
the write ended, can be told from what the run ends with (`run_settles_files`).
-/

set_option autoImplicit false
set_option relaxedAutoImplicit false

namespace ShaderBuild

variable {σ ω φ α : Type}

/-! ### Drivers that refuse -/

/-- The only error of the driver, when it is to create an object, is to refuse it. -/
structure Driver.OnlyRefuses (driver : Driver σ) : Prop where
  createShader : ∀ stage s error,
    (driver.answer (.createShader stage) s).value = .error error →
      ∃ object, error = .refused object
  createProgram : ∀ s error,
    (driver.answer .createProgram s).value = .error error → ∃ object, error = .refused object

theorem Driver.OnlyRefuses.compile {driver : Driver σ} (h : driver.OnlyRefuses) {stage : Stage}
    {source : String} {s : σ} {error : Error}
    (herror : ((compile driver stage source).run s).value = .error error) :
    ∃ object, error = .refused object := by
  obtain ⟨hreplies, htrail⟩ := (@conducts_compile σ driver stage source).apply s
  rw [herror] at htrail
  rw [exchanges_compileTrail_of_error htrail] at hreplies
  exact h.createShader stage s error hreplies.1

theorem Driver.OnlyRefuses.link {driver : Driver σ} (h : driver.OnlyRefuses)
    {vertex fragment : CompiledShader} {s : σ} {error : Error}
    (herror : ((link driver vertex fragment).run s).value = .error error) :
    ∃ object, error = .refused object := by
  obtain ⟨hreplies, htrail⟩ := (@conducts_link σ driver vertex fragment).apply s
  rw [herror] at htrail
  rw [exchanges_linkTrail_of_error htrail] at hreplies
  exact h.createProgram s error hreplies.1

/-! ### Files in a trail -/

/-- An attempt to write a file: the path, the content and how it ended. -/
structure FileWrite where
  path : String
  content : Bytes
  result : Except IoError Unit

/-- The attempt to write a file that the event is. -/
def Event.save? : Event → Option FileWrite
  | .saved path payload result => some ⟨path, payload, result⟩
  | _ => none

/-- The attempts to write files in a trail, in order. -/
def saves (trail : List Event) : List FileWrite := trail.filterMap Event.save?

@[simp]
theorem saves_append (first rest : List Event) :
    saves (first ++ rest) = saves first ++ saves rest := List.filterMap_append

theorem OnlyStageWork.saves_eq_nil {trail : List Event} (h : OnlyStageWork trail) :
    saves trail = [] := by
  refine List.filterMap_eq_nil_iff.mpr fun event hevent ↦ ?_
  have hwork := h event hevent
  cases event <;> first | rfl | simp [Event.isStageWork] at hwork

theorem OnlyWrites.saves_eq_nil {trail : List Event} (h : OnlyWrites trail) : saves trail = [] := by
  refine List.filterMap_eq_nil_iff.mpr fun event hevent ↦ ?_
  have hwrite := h event hevent
  cases event <;> first | rfl | simp [Event.isWrite] at hwrite

/-! ### Binaries -/

/-- The bytes that are kept of a binary: no more than the length that was reported for it. -/
def BinaryReplies.payload (replies : BinaryReplies) : Bytes :=
  replies.artifact.payload.take replies.length.toNatClampNeg

theorem BinaryReplies.length_payload (replies : BinaryReplies) :
    replies.payload.length =
      min replies.artifact.payload.length (max replies.length.toInt 0).toNat := by
  rw [payload, List.length_take, toNatClampNeg_eq_toNat_max, Nat.min_comm]

theorem ExtractTrail.exists_replies {program : LinkedProgram} {artifact : Artifact}
    {trail : List Event} (h : ExtractTrail program artifact trail) :
    ∃ replies : BinaryReplies, exchanges trail = replies.dialogue program.id ∧
      artifact = ⟨replies.artifact.format, replies.payload⟩ := by
  cases h with
  | extracted length fetched =>
    refine ⟨⟨length, fetched⟩, ?_, rfl⟩
    split_ifs <;> rfl

theorem ExtractTrail.saves_eq_nil {program : LinkedProgram} {artifact : Artifact}
    {trail : List Event} (h : ExtractTrail program artifact trail) : saves trail = [] := by
  cases h
  split_ifs <;> rfl

/-- To save an artifact is one write, and a record if it succeeds. -/
theorem Disk.run_save (disk : Disk φ) (artifact : Artifact) (output : String) (files : φ) :
    ∃ records, OnlyStageWork records ∧ (disk.save artifact output).run files =
      ⟨(disk.write output artifact.payload files).1.mapError (.unwritableOutput output),
        .saved output artifact.payload (disk.write output artifact.payload files).1 :: records,
        (disk.write output artifact.payload files).2⟩ := by
  rcases h : disk.write output artifact.payload files with ⟨cause | _, after⟩
  · refine ⟨[], .nil, ?_⟩
    simp [Disk.save, ExceptT.run, h, Except.mapError]
  · refine ⟨[.logged (.binaryWritten artifact.payload.length artifact.format output)],
      .cons rfl .nil, ?_⟩
    simp [Disk.save, ExceptT.run, h, Except.mapError]

/-! ### Two ways to end -/

/-- The run stopped before its file was due. -/
structure StoppedEarly (files : φ) (ending : Ending Event (World σ ω φ) (Except Error α)) :
    Prop where
  value_eq : (∃ object, ending.value = .error (.refused object)) ∨
    ∃ cause, ending.value = .error (.unwritableReport cause)
  files_eq : ending.state.files = files
  saves_eq : saves ending.trail = []
  unextracted : ∀ exchange ∈ exchanges ending.trail, exchange.call.isExtraction = false

/-- Of all `count` stages the run wrote the report, flushed it, fetched a binary and tried to write
it to the file `output`, in this order and each of it once. -/
structure SavedRun (disk : Disk φ) (output : String) (files : φ) (count : Nat)
    (stages : List ReportedStage) (program : ProgramId) (replies : BinaryReplies)
    (result : Except IoError Unit) (ending : Ending Event (World σ ω φ) (Except Error Summary)) :
    Prop where
  value_eq : ∃ summary : Summary, summary.binaryFormat = replies.artifact.format ∧
    summary.binarySize = replies.payload.length ∧
    ending.value = (result.mapError (.unwritableOutput output)).map fun _ ↦ summary
  complete : stages.length = count
  written_eq : written ending.trail = reportOf stages
  flushes_eq : flushes ending.trail = [.ok ()]
  saves_eq : saves ending.trail = [⟨output, replies.payload, result⟩]
  order : ∃ reporting fetching after, ending.trail = reporting ++
      .flushed (.ok ()) :: (fetching ++ .saved output replies.payload result :: after) ∧
    written reporting = reportOf stages ∧ exchanges fetching = replies.dialogue program
  write_eq : disk.write output replies.payload files = (result, ending.state.files)

/-- What a run leaves: nothing, or what one write made of the files. -/
inductive Leaves (disk : Disk φ) (output : String) (files : φ) (count : Nat)
    (stages : List ReportedStage) (ending : Ending Event (World σ ω φ) (Except Error Summary)) :
    Prop
  | stopped (h : StoppedEarly files ending)
  | saved (program : ProgramId) (replies : BinaryReplies) (result : Except IoError Unit)
      (h : SavedRun disk output files count stages program replies result ending)

/-! ### Stage by stage -/

theorem StoppedEarly.of_refused {files : φ} {trail : List Event} (htrail : OnlyStageWork trail)
    {world : World σ ω φ} (hfiles : world.files = files) (object : String) :
    StoppedEarly files
      (⟨.error (.refused object), trail, world⟩ : Ending _ _ (Except Error α)) where
  value_eq := .inl ⟨object, rfl⟩
  files_eq := hfiles
  saves_eq := htrail.saves_eq_nil
  unextracted := htrail.isExtraction_eq_false

theorem StoppedEarly.of_unwritten {files : φ} {work block : List Event} (hwork : OnlyStageWork work)
    (hblock : OnlyWrites block) {world : World σ ω φ} (hfiles : world.files = files)
    (cause : IoError) :
    StoppedEarly files
      (⟨.error (.unwritableReport cause), work ++ block, world⟩ : Ending _ _ (Except Error α)) where
  value_eq := .inr ⟨cause, rfl⟩
  files_eq := hfiles
  saves_eq := by rw [saves_append, hwork.saves_eq_nil, hblock.saves_eq_nil, List.append_nil]
  unextracted := by
    rw [exchanges_append, hblock.exchanges_eq_nil, List.append_nil]
    exact hwork.isExtraction_eq_false

theorem StoppedEarly.later {files : φ} {work block : List Event}
    {rest : Ending Event (World σ ω φ) (Except Error α)} (h : StoppedEarly files rest)
    (hwork : OnlyStageWork work) (hblock : OnlyWrites block) :
    StoppedEarly files ⟨rest.value, work ++ block ++ rest.trail, rest.state⟩ where
  value_eq := h.value_eq
  files_eq := h.files_eq
  saves_eq := by simp [hwork.saves_eq_nil, hblock.saves_eq_nil, h.saves_eq]
  unextracted := by
    rw [exchanges_append, exchanges_append, hblock.exchanges_eq_nil, List.append_nil]
    exact List.forall_mem_append.mpr ⟨hwork.isExtraction_eq_false, h.unextracted⟩

theorem SavedRun.later {disk : Disk φ} {output : String} {files : φ} {count : Nat}
    {stage : ReportedStage} {stages : List ReportedStage} {program : ProgramId}
    {replies : BinaryReplies} {result : Except IoError Unit} {block : List Event}
    {rest : Ending Event (World σ ω φ) (Except Error Summary)}
    (h : SavedRun disk output files count stages program replies result rest)
    (hwork : OnlyStageWork stage.work) (hblock : OnlyWrites block)
    (hwritten : written block = stage.block) :
    SavedRun disk output files (count + 1) (stage :: stages) program replies result
      ⟨rest.value, stage.work ++ block ++ rest.trail, rest.state⟩ := by
  obtain ⟨reporting, fetching, after, htrail, hreporting, hfetching⟩ := h.order
  have hbefore : written (stage.work ++ block) = stage.block := by
    rw [written_append, hwork.written_eq_nil, hwritten, List.nil_append]
  constructor
  · exact h.value_eq
  · rw [List.length_cons, h.complete]
  · rw [written_append, hbefore, h.written_eq, reportOf_cons]
  · simp [hwork.flushes_eq_nil, hblock.flushes_eq_nil, h.flushes_eq]
  · simp [hwork.saves_eq_nil, hblock.saves_eq_nil, h.saves_eq]
  · refine ⟨stage.work ++ block ++ reporting, fetching, after, ?_, ?_, hfetching⟩
    · rw [htrail, List.append_assoc _ reporting]
    · rw [written_append, hbefore, hreporting, reportOf_cons]
  · exact h.write_eq

section Run

variable {tools : Tools σ ω φ} {output : String}

theorem leaves_reported_bind {work : Attempt Event σ α} {pieces : α → List String}
    {next : α → Attempt Event (World σ ω φ) Summary} {later : α → σ → List ReportedStage}
    {count : Nat} (hwork : ∀ s, OnlyStageWork (work.run s).trail)
    (hrefused : ∀ s error, (work.run s).value = .error error → ∃ object, error = .refused object)
    (hnext : ∀ unit (world : World σ ω φ), Leaves tools.disk output world.files count
      (later unit world.driver) ((next unit).run world)) (world : World σ ω φ) :
    Leaves tools.disk output world.files (count + 1) (stagesFrom work pieces later world.driver)
      ((tools.reported work pieces >>= next).run world) := by
  have hstage := hwork world.driver
  cases hunit : (work.run world.driver).value with
  | error error =>
    obtain ⟨object, rfl⟩ := hrefused _ _ hunit
    rw [Tools.run_reported_of_refused next hunit]
    refine .stopped (.of_refused hstage ?_ object)
    rfl
  | ok unit =>
    have hblock := tools.writer.onlyWrites_writePieces (pieces unit) world.writer
    cases hwriter : (tools.writer.writePieces (pieces unit) world.writer).value with
    | error cause =>
      rw [Tools.run_reported_of_unwritten next hunit hwriter]
      refine .stopped (.of_unwritten hstage hblock ?_ cause)
      rfl
    | ok =>
      rw [Tools.run_reported_of_written next hunit hwriter, stagesFrom_of_ok pieces later hunit]
      cases hnext unit (tools.afterStage work (pieces unit) world) with
      | stopped h => exact .stopped (h.later hstage hblock)
      | saved program replies result h =>
        exact .saved program replies result
          (h.later hstage hblock (Writer.written_writePieces_of_ok hwriter))

theorem leaves_finish (vertex fragment : CompiledShader) (program : LinkedProgram)
    (world : World σ ω φ) :
    Leaves tools.disk output world.files 0 []
      ((tools.finish output vertex fragment program).run world) := by
  cases hflush : (tools.writer.flush world.writer).1 with
  | error cause =>
    rw [Tools.run_finish_of_unflushed hflush]
    exact .stopped ⟨.inr ⟨cause, rfl⟩, rfl, rfl, fun _ hmem ↦ absurd hmem List.not_mem_nil⟩
  | ok =>
    rw [Tools.run_finish_of_flushed hflush]
    have hextract := ((@conducts_extract σ tools.driver program).apply world.driver).2
    obtain ⟨replies, hdialogue, hartifact⟩ := hextract.exists_replies
    obtain ⟨records, hrecords, hsave⟩ := tools.disk.run_save
      (extract tools.driver program world.driver).value output world.files
    have hpayload : (extract tools.driver program world.driver).value.payload = replies.payload :=
      congrArg Artifact.payload hartifact
    have hformat : (extract tools.driver program world.driver).value.format =
        replies.artifact.format := by rw [hartifact]
    rw [hpayload] at hsave
    simp only [hsave]
    refine .saved program.id replies (tools.disk.write output replies.payload world.files).1 ?_
    constructor
    · exact ⟨_, hformat, congrArg List.length hpayload, rfl⟩
    · rfl
    · simp [Event.output, reportOf, hextract.written_eq_nil, hrecords.written_eq_nil]
    · show .ok () :: flushes (_ ++ .saved _ _ _ :: records) = _
      rw [flushes_append, hextract.flushes_eq_nil]
      exact congrArg (.ok () :: ·) hrecords.flushes_eq_nil
    · show saves (_ ++ .saved _ _ _ :: records) = _
      rw [saves_append, hextract.saves_eq_nil]
      exact congrArg (_ :: ·) hrecords.saves_eq_nil
    · exact ⟨[], _, records, rfl, rfl, hdialogue⟩
    · rfl

/-- What a run does with the files, whatever it is given. -/
theorem leaves_run (hrefuses : tools.driver.OnlyRefuses) (sources : ShaderPair) (output : String)
    (world : World σ ω φ) :
    Leaves tools.disk output world.files 3 (tools.driver.stages sources world.driver)
      ((tools.run sources output).run world) := by
  rw [Tools.run_eq]
  refine leaves_reported_bind
    (fun s ↦ (conducts_compile .vertex sources.vertex s).2.onlyStageWork)
    (fun s error ↦ hrefuses.compile) (fun vertex world ↦ ?_) world
  refine leaves_reported_bind
    (fun s ↦ (conducts_compile .fragment sources.fragment s).2.onlyStageWork)
    (fun s error ↦ hrefuses.compile) (fun fragment world ↦ ?_) world
  refine leaves_reported_bind
    (fun s ↦ (conducts_link vertex fragment s).2.onlyStageWork)
    (fun s error ↦ hrefuses.link) (fun program world ↦ ?_) world
  exact leaves_finish vertex fragment program world

end Run

/-! ### What the result tells -/

section Result

variable {disk : Disk φ} {output : String} {files : φ} {count : Nat} {stages : List ReportedStage}
  {ending : Ending Event (World σ ω φ) (Except Error Summary)}

theorem Leaves.stoppedEarly {error : Error} (h : Leaves disk output files count stages ending)
    (hvalue : ending.value = .error error) (hfatal : error.isFatal = true) :
    StoppedEarly files ending := by
  cases h with
  | stopped h => exact h
  | saved program replies result h =>
    obtain ⟨summary, -, -, hsaved⟩ := h.value_eq
    rw [hvalue] at hsaved
    cases result with
    | ok => cases hsaved
    | error cause =>
      cases hsaved
      exact absurd hfatal nofun

theorem Leaves.unwritable {error : Error} (h : Leaves disk output files count stages ending)
    (hvalue : ending.value = .error error) (hfatal : error.isFatal = false) :
    ∃ cause program replies, error = .unwritableOutput output cause ∧
      SavedRun disk output files count stages program replies (.error cause) ending := by
  obtain ⟨path, unwritten, rfl⟩ := error.isFatal_eq_false_iff.mp hfatal
  cases h with
  | stopped h =>
    rcases h.value_eq with ⟨object, hstopped⟩ | ⟨cause, hstopped⟩ <;> rw [hvalue] at hstopped <;>
      cases hstopped
  | saved program replies result h =>
    obtain ⟨summary, -, -, hsaved⟩ := h.value_eq
    rw [hvalue] at hsaved
    cases result with
    | ok => cases hsaved
    | error cause =>
      cases hsaved
      exact ⟨unwritten, program, replies, rfl, h⟩

theorem Leaves.saved_of_ok {summary : Summary} (h : Leaves disk output files count stages ending)
    (hvalue : ending.value = .ok summary) :
    ∃ program replies, SavedRun disk output files count stages program replies (.ok ()) ending ∧
      summary.binaryFormat = replies.artifact.format ∧
      summary.binarySize = replies.payload.length := by
  cases h with
  | stopped h =>
    rcases h.value_eq with ⟨object, hstopped⟩ | ⟨cause, hstopped⟩ <;> rw [hvalue] at hstopped <;>
      cases hstopped
  | saved program replies result h =>
    obtain ⟨found, hformat, hsize, hsaved⟩ := h.value_eq
    rw [hvalue] at hsaved
    cases result with
    | error cause => cases hsaved
    | ok =>
      cases hsaved
      exact ⟨program, replies, h, hformat, hsize⟩

end Result

/-- All that a run asks is answered by the driver. With a fatal error no file was touched and no
binary asked for. With any other error the whole report was written and flushed, and the write of
the binary failed. Without an error it succeeded: where a write replaces all of a file, the file
holds the kept bytes of the binary and nothing else. -/
theorem run_settles_files {tools : Tools σ ω φ} (hrefuses : tools.driver.OnlyRefuses)
    (sources : ShaderPair) (output : String) (world : World σ ω φ) :
    let ending := (tools.run sources output).run world
    let stages := tools.driver.stages sources world.driver
    tools.driver.Replies world.driver (exchanges ending.trail) ending.state.driver ∧
    (∀ error, ending.value = .error error → error.isFatal = true →
      StoppedEarly world.files ending) ∧
    (∀ error, ending.value = .error error → error.isFatal = false →
      ∃ cause program replies, error = .unwritableOutput output cause ∧
        SavedRun tools.disk output world.files 3 stages program replies (.error cause) ending) ∧
    (∀ summary, ending.value = .ok summary →
      ∃ program replies,
        SavedRun tools.disk output world.files 3 stages program replies (.ok ()) ending ∧
        summary.binaryFormat = replies.artifact.format ∧
        summary.binarySize =
          min replies.artifact.payload.length (max replies.length.toInt 0).toNat ∧
        (tools.disk.ReplacesAt output world.files →
          tools.disk.read output ending.state.files = .ok replies.payload)) := by
  intro ending stages
  have hleaves : Leaves tools.disk output world.files 3 stages ending :=
    leaves_run hrefuses sources output world
  refine ⟨tools.replies_run sources output world, fun error ↦ hleaves.stoppedEarly,
    fun error ↦ hleaves.unwritable, fun summary hvalue ↦ ?_⟩
  obtain ⟨program, replies, hsaved, hformat, hsize⟩ := hleaves.saved_of_ok hvalue
  refine ⟨program, replies, hsaved, hformat, ?_, fun hreplaces ↦ ?_⟩
  · rw [hsize, replies.length_payload]
  · exact hreplaces _ _ hsaved.write_eq

theorem Canned.onlyRefuses : Canned.driver.OnlyRefuses where
  createShader stage canned error h := by
    by_cases hrefuses : canned.refusesObjects
    · refine ⟨"shader object", ?_⟩
      simpa [driver, answer, hrefuses] using h.symm
    · simp [driver, answer, hrefuses] at h
  createProgram canned error h := by
    by_cases hrefuses : canned.refusesObjects
    · refine ⟨"program object", ?_⟩
      simpa [driver, answer, hrefuses] using h.symm
    · simp [driver, answer, hrefuses] at h

theorem run_settles_files_simplePair :
    let tools : Tools Canned Sink.Content FileTree :=
      ⟨Canned.driver, ({} : Sink).writer, FileTree.disk⟩
    let files := FileTree.empty.put ["work", "pair.bin"] (.file [1, 2, 3, 4, 5, 6, 7, 8, 9])
    let ending := fun canned output ↦
      (tools.run ⟨"void main() {}", ""⟩ output).run ⟨canned, {}, files⟩
    let stages := tools.driver.stages ⟨"void main() {}", ""⟩ Canned.simplePair
    tools.driver.OnlyRefuses ∧ tools.disk.ReplacesAt "pair.bin" files ∧
      StoppedEarly files (ending { refusesObjects := true } "pair.bin") ∧
      (∃ cause program replies, SavedRun tools.disk "/dev/full" files 3 stages program replies
        (.error cause) (ending Canned.simplePair "/dev/full")) ∧
      ∃ program replies, SavedRun tools.disk "pair.bin" files 3 stages program replies (.ok ())
          (ending Canned.simplePair "pair.bin") ∧
        tools.disk.read "pair.bin" (ending Canned.simplePair "pair.bin").state.files =
          .ok replies.payload := by
  intro tools files ending stages
  have hregular : files.IsRegular "pair.bin" := by
    intro place name slashAfter device htarget
    have hplace : files.target "pair.bin" = .ok (.entry ["work"] "pair.bin" false) := by
      decide +kernel
    have hfound : files.find? ["work", "pair.bin"] = some (.file [1, 2, 3, 4, 5, 6, 7, 8, 9]) :=
      FileTree.find?_put_self (by decide)
    rw [hplace] at htarget
    cases htarget
    exact fun hdevice ↦ absurd (hfound.symm.trans hdevice) nofun
  have hreplaces : tools.disk.ReplacesAt "pair.bin" files :=
    FileTree.replacesAt_of_isRegular hregular
  have hrefused : (ending { refusesObjects := true } "pair.bin").value =
      .error (.refused "shader object") := by decide +kernel
  have hfull : (ending Canned.simplePair "/dev/full").value =
      .error (.unwritableOutput "/dev/full" (.system .noSpace)) := by decide +kernel
  have hdone : (ending Canned.simplePair "pair.bin").value =
      .ok ⟨true, true, true, 0x8AF0, 4⟩ := by decide +kernel
  refine ⟨Canned.onlyRefuses, hreplaces, ?_, ?_, ?_⟩
  · exact (run_settles_files Canned.onlyRefuses _ _ _).2.1 _ hrefused rfl
  · obtain ⟨cause, program, replies, -, hsaved⟩ :=
      (run_settles_files Canned.onlyRefuses _ _ _).2.2.1 _ hfull rfl
    exact ⟨cause, program, replies, hsaved⟩
  · obtain ⟨program, replies, hsaved, -, -, hread⟩ :=
      (run_settles_files Canned.onlyRefuses _ _ _).2.2.2 _ hdone
    exact ⟨program, replies, hsaved, hread hreplaces⟩

end ShaderBuild
