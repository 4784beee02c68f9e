import ShaderBuild.Proofs.RunTrails

/-!
A run stage by stage. Each stage is some work with the driver and a block of the report; the driver
alone settles which stages a run has. `Reports` says that a trail has the work and the blocks of
these stages in order, and that the report is flushed once, after its last byte, if all stages were
reported, and not at all if an object was refused on the way.
-/

set_option autoImplicit false
set_option relaxedAutoImplicit false

namespace ShaderBuild

/-! ### The work of a stage -/

/-- Whether the call is for the binary of a program. -/
def Call.isExtraction : Call → Bool
  | .parameter _ code => decide (code = .programBinaryLength)
  | .binary _ _ => true
  | _ => false

/-- Whether the event is a record, or a call that is not for a binary. -/
def Event.isStageWork : Event → Bool
  | .asked call _ _ => !call.isExtraction
  | .logged _ => true
  | _ => false

/-- Nothing but calls before the extraction and records stands in the trail. -/
def OnlyStageWork (trail : List Event) : Prop := ∀ event ∈ trail, event.isStageWork = true

theorem OnlyStageWork.nil : OnlyStageWork [] := fun _ hevent ↦ absurd hevent List.not_mem_nil

theorem OnlyStageWork.cons {event : Event} {rest : List Event} (hevent : event.isStageWork = true)
    (hrest : OnlyStageWork rest) : OnlyStageWork (event :: rest) :=
  List.forall_mem_cons.mpr ⟨hevent, hrest⟩

theorem OnlyStageWork.append {first rest : List Event} (hfirst : OnlyStageWork first)
    (hrest : OnlyStageWork rest) : OnlyStageWork (first ++ rest) :=
  List.forall_mem_append.mpr ⟨hfirst, hrest⟩

theorem OnlyStageWork.record {condition : Prop} [Decidable condition] {record : Log.Record} :
    OnlyStageWork (if condition then [] else [.logged record]) := by
  split_ifs
  · exact .nil
  · exact .cons rfl .nil

theorem CompileTrail.onlyStageWork {stage : Stage} {source : String}
    {result : Except Error CompiledShader} {trail : List Event}
    (h : CompileTrail stage source result trail) : OnlyStageWork trail := by
  have hblank : OnlyStageWork
      (if Text.isBlank source = true then [.logged (.emptySource stage)] else []) := by
    split_ifs
    · exact .cons rfl .nil
    · exact .nil
  cases h with
  | refused error created => exact hblank.append (.cons rfl .nil)
  | compiled id status infoLog created submitted judged read =>
    exact hblank.append (.cons rfl (.cons rfl (.cons rfl (.cons rfl (.cons rfl .nil)))))

theorem onlyStageWork_membersTrail (interface : Interface) (program : ProgramId)
    (maxLength index : Nat) (answers : List MemberAnswer) :
    OnlyStageWork (membersTrail interface program maxLength index answers) := by
  induction answers generalizing index with
  | nil => exact .nil
  | cons answer rest ih => exact .cons rfl (.append .record (ih (index + 1)))

theorem InterfaceTrail.onlyStageWork {interface : Interface} {program : ProgramId}
    {members : List Variable} {trail : List Event}
    (h : InterfaceTrail interface program members trail) : OnlyStageWork trail := by
  have hcounted : ∀ (count : Int32) (within : List Deed),
      (Event.asked (.parameter program interface.countParameter) count within).isStageWork =
        true := by
    cases interface <;> exact fun _ _ ↦ rfl
  have hmeasured : ∀ (longest : Int32) (within : List Deed),
      (Event.asked (.parameter program interface.maxLengthParameter) longest within).isStageWork =
        true := by
    cases interface <;> exact fun _ _ ↦ rfl
  cases h with
  | absent count counted hcount => exact .cons (hcounted count counted) .nil
  | present count longest counted measured answers hcount hlength =>
    exact .cons (hcounted count counted) (.cons (hmeasured longest measured)
      (onlyStageWork_membersTrail _ _ _ _ _))

theorem LinkLogTrail.onlyStageWork {program : ProgramId} {infoLog : String} {trail : List Event}
    (h : LinkLogTrail program infoLog trail) : OnlyStageWork trail := by
  cases h with
  | absent length measured hlength => exact .cons rfl .nil
  | present length _ measured read hlength => exact .cons rfl (.cons rfl .nil)

theorem LinkTrail.onlyStageWork {vertex fragment : CompiledShader}
    {result : Except Error LinkedProgram} {trail : List Event}
    (h : LinkTrail vertex fragment result trail) : OnlyStageWork trail := by
  cases h with
  | refused error created => exact .cons rfl .nil
  | linked id status infoLog attributes uniforms created first second joined judged logTrail
      attributesTrail uniformsTrail hlog hattributes huniforms =>
    have hlinked : OnlyStageWork
        [.asked .createProgram (.ok id) created,
          .asked (.attachShader id vertex.id) () first,
          .asked (.attachShader id fragment.id) () second,
          .asked (.linkProgram id) () joined,
          .asked (.linkStatus id) status judged] :=
      .cons rfl (.cons rfl (.cons rfl (.cons rfl (.cons rfl .nil))))
    exact (((hlinked.append hlog.onlyStageWork).append .record).append
      hattributes.onlyStageWork).append huniforms.onlyStageWork

/-! ### Views of a trail -/

/-- The events of a trail that are not attempts to write. -/
def withoutWrites (trail : List Event) : List Event := trail.filter fun event ↦ !event.isWrite

/-- The answer to a flush that the event is. -/
def Event.flush? : Event → Option (Except IoError Unit)
  | .flushed result => some result
  | _ => none

/-- The answers to the flushes of a trail, in order. -/
def flushes (trail : List Event) : List (Except IoError Unit) := trail.filterMap Event.flush?

@[simp]
theorem withoutWrites_append (first rest : List Event) :
    withoutWrites (first ++ rest) = withoutWrites first ++ withoutWrites rest :=
  List.filter_append first rest

@[simp]
theorem flushes_append (first rest : List Event) :
    flushes (first ++ rest) = flushes first ++ flushes rest := List.filterMap_append

theorem OnlyStageWork.withoutWrites_eq_self {trail : List Event} (h : OnlyStageWork trail) :
    withoutWrites trail = trail := by
  refine List.filter_eq_self.mpr fun event hevent ↦ ?_
  have hwork := h event hevent
  cases event <;> first | rfl | simp [Event.isStageWork] at hwork

theorem OnlyStageWork.written_eq_nil {trail : List Event} (h : OnlyStageWork trail) :
    written trail = [] := by
  refine List.flatMap_eq_nil_iff.mpr fun event hevent ↦ ?_
  have hwork := h event hevent
  cases event <;> first | rfl | simp [Event.isStageWork] at hwork

theorem OnlyStageWork.flushes_eq_nil {trail : List Event} (h : OnlyStageWork trail) :
    flushes trail = [] := by
  refine List.filterMap_eq_nil_iff.mpr fun event hevent ↦ ?_
  have hwork := h event hevent
  cases event <;> first | rfl | simp [Event.isStageWork] at hwork

theorem OnlyWrites.withoutWrites_eq_nil {trail : List Event} (h : OnlyWrites trail) :
    withoutWrites trail = [] :=
  List.filter_eq_nil_iff.mpr fun event hevent ↦ by simp [h event hevent]

theorem OnlyWrites.flushes_eq_nil {trail : List Event} (h : OnlyWrites trail) :
    flushes trail = [] := by
  refine List.filterMap_eq_nil_iff.mpr fun event hevent ↦ ?_
  have hwrite := h event hevent
  cases event <;> first | rfl | simp [Event.isWrite] at hwrite

theorem isExtraction_eq_false_of_only {trail : List Event}
    (h : ∀ event ∈ trail, event.isStageWork = true ∨ event.isWrite = true) :
    ∀ exchange ∈ exchanges trail, exchange.call.isExtraction = false := by
  intro exchange hexchange
  obtain ⟨event, hevent, hasked⟩ := List.mem_filterMap.mp hexchange
  have honly := h event hevent
  cases event with
  | asked call answer within =>
    obtain rfl : Exchange.mk call answer = exchange := by simpa [Event.exchange?] using hasked
    simpa [Event.isStageWork, Event.isWrite] using honly
  | _ => simp [Event.exchange?] at hasked

theorem OnlyStageWork.isExtraction_eq_false {trail : List Event} (h : OnlyStageWork trail) :
    ∀ exchange ∈ exchanges trail, exchange.call.isExtraction = false :=
  isExtraction_eq_false_of_only fun event hevent ↦ .inl (h event hevent)

theorem ExtractTrail.written_eq_nil {program : LinkedProgram} {artifact : Artifact}
    {trail : List Event} (h : ExtractTrail program artifact trail) : written trail = [] := by
  cases h
  split_ifs <;> rfl

theorem ExtractTrail.flushes_eq_nil {program : LinkedProgram} {artifact : Artifact}
    {trail : List Event} (h : ExtractTrail program artifact trail) : flushes trail = [] := by
  cases h
  split_ifs <;> rfl

theorem SaveTrail.written_eq_nil {artifact : Artifact} {output : String}
    {result : Except Error Unit} {trail : List Event} (h : SaveTrail artifact output result trail) :
    written trail = [] := by
  cases h <;> rfl

theorem SaveTrail.flushes_eq_nil {artifact : Artifact} {output : String}
    {result : Except Error Unit} {trail : List Event} (h : SaveTrail artifact output result trail) :
    flushes trail = [] := by
  cases h <;> rfl

/-! ### Stages -/

/-- A stage of a run: its work with the driver, and the block that reports what came of it. -/
structure ReportedStage where
  work : List Event
  block : Bytes

/-- The blocks of the stages, one after the other. -/
def reportOf (stages : List ReportedStage) : Bytes := stages.flatMap ReportedStage.block

/-- The work of the stages, one after the other. -/
def workOf (stages : List ReportedStage) : List Event := stages.flatMap ReportedStage.work

@[simp]
theorem reportOf_cons (stage : ReportedStage) (later : List ReportedStage) :
    reportOf (stage :: later) = stage.block ++ reportOf later := List.flatMap_cons

@[simp]
theorem workOf_cons (stage : ReportedStage) (later : List ReportedStage) :
    workOf (stage :: later) = stage.work ++ workOf later := List.flatMap_cons

variable {σ α : Type}

/-- The stage of the work and the stages after it. Work that fails is no stage, and nothing comes
after it. -/
def stagesFrom (work : Attempt Event σ α) (pieces : α → List String)
    (later : α → σ → List ReportedStage) (s : σ) : List ReportedStage :=
  match (work.run s).value with
  | .error _ => []
  | .ok unit =>
    ⟨(work.run s).trail, Text.encode (Report.text (pieces unit))⟩ :: later unit (work.run s).state

theorem stagesFrom_of_error {work : Attempt Event σ α} {s : σ} {error : Error}
    (pieces : α → List String) (later : α → σ → List ReportedStage)
    (h : (work.run s).value = .error error) : stagesFrom work pieces later s = [] := by
  simp only [stagesFrom, h]

theorem stagesFrom_of_ok {work : Attempt Event σ α} {s : σ} {unit : α}
    (pieces : α → List String) (later : α → σ → List ReportedStage)
    (h : (work.run s).value = .ok unit) :
    stagesFrom work pieces later s =
      ⟨(work.run s).trail, Text.encode (Report.text (pieces unit))⟩ ::
        later unit (work.run s).state := by
  simp only [stagesFrom, h]

/-- The stages of a run with the driver: vertex stage, fragment stage and program, up to the first
object that the driver refuses. -/
def Driver.stages (driver : Driver σ) (sources : ShaderPair) : σ → List ReportedStage :=
  stagesFrom (compile driver .vertex sources.vertex) Report.shaderPieces fun vertex ↦
    stagesFrom (compile driver .fragment sources.fragment) Report.shaderPieces fun fragment ↦
      stagesFrom (link driver vertex fragment) Report.programPieces fun _ _ ↦ []

/-! ### Trails that report stages -/

/-- There is one flush in the trail, and nothing is written after it. -/
def FlushedOnce (trail : List Event) : Prop :=
  ∃ before result after, trail = before ++ .flushed result :: after ∧
    flushes before = [] ∧ flushes after = [] ∧ written after = []

theorem FlushedOnce.append_left {first rest : List Event} (hfirst : flushes first = [])
    (hrest : FlushedOnce rest) : FlushedOnce (first ++ rest) := by
  obtain ⟨before, result, after, rfl, hbefore, hafter, hwritten⟩ := hrest
  refine ⟨first ++ before, result, after, by simp, ?_, hafter, hwritten⟩
  rw [flushes_append, hfirst, hbefore, List.append_nil]

/-- The trail has the blocks and the work of the stages in order. All of the `count` stages that
there should be are flushed once, in the end; fewer are not flushed. -/
structure Reports (count : Nat) (stages : List ReportedStage) (trail : List Event) : Prop where
  written_eq : written trail = reportOf stages
  work : ∃ rest, withoutWrites trail = workOf stages ++ rest
  flushed : stages.length = count → FlushedOnce trail
  unflushed : stages.length ≠ count → flushes trail = []

theorem Reports.of_refused {trail : List Event} (h : OnlyStageWork trail) (count : Nat) :
    Reports (count + 1) [] trail where
  written_eq := h.written_eq_nil
  work := ⟨trail, h.withoutWrites_eq_self⟩
  flushed := fun hcount ↦ absurd hcount (Nat.succ_ne_zero count).symm
  unflushed := fun _ ↦ h.flushes_eq_nil

theorem Reports.of_flushed {result : Except IoError Unit} {rest : List Event}
    (hwritten : written rest = []) (hflushes : flushes rest = []) :
    Reports 0 [] (.flushed result :: rest) where
  written_eq := hwritten
  work := ⟨_, rfl⟩
  flushed := fun _ ↦ ⟨[], result, rest, rfl, rfl, hflushes, hwritten⟩
  unflushed := fun hcount ↦ absurd rfl hcount

/-- One more stage before the others: its work, then its block, in parts of any size. -/
theorem Reports.stage {count : Nat} {stage : ReportedStage} {stages : List ReportedStage}
    {block rest : List Event} (h : Reports count stages rest) (hwork : OnlyStageWork stage.work)
    (hblock : OnlyWrites block) (hwritten : written block = stage.block) :
    Reports (count + 1) (stage :: stages) (stage.work ++ block ++ rest) := by
  have hquiet : flushes (stage.work ++ block) = [] := by
    rw [flushes_append, hwork.flushes_eq_nil, hblock.flushes_eq_nil, List.append_nil]
  obtain ⟨last, hlast⟩ := h.work
  refine ⟨?_, ⟨last, ?_⟩, fun hcount ↦ ?_, fun hcount ↦ ?_⟩
  · simp [hwork.written_eq_nil, hwritten, h.written_eq]
  · simp [hwork.withoutWrites_eq_self, hblock.withoutWrites_eq_nil, hlast]
  · exact (h.flushed (Nat.succ.inj hcount)).append_left hquiet
  · rw [flushes_append, hquiet, h.unflushed fun heq ↦ hcount (congrArg Nat.succ heq),
      List.append_nil]

end ShaderBuild
