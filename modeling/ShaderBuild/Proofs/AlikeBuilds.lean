import ShaderBuild.Proofs.DriverAgreement

/-!
Builds that come out alike. Of two activities over different states only a part of the trails may be
compared: `ComeAlike` relates their values, that part and the states that they leave. Two drivers
with which the stages of a build come out alike are told apart neither by a whole run nor by
anything else that is done on a workbench (`doAlike_performEach`).
-/

set_option autoImplicit false
set_option relaxedAutoImplicit false

namespace ShaderBuild

variable {ε δ σ τ ω φ α β : Type}

/-! ### Work that comes out alike -/

/-- From states that are alike, both come to the same value and to states that are alike again, and
their trails show the same. -/
def ComeAlike (shown : ε → List δ) (alike : σ → τ → Prop) (m : Activity ε σ α)
    (m' : Activity ε τ α) : Prop :=
  ∀ s t, alike s t → (m' t).value = (m s).value ∧
    (m' t).trail.flatMap shown = (m s).trail.flatMap shown ∧ alike (m s).state (m' t).state

section Rules

variable {shown : ε → List δ} {alike : σ → τ → Prop}

theorem comeAlike_pure (value : α) : ComeAlike shown alike (pure value) (pure value) :=
  fun _ _ h ↦ ⟨rfl, rfl, h⟩

theorem comeAlike_bind {m : Activity ε σ α} {m' : Activity ε τ α} {next : α → Activity ε σ β}
    {next' : α → Activity ε τ β} (hm : ComeAlike shown alike m m')
    (hnext : ∀ a, ComeAlike shown alike (next a) (next' a)) :
    ComeAlike shown alike (m >>= next) (m' >>= next') := by
  intro s t h
  obtain ⟨hvalue, htrail, hstates⟩ := hm s t h
  obtain ⟨hvalue', htrail', hstates'⟩ := hnext (m s).value _ _ hstates
  simp only [Activity.bind_apply, List.flatMap_append, hvalue]
  exact ⟨hvalue', by rw [htrail, htrail'], hstates'⟩

theorem comeAlike_emit (event : ε) :
    ComeAlike shown alike (Activity.emit event) (Activity.emit event) :=
  fun _ _ h ↦ ⟨rfl, rfl, h⟩

theorem comeAlike_run_lift {m : Activity ε σ α} {m' : Activity ε τ α}
    (h : ComeAlike shown alike m m') :
    ComeAlike shown alike (ExceptT.lift m : Attempt ε σ α).run
      (ExceptT.lift m' : Attempt ε τ α).run := by
  intro s t hstates
  obtain ⟨hvalue, htrail, hlater⟩ := h s t hstates
  rw [Attempt.run_lift_apply, Attempt.run_lift_apply, hvalue]
  exact ⟨rfl, htrail, hlater⟩

theorem comeAlike_run_pure (value : α) :
    ComeAlike shown alike (pure value : Attempt ε σ α).run (pure value : Attempt ε τ α).run :=
  comeAlike_pure _

theorem comeAlike_run_bind {m : Attempt ε σ α} {m' : Attempt ε τ α} {next : α → Attempt ε σ β}
    {next' : α → Attempt ε τ β} (hm : ComeAlike shown alike m.run m'.run)
    (hnext : ∀ a, ComeAlike shown alike (next a).run (next' a).run) :
    ComeAlike shown alike (m >>= next).run (m' >>= next').run := by
  rw [ExceptT.run_bind, ExceptT.run_bind]
  refine comeAlike_bind hm fun result ↦ ?_
  cases result with
  | error error => exact comeAlike_pure _
  | ok a => exact hnext a

end Rules

/-! ### Builds -/

/-- The event, unless it is a call to the driver. -/
def Event.undriven : Event → List Event
  | .asked _ _ _ => []
  | event => [event]

theorem written_flatMap_undriven (trail : List Event) :
    written (trail.flatMap Event.undriven) = written trail := by
  rw [written, written, List.flatMap_assoc]
  congr 1
  funext event
  cases event <;> simp [Event.undriven, Event.output]

/-- All but the calls to the driver is compared. -/
abbrev DoAlike (alike : σ → τ → Prop) (m : Activity Event σ α) (m' : Activity Event τ α) : Prop :=
  ComeAlike Event.undriven alike m m'

section Logging

variable {alike : σ → τ → Prop} {condition : Prop} [Decidable condition] {record : Log.Record}

theorem doAlike_log (record : Log.Record) :
    DoAlike alike (Event.log record) (Event.log record) :=
  comeAlike_emit _

theorem doAlike_unless_log_bind {m : Activity Event σ α} {m' : Activity Event τ α}
    (h : DoAlike alike m m') :
    DoAlike alike (if condition then m else Event.log record >>= fun _ ↦ m)
      (if condition then m' else Event.log record >>= fun _ ↦ m') := by
  split_ifs
  · exact h
  · exact comeAlike_bind (doAlike_log record) fun _ ↦ h

theorem doAlike_run_when_log_bind {m : Attempt Event σ α} {m' : Attempt Event τ α}
    (h : DoAlike alike m.run m'.run) :
    DoAlike alike
      (ExceptT.run (if condition then ExceptT.lift (Event.log record) >>= fun _ ↦ m else m))
      (ExceptT.run (if condition then ExceptT.lift (Event.log record) >>= fun _ ↦ m' else m')) := by
  split_ifs
  · exact comeAlike_run_bind (comeAlike_run_lift (doAlike_log record)) fun _ ↦ h
  · exact h

theorem doAlike_run_unless_log_bind {m : Attempt Event σ α} {m' : Attempt Event τ α}
    (h : DoAlike alike m.run m'.run) :
    DoAlike alike
      (ExceptT.run (if condition then m else ExceptT.lift (Event.log record) >>= fun _ ↦ m))
      (ExceptT.run (if condition then m' else ExceptT.lift (Event.log record) >>= fun _ ↦ m')) := by
  split_ifs
  · exact h
  · exact comeAlike_run_bind (comeAlike_run_lift (doAlike_log record)) fun _ ↦ h

end Logging

/-! ### Whole worlds -/

/-- Both drivers make the same units and fetch the same binaries. -/
structure BuildAlike (alike : σ → τ → Prop) (driver : Driver σ) (driver' : Driver τ) : Prop where
  compile : ∀ stage source,
    DoAlike alike (compile driver stage source).run (compile driver' stage source).run
  link : ∀ vertex fragment,
    DoAlike alike (link driver vertex fragment).run (link driver' vertex fragment).run
  extract : ∀ program, DoAlike alike (extract driver program) (extract driver' program)

/-- Worlds whose drivers are alike, with the same writer and the same files. -/
structure WorldsAlike (alike : σ → τ → Prop) (world : World σ ω φ) (world' : World τ ω φ) :
    Prop where
  driver : alike world.driver world'.driver
  writer_eq : world'.writer = world.writer
  files_eq : world'.files = world.files

section Worlds

variable {alike : σ → τ → Prop}

theorem doAlike_onDriver {m : Attempt Event σ α} {m' : Attempt Event τ α}
    (h : DoAlike alike m.run m'.run) :
    DoAlike (WorldsAlike alike) (World.onDriver m : Attempt Event (World σ ω φ) α).run
      (World.onDriver m' : Attempt Event (World τ ω φ) α).run := by
  intro world world' ⟨hdriver, hwriter, hfiles⟩
  obtain ⟨hvalue, htrail, hlater⟩ := h world.driver world'.driver hdriver
  exact ⟨hvalue, htrail, hlater, hwriter, hfiles⟩

theorem doAlike_onWriter (m : Activity Event ω (Except IoError α)) :
    DoAlike (WorldsAlike alike) (World.onWriter m : Attempt Event (World σ ω φ) α).run
      (World.onWriter m : Attempt Event (World τ ω φ) α).run := by
  intro world world' ⟨hdriver, hwriter, hfiles⟩
  rw [World.run_onWriter, World.run_onWriter, hwriter]
  exact ⟨rfl, rfl, hdriver, rfl, hfiles⟩

theorem doAlike_onFiles (m : Attempt Event φ α) :
    DoAlike (WorldsAlike alike) (World.onFiles m : Attempt Event (World σ ω φ) α).run
      (World.onFiles m : Attempt Event (World τ ω φ) α).run := by
  intro world world' ⟨hdriver, hwriter, hfiles⟩
  rw [World.run_onFiles, World.run_onFiles, hfiles]
  exact ⟨rfl, rfl, hdriver, hwriter, rfl⟩

variable {driver : Driver σ} {driver' : Driver τ} {writer : Writer ω} {disk : Disk φ}

theorem doAlike_reported {work : Attempt Event σ α} {work' : Attempt Event τ α}
    (hwork : DoAlike alike work.run work'.run) (pieces : α → List String) :
    DoAlike (WorldsAlike alike)
      ((Tools.mk driver writer disk).reported work pieces).run
      ((Tools.mk driver' writer disk).reported work' pieces).run := by
  refine comeAlike_run_bind (doAlike_onDriver hwork) fun unit ↦ ?_
  exact comeAlike_run_bind (doAlike_onWriter _) fun _ ↦ comeAlike_run_pure unit

theorem doAlike_run (h : BuildAlike alike driver driver') (sources : ShaderPair)
    (output : String) :
    DoAlike (WorldsAlike alike) ((Tools.mk driver writer disk).run sources output).run
      ((Tools.mk driver' writer disk).run sources output).run := by
  rw [Tools.run_eq, Tools.run_eq]
  refine comeAlike_run_bind (doAlike_reported (h.compile _ _) _) fun vertex ↦ ?_
  refine comeAlike_run_bind (doAlike_reported (h.compile _ _) _) fun fragment ↦ ?_
  refine comeAlike_run_bind (doAlike_reported (h.link _ _) _) fun program ↦ ?_
  refine comeAlike_run_bind (doAlike_onWriter _) fun _ ↦ ?_
  refine comeAlike_run_bind (doAlike_onDriver (comeAlike_run_lift (h.extract program)))
    fun artifact ↦ ?_
  exact comeAlike_run_bind (doAlike_onFiles _) fun _ ↦ comeAlike_run_pure _

namespace Workbench

theorem doAlike_yield (h : BuildAlike alike driver driver') (bench : Workbench) (step : Step) :
    DoAlike (WorldsAlike alike) (yield ⟨driver, writer, disk⟩ bench step).run
      (yield ⟨driver', writer, disk⟩ bench step).run := by
  cases step with
  | compile stage source =>
    exact comeAlike_run_bind (doAlike_onDriver (h.compile stage source))
      fun unit ↦ comeAlike_run_pure _
  | link vertex fragment =>
    simp only [yield]
    rcases bench.shaders[vertex]? with _ | vertex
    · exact comeAlike_run_pure _
    rcases bench.shaders[fragment]? with _ | fragment
    · exact comeAlike_run_pure _
    exact comeAlike_run_bind (doAlike_onDriver (h.link vertex fragment))
      fun unit ↦ comeAlike_run_pure _
  | extract program =>
    simp only [yield]
    rcases bench.programs[program]? with _ | program
    · exact comeAlike_run_pure _
    exact comeAlike_run_bind (doAlike_onDriver (comeAlike_run_lift (h.extract program)))
      fun artifact ↦ comeAlike_run_pure _
  | keep artifact => exact comeAlike_run_pure _
  | save artifact path =>
    simp only [yield]
    rcases bench.artifacts[artifact]? with _ | artifact
    · exact comeAlike_run_pure _
    exact comeAlike_run_bind (doAlike_onFiles _) fun _ ↦ comeAlike_run_pure _
  | reportShader shader =>
    simp only [yield]
    rcases bench.shaders[shader]? with _ | unit
    · exact comeAlike_run_pure _
    exact comeAlike_run_bind (doAlike_onWriter _) fun _ ↦ comeAlike_run_pure _
  | reportProgram program =>
    simp only [yield]
    rcases bench.programs[program]? with _ | unit
    · exact comeAlike_run_pure _
    exact comeAlike_run_bind (doAlike_onWriter _) fun _ ↦ comeAlike_run_pure _
  | load path =>
    exact comeAlike_run_bind (doAlike_onFiles _) fun source ↦ comeAlike_run_pure _
  | run sources output =>
    exact comeAlike_run_bind (doAlike_run h sources output) fun summary ↦ comeAlike_run_pure _
  | runFiles vertexFile fragmentFile output =>
    refine comeAlike_run_bind (doAlike_onFiles _) fun sources ↦ ?_
    exact comeAlike_run_bind (doAlike_run h sources output) fun summary ↦ comeAlike_run_pure _

theorem doAlike_perform (h : BuildAlike alike driver driver') (bench : Workbench) (step : Step) :
    DoAlike (WorldsAlike alike) (perform ⟨driver, writer, disk⟩ bench step)
      (perform ⟨driver', writer, disk⟩ bench step) := by
  refine comeAlike_bind (doAlike_yield h bench step) fun result ↦ ?_
  cases result with
  | ok result => exact comeAlike_pure _
  | error error => exact comeAlike_pure _

theorem doAlike_performEach (h : BuildAlike alike driver driver') (steps : List Step)
    (bench : Workbench) :
    DoAlike (WorldsAlike alike) (performEach ⟨driver, writer, disk⟩ steps bench)
      (performEach ⟨driver', writer, disk⟩ steps bench) := by
  induction steps generalizing bench with
  | nil => exact comeAlike_pure []
  | cons step rest ih =>
    refine comeAlike_bind (doAlike_perform h bench step) fun (result, bench) ↦ ?_
    exact comeAlike_bind (ih bench) fun results ↦ comeAlike_pure _

end Workbench

end Worlds

end ShaderBuild
