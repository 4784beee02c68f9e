import ShaderBuild.Proofs.RunTrails

/-!
Builds under other shader numbers. Two states of a driver may differ in nothing but the numbers that
shaders have: one state is the image of the other, and renumbered calls get renumbered answers. A
build does not look at the numbers that it passes on. From the one state it therefore does what it
does from the other, event for event, with the shaders renumbered (`follows_compile`,
`follows_link`, `follows_extract`, `follows_run`).
-/

set_option autoImplicit false
set_option relaxedAutoImplicit false

namespace ShaderBuild

variable {σ ω φ α α' β β' : Type}

/-! ### Other numbers -/

/-- The call with its shaders renumbered. -/
def Call.renumbered (number : ShaderId → ShaderId) : Call → Call
  | .compileShader shader source => .compileShader (number shader) source
  | .compileStatus shader => .compileStatus (number shader)
  | .shaderLog shader => .shaderLog (number shader)
  | .attachShader program shader => .attachShader program (number shader)
  | call => call

/-- The answer to the renumbered call: a new shader has another number too. -/
def Call.answerRenumbered (number : ShaderId → ShaderId) :
    (call : Call) → call.Answer → (call.renumbered number).Answer
  | .createShader _, answer => answer.map number
  | .compileShader _ _, answer => answer
  | .compileStatus _, answer => answer
  | .shaderLog _, answer => answer
  | .createProgram, answer => answer
  | .attachShader _ _, answer => answer
  | .linkProgram _, answer => answer
  | .linkStatus _, answer => answer
  | .parameter _ _, answer => answer
  | .programLog _, answer => answer
  | .activeVariable _ _ _ _, answer => answer
  | .binary _ _, answer => answer

/-- The event with its shaders renumbered. -/
def Event.renumbered (number : ShaderId → ShaderId) : Event → Event
  | .asked call answer within =>
    .asked (call.renumbered number) (call.answerRenumbered number answer) within
  | event => event

def CompiledShader.renumbered (number : ShaderId → ShaderId) (unit : CompiledShader) :
    CompiledShader :=
  { unit with id := number unit.id }

theorem shaderPieces_renumbered (number : ShaderId → ShaderId) (unit : CompiledShader) :
    Report.shaderPieces (unit.renumbered number) = Report.shaderPieces unit := rfl

theorem Event.renumbered_id (event : Event) : event.renumbered id = event := by
  cases event with
  | asked call answer within =>
    cases call with
    | createShader stage =>
      show asked (.createShader stage) (answer.map id) within = _
      rw [Except.map_id]
      rfl
    | _ => rfl
  | _ => rfl

theorem written_map_renumbered (number : ShaderId → ShaderId) (trail : List Event) :
    written (trail.map (Event.renumbered number)) = written trail := by
  have houtput : ∀ event : Event, (event.renumbered number).output = event.output := by
    intro event
    cases event <;> rfl
  rw [written, List.flatMap_map]
  exact congrArg trail.flatMap (funext houtput)

theorem map_renumbered_of_exchanges_eq_nil (number : ShaderId → ShaderId) {trail : List Event}
    (h : exchanges trail = []) : trail.map (Event.renumbered number) = trail := by
  have hkept : ∀ event ∈ trail, event.renumbered number = event := by
    intro event hevent
    have hnone := List.filterMap_eq_nil_iff.mp h event hevent
    cases event <;> first | rfl | simp [Event.exchange?] at hnone
  rw [List.map_congr_left hkept]
  exact List.map_id' trail

/-! ### One state as the image of another -/

/-- From the image of a state, the work does what `original` does from the state itself, event for
event with the shaders renumbered, and ends in the image of the state where `original` ends. -/
def Follows (image : σ → σ) (number : ShaderId → ShaderId) (view : α → β)
    (work : Activity Event σ β) (original : Activity Event σ α) : Prop :=
  ∀ s, work (image s) =
    ⟨view (original s).value, (original s).trail.map (Event.renumbered number),
      image (original s).state⟩

/-- In the image of a state, the driver gives the renumbered answer to the renumbered call. -/
def Driver.Renumbers (driver : Driver σ) (image : σ → σ) (number : ShaderId → ShaderId)
    (call : Call) : Prop :=
  ∀ s, driver.answer (call.renumbered number) (image s) =
    ⟨call.answerRenumbered number (driver.answer call s).value, (driver.answer call s).trail,
      image (driver.answer call s).state⟩

section Rules

variable {driver : Driver σ} {image : σ → σ} {number : ShaderId → ShaderId} {view : α → α'}
  {view' : β → β'}

theorem follows_pure (value : α) : Follows image number view (pure (view value)) (pure value) :=
  fun _ ↦ rfl

theorem follows_bind {work : Activity Event σ α'} {original : Activity Event σ α}
    {next : α' → Activity Event σ β'} {next' : α → Activity Event σ β}
    (hwork : Follows image number view work original)
    (hnext : ∀ a, Follows image number view' (next (view a)) (next' a)) :
    Follows image number view' (work >>= next) (original >>= next') := by
  intro s
  rw [Activity.bind_apply, Activity.bind_apply, hwork s]
  dsimp only
  rw [hnext _ _, List.map_append]

theorem follows_ask {call : Call} (h : driver.Renumbers image number call) :
    Follows image number (call.answerRenumbered number) (driver.ask (call.renumbered number))
      (driver.ask call) := by
  intro s
  rw [Driver.ask_apply, h s]
  rfl

theorem follows_log (record : Log.Record) :
    Follows image number id (Event.log record) (Event.log record) :=
  fun _ ↦ rfl

theorem follows_run_lift {work : Activity Event σ α'} {original : Activity Event σ α}
    (h : Follows image number view work original) :
    Follows image number (Except.map view) (ExceptT.lift work : Attempt Event σ α').run
      (ExceptT.lift original : Attempt Event σ α).run := by
  intro s
  rw [Attempt.run_lift_apply, Attempt.run_lift_apply, h s]
  rfl

theorem follows_run_pure (value : α) :
    Follows image number (Except.map view) (pure (view value) : Attempt Event σ α').run
      (pure value : Attempt Event σ α).run :=
  fun _ ↦ rfl

theorem follows_run_bind {work : Attempt Event σ α'} {original : Attempt Event σ α}
    {next : α' → Attempt Event σ β'} {next' : α → Attempt Event σ β}
    (hwork : Follows image number (Except.map view) work.run original.run)
    (hnext : ∀ a, Follows image number (Except.map view') (next (view a)).run (next' a).run) :
    Follows image number (Except.map view') (work >>= next).run (original >>= next').run := by
  rw [ExceptT.run_bind, ExceptT.run_bind]
  refine follows_bind hwork fun result ↦ ?_
  cases result with
  | error error => exact fun _ ↦ rfl
  | ok a => exact hnext a

theorem follows_unless_log_bind {condition : Prop} [Decidable condition] {record : Log.Record}
    {work : Activity Event σ α'} {original : Activity Event σ α}
    (h : Follows image number view work original) :
    Follows image number view (if condition then work else Event.log record >>= fun _ ↦ work)
      (if condition then original else Event.log record >>= fun _ ↦ original) := by
  split_ifs
  · exact h
  · exact follows_bind (follows_log record) fun _ ↦ h

theorem follows_run_when_log_bind {condition : Prop} [Decidable condition] {record : Log.Record}
    {work : Attempt Event σ α'} {original : Attempt Event σ α}
    (h : Follows image number (Except.map view) work.run original.run) :
    Follows image number (Except.map view)
      (ExceptT.run (if condition then ExceptT.lift (Event.log record) >>= fun _ ↦ work else work))
      (ExceptT.run
        (if condition then ExceptT.lift (Event.log record) >>= fun _ ↦ original
          else original)) := by
  split_ifs
  · exact follows_run_bind (follows_run_lift (follows_log record)) fun _ ↦ h
  · exact h

theorem follows_run_unless_log_bind {condition : Prop} [Decidable condition] {record : Log.Record}
    {work : Attempt Event σ α'} {original : Attempt Event σ α}
    (h : Follows image number (Except.map view) work.run original.run) :
    Follows image number (Except.map view)
      (ExceptT.run (if condition then work else ExceptT.lift (Event.log record) >>= fun _ ↦ work))
      (ExceptT.run
        (if condition then original
          else ExceptT.lift (Event.log record) >>= fun _ ↦ original)) := by
  split_ifs
  · exact h
  · exact follows_run_bind (follows_run_lift (follows_log record)) fun _ ↦ h

end Rules

/-! ### Stages of a build -/

/-- Whether the call makes a program or is about one. -/
def Call.isOfProgram : Call → Bool
  | .createShader _ => false
  | .compileShader _ _ => false
  | .compileStatus _ => false
  | .shaderLog _ => false
  | _ => true

section Stages

variable {driver : Driver σ} {image : σ → σ} {number : ShaderId → ShaderId}

theorem follows_compile (h : ∀ call, driver.Renumbers image number call) (stage : Stage)
    (source : String) :
    Follows image number (Except.map (CompiledShader.renumbered number))
      (compile driver stage source).run (compile driver stage source).run := by
  unfold compile
  refine follows_run_when_log_bind ?_
  refine follows_run_bind (follows_ask (h (.createShader stage))) fun id ↦ ?_
  refine follows_run_bind (follows_run_lift (follows_ask (h (.compileShader id source)))) fun _ ↦ ?_
  refine follows_run_bind (follows_run_lift (follows_ask (h (.compileStatus id)))) fun status ↦ ?_
  refine follows_run_bind (follows_run_lift (follows_ask (h (.shaderLog id)))) fun infoLog ↦ ?_
  refine follows_run_bind (follows_run_lift (follows_log _)) fun _ ↦ ?_
  exact follows_run_pure _

variable (h : ∀ call : Call, call.isOfProgram = true → driver.Renumbers image number call)

include h

theorem follows_describeFrom (interface : Interface) (program : ProgramId)
    (maxLength index count : Nat) :
    Follows image number id (describeFrom driver interface program maxLength index count)
      (describeFrom driver interface program maxLength index count) := by
  induction count generalizing index with
  | zero => exact follows_pure []
  | succ count ih =>
    rw [describeFrom]
    have hask := h (.activeVariable interface program (.ofNat index) maxLength) rfl
    refine follows_bind (follows_ask hask) fun answer ↦ ?_
    cases answer with
    | some described => exact follows_bind (ih (index + 1)) fun rest ↦ follows_pure _
    | none => exact follows_bind (follows_log _) fun _ ↦ ih (index + 1)

theorem follows_activeVariables (interface : Interface) (program : ProgramId) :
    Follows image number id (activeVariables driver interface program)
      (activeVariables driver interface program) := by
  unfold activeVariables
  refine follows_bind (follows_ask (h (.parameter program interface.countParameter) rfl))
    fun (count : Int32) ↦ ?_
  show Follows image number id (if count ≤ 0 then _ else _) (if count ≤ 0 then _ else _)
  split_ifs
  · exact follows_pure []
  · refine follows_bind (follows_ask (h (.parameter program interface.maxLengthParameter) rfl))
      fun longest ↦ ?_
    exact follows_describeFrom h interface program _ 0 _

theorem follows_linkLog (program : ProgramId) :
    Follows image number id (linkLog driver program) (linkLog driver program) := by
  unfold linkLog
  refine follows_bind (follows_ask (h (.parameter program .infoLogLength) rfl))
    fun (length : Int32) ↦ ?_
  show Follows image number id (if length > 0 then _ else _) (if length > 0 then _ else _)
  split_ifs
  · exact follows_ask (h (.programLog program) rfl)
  · exact follows_pure ""

theorem follows_link (vertex fragment : CompiledShader) :
    Follows image number (Except.map id)
      (link driver (vertex.renumbered number) (fragment.renumbered number)).run
      (link driver vertex fragment).run := by
  have hcreate : Follows image number (Except.map id) (driver.ask .createProgram)
      (driver.ask .createProgram) := by
    rw [Except.map_id]
    exact follows_ask (h .createProgram rfl)
  unfold link
  refine follows_run_bind hcreate fun program ↦ ?_
  refine follows_run_bind
    (follows_run_lift (follows_ask (h (.attachShader program vertex.id) rfl))) fun _ ↦ ?_
  refine follows_run_bind
    (follows_run_lift (follows_ask (h (.attachShader program fragment.id) rfl))) fun _ ↦ ?_
  refine follows_run_bind
    (follows_run_lift (follows_ask (h (.linkProgram program) rfl))) fun _ ↦ ?_
  refine follows_run_bind
    (follows_run_lift (follows_ask (h (.linkStatus program) rfl))) fun status ↦ ?_
  refine follows_run_bind (follows_run_lift (follows_linkLog h program)) fun infoLog ↦ ?_
  refine follows_run_unless_log_bind ?_
  refine follows_run_bind (follows_run_lift (follows_activeVariables h .attributes program))
    fun attributes ↦ ?_
  refine follows_run_bind (follows_run_lift (follows_activeVariables h .uniforms program))
    fun uniforms ↦ ?_
  exact follows_run_pure _

theorem follows_extract (program : LinkedProgram) :
    Follows image number id (extract driver program) (extract driver program) := by
  unfold extract
  refine follows_unless_log_bind ?_
  refine follows_bind (follows_ask (h (.parameter program.id .programBinaryLength) rfl))
    fun (length : Int32) ↦ ?_
  refine follows_bind (follows_ask (h (.binary program.id length.toNatClampNeg) rfl))
    fun artifact ↦ ?_
  exact follows_bind (follows_log _) fun _ ↦ follows_pure _

end Stages

/-! ### Whole runs -/

section Runs

variable {image : σ → σ} {number : ShaderId → ShaderId} {view : α → α'}

/-- The world with the image of its driver. -/
def World.imaged (image : σ → σ) (world : World σ ω φ) : World σ ω φ :=
  { world with driver := image world.driver }

theorem follows_onDriver {work : Attempt Event σ α'} {original : Attempt Event σ α}
    (h : Follows image number (Except.map view) work.run original.run) :
    Follows (World.imaged image) number (Except.map view)
      (World.onDriver work : Attempt Event (World σ ω φ) α').run (World.onDriver original).run := by
  intro world
  have hwork := h world.driver
  rw [World.run_onDriver, World.run_onDriver]
  show (⟨(work.run (image world.driver)).value, (work.run (image world.driver)).trail,
    { world with driver := (work.run (image world.driver)).state }⟩ : Ending _ _ _) = _
  rw [hwork]
  rfl

theorem follows_onWriter {work : Activity Event ω (Except IoError α)}
    (h : ∀ w, exchanges (work w).trail = []) :
    Follows (World.imaged image) number (Except.map id)
      (World.onWriter work : Attempt Event (World σ ω φ) α).run (World.onWriter work).run := by
  intro world
  rw [World.run_onWriter, World.run_onWriter, Except.map_id,
    map_renumbered_of_exchanges_eq_nil number (h world.writer)]
  rfl

theorem follows_onFiles {work : Attempt Event φ α}
    (h : ∀ files, exchanges (work.run files).trail = []) :
    Follows (World.imaged image) number (Except.map id)
      (World.onFiles work : Attempt Event (World σ ω φ) α).run (World.onFiles work).run := by
  intro world
  rw [World.run_onFiles, World.run_onFiles, Except.map_id,
    map_renumbered_of_exchanges_eq_nil number (h world.files)]
  rfl

theorem follows_reported {tools : Tools σ ω φ} {work : Attempt Event σ α'}
    {original : Attempt Event σ α} {pieces : α → List String} {pieces' : α' → List String}
    (h : Follows image number (Except.map view) work.run original.run)
    (hpieces : ∀ unit, pieces' (view unit) = pieces unit) :
    Follows (World.imaged image) number (Except.map view) (tools.reported work pieces').run
      (tools.reported original pieces).run := by
  unfold Tools.reported
  refine follows_run_bind (follows_onDriver h) fun unit ↦ ?_
  rw [hpieces]
  refine follows_run_bind (follows_onWriter fun w ↦ ?_) fun _ ↦ follows_run_pure unit
  exact (tools.writer.onlyWrites_writePieces (pieces unit) w).exchanges_eq_nil

theorem follows_finish {tools : Tools σ ω φ}
    (h : ∀ call, tools.driver.Renumbers image number call) (output : String)
    (vertex fragment : CompiledShader) (program : LinkedProgram) :
    Follows (World.imaged image) number (Except.map id)
      (tools.finish output (vertex.renumbered number) (fragment.renumbered number) program).run
      (tools.finish output vertex fragment program).run := by
  unfold Tools.finish
  refine follows_run_bind (follows_onWriter fun w ↦ rfl) fun _ ↦ ?_
  have hextract := follows_extract (fun call _ ↦ h call) program
  refine follows_run_bind (follows_onDriver (follows_run_lift hextract)) fun artifact ↦ ?_
  refine follows_run_bind (follows_onFiles fun files ↦ ?_) fun _ ↦ follows_run_pure _
  exact (saveTrail_save tools.disk artifact output files).exchanges_eq_nil

/-- A run from the image of a state does what it does from the state itself, with the shaders
renumbered: it ends with the same summary, and leaves the writer and the files alike. -/
theorem follows_run (tools : Tools σ ω φ) (h : ∀ call, tools.driver.Renumbers image number call)
    (sources : ShaderPair) (output : String) :
    Follows (World.imaged image) number (Except.map id) (tools.run sources output).run
      (tools.run sources output).run := by
  rw [Tools.run_eq]
  refine follows_run_bind (follows_reported (follows_compile h .vertex sources.vertex)
    (shaderPieces_renumbered number)) fun vertex ↦ ?_
  refine follows_run_bind (follows_reported (follows_compile h .fragment sources.fragment)
    (shaderPieces_renumbered number)) fun fragment ↦ ?_
  refine follows_run_bind (follows_reported (follows_link (fun call _ ↦ h call) vertex fragment)
    fun _ ↦ rfl) fun program ↦ ?_
  exact follows_finish h output vertex fragment program

end Runs

end ShaderBuild
