import ShaderBuild.Driver.Gles
import ShaderBuild.Proofs.RunTrails

/-!
What is done with GL and EGL. `OnlyLeaves` says of an activity that every event of its trail is of
some kind, whatever state it starts from; there is one rule for each way to put activities together.
By these rules neither the making of a context nor a build in it releases a context
(`onlyLeaves_create`, `Gles.onlyLeaves_answer`, `onlyLeaves_run`).
-/

set_option autoImplicit false
set_option relaxedAutoImplicit false

namespace ShaderBuild

variable {ε σ ω φ γ α β : Type}

/-! ### Trails of one kind -/

/-- Every event of the trail is allowed, from every state. -/
def Activity.OnlyLeaves (allowed : ε → Prop) (m : Activity ε σ α) : Prop :=
  ∀ s, ∀ event ∈ (m s).trail, allowed event

open Activity (OnlyLeaves)

variable {allowed : ε → Prop}

theorem onlyLeaves_pure (a : α) : OnlyLeaves allowed (pure a : Activity ε σ α) := by
  intro s event hevent
  exact absurd hevent List.not_mem_nil

theorem onlyLeaves_emit {event : ε} (h : allowed event) :
    OnlyLeaves allowed (Activity.emit event : Activity ε σ Unit) := by
  intro s other hother
  rw [List.mem_singleton.mp hother]
  exact h

theorem onlyLeaves_bind {m : Activity ε σ α} {next : α → Activity ε σ β}
    (hm : OnlyLeaves allowed m) (hnext : ∀ a, OnlyLeaves allowed (next a)) :
    OnlyLeaves allowed (m >>= next) := by
  intro s event hevent
  rcases List.mem_append.mp hevent with h | h
  · exact hm s event h
  · exact hnext _ _ event h

/-! ### Attempts -/

theorem onlyLeaves_run_throw (error : Error) :
    OnlyLeaves allowed (throw error : Attempt ε σ α).run := onlyLeaves_pure _

theorem onlyLeaves_run_lift {m : Activity ε σ α} (hm : OnlyLeaves allowed m) :
    OnlyLeaves allowed (ExceptT.lift m : Attempt ε σ α).run := by
  intro s
  rw [Attempt.run_lift_apply]
  exact hm s

theorem onlyLeaves_run_bind {m : Attempt ε σ α} {next : α → Attempt ε σ β}
    (hm : OnlyLeaves allowed m.run) (hnext : ∀ a, OnlyLeaves allowed (next a).run) :
    OnlyLeaves allowed (m >>= next).run := by
  rw [ExceptT.run_bind]
  refine onlyLeaves_bind hm fun result ↦ ?_
  cases result with
  | error error => exact onlyLeaves_pure _
  | ok a => exact hnext a

/-! ### Releases -/

/-- The context that the deed asks EGL to release. -/
def Deed.release? : Deed → Option Nat
  | .egl (.releaseCurrent context) _ => some context
  | _ => none

/-- The deed releases no context. -/
def Deed.ReleasesNothing (deed : Deed) : Prop := deed.release? = none

theorem onlyLeaves_gl_ask (gl : Gl.Implementation γ) (call : Gl.Call) :
    OnlyLeaves Deed.ReleasesNothing (gl.ask call) := by
  intro s deed hdeed
  rw [List.mem_singleton.mp hdeed]
  rfl

theorem onlyLeaves_deedLog (record : Log.Record) :
    OnlyLeaves Deed.ReleasesNothing (Deed.log record : Activity Deed γ Unit) := onlyLeaves_emit rfl

theorem onlyLeaves_egl_ask (egl : Egl.Platform γ) {request : Egl.Request}
    (h : ∀ context, request ≠ .releaseCurrent context) :
    OnlyLeaves Deed.ReleasesNothing (egl.ask request) := by
  intro s deed hdeed
  rw [List.mem_singleton.mp hdeed]
  cases request with
  | releaseCurrent context => exact absurd rfl (h context)
  | _ => rfl

/-! ### Making a context -/

theorem onlyLeaves_requestOrFail (egl : Egl.Platform γ) (failure : ContextFailure)
    {request : Egl.Request} (h : ∀ context, request ≠ .releaseCurrent context) :
    OnlyLeaves Deed.ReleasesNothing (requestOrFail egl failure request).run := by
  unfold requestOrFail
  refine onlyLeaves_run_bind (onlyLeaves_run_lift (onlyLeaves_egl_ask egl h)) fun answer ↦ ?_
  cases answer with
  | ok result => exact onlyLeaves_pure _
  | error fault => exact onlyLeaves_run_throw _

/-- Whatever it is answered, one request is made. -/
theorem trail_requestOrFail (egl : Egl.Platform γ) (failure : ContextFailure)
    (request : Egl.Request) (s : γ) :
    ((requestOrFail egl failure request).run s).trail =
      [.egl request (egl.answer request s).1] := by
  unfold requestOrFail
  show (((ExceptT.lift (egl.ask request) : Attempt Deed γ request.Answer) >>= fun answer ↦ _).run
    s).trail = _
  rw [ExceptT.run_bind_lift, Activity.bind_apply]
  show [Deed.egl request (egl.answer request s).1] ++ _ = _
  generalize (egl.ask request s).value = answer
  cases answer <;> rfl

theorem onlyLeaves_logDisplay (egl : Egl.Platform γ) (origin : Egl.DisplayOrigin) :
    OnlyLeaves Deed.ReleasesNothing (logDisplay egl origin) := by
  intro s deed hdeed
  cases origin <;> exact onlyLeaves_deedLog _ s deed hdeed

theorem onlyLeaves_connect (egl : Egl.Platform γ) (requested : Nat) :
    OnlyLeaves Deed.ReleasesNothing (connect egl requested).run := by
  have hcount : OnlyLeaves Deed.ReleasesNothing (countDevices egl) := by
    unfold countDevices
    refine onlyLeaves_bind (onlyLeaves_egl_ask egl nofun) fun answer ↦ ?_
    cases answer with
    | ok found => exact onlyLeaves_pure _
    | error fault => exact onlyLeaves_bind (onlyLeaves_deedLog _) fun _ ↦ onlyLeaves_pure _
  unfold connect
  refine onlyLeaves_run_bind (onlyLeaves_run_lift hcount) fun found ↦ ?_
  refine onlyLeaves_run_bind (onlyLeaves_pure _) fun origin ↦ ?_
  refine onlyLeaves_run_bind (onlyLeaves_run_lift (onlyLeaves_logDisplay egl origin)) fun _ ↦ ?_
  exact onlyLeaves_requestOrFail egl .display nofun

theorem Gl.Functions.onlyLeaves_find (gl : Gl.Implementation γ) (major : Nat) :
    OnlyLeaves Deed.ReleasesNothing (Gl.Functions.find gl major).run := by
  have hrequire : ∀ names, OnlyLeaves Deed.ReleasesNothing (Gl.Functions.require gl names).run := by
    intro names
    induction names with
    | nil => exact onlyLeaves_pure _
    | cons name rest ih =>
      unfold Gl.Functions.require
      refine onlyLeaves_run_bind (onlyLeaves_run_lift (onlyLeaves_gl_ask gl _)) fun found ↦ ?_
      cases found with
      | true => exact ih
      | false => exact onlyLeaves_run_throw _
  have hfirst : ∀ functions,
      OnlyLeaves Deed.ReleasesNothing (Gl.Functions.firstFound gl functions) := by
    intro functions
    induction functions with
    | nil => exact onlyLeaves_bind (onlyLeaves_deedLog _) fun _ ↦ onlyLeaves_pure _
    | cons function rest ih =>
      unfold Gl.Functions.firstFound
      refine onlyLeaves_bind (onlyLeaves_gl_ask gl _) fun found ↦ ?_
      cases found with
      | true => exact onlyLeaves_bind (onlyLeaves_deedLog _) fun _ ↦ onlyLeaves_pure _
      | false => exact ih
  unfold Gl.Functions.find
  refine onlyLeaves_run_bind (hrequire Gl.requiredFunctions) fun _ ↦ ?_
  refine onlyLeaves_run_bind (onlyLeaves_run_lift (hfirst _)) fun binary ↦ ?_
  exact onlyLeaves_pure _

namespace Context

theorem onlyLeaves_firstConfig (egl : Egl.Platform γ) (major : Nat) (surfaces : List Egl.Surface) :
    OnlyLeaves Deed.ReleasesNothing (firstConfig egl major surfaces).run := by
  induction surfaces with
  | nil => exact onlyLeaves_run_throw _
  | cons surface rest ih =>
    unfold firstConfig
    refine onlyLeaves_run_bind (onlyLeaves_requestOrFail egl .config nofun) fun configs ↦ ?_
    cases configs with
    | nil => exact ih
    | cons config others => exact onlyLeaves_pure _

theorem onlyLeaves_activate (egl : Egl.Platform γ) (major : Nat) :
    OnlyLeaves Deed.ReleasesNothing (activate egl major).run := by
  unfold activate
  refine onlyLeaves_run_bind (onlyLeaves_firstConfig egl major surfaces) fun config ↦ ?_
  refine onlyLeaves_run_bind (onlyLeaves_requestOrFail egl .creation nofun) fun context ↦ ?_
  refine onlyLeaves_run_bind (onlyLeaves_requestOrFail egl .activation nofun) fun _ ↦ ?_
  exact onlyLeaves_pure _

theorem onlyLeaves_activateFirst (egl : Egl.Platform γ) (last : Error) (versions : List Nat) :
    OnlyLeaves Deed.ReleasesNothing (activateFirst egl last versions).run := by
  induction versions generalizing last with
  | nil => exact onlyLeaves_run_throw _
  | cons major rest ih =>
    unfold activateFirst
    refine onlyLeaves_run_bind (onlyLeaves_run_lift (onlyLeaves_activate egl major))
      fun result ↦ ?_
    cases result with
    | ok context => exact onlyLeaves_pure _
    | error error =>
      exact onlyLeaves_run_bind (onlyLeaves_run_lift (onlyLeaves_deedLog _)) fun _ ↦ ih error

theorem onlyLeaves_introduce (gl : Gl.Implementation γ) (string : Log.GlString) :
    OnlyLeaves Deed.ReleasesNothing (introduce gl string) :=
  onlyLeaves_bind (onlyLeaves_gl_ask gl _) fun _ ↦ onlyLeaves_deedLog _

theorem onlyLeaves_hasBinaryFormats (gl : Gl.Implementation γ) (major : Nat) :
    OnlyLeaves Deed.ReleasesNothing (hasBinaryFormats gl major) := by
  have hsupports : OnlyLeaves Deed.ReleasesNothing (supportsBinaries gl major) := by
    unfold supportsBinaries
    by_cases hmajor : major ≥ 3
    · rw [if_pos hmajor]
      exact onlyLeaves_pure _
    · rw [if_neg hmajor]
      exact onlyLeaves_bind (onlyLeaves_gl_ask gl _) fun _ ↦ onlyLeaves_pure _
  unfold hasBinaryFormats
  refine onlyLeaves_bind hsupports fun supported ↦ ?_
  cases supported with
  | true => exact onlyLeaves_bind (onlyLeaves_gl_ask gl _) fun _ ↦ onlyLeaves_pure _
  | false => exact onlyLeaves_pure _

theorem onlyLeaves_prepare (gl : Gl.Implementation γ) (major handle : Nat) :
    OnlyLeaves Deed.ReleasesNothing (prepare gl major handle).run := by
  unfold prepare
  refine onlyLeaves_run_bind (Gl.Functions.onlyLeaves_find gl major) fun functions ↦ ?_
  refine onlyLeaves_run_bind (onlyLeaves_run_lift (onlyLeaves_introduce gl _)) fun _ ↦ ?_
  refine onlyLeaves_run_bind (onlyLeaves_run_lift (onlyLeaves_introduce gl _)) fun _ ↦ ?_
  refine onlyLeaves_run_bind (onlyLeaves_run_lift (onlyLeaves_introduce gl _)) fun _ ↦ ?_
  refine onlyLeaves_run_bind (onlyLeaves_run_lift (onlyLeaves_hasBinaryFormats gl major))
    fun known ↦ ?_
  cases known with
  | true => exact onlyLeaves_pure _
  | false =>
    exact onlyLeaves_run_bind (onlyLeaves_run_lift (onlyLeaves_deedLog _)) fun _ ↦
      onlyLeaves_pure _

theorem onlyLeaves_create (machine : Machine γ) (request : ContextRequest) :
    OnlyLeaves Deed.ReleasesNothing (create machine request).run := by
  unfold create
  refine onlyLeaves_run_bind (onlyLeaves_connect machine.egl request.device) fun _ ↦ ?_
  refine onlyLeaves_run_bind (onlyLeaves_activateFirst machine.egl _ _) fun current ↦ ?_
  exact onlyLeaves_prepare machine.gl _ _

end Context

/-! ### The driver of a context -/

namespace Gles

theorem onlyLeaves_discardErrors (gl : Gl.Implementation γ) (count : Nat) :
    OnlyLeaves Deed.ReleasesNothing (Gl.discardErrors gl count) := by
  induction count with
  | zero => exact onlyLeaves_pure _
  | succ count ih =>
    unfold Gl.discardErrors
    refine onlyLeaves_bind (onlyLeaves_gl_ask gl _) fun code ↦ ?_
    split
    · exact onlyLeaves_pure _
    · exact onlyLeaves_bind (onlyLeaves_deedLog _) fun _ ↦ ih

theorem onlyLeaves_describeVariable (gl : Gl.Implementation γ) (interface : Interface)
    (program index : UInt32) (maxLength : Nat) :
    OnlyLeaves Deed.ReleasesNothing
      (Gl.describeVariable gl interface program index maxLength) := by
  unfold Gl.describeVariable
  refine onlyLeaves_bind (onlyLeaves_discardErrors gl _) fun _ ↦ ?_
  refine onlyLeaves_bind (onlyLeaves_gl_ask gl _) fun answer ↦ ?_
  refine onlyLeaves_bind (onlyLeaves_gl_ask gl _) fun code ↦ ?_
  split
  · exact onlyLeaves_pure _
  · exact onlyLeaves_bind (onlyLeaves_deedLog _) fun _ ↦ onlyLeaves_pure _

theorem onlyLeaves_fetchBinary (gl : Gl.Implementation γ) (functions : Gl.Functions)
    (program : UInt32) (length : Nat) :
    OnlyLeaves Deed.ReleasesNothing (Gl.fetchBinary gl functions program length) := by
  unfold Gl.fetchBinary
  cases functions.binary with
  | none => exact onlyLeaves_bind (onlyLeaves_deedLog _) fun _ ↦ onlyLeaves_pure _
  | some function =>
    refine onlyLeaves_bind (onlyLeaves_discardErrors gl _) fun _ ↦ ?_
    refine onlyLeaves_bind (onlyLeaves_gl_ask gl _) fun answer ↦ ?_
    refine onlyLeaves_bind (onlyLeaves_gl_ask gl _) fun code ↦ ?_
    split
    · exact onlyLeaves_pure _
    · exact onlyLeaves_bind (onlyLeaves_deedLog _) fun _ ↦ onlyLeaves_pure _

/-- The driver of a context makes GL calls only. -/
theorem onlyLeaves_answer (gl : Gl.Implementation γ) (context : Context) (call : Call) :
    OnlyLeaves Deed.ReleasesNothing ((driver gl context).answer call) := by
  show OnlyLeaves Deed.ReleasesNothing (answer gl context call)
  cases call with
  | createShader stage =>
    refine onlyLeaves_bind (onlyLeaves_gl_ask gl _) fun shader ↦ ?_
    split <;> exact onlyLeaves_pure _
  | compileShader shader source =>
    exact onlyLeaves_bind (onlyLeaves_gl_ask gl _) fun _ ↦ onlyLeaves_gl_ask gl _
  | compileStatus shader => exact onlyLeaves_bind (onlyLeaves_gl_ask gl _) fun _ ↦ onlyLeaves_pure _
  | shaderLog shader =>
    refine onlyLeaves_bind (onlyLeaves_gl_ask gl _) fun length ↦ ?_
    split
    · exact onlyLeaves_bind (onlyLeaves_gl_ask gl _) fun _ ↦ onlyLeaves_pure _
    · exact onlyLeaves_pure _
  | createProgram =>
    refine onlyLeaves_bind (onlyLeaves_gl_ask gl _) fun program ↦ ?_
    split <;> exact onlyLeaves_pure _
  | attachShader program shader => exact onlyLeaves_gl_ask gl _
  | linkProgram program => exact onlyLeaves_gl_ask gl _
  | linkStatus program => exact onlyLeaves_bind (onlyLeaves_gl_ask gl _) fun _ ↦ onlyLeaves_pure _
  | parameter program code => exact onlyLeaves_gl_ask gl _
  | programLog program =>
    refine onlyLeaves_bind (onlyLeaves_gl_ask gl _) fun length ↦ ?_
    split
    · exact onlyLeaves_bind (onlyLeaves_gl_ask gl _) fun _ ↦ onlyLeaves_pure _
    · exact onlyLeaves_pure _
  | activeVariable interface program index maxLength =>
    exact onlyLeaves_describeVariable gl interface _ index maxLength
  | binary program length =>
    exact onlyLeaves_bind (onlyLeaves_fetchBinary gl _ _ length) fun _ ↦ onlyLeaves_pure _

end Gles

/-! ### Builds -/

/-- Every deed within the event releases no context. -/
def Event.ReleasesNothing (event : Event) : Prop := ∀ deed ∈ event.deeds, deed.ReleasesNothing

theorem onlyLeaves_log (record : Log.Record) :
    OnlyLeaves Event.ReleasesNothing (Event.log record : Activity Event σ Unit) :=
  onlyLeaves_emit fun _ hdeed ↦ absurd hdeed List.not_mem_nil

theorem onlyLeaves_unless_log_bind {condition : Prop} [Decidable condition] {record : Log.Record}
    {next : Activity Event σ β} (h : OnlyLeaves Event.ReleasesNothing next) :
    OnlyLeaves Event.ReleasesNothing
      (if condition then next else Event.log record >>= fun _ ↦ next) := by
  split_ifs
  · exact h
  · exact onlyLeaves_bind (onlyLeaves_log record) fun _ ↦ h

theorem onlyLeaves_run_log_bind {record : Log.Record} {next : Attempt Event σ β}
    (h : OnlyLeaves Event.ReleasesNothing next.run) :
    OnlyLeaves Event.ReleasesNothing
      (ExceptT.lift (Event.log record) >>= fun _ ↦ next : Attempt Event σ β).run :=
  onlyLeaves_run_bind (onlyLeaves_run_lift (onlyLeaves_log record)) fun _ ↦ h

theorem onlyLeaves_run_when_log_bind {condition : Prop} [Decidable condition] {record : Log.Record}
    {next : Attempt Event σ β} (h : OnlyLeaves Event.ReleasesNothing next.run) :
    OnlyLeaves Event.ReleasesNothing
      (ExceptT.run
        (if condition then ExceptT.lift (Event.log record) >>= fun _ ↦ next else next)) := by
  split_ifs
  · exact onlyLeaves_run_log_bind h
  · exact h

theorem onlyLeaves_run_unless_log_bind {condition : Prop} [Decidable condition]
    {record : Log.Record} {next : Attempt Event σ β}
    (h : OnlyLeaves Event.ReleasesNothing next.run) :
    OnlyLeaves Event.ReleasesNothing
      (ExceptT.run
        (if condition then next else ExceptT.lift (Event.log record) >>= fun _ ↦ next)) := by
  split_ifs
  · exact h
  · exact onlyLeaves_run_log_bind h

section Build

variable {driver : Driver σ}
  (hdriver : ∀ call, OnlyLeaves Deed.ReleasesNothing (driver.answer call))

include hdriver

theorem onlyLeaves_ask (call : Call) :
    OnlyLeaves Event.ReleasesNothing (driver.ask call) := by
  intro s event hevent
  rw [List.mem_singleton.mp hevent]
  exact hdriver call s

theorem onlyLeaves_run_ask (call : Call) :
    OnlyLeaves Event.ReleasesNothing (ExceptT.lift (driver.ask call) : Attempt Event σ _).run :=
  onlyLeaves_run_lift (onlyLeaves_ask hdriver call)

theorem onlyLeaves_compile (stage : Stage) (source : String) :
    OnlyLeaves Event.ReleasesNothing (compile driver stage source).run := by
  unfold compile
  refine onlyLeaves_run_when_log_bind ?_
  refine onlyLeaves_run_bind (onlyLeaves_ask hdriver _) fun id ↦ ?_
  refine onlyLeaves_run_bind (onlyLeaves_run_ask hdriver _) fun _ ↦ ?_
  refine onlyLeaves_run_bind (onlyLeaves_run_ask hdriver _) fun status ↦ ?_
  refine onlyLeaves_run_bind (onlyLeaves_run_ask hdriver _) fun infoLog ↦ ?_
  exact onlyLeaves_run_log_bind (onlyLeaves_pure _)

theorem onlyLeaves_describeFrom (interface : Interface) (program : ProgramId)
    (maxLength index count : Nat) :
    OnlyLeaves Event.ReleasesNothing
      (describeFrom driver interface program maxLength index count) := by
  induction count generalizing index with
  | zero => exact onlyLeaves_pure _
  | succ count ih =>
    unfold describeFrom
    refine onlyLeaves_bind (onlyLeaves_ask hdriver _) fun answer ↦ ?_
    cases answer with
    | some described => exact onlyLeaves_bind (ih (index + 1)) fun _ ↦ onlyLeaves_pure _
    | none => exact onlyLeaves_bind (onlyLeaves_log _) fun _ ↦ ih (index + 1)

theorem onlyLeaves_activeVariables (interface : Interface) (program : ProgramId) :
    OnlyLeaves Event.ReleasesNothing (activeVariables driver interface program) := by
  unfold activeVariables
  refine onlyLeaves_bind (onlyLeaves_ask hdriver _) fun count ↦ ?_
  split
  · exact onlyLeaves_pure _
  · exact onlyLeaves_bind (onlyLeaves_ask hdriver _) fun _ ↦
      onlyLeaves_describeFrom hdriver _ _ _ _ _

theorem onlyLeaves_linkLog (program : ProgramId) :
    OnlyLeaves Event.ReleasesNothing (linkLog driver program) := by
  unfold linkLog
  refine onlyLeaves_bind (onlyLeaves_ask hdriver _) fun length ↦ ?_
  split
  · exact onlyLeaves_ask hdriver _
  · exact onlyLeaves_pure _

theorem onlyLeaves_link (vertex fragment : CompiledShader) :
    OnlyLeaves Event.ReleasesNothing (link driver vertex fragment).run := by
  unfold link
  refine onlyLeaves_run_bind (onlyLeaves_ask hdriver _) fun id ↦ ?_
  refine onlyLeaves_run_bind (onlyLeaves_run_ask hdriver _) fun _ ↦ ?_
  refine onlyLeaves_run_bind (onlyLeaves_run_ask hdriver _) fun _ ↦ ?_
  refine onlyLeaves_run_bind (onlyLeaves_run_ask hdriver _) fun _ ↦ ?_
  refine onlyLeaves_run_bind (onlyLeaves_run_ask hdriver _) fun status ↦ ?_
  refine onlyLeaves_run_bind (onlyLeaves_run_lift (onlyLeaves_linkLog hdriver _)) fun infoLog ↦ ?_
  refine onlyLeaves_run_unless_log_bind ?_
  refine onlyLeaves_run_bind
    (onlyLeaves_run_lift (onlyLeaves_activeVariables hdriver _ _)) fun attributes ↦ ?_
  exact onlyLeaves_run_bind
    (onlyLeaves_run_lift (onlyLeaves_activeVariables hdriver _ _)) fun _ ↦ onlyLeaves_pure _

theorem onlyLeaves_extract (program : LinkedProgram) :
    OnlyLeaves Event.ReleasesNothing (extract driver program) := by
  unfold extract
  refine onlyLeaves_unless_log_bind ?_
  refine onlyLeaves_bind (onlyLeaves_ask hdriver _) fun reported ↦ ?_
  refine onlyLeaves_bind (onlyLeaves_ask hdriver _) fun artifact ↦ ?_
  exact onlyLeaves_bind (onlyLeaves_log _) fun _ ↦ onlyLeaves_pure _

end Build

theorem onlyLeaves_onDriver {m : Attempt Event σ α}
    (hm : OnlyLeaves Event.ReleasesNothing m.run) :
    OnlyLeaves Event.ReleasesNothing (World.onDriver m : Attempt Event (World σ ω φ) α).run :=
  fun world ↦ hm world.driver

theorem onlyLeaves_onFiles {m : Attempt Event φ α}
    (hm : OnlyLeaves Event.ReleasesNothing m.run) :
    OnlyLeaves Event.ReleasesNothing (World.onFiles m : Attempt Event (World σ ω φ) α).run :=
  fun world ↦ hm world.files

theorem onlyLeaves_onWriter {m : Activity Event ω (Except IoError α)}
    (hm : OnlyLeaves Event.ReleasesNothing m) :
    OnlyLeaves Event.ReleasesNothing (World.onWriter m : Attempt Event (World σ ω φ) α).run := by
  intro world
  rw [World.run_onWriter]
  exact hm world.writer

theorem onlyLeaves_writePieces (writer : Writer ω) (pieces : List String) :
    OnlyLeaves Event.ReleasesNothing (writer.writePieces pieces) := by
  intro s event hevent deed hdeed
  have hwrite := writer.onlyWrites_writePieces pieces s event hevent
  cases event with
  | took bytes => exact absurd hdeed List.not_mem_nil
  | balked error => exact absurd hdeed List.not_mem_nil
  | _ => simp [Event.isWrite] at hwrite

theorem onlyLeaves_flushAll (writer : Writer ω) :
    OnlyLeaves Event.ReleasesNothing writer.flushAll := by
  intro s event hevent deed hdeed
  rw [Writer.flushAll_apply] at hevent
  rw [List.mem_singleton.mp hevent] at hdeed
  exact absurd hdeed List.not_mem_nil

theorem onlyLeaves_save (disk : Disk φ) (artifact : Artifact) (path : String) :
    OnlyLeaves Event.ReleasesNothing (disk.save artifact path).run := by
  intro files event hevent deed hdeed
  have hsave := saveTrail_save disk artifact path files
  generalize (disk.save artifact path).run files = ending at hevent hsave
  obtain ⟨value, trail, after⟩ := ending
  cases hsave with
  | failed cause =>
    rw [List.mem_singleton.mp hevent] at hdeed
    exact absurd hdeed List.not_mem_nil
  | saved =>
    rcases List.mem_cons.mp hevent with rfl | hlast
    · exact absurd hdeed List.not_mem_nil
    · rw [List.mem_singleton.mp hlast] at hdeed
      exact absurd hdeed List.not_mem_nil

theorem onlyLeaves_reported {tools : Tools σ ω φ} {work : Attempt Event σ α}
    (hwork : OnlyLeaves Event.ReleasesNothing work.run) (pieces : α → List String) :
    OnlyLeaves Event.ReleasesNothing (tools.reported work pieces).run := by
  unfold Tools.reported
  refine onlyLeaves_run_bind (onlyLeaves_onDriver hwork) fun unit ↦ ?_
  exact onlyLeaves_run_bind (onlyLeaves_onWriter (onlyLeaves_writePieces _ _)) fun _ ↦
    onlyLeaves_pure _

/-- A build releases no context if its driver does not. -/
theorem onlyLeaves_run {tools : Tools σ ω φ}
    (hdriver : ∀ call, OnlyLeaves Deed.ReleasesNothing (tools.driver.answer call))
    (sources : ShaderPair) (output : String) :
    OnlyLeaves Event.ReleasesNothing (tools.run sources output).run := by
  rw [Tools.run_eq]
  refine onlyLeaves_run_bind (onlyLeaves_reported (onlyLeaves_compile hdriver _ _) _)
    fun vertex ↦ ?_
  refine onlyLeaves_run_bind (onlyLeaves_reported (onlyLeaves_compile hdriver _ _) _)
    fun fragment ↦ ?_
  refine onlyLeaves_run_bind (onlyLeaves_reported (onlyLeaves_link hdriver _ _) _)
    fun program ↦ ?_
  unfold Tools.finish
  refine onlyLeaves_run_bind (onlyLeaves_onWriter (onlyLeaves_flushAll _)) fun _ ↦ ?_
  refine onlyLeaves_run_bind
    (onlyLeaves_onDriver (onlyLeaves_run_lift (onlyLeaves_extract hdriver program)))
    fun artifact ↦ ?_
  exact onlyLeaves_run_bind (onlyLeaves_onFiles (onlyLeaves_save _ _ _)) fun _ ↦ onlyLeaves_pure _

end ShaderBuild
