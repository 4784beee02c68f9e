import ShaderBuild.Command.Execute
import ShaderBuild.Proofs.ContextDeeds
import ShaderBuild.Proofs.RunOutcome
import ShaderBuild.Script

/-!
The phases of a command. A command reads its two sources, makes a context, builds, releases the
context and exits. A source that cannot be used ends it before anything is done with GL or EGL, a
context that cannot be made ends it before anything is written, and a context that was made is
released once, after the build and whatever came of it (`execute_phases`).
-/

set_option autoImplicit false
set_option relaxedAutoImplicit false

namespace ShaderBuild

variable {γ ω φ α : Type}

/-! ### Sources -/

/-- What there is at a path to compile: a text, or the reason why there is none. -/
inductive Disk.Gives (disk : Disk φ) (files : φ) (path : String) : Except Error String → Prop
  | unreadable (cause : IoError) (hread : disk.read path files = .error cause) :
    disk.Gives files path (.error (.unreadableSource path cause))
  | illEncoded (bytes : Bytes) (hread : disk.read path files = .ok bytes)
      (htext : Text.decode? bytes = none) :
    disk.Gives files path (.error (.illEncodedSource path))
  | text (bytes : Bytes) (text : String) (hread : disk.read path files = .ok bytes)
      (htext : Text.decode? bytes = some text) :
    disk.Gives files path (.ok text)

/-- The first of the two sources that cannot be used cannot be used because of this error. -/
inductive FirstUnusable (disk : Disk φ) (files : φ) (vertexFile fragmentFile : String) :
    Error → Prop
  | vertex (error : Error) (h : disk.Gives files vertexFile (.error error)) :
    FirstUnusable disk files vertexFile fragmentFile error
  | fragment (text : String) (error : Error) (hvertex : disk.Gives files vertexFile (.ok text))
      (h : disk.Gives files fragmentFile (.error error)) :
    FirstUnusable disk files vertexFile fragmentFile error

/-- Both sources have these texts. -/
structure BothUsable (disk : Disk φ) (files : φ) (vertexFile fragmentFile : String)
    (sources : ShaderPair) : Prop where
  vertex : disk.Gives files vertexFile (.ok sources.vertex)
  fragment : disk.Gives files fragmentFile (.ok sources.fragment)

/-! ### The driver of a context -/

theorem Gles.onlyRefuses (gl : Gl.Implementation γ) (context : Context) :
    (Gles.driver gl context).OnlyRefuses := by
  constructor
  · intro stage s error herror
    simp only [driver, answer, createShader, Activity.bind_apply] at herror
    split_ifs at herror
    cases herror
    exact ⟨_, rfl⟩
  · intro s error herror
    simp only [driver, answer, createProgram, Activity.bind_apply] at herror
    split_ifs at herror
    cases herror
    exact ⟨_, rfl⟩

/-! ### Quiet trails -/

/-- Whether the event is a record or the reading of a file. -/
def Event.isQuiet : Event → Bool
  | .logged _ => true
  | .loaded _ _ => true
  | _ => false

/-- Nothing is done but to read files and to log. -/
def Quiet (trail : List Event) : Prop := ∀ event ∈ trail, event.isQuiet = true

/-- Everything done with GL and EGL in a trail, in order. -/
def deedsOf (trail : List Event) : List Deed := trail.flatMap Event.deeds

/-- The contexts that were released in a trail, in order. -/
def releases (trail : List Event) : List Nat := (deedsOf trail).filterMap Deed.release?

theorem Quiet.cons {event : Event} {rest : List Event} (hevent : event.isQuiet = true)
    (hrest : Quiet rest) : Quiet (event :: rest) := List.forall_mem_cons.mpr ⟨hevent, hrest⟩

theorem Quiet.append {first rest : List Event} (hfirst : Quiet first) (hrest : Quiet rest) :
    Quiet (first ++ rest) := List.forall_mem_append.mpr ⟨hfirst, hrest⟩

theorem quiet_nil : Quiet [] := fun _ hevent ↦ absurd hevent List.not_mem_nil

@[simp]
theorem deedsOf_append (first rest : List Event) :
    deedsOf (first ++ rest) = deedsOf first ++ deedsOf rest := List.flatMap_append

@[simp]
theorem deedsOf_map_did (trail : List Deed) : deedsOf (trail.map .did) = trail := by
  induction trail with
  | nil => rfl
  | cons deed rest ih => exact congrArg (deed :: ·) ih

@[simp]
theorem written_map_did (trail : List Deed) : written (trail.map .did) = [] := by
  induction trail with
  | nil => rfl
  | cons deed rest ih => exact ih

@[simp]
theorem saves_map_did (trail : List Deed) : saves (trail.map .did) = [] := by
  induction trail with
  | nil => rfl
  | cons deed rest ih => exact ih

namespace Quiet

variable {trail : List Event}

theorem deedsOf_eq_nil (h : Quiet trail) : deedsOf trail = [] := by
  refine List.flatMap_eq_nil_iff.mpr fun event hevent ↦ ?_
  have hquiet := h event hevent
  cases event <;> first | rfl | simp [Event.isQuiet] at hquiet

theorem exchanges_eq_nil (h : Quiet trail) : exchanges trail = [] := by
  refine List.filterMap_eq_nil_iff.mpr fun event hevent ↦ ?_
  have hquiet := h event hevent
  cases event <;> first | rfl | simp [Event.isQuiet] at hquiet

theorem written_eq_nil (h : Quiet trail) : written trail = [] := by
  refine List.flatMap_eq_nil_iff.mpr fun event hevent ↦ ?_
  have hquiet := h event hevent
  cases event <;> first | rfl | simp [Event.isQuiet] at hquiet

theorem saves_eq_nil (h : Quiet trail) : saves trail = [] := by
  refine List.filterMap_eq_nil_iff.mpr fun event hevent ↦ ?_
  have hquiet := h event hevent
  cases event <;> first | rfl | simp [Event.isQuiet] at hquiet

end Quiet

/-! ### Reading the sources -/

namespace Disk

variable {disk : Disk φ} {files : φ} {path : String}

theorem gives_iff {result : Except Error String} :
    disk.Gives files path result ↔ ((disk.loadSource path).run files).value = result := by
  constructor
  · intro h
    cases h with
    | unreadable cause hread => simp [loadSource, ExceptT.run, hread]
    | illEncoded bytes hread htext => simp [loadSource, ExceptT.run, hread, htext]
    | text bytes text hread htext => simp [loadSource, ExceptT.run, hread, htext]
  · rintro rfl
    cases hread : disk.read path files with
    | error cause => simpa [loadSource, ExceptT.run, hread] using Gives.unreadable cause hread
    | ok bytes =>
      cases htext : Text.decode? bytes with
      | none =>
        simpa [loadSource, ExceptT.run, hread, htext] using Gives.illEncoded bytes hread htext
      | some text =>
        simpa [loadSource, ExceptT.run, hread, htext] using Gives.text bytes text hread htext

theorem quiet_loadSource (disk : Disk φ) (path : String) (files : φ) :
    Quiet ((disk.loadSource path).run files).trail ∧
      ((disk.loadSource path).run files).state = files := by
  have hloaded : ∀ result, Quiet [.loaded path result] := fun _ ↦ .cons rfl quiet_nil
  have hrecorded : ∀ result size,
      Quiet [.loaded path result, .logged (.sourceLoaded path size)] := fun _ _ ↦
    .cons rfl (.cons rfl quiet_nil)
  cases hread : disk.read path files with
  | error cause => simpa [loadSource, ExceptT.run, hread] using hloaded _
  | ok bytes =>
    cases htext : Text.decode? bytes with
    | none => simpa [loadSource, ExceptT.run, hread, htext] using hloaded _
    | some text => simpa [loadSource, ExceptT.run, hread, htext] using hrecorded _ _

end Disk

section Read

variable {disk : Disk φ} {files : φ} {vertexFile fragmentFile : String}

theorem quiet_read (disk : Disk φ) (vertexFile fragmentFile : String) (files : φ) :
    Quiet ((ShaderPair.read disk vertexFile fragmentFile).run files).trail ∧
      ((ShaderPair.read disk vertexFile fragmentFile).run files).state = files := by
  obtain ⟨hvertex, hafter⟩ := disk.quiet_loadSource vertexFile files
  obtain ⟨hfragment, hlast⟩ := disk.quiet_loadSource fragmentFile files
  unfold ShaderPair.read
  cases hvalue : ((disk.loadSource vertexFile).run files).value with
  | error error =>
    rw [Attempt.run_bind_of_error _ hvalue]
    exact ⟨hvertex, hafter⟩
  | ok vertex =>
    rw [Attempt.run_bind_of_ok _ hvalue, hafter]
    cases hnext : ((disk.loadSource fragmentFile).run files).value with
    | error error =>
      rw [Attempt.run_bind_of_error _ hnext]
      exact ⟨hvertex.append hfragment, hlast⟩
    | ok fragment =>
      rw [Attempt.run_bind_of_ok _ hnext]
      exact ⟨hvertex.append (hfragment.append quiet_nil), hlast⟩

theorem FirstUnusable.value_read {error : Error}
    (h : FirstUnusable disk files vertexFile fragmentFile error) :
    ((ShaderPair.read disk vertexFile fragmentFile).run files).value = .error error := by
  unfold ShaderPair.read
  cases h with
  | vertex _ h => rw [Attempt.run_bind_of_error _ (Disk.gives_iff.mp h)]
  | fragment text _ hvertex h =>
    rw [Attempt.run_bind_of_ok _ (Disk.gives_iff.mp hvertex), (disk.quiet_loadSource _ _).2,
      Attempt.run_bind_of_error _ (Disk.gives_iff.mp h)]

theorem BothUsable.value_read {sources : ShaderPair}
    (h : BothUsable disk files vertexFile fragmentFile sources) :
    ((ShaderPair.read disk vertexFile fragmentFile).run files).value = .ok sources := by
  unfold ShaderPair.read
  rw [Attempt.run_bind_of_ok _ (Disk.gives_iff.mp h.vertex), (disk.quiet_loadSource _ _).2,
    Attempt.run_bind_of_ok _ (Disk.gives_iff.mp h.fragment)]
  rfl

theorem firstUnusable_or_bothUsable (disk : Disk φ) (files : φ) (vertexFile fragmentFile : String) :
    (∃ error, FirstUnusable disk files vertexFile fragmentFile error) ∨
      ∃ sources, BothUsable disk files vertexFile fragmentFile sources := by
  cases hvertex : ((disk.loadSource vertexFile).run files).value with
  | error error => exact .inl ⟨error, .vertex error (Disk.gives_iff.mpr hvertex)⟩
  | ok vertex =>
    cases hfragment : ((disk.loadSource fragmentFile).run files).value with
    | error error =>
      exact .inl ⟨error,
        .fragment vertex error (Disk.gives_iff.mpr hvertex) (Disk.gives_iff.mpr hfragment)⟩
    | ok fragment =>
      exact .inr ⟨⟨vertex, fragment⟩, Disk.gives_iff.mpr hvertex, Disk.gives_iff.mpr hfragment⟩

end Read

/-! ### Phases -/

namespace Command

variable {setting : Setting γ ω φ} {options : Options} {world : World γ ω φ}

/-- What comes of making the context that the options ask for. -/
def Setting.creation (setting : Setting γ ω φ) (options : Options) (s : γ) :
    Ending Deed γ (Except Error Context) :=
  (Context.create setting.machine ⟨options.device, options.glesVersion⟩).run s

/-- What comes of the build in a context, on sources read before. -/
def Setting.built (setting : Setting γ ω φ) (options : Options) (sources : ShaderPair)
    (context : Context) (world : World γ ω φ) :
    Ending Event (World γ ω φ) (Except Error Summary) :=
  ((setting.tools context).run sources options.outputFile).run world

/-- What comes of the release of a context. -/
def Setting.released (setting : Setting γ ω φ) (context : Context) (s : γ) :
    Ending Deed γ (Except Error Unit) :=
  (Context.release setting.machine context).run s

theorem run_onMachine (m : Attempt Deed γ α) (world : World γ ω φ) :
    (World.onMachine m).run world =
      ⟨(m.run world.driver).value, (m.run world.driver).trail.map .did,
        { world with driver := (m.run world.driver).state }⟩ := rfl

theorem run_build_of_firstUnusable {error : Error}
    (h : FirstUnusable setting.disk world.files options.vertexFile options.fragmentFile error) :
    ∃ reading, Quiet reading ∧
      (setting.build options).run world = ⟨.error error, reading, world⟩ := by
  obtain ⟨hquiet, hfiles⟩ :=
    quiet_read setting.disk options.vertexFile options.fragmentFile world.files
  have hread : ((World.onFiles (ShaderPair.read setting.disk options.vertexFile
      options.fragmentFile) : Attempt Event (World γ ω φ) ShaderPair).run world).value =
      .error error := h.value_read
  refine ⟨_, hquiet, ?_⟩
  rw [Setting.build, Attempt.run_bind_of_error _ hread, World.run_onFiles, hfiles]

theorem run_build_of_uncreated {sources : ShaderPair} {error : Error}
    (h : BothUsable setting.disk world.files options.vertexFile options.fragmentFile sources)
    (hcreation : (setting.creation options world.driver).value = .error error) :
    ∃ reading, Quiet reading ∧
      (setting.build options).run world =
        ⟨.error error, reading ++ (setting.creation options world.driver).trail.map .did,
          { world with driver := (setting.creation options world.driver).state }⟩ := by
  obtain ⟨hquiet, hfiles⟩ :=
    quiet_read setting.disk options.vertexFile options.fragmentFile world.files
  have hread : ((World.onFiles (ShaderPair.read setting.disk options.vertexFile
      options.fragmentFile) : Attempt Event (World γ ω φ) ShaderPair).run world).value =
      .ok sources := h.value_read
  have hcontext : ((World.onMachine (Context.create setting.machine
      ⟨options.device, options.glesVersion⟩) : Attempt Event (World γ ω φ) Context).run
        world).value = .error error := hcreation
  refine ⟨_, hquiet, ?_⟩
  rw [Setting.build, Attempt.run_bind_of_ok _ hread, World.run_onFiles, hfiles,
    Attempt.run_bind_of_error _ hcontext]
  rfl

/-- What a build and the release after it come to. The error of the build outranks the other. -/
def settled : Except Error Summary → Except Error Unit → Except Error Summary
  | .error error, _ => .error error
  | .ok _, .error error => .error error
  | .ok summary, .ok () => .ok summary

/-- What a command does from the end of the build and of the release on. -/
def Setting.close (summary : Except Error Summary) (teardown : Except Error Unit) :
    Attempt Event (World γ ω φ) Summary := do
  let summary ← conclude summary teardown
  ExceptT.lift (Event.log (.finished summary.vertexCompiled summary.fragmentCompiled
    summary.linked summary.binarySize))
  return summary

theorem run_close (summary : Except Error Summary) (teardown : Except Error Unit)
    (world : World γ ω φ) :
    ∃ records, Quiet records ∧
      (Setting.close summary teardown).run world = ⟨settled summary teardown, records, world⟩ := by
  cases summary with
  | error error =>
    cases teardown with
    | error later => exact ⟨_, .cons rfl quiet_nil, rfl⟩
    | ok => exact ⟨_, quiet_nil, rfl⟩
  | ok summary =>
    cases teardown with
    | error later => exact ⟨_, quiet_nil, rfl⟩
    | ok => exact ⟨_, .cons rfl quiet_nil, rfl⟩

/-- What a command does in a context. -/
def Setting.inContext (setting : Setting γ ω φ) (options : Options) (sources : ShaderPair)
    (context : Context) : Attempt Event (World γ ω φ) Summary := do
  let summary ← ExceptT.lift ((setting.tools context).run sources options.outputFile).run
  let teardown ← ExceptT.lift (World.onMachine (Context.release setting.machine context)).run
  Setting.close summary teardown

theorem Setting.build_eq (setting : Setting γ ω φ) (options : Options) :
    setting.build options = (do
      let sources ←
        World.onFiles (ShaderPair.read setting.disk options.vertexFile options.fragmentFile)
      let context ← World.onMachine (Context.create setting.machine
        ⟨options.device, options.glesVersion⟩)
      setting.inContext options sources context) := rfl

theorem run_inContext (sources : ShaderPair) (context : Context) (world : World γ ω φ) :
    let built := setting.built options sources context world
    let released := setting.released context built.state.driver
    ∃ records, Quiet records ∧
      (setting.inContext options sources context).run world =
        ⟨settled built.value released.value,
          built.trail ++ released.trail.map .did ++ records,
          { built.state with driver := released.state }⟩ := by
  intro built released
  let after : World γ ω φ := { built.state with driver := released.state }
  obtain ⟨records, hrecords, hclose⟩ := run_close built.value released.value after
  refine ⟨records, hrecords, ?_⟩
  calc (setting.inContext options sources context).run world
      = ⟨((Setting.close built.value released.value).run after).value,
          built.trail ++ (released.trail.map .did ++
            ((Setting.close built.value released.value).run after).trail),
          ((Setting.close built.value released.value).run after).state⟩ := by
        simp only [Setting.inContext, ExceptT.run_bind_lift]
        rfl
    _ = _ := by rw [hclose, List.append_assoc]

theorem run_build_of_created {sources : ShaderPair} {context : Context}
    (h : BothUsable setting.disk world.files options.vertexFile options.fragmentFile sources)
    (hcreation : (setting.creation options world.driver).value = .ok context) :
    let created := setting.creation options world.driver
    let built := setting.built options sources context { world with driver := created.state }
    let released := setting.released context built.state.driver
    ∃ reading records, Quiet reading ∧ Quiet records ∧
      (setting.build options).run world =
        ⟨settled built.value released.value,
          reading ++ created.trail.map .did ++
            (built.trail ++ released.trail.map .did ++ records),
          { built.state with driver := released.state }⟩ := by
  intro created built released
  obtain ⟨hquiet, hfiles⟩ :=
    quiet_read setting.disk options.vertexFile options.fragmentFile world.files
  have hread : ((World.onFiles (ShaderPair.read setting.disk options.vertexFile
      options.fragmentFile) : Attempt Event (World γ ω φ) ShaderPair).run world).value =
      .ok sources := h.value_read
  have hcontext : ((World.onMachine (Context.create setting.machine
      ⟨options.device, options.glesVersion⟩) : Attempt Event (World γ ω φ) Context).run
        world).value = .ok context := hcreation
  obtain ⟨records, hrecords, hrun⟩ := @run_inContext γ ω φ setting options sources context
    { world with driver := created.state }
  refine ⟨_, records, hquiet, hrecords, ?_⟩
  rw [Setting.build_eq, Attempt.run_bind_of_ok _ hread, World.run_onFiles, hfiles,
    Attempt.run_bind_of_ok _ hcontext, run_onMachine]
  calc _ = (⟨((setting.inContext options sources context).run
            { world with driver := created.state }).value,
          _ ++ (created.trail.map .did ++ ((setting.inContext options sources context).run
            { world with driver := created.state }).trail),
          ((setting.inContext options sources context).run
            { world with driver := created.state }).state⟩ : Ending _ _ _) := rfl
    _ = _ := by simp only [hrun, List.append_assoc, built, released]

/-! ### Releases -/

theorem releases_append (first rest : List Event) :
    releases (first ++ rest) = releases first ++ releases rest := by
  unfold releases
  rw [deedsOf_append, List.filterMap_append]

theorem releases_eq_nil {trail : List Event} (h : ∀ event ∈ trail, event.ReleasesNothing) :
    releases trail = [] := by
  refine List.filterMap_eq_nil_iff.mpr fun deed hdeed ↦ ?_
  obtain ⟨event, hevent, hwithin⟩ := List.mem_flatMap.mp hdeed
  exact h event hevent deed hwithin

theorem releases_creation (setting : Setting γ ω φ) (options : Options) (s : γ) :
    releases ((setting.creation options s).trail.map .did) = [] := by
  unfold releases
  rw [deedsOf_map_did]
  exact List.filterMap_eq_nil_iff.mpr (Context.onlyLeaves_create setting.machine _ s)

theorem releases_built (setting : Setting γ ω φ) (options : Options) (sources : ShaderPair)
    (context : Context) (world : World γ ω φ) :
    releases (setting.built options sources context world).trail = [] :=
  releases_eq_nil
    (onlyLeaves_run (Gles.onlyLeaves_answer setting.machine.gl context) sources
      options.outputFile world)

/-- To release a context is one request, whether it succeeds or not. -/
theorem releases_released (setting : Setting γ ω φ) (context : Context) (s : γ) :
    releases ((setting.released context s).trail.map .did) = [context.handle] := by
  unfold releases
  rw [deedsOf_map_did, Setting.released, Context.release, trail_requestOrFail]
  rfl

/-! ### A command -/

/-- An argument that is taken for a file where one is due. -/
def IsFileArgument (argument : String) : Prop := argument ≠ "" ∧ shape argument = .plain

theorem parse_files {vertexFile fragmentFile outputFile : String}
    (hvertex : IsFileArgument vertexFile) (hfragment : IsFileArgument fragmentFile)
    (houtput : IsFileArgument outputFile) :
    parse [vertexFile, fragmentFile, outputFile] =
      .ok ⟨vertexFile, fragmentFile, outputFile, 0, 3⟩ := by
  obtain ⟨hvertex, hvertexShape⟩ := hvertex
  obtain ⟨hfragment, hfragmentShape⟩ := hfragment
  obtain ⟨houtput, houtputShape⟩ := houtput
  let met : Reading :=
    { values := { files := [(.vertexFile, vertexFile), (.fragmentFile, fragmentFile)] }
      pending := some (.outputFile, some outputFile)
      filesMet := 3 }
  have hmet : [vertexFile, fragmentFile, outputFile].foldlM Reading.step {} = .ok met := by
    simp [met, Reading.step, hvertexShape, hfragmentShape, houtputShape, Reading.readPlain,
      Reading.readFile, Argument.files, Reading.await, Reading.conclude, Except.map, Except.bind,
      bind, pure, Except.pure, Values.accept, Values.acceptFile, hvertex, hfragment]
  have haccepted : met.values.accept .outputFile (some outputFile) =
      .ok { met.values with files := met.values.files ++ [(.outputFile, outputFile)] } := by
    simp [Values.accept, Values.acceptFile, houtput]
  have hlast : met.conclude = .ok { met with
      values := { met.values with files := met.values.files ++ [(.outputFile, outputFile)] }
      pending := none } := by
    unfold Reading.conclude
    simp only [haccepted, met]
  calc parse [vertexFile, fragmentFile, outputFile]
      = met.conclude.bind fun reading ↦ reading.values.options.mapError Stop.usage := by
        unfold parse
        rw [hmet]
        rfl
    _ = .ok ⟨vertexFile, fragmentFile, outputFile, 0, 3⟩ := by
        rw [hlast]
        rfl

/-- How a command exits after a build that came to this. -/
def Exit.ofResult : Except Error Summary → Exit
  | .ok _ => .success
  | .error error => .ofError error

theorem execute_of_parse {arguments : List String} (hparse : parse arguments = .ok options)
    (world : World γ ω φ) :
    setting.execute arguments world =
      let ending := (setting.build options).run world
      ⟨Exit.ofResult ending.value, ending.trail, ending.state⟩ := by
  have hexecute : setting.execute arguments = Exit.ofResult <$> (setting.build options).run := by
    unfold Setting.execute
    rw [hparse, map_eq_pure_bind]
    refine bind_congr fun result ↦ ?_
    cases result <;> rfl
  rw [hexecute, Activity.map_apply]

/-- A context was made for the sources, and the command was carried out in it to its end. -/
structure CarriedOut (setting : Setting γ ω φ) (options : Options) (world : World γ ω φ)
    (sources : ShaderPair) (context : Context)
    (created : Ending Deed γ (Except Error Context))
    (built : Ending Event (World γ ω φ) (Except Error Summary))
    (released : Ending Deed γ (Except Error Unit)) (ending : Ending Event (World γ ω φ) Exit) :
    Prop where
  /-- Files are read first. The context is there before the build and released after it. -/
  order : ∃ reading records, Quiet reading ∧ Quiet records ∧
    ending.trail = reading ++ created.trail.map .did ++
      (built.trail ++ released.trail.map .did ++ records)
  releases_eq : releases ending.trail = [context.handle]
  state_eq : ending.state = { built.state with driver := released.state }
  of_build_error : ∀ error, built.value = .error error → ending.value = .ofError error
  of_release_error : ∀ summary error, built.value = .ok summary →
    released.value = .error error → ending.value = .ofError error
  of_success : ∀ summary, built.value = .ok summary → released.value = .ok () →
    ending.value = .success
  /-- A build without an error has written its whole report and its whole file. -/
  delivered : ∀ summary, built.value = .ok summary → ∃ program replies,
    SavedRun setting.disk options.outputFile world.files 3
        ((Gles.driver setting.machine.gl context).stages sources created.state) program replies
        (.ok ()) built ∧
      written ending.trail =
        reportOf ((Gles.driver setting.machine.gl context).stages sources created.state) ∧
      (setting.disk.ReplacesAt options.outputFile world.files →
        setting.disk.read options.outputFile ending.state.files = .ok replies.payload)

theorem carriedOut_of_created {arguments : List String} (hparse : parse arguments = .ok options)
    {sources : ShaderPair} {context : Context}
    (h : BothUsable setting.disk world.files options.vertexFile options.fragmentFile sources)
    (hcreation : (setting.creation options world.driver).value = .ok context) :
    let created := setting.creation options world.driver
    let built := setting.built options sources context { world with driver := created.state }
    let released := setting.released context built.state.driver
    CarriedOut setting options world sources context created built released
      (setting.execute arguments world) := by
  intro created built released
  obtain ⟨reading, records, hreading, hrecords, hbuild⟩ := run_build_of_created h hcreation
  have hending : setting.execute arguments world =
      ⟨Exit.ofResult (settled built.value released.value),
        reading ++ created.trail.map .did ++ (built.trail ++ released.trail.map .did ++ records),
        { built.state with driver := released.state }⟩ := by
    rw [execute_of_parse hparse, hbuild]
  rw [hending]
  constructor
  · exact ⟨reading, records, hreading, hrecords, rfl⟩
  · have hquiet : ∀ {trail : List Event}, Quiet trail → releases trail = [] := fun h ↦ by
      unfold releases
      rw [h.deedsOf_eq_nil, List.filterMap_nil]
    simp only [releases_append, hquiet hreading, hquiet hrecords, created, built, released,
      releases_creation, releases_built, releases_released, List.nil_append, List.append_nil]
  · rfl
  · intro error herror
    simp only [herror, settled, Exit.ofResult]
  · intro summary error hsummary herror
    simp only [hsummary, herror, settled, Exit.ofResult]
  · intro summary hsummary hreleased
    simp only [hsummary, hreleased, settled, Exit.ofResult]
  · intro summary hsummary
    have hrefuses : (setting.tools context).driver.OnlyRefuses :=
      Gles.onlyRefuses setting.machine.gl context
    obtain ⟨program, replies, hsaved, -, -⟩ := (leaves_run hrefuses sources options.outputFile
      { world with driver := created.state }).saved_of_ok hsummary
    refine ⟨program, replies, hsaved, ?_, fun hreplaces ↦ hreplaces _ _ hsaved.write_eq⟩
    have hwritten : written built.trail = _ := hsaved.written_eq
    simp only [written_append, written_map_did, hreading.written_eq_nil, hrecords.written_eq_nil,
      hwritten, List.nil_append, List.append_nil]
    rfl

/-- Only a command with no phase that failed exits with success. -/
theorem exists_summary_of_status {arguments : List String} (hparse : parse arguments = .ok options)
    (hstatus : (setting.execute arguments world).value.status = 0) :
    let created := setting.creation options world.driver
    ∃ sources context summary,
      BothUsable setting.disk world.files options.vertexFile options.fragmentFile sources ∧
        created.value = .ok context ∧
        (setting.built options sources context
          { world with driver := created.state }).value = .ok summary ∧
        (setting.released context (setting.built options sources context
          { world with driver := created.state }).state.driver).value = .ok () := by
  intro created
  rcases firstUnusable_or_bothUsable setting.disk world.files options.vertexFile
    options.fragmentFile with ⟨error, h⟩ | ⟨sources, h⟩
  · obtain ⟨reading, -, hbuild⟩ := run_build_of_firstUnusable h
    rw [execute_of_parse hparse, hbuild] at hstatus
    exact absurd hstatus nofun
  cases hcreated : created.value with
  | error error =>
    obtain ⟨reading, -, hbuild⟩ := run_build_of_uncreated h hcreated
    rw [execute_of_parse hparse, hbuild] at hstatus
    exact absurd hstatus nofun
  | ok context =>
    have hcarried := carriedOut_of_created hparse h hcreated
    cases hbuilt : (setting.built options sources context
        { world with driver := created.state }).value with
    | error error =>
      rw [hcarried.of_build_error error hbuilt] at hstatus
      exact absurd hstatus nofun
    | ok summary =>
      cases hreleased : (setting.released context (setting.built options sources context
          { world with driver := created.state }).state.driver).value with
      | error error =>
        rw [hcarried.of_release_error summary error hbuilt hreleased] at hstatus
        exact absurd hstatus nofun
      | ok => exact ⟨sources, context, summary, h, rfl, hbuilt, hreleased⟩

/-- A command whose arguments are understood reads, makes a context, builds and releases, in this
order. The first phase that fails says how it exits, an error of the build being said rather than
one of the release, and it exits with success if and only if no phase failed. -/
theorem execute_phases {setting : Setting γ ω φ} {arguments : List String} {options : Options}
    (hparse : parse arguments = .ok options) (world : World γ ω φ) :
    let ending := setting.execute arguments world
    let created := setting.creation options world.driver
    let built := fun sources context ↦
      setting.built options sources context { world with driver := created.state }
    let released := fun sources context ↦
      setting.released context (built sources context).state.driver
    (∀ error,
      FirstUnusable setting.disk world.files options.vertexFile options.fragmentFile error →
        ending.value = .ofError error ∧ deedsOf ending.trail = [] ∧ written ending.trail = [] ∧
          saves ending.trail = [] ∧ ending.state = world) ∧
    (∀ sources error,
      BothUsable setting.disk world.files options.vertexFile options.fragmentFile sources →
      created.value = .error error →
        ending.value = .ofError error ∧ deedsOf ending.trail = created.trail ∧
          written ending.trail = [] ∧ saves ending.trail = [] ∧
          ending.state = { world with driver := created.state }) ∧
    (∀ sources context,
      BothUsable setting.disk world.files options.vertexFile options.fragmentFile sources →
      created.value = .ok context →
        CarriedOut setting options world sources context created (built sources context)
          (released sources context) ending) ∧
    (ending.value.status = 0 ↔ ∃ sources context summary,
      BothUsable setting.disk world.files options.vertexFile options.fragmentFile sources ∧
        created.value = .ok context ∧ (built sources context).value = .ok summary ∧
        (released sources context).value = .ok ()) := by
  intro ending created built released
  have hending : ending = _ := execute_of_parse hparse world
  refine ⟨fun error h ↦ ?_, fun sources error h hcreated ↦ ?_,
    fun sources context h hcreated ↦ carriedOut_of_created hparse h hcreated, ?_, ?_⟩
  · obtain ⟨reading, hreading, hbuild⟩ := run_build_of_firstUnusable h
    rw [hending, hbuild]
    exact ⟨rfl, hreading.deedsOf_eq_nil, hreading.written_eq_nil, hreading.saves_eq_nil, rfl⟩
  · obtain ⟨reading, hreading, hbuild⟩ := run_build_of_uncreated h hcreated
    rw [hending, hbuild]
    refine ⟨rfl, ?_, ?_, ?_, rfl⟩
    · simp [hreading.deedsOf_eq_nil, created]
    · simp [hreading.written_eq_nil]
    · simp [hreading.saves_eq_nil]
  · exact exists_summary_of_status hparse
  · rintro ⟨sources, context, summary, h, hcreated, hbuilt, hreleased⟩
    have hcarried := carriedOut_of_created hparse h hcreated
    rw [hcarried.of_success summary hbuilt hreleased]
    rfl

theorem execute_phases_overwriting :
    let setting : Setting Script Sink.Content FileTree :=
      ⟨Script.machine, ({} : Sink).writer, FileTree.disk⟩
    let arguments := ["pair.vert", "pair.frag", "pair.frag"]
    let options : Options := ⟨"pair.vert", "pair.frag", "pair.frag", 0, 3⟩
    let files := (FileTree.empty.put ["work", "pair.vert"] (.file [0x20])).put
      ["work", "pair.frag"] (.file [0x20, 0x20])
    let machine : Script :=
      { gl := { programs := [{ binary := { format := 0x8AF0, payload := [0xDE, 0xAD] } }] } }
    let context : Context := ⟨3, ⟨some .core⟩⟩
    let start : World Script Sink.Content FileTree := ⟨machine, {}, files⟩
    let created := setting.creation options start.driver
    parse arguments = .ok options ∧
      (setting.execute arguments ⟨machine, {}, FileTree.empty⟩).value =
        .ofError (.unreadableSource "pair.vert" (.system .noEntry)) ∧
      saves (setting.execute arguments ⟨{ egl := .absent }, {}, files⟩).trail = [] ∧
      created.value = .ok context ∧
      (∃ built released, CarriedOut setting options start ⟨" ", "  "⟩ context created built released
        (setting.execute arguments start)) ∧
      (setting.execute arguments start).value.status = 0 := by
  intro setting arguments options files machine context start created
  have hplain : IsFileArgument "pair.vert" ∧ IsFileArgument "pair.frag" := by
    unfold IsFileArgument
    decide +kernel
  have hparse : parse arguments = .ok options := parse_files hplain.1 hplain.2 hplain.2
  have hmissing : FirstUnusable setting.disk FileTree.empty "pair.vert" "pair.frag"
      (.unreadableSource "pair.vert" (.system .noEntry)) := by
    refine .vertex _ (.unreadable _ ?_)
    decide +kernel
  have husable : BothUsable setting.disk files "pair.vert" "pair.frag" ⟨" ", "  "⟩ := by
    refine ⟨.text [0x20] " " ?_ ?_, .text [0x20, 0x20] "  " ?_ ?_⟩ <;> decide +kernel
  have habsent : (setting.creation options { egl := .absent }).value =
      .error (.context .display (some (.egl .libraryNotFound))) := by decide +kernel
  have hcreated : created.value = .ok context := by decide +kernel
  have hbuilt : (setting.built options ⟨" ", "  "⟩ context
      { start with driver := (setting.creation options start.driver).state }).value =
        .ok ⟨true, true, true, 0x8AF0, 2⟩ := by decide +kernel
  have hreleased : (setting.released context (setting.built options ⟨" ", "  "⟩ context
      { start with driver := (setting.creation options start.driver).state }).state.driver).value =
        .ok () := by decide +kernel
  have hphases := @execute_phases _ _ _ setting arguments options hparse
  have hunusable := (hphases ⟨machine, {}, FileTree.empty⟩).1 _ hmissing
  have huncreated := (hphases ⟨{ egl := .absent }, {}, files⟩).2.1 _ _ husable habsent
  have hcarried := (hphases start).2.2.1 ⟨" ", "  "⟩ context husable hcreated
  have hstatus := (hphases start).2.2.2.mpr
    ⟨⟨" ", "  "⟩, context, _, husable, hcreated, hbuilt, hreleased⟩
  exact ⟨hparse, hunusable.1, huncreated.2.2.2.1, hcreated, ⟨_, _, hcarried⟩, hstatus⟩

end Command

end ShaderBuild
