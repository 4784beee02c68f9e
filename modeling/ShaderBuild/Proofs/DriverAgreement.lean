import Mathlib.Data.List.Forall2
import ShaderBuild.Proofs.DescribedBuild
import ShaderBuild.Proofs.ReportCut
import ShaderBuild.Workbench

/-!
Builds with two drivers that describe the same pair. Whatever is done on a workbench, in whatever
order, both come to the same units but for the numbers of their objects, and leave the writer and
the files alike (`performEach_agree`).
-/

set_option autoImplicit false
set_option relaxedAutoImplicit false

namespace ShaderBuild

variable {σ τ ω φ α α' β β' : Type}

/-! ### Two drivers side by side -/

section Agreement

variable {driver : Driver σ} {driver' : Driver τ} {canned : Canned}
  (d : driver.Description canned) (d' : driver'.Description canned)

/-- Worlds whose drivers describe the same, with the same writer and the same files. -/
structure Alongside (world : World σ ω φ) (world' : World τ ω φ) : Prop where
  steady : d.steady world.driver
  steady' : d'.steady world'.driver
  writer_eq : world'.writer = world.writer
  files_eq : world'.files = world.files

/-- The same error, or values that `same` relates in the states of the drivers. -/
inductive SameResult (same : α → α' → Prop) : Except Error α → Except Error α' → Prop
  | ok {a : α} {a' : α'} (h : same a a') : SameResult same (.ok a) (.ok a')
  | error (error : Error) : SameResult same (.error error) (.error error)

/-- From these worlds the attempts come to results that `same` relates, and to worlds that are again
alongside, with all objects as they were. -/
structure AgreeFrom (same : σ → τ → α → α' → Prop) (m : Attempt Event (World σ ω φ) α)
    (m' : Attempt Event (World τ ω φ) α') (world : World σ ω φ) (world' : World τ ω φ) :
    Prop where
  alongside : Alongside d d' (m.run world).state (m'.run world').state
  later : d.Later world.driver (m.run world).state.driver
  later' : d'.Later world'.driver (m'.run world').state.driver
  result : SameResult (same (m.run world).state.driver (m'.run world').state.driver)
    (m.run world).value (m'.run world').value

variable {d d'} {world : World σ ω φ} {world' : World τ ω φ}

theorem agreeFrom_pure {same : σ → τ → α → α' → Prop} {a : α} {a' : α'}
    (hworlds : Alongside d d' world world') (h : same world.driver world'.driver a a') :
    AgreeFrom d d' same (pure a) (pure a') world world' where
  alongside := hworlds
  later := .refl hworlds.steady
  later' := .refl hworlds.steady'
  result := .ok h

theorem agreeFrom_bind {same : σ → τ → α → α' → Prop} {same' : σ → τ → β → β' → Prop}
    {m : Attempt Event (World σ ω φ) α} {m' : Attempt Event (World τ ω φ) α'}
    {next : α → Attempt Event (World σ ω φ) β} {next' : α' → Attempt Event (World τ ω φ) β'}
    (hm : AgreeFrom d d' same m m' world world')
    (hnext : ∀ a a' after after', Alongside d d' after after' →
      d.Later world.driver after.driver → d'.Later world'.driver after'.driver →
      same after.driver after'.driver a a' →
      AgreeFrom d d' same' (next a) (next' a') after after') :
    AgreeFrom d d' same' (m >>= next) (m' >>= next') world world' := by
  obtain ⟨halongside, hlater, hlater', hresult⟩ := hm
  generalize hvalue : (m.run world).value = value at hresult
  generalize hvalue' : (m'.run world').value = value' at hresult
  cases hresult with
  | ok h =>
    obtain ⟨hafter, hnextLater, hnextLater', hnextResult⟩ :=
      hnext _ _ _ _ halongside hlater hlater' h
    have hrun := Attempt.run_bind_of_ok next hvalue
    have hrun' := Attempt.run_bind_of_ok next' hvalue'
    refine ⟨?_, ?_, ?_, ?_⟩
    · rw [hrun, hrun']
      exact hafter
    · rw [hrun]
      exact hlater.trans hnextLater
    · rw [hrun']
      exact hlater'.trans hnextLater'
    · rw [hrun, hrun']
      exact hnextResult
  | error error =>
    have hrun := Attempt.run_bind_of_error next hvalue
    have hrun' := Attempt.run_bind_of_error next' hvalue'
    refine ⟨?_, ?_, ?_, ?_⟩
    · rw [hrun, hrun']
      exact halongside
    · rw [hrun]
      exact hlater
    · rw [hrun']
      exact hlater'
    · rw [hrun, hrun']
      exact .error error

theorem agreeFrom_onDriver {same : σ → τ → α → α' → Prop} {m : Attempt Event σ α}
    {m' : Attempt Event τ α'} {a : α} {a' : α'} (hworlds : Alongside d d' world world')
    (hvalue : (m.run world.driver).value = .ok a) (hvalue' : (m'.run world'.driver).value = .ok a')
    (hlater : d.Later world.driver (m.run world.driver).state)
    (hlater' : d'.Later world'.driver (m'.run world'.driver).state)
    (h : same (m.run world.driver).state (m'.run world'.driver).state a a') :
    AgreeFrom d d' same (World.onDriver m) (World.onDriver m') world world' where
  alongside := ⟨hlater.steady, hlater'.steady, hworlds.writer_eq, hworlds.files_eq⟩
  later := hlater
  later' := hlater'
  result := by
    rw [World.run_onDriver, World.run_onDriver, hvalue, hvalue']
    exact .ok h

theorem agreeFrom_onWriter (m : Activity Event ω (Except IoError α))
    (hworlds : Alongside d d' world world') :
    AgreeFrom d d' (fun _ _ ↦ Eq) (World.onWriter m) (World.onWriter m) world world' := by
  obtain ⟨hsteady, hsteady', hwriter, hfiles⟩ := hworlds
  refine ⟨?_, ?_, ?_, ?_⟩
  · rw [World.run_onWriter, World.run_onWriter, hwriter]
    exact ⟨hsteady, hsteady', rfl, hfiles⟩
  · rw [World.run_onWriter]
    exact .refl hsteady
  · rw [World.run_onWriter]
    exact .refl hsteady'
  · rw [World.run_onWriter, World.run_onWriter, hwriter]
    rcases (m world.writer).value with cause | a
    · exact .error _
    · exact .ok rfl

theorem agreeFrom_onFiles (m : Attempt Event φ α) (hworlds : Alongside d d' world world') :
    AgreeFrom d d' (fun _ _ ↦ Eq) (World.onFiles m) (World.onFiles m) world world' := by
  obtain ⟨hsteady, hsteady', hwriter, hfiles⟩ := hworlds
  refine ⟨?_, .refl hsteady, .refl hsteady', ?_⟩
  · rw [World.run_onFiles, World.run_onFiles, hfiles]
    exact ⟨hsteady, hsteady', hwriter, rfl⟩
  · rw [World.run_onFiles, World.run_onFiles, hfiles]
    rcases (m.run world.files).value with error | a
    · exact .error error
    · exact .ok rfl

/-! ### Units but for their numbers -/

/-- The shader with its number left out. -/
def CompiledShader.unnumbered (unit : CompiledShader) : CompiledShader := { unit with id := ⟨0⟩ }

/-- The program with its number left out. -/
def LinkedProgram.unnumbered (unit : LinkedProgram) : LinkedProgram := { unit with id := ⟨0⟩ }

theorem shaderPieces_unnumbered (unit : CompiledShader) :
    Report.shaderPieces unit.unnumbered = Report.shaderPieces unit := rfl

theorem programPieces_unnumbered (unit : LinkedProgram) :
    Report.programPieces unit.unnumbered = Report.programPieces unit := rfl

theorem summaryOf_unnumbered (vertex fragment : CompiledShader) (program : LinkedProgram)
    (artifact : Artifact) :
    summaryOf vertex.unnumbered fragment.unnumbered program.unnumbered artifact =
      summaryOf vertex fragment program artifact := rfl

variable (d d') in
/-- The same program but for its number, linked on both sides. -/
structure SameProgram (s : σ) (t : τ) (unit unit' : LinkedProgram) : Prop where
  unnumbered_eq : unit'.unnumbered = unit.unnumbered
  linked : d.made s (.linked unit.id)
  linked' : d'.made t (.linked unit'.id)

theorem SameProgram.pieces_eq {s : σ} {t : τ} {unit unit' : LinkedProgram}
    (h : SameProgram d d' s t unit unit') :
    Report.programPieces unit' = Report.programPieces unit := by
  rw [← programPieces_unnumbered unit', h.unnumbered_eq, programPieces_unnumbered]

theorem SameProgram.mono {s s₁ : σ} {t t₁ : τ} {unit unit' : LinkedProgram}
    (h : SameProgram d d' s t unit unit') (hlater : d.Later s s₁) (hlater' : d'.Later t t₁) :
    SameProgram d d' s₁ t₁ unit unit' :=
  ⟨h.unnumbered_eq, hlater.made _ h.linked, hlater'.made _ h.linked'⟩

/-- The same shader but for its number. -/
def SameShader (unit unit' : CompiledShader) : Prop := unit'.unnumbered = unit.unnumbered

theorem SameShader.pieces_eq {unit unit' : CompiledShader} (h : SameShader unit unit') :
    Report.shaderPieces unit' = Report.shaderPieces unit := by
  rw [← shaderPieces_unnumbered unit', h, shaderPieces_unnumbered]

theorem agreeFrom_compile (stage : Stage) (source : String)
    (hworlds : Alongside d d' world world') :
    AgreeFrom d d' (fun _ _ ↦ SameShader)
      (World.onDriver (compile driver stage source))
      (World.onDriver (compile driver' stage source)) world world' := by
  obtain ⟨id, hvalue, hlater⟩ := d.compile_eq stage source hworlds.steady
  obtain ⟨id', hvalue', hlater'⟩ := d'.compile_eq stage source hworlds.steady'
  exact agreeFrom_onDriver hworlds hvalue hvalue' hlater hlater' rfl

theorem agreeFrom_link (hregular : canned.IsRegular)
    (vertex fragment vertex' fragment' : CompiledShader) (hworlds : Alongside d d' world world') :
    AgreeFrom d d' (SameProgram d d') (World.onDriver (link driver vertex fragment))
      (World.onDriver (link driver' vertex' fragment')) world world' := by
  have hcountable := hregular.isCountable
  obtain ⟨id, hvalue, hlater, hlinked⟩ := d.link_eq hcountable vertex fragment hworlds.steady
  obtain ⟨id', hvalue', hlater', hlinked'⟩ :=
    d'.link_eq hcountable vertex' fragment' hworlds.steady'
  exact agreeFrom_onDriver hworlds hvalue hvalue' hlater hlater' ⟨rfl, hlinked, hlinked'⟩

theorem agreeFrom_extract (hregular : canned.IsRegular) {program program' : LinkedProgram}
    (hprogram : SameProgram d d' world.driver world'.driver program program')
    (hworlds : Alongside d d' world world') :
    AgreeFrom d d' (fun _ _ ↦ Eq) (World.onDriver (ExceptT.lift (extract driver program)))
      (World.onDriver (ExceptT.lift (extract driver' program'))) world world' := by
  have hcountable := hregular.isCountable
  obtain ⟨hvalue, hlater⟩ := d.extract_eq hcountable program hworlds.steady hprogram.linked
  obtain ⟨hvalue', hlater'⟩ := d'.extract_eq hcountable program' hworlds.steady' hprogram.linked'
  have hrun : ((ExceptT.lift (extract driver program) :
      Attempt Event σ Artifact).run world.driver).value = .ok canned.binary := by
    rw [Attempt.run_lift_apply, hvalue]
  have hrun' : ((ExceptT.lift (extract driver' program') :
      Attempt Event τ Artifact).run world'.driver).value = .ok canned.binary := by
    rw [Attempt.run_lift_apply, hvalue']
  exact agreeFrom_onDriver hworlds hrun hrun' hlater hlater' rfl

/-! ### Whole runs -/

variable {tools : Tools σ ω φ} {tools' : Tools τ ω φ}

theorem agreeFrom_reported {same : σ → τ → α → α' → Prop} {work : Attempt Event σ α}
    {work' : Attempt Event τ α'} {pieces : α → List String} {pieces' : α' → List String}
    (hwriter : tools'.writer = tools.writer)
    (hwork : AgreeFrom d d' same (World.onDriver work) (World.onDriver work') world world')
    (hpieces : ∀ s t a a', same s t a a' → pieces' a' = pieces a)
    (hstable : ∀ s s₁ t t₁ a a', d.Later s s₁ → d'.Later t t₁ → same s t a a' →
      same s₁ t₁ a a') :
    AgreeFrom d d' same (tools.reported work pieces) (tools'.reported work' pieces') world
      world' := by
  refine agreeFrom_bind hwork fun a a' after after' halongside _ _ hsame ↦ ?_
  rw [hwriter, hpieces _ _ a a' hsame]
  refine agreeFrom_bind (agreeFrom_onWriter (tools.writer.writePieces (pieces a)) halongside) ?_
  rintro _ _ last last' hlast hlater hlater' -
  exact agreeFrom_pure hlast (hstable _ _ _ _ a a' hlater hlater' hsame)

theorem agreeFrom_compileReported (hwriter : tools'.writer = tools.writer) (stage : Stage)
    (source : String) (hworlds : Alongside d d' world world') :
    AgreeFrom d d' (fun _ _ ↦ SameShader)
      (tools.reported (compile driver stage source) Report.shaderPieces)
      (tools'.reported (compile driver' stage source) Report.shaderPieces) world world' := by
  refine agreeFrom_reported hwriter (agreeFrom_compile stage source hworlds)
    (fun _ _ _ _ hsame ↦ hsame.pieces_eq) fun _ _ _ _ _ _ _ _ hsame ↦ hsame

theorem agreeFrom_linkReported (hwriter : tools'.writer = tools.writer)
    (hregular : canned.IsRegular) (vertex fragment vertex' fragment' : CompiledShader)
    (hworlds : Alongside d d' world world') :
    AgreeFrom d d' (SameProgram d d')
      (tools.reported (link driver vertex fragment) Report.programPieces)
      (tools'.reported (link driver' vertex' fragment') Report.programPieces) world world' := by
  refine agreeFrom_reported hwriter
    (agreeFrom_link hregular vertex fragment vertex' fragment' hworlds)
    (fun _ _ _ _ hsame ↦ hsame.pieces_eq) fun _ _ _ _ _ _ hlater hlater' hsame ↦
      hsame.mono hlater hlater'

theorem agreeFrom_run (hdriver : tools.driver = driver) (hdriver' : tools'.driver = driver')
    (hwriter : tools'.writer = tools.writer) (hdisk : tools'.disk = tools.disk)
    (hregular : canned.IsRegular) (sources : ShaderPair) (output : String)
    (hworlds : Alongside d d' world world') :
    AgreeFrom d d' (fun _ _ ↦ Eq) (tools.run sources output) (tools'.run sources output) world
      world' := by
  rw [Tools.run_eq, Tools.run_eq, hdriver, hdriver']
  refine agreeFrom_bind
    (agreeFrom_compileReported hwriter .vertex sources.vertex hworlds) ?_
  intro vertex vertex' _ _ hworlds _ _ hvertex
  refine agreeFrom_bind
    (agreeFrom_compileReported hwriter .fragment sources.fragment hworlds) ?_
  intro fragment fragment' _ _ hworlds _ _ hfragment
  refine agreeFrom_bind
    (agreeFrom_linkReported hwriter hregular vertex fragment vertex' fragment' hworlds) ?_
  intro program program' _ _ hworlds _ _ hprogram
  rw [Tools.finish, Tools.finish, hwriter, hdisk, hdriver, hdriver']
  refine agreeFrom_bind (agreeFrom_onWriter tools.writer.flushAll hworlds) ?_
  rintro _ _ _ _ hworlds hlater hlater' -
  refine agreeFrom_bind
    (agreeFrom_extract hregular (hprogram.mono hlater hlater') hworlds) ?_
  rintro artifact _ _ _ hworlds - - rfl
  refine agreeFrom_bind (agreeFrom_onFiles (tools.disk.save artifact output) hworlds) ?_
  rintro _ _ _ _ hworlds - - -
  refine agreeFrom_pure hworlds ?_
  rw [← summaryOf_unnumbered vertex, ← summaryOf_unnumbered vertex', hvertex, hfragment,
    hprogram.unnumbered_eq]

/-! ### Workbenches -/

namespace Workbench

/-- What a step yields, with the number of its object left out. -/
def Yield.unnumbered : Yield → Yield
  | .shader unit => .shader unit.unnumbered
  | .program unit => .program unit.unnumbered
  | other => other

/-- Does steps one after the other, and lists what they yield. -/
def performEach (tools : Tools σ ω φ) :
    List Step → Workbench → Activity Event (World σ ω φ) (List (Except Error Yield))
  | [], _ => pure []
  | step :: rest, bench => do
    let (result, bench) ← perform tools bench step
    return result :: (← performEach tools rest bench)

variable (d d') in
/-- The same units but for their numbers, with programs that are linked on both sides. -/
structure SameBench (s : σ) (t : τ) (bench bench' : Workbench) : Prop where
  shaders : List.Forall₂ SameShader bench.shaders bench'.shaders
  programs : List.Forall₂ (SameProgram d d' s t) bench.programs bench'.programs
  artifacts : bench'.artifacts = bench.artifacts

theorem SameBench.mono {s s₁ : σ} {t t₁ : τ} {bench bench' : Workbench}
    (h : SameBench d d' s t bench bench') (hlater : d.Later s s₁) (hlater' : d'.Later t t₁) :
    SameBench d d' s₁ t₁ bench bench' :=
  ⟨h.shaders, h.programs.imp fun _ _ hprogram ↦ hprogram.mono hlater hlater', h.artifacts⟩

variable (d d') in
/-- The same yield but for the number of its object; a program is linked on both sides. -/
inductive SameYield (s : σ) (t : τ) : Yield → Yield → Prop
  | shader {unit unit' : CompiledShader} (h : SameShader unit unit') :
    SameYield s t (.shader unit) (.shader unit')
  | program {unit unit' : LinkedProgram} (h : SameProgram d d' s t unit unit') :
    SameYield s t (.program unit) (.program unit')
  | artifact (artifact : Artifact) : SameYield s t (.artifact artifact) (.artifact artifact)
  | saved : SameYield s t .saved .saved
  | reported : SameYield s t .reported .reported
  | text (source : String) : SameYield s t (.text source) (.text source)
  | summary (summary : Summary) : SameYield s t (.summary summary) (.summary summary)
  | lacking (part : Part) : SameYield s t (.lacking part) (.lacking part)

theorem SameYield.unnumbered_eq {s : σ} {t : τ} {result result' : Yield}
    (h : SameYield d d' s t result result') : result'.unnumbered = result.unnumbered := by
  cases h with
  | shader h => exact congrArg Yield.shader h
  | program h => exact congrArg Yield.program h.unnumbered_eq
  | _ => rfl

theorem SameBench.add {s : σ} {t : τ} {bench bench' : Workbench} {result result' : Yield}
    (h : SameBench d d' s t bench bench') (hresult : SameYield d d' s t result result') :
    SameBench d d' s t (bench.add result) (bench'.add result') := by
  obtain ⟨hshaders, hprograms, hartifacts⟩ := h
  cases hresult with
  | shader h => exact ⟨List.rel_append hshaders (.cons h .nil), hprograms, hartifacts⟩
  | program h => exact ⟨hshaders, List.rel_append hprograms (.cons h .nil), hartifacts⟩
  | artifact artifact =>
    exact ⟨hshaders, hprograms, congrArg (fun artifacts ↦ artifacts ++ [artifact]) hartifacts⟩
  | _ => exact ⟨hshaders, hprograms, hartifacts⟩

/-- What stands in the same place of two related lists. -/
theorem getElem?_of_forall₂ {R : α → α' → Prop} {first : List α} {second : List α'}
    (h : List.Forall₂ R first second) (place : Nat) :
    (first[place]? = none ∧ second[place]? = none) ∨
      ∃ a a', first[place]? = some a ∧ second[place]? = some a' ∧ R a a' := by
  induction h generalizing place with
  | nil => exact .inl ⟨rfl, rfl⟩
  | cons hfirst hrest ih =>
    cases place with
    | zero => exact .inr ⟨_, _, rfl, rfl, hfirst⟩
    | succ place => exact ih place

theorem agreeFrom_yield (hdriver : tools.driver = driver) (hdriver' : tools'.driver = driver')
    (hwriter : tools'.writer = tools.writer) (hdisk : tools'.disk = tools.disk)
    (hregular : canned.IsRegular) {bench bench' : Workbench}
    (hbench : SameBench d d' world.driver world'.driver bench bench')
    (hworlds : Alongside d d' world world') (step : Step) :
    AgreeFrom d d' (SameYield d d') (yield tools bench step) (yield tools' bench' step) world
      world' := by
  obtain ⟨hshaders, hprograms, hartifacts⟩ := hbench
  cases step with
  | compile stage source =>
    simp only [yield, hdriver, hdriver']
    refine agreeFrom_bind (agreeFrom_compile stage source hworlds) ?_
    intro unit unit' _ _ hworlds _ _ hsame
    exact agreeFrom_pure hworlds (.shader hsame)
  | link vertex fragment =>
    rcases getElem?_of_forall₂ hshaders vertex with ⟨hnone, hnone'⟩ |
      ⟨first, first', hfirst, hfirst', -⟩
    · simp only [yield, hnone, hnone']
      exact agreeFrom_pure hworlds (.lacking .shader)
    rcases getElem?_of_forall₂ hshaders fragment with ⟨hnone, hnone'⟩ |
      ⟨second, second', hsecond, hsecond', -⟩
    · simp only [yield, hfirst, hfirst', hnone, hnone']
      exact agreeFrom_pure hworlds (.lacking .shader)
    simp only [yield, hfirst, hfirst', hsecond, hsecond', hdriver, hdriver']
    refine agreeFrom_bind
      (agreeFrom_link hregular first second first' second' hworlds) ?_
    intro unit unit' _ _ hworlds _ _ hsame
    exact agreeFrom_pure hworlds (.program hsame)
  | extract program =>
    rcases getElem?_of_forall₂ hprograms program with ⟨hnone, hnone'⟩ |
      ⟨unit, unit', hunit, hunit', hsame⟩
    · simp only [yield, hnone, hnone']
      exact agreeFrom_pure hworlds (.lacking .program)
    simp only [yield, hunit, hunit', hdriver, hdriver']
    refine agreeFrom_bind (agreeFrom_extract hregular hsame hworlds) ?_
    rintro artifact _ _ _ hworlds - - rfl
    exact agreeFrom_pure hworlds (.artifact artifact)
  | keep artifact => exact agreeFrom_pure hworlds (.artifact artifact)
  | save artifact path =>
    simp only [yield, hartifacts, hdisk]
    cases bench.artifacts[artifact]? with
    | none => exact agreeFrom_pure hworlds (.lacking .artifact)
    | some artifact =>
      refine agreeFrom_bind (agreeFrom_onFiles (tools.disk.save artifact path) hworlds) ?_
      rintro _ _ _ _ hworlds - - -
      exact agreeFrom_pure hworlds .saved
  | reportShader shader =>
    rcases getElem?_of_forall₂ hshaders shader with ⟨hnone, hnone'⟩ |
      ⟨unit, unit', hunit, hunit', hsame⟩
    · simp only [yield, hnone, hnone']
      exact agreeFrom_pure hworlds (.lacking .shader)
    simp only [yield, hunit, hunit', hwriter, hsame.pieces_eq]
    refine agreeFrom_bind (agreeFrom_onWriter _ hworlds) ?_
    rintro _ _ _ _ hworlds - - -
    exact agreeFrom_pure hworlds .reported
  | reportProgram program =>
    rcases getElem?_of_forall₂ hprograms program with ⟨hnone, hnone'⟩ |
      ⟨unit, unit', hunit, hunit', hsame⟩
    · simp only [yield, hnone, hnone']
      exact agreeFrom_pure hworlds (.lacking .program)
    simp only [yield, hunit, hunit', hwriter, hsame.pieces_eq]
    refine agreeFrom_bind (agreeFrom_onWriter _ hworlds) ?_
    rintro _ _ _ _ hworlds - - -
    exact agreeFrom_pure hworlds .reported
  | load path =>
    simp only [yield, hdisk]
    refine agreeFrom_bind (agreeFrom_onFiles (tools.disk.loadSource path) hworlds) ?_
    rintro source _ _ _ hworlds - - rfl
    exact agreeFrom_pure hworlds (.text source)
  | run sources output =>
    simp only [yield]
    refine agreeFrom_bind
      (agreeFrom_run hdriver hdriver' hwriter hdisk hregular sources output hworlds) ?_
    rintro summary _ _ _ hworlds - - rfl
    exact agreeFrom_pure hworlds (.summary summary)
  | runFiles vertexFile fragmentFile output =>
    simp only [yield, hdisk]
    refine agreeFrom_bind
      (agreeFrom_onFiles (ShaderPair.read tools.disk vertexFile fragmentFile) hworlds) ?_
    rintro sources _ _ _ hworlds - - rfl
    refine agreeFrom_bind
      (agreeFrom_run hdriver hdriver' hwriter hdisk hregular sources output hworlds) ?_
    rintro summary _ _ _ hworlds - - rfl
    exact agreeFrom_pure hworlds (.summary summary)

theorem perform_of_ok {bench : Workbench} {step : Step} {result : Yield}
    (h : ((yield tools bench step).run world).value = .ok result) :
    (perform tools bench step world).value = (.ok result, bench.add result) ∧
      (perform tools bench step world).state = ((yield tools bench step).run world).state := by
  simp [perform, h]

theorem perform_of_error {bench : Workbench} {step : Step} {error : Error}
    (h : ((yield tools bench step).run world).value = .error error) :
    (perform tools bench step world).value = (.error error, bench) ∧
      (perform tools bench step world).state = ((yield tools bench step).run world).state := by
  simp [perform, h]

/-- The steps yield the same but for numbers, and leave the same writer and the same files. -/
theorem performEach_agree (hdriver : tools.driver = driver) (hdriver' : tools'.driver = driver')
    (hwriter : tools'.writer = tools.writer) (hdisk : tools'.disk = tools.disk)
    (hregular : canned.IsRegular) (steps : List Step) {bench bench' : Workbench}
    (hbench : SameBench d d' world.driver world'.driver bench bench')
    (hworlds : Alongside d d' world world') :
    let ending := performEach tools steps bench world
    let ending' := performEach tools' steps bench' world'
    ending'.value.map (Except.map Yield.unnumbered) =
        ending.value.map (Except.map Yield.unnumbered) ∧
      Alongside d d' ending.state ending'.state := by
  -- The numbers on the benches drift apart from step to step; what stays is `SameBench`.
  induction steps generalizing bench bench' world world' with
  | nil => exact ⟨rfl, hworlds⟩
  | cons step rest ih =>
    obtain ⟨hafter, hlater, hlater', hresult⟩ :=
      agreeFrom_yield hdriver hdriver' hwriter hdisk hregular hbench hworlds step
    generalize hvalue : ((yield tools bench step).run world).value = value at hresult
    generalize hvalue' : ((yield tools' bench' step).run world').value = value' at hresult
    have hbench := hbench.mono hlater hlater'
    cases hresult with
    | ok hsame =>
      obtain ⟨hperform, hstate⟩ := perform_of_ok hvalue
      obtain ⟨hperform', hstate'⟩ := perform_of_ok hvalue'
      obtain ⟨hrest, hlast⟩ := ih (hbench.add hsame) hafter
      simp only [performEach, Activity.bind_apply, hperform, hperform', hstate, hstate']
      refine ⟨?_, hlast⟩
      simpa [Except.map, hsame.unnumbered_eq] using hrest
    | error error =>
      obtain ⟨hperform, hstate⟩ := perform_of_error hvalue
      obtain ⟨hperform', hstate'⟩ := perform_of_error hvalue'
      obtain ⟨hrest, hlast⟩ := ih hbench hafter
      simp only [performEach, Activity.bind_apply, hperform, hperform', hstate, hstate']
      refine ⟨?_, hlast⟩
      simpa [Except.map] using hrest

end Workbench

end Agreement

end ShaderBuild
