import ShaderBuild.Proofs.EchoDriver
import ShaderBuild.Proofs.MirroredBuilds
import ShaderBuild.Proofs.RunDialogue

/-!
Builds side by side. Any number of pipelines share a driver, each with a workbench of its own, and
take turns in any order. A step touches no objects but those on its bench and those it makes, so
with a driver that answers locally a pipeline comes to what it would come to alone. Whatever the
order of the turns is, it makes no difference to a pipeline as long as its own steps are in order
(`performTurns_agree`).
-/

set_option autoImplicit false
set_option relaxedAutoImplicit false

namespace ShaderBuild

variable {σ ω φ α β κ : Type} {driver : Driver σ} {start : σ}

theorem World.onDriver_bind_pure (m : Attempt Event σ α) (f : α → β) :
    (World.onDriver m >>= fun a ↦ pure (f a) : Attempt Event (World σ ω φ) β) =
      World.onDriver (m >>= fun a ↦ pure (f a)) := by
  refine ExceptT.ext (Activity.ext fun world ↦ ?_)
  have hrun : ((World.onDriver m).run world : Ending Event (World σ ω φ) (Except Error α)).value =
      (m.run world.driver).value := rfl
  rw [World.run_onDriver]
  cases hvalue : (m.run world.driver).value with
  | error error =>
    rw [hvalue] at hrun
    rw [Attempt.run_bind_of_error _ hrun, Attempt.run_bind_of_error _ hvalue]
    rfl
  | ok a =>
    rw [hvalue] at hrun
    rw [Attempt.run_bind_of_ok _ hrun, Attempt.run_bind_of_ok _ hvalue]
    rfl

namespace Workbench

/-! ### Steps of a build -/

/-- The steps that need only the driver. -/
inductive BuildStep where
  | compile (stage : Stage) (source : String)
  | link (vertex fragment : Nat)
  | extract (program : Nat)
  deriving DecidableEq, Repr

def BuildStep.step : BuildStep → Step
  | .compile stage source => .compile stage source
  | .link vertex fragment => .link vertex fragment
  | .extract program => .extract program

/-- The step as work with the driver alone. -/
def work (driver : Driver σ) (bench : Workbench) : BuildStep → Attempt Event σ Yield
  | .compile stage source => do return .shader (← ShaderBuild.compile driver stage source)
  | .link vertex fragment =>
    match bench.shaders[vertex]?, bench.shaders[fragment]? with
    | some vertex, some fragment => do return .program (← ShaderBuild.link driver vertex fragment)
    | _, _ => return .lacking .shader
  | .extract program =>
    match bench.programs[program]? with
    | some program => do
      return .artifact (← (ExceptT.lift (ShaderBuild.extract driver program)))
    | none => return .lacking .program

theorem yield_step (tools : Tools σ ω φ) (bench : Workbench) (step : BuildStep) :
    yield tools bench step.step = World.onDriver (work tools.driver bench step) := by
  cases step with
  | compile stage source => exact World.onDriver_bind_pure _ _
  | link vertex fragment =>
    simp only [BuildStep.step, yield, work]
    cases bench.shaders[vertex]? with
    | none => rfl
    | some vertex =>
      cases bench.shaders[fragment]? with
      | none => rfl
      | some fragment => exact World.onDriver_bind_pure _ _
  | extract program =>
    simp only [BuildStep.step, yield, work]
    cases bench.programs[program]? with
    | none => rfl
    | some program => exact World.onDriver_bind_pure _ _

/-- The bench with what a step has come to. -/
def after (bench : Workbench) : Except Error Yield → Workbench
  | .ok result => bench.add result
  | .error _ => bench

theorem perform_step (tools : Tools σ ω φ) (bench : Workbench) (step : BuildStep)
    (world : World σ ω φ) :
    let ending := (work tools.driver bench step).run world.driver
    (perform tools bench step.step world).value = (ending.value, bench.after ending.value) ∧
      (perform tools bench step.step world).state = { world with driver := ending.state } := by
  intro ending
  have hyield := World.run_onDriver (work tools.driver bench step) world
  rw [← yield_step] at hyield
  cases hvalue : ending.value with
  | ok result =>
    have hrun := perform_of_ok (by rw [hyield]; exact hvalue)
    rwa [hyield] at hrun
  | error error =>
    have hrun := perform_of_error (by rw [hyield]; exact hvalue)
    rwa [hyield] at hrun

/-! ### What a step touches -/

/-- The object that a step has made. -/
def Yield.objects : Yield → List Object
  | .shader unit => [.shader unit.id]
  | .program unit => [.program unit.id]
  | _ => []

/-- The objects that lie on the bench. -/
def objects (bench : Workbench) : List Object :=
  bench.shaders.map (fun unit ↦ .shader unit.id) ++ bench.programs.map (fun unit ↦ .program unit.id)

theorem mem_objects_after {bench : Workbench} {result : Except Error Yield} {x : Object}
    (h : x ∈ (bench.after result).objects) :
    x ∈ bench.objects ∨ ∃ yield, result = .ok yield ∧ x ∈ yield.objects := by
  cases result with
  | error error => exact .inl h
  | ok result =>
    cases result with
    | shader unit =>
      simp only [after, add, objects, List.map_append, List.mem_append] at h
      rcases h with (hold | hnew) | hold
      · exact .inl (List.mem_append_left _ hold)
      · exact .inr ⟨.shader unit, rfl, hnew⟩
      · exact .inl (List.mem_append_right _ hold)
    | program unit =>
      simp only [after, add, objects, List.map_append, List.mem_append] at h
      rcases h with hold | hold | hnew
      · exact .inl (List.mem_append_left _ hold)
      · exact .inl (List.mem_append_right _ hold)
      · exact .inr ⟨.program unit, rfl, hnew⟩
    | _ => exact .inl h

/-- The dialogue is about nothing but the objects given and those that are made in it; what the work
comes to is made in it. -/
structure Touches (given : List Object) (result : Except Error Yield) (dialogue : List Exchange) :
    Prop where
  within : ∀ x ∈ objectsOf dialogue, x ∈ given ∨ x ∈ madeIn dialogue
  made : ∀ yield, result = .ok yield → ∀ x ∈ yield.objects, x ∈ madeIn dialogue

theorem touches_compile {stage : Stage} {source : String} {result : Except Error CompiledShader}
    {trail : List Event} (h : CompileTrail stage source result trail) :
    Touches [] (result.map .shader) (exchanges trail) := by
  cases result with
  | error error =>
    rw [exchanges_compileTrail_of_error h]
    exact ⟨fun x hx ↦ absurd hx List.not_mem_nil, nofun⟩
  | ok unit =>
    obtain ⟨replies, hid, hdialogue⟩ := exchanges_compileTrail h
    rw [hdialogue]
    refine ⟨fun x hx ↦ .inr ?_, ?_⟩
    · simpa [ShaderReplies.dialogue, objectsOf, madeIn, Exchange.objects, Exchange.made,
        Call.named] using hx
    · rintro _ ⟨⟩ x hx
      simpa [ShaderReplies.dialogue, madeIn, Exchange.made, Yield.objects, hid] using hx

theorem objectsOf_interfaceDialogue {replies : InterfaceReplies} {interface : Interface}
    {program : ProgramId} {x : Object} (h : x ∈ objectsOf (replies.dialogue interface program)) :
    x = .program program := by
  obtain ⟨⟨call, answer⟩, hexchange, hx⟩ := List.mem_flatMap.mp h
  cases InterfaceReplies.isAbout_of_mem_dialogue hexchange with
  | parameter code => exact List.mem_singleton.mp hx
  | activeVariable index maxLength => exact List.mem_singleton.mp hx

theorem objectsOf_linkDialogue {replies : ProgramReplies} {vertex fragment : ShaderId} {x : Object}
    (h : x ∈ objectsOf (replies.dialogue vertex fragment)) :
    x ∈ [.shader vertex, .shader fragment] ∨ x = .program replies.id := by
  unfold ProgramReplies.dialogue at h
  rw [objectsOf_append, objectsOf_append, objectsOf_append] at h
  simp only [List.mem_append] at h
  rcases h with ((h | h) | h) | h
  · simp only [objectsOf, Exchange.objects, Exchange.made, Call.named, List.flatMap_cons,
      List.flatMap_nil, List.cons_append, List.nil_append, List.mem_cons, List.not_mem_nil,
      or_false] at h ⊢
    tauto
  · split_ifs at h
    · exact .inr (List.mem_singleton.mp h)
    · exact absurd h List.not_mem_nil
  · exact .inr (objectsOf_interfaceDialogue h)
  · exact .inr (objectsOf_interfaceDialogue h)

theorem touches_link {vertex fragment : CompiledShader} {result : Except Error LinkedProgram}
    {trail : List Event} (h : LinkTrail vertex fragment result trail) :
    Touches [.shader vertex.id, .shader fragment.id] (result.map .program) (exchanges trail) := by
  cases result with
  | error error =>
    rw [exchanges_linkTrail_of_error h]
    exact ⟨fun x hx ↦ absurd hx List.not_mem_nil, nofun⟩
  | ok unit =>
    obtain ⟨replies, hid, hdialogue⟩ := exchanges_linkTrail h
    have hmade : .program unit.id ∈ madeIn (replies.dialogue vertex.id fragment.id) := by
      rw [← hid]
      exact List.mem_cons_self
    rw [hdialogue]
    refine ⟨fun x hx ↦ ?_, ?_⟩
    · rcases objectsOf_linkDialogue hx with hx | rfl
      · exact .inl hx
      · rw [hid]
        exact .inr hmade
    · rintro _ ⟨⟩ x hx
      rw [List.mem_singleton.mp hx]
      exact hmade

theorem touches_extract {program : LinkedProgram} {artifact : Artifact}
    {trail : List Event} (h : ExtractTrail program artifact trail) :
    Touches [.program program.id] (.ok (.artifact artifact)) (exchanges trail) := by
  obtain ⟨replies, hdialogue⟩ := exchanges_extractTrail h
  rw [hdialogue]
  refine ⟨fun x hx ↦ .inl ?_, ?_⟩
  · simpa [BinaryReplies.dialogue, objectsOf, Exchange.objects, Exchange.made, Call.named] using hx
  · rintro _ ⟨⟩ x hx
    exact absurd hx List.not_mem_nil

theorem Touches.mono {given given' : List Object} {result : Except Error Yield}
    {dialogue : List Exchange} (h : Touches given result dialogue) (hgiven : given ⊆ given') :
    Touches given' result dialogue :=
  ⟨fun x hx ↦ (h.within x hx).imp (fun hold ↦ hgiven hold) id, h.made⟩

theorem conducts_lacking (given : List Object) (part : Part) :
    driver.Conducts id (pure (.lacking part) : Attempt Event σ Yield).run fun result trail ↦
      Touches given result (exchanges trail) := by
  refine conducts_pure ⟨fun x hx ↦ absurd hx List.not_mem_nil, ?_⟩
  rintro _ ⟨⟩ x hx
  exact absurd hx List.not_mem_nil

theorem mem_objects_of_shader {bench : Workbench} {unit : CompiledShader}
    (h : unit ∈ bench.shaders) : .shader unit.id ∈ bench.objects :=
  List.mem_append_left _ (List.mem_map_of_mem h)

theorem mem_objects_of_program {bench : Workbench} {unit : LinkedProgram}
    (h : unit ∈ bench.programs) : .program unit.id ∈ bench.objects :=
  List.mem_append_right _ (List.mem_map_of_mem h)

/-- A step touches no objects but those on its bench and those it makes. -/
theorem conducts_work (bench : Workbench) (step : BuildStep) :
    driver.Conducts id (work driver bench step).run fun result trail ↦
      Touches bench.objects result (exchanges trail) := by
  cases step with
  | compile stage source =>
    refine conducts_run_bind (conducts_compile stage source) ?_ ?_
    · exact fun error trail h ↦ (touches_compile h).mono (List.nil_subset _)
    · refine fun unit trail h ↦ conducts_pure ?_
      rw [List.append_nil]
      exact (touches_compile h).mono (List.nil_subset _)
  | link vertex fragment =>
    simp only [work]
    cases hfirst : bench.shaders[vertex]? with
    | none => exact conducts_lacking _ _
    | some first =>
      cases hsecond : bench.shaders[fragment]? with
      | none => exact conducts_lacking _ _
      | some second =>
        have hgiven : [.shader first.id, .shader second.id] ⊆ bench.objects :=
          List.cons_subset.mpr ⟨mem_objects_of_shader (List.mem_of_getElem? hfirst),
            List.cons_subset.mpr ⟨mem_objects_of_shader (List.mem_of_getElem? hsecond),
              List.nil_subset _⟩⟩
        refine conducts_run_bind (conducts_link first second) ?_ ?_
        · exact fun error trail h ↦ (touches_link h).mono hgiven
        · refine fun unit trail h ↦ conducts_pure ?_
          rw [List.append_nil]
          exact (touches_link h).mono hgiven
  | extract program =>
    simp only [work]
    cases hunit : bench.programs[program]? with
    | none => exact conducts_lacking _ _
    | some unit =>
      have hgiven : [.program unit.id] ⊆ bench.objects :=
        List.cons_subset.mpr ⟨mem_objects_of_program (List.mem_of_getElem? hunit),
          List.nil_subset _⟩
      refine conducts_run_lift_bind (conducts_extract unit) fun artifact trail h ↦ conducts_pure ?_
      rw [List.append_nil]
      exact (touches_extract h).mono hgiven

/-! ### A step seen twice -/

/-- The same yield but for the number of its object, which is paired. -/
inductive PairedYields (pairs : List (Object × Object)) : Yield → Yield → Prop
  | shader {unit unit' : CompiledShader} (h : Mirror.PairedShaders pairs unit unit') :
    PairedYields pairs (.shader unit) (.shader unit')
  | program {unit unit' : LinkedProgram} (h : Mirror.PairedPrograms pairs unit unit') :
    PairedYields pairs (.program unit) (.program unit')
  | artifact (artifact : Artifact) : PairedYields pairs (.artifact artifact) (.artifact artifact)
  | lacking (part : Part) : PairedYields pairs (.lacking part) (.lacking part)

/-- The same units but for their numbers. -/
structure PairedBenches (pairs : List (Object × Object)) (bench bench' : Workbench) : Prop where
  shaders : List.Forall₂ (Mirror.PairedShaders pairs) bench.shaders bench'.shaders
  programs : List.Forall₂ (Mirror.PairedPrograms pairs) bench.programs bench'.programs

variable {pairs pairs' : List (Object × Object)}

theorem PairedYields.unnumbered_eq {result result' : Yield}
    (h : PairedYields pairs result result') : result'.unnumbered = result.unnumbered := by
  cases h with
  | shader h => exact congrArg Yield.shader h.unnumbered_eq
  | program h => exact congrArg Yield.program h.unnumbered_eq
  | _ => rfl

theorem PairedBenches.mono {bench bench' : Workbench} (h : PairedBenches pairs bench bench')
    (hpairs : pairs ⊆ pairs') : PairedBenches pairs' bench bench' where
  shaders := h.shaders.imp fun _ _ hunit ↦ ⟨hunit.unnumbered_eq, hpairs hunit.paired⟩
  programs := h.programs.imp fun _ _ hunit ↦ ⟨hunit.unnumbered_eq, hpairs hunit.paired⟩

theorem PairedBenches.add {bench bench' : Workbench} {result result' : Yield}
    (h : PairedBenches pairs bench bench') (hresult : PairedYields pairs result result') :
    PairedBenches pairs (bench.add result) (bench'.add result') := by
  cases hresult with
  | shader hunit => exact ⟨List.rel_append h.shaders (.cons hunit .nil), h.programs⟩
  | program hunit => exact ⟨h.shaders, List.rel_append h.programs (.cons hunit .nil)⟩
  | _ => exact ⟨h.shaders, h.programs⟩

theorem advances_work {m : Mirror driver start pairs} {bench bench' : Workbench}
    (hbench : PairedBenches pairs bench bench') (step : BuildStep) :
    m.Advances (work driver bench step).run (work driver bench' step).run
      fun pairs' ↦ Mirror.BothOk (PairedYields pairs') := by
  have hlacking : ∀ part, m.Advances (pure (.lacking part) : Attempt Event σ Yield).run
      (pure (.lacking part) : Attempt Event σ Yield).run
      fun pairs' ↦ Mirror.BothOk (PairedYields pairs') :=
    fun part ↦ (Mirror.carries_pure ⟨_, _, rfl, rfl, .lacking part⟩).advances
  cases step with
  | compile stage source =>
    exact Mirror.advances_run_bind_pure (Mirror.advances_compile stage source)
      fun _ _ _ hunit ↦ .shader hunit
  | link vertex fragment =>
    unfold work
    rcases getElem?_of_forall₂ hbench.shaders vertex with ⟨hnone, hnone'⟩ |
      ⟨first, first', hfirst, hfirst', hpaired⟩
    · simp only [hnone, hnone']
      exact hlacking .shader
    rcases getElem?_of_forall₂ hbench.shaders fragment with ⟨hnone, hnone'⟩ |
      ⟨second, second', hsecond, hsecond', hpaired'⟩
    · simp only [hfirst, hfirst', hnone, hnone']
      exact hlacking .shader
    simp only [hfirst, hfirst', hsecond, hsecond']
    exact Mirror.advances_run_bind_pure (Mirror.advances_link hpaired hpaired')
      fun _ _ _ hunit ↦ .program hunit
  | extract program =>
    unfold work
    rcases getElem?_of_forall₂ hbench.programs program with ⟨hnone, hnone'⟩ |
      ⟨unit, unit', hunit, hunit', hpaired⟩
    · simp only [hnone, hnone']
      exact hlacking .program
    simp only [hunit, hunit']
    refine (Mirror.carries_run_lift_bind (Mirror.carries_extract hpaired) ?_).advances
    rintro after artifact _ rfl
    exact Mirror.carries_pure ⟨_, _, rfl, rfl, .artifact artifact⟩

/-! ### Turns -/

variable [DecidableEq κ]

/-- Does a step for one pipeline after the other, each on the bench of the pipeline, and lists what
they come to. -/
def performTurns (tools : Tools σ ω φ) : List (κ × BuildStep) → (κ → Workbench) →
    Activity Event (World σ ω φ) (List (κ × Except Error Yield))
  | [], _ => pure []
  | (pipeline, step) :: rest, benches => do
    let (result, bench) ← perform tools (benches pipeline) step.step
    return (pipeline, result) ::
      (← performTurns tools rest (Function.update benches pipeline bench))

theorem performTurns_cons (tools : Tools σ ω φ) (pipeline : κ) (step : BuildStep)
    (rest : List (κ × BuildStep)) (benches : κ → Workbench) (world : World σ ω φ) :
    let ending := (work tools.driver (benches pipeline) step).run world.driver
    (performTurns tools ((pipeline, step) :: rest) benches world).value =
      (pipeline, ending.value) ::
        (performTurns tools rest
          (Function.update benches pipeline ((benches pipeline).after ending.value))
          { world with driver := ending.state }).value := by
  intro ending
  obtain ⟨hperform, hafter⟩ := perform_step tools (benches pipeline) step world
  simp only [performTurns, Activity.bind_apply, hperform, hafter, Activity.pure_apply]
  rfl

omit [DecidableEq κ] in
theorem performEach_cons (tools : Tools σ ω φ) (step : BuildStep) (rest : List Step)
    (bench : Workbench) (world : World σ ω φ) :
    let ending := (work tools.driver bench step).run world.driver
    (performEach tools (step.step :: rest) bench world).value =
      ending.value ::
        (performEach tools rest (bench.after ending.value)
          { world with driver := ending.state }).value := by
  intro ending
  obtain ⟨hperform, hafter⟩ := perform_step tools bench step world
  simp only [performEach, Activity.bind_apply, hperform, hafter, Activity.pure_apply]
  rfl

/-- What belongs to the pipeline, in order. -/
def partOf (pipeline : κ) (entries : List (κ × α)) : List α :=
  entries.filterMap fun entry ↦ if entry.1 = pipeline then some entry.2 else none

theorem partOf_cons_self (pipeline : κ) (a : α) (rest : List (κ × α)) :
    partOf pipeline ((pipeline, a) :: rest) = a :: partOf pipeline rest := by
  simp [partOf]

theorem partOf_cons_of_ne {pipeline other : κ} (h : other ≠ pipeline) (a : α)
    (rest : List (κ × α)) : partOf pipeline ((other, a) :: rest) = partOf pipeline rest := by
  simp [partOf, h]

/-- The pipeline has the same on its bench in both worlds. What lies on the other benches is none of
its own. -/
structure Beside (pipeline : κ) (m : Mirror driver start pairs) (benches : κ → Workbench)
    (bench' : Workbench) : Prop where
  own : PairedBenches pairs (benches pipeline) bench'
  others : ∀ other ≠ pipeline, ∀ x ∈ (benches other).objects,
    x ∈ madeIn m.history ∧ x ∉ pairs.map Prod.fst

/-- A turn of the pipeline. -/
theorem Beside.own_turn {pipeline : κ} {m : Mirror driver start pairs} {benches : κ → Workbench}
    {bench' : Workbench} (h : Beside pipeline m benches bench') (step : BuildStep) :
    ∃ (pairs' : List (Object × Object)) (next : Mirror driver start pairs')
      (result result' : Yield),
      next.state = ((work driver (benches pipeline) step).run m.state).state ∧
      next.state' = ((work driver bench' step).run m.state').state ∧
      ((work driver (benches pipeline) step).run m.state).value = .ok result ∧
      ((work driver bench' step).run m.state').value = .ok result' ∧
      result'.unnumbered = result.unnumbered ∧
      Beside pipeline next (Function.update benches pipeline ((benches pipeline).add result))
        (bench'.add result') := by
  obtain ⟨pairs', next, hextends, ⟨later, hlater⟩, hstate, hstate', result, result', hvalue,
    hvalue', hresult⟩ := advances_work h.own step
  refine ⟨pairs', next, result, result', hstate, hstate', hvalue, hvalue', hresult.unnumbered_eq,
    ?_, ?_⟩
  · rw [Function.update_self]
    exact (h.own.mono hextends.subset).add hresult
  · intro other hother x hx
    rw [Function.update_of_ne hother] at hx
    obtain ⟨hmade, hforeign⟩ := h.others other hother x hx
    refine ⟨?_, fun hown ↦ hforeign ?_⟩
    · rw [← hlater]
      exact mem_madeIn_append_left hmade later
    · exact hextends.fresh x (mem_objectsOf_of_mem_madeIn hmade) hown

/-- A turn of another pipeline. -/
theorem Beside.other_turn {pipeline other : κ} {m : Mirror driver start pairs}
    {benches : κ → Workbench} {bench' : Workbench} (h : Beside pipeline m benches bench')
    (hother : other ≠ pipeline) (step : BuildStep) :
    ∃ next : Mirror driver start pairs,
      next.state = ((work driver (benches other) step).run m.state).state ∧
      next.state' = m.state' ∧
      Beside pipeline next
        (Function.update benches other
          ((benches other).after ((work driver (benches other) step).run m.state).value))
        bench' := by
  obtain ⟨hreplies, hwithin, hmade⟩ :=
    (@conducts_work σ driver (benches other) step).apply m.state
  obtain ⟨next, hhistory, hstate, hstate'⟩ := m.exists_apart hreplies fun x hx ↦
    (hwithin x hx).imp (h.others other hother x) id
  refine ⟨next, hstate, hstate', ?_, ?_⟩
  · rw [Function.update_of_ne hother.symm]
    exact h.own
  · intro another hanother x hx
    rw [hhistory, madeIn_append]
    have hold : ∀ x ∈ (benches another).objects, x ∈ madeIn m.history ++
        madeIn (exchanges ((work driver (benches other) step).run m.state).trail) ∧
          x ∉ pairs.map Prod.fst :=
      fun x hx ↦ (h.others another hanother x hx).imp (List.mem_append_left _) id
    by_cases hsame : another = other
    · subst hsame
      rw [Function.update_self] at hx
      rcases mem_objects_after hx with hx | ⟨yield, hyield, hx⟩
      · exact hold x hx
      · have hnew := hmade yield hyield x hx
        exact ⟨List.mem_append_right _ hnew, m.fresh hreplies hnew⟩
    · rw [Function.update_of_ne hsame] at hx
      exact hold x hx

/-- Whatever the others do between its turns, the pipeline comes to what it would come to alone. -/
theorem performTurns_alone {tools : Tools σ ω φ} (pipeline : κ) (turns : List (κ × BuildStep))
    {m : Mirror tools.driver start pairs} {benches : κ → Workbench} {bench' : Workbench}
    {world world' : World σ ω φ} (h : Beside pipeline m benches bench')
    (hstate : world.driver = m.state) (hstate' : world'.driver = m.state') :
    ∃ yields yields' : List Yield,
      partOf pipeline (performTurns tools turns benches world).value = yields.map .ok ∧
      (performEach tools ((partOf pipeline turns).map BuildStep.step) bench' world').value =
        yields'.map .ok ∧
      yields'.map Yield.unnumbered = yields.map Yield.unnumbered := by
  -- In a turn of another pipeline the world of the pipeline alone stands still; `Beside` holds on.
  induction turns generalizing pairs benches bench' world world' with
  | nil => exact ⟨[], [], rfl, rfl, rfl⟩
  | cons turn rest ih =>
    obtain ⟨current, step⟩ := turn
    rw [performTurns_cons, hstate]
    by_cases hcurrent : current = pipeline
    · subst hcurrent
      obtain ⟨pairs', next, result, result', hnext, hnext', hvalue, hvalue', hsame, hbeside⟩ :=
        h.own_turn step
      rw [partOf_cons_self, partOf_cons_self, List.map_cons, performEach_cons, hstate', hvalue,
        hvalue', ← hnext, ← hnext']
      obtain ⟨yields, yields', hyields, hyields', hrest⟩ := ih hbeside
        (show World.driver { world with driver := next.state } = next.state from rfl)
        (show World.driver { world' with driver := next.state' } = next.state' from rfl)
      refine ⟨result :: yields, result' :: yields', ?_, ?_, ?_⟩
      · rw [List.map_cons]
        exact congrArg _ hyields
      · rw [List.map_cons]
        exact congrArg _ hyields'
      · rw [List.map_cons, List.map_cons, hsame, hrest]
    · obtain ⟨next, hnext, hnext', hbeside⟩ := h.other_turn hcurrent step
      rw [partOf_cons_of_ne hcurrent, partOf_cons_of_ne hcurrent, ← hnext]
      exact ih hbeside rfl (hstate'.trans hnext'.symm)

/-- Pipelines that share a driver do not disturb one another. In any two orders of turns in which
every pipeline takes the same steps in the same order, every pipeline comes to the same units and
artifacts but for the numbers. -/
theorem performTurns_agree {tools : Tools σ ω φ} {world : World σ ω φ}
    (hdriver : tools.driver.AnswersLocally world.driver) {turns turns' : List (κ × BuildStep)}
    (hturns : ∀ pipeline, partOf pipeline turns' = partOf pipeline turns) (pipeline : κ) :
    ∃ yields yields' : List Yield,
      partOf pipeline (performTurns tools turns (fun _ ↦ {}) world).value = yields.map .ok ∧
      partOf pipeline (performTurns tools turns' (fun _ ↦ {}) world).value = yields'.map .ok ∧
      yields'.map Yield.unnumbered = yields.map Yield.unnumbered := by
  have hbeside : Beside pipeline (Mirror.begin hdriver) (fun _ ↦ {}) {} :=
    ⟨⟨.nil, .nil⟩, fun _ _ _ hx ↦ absurd hx List.not_mem_nil⟩
  obtain ⟨yields, alone, hyields, halone, hsame⟩ :=
    @performTurns_alone _ _ _ _ _ _ _ tools pipeline turns _ _ _ world world hbeside rfl rfl
  obtain ⟨yields', alone', hyields', halone', hsame'⟩ :=
    @performTurns_alone _ _ _ _ _ _ _ tools pipeline turns' _ _ _ world world hbeside rfl rfl
  rw [hturns pipeline, halone] at halone'
  have heq : alone = alone' := List.map_injective_iff.mpr (fun _ _ h ↦ Except.ok.inj h) halone'
  refine ⟨yields, yields', hyields, hyields', ?_⟩
  rw [← hsame', ← heq, hsame]

theorem performTurns_agree_echo :
    let tools : Tools (List Exchange) Sink.Content FileTree :=
      ⟨Echo.driver, ({} : Sink).writer, FileTree.disk⟩
    let world : World (List Exchange) Sink.Content FileTree := ⟨[], {}, FileTree.empty⟩
    let inBlocks : List (Bool × BuildStep) :=
      [(false, .compile .vertex "position"), (false, .compile .fragment "color"),
        (false, .link 0 1), (false, .extract 0),
        (true, .compile .fragment ""), (true, .compile .vertex "depth"),
        (true, .link 1 0), (true, .extract 0)]
    let byTurns : List (Bool × BuildStep) :=
      [(true, .compile .fragment ""), (false, .compile .vertex "position"),
        (true, .compile .vertex "depth"), (false, .compile .fragment "color"),
        (true, .link 1 0), (false, .link 0 1), (false, .extract 0), (true, .extract 0)]
    tools.driver.AnswersLocally world.driver ∧
      (∀ pipeline, partOf pipeline byTurns = partOf pipeline inBlocks) ∧
      ∃ yields yields' : List Yield,
        partOf true (performTurns tools inBlocks (fun _ ↦ {}) world).value = yields.map .ok ∧
        partOf true (performTurns tools byTurns (fun _ ↦ {}) world).value = yields'.map .ok ∧
        yields'.map Yield.unnumbered = yields.map Yield.unnumbered := by
  intro tools world inBlocks byTurns
  have hdriver : tools.driver.AnswersLocally world.driver := Echo.answersLocally
  have hturns : ∀ pipeline, partOf pipeline byTurns = partOf pipeline inBlocks := by decide
  exact ⟨hdriver, hturns, performTurns_agree hdriver hturns true⟩

end Workbench

end ShaderBuild
