import ShaderBuild.Driver.Canned
import ShaderBuild.Proofs.RenumberedBuilds
import ShaderBuild.Proofs.ShaderVerdicts

/-!
Builds one after the other with one canned driver. All that the driver remembers is the stages of
the shaders that it created. A number that it handed out stays the place of its shader in that list,
and only shaders that were created are judged, so no verdict is asked for that the list does not
tell. What was created before shifts the numbers of new shaders and changes nothing else: whatever
was done with the driver, what is done next comes out as with a driver that nothing was done with
(`canned_builds_repeat`).
-/

set_option autoImplicit false
set_option relaxedAutoImplicit false

namespace ShaderBuild

/-! ### What a canned driver remembers -/

namespace Canned

/-- The driver after it created some shaders more. -/
theorem exists_created_answer (call : Call) (s : Canned) :
    ∃ created, (driver.answer call s).state = { s with shaders := s.shaders ++ created } := by
  cases call with
  | createShader stage =>
    by_cases hrefuses : s.refusesObjects
    · exact ⟨[], by simp [driver, answer, hrefuses]⟩
    · exact ⟨[stage], by simp [driver, answer, hrefuses]⟩
  | _ => exact ⟨[], by simp [driver, answer]⟩

theorem exists_created {dialogue : List Exchange} {s t : Canned}
    (h : driver.Replies s dialogue t) :
    ∃ created, t = { s with shaders := s.shaders ++ created } := by
  induction dialogue generalizing s with
  | nil =>
    obtain rfl : s = t := h
    exact ⟨[], by simp⟩
  | cons exchange rest ih =>
    obtain ⟨first, hfirst⟩ := exists_created_answer exchange.call s
    obtain ⟨more, rfl⟩ := ih h.2
    refine ⟨first ++ more, ?_⟩
    rw [hfirst]
    simp

theorem stage_of_created {dialogue : List Exchange} {s t : Canned}
    (h : driver.Replies s dialogue t) {stage : Stage} {shader : ShaderId}
    (hcreated : ⟨.createShader stage, .ok shader⟩ ∈ dialogue) :
    t.shaders[shader.number]? = some stage := by
  induction dialogue generalizing s with
  | nil => exact absurd hcreated List.not_mem_nil
  | cons exchange rest ih =>
    rcases List.mem_cons.mp hcreated with rfl | hlater
    · obtain ⟨hvalue, hrest⟩ := h
      obtain ⟨more, rfl⟩ := exists_created hrest
      have haccepted : s.refusesObjects = false := by
        cases hrefuses : s.refusesObjects with
        | false => rfl
        | true => simp [driver, answer, hrefuses] at hvalue
      have hshader : shader = ⟨s.shaders.length⟩ := by
        simpa [driver, answer, haccepted] using hvalue.symm
      rw [hshader]
      simp [driver, answer, haccepted]
    · exact ih h.2 hlater

/-- The state `s` is what the dialogue made of the driver: it answered just so, it has the fields
that it had, and where it says so it has the shaders that it created. -/
structure Remembers (canned : Canned) (dialogue : List Exchange) (s : Canned) : Prop where
  replies : driver.Replies canned dialogue s
  fields_eq : s = { canned with shaders := s.shaders }
  stage_eq : ∀ stage shader, ⟨.createShader stage, .ok shader⟩ ∈ dialogue →
    s.shaders[shader.number]? = some stage

theorem remembers_of_replies {canned s : Canned} {dialogue : List Exchange}
    (h : driver.Replies canned dialogue s) : canned.Remembers dialogue s := by
  refine ⟨h, ?_, fun stage shader ↦ stage_of_created h⟩
  obtain ⟨created, rfl⟩ := exists_created h
  rfl

/-! ### What was created before -/

/-- The driver with some shaders created before its own. -/
def behind (old : List Stage) (s : Canned) : Canned := { s with shaders := old ++ s.shaders }

end Canned

/-- The number with `count` numbers handed out before. -/
def ShaderId.shifted (count : Nat) (shader : ShaderId) : ShaderId := ⟨shader.number + count⟩

namespace Canned

theorem verdictOf_behind (old : List Stage) (s : Canned) (shader : ShaderId) :
    (s.behind old).verdictOf (shader.shifted old.length) = s.verdictOf shader := by
  have hplace : (old ++ s.shaders)[shader.number + old.length]? = s.shaders[shader.number]? := by
    rw [List.getElem?_append_right (Nat.le_add_left _ _), Nat.add_sub_cancel]
  show ((old ++ s.shaders)[shader.number + old.length]?.map (s.behind old).verdict).getD {} = _
  rw [hplace]
  rfl

/-- Shaders that were created before shift the numbers of new ones. -/
theorem renumbers_behind (old : List Stage) (call : Call) :
    driver.Renumbers (behind old) (ShaderId.shifted old.length) call := by
  intro s
  cases call with
  | createShader stage =>
    cases hrefuses : s.refusesObjects with
    | true =>
      simp [driver, answer, behind, hrefuses, Call.renumbered, Call.answerRenumbered, Except.map]
    | false =>
      simp [driver, answer, behind, hrefuses, Call.renumbered, Call.answerRenumbered, Except.map,
        ShaderId.shifted, Nat.add_comm]
  | compileStatus shader =>
    have hverdict := verdictOf_behind old s shader
    simp only [driver, answer, Call.renumbered, Call.answerRenumbered, hverdict]
  | shaderLog shader =>
    have hverdict := verdictOf_behind old s shader
    simp only [driver, answer, Call.renumbered, Call.answerRenumbered, hverdict]
  | _ => rfl

/-- Programs are answered for without a look at the shaders. -/
theorem renumbers_of_isOfProgram (shaders : List Stage) (number : ShaderId → ShaderId) {call : Call}
    (h : call.isOfProgram = true) :
    driver.Renumbers (fun s ↦ { s with shaders }) number call := by
  intro s
  cases call with
  | createShader stage => cases h
  | compileShader shader source => cases h
  | compileStatus shader => cases h
  | shaderLog shader => cases h
  | _ => rfl

end Canned

/-! ### What is done next -/

section Next

variable (canned : Canned) (old : List Stage)

theorem run_repeats {ω φ : Type} (writer : Writer ω) (disk : Disk φ) (sources : ShaderPair)
    (output : String) (w : ω) (files : φ) :
    let tools : Tools Canned ω φ := ⟨Canned.driver, writer, disk⟩
    let again := (tools.run sources output).run ⟨{ canned with shaders := old }, w, files⟩
    let first := (tools.run sources output).run ⟨{ canned with shaders := [] }, w, files⟩
    again.value = first.value ∧ written again.trail = written first.trail ∧
      again.state.writer = first.state.writer ∧ again.state.files = first.state.files ∧
      again.trail = first.trail.map (Event.renumbered (ShaderId.shifted old.length)) := by
  intro tools again first
  have himage : World.imaged (Canned.behind old) ⟨{ canned with shaders := [] }, w, files⟩ =
      (⟨{ canned with shaders := old }, w, files⟩ : World Canned ω φ) := by
    simp [World.imaged, Canned.behind]
  have hagain : again = ⟨first.value.map id,
      first.trail.map (Event.renumbered (ShaderId.shifted old.length)),
      World.imaged (Canned.behind old) first.state⟩ := by
    rw [← follows_run tools (Canned.renumbers_behind old) sources output, himage]
  rw [hagain, Except.map_id]
  exact ⟨rfl, written_map_renumbered _ _, rfl, rfl, rfl⟩

theorem link_repeats (vertex fragment : CompiledShader) (shaders : List Stage)
    (number : ShaderId → ShaderId) :
    let again := (link Canned.driver (vertex.renumbered number) (fragment.renumbered number)).run
      { canned with shaders := old }
    let first := (link Canned.driver vertex fragment).run { canned with shaders }
    again.value = first.value ∧ again.trail = first.trail.map (Event.renumbered number) := by
  intro again first
  have hagain := follows_link
    (fun call h ↦ Canned.renumbers_of_isOfProgram old number h) vertex fragment
    { canned with shaders }
  rw [Except.map_id] at hagain
  have hvalue := congrArg Ending.value hagain
  have htrail := congrArg Ending.trail hagain
  exact ⟨hvalue, htrail⟩

theorem extract_repeats (program : LinkedProgram) :
    let again := extract Canned.driver program { canned with shaders := old }
    let first := extract Canned.driver program { canned with shaders := [] }
    again.value = first.value ∧ again.trail = first.trail := by
  intro again first
  have hagain := follows_extract
    (fun call h ↦ Canned.renumbers_of_isOfProgram old id h) program { canned with shaders := [] }
  have hvalue := congrArg Ending.value hagain
  have htrail := congrArg Ending.trail hagain
  refine ⟨hvalue, htrail.trans ?_⟩
  rw [List.map_congr_left fun event _ ↦ event.renumbered_id]
  exact List.map_id' first.trail

end Next

/-- Whatever was done with a canned driver, in whatever order and with whatever end: a shader that
it created is where its number says, with its stage, and only such shaders are judged. What is done
next comes out as with a driver that has no past. A run ends with the same result, the same report
and the same files, and its calls are the same but that its shaders have as many numbers before them
as there are shaders already. A link and an extraction come to the same whatever numbers their
shaders have. -/
theorem canned_builds_repeat {ω φ ω' φ' : Type} (canned : Canned) (writer : Writer ω)
    (disk : Disk φ) (steps : List Workbench.Step) (w : ω) (files : φ) :
    let past := Workbench.performEach ⟨Canned.driver, writer, disk⟩ steps {} ⟨canned, w, files⟩
    let used := past.state.driver
    let unused : Canned := { canned with shaders := [] }
    (∀ before after, exchanges past.trail = before ++ after →
      ∃ s, canned.Remembers before s ∧ ∀ exchange ∈ after.head?, ∀ shader,
        exchange.call.judged? = some shader → shader.number < s.shaders.length) ∧
    canned.Remembers (exchanges past.trail) used ∧
    (∀ (writer' : Writer ω') (disk' : Disk φ') (sources : ShaderPair) (output : String) (w' : ω')
        (files' : φ'),
      let tools : Tools Canned ω' φ' := ⟨Canned.driver, writer', disk'⟩
      let again := (tools.run sources output).run ⟨used, w', files'⟩
      let first := (tools.run sources output).run ⟨unused, w', files'⟩
      again.value = first.value ∧ written again.trail = written first.trail ∧
        again.state.writer = first.state.writer ∧ again.state.files = first.state.files ∧
        again.trail = first.trail.map (Event.renumbered (ShaderId.shifted used.shaders.length))) ∧
    (∀ (vertex fragment : CompiledShader) (shaders : List Stage) (number : ShaderId → ShaderId),
      let again := (link Canned.driver (vertex.renumbered number)
        (fragment.renumbered number)).run used
      let first := (link Canned.driver vertex fragment).run { canned with shaders }
      again.value = first.value ∧ again.trail = first.trail.map (Event.renumbered number)) ∧
    ∀ program : LinkedProgram,
      let again := extract Canned.driver program used
      let first := extract Canned.driver program unused
      again.value = first.value ∧ again.trail = first.trail := by
  intro past used unused
  obtain ⟨hreplies, hjudges⟩ := Workbench.conductsOwn_performEach
    ⟨Canned.driver, writer, disk⟩ steps {} ⟨canned, w, files⟩
  have hused : canned.Remembers (exchanges past.trail) used := Canned.remembers_of_replies hreplies
  refine ⟨fun before after hsplit ↦ ?_, hused, fun writer' disk' sources output w' files' ↦ ?_,
    fun vertex fragment shaders number ↦ ?_, fun program ↦ ?_⟩
  · obtain ⟨s, hbefore, -⟩ := (hsplit ▸ hreplies).of_append
    have hremembers := Canned.remembers_of_replies hbefore
    refine ⟨s, hremembers, fun exchange hexchange shader hjudged ↦ ?_⟩
    obtain ⟨rest, rfl⟩ := List.head?_eq_some_iff.mp hexchange
    obtain ⟨stage, hcreated⟩ := hjudges before exchange rest hsplit shader hjudged
    exact (List.getElem?_eq_some_iff.mp (hremembers.stage_eq stage shader hcreated)).1
  · have hrun := run_repeats canned used.shaders writer' disk' sources output w' files'
    rwa [← hused.fields_eq] at hrun
  · have hlink := link_repeats canned used.shaders vertex fragment shaders number
    rwa [← hused.fields_eq] at hlink
  · have hextract := extract_repeats canned used.shaders program
    rwa [← hused.fields_eq] at hextract

end ShaderBuild
