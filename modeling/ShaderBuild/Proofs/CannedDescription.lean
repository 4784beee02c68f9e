import ShaderBuild.Proofs.DescribedBuild
import ShaderBuild.Proofs.LenientDecoding

/-!
The canned driver describes what it was given. It cuts names to the buffer it is asked to fill, but
the buffer of a build has room for the longest name, so nothing is cut; and it fills the buffer for
a binary with the whole payload, since the buffer has just that size.
-/

set_option autoImplicit false
set_option relaxedAutoImplicit false

namespace ShaderBuild.Canned

/-- The canned driver after it created some shaders. -/
def IsSteady (canned s : Canned) : Prop := ∃ shaders, s = { canned with shaders }

/-- The numbers of shaders tell their stages. There is one program, which is always linked. -/
def HasMade (s : Canned) : Made → Prop
  | .shader shader stage => s.shaders[shader.number]? = some stage
  | .compiled shader stage => s.shaders[shader.number]? = some stage
  | .program _ => True
  | .linked _ => True

variable {canned : Canned}

theorem keeps_self (shaders : List Stage) :
    Keeps canned.IsSteady HasMade { canned with shaders } { canned with shaders } :=
  .refl ⟨shaders, rfl⟩

theorem getElem?_append_of_eq_some {stages more : List Stage} {number : Nat} {stage : Stage}
    (h : stages[number]? = some stage) : (stages ++ more)[number]? = some stage := by
  obtain ⟨hlt, -⟩ := List.getElem?_eq_some_iff.mp h
  rw [List.getElem?_append_left hlt, h]

theorem keeps_append (shaders more : List Stage) :
    Keeps canned.IsSteady HasMade { canned with shaders }
      { canned with shaders := shaders ++ more } where
  steady := ⟨_, rfl⟩
  made fact hfact := by
    cases fact with
    | shader shader stage => exact getElem?_append_of_eq_some hfact
    | compiled shader stage => exact getElem?_append_of_eq_some hfact
    | program program => exact hfact
    | linked program => exact hfact

theorem verdictOf_eq {shaders : List Stage} {shader : ShaderId} {stage : Stage}
    (h : shaders[shader.number]? = some stage) :
    Canned.verdictOf { canned with shaders } shader = canned.verdict stage := by
  rw [verdictOf, h]
  cases stage <;> rfl

theorem nameInBuffer_of_lt {maxLength : Nat} {name : String} (h : name.utf8ByteSize < maxLength) :
    nameInBuffer maxLength name = name := by
  rw [nameInBuffer, nameBufferSize, if_neg (by omega)]
  exact Text.clip_of_le (by omega)

theorem fill_length (payload : Bytes) : fill payload payload.length = payload := by
  rw [fill, List.take_length, Nat.sub_self, List.replicate_zero, List.append_nil]

theorem describe_eq_variableAt (hcountable : canned.IsCountable) (interface : Interface)
    {index : Nat} (hindex : index < (canned.active interface).length) :
    canned.describe interface (.ofNat index) (maxNameLength (canned.active interface)) =
      canned.variableAt interface index := by
  have hnumber := hcountable.toNat_ofNat_index hindex
  have hroom := lt_maxNameLength (List.getElem_mem hindex)
  rw [describe, variableAt, hnumber, List.getElem?_eq_getElem hindex, Option.map_some,
    nameInBuffer_of_lt hroom]

/-- A canned driver with countable answers describes them. -/
def countableDescription (hcountable : canned.IsCountable) : driver.Description canned where
  steady := canned.IsSteady
  made := HasMade
  createShader stage s hs := by
    obtain ⟨shaders, rfl⟩ := hs
    have haccepted := hcountable.refusesObjects_eq_false
    refine ⟨⟨shaders.length⟩, ?_, ?_, ?_⟩
    · simp [driver, answer, haccepted]
    · have hkeeps := @keeps_append canned shaders [stage]
      simpa [driver, answer, haccepted] using hkeeps
    · simp [driver, answer, haccepted, HasMade]
  compileShader id stage source s hs hmade := by
    obtain ⟨shaders, rfl⟩ := hs
    exact ⟨keeps_self shaders, hmade⟩
  compileStatus id stage s hs hmade := by
    obtain ⟨shaders, rfl⟩ := hs
    exact ⟨congrArg Verdict.status (verdictOf_eq hmade), keeps_self shaders⟩
  shaderLog id stage s hs hmade := by
    obtain ⟨shaders, rfl⟩ := hs
    exact ⟨congrArg Verdict.infoLog (verdictOf_eq hmade), keeps_self shaders⟩
  createProgram s hs := by
    obtain ⟨shaders, rfl⟩ := hs
    have haccepted := hcountable.refusesObjects_eq_false
    refine ⟨⟨1⟩, ?_, keeps_self shaders, trivial⟩
    simp [driver, answer, haccepted]
  attachShader id shader s hs := by
    obtain ⟨shaders, rfl⟩ := hs
    exact keeps_self shaders
  linkProgram id s hs _ := by
    obtain ⟨shaders, rfl⟩ := hs
    exact ⟨keeps_self shaders, trivial⟩
  linkStatus id s hs _ := by
    obtain ⟨shaders, rfl⟩ := hs
    exact ⟨rfl, keeps_self shaders⟩
  parameter id code s hs _ _ := by
    obtain ⟨shaders, rfl⟩ := hs
    exact ⟨rfl, keeps_self shaders⟩
  programLog id s hs _ := by
    obtain ⟨shaders, rfl⟩ := hs
    exact ⟨rfl, keeps_self shaders⟩
  activeVariable interface id index maxLength s hs _ hindex hlongest := by
    obtain ⟨shaders, rfl⟩ := hs
    subst hlongest
    refine ⟨?_, keeps_self shaders⟩
    rw [← describe_eq_variableAt hcountable interface hindex]
    cases interface <;> rfl
  binary id length s hs _ hlength := by
    obtain ⟨shaders, rfl⟩ := hs
    subst hlength
    refine ⟨?_, keeps_self shaders⟩
    simp [driver, answer, fill_length]

/-- A regular canned driver describes its own answers. -/
def description (hregular : canned.IsRegular) : driver.Description canned :=
  countableDescription hregular.isCountable

end ShaderBuild.Canned
