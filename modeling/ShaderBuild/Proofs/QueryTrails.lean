import Mathlib.Tactic.SplitIfs
import ShaderBuild.Proofs.MachineDialogue
import ShaderBuild.Proofs.QueryIsolation

/-!
The trails of GL queries. For every machine, what a query and the search for its functions leave is
laid out by what the machine answered: which functions were asked for and in which order, how many
errors were discarded, which call was made, and what was logged between them.
-/

set_option autoImplicit false
set_option relaxedAutoImplicit false

namespace ShaderBuild.Gl

variable {γ α : Type} {machine : Machine γ}

/-! ### Checked queries -/

/-- The trail of discarding at most `count` errors. -/
inductive DiscardTrail : (count : Nat) → List Deed → Prop
  | exhausted : DiscardTrail 0 []
  | clear (count : Nat) : DiscardTrail (count + 1) [.gl .getError .noError]
  | discarded (count : Nat) (code : Code) (rest : List Deed) (hcode : code ≠ .noError)
      (hrest : DiscardTrail count rest) :
    DiscardTrail (count + 1) (.gl .getError code :: .logged (.errorDiscarded code) :: rest)

theorem conducts_discardErrors (count : Nat) :
    machine.Conducts (discardErrors machine.gl count) fun _ trail ↦ DiscardTrail count trail := by
  induction count with
  | zero => exact Machine.conducts_pure .exhausted
  | succ count ih =>
    unfold discardErrors
    refine Machine.conducts_gl_bind fun code ↦ ?_
    split_ifs with hcode
    · subst hcode
      exact Machine.conducts_pure (.clear count)
    · exact Machine.conducts_log_bind (ih.mono fun _ rest hrest ↦
        .discarded count code rest hcode hrest)

/-- What a checked query replies, and its trail. -/
inductive CheckedTrail (call : Call) (accepted : call.Answer → α) (rejected : α)
    (failed : Code → Log.Record) : α → List Deed → Prop
  | accepted (discarded : List Deed) (hdiscarded : DiscardTrail maxPending discarded)
      (answer : call.Answer) :
    CheckedTrail call accepted rejected failed (accepted answer)
      (discarded ++ [.gl call answer, .gl .getError .noError])
  | rejected (discarded : List Deed) (hdiscarded : DiscardTrail maxPending discarded)
      (answer : call.Answer) (code : Code) (hcode : code ≠ .noError) :
    CheckedTrail call accepted rejected failed rejected
      (discarded ++ [.gl call answer, .gl .getError code, .logged (failed code)])

theorem conducts_checked (call : Call) (accepted : call.Answer → α) (rejected : α)
    (failed : Code → Log.Record) :
    machine.Conducts (checked machine.gl call accepted rejected failed)
      (CheckedTrail call accepted rejected failed) := by
  unfold checked
  refine Machine.conducts_bind (conducts_discardErrors maxPending) fun _ discarded hdiscarded ↦ ?_
  refine Machine.conducts_gl_bind fun answer ↦ Machine.conducts_gl_bind fun code ↦ ?_
  split_ifs with hcode
  · subst hcode
    exact Machine.conducts_pure (.accepted discarded hdiscarded answer)
  · exact Machine.conducts_log_bind
      (Machine.conducts_pure (.rejected discarded hdiscarded answer code hcode))

/-! ### The search for functions -/

/-- A function that the loader has. -/
def offered (name : String) : Deed := .gl (.findFunction name) true

/-- A function that the loader does not have. -/
def withheld (name : String) : Deed := .gl (.findFunction name) false

/-- The trail of looking for functions that must all be there. The first that is not ends the
search. -/
inductive RequireTrail : List String → Except Error Unit → List Deed → Prop
  | complete : RequireTrail [] (.ok ()) []
  | missing (name : String) (rest : List String) :
    RequireTrail (name :: rest) (.error (.context (.missingFunction name) none)) [withheld name]
  | present (name : String) (rest : List String) (result : Except Error Unit) (later : List Deed)
      (hlater : RequireTrail rest result later) :
    RequireTrail (name :: rest) result (offered name :: later)

theorem conducts_require (names : List String) :
    machine.Conducts (Functions.require machine.gl names).run (RequireTrail names) := by
  induction names with
  | nil => exact Machine.conducts_pure .complete
  | cons name rest ih =>
    unfold Functions.require
    refine Machine.conducts_run_gl_bind fun found ↦ ?_
    cases found with
    | true => exact ih.mono fun result later hlater ↦ .present name rest result later hlater
    | false => exact Machine.conducts_pure (.missing name rest)

/-- The function for binaries that was found for a context of version `major`, and the trail of
looking for it. The core function is asked for from version 3 on only, and then first. -/
inductive BinarySearchTrail (major : Nat) : Option BinaryFunction → List Deed → Prop
  | core (hmajor : 3 ≤ major) :
    BinarySearchTrail major (some .core)
      [offered "glGetProgramBinary", .logged (.binariesThrough "glGetProgramBinary")]
  | oes (hmajor : 3 ≤ major) :
    BinarySearchTrail major (some .oes)
      [withheld "glGetProgramBinary", offered "glGetProgramBinaryOES",
        .logged (.binariesThrough "glGetProgramBinaryOES")]
  | neither (hmajor : 3 ≤ major) :
    BinarySearchTrail major none
      [withheld "glGetProgramBinary", withheld "glGetProgramBinaryOES", .logged .noBinaryFunction]
  | onlyOes (hmajor : major < 3) :
    BinarySearchTrail major (some .oes)
      [offered "glGetProgramBinaryOES", .logged (.binariesThrough "glGetProgramBinaryOES")]
  | notEvenOes (hmajor : major < 3) :
    BinarySearchTrail major none [withheld "glGetProgramBinaryOES", .logged .noBinaryFunction]

theorem conducts_firstFound_nil {spec : Option BinaryFunction → List Deed → Prop}
    (h : spec none [.logged .noBinaryFunction]) :
    machine.Conducts (Functions.firstFound machine.gl []) spec :=
  Machine.conducts_log_bind (Machine.conducts_pure h)

theorem conducts_firstFound_cons {function : BinaryFunction} {rest : List BinaryFunction}
    {spec : Option BinaryFunction → List Deed → Prop}
    (hfound : spec (some function)
      [offered function.name, .logged (.binariesThrough function.name)])
    (hlater : machine.Conducts (Functions.firstFound machine.gl rest) fun found later ↦
      spec found (withheld function.name :: later)) :
    machine.Conducts (Functions.firstFound machine.gl (function :: rest)) spec := by
  unfold Functions.firstFound
  refine Machine.conducts_gl_bind fun found ↦ ?_
  cases found with
  | true => exact Machine.conducts_log_bind (Machine.conducts_pure hfound)
  | false => exact hlater

theorem conducts_firstFound_binaryFunctions (major : Nat) :
    machine.Conducts (Functions.firstFound machine.gl (binaryFunctions major))
      (BinarySearchTrail major) := by
  unfold binaryFunctions
  split_ifs with hmajor
  · exact conducts_firstFound_cons (.core hmajor)
      (conducts_firstFound_cons (.oes hmajor) (conducts_firstFound_nil (.neither hmajor)))
  · have hold : major < 3 := Nat.lt_of_not_le hmajor
    exact conducts_firstFound_cons (.onlyOes hold) (conducts_firstFound_nil (.notEvenOes hold))

/-- The functions that were found for a context of version `major`, and the trail of finding them.
-/
inductive FindTrail (major : Nat) : Except Error Functions → List Deed → Prop
  | missing (error : Error) (required : List Deed)
      (hrequired : RequireTrail requiredFunctions (.error error) required) :
    FindTrail major (.error error) required
  | found (binary : Option BinaryFunction) (required searched : List Deed)
      (hrequired : RequireTrail requiredFunctions (.ok ()) required)
      (hsearched : BinarySearchTrail major binary searched) :
    FindTrail major (.ok { binary }) (required ++ searched)

theorem conducts_find (major : Nat) :
    machine.Conducts (Functions.find machine.gl major).run (FindTrail major) := by
  unfold Functions.find
  refine Machine.conducts_run_bind (conducts_require requiredFunctions)
    (fun error required hrequired ↦ .missing error required hrequired) fun _ required hrequired ↦ ?_
  refine Machine.conducts_run_lift_bind (conducts_firstFound_binaryFunctions major)
    fun binary searched hsearched ↦ Machine.conducts_pure ?_
  rw [List.append_nil]
  exact .found binary required searched hrequired hsearched

/-- A complete search found every function. -/
theorem RequireTrail.eq_of_ok {names : List String} {trail : List Deed}
    (h : RequireTrail names (.ok ()) trail) : trail = names.map offered := by
  generalize hresult : (.ok () : Except Error Unit) = result at h
  induction h with
  | complete => rfl
  | missing name rest => cases hresult
  | present name rest result later hlater ih => rw [ih hresult, List.map_cons]

/-- A search that is not complete lacks one of the functions. -/
theorem RequireTrail.exists_missing {names : List String} {error : Error} {trail : List Deed}
    (h : RequireTrail names (.error error) trail) :
    ∃ name ∈ names, error = .context (.missingFunction name) none := by
  generalize hresult : (.error error : Except Error Unit) = result at h
  induction h with
  | complete => cases hresult
  | missing name rest =>
    cases hresult
    exact ⟨name, List.mem_cons_self, rfl⟩
  | present name rest result later hlater ih =>
    obtain ⟨missing, hmissing, herror⟩ := ih hresult
    exact ⟨missing, List.mem_cons_of_mem name hmissing, herror⟩

end ShaderBuild.Gl
