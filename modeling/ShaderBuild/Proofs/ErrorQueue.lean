import ShaderBuild.Gl.Query

/-!
Errors that wait in GL. An implementation keeps the errors that calls raised until somebody asks for
them, and hands out one at a time, in an order of its own. Discarding takes away as many as it asks
for. A checked query is rejected if its call raised an error (`checked_value_of_raised_ne_nil`) or
if more waited than can be discarded (`checked_value_of_lt_pending`), and else accepted.
-/

set_option autoImplicit false
set_option relaxedAutoImplicit false

namespace ShaderBuild.Gl

variable {γ α : Type}

@[simp]
theorem Implementation.ask_apply (gl : Implementation γ) (call : Call) (s : γ) :
    gl.ask call s =
      ⟨(gl.answer call s).1, [.gl call (gl.answer call s).1], (gl.answer call s).2⟩ := rfl

theorem discardErrors_of_noError {gl : Implementation γ} {s : γ} (count : Nat)
    (h : (gl.answer .getError s).1 = .noError) :
    discardErrors gl (count + 1) s =
      ⟨(), [.gl .getError (gl.answer .getError s).1], (gl.answer .getError s).2⟩ := by
  rw [discardErrors, Activity.bind_apply]
  simp [h]

theorem discardErrors_of_error {gl : Implementation γ} {s : γ} (count : Nat)
    (h : (gl.answer .getError s).1 ≠ .noError) :
    discardErrors gl (count + 1) s =
      let rest := discardErrors gl count (gl.answer .getError s).2
      ⟨(), .gl .getError (gl.answer .getError s).1 ::
        .logged (.errorDiscarded (gl.answer .getError s).1) :: rest.trail, rest.state⟩ := by
  rw [discardErrors, Activity.bind_apply]
  simp [h, Deed.log]

/-- The GL calls among the deeds, in order. -/
def calls (deeds : List Deed) : List Call :=
  deeds.filterMap fun
    | .gl call _ => some call
    | _ => none

/-- On a lost context there is always one more error to discard. -/
theorem calls_discardErrors_of_lost {gl : Implementation γ}
    (hlost : ∀ s, (gl.answer .getError s).1 ≠ .noError) (count : Nat) (s : γ) :
    calls (discardErrors gl count s).trail = List.replicate count .getError := by
  induction count generalizing s with
  | zero => rfl
  | succ count ih =>
    rw [discardErrors_of_error count (hlost s), List.replicate_succ, ← ih (gl.answer .getError s).2]
    rfl

/-- The errors that wait in an implementation, and those that a call makes wait. -/
structure ErrorQueue (gl : Implementation γ) where
  pending : γ → List Code
  raised : Call → γ → List Code
  /-- `noError` is no error. -/
  noError_not_mem : ∀ s, Code.noError ∉ pending s
  getError_of_nil : ∀ s, pending s = [] →
    (gl.answer .getError s).1 = .noError ∧ pending (gl.answer .getError s).2 = []
  /-- Any of the errors that wait may be handed out. -/
  getError_of_ne_nil : ∀ s, pending s ≠ [] →
    (pending s).Perm ((gl.answer .getError s).1 :: pending (gl.answer .getError s).2)
  answer_perm : ∀ call s, call ≠ .getError →
    (pending (gl.answer call s).2).Perm (pending s ++ raised call s)

namespace ErrorQueue

variable {gl : Implementation γ}

theorem getError_eq_noError_iff (queue : ErrorQueue gl) (s : γ) :
    (gl.answer .getError s).1 = .noError ↔ queue.pending s = [] := by
  refine ⟨fun hcode ↦ ?_, fun hnil ↦ (queue.getError_of_nil s hnil).1⟩
  by_cases hnil : queue.pending s = []
  · exact hnil
  · have hmem := (queue.getError_of_ne_nil s hnil).mem_iff.mpr List.mem_cons_self
    rw [hcode] at hmem
    exact absurd hmem (queue.noError_not_mem s)

theorem length_pending_getError (queue : ErrorQueue gl) (s : γ) :
    (queue.pending (gl.answer .getError s).2).length = (queue.pending s).length - 1 := by
  by_cases hnil : queue.pending s = []
  · rw [hnil, (queue.getError_of_nil s hnil).2]
    rfl
  · rw [(queue.getError_of_ne_nil s hnil).length_eq, List.length_cons, Nat.add_sub_cancel]

theorem length_pending_answer (queue : ErrorQueue gl) {call : Call} (hcall : call ≠ .getError)
    (s : γ) :
    (queue.pending (gl.answer call s).2).length =
      (queue.pending s).length + (queue.raised call s).length := by
  rw [(queue.answer_perm call s hcall).length_eq, List.length_append]

theorem length_pending_discardErrors (queue : ErrorQueue gl) (count : Nat) (s : γ) :
    (queue.pending (discardErrors gl count s).state).length =
      (queue.pending s).length - count := by
  induction count generalizing s with
  | zero => rfl
  | succ count ih =>
    have htaken := queue.length_pending_getError s
    by_cases hcode : (gl.answer .getError s).1 = .noError
    · have hnone := congrArg List.length ((queue.getError_eq_noError_iff s).mp hcode)
      rw [List.length_nil] at hnone
      rw [discardErrors_of_noError count hcode]
      show (queue.pending (gl.answer .getError s).2).length = _
      omega
    · rw [discardErrors_of_error count hcode]
      show (queue.pending (discardErrors gl count (gl.answer .getError s).2).state).length = _
      rw [ih]
      omega

end ErrorQueue

/-! ### Queries that are checked -/

/-- Makes a call between discarding what waits and asking whether it failed. -/
def checked (gl : Implementation γ) (call : Call) (accepted : call.Answer → α) (rejected : α)
    (failed : Code → Log.Record) : Activity Deed γ α := do
  discardErrors gl maxPending
  let answer ← gl.ask call
  let code ← gl.ask .getError
  if code = .noError then
    return accepted answer
  else
    Deed.log (failed code)
    return rejected

/-- The state that the call of a checked query is made in. -/
def settled (gl : Implementation γ) (s : γ) : γ := (discardErrors gl maxPending s).state

section Checked

variable {gl : Implementation γ} {call : Call} {accepted : call.Answer → α} {rejected : α}
  {failed : Code → Log.Record} {s : γ}

theorem checked_value_of_noError
    (h : (gl.answer .getError (gl.answer call (settled gl s)).2).1 = .noError) :
    (checked gl call accepted rejected failed s).value =
      accepted (gl.answer call (settled gl s)).1 := by
  simp only [settled] at h
  simp [checked, settled, h]

theorem checked_value_of_error
    (h : (gl.answer .getError (gl.answer call (settled gl s)).2).1 ≠ .noError) :
    (checked gl call accepted rejected failed s).value = rejected := by
  simp only [settled] at h
  simp [checked, h]

theorem checked_trail_of_error
    (h : (gl.answer .getError (gl.answer call (settled gl s)).2).1 ≠ .noError) :
    ∃ answer code, (checked gl call accepted rejected failed s).trail =
      (discardErrors gl maxPending s).trail ++
        [.gl call answer, .gl .getError code, .logged (failed code)] := by
  simp only [settled] at h
  refine ⟨(gl.answer call (settled gl s)).1,
    (gl.answer .getError (gl.answer call (settled gl s)).2).1, ?_⟩
  simp [checked, settled, h, Deed.log]

theorem checked_state :
    (checked gl call accepted rejected failed s).state =
      (gl.answer .getError (gl.answer call (settled gl s)).2).2 := by
  by_cases h : (gl.answer .getError (gl.answer call (settled gl s)).2).1 = .noError <;>
    · simp only [settled] at h
      simp [checked, settled, h, Deed.log]

namespace ErrorQueue

theorem pending_settled_eq_nil (queue : ErrorQueue gl) (h : (queue.pending s).length ≤ maxPending) :
    queue.pending (settled gl s) = [] := by
  refine List.eq_nil_of_length_eq_zero ?_
  rw [settled, length_pending_discardErrors]
  omega

theorem checked_value_of_raised_eq_nil (queue : ErrorQueue gl) (hcall : call ≠ .getError)
    (hpending : (queue.pending s).length ≤ maxPending)
    (hraised : queue.raised call (settled gl s) = []) :
    (checked gl call accepted rejected failed s).value =
      accepted (gl.answer call (settled gl s)).1 := by
  refine checked_value_of_noError ((queue.getError_eq_noError_iff _).mpr ?_)
  refine List.eq_nil_of_length_eq_zero ?_
  rw [queue.length_pending_answer hcall, queue.pending_settled_eq_nil hpending, hraised]
  rfl

/-- With an error of its own a query is rejected, however many errors waited before. -/
theorem checked_value_of_raised_ne_nil (queue : ErrorQueue gl) (hcall : call ≠ .getError)
    (hraised : queue.raised call (settled gl s) ≠ []) :
    (checked gl call accepted rejected failed s).value = rejected := by
  refine checked_value_of_error fun hcode ↦ ?_
  have hnone := congrArg List.length ((queue.getError_eq_noError_iff _).mp hcode)
  rw [queue.length_pending_answer hcall, List.length_nil] at hnone
  have hpos := List.length_pos_iff.mpr hraised
  omega

/-- Where too many errors wait to be discarded, one is left for the query. -/
theorem checked_value_of_lt_pending (queue : ErrorQueue gl) (hcall : call ≠ .getError)
    (hpending : maxPending < (queue.pending s).length) :
    (checked gl call accepted rejected failed s).value = rejected := by
  refine checked_value_of_error fun hcode ↦ ?_
  have hnone := congrArg List.length ((queue.getError_eq_noError_iff _).mp hcode)
  rw [queue.length_pending_answer hcall, List.length_nil, settled,
    length_pending_discardErrors] at hnone
  omega

/-- The errors that a query leaves behind are those it raised itself, less the one it was told. -/
theorem length_pending_checked (queue : ErrorQueue gl) (hcall : call ≠ .getError)
    (hpending : (queue.pending s).length ≤ maxPending) :
    (queue.pending (checked gl call accepted rejected failed s).state).length =
      (queue.raised call (settled gl s)).length - 1 := by
  rw [checked_state, length_pending_getError, queue.length_pending_answer hcall,
    queue.pending_settled_eq_nil hpending, List.length_nil, Nat.zero_add]

end ErrorQueue

end Checked

end ShaderBuild.Gl
