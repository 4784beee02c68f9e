import ShaderBuild.Activity
import ShaderBuild.Error

/-!
Activities that an error may end early. What was done up to the error stays in the trail and in the
state: nothing is taken back.
-/

set_option autoImplicit false
set_option relaxedAutoImplicit false

namespace ShaderBuild

/-- An activity that yields a value or ends with an error. -/
abbrev Attempt (ε σ α : Type) : Type := ExceptT Error (Activity ε σ) α

namespace Attempt

variable {ε σ α β : Type}

@[simp]
theorem run_lift_apply (m : Activity ε σ α) (s : σ) :
    (ExceptT.lift m : Attempt ε σ α).run s = ⟨.ok (m s).value, (m s).trail, (m s).state⟩ := by
  show (Except.ok <$> m) s = _
  simp

theorem run_bind_of_ok {m : Attempt ε σ α} {s : σ} {a : α} (next : α → Attempt ε σ β)
    (h : (m.run s).value = .ok a) :
    (m >>= next).run s =
      ⟨((next a).run (m.run s).state).value,
        (m.run s).trail ++ ((next a).run (m.run s).state).trail,
        ((next a).run (m.run s).state).state⟩ := by
  simp [ExceptT.run_bind, h]

theorem run_bind_of_error {m : Attempt ε σ α} {s : σ} {error : Error}
    (next : α → Attempt ε σ β) (h : (m.run s).value = .error error) :
    (m >>= next).run s = ⟨.error error, (m.run s).trail, (m.run s).state⟩ := by
  simp [ExceptT.run_bind, h]

end Attempt

end ShaderBuild
