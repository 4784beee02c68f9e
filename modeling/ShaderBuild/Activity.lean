/-!
Work done step by step on a world that answers back. An activity is a function of the state of its
world; it ends with a value, the trail of events it left, oldest first, and the new state. Trails
of successive activities are joined, so what an activity does can be read off its trail without
looking at what came before.
-/

set_option autoImplicit false
set_option relaxedAutoImplicit false

namespace ShaderBuild

/-- What an activity ends with. -/
@[ext]
structure Ending (ε σ α : Type) where
  value : α
  trail : List ε
  state : σ

/-- Work on a state `σ` that leaves a trail of events `ε` and yields a value. -/
def Activity (ε σ α : Type) : Type := σ → Ending ε σ α

namespace Activity

variable {ε σ τ : Type} {α β : Type}

instance : Monad (Activity ε σ) where
  pure a := fun s ↦ ⟨a, [], s⟩
  bind m next := fun s ↦
    let first := m s
    let second := next first.value first.state
    ⟨second.value, first.trail ++ second.trail, second.state⟩

@[ext]
theorem ext {m n : Activity ε σ α} (h : ∀ s, m s = n s) : m = n := funext h

@[simp]
theorem pure_apply (a : α) (s : σ) : (pure a : Activity ε σ α) s = ⟨a, [], s⟩ := rfl

@[simp]
theorem bind_apply (m : Activity ε σ α) (next : α → Activity ε σ β) (s : σ) :
    (m >>= next) s =
      ⟨(next (m s).value (m s).state).value,
        (m s).trail ++ (next (m s).value (m s).state).trail,
        (next (m s).value (m s).state).state⟩ := rfl

@[simp]
theorem map_apply (f : α → β) (m : Activity ε σ α) (s : σ) :
    (f <$> m) s = ⟨f (m s).value, (m s).trail, (m s).state⟩ := by
  show (m >>= fun a ↦ pure (f a)) s = _
  simp

instance : LawfulMonad (Activity ε σ) :=
  LawfulMonad.mk' (Activity ε σ)
    (fun m ↦ ext fun s ↦ by simp)
    (fun a next ↦ ext fun s ↦ by simp)
    (fun m next last ↦ ext fun s ↦ by simp)

/-- Leaves one event. -/
def emit (event : ε) : Activity ε σ Unit := fun s ↦ ⟨(), [event], s⟩

@[simp]
theorem emit_apply (event : ε) (s : σ) : emit event s = ⟨(), [event], s⟩ := rfl

/-- The same work on a part of a larger state; the rest of that state stays as it is. -/
def onPart (part : τ → σ) (replace : τ → σ → τ) (m : Activity ε σ α) : Activity ε τ α := fun t ↦
  let ending := m (part t)
  ⟨ending.value, ending.trail, replace t ending.state⟩

@[simp]
theorem onPart_apply (part : τ → σ) (replace : τ → σ → τ) (m : Activity ε σ α) (t : τ) :
    onPart part replace m t =
      ⟨(m (part t)).value, (m (part t)).trail, replace t (m (part t)).state⟩ := rfl

/-- The same work with every event of its trail seen through `view`. -/
def mapTrail {δ : Type} (view : ε → δ) (m : Activity ε σ α) : Activity δ σ α := fun s ↦
  let ending := m s
  ⟨ending.value, ending.trail.map view, ending.state⟩

end Activity

end ShaderBuild
