import Mathlib.Tactic.SplitIfs
import ShaderBuild.Event
import ShaderBuild.Gl.Query

/-!
What is said between this library and a machine. A trail of deeds shows every GL call and every EGL
request together with its answer, and `Machine.Performs` says that these are the answers that the
machine gives when just that is done, one after the other. `Machine.Conducts` carries this through
the steps of an activity, whatever the machine answers, beside any other fact about its value and
trail; `Machine.Backs` does the same for a build whose driver works on that machine.
-/

set_option autoImplicit false
set_option relaxedAutoImplicit false

namespace ShaderBuild.Machine

variable {γ α β : Type}

/-- Done from state `s` on, each call and request among the deeds is answered as it stands there,
and the machine is in state `t` in the end. -/
def Performs (machine : Machine γ) : γ → List Deed → γ → Prop
  | s, [], t => s = t
  | s, .gl call answer :: rest, t =>
    (machine.gl.answer call s).1 = answer ∧ machine.Performs (machine.gl.answer call s).2 rest t
  | s, .egl request answer :: rest, t =>
    (machine.egl.answer request s).1 = answer ∧
      machine.Performs (machine.egl.answer request s).2 rest t
  | s, .logged _ :: rest, t => machine.Performs s rest t

theorem Performs.append {machine : Machine γ} {s t u : γ} {first rest : List Deed}
    (hfirst : machine.Performs s first t) (hrest : machine.Performs t rest u) :
    machine.Performs s (first ++ rest) u := by
  induction first generalizing s with
  | nil =>
    rw [Performs] at hfirst
    exact hfirst ▸ hrest
  | cons deed first ih =>
    cases deed with
    | gl call answer => exact ⟨hfirst.1, ih hfirst.2⟩
    | egl request answer => exact ⟨hfirst.1, ih hfirst.2⟩
    | logged record => exact ih (s := s) hfirst

/-! ### Activities that only the machine steers -/

/-- From every state, what the activity does is answered by the machine, and its value and its trail
meet `spec`. -/
def Conducts (machine : Machine γ) (m : Activity Deed γ α) (spec : α → List Deed → Prop) : Prop :=
  ∀ s, machine.Performs s (m s).trail (m s).state ∧ spec (m s).value (m s).trail

variable {machine : Machine γ}

theorem Conducts.mono {m : Activity Deed γ α} {spec spec' : α → List Deed → Prop}
    (h : machine.Conducts m spec) (hspec : ∀ a trail, spec a trail → spec' a trail) :
    machine.Conducts m spec' :=
  fun s ↦ ⟨(h s).1, hspec _ _ (h s).2⟩

theorem conducts_pure {value : α} {spec : α → List Deed → Prop} (h : spec value []) :
    machine.Conducts (pure value) spec :=
  fun _ ↦ ⟨rfl, h⟩

theorem conducts_bind {m : Activity Deed γ α} {next : α → Activity Deed γ β}
    {middle : α → List Deed → Prop} {spec : β → List Deed → Prop}
    (hm : machine.Conducts m middle)
    (hnext : ∀ a first, middle a first →
      machine.Conducts (next a) fun b rest ↦ spec b (first ++ rest)) :
    machine.Conducts (m >>= next) spec := by
  intro s
  have hfirst := hm s
  have hrest := hnext _ _ hfirst.2 (m s).state
  exact ⟨hfirst.1.append hrest.1, hrest.2⟩

theorem conducts_gl (call : Gl.Call) :
    machine.Conducts (machine.gl.ask call) fun answer trail ↦ trail = [.gl call answer] :=
  fun _ ↦ ⟨⟨rfl, rfl⟩, rfl⟩

theorem conducts_egl (request : Egl.Request) :
    machine.Conducts (machine.egl.ask request) fun answer trail ↦
      trail = [.egl request answer] :=
  fun _ ↦ ⟨⟨rfl, rfl⟩, rfl⟩

theorem conducts_log (record : Log.Record) :
    machine.Conducts (Deed.log record) fun _ trail ↦ trail = [.logged record] :=
  fun _ ↦ ⟨rfl, rfl⟩

theorem conducts_gl_bind {call : Gl.Call} {next : call.Answer → Activity Deed γ β}
    {spec : β → List Deed → Prop}
    (h : ∀ answer, machine.Conducts (next answer) fun b rest ↦ spec b (.gl call answer :: rest)) :
    machine.Conducts (machine.gl.ask call >>= next) spec :=
  conducts_bind (conducts_gl call) fun answer _ hfirst ↦ hfirst ▸ h answer

theorem conducts_log_bind {record : Log.Record} {next : Unit → Activity Deed γ β}
    {spec : β → List Deed → Prop}
    (h : machine.Conducts (next ()) fun b rest ↦ spec b (.logged record :: rest)) :
    machine.Conducts (Deed.log record >>= next) spec :=
  conducts_bind (conducts_log record) fun _ _ hfirst ↦ hfirst ▸ h

/-! ### Attempts that only the machine steers -/

theorem conducts_run_bind {m : Attempt Deed γ α} {next : α → Attempt Deed γ β}
    {middle : Except Error α → List Deed → Prop} {spec : Except Error β → List Deed → Prop}
    (hm : machine.Conducts m.run middle)
    (herror : ∀ error trail, middle (.error error) trail → spec (.error error) trail)
    (hnext : ∀ a first, middle (.ok a) first →
      machine.Conducts (next a).run fun b rest ↦ spec b (first ++ rest)) :
    machine.Conducts (m >>= next).run spec := by
  rw [ExceptT.run_bind]
  refine conducts_bind hm fun result first hfirst ↦ ?_
  cases result with
  | error error => exact conducts_pure (by simpa using herror error first hfirst)
  | ok a => exact hnext a first hfirst

theorem conducts_run_mk_bind {result : Except Error α} {next : α → Attempt Deed γ β}
    {spec : Except Error β → List Deed → Prop}
    (herror : ∀ error, result = .error error → spec (.error error) [])
    (hnext : ∀ a, result = .ok a → machine.Conducts (next a).run spec) :
    machine.Conducts (ExceptT.mk (pure result) >>= next).run spec := by
  cases result with
  | error error => exact conducts_pure (herror error rfl)
  | ok a => exact hnext a rfl

theorem conducts_run_lift_bind {m : Activity Deed γ α} {next : α → Attempt Deed γ β}
    {middle : α → List Deed → Prop} {spec : Except Error β → List Deed → Prop}
    (hm : machine.Conducts m middle)
    (hnext : ∀ a first, middle a first →
      machine.Conducts (next a).run fun b rest ↦ spec b (first ++ rest)) :
    machine.Conducts (ExceptT.lift m >>= next).run spec := by
  rw [ExceptT.run_bind_lift]
  exact conducts_bind hm hnext

theorem conducts_run_gl_bind {call : Gl.Call} {next : call.Answer → Attempt Deed γ β}
    {spec : Except Error β → List Deed → Prop}
    (h : ∀ answer, machine.Conducts (next answer).run fun b rest ↦
      spec b (.gl call answer :: rest)) :
    machine.Conducts (ExceptT.lift (machine.gl.ask call) >>= next).run spec :=
  conducts_run_lift_bind (conducts_gl call) fun answer _ hfirst ↦ hfirst ▸ h answer

theorem conducts_run_egl_bind {request : Egl.Request} {next : request.Answer → Attempt Deed γ β}
    {spec : Except Error β → List Deed → Prop}
    (h : ∀ answer, machine.Conducts (next answer).run fun b rest ↦
      spec b (.egl request answer :: rest)) :
    machine.Conducts (ExceptT.lift (machine.egl.ask request) >>= next).run spec :=
  conducts_run_lift_bind (conducts_egl request) fun answer _ hfirst ↦ hfirst ▸ h answer

theorem conducts_run_log_bind {record : Log.Record} {next : Unit → Attempt Deed γ β}
    {spec : Except Error β → List Deed → Prop}
    (h : machine.Conducts (next ()).run fun b rest ↦ spec b (.logged record :: rest)) :
    machine.Conducts (ExceptT.lift (Deed.log record) >>= next).run spec :=
  conducts_run_lift_bind (conducts_log record) fun _ _ hfirst ↦ hfirst ▸ h

/-! ### Builds that only the machine steers -/

/-- From every state, whatever is done within the events of the activity is answered by the machine,
and its value and its trail meet `spec`. -/
def Backs (machine : Machine γ) (m : Activity Event γ α) (spec : α → List Event → Prop) : Prop :=
  ∀ s, machine.Performs s ((m s).trail.flatMap Event.deeds) (m s).state ∧
    spec (m s).value (m s).trail

theorem Backs.mono {m : Activity Event γ α} {spec spec' : α → List Event → Prop}
    (h : machine.Backs m spec) (hspec : ∀ a trail, spec a trail → spec' a trail) :
    machine.Backs m spec' :=
  fun s ↦ ⟨(h s).1, hspec _ _ (h s).2⟩

theorem backs_pure {value : α} {spec : α → List Event → Prop} (h : spec value []) :
    machine.Backs (pure value) spec :=
  fun _ ↦ ⟨rfl, h⟩

theorem backs_bind {m : Activity Event γ α} {next : α → Activity Event γ β}
    {middle : α → List Event → Prop} {spec : β → List Event → Prop}
    (hm : machine.Backs m middle)
    (hnext : ∀ a first, middle a first →
      machine.Backs (next a) fun b rest ↦ spec b (first ++ rest)) :
    machine.Backs (m >>= next) spec := by
  intro s
  have hfirst := hm s
  have hrest := hnext _ _ hfirst.2 (m s).state
  refine ⟨?_, hrest.2⟩
  rw [Activity.bind_apply, List.flatMap_append]
  exact hfirst.1.append hrest.1

theorem backs_log_bind {record : Log.Record} {next : Unit → Activity Event γ β}
    {spec : β → List Event → Prop}
    (h : machine.Backs (next ()) fun b rest ↦ spec b (.logged record :: rest)) :
    machine.Backs (Event.log record >>= next) spec :=
  fun s ↦ h s

theorem backs_unless_log_bind {condition : Prop} [Decidable condition] {record : Log.Record}
    {next : Activity Event γ β} {spec : β → List Event → Prop}
    (h : machine.Backs next fun b rest ↦
      spec b ((if condition then [] else [.logged record]) ++ rest)) :
    machine.Backs (if condition then next else Event.log record >>= fun _ ↦ next) spec := by
  split_ifs at h ⊢ with hcondition
  · exact h
  · exact backs_log_bind h

/-- A call to a driver does what the driver does for it. -/
theorem backs_ask_bind {driver : Driver γ} {call : Call} {next : call.Answer → Activity Event γ β}
    {middle : call.Answer → List Deed → Prop} {spec : β → List Event → Prop}
    (hcall : machine.Conducts (driver.answer call) middle)
    (hnext : ∀ answer within, middle answer within →
      machine.Backs (next answer) fun b rest ↦ spec b (.asked call answer within :: rest)) :
    machine.Backs (driver.ask call >>= next) spec := by
  intro s
  have hfirst := hcall s
  have hrest := hnext _ _ hfirst.2 (driver.answer call s).state
  exact ⟨hfirst.1.append hrest.1, hrest.2⟩

end ShaderBuild.Machine
