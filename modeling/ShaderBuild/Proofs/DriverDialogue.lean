import Mathlib.Tactic.SplitIfs
import ShaderBuild.Build.Extract

/-!
What is said between a build and its driver. A trail shows every call together with its answer, so
the dialogue can be read off it, and `Driver.Replies` says that the answers in a dialogue are the
ones that the driver gives when it is asked just that. `Driver.Conducts` carries this through the
steps of an activity, whatever the driver answers, beside any other fact about its value and trail.
-/

set_option autoImplicit false
set_option relaxedAutoImplicit false

namespace ShaderBuild

variable {σ τ α β : Type}

/-- A call to a driver with the answer to it. -/
structure Exchange where
  call : Call
  answer : call.Answer

/-- The call and the answer that the event is. -/
def Event.exchange? : Event → Option Exchange
  | .asked call answer _ => some ⟨call, answer⟩
  | _ => none

/-- The calls of a trail with their answers, in order. -/
def exchanges (trail : List Event) : List Exchange := trail.filterMap Event.exchange?

@[simp]
theorem exchanges_nil : exchanges [] = [] := rfl

@[simp]
theorem exchanges_append (first rest : List Event) :
    exchanges (first ++ rest) = exchanges first ++ exchanges rest := List.filterMap_append

@[simp]
theorem exchanges_asked_cons (call : Call) (answer : call.Answer) (within : List Deed)
    (rest : List Event) :
    exchanges (.asked call answer within :: rest) = ⟨call, answer⟩ :: exchanges rest := rfl

@[simp]
theorem exchanges_logged_cons (record : Log.Record) (rest : List Event) :
    exchanges (.logged record :: rest) = exchanges rest := rfl

@[simp]
theorem exchanges_flushed_cons (result : Except IoError Unit) (rest : List Event) :
    exchanges (.flushed result :: rest) = exchanges rest := rfl

@[simp]
theorem exchanges_when_logged {condition : Prop} [Decidable condition] (record : Log.Record) :
    exchanges (if condition then [.logged record] else []) = [] := by
  split_ifs <;> rfl

@[simp]
theorem exchanges_unless_logged {condition : Prop} [Decidable condition] (record : Log.Record) :
    exchanges (if condition then [] else [.logged record]) = [] := by
  split_ifs <;> rfl

/-! ### Answers of a driver -/

/-- Asked the calls of the dialogue from state `s` on, the driver gives the answers of the dialogue
and is in state `t` in the end. -/
def Driver.Replies (driver : Driver σ) : σ → List Exchange → σ → Prop
  | s, [], t => s = t
  | s, ⟨call, answer⟩ :: rest, t =>
    (driver.answer call s).value = answer ∧
      driver.Replies (driver.answer call s).state rest t

theorem Driver.Replies.append {driver : Driver σ} {s t u : σ} {first rest : List Exchange}
    (hfirst : driver.Replies s first t) (hrest : driver.Replies t rest u) :
    driver.Replies s (first ++ rest) u := by
  induction first generalizing s with
  | nil =>
    rw [Driver.Replies] at hfirst
    exact hfirst ▸ hrest
  | cons exchange first ih => exact ⟨hfirst.1, ih hfirst.2⟩

/-! ### Activities that only the driver steers -/

/-- From every state, the calls of the activity are answered by the driver, which is the part `part`
of its state, and its value and its trail meet `spec`. -/
def Driver.Conducts (driver : Driver σ) (part : τ → σ) (m : Activity Event τ α)
    (spec : α → List Event → Prop) : Prop :=
  ∀ s, driver.Replies (part s) (exchanges (m s).trail) (part (m s).state) ∧
    spec (m s).value (m s).trail

variable {driver : Driver σ} {part : τ → σ}

theorem Driver.Conducts.apply {m : Activity Event σ α} {spec : α → List Event → Prop}
    (h : driver.Conducts id m spec) (s : σ) :
    driver.Replies s (exchanges (m s).trail) (m s).state ∧ spec (m s).value (m s).trail := h s

theorem Driver.Conducts.mono {m : Activity Event τ α} {spec spec' : α → List Event → Prop}
    (h : driver.Conducts part m spec) (hspec : ∀ a trail, spec a trail → spec' a trail) :
    driver.Conducts part m spec' :=
  fun s ↦ ⟨(h s).1, hspec _ _ (h s).2⟩

theorem conducts_pure {value : α} {spec : α → List Event → Prop} (h : spec value []) :
    driver.Conducts part (pure value) spec :=
  fun _ ↦ ⟨rfl, h⟩

theorem conducts_bind {m : Activity Event τ α} {next : α → Activity Event τ β}
    {middle : α → List Event → Prop} {spec : β → List Event → Prop}
    (hm : driver.Conducts part m middle)
    (hnext : ∀ a first, middle a first →
      driver.Conducts part (next a) fun b rest ↦ spec b (first ++ rest)) :
    driver.Conducts part (m >>= next) spec := by
  intro s
  have hfirst := hm s
  have hrest := hnext _ _ hfirst.2 (m s).state
  refine ⟨?_, hrest.2⟩
  simpa using hfirst.1.append hrest.1

theorem conducts_ask (call : Call) :
    driver.Conducts id (driver.ask call) fun answer trail ↦
      ∃ within, trail = [.asked call answer within] :=
  fun _ ↦ ⟨⟨rfl, rfl⟩, _, rfl⟩

theorem conducts_ask_bind {call : Call} {next : call.Answer → Activity Event σ β}
    {spec : β → List Event → Prop}
    (h : ∀ answer within, driver.Conducts id (next answer) fun b rest ↦
      spec b (.asked call answer within :: rest)) :
    driver.Conducts id (driver.ask call >>= next) spec :=
  fun s ↦
    have hnext := h _ (driver.answer call s).trail (driver.answer call s).state
    ⟨⟨rfl, hnext.1⟩, hnext.2⟩

theorem conducts_log_bind {record : Log.Record} {next : Unit → Activity Event σ β}
    {spec : β → List Event → Prop}
    (h : driver.Conducts id (next ()) fun b rest ↦ spec b (.logged record :: rest)) :
    driver.Conducts id (Event.log record >>= next) spec :=
  fun s ↦ h s

theorem conducts_unless_log_bind {condition : Prop} [Decidable condition] {record : Log.Record}
    {next : Activity Event σ β} {spec : β → List Event → Prop}
    (h : driver.Conducts id next fun b rest ↦
      spec b ((if condition then [] else [.logged record]) ++ rest)) :
    driver.Conducts id (if condition then next else Event.log record >>= fun _ ↦ next) spec := by
  split_ifs at h ⊢ with hcondition
  · exact h
  · exact conducts_log_bind h

/-! ### Attempts that only the driver steers -/

theorem conducts_run_bind {m : Attempt Event τ α} {next : α → Attempt Event τ β}
    {middle : Except Error α → List Event → Prop} {spec : Except Error β → List Event → Prop}
    (hm : driver.Conducts part m.run middle)
    (herror : ∀ error trail, middle (.error error) trail → spec (.error error) trail)
    (hnext : ∀ a first, middle (.ok a) first →
      driver.Conducts part (next a).run fun b rest ↦ spec b (first ++ rest)) :
    driver.Conducts part (m >>= next).run spec := by
  rw [ExceptT.run_bind]
  refine conducts_bind hm fun result first hfirst ↦ ?_
  cases result with
  | error error => exact conducts_pure (by simpa using herror error first hfirst)
  | ok a => exact hnext a first hfirst

theorem conducts_run_lift_bind {m : Activity Event τ α} {next : α → Attempt Event τ β}
    {middle : α → List Event → Prop} {spec : Except Error β → List Event → Prop}
    (hm : driver.Conducts part m middle)
    (hnext : ∀ a first, middle a first →
      driver.Conducts part (next a).run fun b rest ↦ spec b (first ++ rest)) :
    driver.Conducts part (ExceptT.lift m >>= next).run spec := by
  rw [ExceptT.run_bind_lift]
  exact conducts_bind hm hnext

theorem conducts_run_ask_bind {call : Call} {next : call.Answer → Attempt Event σ β}
    {spec : Except Error β → List Event → Prop}
    (h : ∀ answer within, driver.Conducts id (next answer).run fun b rest ↦
      spec b (.asked call answer within :: rest)) :
    driver.Conducts id (ExceptT.lift (driver.ask call) >>= next).run spec := by
  rw [ExceptT.run_bind_lift]
  exact conducts_ask_bind h

theorem conducts_run_log_bind {record : Log.Record} {next : Unit → Attempt Event σ β}
    {spec : Except Error β → List Event → Prop}
    (h : driver.Conducts id (next ()).run fun b rest ↦ spec b (.logged record :: rest)) :
    driver.Conducts id (ExceptT.lift (Event.log record) >>= next).run spec := by
  rw [ExceptT.run_bind_lift]
  exact conducts_log_bind h

theorem conducts_run_when_log_bind {condition : Prop} [Decidable condition] {record : Log.Record}
    {next : Attempt Event σ β} {spec : Except Error β → List Event → Prop}
    (h : driver.Conducts id next.run fun b rest ↦
      spec b ((if condition then [.logged record] else []) ++ rest)) :
    driver.Conducts id
      (ExceptT.run (if condition then ExceptT.lift (Event.log record) >>= fun _ ↦ next else next))
      spec := by
  split_ifs at h ⊢ with hcondition
  · exact conducts_run_log_bind h
  · exact h

theorem conducts_run_unless_log_bind {condition : Prop} [Decidable condition]
    {record : Log.Record} {next : Attempt Event σ β}
    {spec : Except Error β → List Event → Prop}
    (h : driver.Conducts id next.run fun b rest ↦
      spec b ((if condition then [] else [.logged record]) ++ rest)) :
    driver.Conducts id
      (ExceptT.run (if condition then next else ExceptT.lift (Event.log record) >>= fun _ ↦ next))
      spec := by
  split_ifs at h ⊢ with hcondition
  · exact h
  · exact conducts_run_log_bind h

end ShaderBuild
