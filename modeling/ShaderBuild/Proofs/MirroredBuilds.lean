import ShaderBuild.Proofs.DriverAgreement
import ShaderBuild.Proofs.ObjectHistories

/-!
A build seen twice. In one world the driver also works for others, in the other world for this build
alone, and its objects have other numbers there. With a driver that answers locally the two worlds
mirror each other: whatever is asked about objects that are paired, the answers are the same, and
compiling, linking and extracting come to the same but for the numbers (`advances_compile`,
`advances_link`, `carries_extract`).
-/

set_option autoImplicit false
set_option relaxedAutoImplicit false

namespace ShaderBuild

variable {σ ω φ α α' β β' : Type} {driver : Driver σ} {start : σ}

/-! ### Pasts of a driver -/

/-- What was said to the driver since the start was about nothing but objects that it made. -/
structure Driver.Past (driver : Driver σ) (start : σ) (history : List Exchange) (s : σ) :
    Prop where
  replies : driver.Replies start history s
  orderly : ∀ x ∈ objectsOf history, x ∈ madeIn history

theorem Driver.Past.append {history later : List Exchange} {s t : σ}
    (h : driver.Past start history s) (hlater : driver.Replies s later t)
    (hobjects : ∀ x ∈ objectsOf later, x ∈ madeIn history ∨ x ∈ madeIn later) :
    driver.Past start (history ++ later) t := by
  refine ⟨h.replies.append hlater, fun x hx ↦ ?_⟩
  rw [objectsOf_append] at hx
  rw [madeIn_append]
  rcases List.mem_append.mp hx with hold | hnew
  · exact List.mem_append_left _ (h.orderly x hold)
  · exact List.mem_append.mpr (hobjects x hnew)

theorem Driver.Past.ask {history : List Exchange} {s : σ} (h : driver.Past start history s)
    {call : Call} (hnamed : ∀ x ∈ call.named, x ∈ madeIn history) :
    driver.Past start (history ++ [driver.exchange call s]) (driver.answer call s).state := by
  refine h.append ⟨rfl, rfl⟩ fun x hx ↦ ?_
  rw [objectsOf_singleton] at hx
  rw [madeIn_singleton]
  exact (List.mem_append.mp hx).imp (hnamed x) id

/-- An object that is made only now did not occur before. -/
theorem Driver.Past.fresh {history later : List Exchange} {s t : σ}
    (h : driver.Past start history s) (hdriver : driver.AnswersLocally start)
    (hlater : driver.Replies s later t) {x : Object} (hx : x ∈ madeIn later) :
    x ∉ objectsOf history :=
  fun hold ↦ hdriver.fresh h.replies hlater x hx (h.orderly x hold)

/-! ### Mirrors -/

/-- Two pasts of a driver. In the first, the first objects of the pairs have gone through all that
the second past consists of. -/
structure Mirror (driver : Driver σ) (start : σ) (pairs : List (Object × Object)) where
  answersLocally : driver.AnswersLocally start
  history : List Exchange
  state : σ
  history' : List Exchange
  state' : σ
  past : driver.Past start history state
  past' : driver.Past start history' state'
  unique : Relator.BiUnique (Paired pairs)
  made : ∀ x x', Paired pairs x x' → x ∈ madeIn history
  made' : ∀ x x', Paired pairs x x' → x' ∈ madeIn history'
  mirrors : Mirrors pairs history history'

theorem paired_snoc_iff {pairs : List (Object × Object)} {x x' y y' : Object} :
    Paired (pairs ++ [(x, x')]) y y' ↔ Paired pairs y y' ∨ (y = x ∧ y' = x') := by
  simp [Paired]

theorem paired_snoc_self (pairs : List (Object × Object)) (x x' : Object) :
    Paired (pairs ++ [(x, x')]) x x' := paired_snoc_iff.mpr (.inr ⟨rfl, rfl⟩)

theorem biUnique_snoc {pairs : List (Object × Object)} {x x' : Object}
    (hunique : Relator.BiUnique (Paired pairs)) (hx : ∀ y', ¬ Paired pairs x y')
    (hx' : ∀ y, ¬ Paired pairs y x') : Relator.BiUnique (Paired (pairs ++ [(x, x')])) := by
  constructor
  · intro y z y' hy hz
    rcases paired_snoc_iff.mp hy with hy | ⟨hy, hy'⟩ <;>
      rcases paired_snoc_iff.mp hz with hz | ⟨hz, hz'⟩
    · exact hunique.left hy hz
    · exact absurd (hz' ▸ hy) (hx' y)
    · exact absurd (hy' ▸ hz) (hx' z)
    · rw [hy, hz]
  · intro y y' z' hy hz
    rcases paired_snoc_iff.mp hy with hy | ⟨hy, hy'⟩ <;>
      rcases paired_snoc_iff.mp hz with hz | ⟨hz, hz'⟩
    · exact hunique.right hy hz
    · exact absurd (hz ▸ hy) (hx y')
    · exact absurd (hy ▸ hz) (hx z')
    · rw [hy', hz']

namespace Mirror

variable {pairs : List (Object × Object)}

/-- Nothing has been said yet. -/
def begin (hdriver : driver.AnswersLocally start) : Mirror driver start [] where
  answersLocally := hdriver
  history := []
  state := start
  history' := []
  state' := start
  past := ⟨rfl, fun _ hx ↦ hx⟩
  past' := ⟨rfl, fun _ hx ↦ hx⟩
  unique := ⟨fun _ _ _ h ↦ absurd h List.not_mem_nil, fun _ _ _ h ↦ absurd h List.not_mem_nil⟩
  made _ _ h := absurd h List.not_mem_nil
  made' _ _ h := absurd h List.not_mem_nil
  mirrors := .nil

variable (m : Mirror driver start pairs)

/-- Both worlds go on with the same exchange. What is paired from then on was made in it. -/
theorem exists_step {pairs' : List (Object × Object)} {call call' : Call}
    (hnamed : List.Forall₂ (Paired pairs) call.named call'.named)
    (hmade : List.Forall₂ (Paired pairs') (driver.exchange call m.state).made
      (driver.exchange call' m.state').made)
    (hunnumbered :
      (driver.exchange call' m.state').unnumbered = (driver.exchange call m.state).unnumbered)
    (hobjects : (driver.exchange call m.state).objects ≠ []) (hpairs : pairs ⊆ pairs')
    (hunique : Relator.BiUnique (Paired pairs'))
    (hcases : ∀ x x', Paired pairs' x x' → Paired pairs x x' ∨
      (x ∈ (driver.exchange call m.state).made ∧ x' ∈ (driver.exchange call' m.state').made)) :
    ∃ next : Mirror driver start pairs', m.history <+: next.history ∧
      next.state = (driver.answer call m.state).state ∧
      next.state' = (driver.answer call' m.state').state := by
  have hlater : driver.Replies m.state [driver.exchange call m.state]
      (driver.answer call m.state).state := ⟨rfl, rfl⟩
  -- What the exchange makes is new, so with more pairs the old part of the history stays the same.
  have hnew : ∀ x ∈ objectsOf m.history, x ∈ pairs'.map Prod.fst → x ∈ pairs.map Prod.fst := by
    intro x hold hx
    obtain ⟨x', hpair⟩ := exists_paired hx
    rcases hcases x x' hpair with hpair | ⟨hmade, -⟩
    · exact hpair.mem_fst
    · refine absurd hold (m.past.fresh m.answersLocally hlater ?_)
      rwa [madeIn_singleton]
  have hsame : Exchange.Same (Paired pairs') (driver.exchange call m.state)
      (driver.exchange call' m.state') :=
    ⟨hunnumbered, List.rel_append (hnamed.imp fun _ _ hpair ↦ hpairs hpair) hmade⟩
  exact ⟨
    { answersLocally := m.answersLocally
      history := m.history ++ [driver.exchange call m.state]
      state := (driver.answer call m.state).state
      history' := m.history' ++ [driver.exchange call' m.state']
      state' := (driver.answer call' m.state').state
      past := m.past.ask (forall_mem_of_forall₂ hnamed m.made)
      past' := m.past'.ask (forall_mem_of_forall₂ hnamed.flip fun x' x ↦ m.made' x x')
      unique := hunique
      made := fun x x' hpair ↦ by
        rw [madeIn_append, madeIn_singleton, List.mem_append]
        exact (hcases x x' hpair).imp (m.made x x') And.left
      made' := fun x x' hpair ↦ by
        rw [madeIn_append, madeIn_singleton, List.mem_append]
        exact (hcases x x' hpair).imp (m.made' x x') And.right
      mirrors := m.mirrors.snoc hpairs hnew hsame hobjects },
    List.prefix_append _ _, rfl, rfl⟩

/-- Objects that are made from now on are not paired. -/
theorem fresh {later : List Exchange} {t : σ} (hlater : driver.Replies m.state later t) {x : Object}
    (hx : x ∈ madeIn later) : x ∉ pairs.map Prod.fst := by
  intro hown
  obtain ⟨x', hpair⟩ := exists_paired hown
  exact m.answersLocally.fresh m.past.replies hlater x hx (m.made x x' hpair)

/-- Only the first world goes on, with a dialogue about objects that are not paired. -/
theorem exists_apart {later : List Exchange} {t : σ} (hlater : driver.Replies m.state later t)
    (hobjects : ∀ x ∈ objectsOf later,
      (x ∈ madeIn m.history ∧ x ∉ pairs.map Prod.fst) ∨ x ∈ madeIn later) :
    ∃ next : Mirror driver start pairs, next.history = m.history ++ later ∧ next.state = t ∧
      next.state' = m.state' := by
  have hforeign : ∀ x ∈ objectsOf later, x ∉ pairs.map Prod.fst :=
    fun x hx ↦ (hobjects x hx).elim And.right (m.fresh hlater)
  exact ⟨
    { answersLocally := m.answersLocally
      history := m.history ++ later
      state := t
      history' := m.history'
      state' := m.state'
      past := m.past.append hlater fun x hx ↦ (hobjects x hx).imp And.left id
      past' := m.past'
      unique := m.unique
      made := fun x x' hpair ↦ mem_madeIn_append_left (m.made x x' hpair) later
      made' := m.made'
      mirrors := m.mirrors.append_of_apart hforeign }, rfl, rfl, rfl⟩

theorem made_createShader {stage : Stage} {answer : Except Error ShaderId} {x : Object}
    (h : Exchange.made ⟨.createShader stage, answer⟩ = [x]) :
    ∃ id, answer = .ok id ∧ x = .shader id := by
  cases answer with
  | error error => cases h
  | ok id => exact ⟨id, rfl, (List.singleton_injective h).symm⟩

theorem made_createProgram {answer : Except Error ProgramId} {x : Object}
    (h : Exchange.made ⟨.createProgram, answer⟩ = [x]) :
    ∃ id, answer = .ok id ∧ x = .program id := by
  cases answer with
  | error error => cases h
  | ok id => exact ⟨id, rfl, (List.singleton_injective h).symm⟩

theorem unnumbered_eq_of_made {call : Call} {answer answer' : call.Answer} {x x' : Object}
    (h : Exchange.made ⟨call, answer⟩ = [x]) (h' : Exchange.made ⟨call, answer'⟩ = [x']) :
    Exchange.unnumbered ⟨call, answer'⟩ = Exchange.unnumbered ⟨call, answer⟩ := by
  cases call with
  | createShader stage =>
    obtain ⟨id, rfl, -⟩ := made_createShader h
    obtain ⟨id', rfl, -⟩ := made_createShader h'
    rfl
  | createProgram =>
    obtain ⟨id, rfl, -⟩ := made_createProgram h
    obtain ⟨id', rfl, -⟩ := made_createProgram h'
    rfl
  | _ => cases h

/-- Both worlds ask for an object of the same kind. The new objects are paired. -/
theorem exists_create {call : Call} (hcall : call.named = []) :
    ∃ (x x' : Object) (next : Mirror driver start (pairs ++ [(x, x')])),
      x ∉ objectsOf m.history ∧ m.history <+: next.history ∧
      next.state = (driver.answer call m.state).state ∧
      next.state' = (driver.answer call m.state').state ∧
      (driver.exchange call m.state).made = [x] ∧ (driver.exchange call m.state').made = [x'] := by
  obtain ⟨x, hx, hnew⟩ := m.answersLocally.creates m.past.replies hcall
  obtain ⟨x', hx', hnew'⟩ := m.answersLocally.creates m.past'.replies hcall
  have hunique : Relator.BiUnique (Paired (pairs ++ [(x, x')])) :=
    biUnique_snoc m.unique (fun y' hpair ↦ hnew (m.made x y' hpair))
      fun y hpair ↦ hnew' (m.made' y x' hpair)
  have hpair := paired_snoc_self pairs x x'
  have hfresh : x ∉ objectsOf m.history := fun hold ↦ hnew (m.past.orderly x hold)
  have hnamed : List.Forall₂ (Paired pairs) call.named call.named := by
    rw [hcall]
    exact .nil
  have hmades : List.Forall₂ (Paired (pairs ++ [(x, x')])) (driver.exchange call m.state).made
      (driver.exchange call m.state').made := by
    rw [hx, hx']
    exact .cons hpair .nil
  have hcases : ∀ y y', Paired (pairs ++ [(x, x')]) y y' → Paired pairs y y' ∨
      (y ∈ (driver.exchange call m.state).made ∧ y' ∈ (driver.exchange call m.state').made) := by
    intro y y' hy
    rw [hx, hx', List.mem_singleton, List.mem_singleton]
    exact paired_snoc_iff.mp hy
  have hobjects : (driver.exchange call m.state).objects ≠ [] := by
    rw [Exchange.objects, hx]
    exact List.append_ne_nil_of_right_ne_nil _ (List.cons_ne_nil x [])
  obtain ⟨next, hlater, hstate, hstate'⟩ := m.exists_step hnamed hmades
    (unnumbered_eq_of_made hx hx') hobjects (List.subset_append_left _ _) hunique hcases
  exact ⟨x, x', next, hfresh, hlater, hstate, hstate', hx, hx'⟩

/-! ### Work that only asks -/

/-- Done in both worlds, the work comes to values that `same` relates, and the worlds mirror each
other still. -/
def Carries (m : Mirror driver start pairs) (work : Activity Event σ α)
    (work' : Activity Event σ α') (same : α → α' → Prop) : Prop :=
  ∃ next : Mirror driver start pairs, m.history <+: next.history ∧
    next.state = (work m.state).state ∧ next.state' = (work' m.state').state ∧
    same (work m.state).value (work' m.state').value

variable {m : Mirror driver start pairs} {same : β → β' → Prop}

theorem Carries.mono {work : Activity Event σ α} {work' : Activity Event σ α'}
    {same same' : α → α' → Prop} (h : m.Carries work work' same)
    (hsame : ∀ a a', same a a' → same' a a') : m.Carries work work' same' := by
  obtain ⟨next, hlater, hstate, hstate', hvalue⟩ := h
  exact ⟨next, hlater, hstate, hstate', hsame _ _ hvalue⟩

theorem carries_pure {value : β} {value' : β'} (h : same value value') :
    m.Carries (pure value) (pure value') same :=
  ⟨m, List.prefix_rfl, rfl, rfl, h⟩

theorem carries_bind {work : Activity Event σ α} {work' : Activity Event σ α'}
    {next : α → Activity Event σ β} {next' : α' → Activity Event σ β'} {middle : α → α' → Prop}
    (hwork : m.Carries work work' middle)
    (hnext : ∀ (after : Mirror driver start pairs) a a', middle a a' →
      after.Carries (next a) (next' a') same) :
    m.Carries (work >>= next) (work' >>= next') same := by
  obtain ⟨after, hafter, hstate, hstate', hmiddle⟩ := hwork
  have hlast := hnext after _ _ hmiddle
  rw [Carries, hstate, hstate'] at hlast
  obtain ⟨last, hlater, hlast⟩ := hlast
  exact ⟨last, hafter.trans hlater, hlast⟩

/-- The two calls ask the same about paired objects. -/
structure PairedCalls (pairs : List (Object × Object)) (call call' : Call) : Prop where
  unnumbered_eq : call'.unnumbered = call.unnumbered
  named : List.Forall₂ (Paired pairs) call.named call'.named
  named_ne_nil : call.named ≠ []

theorem pairedCalls_of_one {call call' : Call} {x x' : Object} (hx : Paired pairs x x')
    (hunnumbered : call'.unnumbered = call.unnumbered) (hnamed : call.named = [x])
    (hnamed' : call'.named = [x']) : PairedCalls pairs call call' := by
  refine ⟨hunnumbered, ?_, ?_⟩
  · rw [hnamed, hnamed']
    exact .cons hx .nil
  · rw [hnamed]
    exact List.cons_ne_nil x []

theorem carries_ask {call call' : Call} (hcall : PairedCalls pairs call call') :
    m.Carries (driver.ask call) (driver.ask call') fun answer answer' ↦
      Exchange.unnumbered ⟨call', answer'⟩ = Exchange.unnumbered ⟨call, answer⟩ := by
  obtain ⟨hunnumbered, hnamed, hne⟩ := hcall
  obtain ⟨x, rest, hobjects⟩ := List.exists_cons_of_ne_nil hne
  rw [hobjects] at hnamed
  obtain ⟨x', rest', hx, hrest, hobjects'⟩ := List.forall₂_cons_left_iff.mp hnamed
  have hanswer : (driver.exchange call' m.state').unnumbered =
      (driver.exchange call m.state).unnumbered :=
    m.answersLocally.answers m.past.replies m.past'.replies hobjects hobjects' hunnumbered
      (alike_of_mirrors m.unique m.mirrors hx)
  have hmade : (driver.exchange call m.state).made = [] := Exchange.made_eq_nil hne
  have hmade' : (driver.exchange call' m.state').made = [] := by
    refine Exchange.made_eq_nil ?_
    show call'.named ≠ []
    rw [hobjects']
    exact List.cons_ne_nil x' rest'
  have hmades : List.Forall₂ (Paired pairs) (driver.exchange call m.state).made
      (driver.exchange call' m.state').made := by
    rw [hmade, hmade']
    exact .nil
  have hnamed' : List.Forall₂ (Paired pairs) call.named call'.named := by
    rw [hobjects]
    exact hnamed
  obtain ⟨next, hlater, hstate, hstate'⟩ := m.exists_step hnamed' hmades hanswer
    (List.append_ne_nil_of_left_ne_nil hne _) (List.Subset.refl pairs) m.unique
    fun _ _ hpair ↦ .inl hpair
  exact ⟨next, hlater, hstate, hstate', hanswer⟩

theorem carries_ask_bind {call call' : Call} {next : call.Answer → Activity Event σ β}
    {next' : call'.Answer → Activity Event σ β'} (hcall : PairedCalls pairs call call')
    (hnext : ∀ (after : Mirror driver start pairs) answer answer',
      Exchange.unnumbered ⟨call', answer'⟩ = Exchange.unnumbered ⟨call, answer⟩ →
      after.Carries (next answer) (next' answer') same) :
    m.Carries (driver.ask call >>= next) (driver.ask call' >>= next') same :=
  carries_bind (carries_ask hcall) hnext

theorem carries_log_bind {record record' : Log.Record} {next : Unit → Activity Event σ β}
    {next' : Unit → Activity Event σ β'} (h : m.Carries (next ()) (next' ()) same) :
    m.Carries (Event.log record >>= next) (Event.log record' >>= next') same := h

theorem carries_run_lift_bind {work : Activity Event σ α} {work' : Activity Event σ α'}
    {next : α → Attempt Event σ β} {next' : α' → Attempt Event σ β'} {middle : α → α' → Prop}
    {same : Except Error β → Except Error β' → Prop} (hwork : m.Carries work work' middle)
    (hnext : ∀ (after : Mirror driver start pairs) a a', middle a a' →
      after.Carries (next a).run (next' a').run same) :
    m.Carries (ExceptT.lift work >>= next).run (ExceptT.lift work' >>= next').run same := by
  rw [ExceptT.run_bind_lift, ExceptT.run_bind_lift]
  exact carries_bind hwork hnext

theorem carries_run_ask_bind {call call' : Call} {next : call.Answer → Attempt Event σ β}
    {next' : call'.Answer → Attempt Event σ β'}
    {same : Except Error β → Except Error β' → Prop} (hcall : PairedCalls pairs call call')
    (hnext : ∀ (after : Mirror driver start pairs) answer answer',
      Exchange.unnumbered ⟨call', answer'⟩ = Exchange.unnumbered ⟨call, answer⟩ →
      after.Carries (next answer).run (next' answer').run same) :
    m.Carries (ExceptT.lift (driver.ask call) >>= next).run
      (ExceptT.lift (driver.ask call') >>= next').run same :=
  carries_run_lift_bind (carries_ask hcall) hnext

theorem carries_unless_log_bind {condition : Prop} [Decidable condition] {record : Log.Record}
    {next : Activity Event σ β} {next' : Activity Event σ β'} (h : m.Carries next next' same) :
    m.Carries (if condition then next else Event.log record >>= fun _ ↦ next)
      (if condition then next' else Event.log record >>= fun _ ↦ next') same := by
  split_ifs
  · exact h
  · exact carries_log_bind h

theorem carries_run_unless_log_bind {condition : Prop} [Decidable condition]
    {record : Log.Record} {next : Attempt Event σ β} {next' : Attempt Event σ β'}
    {same : Except Error β → Except Error β' → Prop} (h : m.Carries next.run next'.run same) :
    m.Carries
      (ExceptT.run (if condition then next else ExceptT.lift (Event.log record) >>= fun _ ↦ next))
      (ExceptT.run (if condition then next' else ExceptT.lift (Event.log record) >>= fun _ ↦ next'))
      same := by
  split_ifs
  · exact h
  · rw [ExceptT.run_bind_lift, ExceptT.run_bind_lift]
    exact h

section Programs

variable {program program' : ProgramId}
  (hprogram : Paired pairs (.program program) (.program program'))

include hprogram

theorem carries_parameter_bind {code : Gl.Code} {next : Int32 → Activity Event σ β}
    {next' : Int32 → Activity Event σ β'}
    (hnext : ∀ (after : Mirror driver start pairs) answer,
      after.Carries (next answer) (next' answer) same) :
    m.Carries (driver.ask (.parameter program code) >>= next)
      (driver.ask (.parameter program' code) >>= next') same := by
  refine carries_ask_bind (pairedCalls_of_one hprogram rfl rfl rfl)
    fun after answer answer' hanswer ↦ ?_
  obtain rfl : answer' = answer := by simpa [Exchange.unnumbered] using hanswer
  exact hnext after _

theorem carries_describeFrom (interface : Interface) (maxLength index count : Nat) :
    m.Carries (describeFrom driver interface program maxLength index count)
      (describeFrom driver interface program' maxLength index count) Eq := by
  induction count generalizing m index with
  | zero => exact carries_pure rfl
  | succ count ih =>
    rw [describeFrom, describeFrom]
    refine carries_ask_bind (pairedCalls_of_one hprogram rfl rfl rfl)
      fun after answer answer' hanswer ↦ ?_
    obtain rfl : answer' = answer := by simpa [Exchange.unnumbered] using hanswer
    cases answer' with
    | some described =>
      refine carries_bind (ih (index + 1)) ?_
      rintro last rest _ rfl
      exact carries_pure rfl
    | none => exact carries_log_bind (ih (index + 1))

theorem carries_activeVariables (interface : Interface) :
    m.Carries (activeVariables driver interface program)
      (activeVariables driver interface program') Eq := by
  unfold activeVariables
  refine carries_parameter_bind hprogram fun after count ↦ ?_
  split_ifs
  · exact carries_pure rfl
  · refine carries_parameter_bind hprogram fun last longest ↦ ?_
    exact carries_describeFrom hprogram _ _ _ _

theorem carries_linkLog :
    m.Carries (linkLog driver program) (linkLog driver program') Eq := by
  unfold linkLog
  refine carries_parameter_bind hprogram fun after length ↦ ?_
  split_ifs
  · have hcall : PairedCalls pairs (.programLog program) (.programLog program') :=
      pairedCalls_of_one hprogram rfl rfl rfl
    refine (carries_ask hcall).mono fun answer answer' hanswer ↦ ?_
    exact Eq.symm (by simpa [Exchange.unnumbered] using hanswer)
  · exact carries_pure rfl

end Programs

/-! ### Work that makes an object -/

/-- The pairs with others besides, none of which has its first object in the history. -/
structure Extends (history : List Exchange) (pairs pairs' : List (Object × Object)) : Prop where
  subset : pairs ⊆ pairs'
  fresh : ∀ x ∈ objectsOf history, x ∈ pairs'.map Prod.fst → x ∈ pairs.map Prod.fst

/-- Done in both worlds, the work comes to values that `same` relates. The worlds mirror each other
still, with more objects paired. -/
def Advances (m : Mirror driver start pairs) (work : Activity Event σ α)
    (work' : Activity Event σ α') (same : List (Object × Object) → α → α' → Prop) : Prop :=
  ∃ (pairs' : List (Object × Object)) (next : Mirror driver start pairs'),
    Extends m.history pairs pairs' ∧ m.history <+: next.history ∧
    next.state = (work m.state).state ∧ next.state' = (work' m.state').state ∧
    same pairs' (work m.state).value (work' m.state').value

theorem Carries.advances {work : Activity Event σ α} {work' : Activity Event σ α'}
    {same : List (Object × Object) → α → α' → Prop} (h : m.Carries work work' (same pairs)) :
    m.Advances work work' same := by
  obtain ⟨next, hnext⟩ := h
  exact ⟨pairs, next, ⟨List.Subset.refl pairs, fun _ _ hown ↦ hown⟩, hnext⟩

theorem advances_create_bind {call : Call} {next next' : call.Answer → Activity Event σ β}
    {same : List (Object × Object) → β → β → Prop} (hcall : call.named = [])
    (hnext : ∀ (x x' : Object) (after : Mirror driver start (pairs ++ [(x, x')])) answer answer',
      Exchange.made ⟨call, answer⟩ = [x] → Exchange.made ⟨call, answer'⟩ = [x'] →
      after.Carries (next answer) (next' answer') (same (pairs ++ [(x, x')]))) :
    m.Advances (driver.ask call >>= next) (driver.ask call >>= next') same := by
  obtain ⟨x, x', after, hfresh, hafter, hstate, hstate', hx, hx'⟩ := m.exists_create hcall
  have hlast := hnext x x' after _ _ hx hx'
  rw [Carries, hstate, hstate'] at hlast
  obtain ⟨last, hlater, hlast⟩ := hlast
  refine ⟨pairs ++ [(x, x')], last, ⟨List.subset_append_left _ _, ?_⟩, hafter.trans hlater, hlast⟩
  intro y hold hy
  rw [List.map_append, List.mem_append] at hy
  rcases hy with hown | hlast
  · exact hown
  · rw [List.mem_singleton.mp hlast] at hold
    exact absurd hold hfresh

theorem advances_run_when_log_bind {condition : Prop} [Decidable condition] {record : Log.Record}
    {next : Attempt Event σ β}
    {same : List (Object × Object) → Except Error β → Except Error β → Prop}
    (h : m.Advances next.run next.run same) :
    m.Advances
      (ExceptT.run (if condition then ExceptT.lift (Event.log record) >>= fun _ ↦ next else next))
      (ExceptT.run (if condition then ExceptT.lift (Event.log record) >>= fun _ ↦ next else next))
      same := by
  split_ifs
  · rw [ExceptT.run_bind_lift]
    exact h
  · exact h

/-! ### Stages of a build -/

/-- The same shader but for its number, with its objects paired. -/
structure PairedShaders (pairs : List (Object × Object)) (unit unit' : CompiledShader) : Prop where
  unnumbered_eq : unit'.unnumbered = unit.unnumbered
  paired : Paired pairs (.shader unit.id) (.shader unit'.id)

/-- The same program but for its number, with its objects paired. -/
structure PairedPrograms (pairs : List (Object × Object)) (unit unit' : LinkedProgram) : Prop where
  unnumbered_eq : unit'.unnumbered = unit.unnumbered
  paired : Paired pairs (.program unit.id) (.program unit'.id)

theorem PairedShaders.status_eq {unit unit' : CompiledShader} (h : PairedShaders pairs unit unit') :
    unit'.status = unit.status := by
  show unit'.unnumbered.status = unit.unnumbered.status
  rw [h.unnumbered_eq]

theorem PairedPrograms.status_eq {unit unit' : LinkedProgram}
    (h : PairedPrograms pairs unit unit') : unit'.status = unit.status := by
  show unit'.unnumbered.status = unit.unnumbered.status
  rw [h.unnumbered_eq]

/-- Neither is an error, and the values are related. -/
def BothOk (same : α → α' → Prop) (result : Except Error α) (result' : Except Error α') : Prop :=
  ∃ a a', result = .ok a ∧ result' = .ok a' ∧ same a a'

theorem advances_run_bind_pure {work : Attempt Event σ α} {work' : Attempt Event σ α'} {f : α → β}
    {f' : α' → β'} {middle : List (Object × Object) → α → α' → Prop}
    {same : List (Object × Object) → β → β' → Prop}
    (hwork : m.Advances work.run work'.run fun pairs' ↦ BothOk (middle pairs'))
    (hsame : ∀ pairs' a a', middle pairs' a a' → same pairs' (f a) (f' a')) :
    m.Advances (work >>= fun a ↦ pure (f a)).run (work' >>= fun a ↦ pure (f' a)).run
      fun pairs' ↦ BothOk (same pairs') := by
  obtain ⟨pairs', next, hextends, hlater, hstate, hstate', a, a', hvalue, hvalue', hmiddle⟩ := hwork
  refine ⟨pairs', next, hextends, hlater, ?_⟩
  rw [Attempt.run_bind_of_ok _ hvalue, Attempt.run_bind_of_ok _ hvalue']
  exact ⟨hstate, hstate', f a, f' a', rfl, rfl, hsame pairs' a a' hmiddle⟩

theorem advances_compile (stage : Stage) (source : String) :
    m.Advances (compile driver stage source).run (compile driver stage source).run
      fun pairs' ↦ BothOk (PairedShaders pairs') := by
  unfold compile
  refine advances_run_when_log_bind ?_
  rw [ExceptT.run_bind]
  refine advances_create_bind rfl fun x x' after answer answer' hx hx' ↦ ?_
  obtain ⟨id, rfl, rfl⟩ := made_createShader hx
  obtain ⟨id', rfl, rfl⟩ := made_createShader hx'
  have hpair := paired_snoc_self pairs (.shader id) (.shader id')
  refine carries_run_ask_bind (pairedCalls_of_one hpair rfl rfl rfl) fun compiled _ _ _ ↦ ?_
  refine carries_run_ask_bind (pairedCalls_of_one hpair rfl rfl rfl)
    fun judged status status' hstatus ↦ ?_
  obtain rfl : status' = status := by simpa [Exchange.unnumbered] using hstatus
  refine carries_run_ask_bind (pairedCalls_of_one hpair rfl rfl rfl)
    fun read infoLog infoLog' hinfoLog ↦ ?_
  obtain rfl : infoLog' = infoLog := by simpa [Exchange.unnumbered] using hinfoLog
  exact carries_pure ⟨_, _, rfl, rfl, rfl, hpair⟩

theorem advances_link {vertex vertex' fragment fragment' : CompiledShader}
    (hvertex : PairedShaders pairs vertex vertex')
    (hfragment : PairedShaders pairs fragment fragment') :
    m.Advances (link driver vertex fragment).run (link driver vertex' fragment').run
      fun pairs' ↦ BothOk (PairedPrograms pairs') := by
  have hstatus : (vertex'.status && fragment'.status) = (vertex.status && fragment.status) :=
    congrArg₂ and hvertex.status_eq hfragment.status_eq
  unfold link
  rw [ExceptT.run_bind, ExceptT.run_bind]
  refine advances_create_bind rfl fun x x' after answer answer' hx hx' ↦ ?_
  obtain ⟨id, rfl, rfl⟩ := made_createProgram hx
  obtain ⟨id', rfl, rfl⟩ := made_createProgram hx'
  have hpair := paired_snoc_self pairs (.program id) (.program id')
  have hold : ∀ y y', Paired pairs y y' →
      Paired (pairs ++ [(.program id, .program id')]) y y' :=
    fun _ _ h ↦ paired_snoc_iff.mpr (.inl h)
  refine carries_run_ask_bind
    ⟨rfl, .cons hpair (.cons (hold _ _ hvertex.paired) .nil), List.cons_ne_nil _ _⟩
    fun first _ _ _ ↦ ?_
  refine carries_run_ask_bind
    ⟨rfl, .cons hpair (.cons (hold _ _ hfragment.paired) .nil), List.cons_ne_nil _ _⟩
    fun second _ _ _ ↦ ?_
  refine carries_run_ask_bind (pairedCalls_of_one hpair rfl rfl rfl) fun joined _ _ _ ↦ ?_
  refine carries_run_ask_bind (pairedCalls_of_one hpair rfl rfl rfl)
    fun judged status status' hjudged ↦ ?_
  obtain rfl : status' = status := by simpa [Exchange.unnumbered] using hjudged
  refine carries_run_lift_bind (carries_linkLog hpair) ?_
  rintro logged infoLog _ rfl
  rw [hstatus]
  refine carries_run_unless_log_bind ?_
  refine carries_run_lift_bind (carries_activeVariables hpair .attributes) ?_
  rintro listed attributes _ rfl
  refine carries_run_lift_bind (carries_activeVariables hpair .uniforms) ?_
  rintro last uniforms _ rfl
  exact carries_pure ⟨_, _, rfl, rfl, rfl, hpair⟩

theorem carries_extract {program program' : LinkedProgram}
    (hprogram : PairedPrograms pairs program program') :
    m.Carries (extract driver program) (extract driver program') Eq := by
  unfold extract
  rw [hprogram.status_eq]
  refine carries_unless_log_bind ?_
  refine carries_parameter_bind hprogram.paired fun measured length ↦ ?_
  refine carries_ask_bind (pairedCalls_of_one hprogram.paired rfl rfl rfl)
    fun fetched artifact artifact' hartifact ↦ ?_
  obtain rfl : artifact' = artifact := by simpa [Exchange.unnumbered] using hartifact
  exact carries_log_bind (carries_pure rfl)

end Mirror

end ShaderBuild
