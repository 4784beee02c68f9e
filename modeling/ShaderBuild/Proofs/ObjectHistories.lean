import Mathlib.Data.List.Forall2
import ShaderBuild.Proofs.DriverDialogue

/-!
What has been said about an object. The history of an object are the exchanges that name it; to the
history of a program belong those that name a shader attached to it. A driver that answers locally
answers about an object from this history alone, in which the numbers of objects do not matter, only
where the same object comes again. Of a longer history it is then enough to know the part about the
objects that somebody works with (`alike_of_mirrors`).
-/

set_option autoImplicit false
set_option relaxedAutoImplicit false

namespace ShaderBuild

variable {σ : Type}

/-! ### Objects -/

inductive Object where
  | shader (id : ShaderId)
  | program (id : ProgramId)
  deriving DecidableEq, Repr

/-- The objects that the call names, first the one that it is about. -/
def Call.named : Call → List Object
  | .createShader _ => []
  | .compileShader shader _ => [.shader shader]
  | .compileStatus shader => [.shader shader]
  | .shaderLog shader => [.shader shader]
  | .createProgram => []
  | .attachShader program shader => [.program program, .shader shader]
  | .linkProgram program => [.program program]
  | .linkStatus program => [.program program]
  | .parameter program _ => [.program program]
  | .programLog program => [.program program]
  | .activeVariable _ program _ _ => [.program program]
  | .binary program _ => [.program program]

/-- The call with the numbers of its objects left out. -/
def Call.unnumbered : Call → Call
  | .createShader stage => .createShader stage
  | .compileShader _ source => .compileShader ⟨0⟩ source
  | .compileStatus _ => .compileStatus ⟨0⟩
  | .shaderLog _ => .shaderLog ⟨0⟩
  | .createProgram => .createProgram
  | .attachShader _ _ => .attachShader ⟨0⟩ ⟨0⟩
  | .linkProgram _ => .linkProgram ⟨0⟩
  | .linkStatus _ => .linkStatus ⟨0⟩
  | .parameter _ code => .parameter ⟨0⟩ code
  | .programLog _ => .programLog ⟨0⟩
  | .activeVariable interface _ index maxLength => .activeVariable interface ⟨0⟩ index maxLength
  | .binary _ length => .binary ⟨0⟩ length

namespace Exchange

/-- The object that the exchange has made. -/
def made : Exchange → List Object
  | ⟨.createShader _, .ok shader⟩ => [.shader shader]
  | ⟨.createProgram, .ok program⟩ => [.program program]
  | _ => []

/-- The objects in the exchange. -/
def objects (exchange : Exchange) : List Object := exchange.call.named ++ exchange.made

/-- The exchange with the numbers of its objects left out. -/
def unnumbered : Exchange → Exchange
  | ⟨.createShader stage, answer⟩ => ⟨.createShader stage, answer.map fun _ ↦ ⟨0⟩⟩
  | ⟨.compileShader _ source, answer⟩ => ⟨.compileShader ⟨0⟩ source, answer⟩
  | ⟨.compileStatus _, answer⟩ => ⟨.compileStatus ⟨0⟩, answer⟩
  | ⟨.shaderLog _, answer⟩ => ⟨.shaderLog ⟨0⟩, answer⟩
  | ⟨.createProgram, answer⟩ => ⟨.createProgram, answer.map fun _ ↦ ⟨0⟩⟩
  | ⟨.attachShader _ _, answer⟩ => ⟨.attachShader ⟨0⟩ ⟨0⟩, answer⟩
  | ⟨.linkProgram _, answer⟩ => ⟨.linkProgram ⟨0⟩, answer⟩
  | ⟨.linkStatus _, answer⟩ => ⟨.linkStatus ⟨0⟩, answer⟩
  | ⟨.parameter _ code, answer⟩ => ⟨.parameter ⟨0⟩ code, answer⟩
  | ⟨.programLog _, answer⟩ => ⟨.programLog ⟨0⟩, answer⟩
  | ⟨.activeVariable interface _ index maxLength, answer⟩ =>
    ⟨.activeVariable interface ⟨0⟩ index maxLength, answer⟩
  | ⟨.binary _ length, answer⟩ => ⟨.binary ⟨0⟩ length, answer⟩

/-- The same exchange but for the objects, which `naming` relates in order. -/
structure Same (naming : Object → Object → Prop) (exchange exchange' : Exchange) : Prop where
  unnumbered_eq : exchange'.unnumbered = exchange.unnumbered
  objects : List.Forall₂ naming exchange.objects exchange'.objects

/-- The object that the exchange attaches to `x`. -/
def attached? (x : Object) (exchange : Exchange) : Option Object :=
  match exchange.call with
  | .attachShader program shader => if x = .program program then some (.shader shader) else none
  | _ => none

/-- Whether one of the objects is in the exchange. -/
def names (objects : List Object) (exchange : Exchange) : Bool :=
  exchange.objects.any fun x ↦ decide (x ∈ objects)

end Exchange

/-! ### Histories -/

/-- All objects in a history. -/
def objectsOf (history : List Exchange) : List Object := history.flatMap Exchange.objects

/-- The objects that were made in a history. -/
def madeIn (history : List Exchange) : List Object := history.flatMap Exchange.made

/-- The object and those attached to it. -/
def circle (x : Object) (history : List Exchange) : List Object :=
  x :: history.filterMap (Exchange.attached? x)

/-- The exchanges that name the object or one attached to it. -/
def about (x : Object) (history : List Exchange) : List Exchange :=
  history.filter (Exchange.names (circle x history))

/-- What was said about the two objects is the same but for the numbers: one object in the one
history stands for one object in the other. -/
def Alike (x x' : Object) (history history' : List Exchange) : Prop :=
  ∃ naming : Object → Object → Prop, Relator.BiUnique naming ∧ naming x x' ∧
    List.Forall₂ (Exchange.Same naming) (about x history) (about x' history')

/-- The call with the answer that the driver gives to it in state `s`. -/
def Driver.exchange (driver : Driver σ) (call : Call) (s : σ) : Exchange :=
  ⟨call, (driver.answer call s).value⟩

/-- From the state `start` on the driver makes an object whenever it is asked for one, and never the
same twice. Its answers about an object depend on nothing but what was said about it. -/
structure Driver.AnswersLocally (driver : Driver σ) (start : σ) : Prop where
  creates : ∀ {history s} {call : Call}, driver.Replies start history s → call.named = [] →
    ∃ x, (driver.exchange call s).made = [x] ∧ x ∉ madeIn history
  answers : ∀ {history history' s s'} {call call' : Call} {x x' : Object} {rest rest'},
    driver.Replies start history s → driver.Replies start history' s' →
    call.named = x :: rest → call'.named = x' :: rest' → call'.unnumbered = call.unnumbered →
    Alike x x' history history' →
      (driver.exchange call' s').unnumbered = (driver.exchange call s).unnumbered

theorem objectsOf_append (first rest : List Exchange) :
    objectsOf (first ++ rest) = objectsOf first ++ objectsOf rest := List.flatMap_append

theorem madeIn_append (first rest : List Exchange) :
    madeIn (first ++ rest) = madeIn first ++ madeIn rest := List.flatMap_append

theorem objectsOf_singleton (exchange : Exchange) : objectsOf [exchange] = exchange.objects :=
  List.flatMap_singleton ..

theorem madeIn_singleton (exchange : Exchange) : madeIn [exchange] = exchange.made :=
  List.flatMap_singleton ..

theorem mem_objectsOf {history : List Exchange} {exchange : Exchange} {x : Object}
    (hexchange : exchange ∈ history) (hx : x ∈ exchange.objects) : x ∈ objectsOf history :=
  List.mem_flatMap.mpr ⟨exchange, hexchange, hx⟩

theorem mem_objectsOf_of_mem_madeIn {history : List Exchange} {x : Object}
    (h : x ∈ madeIn history) : x ∈ objectsOf history := by
  obtain ⟨exchange, hexchange, hx⟩ := List.mem_flatMap.mp h
  exact mem_objectsOf hexchange (List.mem_append_right _ hx)

theorem mem_madeIn_append_left {first : List Exchange} {x : Object} (h : x ∈ madeIn first)
    (rest : List Exchange) : x ∈ madeIn (first ++ rest) := by
  rw [madeIn_append]
  exact List.mem_append_left _ h

namespace Exchange

theorem named_eq_nil_of_mem_made {exchange : Exchange} {x : Object} (h : x ∈ exchange.made) :
    exchange.call.named = [] := by
  obtain ⟨call, answer⟩ := exchange
  cases call <;> first | rfl | exact absurd h List.not_mem_nil

theorem made_eq_nil {exchange : Exchange} (h : exchange.call.named ≠ []) : exchange.made = [] :=
  List.eq_nil_iff_forall_not_mem.mpr fun _ hx ↦ h (named_eq_nil_of_mem_made hx)

/-- The only exchanges with two objects attach the second to the first. -/
theorem attached?_eq (x : Object) (exchange : Exchange) :
    exchange.attached? x =
      match exchange.objects with
      | [first, second] => if x = first then some second else none
      | _ => none := by
  obtain ⟨call, answer⟩ := exchange
  cases call with
  | createShader stage => cases answer <;> rfl
  | createProgram => cases answer <;> rfl
  | _ => rfl

theorem objects_of_attached? {x y : Object} {exchange : Exchange}
    (h : exchange.attached? x = some y) : exchange.objects = [x, y] := by
  rw [attached?_eq] at h
  split at h
  · rename_i first second hobjects
    split_ifs at h with hx
    rw [hobjects, hx, Option.some.inj h]
  · cases h

theorem names_iff {objects : List Object} {exchange : Exchange} :
    exchange.names objects = true ↔ ∃ x ∈ exchange.objects, x ∈ objects := by
  simp [names]

end Exchange

/-! ### Histories that go the same way -/

section Same

variable {naming : Object → Object → Prop}

theorem Exchange.Same.mono {naming' : Object → Object → Prop} {exchange exchange' : Exchange}
    (h : Exchange.Same naming exchange exchange') (hnaming : ∀ x x', naming x x' → naming' x x') :
    Exchange.Same naming' exchange exchange' :=
  ⟨h.unnumbered_eq, h.objects.imp hnaming⟩

theorem Exchange.Same.attached? (hunique : Relator.BiUnique naming) {x x' : Object}
    (hx : naming x x') {exchange exchange' : Exchange}
    (h : Exchange.Same naming exchange exchange') :
    Option.Rel naming (exchange.attached? x) (exchange'.attached? x') := by
  rw [Exchange.attached?_eq, Exchange.attached?_eq]
  have hobjects := h.objects
  generalize exchange.objects = objects, exchange'.objects = objects' at hobjects
  rcases hobjects with _ | ⟨hfirst, _ | ⟨hsecond, _ | _⟩⟩
  · exact .none
  · exact .none
  · have hiff : x = _ ↔ x' = _ := Relator.rel_eq hunique hx hfirst
    dsimp only
    split_ifs with hleft hright hright
    · exact .some hsecond
    · exact absurd (hiff.mp hleft) hright
    · exact absurd (hiff.mpr hright) hleft
    · exact .none
  · exact .none

theorem circle_same (hunique : Relator.BiUnique naming) {x x' : Object} (hx : naming x x')
    {history history' : List Exchange}
    (h : List.Forall₂ (Exchange.Same naming) history history') :
    List.Forall₂ naming (circle x history) (circle x' history') :=
  .cons hx (List.rel_filterMap (fun _ _ hsame ↦ hsame.attached? hunique hx) h)

theorem Exchange.Same.names_iff (hunique : Relator.BiUnique naming) {objects objects' : List Object}
    (hobjects : List.Forall₂ naming objects objects') {exchange exchange' : Exchange}
    (h : Exchange.Same naming exchange exchange') :
    exchange.names objects = true ↔ exchange'.names objects' = true := by
  have hpart := h.objects
  unfold Exchange.names
  generalize exchange.objects = part, exchange'.objects = part' at hpart
  induction hpart with
  | nil => exact Iff.rfl
  | cons hfirst hrest ih =>
    rw [List.any_cons, List.any_cons, Bool.or_eq_true, Bool.or_eq_true, decide_eq_true_iff,
      decide_eq_true_iff]
    exact or_congr (List.rel_mem hunique hfirst hobjects) ih

theorem about_same (hunique : Relator.BiUnique naming) {x x' : Object} (hx : naming x x')
    {history history' : List Exchange}
    (h : List.Forall₂ (Exchange.Same naming) history history') :
    List.Forall₂ (Exchange.Same naming) (about x history) (about x' history') :=
  List.rel_filter (fun _ _ hsame ↦ hsame.names_iff hunique (circle_same hunique hx h)) h

end Same

/-! ### Objects of one's own -/

/-- The two objects are paired. -/
def Paired (pairs : List (Object × Object)) (x x' : Object) : Prop := (x, x') ∈ pairs

/-- What was said of the first objects of the pairs, in the midst of anything else, is all of the
other history, with the second objects in their places. -/
def Mirrors (pairs : List (Object × Object)) (history history' : List Exchange) : Prop :=
  List.Forall₂ (Exchange.Same (Paired pairs))
    (history.filter (Exchange.names (pairs.map Prod.fst))) history'

section Mirrors

variable {pairs : List (Object × Object)} {history history' : List Exchange}

theorem Paired.mem_fst {x x' : Object} (h : Paired pairs x x') : x ∈ pairs.map Prod.fst :=
  List.mem_map.mpr ⟨(x, x'), h, rfl⟩

theorem exists_paired {x : Object} (h : x ∈ pairs.map Prod.fst) : ∃ x', Paired pairs x x' := by
  obtain ⟨⟨_, x'⟩, hpair, rfl⟩ := List.mem_map.mp h
  exact ⟨x', hpair⟩

theorem forall_mem_of_forall₂ {α β : Type} {R : α → β → Prop} {p : α → Prop} {first : List α}
    {second : List β} (h : List.Forall₂ R first second) (hp : ∀ a b, R a b → p a) :
    ∀ a ∈ first, p a :=
  ((List.forall₂_and_left first second).mp (h.imp fun a b hab ↦ ⟨hp a b hab, hab⟩)).1

/-- Where one of the objects is named, all are. -/
theorem Mirrors.closed (h : Mirrors pairs history history') {exchange : Exchange}
    (hexchange : exchange ∈ history) (hnames : exchange.names (pairs.map Prod.fst) = true) :
    ∀ x ∈ exchange.objects, x ∈ pairs.map Prod.fst :=
  forall_mem_of_forall₂ h
    (fun _ _ hsame ↦ forall_mem_of_forall₂ hsame.objects fun _ _ hpair ↦ hpair.mem_fst)
    exchange (List.mem_filter.mpr ⟨hexchange, hnames⟩)

theorem Mirrors.circle_subset (h : Mirrors pairs history history') {x : Object}
    (hx : x ∈ pairs.map Prod.fst) : circle x history ⊆ pairs.map Prod.fst := by
  refine List.cons_subset.mpr ⟨hx, fun y hy ↦ ?_⟩
  obtain ⟨exchange, hexchange, hattached⟩ := List.mem_filterMap.mp hy
  have hobjects := Exchange.objects_of_attached? hattached
  refine h.closed hexchange (Exchange.names_iff.mpr ⟨x, ?_, hx⟩) y ?_
  · rw [hobjects]
    exact List.mem_cons_self
  · rw [hobjects]
    exact List.mem_cons_of_mem x (List.mem_singleton_self y)

/-- Nothing else in the history is about the object. -/
theorem Mirrors.about_filter (h : Mirrors pairs history history') {x : Object}
    (hx : x ∈ pairs.map Prod.fst) :
    about x (history.filter (Exchange.names (pairs.map Prod.fst))) = about x history := by
  have hcircle : circle x (history.filter (Exchange.names (pairs.map Prod.fst))) =
      circle x history := by
    unfold circle
    rw [List.filterMap_filter]
    congr 1
    refine List.filterMap_congr fun exchange hexchange ↦ ?_
    split_ifs with hnames
    · rfl
    · symm
      rw [Option.eq_none_iff_forall_ne_some]
      intro y hy
      refine hnames (Exchange.names_iff.mpr ⟨x, ?_, hx⟩)
      rw [Exchange.objects_of_attached? hy]
      exact List.mem_cons_self
  unfold about
  rw [hcircle, List.filter_filter]
  refine List.filter_congr fun exchange hexchange ↦ ?_
  rw [Bool.and_eq_left_iff_imp]
  intro hnames
  obtain ⟨y, hy, hcircle⟩ := Exchange.names_iff.mp hnames
  exact Exchange.names_iff.mpr ⟨y, hy, h.circle_subset hx hcircle⟩

theorem alike_of_mirrors (hunique : Relator.BiUnique (Paired pairs))
    (h : Mirrors pairs history history') {x x' : Object} (hx : Paired pairs x x') :
    Alike x x' history history' := by
  have habout := about_same hunique hx h
  rw [h.about_filter hx.mem_fst] at habout
  exact ⟨Paired pairs, hunique, hx, habout⟩

/-- Both histories go on with the same exchange. Objects that are paired from then on did not occur
before. -/
theorem Mirrors.snoc {pairs' : List (Object × Object)} (h : Mirrors pairs history history')
    (hpairs : pairs ⊆ pairs')
    (hnew : ∀ x ∈ objectsOf history, x ∈ pairs'.map Prod.fst → x ∈ pairs.map Prod.fst)
    {exchange exchange' : Exchange} (hsame : Exchange.Same (Paired pairs') exchange exchange')
    (hobjects : exchange.objects ≠ []) :
    Mirrors pairs' (history ++ [exchange]) (history' ++ [exchange']) := by
  have hold : history.filter (Exchange.names (pairs'.map Prod.fst)) =
      history.filter (Exchange.names (pairs.map Prod.fst)) := by
    refine List.filter_congr fun old hmem ↦ ?_
    rw [Bool.eq_iff_iff, Exchange.names_iff, Exchange.names_iff]
    refine exists_congr fun x ↦ and_congr_right fun hx ↦ ⟨hnew x (mem_objectsOf hmem hx), ?_⟩
    exact fun hown ↦ List.map_subset Prod.fst hpairs hown
  have hlast : exchange.names (pairs'.map Prod.fst) = true := by
    obtain ⟨x, hx⟩ := List.exists_mem_of_ne_nil _ hobjects
    have hown := forall_mem_of_forall₂ hsame.objects fun _ _ hpair ↦ hpair.mem_fst
    exact Exchange.names_iff.mpr ⟨x, hx, hown x hx⟩
  unfold Mirrors
  rw [List.filter_append, hold, List.filter_cons_of_pos hlast]
  exact List.rel_append (h.imp fun _ _ hold ↦ hold.mono fun _ _ hpair ↦ hpairs hpair)
    (.cons hsame .nil)

/-- What is said of other objects does not count. -/
theorem Mirrors.append_of_apart (h : Mirrors pairs history history') {later : List Exchange}
    (hlater : ∀ x ∈ objectsOf later, x ∉ pairs.map Prod.fst) :
    Mirrors pairs (history ++ later) history' := by
  have hnone : later.filter (Exchange.names (pairs.map Prod.fst)) = [] := by
    refine List.filter_eq_nil_iff.mpr fun exchange hexchange hnames ↦ ?_
    obtain ⟨x, hx, hown⟩ := Exchange.names_iff.mp hnames
    exact hlater x (mem_objectsOf hexchange hx) hown
  unfold Mirrors
  rw [List.filter_append, hnone, List.append_nil]
  exact h

end Mirrors

/-- Objects that the driver makes are new. -/
theorem Driver.AnswersLocally.fresh {driver : Driver σ} {start s t : σ}
    (hdriver : driver.AnswersLocally start) {history later : List Exchange}
    (hhistory : driver.Replies start history s) (hlater : driver.Replies s later t) :
    ∀ x ∈ madeIn later, x ∉ madeIn history := by
  induction later generalizing history s with
  | nil => exact fun _ hx ↦ absurd hx List.not_mem_nil
  | cons first rest ih =>
    obtain ⟨call, answer⟩ := first
    obtain ⟨hanswer, hrest⟩ := hlater
    intro x hx
    rcases List.mem_append.mp hx with hx | hx
    · obtain ⟨y, hmade, hnew⟩ :=
        hdriver.creates hhistory (Exchange.named_eq_nil_of_mem_made hx)
      rw [← hanswer, ← Driver.exchange, hmade] at hx
      rwa [List.mem_singleton.mp hx]
    · have hnext : driver.Replies start (history ++ [⟨call, answer⟩])
          (driver.answer call s).state := hhistory.append ⟨hanswer, rfl⟩
      exact fun hold ↦ ih hnext hrest x hx (mem_madeIn_append_left hold _)

end ShaderBuild
