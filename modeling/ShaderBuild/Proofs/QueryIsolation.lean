import ShaderBuild.Proofs.CannedGl

/-!
Queries and the errors of others. Queries are made one after the other, with any use of GL between
them. What a query replies depends on the answer to its own call and on whether that call raised an
error, and on nothing that waited before: up to `maxPending` errors are discarded, and a query that
is rejected leaves no more than that behind unless its call raised still more
(`queries_isolated`).
-/

set_option autoImplicit false
set_option relaxedAutoImplicit false

namespace ShaderBuild.Gl

/-- A query that is made straight through a GL function. -/
inductive Query where
  | active (interface : Interface) (program index : UInt32) (maxLength : Nat)
  | binary (program : UInt32) (length : Nat)
  deriving DecidableEq, Repr

namespace Query

abbrev Reply : Query → Type
  | .active _ _ _ _ => Option ActiveVariable
  | .binary _ _ => Code × Bytes

/-- The reply of a query that failed. -/
def rejected : (query : Query) → query.Reply
  | .active _ _ _ _ => none
  | .binary _ _ => (0, [])

/-- The call of a query. -/
def call (function : BinaryFunction) : Query → Call
  | .active interface program index maxLength =>
    .getActiveVariable interface program index (Int32.ofNat (nameBufferSize maxLength))
  | .binary program length => .getProgramBinary function program (Int32.ofNat length)

variable {γ : Type}

/-- Makes a query. -/
def make (gl : Implementation γ) (functions : Functions) :
    (query : Query) → Activity Deed γ query.Reply
  | .active interface program index maxLength =>
    describeVariable gl interface program index maxLength
  | .binary program length => fetchBinary gl functions program length

/-- The reply that the answer to the call makes. -/
def accepted (function : BinaryFunction) :
    (query : Query) → (query.call function).Answer → query.Reply
  | .active _ _ _ maxLength, answer =>
    let size := nameBufferSize maxLength
    let name := (Buffer.mk size answer.name).front (believed answer.length (Int32.ofNat size - 1))
    some { name := Text.decodeLenient name, size := answer.size, type := answer.type }
  | .binary _ length, answer =>
    (answer.format,
      (Buffer.mk length answer.payload).front (believed answer.written (Int32.ofNat length)))

/-- The record of a query that failed. -/
def failed : Query → Code → Log.Record
  | .active _ _ index _, code => .variableFailed index code
  | .binary _ _, code => .binaryFailed code

theorem make_eq_checked (gl : Implementation γ) {functions : Functions}
    {function : BinaryFunction} (hfunction : functions.binary = some function) (query : Query) :
    query.make gl functions =
      checked gl (query.call function) (query.accepted function) query.rejected query.failed := by
  cases query with
  | active interface program index maxLength => rfl
  | binary program length =>
    rw [make, fetchBinary, hfunction]
    rfl

theorem call_ne_getError (function : BinaryFunction) (query : Query) :
    query.call function ≠ .getError := by
  cases query <;> exact Call.noConfusion

end Query

/-! ### Queries in a row -/

variable {γ : Type}

/-- A turn: a query, or anything else that changes the state of GL. -/
inductive Turn (γ : Type) where
  | query (query : Query)
  | other (change : γ → γ)

/-- A query that was made: the state it started in and its reply. -/
structure Served (γ : Type) where
  query : Query
  start : γ
  reply : query.Reply

/-- The queries of the turns, in order. -/
def serve (gl : Implementation γ) (functions : Functions) : List (Turn γ) → γ → List (Served γ)
  | [], _ => []
  | .query query :: rest, s =>
    let ending := query.make gl functions s
    ⟨query, s, ending.value⟩ :: serve gl functions rest ending.state
  | .other change :: rest, s => serve gl functions rest (change s)

theorem exists_reply_of_mem_serve {gl : Implementation γ} {functions : Functions}
    {turns : List (Turn γ)} {s : γ} {served : Served γ}
    (h : served ∈ serve gl functions turns s) :
    served.reply = (served.query.make gl functions served.start).value := by
  induction turns generalizing s with
  | nil => exact absurd h List.not_mem_nil
  | cons turn rest ih =>
    cases turn with
    | query query =>
      rcases List.mem_cons.mp h with rfl | hrest
      · rfl
      · exact ih hrest
    | other change => exact ih h

section Queue

variable {gl : Implementation γ} {functions : Functions} {function : BinaryFunction}

/-- The errors that the call of the query raised itself. -/
def ErrorQueue.raisedBy (queue : ErrorQueue gl) (function : BinaryFunction) (served : Served γ) :
    List Code :=
  queue.raised (served.query.call function) (settled gl served.start)

/-- The reply depends on the call of the query alone: it is rejected if the call raised an error,
and else it is what the same answer makes where no error waits. -/
structure Served.Isolated (queue : ErrorQueue gl) (functions : Functions)
    (function : BinaryFunction) (served : Served γ) : Prop where
  rejects : queue.raisedBy function served ≠ [] → served.reply = served.query.rejected
  accepts : queue.raisedBy function served = [] →
    ∀ {δ : Type} {gl' : Implementation δ} (queue' : ErrorQueue gl') (t : δ),
      queue'.pending t = [] →
      queue'.raised (served.query.call function) (settled gl' t) = [] →
      (gl'.answer (served.query.call function) (settled gl' t)).1 =
        (gl.answer (served.query.call function) (settled gl served.start)).1 →
      served.reply = (served.query.make gl' functions t).value

theorem isolated_of_mem_serve (queue : ErrorQueue gl)
    (hfunction : functions.binary = some function) {turns : List (Turn γ)} {s : γ}
    {served : Served γ} (hserved : served ∈ serve gl functions turns s)
    (hpending : (queue.pending served.start).length ≤ maxPending) :
    served.Isolated queue functions function := by
  have hcall := served.query.call_ne_getError function
  have hreply := exists_reply_of_mem_serve hserved
  rw [Query.make_eq_checked gl hfunction] at hreply
  refine ⟨fun hraised ↦ ?_, fun hraised δ gl' queue' t hnone hraised' hanswer ↦ ?_⟩
  · rw [hreply]
    exact queue.checked_value_of_raised_ne_nil hcall hraised
  · have hnone' : (queue'.pending t).length ≤ maxPending := by
      rw [hnone]
      exact Nat.zero_le maxPending
    rw [hreply, Query.make_eq_checked gl' hfunction,
      queue.checked_value_of_raised_eq_nil hcall hpending hraised,
      queue'.checked_value_of_raised_eq_nil hcall hnone' hraised', hanswer]

/-- As long as other uses of GL leave few enough errors, so do the queries, unless a call raises
more than one error beyond what is discarded. -/
theorem pending_le_of_mem_serve (queue : ErrorQueue gl)
    (hfunction : functions.binary = some function) {turns : List (Turn γ)} {s : γ}
    (hother : ∀ change, .other change ∈ turns → ∀ t, (queue.pending t).length ≤ maxPending →
      (queue.pending (change t)).length ≤ maxPending)
    (hraised : ∀ served ∈ serve gl functions turns s,
      (queue.raisedBy function served).length ≤ maxPending + 1)
    (hpending : (queue.pending s).length ≤ maxPending) :
    ∀ served ∈ serve gl functions turns s,
      (queue.pending served.start).length ≤ maxPending := by
  induction turns generalizing s with
  | nil => exact fun served hserved ↦ absurd hserved List.not_mem_nil
  | cons turn rest ih =>
    have hother' := fun change hmem ↦ hother change (List.mem_cons_of_mem turn hmem)
    cases turn with
    | query query =>
      intro served hserved
      rcases List.mem_cons.mp hserved with rfl | hrest
      · exact hpending
      · -- The query was told one of the errors that its call raised, so one less is left behind.
        refine ih hother' (fun later hlater ↦ hraised later (List.mem_cons_of_mem _ hlater)) ?_
          served hrest
        have hleft := hraised _ List.mem_cons_self
        simp only [ErrorQueue.raisedBy] at hleft
        rw [Query.make_eq_checked gl hfunction,
          queue.length_pending_checked (query.call_ne_getError function) hpending]
        omega
    | other change =>
      exact ih hother' hraised (hother change List.mem_cons_self s hpending)

/-- A context that is lost costs a query `maxPending` errors before its call and one after it. -/
theorem make_of_lost {lost : Implementation γ}
    (hlost : ∀ s, (lost.answer .getError s).1 ≠ .noError)
    (hfunction : functions.binary = some function) (query : Query) (s : γ) :
    (query.make lost functions s).value = query.rejected ∧
      calls (query.make lost functions s).trail =
        List.replicate maxPending .getError ++ [query.call function, .getError] := by
  rw [Query.make_eq_checked lost hfunction]
  have herror := hlost (lost.answer (query.call function) (settled lost s)).2
  refine ⟨checked_value_of_error herror, ?_⟩
  obtain ⟨answer, code, htrail⟩ := @checked_trail_of_error _ _ lost (query.call function)
    (query.accepted function) query.rejected query.failed s herror
  rw [htrail, calls, List.filterMap_append, ← calls, calls_discardErrors_of_lost hlost]
  rfl

/-- No query is spoilt by the errors of others. -/
structure QueriesIsolated (queue : ErrorQueue gl) (functions : Functions)
    (function : BinaryFunction) : Prop where
  /-- Queries that never start with more than `maxPending` errors are isolated. -/
  isolated : ∀ (turns : List (Turn γ)) (s : γ),
    (∀ served ∈ serve gl functions turns s,
      (queue.pending served.start).length ≤ maxPending) →
    ∀ served ∈ serve gl functions turns s, served.Isolated queue functions function
  /-- What a query leaves behind is never too much for a later one, unless its call raised more than
  `maxPending + 1` errors. -/
  stays_isolated : ∀ (turns : List (Turn γ)) (s : γ),
    (∀ change, .other change ∈ turns → ∀ t, (queue.pending t).length ≤ maxPending →
      (queue.pending (change t)).length ≤ maxPending) →
    (∀ served ∈ serve gl functions turns s,
      (queue.raisedBy function served).length ≤ maxPending + 1) →
    (queue.pending s).length ≤ maxPending →
    ∀ served ∈ serve gl functions turns s, served.Isolated queue functions function
  /-- With more errors at its start a query is rejected, whatever its call answers. -/
  sharp : ∀ (query : Query) (s : γ), maxPending < (queue.pending s).length →
    (query.make gl functions s).value = query.rejected
  /-- Where there is always one more error, a query is rejected after a fixed number of calls. -/
  lost : ∀ {δ : Type} (lost : Implementation δ),
    (∀ s, (lost.answer .getError s).1 ≠ .noError) → ∀ (query : Query) (s : δ),
      (query.make lost functions s).value = query.rejected ∧
        calls (query.make lost functions s).trail =
          List.replicate maxPending .getError ++ [query.call function, .getError]

theorem queries_isolated (queue : ErrorQueue gl) (hfunction : functions.binary = some function) :
    QueriesIsolated queue functions function where
  isolated _ _ hpending served hserved :=
    isolated_of_mem_serve queue hfunction hserved (hpending served hserved)
  stays_isolated _ _ hother hraised hpending served hserved :=
    isolated_of_mem_serve queue hfunction hserved
      (pending_le_of_mem_serve queue hfunction hother hraised hpending served hserved)
  sharp query s hpending := by
    rw [Query.make_eq_checked gl hfunction]
    exact queue.checked_value_of_lt_pending (query.call_ne_getError function) hpending
  lost _ hlost query s := make_of_lost hlost hfunction query s

end Queue

theorem queries_isolated_cannedGl :
    let functions : Functions := { binary := some .core }
    functions.binary = some .core ∧
      QueriesIsolated (CannedGl.errorQueue Canned.simplePair) functions .core :=
  ⟨rfl, queries_isolated (CannedGl.errorQueue Canned.simplePair) rfl⟩

end ShaderBuild.Gl
