import Mathlib.Tactic.SplitIfs
import ShaderBuild.Proofs.DriverDialogue
import ShaderBuild.Report
import ShaderBuild.Writer

/-!
What a writer has taken of a report. A writer may take each piece in parts of any size. One that
never refuses ends up with the whole text; one that takes up to a number of bytes in all ends up
with that many bytes of the text, wherever the cut falls, and reports a failure if there were more.
-/

set_option autoImplicit false
set_option relaxedAutoImplicit false

namespace ShaderBuild

/-- The bytes that the writer took in a trail. -/
def written (trail : List Event) : Bytes := trail.flatMap Event.output

@[simp]
theorem written_nil : written [] = [] := rfl

@[simp]
theorem written_append (first rest : List Event) :
    written (first ++ rest) = written first ++ written rest := List.flatMap_append

@[simp]
theorem written_cons (event : Event) (rest : List Event) :
    written (event :: rest) = event.output ++ written rest := List.flatMap_cons

/-- Whether the event is an attempt to write a piece of the report. -/
def Event.isWrite : Event → Bool
  | .took _ => true
  | .balked _ => true
  | _ => false

/-- Nothing but attempts to write stands in the trail. -/
def OnlyWrites (trail : List Event) : Prop := ∀ event ∈ trail, event.isWrite = true

theorem OnlyWrites.append {first rest : List Event} (hfirst : OnlyWrites first)
    (hrest : OnlyWrites rest) : OnlyWrites (first ++ rest) :=
  List.forall_mem_append.mpr ⟨hfirst, hrest⟩

theorem OnlyWrites.exchanges_eq_nil {trail : List Event} (h : OnlyWrites trail) :
    exchanges trail = [] := by
  refine List.filterMap_eq_nil_iff.mpr fun event hevent ↦ ?_
  have hwrite := h event hevent
  cases event <;> first | rfl | simp [Event.isWrite] at hwrite

theorem Report.text_cons (piece : String) (rest : List String) :
    text (piece :: rest) = piece ++ text rest := String.join_cons

theorem Report.text_append (first rest : List String) :
    text (first ++ rest) = text first ++ text rest := String.join_append

namespace Text

theorem encode_append (first rest : String) :
    encode (first ++ rest) = encode first ++ encode rest := by
  simp [encode, String.toByteArray_append]

theorem encode_text_cons (piece : String) (rest : List String) :
    encode (Report.text (piece :: rest)) = encode piece ++ encode (Report.text rest) := by
  rw [Report.text_cons, encode_append]

theorem encode_text_append (first rest : List String) :
    encode (Report.text (first ++ rest)) =
      encode (Report.text first) ++ encode (Report.text rest) := by
  rw [Report.text_append, encode_append]

end Text

namespace Writer

variable {ω : Type} {writer : Writer ω}

/-! ### One piece -/

theorem writeAll_nil (s : ω) : writer.writeAll [] s = ⟨.ok (), [], s⟩ := by
  rw [writeAll]

theorem writeAll_of_error {bytes : Bytes} {s t : ω} {error : IoError} (hbytes : bytes ≠ [])
    (h : writer.write bytes s = (.error error, t)) :
    writer.writeAll bytes s = ⟨.error error, [.balked error], t⟩ := by
  obtain ⟨first, rest, rfl⟩ := List.exists_cons_of_ne_nil hbytes
  rw [writeAll]
  simp only [h]

theorem writeAll_of_zero {bytes : Bytes} {s t : ω} (hbytes : bytes ≠ [])
    (h : writer.write bytes s = (.ok 0, t)) :
    writer.writeAll bytes s = ⟨.error .nothingWritten, [.balked .nothingWritten], t⟩ := by
  obtain ⟨first, rest, rfl⟩ := List.exists_cons_of_ne_nil hbytes
  rw [writeAll]
  simp only [h]

theorem writeAll_of_ok {bytes : Bytes} {s t : ω} {more : Nat} (hbytes : bytes ≠ [])
    (h : writer.write bytes s = (.ok (more + 1), t)) :
    writer.writeAll bytes s =
      ⟨(writer.writeAll (bytes.drop (more + 1)) t).value,
        .took (bytes.take (more + 1)) :: (writer.writeAll (bytes.drop (more + 1)) t).trail,
        (writer.writeAll (bytes.drop (more + 1)) t).state⟩ := by
  obtain ⟨first, rest, rfl⟩ := List.exists_cons_of_ne_nil hbytes
  rw [writeAll]
  simp only [h, List.take_succ_cons, List.drop_succ_cons]

theorem length_drop_lt {bytes : Bytes} (more : Nat) (hbytes : bytes ≠ []) :
    (bytes.drop (more + 1)).length < bytes.length := by
  have hpos := List.length_pos_iff.mpr hbytes
  rw [List.length_drop]
  omega

/-- A fact about handing over one piece follows from what it says when nothing is left, when the
writer fails, when it takes nothing, and when it takes a part and the rest is handed over. -/
theorem writeAll_induction {motive : Bytes → ω → Ending Event ω (Except IoError Unit) → Prop}
    (nil : ∀ s, motive [] s ⟨.ok (), [], s⟩)
    (failed : ∀ bytes s error t, bytes ≠ [] → writer.write bytes s = (.error error, t) →
      motive bytes s ⟨.error error, [.balked error], t⟩)
    (ignored : ∀ bytes s t, bytes ≠ [] → writer.write bytes s = (.ok 0, t) →
      motive bytes s ⟨.error .nothingWritten, [.balked .nothingWritten], t⟩)
    (taken : ∀ bytes s more t ending, bytes ≠ [] → writer.write bytes s = (.ok (more + 1), t) →
      motive (bytes.drop (more + 1)) t ending →
      motive bytes s
        ⟨ending.value, .took (bytes.take (more + 1)) :: ending.trail, ending.state⟩)
    (bytes : Bytes) (s : ω) : motive bytes s (writer.writeAll bytes s) := by
  by_cases hbytes : bytes = []
  · rw [hbytes, writeAll_nil]
    exact nil s
  · rcases h : writer.write bytes s with ⟨error | count, t⟩
    · rw [writeAll_of_error hbytes h]
      exact failed bytes s error t hbytes h
    · cases count with
      | zero =>
        rw [writeAll_of_zero hbytes h]
        exact ignored bytes s t hbytes h
      | succ more =>
        have hshorter := length_drop_lt more hbytes
        rw [writeAll_of_ok hbytes h]
        exact taken bytes s more t _ hbytes h
          (writeAll_induction nil failed ignored taken (bytes.drop (more + 1)) t)
termination_by bytes.length

theorem onlyWrites_writeAll (bytes : Bytes) (s : ω) :
    OnlyWrites (writer.writeAll bytes s).trail := by
  refine writeAll_induction (motive := fun _ _ ending ↦ OnlyWrites ending.trail) ?_ ?_ ?_ ?_ bytes s
  · intro s event hevent
    exact absurd hevent List.not_mem_nil
  · intro bytes s error t _ _ event hevent
    rw [List.mem_singleton.mp hevent]
    rfl
  · intro bytes s t _ _ event hevent
    rw [List.mem_singleton.mp hevent]
    rfl
  · intro bytes s more t ending _ _ ih event hevent
    rcases List.mem_cons.mp hevent with rfl | h
    · rfl
    · exact ih event h

/-- Whatever the writer is, bytes that were handed over without a failure were all taken. -/
theorem written_writeAll_of_ok {bytes : Bytes} {s : ω}
    (h : (writer.writeAll bytes s).value = .ok ()) :
    written (writer.writeAll bytes s).trail = bytes := by
  refine writeAll_induction
    (motive := fun bytes _ ending ↦ ending.value = .ok () → written ending.trail = bytes)
    ?_ ?_ ?_ ?_ bytes s h
  · intro s _
    rfl
  · intro bytes s error t _ _ hvalue
    exact absurd hvalue nofun
  · intro bytes s t _ _ hvalue
    exact absurd hvalue nofun
  · intro bytes s more t ending _ _ ih hvalue
    rw [written_cons, Event.output, ih hvalue, List.take_append_drop]

/-- Whatever the writer is, of bytes that it failed to take the last ones are left. -/
theorem length_written_writeAll_of_error {bytes : Bytes} {s : ω} {error : IoError}
    (h : (writer.writeAll bytes s).value = .error error) :
    (written (writer.writeAll bytes s).trail).length < bytes.length := by
  refine writeAll_induction
    (motive := fun bytes _ ending ↦
      ending.value = .error error → (written ending.trail).length < bytes.length)
    ?_ ?_ ?_ ?_ bytes s h
  · intro s hvalue
    exact absurd hvalue nofun
  · intro bytes s error t hbytes _ _
    exact List.length_pos_iff.mpr hbytes
  · intro bytes s t hbytes _ _
    exact List.length_pos_iff.mpr hbytes
  · intro bytes s more t ending hbytes _ ih hvalue
    have hrest := ih hvalue
    rw [List.length_drop] at hrest
    rw [written_cons, Event.output, List.length_append, List.length_take]
    omega

/-! ### Writers -/

/-- Of every piece that is not empty, the writer takes something. -/
def NeverRefuses (writer : Writer ω) : Prop :=
  ∀ bytes s, bytes ≠ [] → ∃ more t, writer.write bytes s = (.ok (more + 1), t)

theorem flushAll_apply (s : ω) :
    writer.flushAll s =
      ⟨(writer.flush s).1, [.flushed (writer.flush s).1], (writer.flush s).2⟩ := rfl

/-- Every flush of the writer succeeds. -/
def AlwaysFlushes (writer : Writer ω) : Prop := ∀ s, ∃ t, writer.flush s = (.ok (), t)

/-- What the writer has taken so far can be told from its state. -/
structure Records (writer : Writer ω) (taken : ω → Bytes) : Prop where
  of_ok : ∀ {bytes s count t}, writer.write bytes s = (.ok count, t) →
    taken t = taken s ++ bytes.take count
  of_error : ∀ {bytes s error t}, writer.write bytes s = (.error error, t) → taken t = taken s
  of_flush : ∀ {s result t}, writer.flush s = (result, t) → taken t = taken s

/-- The writer takes `limit` bytes in all, in parts of any size. Then it fails at every piece that
is not empty, or takes nothing of it. -/
structure TakesUpTo (writer : Writer ω) (taken : ω → Bytes) (limit : Nat) : Prop where
  takes : ∀ bytes s, bytes ≠ [] → (taken s).length < limit →
    ∃ more t, writer.write bytes s = (.ok (more + 1), t) ∧ more < bytes.length ∧
      (taken s).length + (more + 1) ≤ limit
  refuses : ∀ bytes s, bytes ≠ [] → limit ≤ (taken s).length →
    (∃ error t, writer.write bytes s = (.error error, t)) ∨
      ∃ t, writer.write bytes s = (.ok 0, t)

/-- Of these bytes exactly the first `room` were taken, and to have no room for all is a failure. -/
structure Fills (room : Nat) (bytes : Bytes) (ending : Ending Event ω (Except IoError Unit)) :
    Prop where
  written_eq : written ending.trail = bytes.take room
  succeeds : bytes.length ≤ room → ending.value = .ok ()
  fails : room < bytes.length → ∃ cause, ending.value = .error cause

theorem Records.writeAll {taken : ω → Bytes} (h : writer.Records taken) (bytes : Bytes) (s : ω) :
    taken (writer.writeAll bytes s).state =
      taken s ++ written (writer.writeAll bytes s).trail := by
  refine writeAll_induction
    (motive := fun _ s ending ↦ taken ending.state = taken s ++ written ending.trail)
    ?_ ?_ ?_ ?_ bytes s
  · intro s
    simp
  · intro bytes s error t _ hwrite
    simpa [Event.output] using h.of_error hwrite
  · intro bytes s t _ hwrite
    simpa [Event.output] using h.of_ok hwrite
  · intro bytes s more t ending _ hwrite ih
    rw [ih, h.of_ok hwrite, written_cons, Event.output, List.append_assoc]

theorem NeverRefuses.writeAll (h : writer.NeverRefuses) (bytes : Bytes) (s : ω) :
    (writer.writeAll bytes s).value = .ok () ∧
      written (writer.writeAll bytes s).trail = bytes := by
  refine writeAll_induction
    (motive := fun bytes _ ending ↦ ending.value = .ok () ∧ written ending.trail = bytes)
    ?_ ?_ ?_ ?_ bytes s
  · intro s
    exact ⟨rfl, rfl⟩
  · intro bytes s error t hbytes hwrite
    obtain ⟨more, t', htakes⟩ := h bytes s hbytes
    simp [hwrite] at htakes
  · intro bytes s t hbytes hwrite
    obtain ⟨more, t', htakes⟩ := h bytes s hbytes
    simp [hwrite] at htakes
  · intro bytes s more t ending _ _ ih
    refine ⟨ih.1, ?_⟩
    rw [written_cons, Event.output, ih.2, List.take_append_drop]

section Limit

variable {taken : ω → Bytes} {limit : Nat}

theorem TakesUpTo.full_of_error (h : writer.TakesUpTo taken limit) {bytes : Bytes} {s t : ω}
    {error : IoError} (hbytes : bytes ≠ []) (hwrite : writer.write bytes s = (.error error, t)) :
    limit ≤ (taken s).length := by
  refine Nat.le_of_not_lt fun hroom ↦ ?_
  obtain ⟨more, t', htakes, -⟩ := h.takes bytes s hbytes hroom
  simp [hwrite] at htakes

theorem TakesUpTo.full_of_zero (h : writer.TakesUpTo taken limit) {bytes : Bytes} {s t : ω}
    (hbytes : bytes ≠ []) (hwrite : writer.write bytes s = (.ok 0, t)) :
    limit ≤ (taken s).length := by
  refine Nat.le_of_not_lt fun hroom ↦ ?_
  obtain ⟨more, t', htakes, -⟩ := h.takes bytes s hbytes hroom
  simp [hwrite] at htakes

theorem TakesUpTo.room_of_ok (h : writer.TakesUpTo taken limit) {bytes : Bytes} {s t : ω}
    {more : Nat} (hbytes : bytes ≠ []) (hwrite : writer.write bytes s = (.ok (more + 1), t)) :
    more < bytes.length ∧ (taken s).length + (more + 1) ≤ limit := by
  rcases Nat.lt_or_ge (taken s).length limit with hroom | hfull
  · obtain ⟨more', t', htakes, hfit⟩ := h.takes bytes s hbytes hroom
    rw [hwrite] at htakes
    obtain rfl : more = more' := by simpa using congrArg Prod.fst htakes
    exact hfit
  · rcases h.refuses bytes s hbytes hfull with ⟨error, t', hrefuses⟩ | ⟨t', hrefuses⟩ <;>
      simp [hwrite] at hrefuses

theorem Fills.of_full {bytes : Bytes} {s : ω} (hbytes : bytes ≠ [])
    (hfull : limit ≤ (taken s).length) (error : IoError) (t : ω) :
    Fills (limit - (taken s).length) bytes ⟨.error error, [.balked error], t⟩ := by
  have hpos := List.length_pos_iff.mpr hbytes
  refine ⟨?_, fun hle ↦ ?_, fun _ ↦ ⟨error, rfl⟩⟩
  · simp [Event.output, Nat.sub_eq_zero_of_le hfull]
  · omega

theorem TakesUpTo.writeAll (h : writer.TakesUpTo taken limit) (hrecords : writer.Records taken)
    (bytes : Bytes) (s : ω) (hs : (taken s).length ≤ limit) :
    Fills (limit - (taken s).length) bytes (writer.writeAll bytes s) := by
  refine writeAll_induction (motive := fun bytes s ending ↦ (taken s).length ≤ limit →
    Fills (limit - (taken s).length) bytes ending) ?_ ?_ ?_ ?_ bytes s hs
  · intro s _
    exact ⟨by simp, fun _ ↦ rfl, fun hlt ↦ absurd hlt (Nat.not_lt_zero _)⟩
  · intro bytes s error t hbytes hwrite _
    exact .of_full hbytes (h.full_of_error hbytes hwrite) error t
  · intro bytes s t hbytes hwrite _
    exact .of_full hbytes (h.full_of_zero hbytes hwrite) .nothingWritten t
  · intro bytes s more t ending hbytes hwrite ih hs
    obtain ⟨hmore, hfit⟩ := h.room_of_ok hbytes hwrite
    have htaken : (taken t).length = (taken s).length + (more + 1) := by
      rw [hrecords.of_ok hwrite, List.length_append, List.length_take]
      omega
    -- What was just taken is gone from the room and from the bytes alike.
    have hroom : limit - (taken s).length = (more + 1) + (limit - (taken t).length) := by omega
    have hrest := ih (by omega)
    have hlength : (bytes.drop (more + 1)).length = bytes.length - (more + 1) :=
      List.length_drop
    refine ⟨?_, fun hle ↦ hrest.succeeds (by omega), fun hlt ↦ hrest.fails (by omega)⟩
    rw [written_cons, Event.output, hrest.written_eq, hroom]
    exact List.take_add.symm

end Limit

/-! ### A report in pieces -/

theorem writePieces_cons (piece : String) (rest : List String) (s : ω) :
    writer.writePieces (piece :: rest) s =
      let first := writer.writeAll (Text.encode piece) s
      match first.value with
      | .ok () =>
        let second := writer.writePieces rest first.state
        ⟨second.value, first.trail ++ second.trail, second.state⟩
      | .error error => ⟨.error error, first.trail, first.state⟩ := by
  rw [writePieces, Activity.bind_apply]
  cases hvalue : (writer.writeAll (Text.encode piece) s).value <;> simp [hvalue]

theorem onlyWrites_writePieces (pieces : List String) (s : ω) :
    OnlyWrites (writer.writePieces pieces s).trail := by
  induction pieces generalizing s with
  | nil => exact fun event hevent ↦ absurd hevent List.not_mem_nil
  | cons piece rest ih =>
    have hfirst := @onlyWrites_writeAll _ writer (Text.encode piece) s
    rw [writePieces_cons]
    cases h : (writer.writeAll (Text.encode piece) s).value with
    | ok => simpa [h] using hfirst.append (ih _)
    | error error => simpa [h] using hfirst

theorem written_writePieces_of_ok {pieces : List String} {s : ω}
    (h : (writer.writePieces pieces s).value = .ok ()) :
    written (writer.writePieces pieces s).trail = Text.encode (Report.text pieces) := by
  induction pieces generalizing s with
  | nil => rfl
  | cons piece rest ih =>
    rw [writePieces_cons] at h ⊢
    cases hfirst : (writer.writeAll (Text.encode piece) s).value with
    | error error => simp [hfirst] at h
    | ok =>
      simp only [hfirst] at h ⊢
      rw [written_append, written_writeAll_of_ok hfirst, ih h, Text.encode_text_cons]

theorem length_written_writePieces_of_error {pieces : List String} {s : ω} {error : IoError}
    (h : (writer.writePieces pieces s).value = .error error) :
    (written (writer.writePieces pieces s).trail).length <
      (Text.encode (Report.text pieces)).length := by
  induction pieces generalizing s with
  | nil => exact absurd h nofun
  | cons piece rest ih =>
    rw [writePieces_cons] at h ⊢
    rw [Text.encode_text_cons, List.length_append]
    cases hfirst : (writer.writeAll (Text.encode piece) s).value with
    | error cause =>
      have hshort := length_written_writeAll_of_error hfirst
      simp only [hfirst]
      omega
    | ok =>
      simp only [hfirst] at h ⊢
      have hrest := ih h
      rw [written_append, written_writeAll_of_ok hfirst, List.length_append]
      omega

theorem Records.writePieces {taken : ω → Bytes} (h : writer.Records taken) (pieces : List String)
    (s : ω) :
    taken (writer.writePieces pieces s).state =
      taken s ++ written (writer.writePieces pieces s).trail := by
  induction pieces generalizing s with
  | nil => simp [Writer.writePieces]
  | cons piece rest ih =>
    have hfirst := h.writeAll (Text.encode piece) s
    rw [writePieces_cons]
    cases hvalue : (writer.writeAll (Text.encode piece) s).value with
    | ok => simp [hvalue, ih, hfirst]
    | error error => simpa [hvalue] using hfirst

theorem NeverRefuses.writePieces (h : writer.NeverRefuses) (pieces : List String) (s : ω) :
    (writer.writePieces pieces s).value = .ok () ∧
      written (writer.writePieces pieces s).trail = Text.encode (Report.text pieces) := by
  induction pieces generalizing s with
  | nil => exact ⟨rfl, rfl⟩
  | cons piece rest ih =>
    obtain ⟨hvalue, hwritten⟩ := h.writeAll (Text.encode piece) s
    have hrest := ih (writer.writeAll (Text.encode piece) s).state
    rw [writePieces_cons, Text.encode_text_cons]
    simp [hvalue, hwritten, hrest]

theorem TakesUpTo.writePieces {taken : ω → Bytes} {limit : Nat}
    (h : writer.TakesUpTo taken limit) (hrecords : writer.Records taken) (pieces : List String)
    (s : ω) (hs : (taken s).length ≤ limit) :
    Fills (limit - (taken s).length) (Text.encode (Report.text pieces))
      (writer.writePieces pieces s) := by
  induction pieces generalizing s with
  | nil => exact ⟨by simp [Writer.writePieces, Report.text, Text.encode], fun _ ↦ rfl,
      fun hlt ↦ absurd hlt (Nat.not_lt_zero _)⟩
  | cons piece rest ih =>
    have hfirst := h.writeAll hrecords (Text.encode piece) s hs
    have htaken := hrecords.writeAll (Text.encode piece) s
    rw [writePieces_cons, Text.encode_text_cons]
    rcases Nat.lt_or_ge (limit - (taken s).length) (Text.encode piece).length with hlt | hle
    · obtain ⟨cause, hvalue⟩ := hfirst.fails hlt
      refine ⟨?_, fun hfit ↦ ?_, fun _ ↦ ⟨cause, by simp [hvalue]⟩⟩
      · simp [hvalue, hfirst.written_eq, List.take_append, Nat.sub_eq_zero_of_le (Nat.le_of_lt hlt)]
      · rw [List.length_append] at hfit
        omega
    · have hvalue := hfirst.succeeds hle
      have hwritten := hfirst.written_eq
      rw [List.take_of_length_le hle] at hwritten
      have hlength := congrArg List.length htaken
      rw [hwritten, List.length_append] at hlength
      have hrest := ih (writer.writeAll (Text.encode piece) s).state (by omega)
      have hroom : limit - (taken (writer.writeAll (Text.encode piece) s).state).length =
          limit - (taken s).length - (Text.encode piece).length := by omega
      rw [hroom] at hrest
      refine ⟨?_, fun hfit ↦ ?_, fun hmore ↦ ?_⟩
      · simp [hvalue, hwritten, hrest.written_eq, List.take_append, List.take_of_length_le hle]
      · rw [List.length_append] at hfit
        simpa [hvalue] using hrest.succeeds (by omega)
      · rw [List.length_append] at hmore
        simpa [hvalue] using hrest.fails (by omega)

end Writer

/-! ### Sinks -/

namespace Sink

variable {sink : Sink}

theorem write_of_room {bytes : Bytes} {content : Content}
    (h : sink.room content bytes.length ≠ 0) :
    sink.writer.write bytes content =
      (.ok (sink.room content bytes.length),
        { content with
          pieces := bytes.take (sink.room content bytes.length) :: content.pieces }) := by
  simp [writer, h]

theorem write_of_full {bytes : Bytes} {content : Content} (hbytes : bytes ≠ [])
    (h : sink.room content bytes.length = 0) :
    (∃ error, sink.writer.write bytes content = (.error error, content)) ∨
      sink.writer.write bytes content = (.ok 0, content) := by
  simp only [writer, h, hbytes, ne_eq, not_false_eq_true, and_self, if_true]
  cases sink.refusal with
  | fails error => exact .inl ⟨error, rfl⟩
  | takesNothing => exact .inr rfl

theorem exists_write_of_room {bytes : Bytes} {content : Content}
    (h : sink.room content bytes.length ≠ 0) :
    ∃ more after, sink.writer.write bytes content = (.ok (more + 1), after) ∧
      more + 1 = sink.room content bytes.length := by
  obtain ⟨more, hmore⟩ := Nat.exists_eq_succ_of_ne_zero h
  exact ⟨more, _, by rw [write_of_room h, hmore], hmore.symm⟩

theorem neverRefuses_writer (h : sink.limit = none) : sink.writer.NeverRefuses := by
  intro bytes content hbytes
  have hroom : sink.room content bytes.length = bytes.length := by simp only [room, h]
  have hpos := List.length_pos_iff.mpr hbytes
  obtain ⟨more, after, hwrite, -⟩ := @exists_write_of_room sink bytes content (by omega)
  exact ⟨more, after, hwrite⟩

theorem alwaysFlushes_writer (h : sink.flushError = none) : sink.writer.AlwaysFlushes := by
  intro content
  refine ⟨{ content with flushes := content.flushes + 1 }, ?_⟩
  simp only [writer, h]

theorem length_bytes (content : Content) : content.bytes.length = content.size := by
  have hfold : ∀ (pieces : List Bytes) (start : Nat),
      pieces.foldl (fun size piece ↦ size + piece.length) start =
        start + (pieces.map List.length).sum := by
    intro pieces
    induction pieces with
    | nil => simp
    | cons piece rest ih =>
      intro start
      rw [List.foldl_cons, ih, List.map_cons, List.sum_cons, Nat.add_assoc]
  simp [Content.bytes, Content.size, hfold, List.length_flatten, List.sum_reverse]

theorem records_writer : sink.writer.Records Content.bytes := by
  have hwrite : ∀ bytes content,
      sink.writer.write bytes content = (.ok (sink.room content bytes.length),
        { content with
          pieces := bytes.take (sink.room content bytes.length) :: content.pieces }) ∨
      (∃ error, sink.writer.write bytes content = (.error error, content)) ∨
      sink.writer.write bytes content = (.ok 0, content) := by
    intro bytes content
    by_cases hroom : sink.room content bytes.length = 0
    · by_cases hbytes : bytes = []
      · left
        simp [writer, hbytes]
      · exact .inr (write_of_full hbytes hroom)
    · exact .inl (write_of_room hroom)
  refine ⟨?_, ?_, ?_⟩
  · intro bytes content count after h
    rcases hwrite bytes content with heq | ⟨error, heq⟩ | heq <;> rw [heq] at h <;>
      simp only [Prod.mk.injEq, Except.ok.injEq, reduceCtorEq, false_and] at h
    · rw [← h.1, ← h.2]
      simp [Content.bytes]
    · rw [← h.1, ← h.2]
      simp
  · intro bytes content error after h
    rcases hwrite bytes content with heq | ⟨error, heq⟩ | heq <;> rw [heq] at h <;>
      simp only [Prod.mk.injEq, reduceCtorEq, false_and] at h
    rw [h.2]
  · intro content result after h
    simp only [writer] at h
    split at h <;> rw [← (Prod.mk.inj h).2] <;> rfl

theorem takesUpTo_writer {limit : Nat} (h : sink.limit = some limit) :
    sink.writer.TakesUpTo Content.bytes limit := by
  have hroom : ∀ content count, sink.room content count = min count (limit - content.size) := by
    intro content count
    rw [room, h]
  refine ⟨fun bytes content hbytes hlt ↦ ?_, fun bytes content hbytes hfull ↦ ?_⟩
  · have hpos := List.length_pos_iff.mpr hbytes
    rw [length_bytes] at hlt ⊢
    have hcount := hroom content bytes.length
    obtain ⟨more, after, hwrite, hmore⟩ := @exists_write_of_room sink bytes content (by omega)
    exact ⟨more, after, hwrite, by omega, by omega⟩
  · rw [length_bytes] at hfull
    have hnone : sink.room content bytes.length = 0 := by
      rw [hroom]
      omega
    rcases write_of_full hbytes hnone with ⟨error, heq⟩ | heq
    · exact .inl ⟨error, content, heq⟩
    · exact .inr ⟨content, heq⟩

end Sink

end ShaderBuild
