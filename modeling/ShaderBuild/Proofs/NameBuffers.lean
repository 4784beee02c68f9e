import ShaderBuild.Driver.Gles
import ShaderBuild.Proofs.BuildTrails
import ShaderBuild.Proofs.LenientDecoding
import ShaderBuild.Proofs.QueryTrails
import ShaderBuild.Proofs.RunDialogue

/-!
Buffers for the names of variables. GL says how long the longest name is, where a variable is
described it says how long that name is, and neither need be true. Whatever is reported, GL is told
the size of a buffer exactly, there is room for no negative number of bytes in it, and the name that
is read out of it is made of the bytes in that room only (`Gles.activeVariables_buffered`).
-/

set_option autoImplicit false
set_option relaxedAutoImplicit false

namespace ShaderBuild

namespace Gl

/-! ### The size of a buffer -/

/-- The buffer has the size of the longest name that was reported, or 256 bytes where none was. That
size is passed as it is, and one less is the most that a name can be said to take. -/
structure SizedFor (longest : Int32) (buffer : Buffer) (passed : Int32) : Prop where
  size_of_reported : 0 < longest.toInt → (buffer.size : Int) = longest.toInt
  size_of_unreported : longest.toInt ≤ 0 → buffer.size = 256
  size_pos : 1 ≤ buffer.size
  size_le : buffer.size ≤ 2147483647
  passed_eq : passed.toInt = buffer.toList.length
  room_eq : (passed - 1).toInt = passed.toInt - 1
  room_nonneg : 0 ≤ (passed - 1).toInt

theorem nameBufferSize_toNatClampNeg (longest : Int32) :
    nameBufferSize longest.toNatClampNeg =
      if 0 < longest.toInt then longest.toInt.toNat else 256 := by
  rw [nameBufferSize, toNatClampNeg_eq_toNat_max]
  split_ifs <;> omega

theorem sizedFor_nameBufferSize (longest : Int32) (written : Bytes) :
    SizedFor longest ⟨nameBufferSize longest.toNatClampNeg, written⟩
      (Int32.ofNat (nameBufferSize longest.toNatClampNeg)) := by
  have hsize := nameBufferSize_toNatClampNeg longest
  have hpos := nameBufferSize_pos longest.toNatClampNeg
  have hlt : nameBufferSize longest.toNatClampNeg < 2 ^ 31 := by
    have hlongest := longest.toInt_lt
    rw [hsize]
    split_ifs <;> omega
  have hpassed := Int32.toInt_ofNat_of_lt hlt
  have hone : (1 : Int32) ≤ Int32.ofNat (nameBufferSize longest.toNatClampNeg) := by
    rw [Int32.le_iff_toInt_le, hpassed]
    exact Int.ofNat_le.mpr hpos
  have hroom := Int32.toInt_sub_of_le _ 1 (by decide) hone
  constructor
  · intro hreported
    rw [hsize, if_pos hreported]
    exact Int.toNat_of_nonneg (Int.le_of_lt hreported)
  · intro hunreported
    rw [hsize, if_neg (Int.not_lt.mpr hunreported)]
  · exact hpos
  · exact Nat.le_of_lt_succ hlt
  · rw [hpassed, Buffer.length_toList]
  · exact hroom
  · rw [hroom]
    exact Int.sub_nonneg_of_le (Int32.le_iff_toInt_le.mp hone)

/-! ### The name in a buffer -/

/-- The name is what the bytes read as that there was room for. -/
structure NameRead (bytes : Bytes) (room : Nat) (name : String) : Prop where
  name_eq : name = Text.decodeLenient bytes
  length_le : name.length ≤ room
  utf8ByteSize_le : name.utf8ByteSize ≤ 3 * room
  /-- Well-formed bytes are those of the name. -/
  encode_eq : ∀ text, Text.decode? bytes = some text → Text.encode name = bytes
  /-- To read the name once more changes nothing. -/
  decodeLenient_encode : Text.decodeLenient (Text.encode name) = name

theorem nameRead_decodeLenient {bytes : Bytes} {room : Nat} (h : bytes.length ≤ room) :
    NameRead bytes room (Text.decodeLenient bytes) := by
  have hsize := Text.length_flatMap_lenientChars_le bytes
  have hchars := Text.length_lenientChars_le bytes
  refine ⟨rfl, ?_, ?_, fun text htext ↦ ?_, Text.decodeLenient_encode _⟩
  · rw [Text.decodeLenient, String.length_ofList]
    omega
  · rw [← Text.length_encode, Text.encode_eq_flatMap, Text.decodeLenient, String.toList_ofList]
    omega
  · rw [Text.decodeLenient_of_decode? htext, Text.encode_of_decode? htext]

/-- What is said of the length of a name, and the room there is for it. -/
theorem believed_eq_toNat_min {longest : Int32} {buffer : Buffer} {passed : Int32}
    (h : SizedFor longest buffer passed) (reported : Int32) :
    believed reported (passed - 1) =
      (min (max reported.toInt 0) (buffer.size - 1 : Nat)).toNat := by
  have hroom := h.room_eq
  have hpassed := h.passed_eq
  have hpos := h.size_pos
  rw [Buffer.length_toList] at hpassed
  rw [believed]
  omega

/-- What GL says of the variable at an index, and the trail of asking it. The buffer is as GL left
it, with zeros behind what was written. -/
inductive NameTrail (interface : Interface) (program index : UInt32) (longest : Int32) :
    Option ActiveVariable → List Deed → Prop
  | flagged (passed : Int32) (buffer : Buffer) (discarded : List Deed) (answer : VariableAnswer)
      (code : Code) (hwritten : buffer.written = answer.name)
      (hsized : SizedFor longest buffer passed)
      (hdiscarded : DiscardTrail maxPending discarded) (hcode : code ≠ .noError) :
    NameTrail interface program index longest none
      (discarded ++ [.gl (.getActiveVariable interface program index passed) answer,
        .gl .getError code, .logged (.variableFailed index code)])
  | described (passed : Int32) (buffer : Buffer) (discarded : List Deed) (answer : VariableAnswer)
      (name : String) (hwritten : buffer.written = answer.name)
      (hsized : SizedFor longest buffer passed)
      (hdiscarded : DiscardTrail maxPending discarded)
      (hname : NameRead
        (buffer.toList.take (min (max answer.length.toInt 0) (buffer.size - 1 : Nat)).toNat)
        (buffer.size - 1) name) :
    NameTrail interface program index longest
      (some { name, size := answer.size, type := answer.type })
      (discarded ++ [.gl (.getActiveVariable interface program index passed) answer,
        .gl .getError .noError])

theorem conducts_describeVariable {γ : Type} {machine : Machine γ} (interface : Interface)
    (program index : UInt32) (longest : Int32) :
    machine.Conducts
      (describeVariable machine.gl interface program index longest.toNatClampNeg)
      (NameTrail interface program index longest) := by
  let query := Query.active interface program index longest.toNatClampNeg
  refine (conducts_checked (query.call .core) (query.accepted .core) query.rejected
    query.failed).mono fun reply trail htrail ↦ ?_
  cases htrail with
  | accepted discarded hdiscarded answer =>
    have hsized := sizedFor_nameBufferSize longest answer.name
    refine .described _ _ discarded answer _ rfl hsized hdiscarded ?_
    rw [← believed_eq_toNat_min hsized, ← Buffer.front_eq_take]
    refine nameRead_decodeLenient ?_
    rw [Buffer.length_front, believed_eq_toNat_min hsized]
    omega
  | rejected discarded hdiscarded answer code hcode =>
    exact .flagged _ _ discarded answer code rfl (sizedFor_nameBufferSize longest answer.name)
      hdiscarded hcode

/-- The answers are those for the variables from `index` on. -/
def NamesFrom (interface : Interface) (program : UInt32) (longest : Int32) (index : Nat)
    (answers : List MemberAnswer) : Prop :=
  ∀ (position : Nat) (answer : MemberAnswer), answers[position]? = some answer →
    NameTrail interface program (.ofNat (index + position)) longest answer.1 answer.2

theorem NamesFrom.cons {interface : Interface} {program : UInt32} {longest : Int32} {index : Nat}
    {first : MemberAnswer} {rest : List MemberAnswer}
    (hfirst : NameTrail interface program (.ofNat index) longest first.1 first.2)
    (hrest : NamesFrom interface program longest (index + 1) rest) :
    NamesFrom interface program longest index (first :: rest) := by
  intro position answer hanswer
  cases position with
  | zero =>
    obtain rfl := Option.some.inj hanswer
    exact hfirst
  | succ position =>
    rw [List.getElem?_cons_succ] at hanswer
    rw [← Nat.add_assoc, Nat.add_right_comm]
    exact hrest position answer hanswer

end Gl

/-! ### The variables of a program -/

namespace Gles

variable {γ : Type} {machine : Machine γ}

/-- The active variables of a program, and the trail of asking for them. The longest name is asked
for once, and every variable with a buffer for it. -/
inductive BufferedTrail (interface : Interface) (program : ProgramId) :
    List Variable → List Event → Prop
  | absent (count : Int32) (hcount : count ≤ 0) :
    BufferedTrail interface program []
      [.asked (.parameter program interface.countParameter) count
        [.gl (.getProgram (programName program) interface.countParameter) count]]
  | present (count longest : Int32) (answers : List MemberAnswer) (hcount : ¬ count ≤ 0)
      (hlength : answers.length = count.toNatClampNeg)
      (hnames : Gl.NamesFrom interface (programName program) longest 0 answers) :
    BufferedTrail interface program (describedMembers answers)
      (.asked (.parameter program interface.countParameter) count
          [.gl (.getProgram (programName program) interface.countParameter) count] ::
        .asked (.parameter program interface.maxLengthParameter) longest
            [.gl (.getProgram (programName program) interface.maxLengthParameter) longest] ::
          membersTrail interface program longest.toNatClampNeg 0 answers)

theorem backs_describeFrom (context : Context) (interface : Interface) (program : ProgramId)
    (longest : Int32) (index count : Nat) :
    machine.Backs
      (describeFrom (driver machine.gl context) interface program longest.toNatClampNeg index
        count)
      fun members trail ↦ ∃ answers : List MemberAnswer, answers.length = count ∧
        Gl.NamesFrom interface (programName program) longest index answers ∧
        members = describedMembers answers ∧
        trail = membersTrail interface program longest.toNatClampNeg index answers := by
  induction count generalizing index with
  | zero => exact Machine.backs_pure ⟨[], rfl, nofun, rfl, rfl⟩
  | succ count ih =>
    rw [describeFrom]
    refine Machine.backs_ask_bind (Gl.conducts_describeVariable interface (programName program)
      (.ofNat index) longest) fun described within hname ↦ ?_
    cases described with
    | some described =>
      refine Machine.backs_bind (ih (index + 1)) fun rest trail hrest ↦ Machine.backs_pure ?_
      obtain ⟨answers, hlength, hnames, rfl, rfl⟩ := hrest
      exact ⟨(some described, within) :: answers, by simp [hlength], .cons hname hnames,
        by simp [describedMembers], by simp [membersTrail]⟩
    | none =>
      refine Machine.backs_log_bind ((ih (index + 1)).mono fun rest trail hrest ↦ ?_)
      obtain ⟨answers, hlength, hnames, rfl, rfl⟩ := hrest
      exact ⟨(none, within) :: answers, by simp [hlength], .cons hname hnames,
        by simp [describedMembers], by simp [membersTrail]⟩

/-- Every variable is asked for with a buffer of a size that GL is told exactly, and its name is
made of the bytes that there was room for, whatever GL reports. -/
theorem activeVariables_buffered (machine : Machine γ) (context : Context) (interface : Interface)
    (program : ProgramId) (s : γ) :
    let ending := activeVariables (driver machine.gl context) interface program s
    machine.Performs s (ending.trail.flatMap Event.deeds) ending.state ∧
      BufferedTrail interface program ending.value ending.trail := by
  suffices hbacks : machine.Backs (activeVariables (driver machine.gl context) interface program)
      (BufferedTrail interface program) from hbacks s
  unfold activeVariables
  refine Machine.backs_ask_bind (Machine.conducts_gl _) fun count counted hcounted ↦ ?_
  subst hcounted
  split_ifs with hcount
  · exact Machine.backs_pure (.absent count hcount)
  · refine Machine.backs_ask_bind (Machine.conducts_gl _) fun longest measured hmeasured ↦ ?_
    subst hmeasured
    refine (backs_describeFrom context interface program longest 0 _).mono
      fun members trail hmembers ↦ ?_
    obtain ⟨answers, hlength, hnames, rfl, rfl⟩ := hmembers
    exact .present count longest answers hcount hlength hnames

end Gles

end ShaderBuild
