import Mathlib.Algebra.Group.Nat.Defs
import Mathlib.Data.List.Forall2
import Mathlib.Data.List.ReduceOption
import ShaderBuild.Proofs.RunDialogue

/-!
The variables of a program, as its driver tells them. Every index below the count is asked for once
and in order. An index is either described, and then has one variable in the list, or rejected, and
then has one record; so nothing is lost, doubled, moved or made up, whatever the driver answers and
however its answers change on the way. A linked program has its attributes from the answers about
attributes and its uniforms from those about uniforms (`reflection_exact`).
-/

set_option autoImplicit false
set_option relaxedAutoImplicit false

namespace ShaderBuild

variable {σ : Type} {driver : Driver σ}

/-! ### Records of a trail -/

/-- The records of a trail that the driver had no part in, in order. -/
def recordsOf (trail : List Event) : List Log.Record := trail.filterMap Event.record?

@[simp]
theorem recordsOf_nil : recordsOf [] = [] := rfl

@[simp]
theorem recordsOf_append (first rest : List Event) :
    recordsOf (first ++ rest) = recordsOf first ++ recordsOf rest := List.filterMap_append

@[simp]
theorem recordsOf_asked_cons (call : Call) (answer : call.Answer) (within : List Deed)
    (rest : List Event) :
    recordsOf (.asked call answer within :: rest) = recordsOf rest := rfl

@[simp]
theorem recordsOf_logged_cons (record : Log.Record) (rest : List Event) :
    recordsOf (.logged record :: rest) = record :: recordsOf rest := rfl

/-! ### Described variables -/

/-- The variable is what the driver described: under the same name, with the size raised to one if
it is less, and with the type of the code. -/
structure ActiveVariable.Becomes (described : ActiveVariable) (member : Variable) : Prop where
  name_eq : member.name = described.name
  arraySize_eq : (member.arraySize.toNat : Int) = max described.size.toInt 1
  type_eq : member.type = .ofCode described.type

theorem toNat_toUInt32_of_nonneg {size : Int32} (h : 0 ≤ size.toInt) :
    (size.toUInt32.toNat : Int) = size.toInt := by
  have hbits : size.toInt = if 2 * size.toUInt32.toNat < 2 ^ 32 then (size.toUInt32.toNat : Int)
      else size.toUInt32.toNat - (2 ^ 32 : Nat) := BitVec.toInt_eq_toNat_cond size.toBitVec
  have hlt : size.toUInt32.toNat < 2 ^ 32 := size.toUInt32.toNat_lt
  split_ifs at hbits <;> omega

theorem ActiveVariable.becomes_toVariable (described : ActiveVariable) :
    described.Becomes described.toVariable := by
  refine ⟨rfl, ?_, rfl⟩
  have hone : (1 : Int32).toInt = 1 := rfl
  by_cases hsmall : described.size < 1
  · have hsize : described.toVariable.arraySize = 1 := if_pos hsmall
    have hlt := Int32.lt_iff_toInt_lt.mp hsmall
    have hvalue : (1 : UInt32).toNat = 1 := rfl
    rw [hsize]
    omega
  · have hsize : described.toVariable.arraySize = described.size.toUInt32 := if_neg hsmall
    have hge := mt Int32.lt_iff_toInt_lt.mpr hsmall
    rw [hsize, toNat_toUInt32_of_nonneg (by omega)]
    omega

theorem ActiveVariable.Becomes.bounds {described : ActiveVariable} {member : Variable}
    (h : described.Becomes member) :
    1 ≤ member.arraySize.toNat ∧ member.arraySize.toNat ≤ 2 ^ 31 - 1 := by
  have hsize := h.arraySize_eq
  have hlt := described.size.toInt_lt
  omega

theorem describedMembers_eq (answers : List MemberAnswer) :
    describedMembers answers =
      (answers.map Prod.fst).reduceOption.map ActiveVariable.toVariable := by
  simp [describedMembers, List.reduceOption, List.filterMap_map, List.map_filterMap]

/-! ### Rejected indexes -/

/-- The places of the rejections among the answers, counted from `index` on. -/
def rejectedFrom (index : Nat) (answers : List (Option ActiveVariable)) : List Nat :=
  ((answers.zipIdx index).filter fun entry ↦ entry.1.isNone).map Prod.snd

theorem mem_rejectedFrom_zero_iff (answers : List (Option ActiveVariable)) (index : Nat) :
    index ∈ rejectedFrom 0 answers ↔ answers[index]? = some none := by
  simp [rejectedFrom, List.mem_zipIdx_iff_getElem?]

theorem pairwise_rejectedFrom (index : Nat) (answers : List (Option ActiveVariable)) :
    (rejectedFrom index answers).Pairwise (· < ·) := by
  have hsublist : (rejectedFrom index answers).Sublist (List.range' index answers.length) := by
    rw [← List.zipIdx_map_snd]
    exact List.filter_sublist.map Prod.snd
  exact List.Pairwise.sublist hsublist List.pairwise_lt_range'

/-- Every answer is a description or a rejection. -/
theorem length_reduceOption_add_length_rejectedFrom (index : Nat)
    (answers : List (Option ActiveVariable)) :
    answers.reduceOption.length + (rejectedFrom index answers).length = answers.length := by
  have hrejected : (rejectedFrom index answers).length =
      (answers.filter Option.isNone).length := by
    conv_rhs => rw [← List.zipIdx_map_fst index answers, List.filter_map, List.length_map]
    rw [rejectedFrom, List.length_map]
    rfl
  rw [hrejected, ← List.length_eq_reduceOption_length_add_filter_none]

/-- A rejection leaves one record, in its turn. -/
theorem recordsOf_membersTrail (interface : Interface) (program : ProgramId)
    (maxLength index : Nat) (answers : List MemberAnswer) :
    recordsOf (membersTrail interface program maxLength index answers) =
      (rejectedFrom index (answers.map Prod.fst)).map fun position ↦
        .rejectedVariable interface (.ofNat position) := by
  induction answers generalizing index with
  | nil => rfl
  | cons answer rest ih =>
    obtain ⟨described, within⟩ := answer
    have hrest := ih (index + 1)
    cases described with
    | none => simpa [membersTrail, rejectedFrom] using hrest
    | some described => simpa [membersTrail, rejectedFrom] using hrest

/-! ### One interface -/

/-- The places at which the driver rejected the index. -/
def InterfaceReplies.rejected (replies : InterfaceReplies) : List Nat :=
  rejectedFrom 0 replies.members

/-- The record of a rejected index. -/
abbrev rejection (interface : Interface) (index : Nat) : Log.Record :=
  .rejectedVariable interface (.ofNat index)

/-- The list and the trail are what the replies about an interface make of them. -/
structure InterfaceReplies.Reflected (replies : InterfaceReplies) (interface : Interface)
    (program : ProgramId) (members : List Variable) (trail : List Event) : Prop where
  /-- Without variables there is one question. -/
  absent : replies.count ≤ 0 → members = [] ∧
    exchanges trail = [⟨.parameter program interface.countParameter, replies.count⟩]
  /-- Else the longest name is asked for once, and then every index in order with that length. -/
  present : 0 < replies.count → exchanges trail =
    ⟨.parameter program interface.countParameter, replies.count⟩ ::
      ⟨.parameter program interface.maxLengthParameter, replies.longest⟩ ::
        replies.members.zipIdx.map fun (answer, index) ↦
          ⟨.activeVariable interface program (.ofNat index) (max replies.longest.toInt 0).toNat,
            answer⟩
  toNat_index : ∀ index < replies.members.length, (UInt32.ofNat index).toNat = index
  describes : List.Forall₂ ActiveVariable.Becomes replies.members.reduceOption members
  records_eq : recordsOf trail = replies.rejected.map (rejection interface)
  mem_rejected_iff : ∀ index, index ∈ replies.rejected ↔ replies.members[index]? = some none
  increasing : replies.rejected.Pairwise (· < ·)
  warns : ∀ index ∈ replies.rejected, (rejection interface index).level = .warn ∧
    (rejection interface index).text =
      "driver rejected active " ++ interface.memberName ++ " #" ++ toString index
  length_eq : members.length + (recordsOf trail).length = (max replies.count.toInt 0).toNat
  bounds : ∀ member ∈ members,
    1 ≤ member.arraySize.toNat ∧ member.arraySize.toNat ≤ 2 ^ 31 - 1

theorem InterfaceReplies.toNat_ofNat {replies : InterfaceReplies} {index : Nat}
    (h : index < replies.members.length) : (UInt32.ofNat index).toNat = index := by
  have hlength := replies.length_members
  have hclamp := toNatClampNeg_eq_toNat_max replies.count
  have hlt := replies.count.toInt_lt
  refine UInt32.toNat_ofNat_of_lt' ?_
  rw [UInt32.size]
  omega

theorem text_rejection (interface : Interface) {index : Nat}
    (h : (UInt32.ofNat index).toNat = index) :
    (rejection interface index).text =
      "driver rejected active " ++ interface.memberName ++ " #" ++ toString index := by
  have htext : (rejection interface index).text =
      "driver rejected active " ++ interface.memberName ++ " #" ++
        toString (UInt32.ofNat index).toNat := rfl
  rw [htext, h]

theorem InterfaceReplies.lt_of_mem_rejected {replies : InterfaceReplies} {index : Nat}
    (h : index ∈ replies.rejected) : index < replies.members.length :=
  (List.getElem?_eq_some_iff.mp ((mem_rejectedFrom_zero_iff _ _).mp h)).1

theorem InterfaceReplies.reflected {replies : InterfaceReplies} {interface : Interface}
    {program : ProgramId} {trail : List Event}
    (hdialogue : exchanges trail = replies.dialogue interface program)
    (hrecords : recordsOf trail = replies.rejected.map (rejection interface)) :
    replies.Reflected interface program
      (replies.members.reduceOption.map ActiveVariable.toVariable) trail where
  absent hcount := by
    have hempty : replies.members = [] := by
      rw [← List.length_eq_zero_iff, replies.length_members, toNatClampNeg_eq_zero hcount]
    have hnone : ¬ replies.count > 0 := Int32.not_lt.mpr hcount
    refine ⟨by rw [hempty]; rfl, ?_⟩
    rw [hdialogue, InterfaceReplies.dialogue, if_neg hnone]
  present hcount := by
    rw [hdialogue, InterfaceReplies.dialogue, if_pos hcount, ← toNatClampNeg_eq_toNat_max]
    rfl
  toNat_index _ hindex := toNat_ofNat hindex
  describes := by
    rw [List.forall₂_map_right_iff, List.forall₂_same]
    exact fun described _ ↦ described.becomes_toVariable
  records_eq := hrecords
  mem_rejected_iff := mem_rejectedFrom_zero_iff replies.members
  increasing := pairwise_rejectedFrom 0 replies.members
  warns index hindex := ⟨rfl, text_rejection interface (toNat_ofNat (lt_of_mem_rejected hindex))⟩
  length_eq := by
    rw [hrecords, List.length_map, List.length_map, InterfaceReplies.rejected,
      length_reduceOption_add_length_rejectedFrom, replies.length_members,
      toNatClampNeg_eq_toNat_max]
  bounds member hmember := by
    obtain ⟨described, -, rfl⟩ := List.mem_map.mp hmember
    exact described.becomes_toVariable.bounds

theorem InterfaceTrail.exists_reflected {interface : Interface} {program : ProgramId}
    {members : List Variable} {trail : List Event}
    (h : InterfaceTrail interface program members trail) :
    ∃ replies : InterfaceReplies, replies.Reflected interface program members trail := by
  cases h with
  | absent count counted hcount =>
    have hnone : ¬ count > 0 := Int32.not_lt.mpr hcount
    let replies : InterfaceReplies := ⟨count, 0, [], (toNatClampNeg_eq_zero hcount).symm⟩
    have hdialogue : replies.dialogue interface program =
        [⟨.parameter program interface.countParameter, count⟩] := by
      rw [InterfaceReplies.dialogue, if_neg hnone]
    exact ⟨replies, replies.reflected hdialogue.symm rfl⟩
  | present count longest counted measured answers hcount hlength =>
    have hpos : count > 0 := Int32.not_le.mp hcount
    let replies : InterfaceReplies :=
      ⟨count, longest, answers.map Prod.fst, by rw [List.length_map, hlength]⟩
    refine ⟨replies, ?_⟩
    rw [describedMembers_eq]
    refine replies.reflected ?_ ?_
    · simp [replies, InterfaceReplies.dialogue, hpos, exchanges_membersTrail]
    · simp [replies, InterfaceReplies.rejected, recordsOf_membersTrail]

/-! ### Links -/

/-- The call asks for a variable. -/
def Call.IsForVariable : Call → Prop
  | .activeVariable _ _ _ _ => True
  | _ => False

/-- The trail of a link that made the program: it asked for the attributes and then for the
uniforms, each with the calls for just that, and for no variable before. -/
def LinkedProgram.Reflected (unit : LinkedProgram) (trail : List Event) : Prop :=
  ∃ (before attributesTrail uniformsTrail : List Event) (attributes uniforms : InterfaceReplies),
    trail = before ++ attributesTrail ++ uniformsTrail ∧
    ⟨.createProgram, .ok unit.id⟩ ∈ exchanges before ∧
    (∀ exchange ∈ exchanges before, ¬ exchange.call.IsForVariable) ∧
    attributes.Reflected .attributes unit.id unit.attributes attributesTrail ∧
    uniforms.Reflected .uniforms unit.id unit.uniforms uniformsTrail

theorem LinkLogTrail.not_isForVariable {program : ProgramId} {infoLog : String}
    {trail : List Event} (h : LinkLogTrail program infoLog trail) :
    ∀ exchange ∈ exchanges trail, ¬ exchange.call.IsForVariable := by
  cases h <;> simp [Call.IsForVariable]

theorem LinkTrail.reflected {vertex fragment : CompiledShader} {unit : LinkedProgram}
    {trail : List Event} (h : LinkTrail vertex fragment (.ok unit) trail) :
    unit.Reflected trail := by
  cases h with
  | linked id status infoLog attributes uniforms created first second joined judged logTrail
      attributesTrail uniformsTrail hlog hattributes huniforms =>
    obtain ⟨attributesReplies, hattributes⟩ := hattributes.exists_reflected
    obtain ⟨uniformsReplies, huniforms⟩ := huniforms.exists_reflected
    have hquiet := hlog.not_isForVariable
    refine ⟨_, attributesTrail, uniformsTrail, attributesReplies, uniformsReplies, rfl, ?_, ?_,
      hattributes, huniforms⟩
    · simp
    · rw [exchanges_append, exchanges_append, exchanges_unless_logged, List.append_nil]
      refine List.forall_mem_append.mpr ⟨?_, hquiet⟩
      simp [Call.IsForVariable]

/-- Whatever the driver answers, the list of an interface has one variable for every index below
the count that was described, in order, and nothing else; every other index is warned of once. A
link fills both lists in this way, the attributes from answers about attributes and the uniforms
from answers about uniforms, whether or not the program was linked. -/
theorem reflection_exact (driver : Driver σ) :
    (∀ (interface : Interface) (program : ProgramId) (s : σ),
      let ending := activeVariables driver interface program s
      driver.Replies s (exchanges ending.trail) ending.state ∧
        ∃ replies : InterfaceReplies,
          replies.Reflected interface program ending.value ending.trail) ∧
    ∀ (vertex fragment : CompiledShader) (s : σ),
      let ending := (link driver vertex fragment).run s
      driver.Replies s (exchanges ending.trail) ending.state ∧
        ((∃ error, ending.value = .error error ∧
            exchanges ending.trail = [⟨.createProgram, .error error⟩]) ∨
          ∃ unit, ending.value = .ok unit ∧ unit.Reflected ending.trail) := by
  refine ⟨fun interface program s ↦ ?_, fun vertex fragment s ↦ ?_⟩
  · obtain ⟨hreplies, htrail⟩ := (conducts_activeVariables interface program).apply s
    exact ⟨hreplies, htrail.exists_reflected⟩
  · intro ending
    obtain ⟨hreplies, htrail⟩ := (conducts_link vertex fragment).apply s
    refine ⟨hreplies, ?_⟩
    cases hvalue : ending.value with
    | error error =>
      rw [hvalue] at htrail
      exact .inl ⟨error, rfl, exchanges_linkTrail_of_error htrail⟩
    | ok unit =>
      rw [hvalue] at htrail
      exact .inr ⟨unit, rfl, htrail.reflected⟩

end ShaderBuild
