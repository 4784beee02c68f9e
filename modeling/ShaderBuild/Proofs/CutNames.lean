import Mathlib.Data.List.Infix
import Mathlib.Data.List.TakeWhile
import Mathlib.Tactic.SplitIfs
import ShaderBuild.Proofs.CannedFidelity

/-!
Names that do not fit in their buffer. GL cuts a name after a number of bytes, and what is left of a
character that was cut through reads as one replacement, however many of its bytes are left
(`lenientChars_take_flatMap`). A canned driver goes back to the last character boundary instead, so
the two differ in that replacement and in nothing else (`describeVariable_agrees_with_canned`).
-/

set_option autoImplicit false
set_option relaxedAutoImplicit false

namespace ShaderBuild

namespace Text

/-! ### A character that was cut -/

theorem isTail_ofNat (value : Nat) : isTail (UInt8.ofNat (value % 64 + 128)) = true := by
  simp only [isTail, Bool.and_eq_true, decide_eq_true_eq, UInt8.le_iff_toNat_le,
    UInt8.toNat_ofNat', UInt8.reduceToNat]
  omega

/-- In the encoding of a character every byte is one that the first byte calls for. -/
theorem exists_continuation {c : Char} {lead second : UInt8} {others : Bytes}
    (h : String.utf8EncodeChar c = lead :: second :: others) :
    ∃ needs, continuation? lead = some needs ∧ needs.low ≤ second ∧ second ≤ needs.high ∧
      needs.following = others.length + 1 ∧ ∀ byte ∈ others, isTail byte = true := by
  have hvalid : c.val.toNat < 0xD800 ∨ 0xDFFF < c.val.toNat ∧ c.val.toNat < 0x110000 := c.valid
  unfold String.utf8EncodeChar at h
  generalize c.val.toNat = value at h hvalid
  simp only at h
  split_ifs at h with hone htwo hthree
  · cases h
  all_goals
    simp only [List.cons.injEq] at h
    obtain ⟨rfl, rfl, rfl⟩ := h
    simp only [continuation?, UInt8.le_iff_toNat_le, ← UInt8.toNat_inj, UInt8.toNat_ofNat',
      UInt8.reduceToNat]
    -- The first byte tells how large the value is, and with it where the second byte may lie.
    split_ifs
    any_goals omega
    all_goals
      refine ⟨_, rfl, ?_, ?_, rfl, ?_⟩
      · simp only [UInt8.reduceToNat]
        omega
      · simp only [UInt8.reduceToNat]
        omega
      · simp only [List.forall_mem_cons, isTail_ofNat, List.not_mem_nil, true_and, false_implies,
          implies_true]

/-- Whatever was cut off behind the second byte, all that is left is one ill-formed piece. -/
theorem strayFollowers_take {c : Char} {lead : UInt8} {rest : Bytes}
    (h : String.utf8EncodeChar c = lead :: rest) (count : Nat) :
    strayFollowers lead (rest.take count) = (rest.take count).length := by
  cases hleft : rest.take count with
  | nil =>
    unfold strayFollowers
    split <;> simp_all
  | cons second left =>
    obtain ⟨room, rfl⟩ : ∃ room, count = room + 1 := by
      cases count with
      | zero => cases hleft
      | succ room => exact ⟨room, rfl⟩
    cases rest with
    | nil => cases hleft
    | cons byte others =>
      rw [List.take_succ_cons, List.cons.injEq] at hleft
      obtain ⟨rfl, rfl⟩ := hleft
      obtain ⟨needs, hneeds, hlow, hhigh, hfollowing, htails⟩ := exists_continuation h
      have hkept : (others.take room).take (needs.following - 1) = others.take room := by
        rw [hfollowing, Nat.add_sub_cancel]
        exact List.take_of_length_le (List.length_take_le' room others)
      have hall : (others.take room).takeWhile isTail = others.take room :=
        List.takeWhile_eq_self_iff.mpr fun byte hbyte ↦ htails byte (List.mem_of_mem_take hbyte)
      unfold strayFollowers
      simp only [hneeds, hlow, hhigh, and_self, if_true, hkept, hall, List.length_cons]
      omega

/-- No character stands at the front of a character that was cut. -/
theorem firstChar?_take_utf8EncodeChar {c : Char} {room : Nat} (h : room < c.utf8Size) :
    firstChar? ((String.utf8EncodeChar c).take room) = none := by
  have hfour := c.utf8Size_le_four
  cases hfirst : firstChar? ((String.utf8EncodeChar c).take room) with
  | none => rfl
  | some d =>
    unfold firstChar? at hfirst
    rw [List.take_of_length_le (by rw [List.length_take]; omega)] at hfirst
    -- A character that is complete stays where it is when the rest of the bytes come back.
    have hsize := ByteArray.le_size_of_utf8DecodeChar?_eq_some hfirst
    have hwhole := ByteArray.utf8DecodeChar?_append_eq_some hfirst
      ((String.utf8EncodeChar c).drop room).toByteArray
    rw [← List.toByteArray_append, List.take_append_drop] at hwhole
    have hback := firstChar?_utf8EncodeChar_append c []
    unfold firstChar? at hback
    rw [List.append_nil, List.take_of_length_le (by rw [String.length_utf8EncodeChar]; omega),
      hwhole] at hback
    obtain rfl : d = c := by simpa using hback
    rw [List.size_toByteArray, List.length_take] at hsize
    omega

theorem lenientChars_take_utf8EncodeChar {c : Char} {room : Nat} (hpos : 0 < room)
    (h : room < c.utf8Size) :
    lenientChars ((String.utf8EncodeChar c).take room) = [replacement] := by
  have hfirst := firstChar?_take_utf8EncodeChar h
  obtain ⟨lead, rest, hbytes⟩ := List.exists_cons_of_ne_nil (@String.utf8EncodeChar_ne_nil c)
  obtain ⟨count, rfl⟩ := Nat.exists_eq_add_one.mpr hpos
  rw [hbytes, List.take_succ_cons] at hfirst ⊢
  rw [lenientChars]
  simp only [hfirst]
  rw [strayFollowers_take hbytes, List.drop_length, lenientChars_nil]

/-! ### A text that was cut -/

/-- The bytes of some characters, cut after `room` of them, read as the characters that were left
whole and one more in place of the one that was cut, if one was. -/
theorem lenientChars_take_flatMap (room : Nat) (chars : List Char) :
    lenientChars ((chars.flatMap String.utf8EncodeChar).take room) =
      clipChars room chars ++
        if ((clipChars room chars).flatMap String.utf8EncodeChar).length =
          min room (chars.flatMap String.utf8EncodeChar).length then [] else [replacement] := by
  induction chars generalizing room with
  | nil => simp [clipChars, lenientChars_nil]
  | cons c rest ih =>
    have hlength := String.length_utf8EncodeChar c
    have hsize := c.utf8Size_pos
    rw [clipChars, List.flatMap_cons]
    by_cases hfits : c.utf8Size ≤ room
    · rw [if_pos hfits, List.take_append, List.take_of_length_le (by omega), hlength,
        lenientChars_utf8EncodeChar_append, ih, List.flatMap_cons, List.cons_append]
      congr 3
      simp only [List.length_append, hlength]
      rw [eq_iff_iff]
      omega
    · rw [if_neg hfits, List.take_append_of_le_length (by omega), List.nil_append]
      by_cases hpos : 0 < room
      · rw [lenientChars_take_utf8EncodeChar hpos (by omega), if_neg]
        simp only [List.flatMap_nil, List.length_nil, List.length_append]
        omega
      · obtain rfl : room = 0 := by omega
        simp [lenientChars_nil]

/-! ### Character boundaries -/

theorem length_flatMap_clipChars_le (room : Nat) (chars : List Char) :
    ((clipChars room chars).flatMap String.utf8EncodeChar).length ≤ room := by
  induction chars generalizing room with
  | nil => exact Nat.zero_le room
  | cons c rest ih =>
    rw [clipChars]
    split_ifs with hfits
    · have hrest := ih (room - c.utf8Size)
      rw [List.flatMap_cons, List.length_append, String.length_utf8EncodeChar]
      omega
    · exact Nat.zero_le room

/-- No longer run of leading characters fits. -/
theorem isPrefix_clipChars {room : Nat} {front chars : List Char} (h : front <+: chars)
    (hfits : (front.flatMap String.utf8EncodeChar).length ≤ room) :
    front <+: clipChars room chars := by
  induction front generalizing room chars with
  | nil => exact List.nil_prefix
  | cons c front ih =>
    obtain ⟨rest, rfl⟩ := h
    rw [List.flatMap_cons, List.length_append, String.length_utf8EncodeChar] at hfits
    rw [List.cons_append, clipChars, if_pos (by omega)]
    exact (List.prefix_cons_inj c).mpr (ih (List.prefix_append front rest) (by omega))

theorem utf8ByteSize_ofList (chars : List Char) :
    (String.ofList chars).utf8ByteSize = (chars.flatMap String.utf8EncodeChar).length := by
  rw [← length_encode, encode_eq_flatMap, String.toList_ofList]

theorem utf8ByteSize_clip_le (room : Nat) (text : String) :
    (clip room text).utf8ByteSize ≤ min text.utf8ByteSize room := by
  have hwhole := ((clipChars_isPrefix room text.toList).flatMap String.utf8EncodeChar).length_le
  have hroom := length_flatMap_clipChars_le room text.toList
  rw [clip, utf8ByteSize_ofList, ← length_encode text, encode_eq_flatMap]
  omega

theorem isValid_utf8ByteSize_clip (room : Nat) (text : String) :
    String.Pos.Raw.IsValid text ⟨(clip room text).utf8ByteSize⟩ := by
  refine String.Pos.Raw.isValid_iff_exists_take_toList.mpr ⟨(clipChars room text.toList).length, ?_⟩
  rw [← List.prefix_iff_eq_take.mp (clipChars_isPrefix room text.toList)]
  rfl

/-- No boundary that fits lies behind the one that a text is cut at. -/
theorem le_utf8ByteSize_clip {text : String} {room offset : Nat}
    (h : String.Pos.Raw.IsValid text ⟨offset⟩) (hroom : offset ≤ room) :
    offset ≤ (clip room text).utf8ByteSize := by
  obtain ⟨count, hcount⟩ := String.Pos.Raw.isValid_iff_exists_take_toList.mp h
  have hsize : offset = ((text.toList.take count).flatMap String.utf8EncodeChar).length := by
    rw [← utf8ByteSize_ofList]
    exact hcount
  have hkept : text.toList.take count <+: clipChars room text.toList :=
    isPrefix_clipChars (List.take_prefix count _) (by omega)
  rw [hsize, clip, utf8ByteSize_ofList]
  exact (hkept.flatMap String.utf8EncodeChar).length_le

/-- A cut falls on a character boundary if and only if everything up to it is kept. -/
theorem isValid_min_iff (room : Nat) (text : String) :
    String.Pos.Raw.IsValid text ⟨min text.utf8ByteSize room⟩ ↔
      (clip room text).utf8ByteSize = min text.utf8ByteSize room := by
  refine ⟨fun h ↦ ?_, fun h ↦ h ▸ isValid_utf8ByteSize_clip room text⟩
  exact Nat.le_antisymm (utf8ByteSize_clip_le room text)
    (le_utf8ByteSize_clip h (Nat.min_le_right _ _))

/-- A text cut after `room` bytes reads as the text cut at the last boundary before, with one
replacement if a character was cut through. -/
theorem decodeLenient_take_encode (room : Nat) (text : String) :
    decodeLenient ((encode text).take room) =
      clip room text ++ if String.Pos.Raw.IsValid text ⟨min text.utf8ByteSize room⟩ then ""
        else "\uFFFD" := by
  have hkept := utf8ByteSize_ofList (clipChars room text.toList)
  have hwhole := length_encode text
  rw [encode_eq_flatMap] at hwhole
  rw [encode_eq_flatMap, decodeLenient, lenientChars_take_flatMap, String.ofList_append,
    ← hkept, hwhole, Nat.min_comm]
  simp only [isValid_min_iff, clip]
  split_ifs <;> rfl

end Text

/-! ### A name buffer of GL and one of a canned driver -/

namespace Gl

/-- The reply to a query is the variable as a canned driver describes it. If the buffer for its name
ends within a character, one replacement stands behind the name. -/
structure RepliesAsCanned (maxLength : Nat) (described : ActiveVariable)
    (reply : Option ActiveVariable) : Prop where
  on_boundary :
    String.Pos.Raw.IsValid described.name
        ⟨min described.name.utf8ByteSize (nameBufferSize maxLength - 1)⟩ →
      reply = some { described with name := nameInBuffer maxLength described.name }
  within_character :
    ¬ String.Pos.Raw.IsValid described.name
        ⟨min described.name.utf8ByteSize (nameBufferSize maxLength - 1)⟩ →
      reply = some { described with name := nameInBuffer maxLength described.name ++ "\uFFFD" }
  of_fits : described.name.utf8ByteSize ≤ nameBufferSize maxLength - 1 →
    nameInBuffer maxLength described.name = described.name ∧ reply = some described

theorem repliesAsCanned_accepted {answer : VariableAnswer} {described : ActiveVariable}
    {maxLength : Nat} (h : answer.Copies described (nameBufferSize maxLength))
    (hlt : nameBufferSize maxLength < 0x80000000) (interface : Interface) (program index : UInt32)
    (function : BinaryFunction) :
    RepliesAsCanned maxLength described
      ((Query.active interface program index maxLength).accepted function answer) where
  on_boundary hvalid := by
    rw [accepted_active_eq_of_copies h hlt, Text.decodeLenient_take_encode, if_pos hvalid,
      String.append_empty]
    rfl
  within_character hcut := by
    rw [accepted_active_eq_of_copies h hlt, Text.decodeLenient_take_encode, if_neg hcut]
    rfl
  of_fits hfits := by
    have hpos := nameBufferSize_pos maxLength
    exact ⟨Text.clip_of_le hfits, accepted_active_of_copies h (by omega) hlt _ _ _ _⟩

variable {γ : Type} {gl : Implementation γ}

/-- A query whose call raised no error and copied as much of a name as its buffer holds replies as a
canned driver does, unless more errors waited before than can be discarded. -/
theorem describeVariable_agrees_with_canned (queue : ErrorQueue gl) (interface : Interface)
    (program index : UInt32) (maxLength : Nat) (described : ActiveVariable) (s : γ)
    (hmax : maxLength < 0x80000000)
    (hraised : queue.raised (.getActiveVariable interface program index
      (Int32.ofNat (nameBufferSize maxLength))) (settled gl s) = [])
    (hcopies : (gl.answer (.getActiveVariable interface program index
      (Int32.ofNat (nameBufferSize maxLength))) (settled gl s)).1.Copies described
        (nameBufferSize maxLength)) :
    let reply := (describeVariable gl interface program index maxLength s).value
    ((queue.pending s).length ≤ maxPending → RepliesAsCanned maxLength described reply) ∧
      (maxPending < (queue.pending s).length → reply = none) := by
  intro reply
  -- Queries for a variable are the same through either function for binaries.
  let query := Query.active interface program index maxLength
  have hchecked : reply = (checked gl (query.call .core) (query.accepted .core) query.rejected
    query.failed s).value := rfl
  have hcall := query.call_ne_getError .core
  have hlt : nameBufferSize maxLength < 0x80000000 := by
    unfold nameBufferSize
    split_ifs <;> omega
  rw [hchecked]
  refine ⟨fun hpending ↦ ?_, fun hpending ↦ queue.checked_value_of_lt_pending hcall hpending⟩
  rw [queue.checked_value_of_raised_eq_nil hcall hpending hraised]
  exact repliesAsCanned_accepted hcopies hlt interface program index .core

/-- Two of three bytes of the second character fit. -/
theorem describeVariable_agrees_with_canned_cutCharacter :
    let described : ActiveVariable := ⟨"a\u0800", 1, 0x8B52⟩
    let s : CannedGl := { pending := [Code.invalidValue], noError_not_mem := by decide }
    (describeVariable (CannedGl.implementation { attributes := [described] }) .attributes 3 0 4
      s).value = some { described with name := "a\uFFFD" } := by
  intro described s
  have hcut : ¬ String.Pos.Raw.IsValid described.name
      ⟨min described.name.utf8ByteSize (nameBufferSize 4 - 1)⟩ := by
    rw [Text.isValid_min_iff]
    decide
  have hcopies := CannedGl.copies_describe described (show nameBufferSize 4 < 0x80000000 by decide)
  have hname : nameInBuffer 4 described.name ++ "\uFFFD" = "a\uFFFD" := by decide
  rw [← hname]
  exact ((describeVariable_agrees_with_canned
    (CannedGl.errorQueue { attributes := [described] }) .attributes 3 0 4 described s (by decide)
    rfl hcopies).1 (by decide)).within_character hcut

end Gl

end ShaderBuild
