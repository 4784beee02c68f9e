import Mathlib.Algebra.Group.Nat.Defs
import Mathlib.Data.List.Infix
import Mathlib.Data.List.TakeWhile
import Mathlib.Tactic.SplitIfs
import ShaderBuild.Proofs.LenientDecoding

/-!
The bytes that are texts. UTF-8 spells the number of a character in the bits that are left free in a
first byte and in up to three bytes behind it. Bytes are read as a text if they are such spellings
one after another, each as short as it can be and none of a surrogate or of a number above 0x10FFFF
(`isSome_decode?_iff`). Where they are not, one of these faults stands behind well-formed bytes
(`not_wellFormed_iff`).
-/

set_option autoImplicit false
set_option relaxedAutoImplicit false

namespace ShaderBuild.Text

/-! ### Spelled characters -/

/-- How many bytes belong behind a first byte with the bits 110xxxxx, 1110xxxx or 11110xxx. -/
def followers? (lead : UInt8) : Option Nat :=
  if 0xC0 ≤ lead ∧ lead ≤ 0xDF then some 1
  else if 0xE0 ≤ lead ∧ lead ≤ 0xEF then some 2
  else if 0xF0 ≤ lead ∧ lead ≤ 0xF7 then some 3
  else none

/-- The number in the free bits: what the first byte has left of them, and six of each byte behind
it. -/
def spelled (lead : UInt8) (tails : Bytes) : Nat :=
  tails.foldl (fun number byte ↦ 64 * number + byte.toNat % 64)
    (lead.toNat % 2 ^ (6 - tails.length))

/-- The least number that needs so many bytes behind the first. -/
def leastSpelled : Nat → Nat
  | 0 => 0
  | 1 => 0x80
  | 2 => 0x800
  | _ => 0x10000

/-- A first byte with as many bytes behind it as it calls for. -/
structure IsSpelling (lead : UInt8) (tails : Bytes) : Prop where
  followers : followers? lead = some tails.length
  isTail : ∀ byte ∈ tails, isTail byte = true

/-- The bytes of one character. -/
inductive IsCharacter : Bytes → Prop where
  | single {byte : UInt8} (h : byte ≤ 0x7F) : IsCharacter [byte]
  | several {lead : UInt8} {tails : Bytes} (hspelling : IsSpelling lead tails)
      (hleast : leastSpelled tails.length ≤ spelled lead tails)
      (hscalar : (spelled lead tails).isValidChar) : IsCharacter (lead :: tails)

/-- The bytes of some characters, one after another. -/
inductive WellFormed : Bytes → Prop where
  | nil : WellFormed []
  | cons {bytes rest : Bytes} (hcharacter : IsCharacter bytes) (hrest : WellFormed rest) :
      WellFormed (bytes ++ rest)

/-- What keeps bytes from starting with a character. -/
inductive Flawed : Bytes → Prop where
  /-- A byte that belongs behind a first byte, without one. -/
  | stray {byte : UInt8} (rest : Bytes) (h : isTail byte = true) : Flawed (byte :: rest)
  /-- A byte that starts nothing. -/
  | unused {byte : UInt8} (rest : Bytes) (h : 0xF8 ≤ byte) : Flawed (byte :: rest)
  /-- The bytes end, or something else starts, too early. -/
  | truncated {lead : UInt8} {count : Nat} (rest : Bytes) (hcount : followers? lead = some count)
      (hcut : (rest.takeWhile isTail).length < count) : Flawed (lead :: rest)
  | overlong {lead : UInt8} {tails : Bytes} (rest : Bytes) (hspelling : IsSpelling lead tails)
      (hleast : spelled lead tails < leastSpelled tails.length) : Flawed (lead :: (tails ++ rest))
  | surrogate {lead : UInt8} {tails : Bytes} (rest : Bytes) (hspelling : IsSpelling lead tails)
      (hlow : 0xD800 ≤ spelled lead tails) (hhigh : spelled lead tails ≤ 0xDFFF) :
      Flawed (lead :: (tails ++ rest))
  | tooLarge {lead : UInt8} {tails : Bytes} (rest : Bytes) (hspelling : IsSpelling lead tails)
      (hlarge : 0x10FFFF < spelled lead tails) : Flawed (lead :: (tails ++ rest))

theorem isTail_iff (byte : UInt8) : isTail byte = true ↔ 0x80 ≤ byte.toNat ∧ byte.toNat ≤ 0xBF := by
  simp only [isTail, Bool.and_eq_true, decide_eq_true_eq, UInt8.le_iff_toNat_le,
    UInt8.reduceToNat]

/-- What a first byte says of itself, by the number of bytes it calls for. -/
theorem followers?_eq_some_iff {lead : UInt8} {count : Nat} :
    followers? lead = some count ↔
      count = 1 ∧ 0xC0 ≤ lead.toNat ∧ lead.toNat ≤ 0xDF ∨
        count = 2 ∧ 0xE0 ≤ lead.toNat ∧ lead.toNat ≤ 0xEF ∨
        count = 3 ∧ 0xF0 ≤ lead.toNat ∧ lead.toNat ≤ 0xF7 := by
  simp only [followers?, UInt8.le_iff_toNat_le, UInt8.reduceToNat]
  split_ifs <;> simp only [Option.some.injEq, false_iff] <;> omega

/-! ### Encoded characters are spelled characters -/

theorem spelled_two (lead second : UInt8) :
    spelled lead [second] = 64 * (lead.toNat % 32) + second.toNat % 64 := rfl

theorem spelled_three (lead second third : UInt8) :
    spelled lead [second, third] =
      64 * (64 * (lead.toNat % 16) + second.toNat % 64) + third.toNat % 64 := rfl

theorem spelled_four (lead second third fourth : UInt8) :
    spelled lead [second, third, fourth] =
      64 * (64 * (64 * (lead.toNat % 8) + second.toNat % 64) + third.toNat % 64) +
        fourth.toNat % 64 := rfl

/-- The encoding of the character with this number. -/
theorem utf8EncodeChar_ofNatAux {value : Nat} (h : value.isValidChar) :
    String.utf8EncodeChar (Char.ofNatAux value h) =
      if value ≤ 0x7F then [UInt8.ofNat value]
      else if value ≤ 0x7FF then
        [UInt8.ofNat (value / 64 % 32 + 0xC0), UInt8.ofNat (value % 64 + 0x80)]
      else if value ≤ 0xFFFF then
        [UInt8.ofNat (value / 4096 % 16 + 0xE0), UInt8.ofNat (value / 64 % 64 + 0x80),
          UInt8.ofNat (value % 64 + 0x80)]
      else
        [UInt8.ofNat (value / 262144 % 8 + 0xF0), UInt8.ofNat (value / 4096 % 64 + 0x80),
          UInt8.ofNat (value / 64 % 64 + 0x80), UInt8.ofNat (value % 64 + 0x80)] := rfl

theorem isCharacter_of_spelled_eq {value : Nat} {lead : UInt8} {tails : Bytes}
    (hvalid : value.isValidChar) (hspelling : IsSpelling lead tails)
    (hspelled : spelled lead tails = value) (hleast : leastSpelled tails.length ≤ value) :
    IsCharacter (lead :: tails) := by
  subst hspelled
  exact .several hspelling hleast hvalid

theorem isCharacter_utf8EncodeChar (c : Char) : IsCharacter (String.utf8EncodeChar c) := by
  have hvalid : c.val.toNat.isValidChar := c.valid
  have hbound : c.val.toNat < 0x110000 := by
    rcases hvalid with h | ⟨-, h⟩ <;> omega
  show IsCharacter (String.utf8EncodeChar (Char.ofNatAux c.val.toNat hvalid))
  rw [utf8EncodeChar_ofNatAux]
  generalize c.val.toNat = value at hvalid hbound ⊢
  split_ifs with hone htwo hthree
  · refine .single ?_
    rw [UInt8.le_iff_toNat_le, UInt8.toNat_ofNat']
    exact (Nat.mod_le value _).trans hone
  all_goals
    refine isCharacter_of_spelled_eq hvalid ⟨followers?_eq_some_iff.mpr ?_, ?_⟩ ?_ ?_
    · simp only [List.length_cons, List.length_nil, UInt8.toNat_ofNat', true_and]
      omega
    · simp only [List.forall_mem_cons, List.not_mem_nil, false_implies, implies_true, and_true,
        isTail_iff, UInt8.toNat_ofNat']
      omega
    · simp only [spelled_two, spelled_three, spelled_four, UInt8.toNat_ofNat']
      omega
    · simp only [leastSpelled, List.length_cons, List.length_nil]
      omega

/-- The bytes of a spelled character are its encoding. -/
theorem exists_utf8EncodeChar_eq {bytes : Bytes} (h : IsCharacter bytes) :
    ∃ c, String.utf8EncodeChar c = bytes := by
  cases h with
  | @single byte h =>
    replace h : byte.toNat ≤ 0x7F := UInt8.le_iff_toNat_le.mp h
    refine ⟨Char.ofNatAux byte.toNat (.inl (by omega)), ?_⟩
    rw [utf8EncodeChar_ofNatAux, if_pos h, UInt8.ofNat_toNat]
  | @several lead tails hspelling hleast hscalar =>
    have hbound : spelled lead tails < 0x110000 := by
      rcases hscalar with h | ⟨-, h⟩ <;> omega
    have htails := hspelling.isTail
    refine ⟨Char.ofNatAux (spelled lead tails) hscalar, ?_⟩
    rw [utf8EncodeChar_ofNatAux]
    generalize hvalue : spelled lead tails = value at hleast hbound ⊢
    rcases followers?_eq_some_iff.mp hspelling.followers with
      ⟨hcount, hlead⟩ | ⟨hcount, hlead⟩ | ⟨hcount, hlead⟩
    on_goal 1 => obtain ⟨second, rfl⟩ := List.length_eq_one_iff.mp hcount
    on_goal 2 => obtain ⟨second, third, rfl⟩ := List.length_eq_two.mp hcount
    on_goal 3 => obtain ⟨second, third, fourth, rfl⟩ := List.length_eq_three.mp hcount
    all_goals
      simp only [spelled_two, spelled_three, spelled_four] at hvalue
      simp only [List.forall_mem_cons, List.not_mem_nil, false_implies, implies_true, and_true,
        isTail_iff] at htails
      simp only [leastSpelled, List.length_cons, List.length_nil] at hleast
      split_ifs
      -- Numbers of another size take more bytes or less.
      any_goals omega
      simp only [List.cons.injEq, and_true, ← UInt8.toNat_inj, UInt8.toNat_ofNat']
      omega

theorem isCharacter_iff {bytes : Bytes} :
    IsCharacter bytes ↔ ∃ c, String.utf8EncodeChar c = bytes :=
  ⟨exists_utf8EncodeChar_eq, fun ⟨c, hc⟩ ↦ hc ▸ isCharacter_utf8EncodeChar c⟩

/-! ### Well-formed bytes are those of texts -/

theorem wellFormed_encode (text : String) : WellFormed (encode text) := by
  rw [encode_eq_flatMap]
  induction text.toList with
  | nil => exact .nil
  | cons c rest ih => exact .cons (isCharacter_iff.mpr ⟨c, rfl⟩) ih

theorem exists_encode_eq {bytes : Bytes} (h : WellFormed bytes) : ∃ text, encode text = bytes := by
  induction h with
  | nil => exact ⟨"", rfl⟩
  | cons hcharacter hrest ih =>
    obtain ⟨c, rfl⟩ := isCharacter_iff.mp hcharacter
    obtain ⟨text, rfl⟩ := ih
    refine ⟨String.ofList (c :: text.toList), ?_⟩
    rw [encode_eq_flatMap, encode_eq_flatMap text, String.toList_ofList, List.flatMap_cons]

/-- Bytes are read as a text if and only if they are the encoding of that text. -/
theorem decode?_eq_some_iff {bytes : Bytes} {text : String} :
    decode? bytes = some text ↔ encode text = bytes := by
  refine ⟨encode_of_decode?, ?_⟩
  rintro rfl
  have hbytes : (encode text).toByteArray = text.toByteArray := by
    rw [encode, ByteArray.ext_iff, List.data_toByteArray, Array.toArray_toList]
  unfold decode? String.fromUTF8?
  rw [hbytes, dif_pos text.isValidUTF8]
  rfl

theorem isSome_decode?_iff (bytes : Bytes) : (decode? bytes).isSome ↔ WellFormed bytes := by
  rw [Option.isSome_iff_exists]
  refine ⟨fun ⟨text, htext⟩ ↦ encode_of_decode? htext ▸ wellFormed_encode text, fun h ↦ ?_⟩
  obtain ⟨text, htext⟩ := exists_encode_eq h
  exact ⟨text, decode?_eq_some_iff.mpr htext⟩

/-! ### Where bytes are no text -/

theorem followers?_bounds {lead : UInt8} {count : Nat} (h : followers? lead = some count) :
    0xC0 ≤ lead.toNat ∧ lead.toNat ≤ 0xF7 := by
  rcases followers?_eq_some_iff.mp h with h | h | h <;> omega

/-- Well-formed bytes above 0x7F start with a number that is that of a character. -/
theorem WellFormed.exists_spelling {lead : UInt8} {rest : Bytes} (h : WellFormed (lead :: rest))
    (hlead : 0x7F < lead.toNat) :
    ∃ tails others, rest = tails ++ others ∧ IsSpelling lead tails ∧
      leastSpelled tails.length ≤ spelled lead tails ∧ (spelled lead tails).isValidChar := by
  generalize hbytes : lead :: rest = bytes at h
  cases h with
  | nil => cases hbytes
  | @cons front others hcharacter hrest =>
    cases hcharacter with
    | single hbyte =>
      obtain ⟨rfl, -⟩ := List.cons.inj hbytes
      exact absurd (UInt8.le_iff_toNat_le.mp hbyte) (Nat.not_le_of_lt hlead)
    | several hspelling hleast hscalar =>
      obtain ⟨rfl, rfl⟩ := List.cons.inj hbytes
      exact ⟨_, others, rfl, hspelling, hleast, hscalar⟩

/-- The first byte tells how many bytes spell the number, so no other is read in their place. -/
theorem WellFormed.of_isSpelling {lead : UInt8} {tails rest : Bytes}
    (h : WellFormed (lead :: (tails ++ rest))) (hspelling : IsSpelling lead tails) :
    leastSpelled tails.length ≤ spelled lead tails ∧ (spelled lead tails).isValidChar := by
  have hlead := followers?_bounds hspelling.followers
  obtain ⟨tails', others, hrest, hspelling', hread⟩ := h.exists_spelling (by omega)
  have hlength := Option.some.inj (hspelling.followers.symm.trans hspelling'.followers)
  obtain ⟨rfl, -⟩ := List.append_inj hrest hlength
  exact hread

theorem Flawed.not_wellFormed {bytes : Bytes} (h : Flawed bytes) : ¬ WellFormed bytes := by
  intro hwell
  cases h with
  | @stray byte rest htail =>
    rw [isTail_iff] at htail
    obtain ⟨tails, others, -, hspelling, -⟩ := hwell.exists_spelling (by omega)
    have hlead := followers?_bounds hspelling.followers
    omega
  | @unused byte rest hbyte =>
    replace hbyte : 0xF8 ≤ byte.toNat := UInt8.le_iff_toNat_le.mp hbyte
    obtain ⟨tails, others, -, hspelling, -⟩ := hwell.exists_spelling (by omega)
    have hlead := followers?_bounds hspelling.followers
    omega
  | @truncated lead count rest hcount hcut =>
    have hlead := followers?_bounds hcount
    obtain ⟨tails, others, rfl, hspelling, -⟩ := hwell.exists_spelling (by omega)
    have hlength := Option.some.inj (hcount.symm.trans hspelling.followers)
    rw [List.takeWhile_append_of_pos hspelling.isTail, List.length_append] at hcut
    omega
  | @overlong lead tails rest hspelling hleast =>
    have hread := (hwell.of_isSpelling hspelling).1
    omega
  | @surrogate lead tails rest hspelling hlow hhigh =>
    rcases (hwell.of_isSpelling hspelling).2 with h | ⟨h, -⟩ <;> omega
  | @tooLarge lead tails rest hspelling hlarge =>
    rcases (hwell.of_isSpelling hspelling).2 with h | ⟨-, h⟩ <;> omega

/-- Enough of the bytes behind a first byte belong there, or it is cut short. -/
theorem isSpelling_take {lead : UInt8} {rest : Bytes} {count : Nat}
    (hcount : followers? lead = some count) (hall : count ≤ (rest.takeWhile isTail).length) :
    IsSpelling lead (rest.take count) := by
  have htaken : rest.take count = (rest.takeWhile isTail).take count := by
    conv_rhs => rw [List.prefix_iff_eq_take.mp (List.takeWhile_prefix isTail)]
    rw [List.take_take, Nat.min_eq_left hall]
  refine ⟨?_, fun byte hbyte ↦ ?_⟩
  · rw [hcount, htaken, List.length_take, Nat.min_eq_left hall]
  · rw [htaken] at hbyte
    exact List.mem_takeWhile_imp (List.mem_of_mem_take hbyte)

/-- A number that is spelled is that of a character, or it is flawed in one of three ways. -/
theorem IsSpelling.exists_isCharacter_or_flawed {lead : UInt8} {tails : Bytes}
    (h : IsSpelling lead tails) (rest : Bytes) :
    IsCharacter (lead :: tails) ∨ Flawed (lead :: (tails ++ rest)) := by
  by_cases hleast : spelled lead tails < leastSpelled tails.length
  · exact .inr (.overlong rest h hleast)
  by_cases hlarge : 0x10FFFF < spelled lead tails
  · exact .inr (.tooLarge rest h hlarge)
  by_cases hscalar : (spelled lead tails).isValidChar
  · exact .inl (.several h (Nat.le_of_not_lt hleast) hscalar)
  · rw [Nat.isValidChar] at hscalar
    exact .inr (.surrogate rest h (by omega) (by omega))

/-- Bytes start with a character or with a flaw. -/
theorem exists_isCharacter_or_flawed (lead : UInt8) (rest : Bytes) :
    (∃ front others, lead :: rest = front ++ others ∧ IsCharacter front) ∨
      Flawed (lead :: rest) := by
  cases hcount : followers? lead with
  | none =>
    have hlead : lead.toNat < 0xC0 ∨ 0xF7 < lead.toNat := by
      rw [followers?] at hcount
      split_ifs at hcount with htwo hthree hfour
      simp only [UInt8.le_iff_toNat_le, UInt8.reduceToNat] at htwo hthree hfour
      omega
    by_cases hsingle : lead ≤ 0x7F
    · exact .inl ⟨[lead], rest, rfl, .single hsingle⟩
    by_cases hunused : 0xF8 ≤ lead
    · exact .inr (.unused rest hunused)
    · rw [UInt8.le_iff_toNat_le] at hsingle hunused
      simp only [UInt8.reduceToNat] at hsingle hunused
      exact .inr (.stray rest ((isTail_iff lead).mpr (by omega)))
  | some count =>
    by_cases hcut : (rest.takeWhile isTail).length < count
    · exact .inr (.truncated rest hcount hcut)
    have hspelling := isSpelling_take hcount (Nat.le_of_not_lt hcut)
    have hrest := List.take_append_drop count rest
    rcases hspelling.exists_isCharacter_or_flawed (rest.drop count) with hcharacter | hflawed
    · exact .inl ⟨_, rest.drop count, congrArg (lead :: ·) hrest.symm, hcharacter⟩
    · rw [hrest] at hflawed
      exact .inr hflawed

/-- Of well-formed bytes the same character is always read first. -/
theorem WellFormed.of_isCharacter_append {front rest : Bytes} (hfront : IsCharacter front)
    (h : WellFormed (front ++ rest)) : WellFormed rest := by
  obtain ⟨c, rfl⟩ := exists_utf8EncodeChar_eq hfront
  have hfirst := firstChar?_utf8EncodeChar_append c rest
  generalize hbytes : String.utf8EncodeChar c ++ rest = bytes at h hfirst
  cases h with
  | nil => exact absurd (List.append_eq_nil_iff.mp hbytes).1 String.utf8EncodeChar_ne_nil
  | cons hcharacter hrest =>
    obtain ⟨d, rfl⟩ := exists_utf8EncodeChar_eq hcharacter
    rw [firstChar?_utf8EncodeChar_append, Option.some.injEq] at hfirst
    subst hfirst
    rwa [List.append_cancel_left hbytes]

theorem WellFormed.of_append {front rest : Bytes} (hfront : WellFormed front)
    (h : WellFormed (front ++ rest)) : WellFormed rest := by
  induction hfront with
  | nil => exact h
  | cons hcharacter _ ih =>
    rw [List.append_assoc] at h
    exact ih (h.of_isCharacter_append hcharacter)

/-- Bytes are no text if and only if a flaw stands behind some characters. -/
theorem not_wellFormed_iff (bytes : Bytes) :
    ¬ WellFormed bytes ↔ ∃ front rest, bytes = front ++ rest ∧ WellFormed front ∧ Flawed rest := by
  refine ⟨fun h ↦ ?_, ?_⟩
  · induction hlength : bytes.length using Nat.strong_induction_on generalizing bytes with
    | h length ih =>
      subst hlength
      cases bytes with
      | nil => exact absurd .nil h
      | cons lead rest =>
        rcases exists_isCharacter_or_flawed lead rest with ⟨front, others, hbytes, hfront⟩ | hflawed
        · have hpos : 0 < front.length := by
            cases hfront <;> exact Nat.succ_pos _
          have hothers : ¬ WellFormed others := fun hothers ↦ h (hbytes ▸ .cons hfront hothers)
          have hshorter : others.length < (lead :: rest).length := by
            rw [hbytes, List.length_append]
            omega
          obtain ⟨before, flaw, rfl, hbefore, hflaw⟩ := ih _ hshorter others hothers rfl
          exact ⟨front ++ before, flaw, by rw [hbytes, List.append_assoc], .cons hfront hbefore,
            hflaw⟩
        · exact ⟨[], lead :: rest, rfl, .nil, hflawed⟩
  · rintro ⟨front, rest, rfl, hfront, hrest⟩ h
    exact hrest.not_wellFormed (hfront.of_append h)

end ShaderBuild.Text
