import ShaderBuild.Proofs.CutNames
import ShaderBuild.Proofs.WellFormedBytes

/-!
The search for the place to cut a name at. It starts where the buffer ends and goes back byte by
byte until it stands between two characters. It gets there before the front of the name, never has
more than three bytes to go, and leaves the longest part of the name that fits
(`nameInBuffer_longest`). So a cut depends on the tightest buffer only, in whatever order a name
goes through several.
-/

set_option autoImplicit false
set_option relaxedAutoImplicit false

namespace ShaderBuild

namespace Text

/-! ### Going back to a boundary -/

/-- The first character boundary found by going back from an offset, one byte at a time. There is
none if the search gets to the front of the text and would have to go on. -/
def boundaryBack? (text : String) : Nat → Option Nat
  | 0 => if String.Pos.Raw.isValid text ⟨0⟩ then some 0 else none
  | offset + 1 =>
    if String.Pos.Raw.isValid text ⟨offset + 1⟩ then some (offset + 1)
    else boundaryBack? text offset

/-- The text as it is, if it fits in `room` bytes, and else its bytes up to the boundary that is
found. There is no such text if the search fails or the bytes before the boundary are none. -/
def cutBack? (room : Nat) (text : String) : Option String :=
  if text.utf8ByteSize ≤ room then some text
  else (boundaryBack? text room).bind fun boundary ↦ decode? ((encode text).take boundary)

/-- With one byte more room, the last boundary stays where it is unless there is one at that
byte. -/
theorem utf8ByteSize_clip_succ {text : String} {room : Nat}
    (h : ¬ String.Pos.Raw.IsValid text ⟨room + 1⟩) :
    (clip (room + 1) text).utf8ByteSize = (clip room text).utf8ByteSize := by
  have hwide := isValid_utf8ByteSize_clip (room + 1) text
  have hfits := utf8ByteSize_clip_le (room + 1) text
  have hne : (clip (room + 1) text).utf8ByteSize ≠ room + 1 := fun heq ↦ h (heq ▸ hwide)
  have hnarrow := utf8ByteSize_clip_le room text
  refine Nat.le_antisymm (le_utf8ByteSize_clip hwide (by omega)) ?_
  exact le_utf8ByteSize_clip (isValid_utf8ByteSize_clip room text) (by omega)

/-- The search finds a boundary, and it is the one that the text is cut at. -/
theorem boundaryBack?_eq (text : String) (offset : Nat) :
    boundaryBack? text offset = some (clip offset text).utf8ByteSize := by
  induction offset with
  | zero =>
    have hzero : (clip 0 text).utf8ByteSize = 0 := by
      have hfits := utf8ByteSize_clip_le 0 text
      omega
    have hvalid := isValid_utf8ByteSize_clip 0 text
    rw [hzero] at hvalid
    rw [boundaryBack?, if_pos (String.Pos.Raw.isValid_eq_true_iff.mpr hvalid), hzero]
  | succ offset ih =>
    rw [boundaryBack?]
    split_ifs with hvalid
    · have hfits := utf8ByteSize_clip_le (offset + 1) text
      have hlast := le_utf8ByteSize_clip (String.Pos.Raw.isValid_eq_true_iff.mp hvalid)
        (Nat.le_refl (offset + 1))
      exact congrArg some (Nat.le_antisymm hlast (by omega))
    · rw [ih, utf8ByteSize_clip_succ (mt String.Pos.Raw.isValid_eq_true_iff.mpr hvalid)]

theorem encode_clip (room : Nat) (text : String) :
    encode (clip room text) = (encode text).take (clip room text).utf8ByteSize := by
  have hfront := (clipChars_isPrefix room text.toList).flatMap String.utf8EncodeChar
  rw [clip, utf8ByteSize_ofList, encode_eq_flatMap, encode_eq_flatMap, String.toList_ofList]
  exact List.prefix_iff_eq_take.mp hfront

theorem cutBack?_eq (room : Nat) (text : String) : cutBack? room text = some (clip room text) := by
  unfold cutBack?
  split_ifs with hfits
  · rw [clip_of_le hfits]
  · rw [boundaryBack?_eq, Option.bind_some, decode?_eq_some_iff, encode_clip]

/-- No character is longer than four bytes, so neither is the way back. -/
theorem lt_length_flatMap_clipChars {room : Nat} {chars : List Char}
    (h : room < (chars.flatMap String.utf8EncodeChar).length) :
    room < ((clipChars room chars).flatMap String.utf8EncodeChar).length + 4 := by
  induction chars generalizing room with
  | nil => exact absurd h (Nat.not_lt_zero room)
  | cons c rest ih =>
    have hfour := c.utf8Size_le_four
    rw [List.flatMap_cons, List.length_append, String.length_utf8EncodeChar] at h
    rw [clipChars]
    split_ifs with hfits
    · have hrest := @ih (room - c.utf8Size) (by omega)
      rw [List.flatMap_cons, List.length_append, String.length_utf8EncodeChar]
      omega
    · omega

/-! ### The longest part that fits -/

/-- No longer part of the text than `front` ends on a character boundary and fits in `room`
bytes. -/
structure IsLongestFront (room : Nat) (text front : String) : Prop where
  isPrefix : front.toList <+: text.toList
  encode_eq : encode front = (encode text).take front.utf8ByteSize
  isValid : String.Pos.Raw.IsValid text ⟨front.utf8ByteSize⟩
  le_room : front.utf8ByteSize ≤ room
  longest : ∀ offset, String.Pos.Raw.IsValid text ⟨offset⟩ → offset ≤ room →
    offset ≤ front.utf8ByteSize
  isPrefix_of_le : ∀ other : String, other.toList <+: text.toList → other.utf8ByteSize ≤ room →
    other.toList <+: front.toList

theorem isLongestFront_clip (room : Nat) (text : String) :
    IsLongestFront room text (clip room text) where
  isPrefix := by
    rw [clip, String.toList_ofList]
    exact clipChars_isPrefix room text.toList
  encode_eq := encode_clip room text
  isValid := isValid_utf8ByteSize_clip room text
  le_room := (utf8ByteSize_clip_le room text).trans (Nat.min_le_right _ _)
  longest := fun offset hvalid hroom ↦ le_utf8ByteSize_clip hvalid hroom
  isPrefix_of_le := fun other hprefix hroom ↦ by
    rw [← length_encode, encode_eq_flatMap] at hroom
    rw [clip, String.toList_ofList]
    exact isPrefix_clipChars hprefix hroom

/-! ### Cutting twice -/

theorem clipChars_clipChars (first second : Nat) (chars : List Char) :
    clipChars second (clipChars first chars) = clipChars (min first second) chars := by
  induction chars generalizing first second with
  | nil => rfl
  | cons c rest ih =>
    by_cases hfirst : c.utf8Size ≤ first
    · by_cases hsecond : c.utf8Size ≤ second
      · rw [clipChars, if_pos hfirst, clipChars, if_pos hsecond, clipChars,
          if_pos (Nat.le_min.mpr ⟨hfirst, hsecond⟩), ih, Nat.sub_min_sub_right]
      · rw [clipChars, if_pos hfirst, clipChars, if_neg hsecond, clipChars, if_neg (by omega)]
    · rw [clipChars, if_neg hfirst, clipChars, clipChars, if_neg (by omega)]

theorem clip_clip (first second : Nat) (text : String) :
    clip second (clip first text) = clip (min first second) text := by
  rw [clip, clip, String.toList_ofList, clipChars_clipChars, clip]

/-- With more room, no less of a text is left. -/
theorem clip_isPrefix_clip {first second : Nat} (h : first ≤ second) (text : String) :
    (clip first text).toList <+: (clip second text).toList := by
  have hagain : clip first text = clip first (clip second text) := by
    rw [clip_clip, Nat.min_eq_right h]
  rw [hagain]
  exact (isLongestFront_clip first (clip second text)).isPrefix

end Text

/-! ### Names in buffers -/

theorem nameBufferSize_of_pos {maxLength : Nat} (h : 0 < maxLength) :
    nameBufferSize maxLength = maxLength := by
  rw [nameBufferSize, if_neg (Nat.ne_of_gt h)]

/-- A name that went through two buffers is cut as by the tighter one alone. -/
theorem nameInBuffer_nameInBuffer (first second : Nat) (name : String) :
    nameInBuffer second (nameInBuffer first name) =
      nameInBuffer (min (nameBufferSize first) (nameBufferSize second)) name := by
  have hfirst := nameBufferSize_pos first
  have hsecond := nameBufferSize_pos second
  have hmin := nameBufferSize_of_pos (Nat.lt_min.mpr ⟨hfirst, hsecond⟩)
  simp only [nameInBuffer, Text.clip_clip, hmin, Nat.sub_min_sub_right]

/-- Whatever the length of a buffer, there is room for the terminator in it, and the search for the
place to cut a name at ends there, at most three bytes before the end of the buffer. It leaves the
longest part of the name that ends on a character boundary and fits. Cutting a name again is cutting
it once by the tighter buffer, so cutting it twice alike changes nothing, and a wider buffer never
leaves less. -/
theorem nameInBuffer_longest (name : String) :
    (∀ maxLength, 1 ≤ nameBufferSize maxLength ∧
      Text.boundaryBack? name (nameBufferSize maxLength - 1) =
        some (nameInBuffer maxLength name).utf8ByteSize ∧
      (nameBufferSize maxLength - 1 < name.utf8ByteSize →
        nameBufferSize maxLength - 1 ≤ (nameInBuffer maxLength name).utf8ByteSize + 3) ∧
      Text.cutBack? (nameBufferSize maxLength - 1) name = some (nameInBuffer maxLength name) ∧
      Text.IsLongestFront (nameBufferSize maxLength - 1) name (nameInBuffer maxLength name)) ∧
    (∀ first second, nameInBuffer second (nameInBuffer first name) =
      nameInBuffer (min (nameBufferSize first) (nameBufferSize second)) name) ∧
    (∀ maxLength, nameInBuffer maxLength (nameInBuffer maxLength name) =
      nameInBuffer maxLength name) ∧
    ∀ first second, nameBufferSize first ≤ nameBufferSize second →
      (nameInBuffer first name).toList <+: (nameInBuffer second name).toList := by
  refine ⟨fun maxLength ↦ ⟨nameBufferSize_pos maxLength, Text.boundaryBack?_eq name _, ?_,
    Text.cutBack?_eq _ name, Text.isLongestFront_clip _ name⟩,
    fun first second ↦ nameInBuffer_nameInBuffer first second name, fun maxLength ↦ ?_,
    fun first second hle ↦ Text.clip_isPrefix_clip (Nat.sub_le_sub_right hle 1) name⟩
  · intro hcut
    rw [← Text.length_encode, Text.encode_eq_flatMap] at hcut
    rw [nameInBuffer, Text.clip, Text.utf8ByteSize_ofList]
    exact Nat.le_of_lt_succ (Text.lt_length_flatMap_clipChars hcut)
  · rw [nameInBuffer, nameInBuffer, Text.clip_clip, Nat.min_self]

/-- Two of three bytes of the third character fit. -/
theorem nameInBuffer_longest_mixed :
    let name := "aé€𝄞"
    nameBufferSize 6 - 1 < name.utf8ByteSize ∧
      nameBufferSize 6 - 1 ≤ (nameInBuffer 6 name).utf8ByteSize + 3 ∧
      Text.IsLongestFront (nameBufferSize 6 - 1) name "aé" ∧
      nameBufferSize 6 ≤ nameBufferSize 0 ∧
      (nameInBuffer 6 name).toList <+: (nameInBuffer 0 name).toList := by
  intro name
  obtain ⟨hcut, -, -, hmono⟩ := nameInBuffer_longest name
  have hlong : nameBufferSize 6 - 1 < name.utf8ByteSize := by decide
  have hname : nameInBuffer 6 name = "aé" := by decide
  have hle : nameBufferSize 6 ≤ nameBufferSize 0 := by decide
  refine ⟨hlong, (hcut 6).2.2.1 hlong, ?_, hle, hmono 6 0 hle⟩
  rw [← hname]
  exact (hcut 6).2.2.2.2

end ShaderBuild
