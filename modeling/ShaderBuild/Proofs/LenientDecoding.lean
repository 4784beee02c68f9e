import ShaderBuild.Text.Clip
import ShaderBuild.Text.Terminator
import ShaderBuild.Text.Utf8

/-!
Texts that come through GL unharmed. The lenient reading of the UTF-8 bytes of a text is that text;
a cut with enough room cuts nothing off; and the terminators behind a log go without the log losing
anything. Of any bytes, the lenient reading has at most one character for each byte, and at most
three times as many bytes.
-/

set_option autoImplicit false
set_option relaxedAutoImplicit false

namespace ShaderBuild.Text

theorem encode_eq_flatMap (text : String) :
    encode text = text.toList.flatMap String.utf8EncodeChar := by
  obtain ⟨chars, rfl⟩ : ∃ chars, text = String.ofList chars := ⟨text.toList, by simp⟩
  rw [encode, String.toByteArray_ofList, List.utf8Encode, List.toList_data_toByteArray,
    String.toList_ofList]

theorem length_encode (text : String) : (encode text).length = text.utf8ByteSize := rfl

/-! ### Lenient reading -/

theorem firstChar?_utf8EncodeChar_append (c : Char) (rest : Bytes) :
    firstChar? (String.utf8EncodeChar c ++ rest) = some c := by
  have hlength : (String.utf8EncodeChar c).length ≤ 4 := by
    rw [String.length_utf8EncodeChar]
    exact c.utf8Size_le_four
  rw [firstChar?, List.take_append, List.take_of_length_le hlength, List.toByteArray_append]
  exact ByteArray.utf8DecodeChar?_utf8EncodeChar_append

theorem lenientChars_nil : lenientChars [] = [] := by
  rw [lenientChars]

theorem lenientChars_utf8EncodeChar_append (c : Char) (rest : Bytes) :
    lenientChars (String.utf8EncodeChar c ++ rest) = c :: lenientChars rest := by
  have hfirst := firstChar?_utf8EncodeChar_append c rest
  have hlength := String.length_utf8EncodeChar c
  obtain ⟨lead, tail, hbytes⟩ := List.exists_cons_of_ne_nil (@String.utf8EncodeChar_ne_nil c)
  rw [hbytes, List.cons_append] at hfirst ⊢
  rw [hbytes, List.length_cons] at hlength
  rw [lenientChars]
  simp only [hfirst]
  rw [← hlength, Nat.add_sub_cancel, List.drop_left]

theorem lenientChars_flatMap (chars : List Char) :
    lenientChars (chars.flatMap String.utf8EncodeChar) = chars := by
  induction chars with
  | nil => exact lenientChars_nil
  | cons c rest ih => rw [List.flatMap_cons, lenientChars_utf8EncodeChar_append, ih]

/-- Reading the bytes of a text gives the text back. -/
theorem decodeLenient_encode (text : String) : decodeLenient (encode text) = text := by
  rw [decodeLenient, encode_eq_flatMap, lenientChars_flatMap, String.ofList_toList]

/-- The strict reading gives the text that the bytes encode. -/
theorem encode_of_decode? {bytes : Bytes} {text : String} (h : decode? bytes = some text) :
    encode text = bytes := by
  unfold decode? String.fromUTF8? at h
  split at h
  · rename_i hvalid
    obtain rfl := Option.some.inj h
    show (bytes.toByteArray).data.toList = bytes
    rw [List.toList_data_toByteArray]
  · cases h

/-- Where the strict reading gives a text, the lenient one gives the same. -/
theorem decodeLenient_of_decode? {bytes : Bytes} {text : String} (h : decode? bytes = some text) :
    decodeLenient bytes = text := by
  rw [← encode_of_decode? h, decodeLenient_encode]

theorem utf8Size_le_of_firstChar? {bytes : Bytes} {c : Char} (h : firstChar? bytes = some c) :
    c.utf8Size ≤ bytes.length := by
  have hsize := ByteArray.le_size_of_utf8DecodeChar?_eq_some h
  rw [List.size_toByteArray, List.length_take] at hsize
  omega

/-- No character is read from less than one byte. -/
theorem length_lenientChars_le (bytes : Bytes) : (lenientChars bytes).length ≤ bytes.length := by
  fun_induction lenientChars bytes with
  | case1 => exact Nat.le_refl _
  | case2 lead rest c hfirst ih =>
    rw [List.length_drop] at ih
    simp only [List.length_cons]
    omega
  | case3 lead rest hfirst ih =>
    rw [List.length_drop] at ih
    simp only [List.length_cons]
    omega

/-- What is read takes at most three times the bytes: that is the size of a replacement. -/
theorem length_flatMap_lenientChars_le (bytes : Bytes) :
    ((lenientChars bytes).flatMap String.utf8EncodeChar).length ≤ 3 * bytes.length := by
  fun_induction lenientChars bytes with
  | case1 => exact Nat.le_refl _
  | case2 lead rest c hfirst ih =>
    have hsize := utf8Size_le_of_firstChar? hfirst
    have hpos := c.utf8Size_pos
    rw [List.length_drop] at ih
    rw [List.length_cons] at hsize
    rw [List.flatMap_cons, List.length_append, String.length_utf8EncodeChar, List.length_cons]
    omega
  | case3 lead rest hfirst ih =>
    have hsize : replacement.utf8Size = 3 := by decide
    rw [List.length_drop] at ih
    rw [List.flatMap_cons, List.length_append, String.length_utf8EncodeChar, List.length_cons]
    omega

/-! ### Cutting and terminators -/

theorem clipChars_of_le {room : Nat} {chars : List Char}
    (h : (chars.flatMap String.utf8EncodeChar).length ≤ room) : clipChars room chars = chars := by
  induction chars generalizing room with
  | nil => rfl
  | cons c rest ih =>
    rw [List.flatMap_cons, List.length_append, String.length_utf8EncodeChar] at h
    rw [clipChars, if_pos (by omega), ih (by omega)]

theorem clip_of_le {room : Nat} {text : String} (h : text.utf8ByteSize ≤ room) :
    clip room text = text := by
  rw [← length_encode, encode_eq_flatMap] at h
  rw [clip, clipChars_of_le h, String.ofList_toList]

/-- A log that does not end in a terminator itself is found again before any number of them. -/
theorem dropTerminators_append (log : String) (count : Nat)
    (hlog : log.toList.getLast? ≠ some '\x00') :
    dropTerminators (log ++ String.ofList (List.replicate count '\x00')) = log := by
  have hnone : log.toList.reverse.dropWhile (· == '\x00') = log.toList.reverse := by
    cases hreverse : log.toList.reverse with
    | nil => rfl
    | cons last rest =>
      refine List.dropWhile_cons_of_neg fun hlast ↦ hlog ?_
      rw [← List.head?_reverse, hreverse, List.head?_cons]
      exact congrArg some (by simpa using hlast)
  have hall : (List.replicate count '\x00').dropWhile (· == '\x00') = [] := by
    simp
  rw [dropTerminators, String.toList_append, String.toList_ofList, List.reverse_append,
    List.reverse_replicate, List.dropWhile_append, hall]
  simp [hnone]

end ShaderBuild.Text
