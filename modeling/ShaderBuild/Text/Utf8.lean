/-!
Texts and their UTF-8 bytes. A byte sequence is read in one of two ways: strictly, where it is a
text or it is refused, or leniently, where every maximal ill-formed piece is replaced by one U+FFFD.
The two agree on well-formed bytes.
-/

set_option autoImplicit false
set_option relaxedAutoImplicit false

namespace ShaderBuild

/-- Bytes as files, buffers and writers hold them. -/
abbrev Bytes := List UInt8

namespace Text

/-- The UTF-8 bytes of a text. -/
def encode (text : String) : Bytes := text.toByteArray.data.toList

/-- The text that the bytes are the UTF-8 encoding of, if there is one. Overlong forms, surrogates,
values above U+10FFFF and cut characters have none. -/
def decode? (bytes : Bytes) : Option String := String.fromUTF8? bytes.toByteArray

/-- What takes the place of an ill-formed piece. -/
def replacement : Char := '\uFFFD'

/-- The character whose encoding stands at the front. -/
def firstChar? (bytes : Bytes) : Option Char := (bytes.take 4).toByteArray.utf8DecodeChar? 0

/-- The bytes that may come second in a character of several bytes, and the number of bytes that
follow the first. -/
structure Continuation where
  low : UInt8
  high : UInt8
  following : Nat

/-- What has to follow a first byte above 0x7F. The narrow ranges shut out overlong forms,
surrogates and values above U+10FFFF. -/
def continuation? (lead : UInt8) : Option Continuation :=
  if 0xC2 ≤ lead ∧ lead ≤ 0xDF then some ⟨0x80, 0xBF, 1⟩
  else if lead = 0xE0 then some ⟨0xA0, 0xBF, 2⟩
  else if lead = 0xED then some ⟨0x80, 0x9F, 2⟩
  else if 0xE1 ≤ lead ∧ lead ≤ 0xEF then some ⟨0x80, 0xBF, 2⟩
  else if lead = 0xF0 then some ⟨0x90, 0xBF, 3⟩
  else if 0xF1 ≤ lead ∧ lead ≤ 0xF3 then some ⟨0x80, 0xBF, 3⟩
  else if lead = 0xF4 then some ⟨0x80, 0x8F, 3⟩
  else none

/-- Whether the byte may stand third or fourth in a character. -/
def isTail (byte : UInt8) : Bool := 0x80 ≤ byte && byte ≤ 0xBF

/-- How many bytes after `lead` belong to the same ill-formed piece: those that could still have
become a character, none if the second byte already rules that out. -/
def strayFollowers (lead : UInt8) (rest : Bytes) : Nat :=
  match continuation? lead, rest with
  | some needs, second :: others =>
    if needs.low ≤ second ∧ second ≤ needs.high then
      1 + ((others.take (needs.following - 1)).takeWhile isTail).length
    else 0
  | _, _ => 0

/-- The characters of a byte sequence, with one `replacement` for each maximal ill-formed piece. -/
def lenientChars (bytes : Bytes) : List Char :=
  match bytes with
  | [] => []
  | lead :: rest =>
    match firstChar? (lead :: rest) with
    | some c => c :: lenientChars (rest.drop (c.utf8Size - 1))
    | none => replacement :: lenientChars (rest.drop (strayFollowers lead rest))
termination_by bytes.length
decreasing_by all_goals simp only [List.length_drop, List.length_cons]; omega

/-- The lenient reading of any byte sequence. -/
def decodeLenient (bytes : Bytes) : String := String.ofList (lenientChars bytes)

end Text

end ShaderBuild
