import ShaderBuild.Text.Utf8

/-!
Ranges of characters by their UTF-8 bytes. Characters of the same length make one sequence of byte
ranges if each byte runs through its range whatever the bytes before it; a range of characters is
cut until all its pieces do.
-/

set_option autoImplicit false
set_option relaxedAutoImplicit false

namespace ShaderBuild.Text

/-- Bytes from one up to another. -/
abbrev ByteRange := UInt8 × UInt8

/-- The codes from which on a character has a byte more. -/
def lengthSteps : List Nat := [0x80, 0x800, 0x10000]

/-- Where a range of codes has to be cut, if it has to: where the length of the characters changes,
or at a code from which on the last one, two or three bytes begin anew. -/
def cut? (first last : Nat) : Option Nat :=
  (lengthSteps.find? fun step ↦ first < step && step ≤ last) <|>
    if last < 0x80 then none
    else
      [64, 4096, 262144].findSome? fun size ↦
        if first / size = last / size then none
        else if first % size ≠ 0 then some ((first / size + 1) * size)
        else if last % size ≠ size - 1 then some (last / size * size)
        else none

/-- The byte ranges of the characters from one code up to another, none of them a surrogate. -/
def byteSequences (first last : Nat) : List (List ByteRange) :=
  match cut? first last with
  | some cut =>
    if first < cut ∧ cut ≤ last then byteSequences first (cut - 1) ++ byteSequences cut last
    else [whole]
  | none => [whole]
termination_by last - first
decreasing_by all_goals omega
where
  whole : List ByteRange := (bytes first).zip (bytes last)
  bytes (code : Nat) : Bytes := encode (String.singleton (Char.ofNat code))

end ShaderBuild.Text
