/-!
Texts cut to a number of bytes, at the last character boundary that fits.
-/

set_option autoImplicit false
set_option relaxedAutoImplicit false

namespace ShaderBuild.Text

/-- The longest run of leading characters whose encodings fit in `room` bytes together. -/
def clipChars (room : Nat) : List Char → List Char
  | [] => []
  | c :: rest => if c.utf8Size ≤ room then c :: clipChars (room - c.utf8Size) rest else []

/-- The text cut to at most `room` bytes, going back to a character boundary. -/
def clip (room : Nat) (text : String) : String := String.ofList (clipChars room text.toList)

theorem clipChars_isPrefix (room : Nat) (chars : List Char) : clipChars room chars <+: chars := by
  induction chars generalizing room with
  | nil => exact List.nil_prefix
  | cons c rest ih =>
    rw [clipChars]
    split
    · exact (List.prefix_cons_inj c).mpr (ih _)
    · exact List.nil_prefix

end ShaderBuild.Text
