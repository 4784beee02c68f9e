/-!
Blank texts: those made of white space alone, the empty text among them.
-/

set_option autoImplicit false
set_option relaxedAutoImplicit false

namespace ShaderBuild.Text

/-- The Unicode property White_Space, which 25 characters have. -/
def isWhiteSpace (c : Char) : Bool :=
  let code := c.toNat
  (9 ≤ code && code ≤ 13) || code == 0x20 || code == 0x85 || code == 0xA0 || code == 0x1680 ||
    (0x2000 ≤ code && code ≤ 0x200A) || code == 0x2028 || code == 0x2029 || code == 0x202F ||
    code == 0x205F || code == 0x3000

/-- The text without the white space at both ends. -/
def trim (text : String) : String :=
  String.ofList
    ((text.toList.dropWhile isWhiteSpace).reverse.dropWhile isWhiteSpace).reverse

/-- Whether every character of the text is white space. -/
def isBlank (text : String) : Bool := text.toList.all isWhiteSpace

theorem isBlank_iff (text : String) :
    isBlank text = true ↔ ∀ c ∈ text.toList, isWhiteSpace c = true := by
  simp [isBlank]

end ShaderBuild.Text
