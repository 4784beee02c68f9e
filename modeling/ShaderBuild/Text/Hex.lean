/-!
Numbers in hexadecimal, as logs, traces and platform errors show them.
-/

set_option autoImplicit false
set_option relaxedAutoImplicit false

namespace ShaderBuild.Text

/-- The lower case hexadecimal digits of a number. -/
def hexDigits (n : Nat) : String := String.ofList (Nat.toDigits 16 n)

/-- A GL code: `0x` and at least four digits. -/
def hexCode (code : UInt32) : String :=
  let digits := Nat.toDigits 16 code.toNat
  "0x" ++ String.ofList (List.replicate (4 - digits.length) '0' ++ digits)

end ShaderBuild.Text
