/-!
Numbers on the command line: decimal digits with an optional sign. They are read from the left, and
the first thing that is wrong is reported: a character that is no digit, or the digit with which
the number grows too large.
-/

set_option autoImplicit false
set_option relaxedAutoImplicit false

namespace ShaderBuild.Command

inductive NumberError where
  | empty
  | invalidDigit
  | tooLarge
  | tooSmall
  deriving DecidableEq, Repr

def NumberError.message : NumberError → String
  | .empty => "cannot parse integer from empty string"
  | .invalidDigit => "invalid digit found in string"
  | .tooLarge => "number too large to fit in target type"
  | .tooSmall => "number too small to fit in target type"

/-- The value of an ASCII digit. -/
def digit? (c : Char) : Option Nat := if c.isDigit then some (c.toNat - '0'.toNat) else none

/-- Reads digits behind those of `value`. A number beyond `limit` is answered with `beyond`. -/
def readDigits (limit : Nat) (beyond : NumberError) : (value : Nat) → List Char →
    Except NumberError Nat
  | value, [] => .ok value
  | value, c :: rest =>
    match digit? c with
    | none => .error .invalidDigit
    | some digit =>
      if value * 10 + digit ≤ limit then readDigits limit beyond (value * 10 + digit) rest
      else .error beyond

/-- A number without sign or with a plus, up to `limit`. -/
def readNat (limit : Nat) (text : String) : Except NumberError Nat :=
  match text.toList with
  | [] => .error .empty
  | ['+'] => .error .invalidDigit
  | '+' :: digits => readDigits limit .tooLarge 0 digits
  | digits => readDigits limit .tooLarge 0 digits

/-- A number with any sign, from `-limit - 1` to `limit`. -/
def readInt (limit : Nat) (text : String) : Except NumberError Int :=
  match text.toList with
  | ['-'] => .error .invalidDigit
  | '-' :: digits => (readDigits (limit + 1) .tooSmall 0 digits).map fun value ↦ -(value : Int)
  | _ => (readNat limit text).map Int.ofNat

end ShaderBuild.Command
