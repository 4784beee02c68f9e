import ShaderBuild.Pattern.Cursor

/-!
The bounds of a repetition as they are written, by a sign or between braces.
-/

set_option autoImplicit false
set_option relaxedAutoImplicit false

namespace ShaderBuild.Pattern

open Reading

/-- The least and the most rounds of a repetition. -/
abbrev Bounds := Nat × Option Nat

/-- The signs of a repetition. -/
def quantifiers : List (Char × Bounds) := [('?', 0, some 1), ('*', 0, none), ('+', 1, none)]

/-- The largest number in a repetition. -/
def maxCount : Nat := 0xFFFFFFFF

/-- Reads a number, with blanks on both sides. What is wrong with it matters only later. -/
def readCount : Reading (Except Fault Nat) := do
  let _ ← takeWhile Text.isWhiteSpace
  let start ← position
  let digits ← takeSpaced Char.isDigit
  let span ← since start
  let _ ← takeSpaced Text.isWhiteSpace
  if digits.isEmpty then return .error ⟨.countMissing, [span]⟩
  else
    let count := digits.foldl (fun value c ↦ value * 10 + (c.toNat - 48)) 0
    return if count ≤ maxCount then .ok count else .error ⟨.countTooLarge, [span]⟩

/-- Reads the bounds of a repetition in braces. -/
def readBounds : Reading Bounds := do
  let start ← position
  let unclosed {α : Type} : Reading α := failSince .countUnclosed start
  advance
  if (← next?).isNone then unclosed
  let first ← readCount
  let (least, most) ← match ← next? with
    | none => unclosed
    | some ',' => do
      advance
      match ← next? with
      | none => unclosed
      | some '\x7d' => do
        let least ← first
        pure (least, none)
      | some _ => do
        let least ← first
        let most ← (← readCount : Except Fault Nat)
        pure (least, some most)
    | some _ => do
      let count ← first
      pure (count, some count)
  if (← next?) = some '\x7d' then
    advance
    let _ ← skipText "?"
    if most.any (· < least) then failSince .countsReversed start
    return (least, most)
  else unclosed

/-- Reads a sign of a repetition. -/
def readQuantifier (bounds : Bounds) : Reading Bounds := do
  skip
  let _ ← skipText "?"
  return bounds

end ShaderBuild.Pattern
