import ShaderBuild.Pattern.Cursor
import ShaderBuild.Pattern.Term

/-!
What is written with a backslash: characters by a letter, by a sign or by a code, sets that have a
letter or a name, and places.
-/

set_option autoImplicit false
set_option relaxedAutoImplicit false

namespace ShaderBuild.Pattern

open Reading

/-! ### Codes -/

/-- The value of a digit in base 16. -/
def hexDigit? (c : Char) : Option Nat :=
  if c.isDigit then some (c.toNat - 48)
  else if 'a' ≤ c ∧ c ≤ 'f' then some (c.toNat - 87)
  else if 'A' ≤ c ∧ c ≤ 'F' then some (c.toNat - 55)
  else none

def isHexDigit (c : Char) : Bool := (hexDigit? c).isSome

/-- The character that digits name. -/
def charOfHex? (digits : List Char) : Option Char :=
  let code := digits.foldl (fun value c ↦ value * 16 + (hexDigit? c).getD 0) 0
  if code.isValidChar then some (Char.ofNat code) else none

/-- Reads a number of digits in base 16. -/
def readDigits : Nat → Reading (List Char)
  | 0 => return []
  | count + 1 => do
    match ← next? with
    | none => failHere .escapeUnfinished
    | some c =>
      if isHexDigit c then
        advance
        return c :: (← readDigits count)
      else failNext .codeDigit

/-- Reads a code behind its letter: so many digits, or any number of them in braces. -/
def readCode (start : Position) (count : Nat) : Reading Atom := do
  advance
  let first ← position
  match ← next? with
  | none => failHere .escapeUnfinished
  | some '\x7b' =>
    let inner := first.after '\x7b'
    advance
    let digits ← takeSpaced isHexDigit
    let stop ← position
    match ← next? with
    | none => failSince .escapeUnfinished first
    | some '\x7d' =>
      advance
      if digits.isEmpty then failSince .codeEmpty first
      else
        match charOfHex? digits with
        | some c => return .literal ⟨← since start, c, false⟩
        | none => fail .codeNoCharacter ⟨inner, stop⟩
    | some _ => failNext .codeDigit
  | some _ =>
    let digits ← readDigits count
    match charOfHex? digits with
    | some c => return .literal ⟨← since start, c, count == 2⟩
    | none => failSince .codeNoCharacter first

/-! ### Properties -/

/-- Reads the name of a property behind its letter: one letter, or any text in braces. -/
def readProperty (start : Position) : Reading Atom := do
  advance
  match ← next? with
  | none => failHere .escapeUnfinished
  | some '\x7b' =>
    advance
    let name ← takeSpaced (· != '\x7d')
    if (← next?).isNone then failHere .escapeUnfinished
    else
      skip
      return .property (← since start) (String.ofList name)
  | some '\\' => failNext .propertyInvalid
  | some c =>
    advance
    return .property (← since start) (String.singleton c)

/-! ### Edges of words -/

/-- The edges of words that have a name. -/
def edgeNames : List (String × WordEdge) :=
  [("start", .start), ("end", .stop), ("start-half", .startHalf), ("end-half", .stopHalf)]

/-- Reads the name of an edge in braces behind `\b`, or nothing where the braces hold the bounds of
a repetition. -/
def readEdge (start : Position) : Reading WordEdge := do
  let before ← get
  advance
  let inner ← position
  let name ← takeSpaced fun c ↦ c.isAlpha || c == '-'
  let stop ← position
  match ← next? with
  | none =>
    if name.isEmpty then failSince .edgeUnfinished start
    else failSince .edgeUnclosed before.position
  | some c =>
    if name.isEmpty then
      set before
      return .boundary
    else if c = '\x7d' then
      skip
      match edgeNames.lookup (String.ofList name) with
      | some edge => return edge
      | none => fail .edgeUnknown ⟨inner, stop⟩
    else failSince .edgeUnclosed before.position

/-! ### All that is written with a backslash -/

/-- The letters that stand for a character. -/
def charLetters : List (Char × Char) :=
  [('a', '\x07'), ('f', '\x0c'), ('t', '\t'), ('n', '\n'), ('r', '\r'), ('v', '\x0b')]

/-- The letters that stand for a set, or for all that is not in it. -/
def signLetters : List (Char × Sign × Bool) :=
  [('d', .digit, false), ('D', .digit, true), ('s', .blank, false), ('S', .blank, true),
    ('w', .word, false), ('W', .word, true)]

/-- The letters and signs that stand for a place. -/
def anchorLetters : List (Char × Anchor) :=
  [('A', .textStart), ('z', .textEnd), ('b', .word .boundary), ('B', .word .noBoundary),
    ('<', .word .start), ('>', .word .stop)]

/-- The letters before a code, with its number of digits. -/
def codeLetters : List (Char × Nat) := [('x', 2), ('u', 4), ('U', 8)]

/-- Reads a backslash and what belongs to it. -/
def readEscape : Reading Atom := do
  let start ← position
  skip
  match ← next? with
  | none => failSince .escapeUnfinished start
  | some c =>
    match codeLetters.lookup c with
    | some count => readCode start count
    | none =>
      if c = 'p' ∨ c = 'P' then readProperty start
      else
        skip
        let span ← since start
        match charLetters.lookup c, signLetters.lookup c, anchorLetters.lookup c with
        | some char, _, _ => return .literal ⟨span, char, false⟩
        | _, some (sign, negated), _ => return .sign span sign negated
        | _, _, some place =>
          if c = 'b' ∧ (← next?) = some '\x7b' then
            let edge ← readEdge start
            return .anchor (← since start) (.word edge)
          else return .anchor span place
        | none, none, none =>
          if c.isDigit then fail .backreference span
          else if c.toNat < 0x80 ∧ !c.isAlpha then return .literal ⟨span, c, false⟩
          else fail .escapeUnknown span

end ShaderBuild.Pattern
