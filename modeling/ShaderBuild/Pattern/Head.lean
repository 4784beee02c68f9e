import ShaderBuild.Pattern.Cursor
import ShaderBuild.Pattern.Term
import ShaderBuild.Text.Letter

/-!
What stands behind an opening parenthesis: the name of a group, or flags for a group or for the rest
of the group around.
-/

set_option autoImplicit false
set_option relaxedAutoImplicit false

namespace ShaderBuild.Pattern

open Reading

/-! ### Flags -/

/-- The flags by their letters. -/
def flagLetters : List (Char × Flag) :=
  [('i', .anyCase), ('m', .byLine), ('s', .dotAll), ('U', .short), ('u', .anyScript),
    ('R', .anyLineEnd), ('x', .spaced)]

/-- Reads flags up to a colon or a parenthesis; `seen` holds the signs before, latest first, with
their places. Flags behind a hyphen are switched off. -/
def readSwitches (seen : List (Char × Position)) : Reading Switches := do
  let cursor ← get
  let (switches, cursor) ← (go seen cursor.position cursor.left : Except Fault _)
  set { cursor with spaced := (← get).spaced }
  return switches
where
  go (seen : List (Char × Position)) (position : Position) :
      List Char → Except Fault (Switches × Cursor)
    | [] => .error ⟨.flagsUnfinished, [.nothing position]⟩
    | c :: rest =>
      if c = ':' ∨ c = ')' then
        match seen with
        | ('-', before) :: _ => .error ⟨.flagNegationLast, [.char before '-']⟩
        | _ => .ok ([], { left := c :: rest, position })
      else
        let flag := flagLetters.lookup c
        if flag.isNone ∧ c ≠ '-' then .error ⟨.flagUnknown, [.char position c]⟩
        else
          match seen.lookup c with
          | some before =>
            .error ⟨if c = '-' then .flagNegationRepeated else .flagRepeated,
              [.char before c, .char position c]⟩
          | none => do
            let (switches, cursor) ← go ((c, position) :: seen) (position.after c) rest
            let switch := flag.map (·, (seen.lookup '-').isNone)
            return (switch.toList ++ switches, cursor)

/-! ### Names -/

/-- The names of groups so far, with where they are. -/
abbrev Names := List (String × Span)

/-- Whether a character can stand in the name of a group. -/
def isNameChar (isFirst : Bool) (c : Char) : Bool :=
  c == '_' || Text.isAlphabetic c ||
    (!isFirst && (Text.isNumeric c || c == '.' || c == '[' || c == ']'))

/-- Reads the name of a group and the bracket behind it. -/
def readName (names : Names) : Reading (String × Span) := do
  let start ← position
  let first ← match ← next? with
    | none => pure []
    | some c => if isNameChar true c then do skip; pure [c] else pure []
  let name := first ++
    (← takeWhile fun c ↦ !first.isEmpty && isNameChar false c)
  let span ← since start
  match ← next? with
  | none => failHere .nameUnfinished
  | some '>' =>
    skip
    if name.isEmpty then fail .nameEmpty (.nothing start)
    match names.lookup (String.ofList name) with
    | some before => throw ⟨.nameRepeated, [before, span]⟩
    | none => return (String.ofList name, span)
  | some _ => failNext .nameCharacter

/-! ### Parentheses -/

inductive Head where
  /-- Flags for the rest of the group around. -/
  | setting (switches : Switches)
  /-- A group whose text is kept, perhaps under a name. -/
  | kept (name : Option (String × Span))
  /-- A group with flags of its own. -/
  | plain (switches : Switches)
  deriving DecidableEq, Repr

/-- Reads an opening parenthesis and what belongs to it. -/
def readHead (names : Names) : Reading Head := do
  let start ← position
  let parenthesis : Span := .char start '('
  advance
  let inner ← position
  if (← skipText "?=") || (← skipText "?!") || (← skipText "?<=") || (← skipText "?<!") then
    failSince .lookAround start
  if (← skipText "?P<") || (← skipText "?<") then
    return .kept (some (← readName names))
  if ← skipText "?" then
    if (← next?).isNone then fail .groupUnclosed parenthesis
    let flags ← position
    let switches ← readSwitches []
    let isEmpty := flags == (← position)
    if ← skipText ")" then
      if isEmpty then fail .nothingToRepeat (.nothing inner) else return .setting switches
    else
      skip
      return .plain switches
  return .kept none

end ShaderBuild.Pattern
