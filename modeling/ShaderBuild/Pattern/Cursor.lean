import ShaderBuild.Pattern.Fault
import ShaderBuild.Text.Blank

/-!
Reading a text from the left. Where blanks stand for nothing, so do comments, from a hash to the end
of the line.
-/

set_option autoImplicit false
set_option relaxedAutoImplicit false

namespace ShaderBuild.Pattern

/-- What is left to read, the place that the reading has got to, and whether blanks stand for
nothing. -/
structure Cursor where
  left : List Char
  position : Position := {}
  spaced : Bool := false
  deriving DecidableEq, Repr

namespace Cursor

/-- What is looked for as characters are gathered. -/
inductive Phase where
  /-- A character that is asked for. -/
  | wanted
  /-- Such a character, or a blank that stands for nothing. -/
  | blank
  | comment
  deriving DecidableEq, Repr

/-- Takes characters with a property as long as there are any, and with each the blanks and comments
behind it if they stand for nothing. Gives the characters and the cursor behind them. -/
def gather (property : Char → Bool) (cursor : Cursor) (phase : Phase) : List Char × Cursor :=
  go phase cursor.position cursor.left
where
  go (phase : Phase) (position : Position) : List Char → List Char × Cursor
    | [] => ([], ⟨[], position, cursor.spaced⟩)
    | c :: rest =>
      let next := position.after c
      let skipped : Option Phase := match phase with
        | .wanted => none
        | .blank =>
          if Text.isWhiteSpace c then some .blank else if c = '#' then some .comment else none
        | .comment => some (if c = '\n' then .blank else .comment)
      match skipped with
      | some phase => go phase next rest
      | none =>
        if property c then
          let (taken, cursor) := go (if cursor.spaced then .blank else .wanted) next rest
          (c :: taken, cursor)
        else ([], ⟨c :: rest, position, cursor.spaced⟩)

/-- Skips blanks and comments if they stand for nothing. -/
def skipBlanks (cursor : Cursor) : Cursor :=
  if cursor.spaced then (cursor.gather (fun _ ↦ false) .blank).2 else cursor

/-- Skips one character. -/
def skip (cursor : Cursor) : Cursor :=
  match cursor.left with
  | [] => cursor
  | c :: rest => { cursor with left := rest, position := cursor.position.after c }

end Cursor

abbrev Reading := StateT Cursor (Except Fault)

namespace Reading

variable {α : Type}

def next? : Reading (Option Char) := return (← get).left.head?

def position : Reading Position := return (← get).position

/-- The part that was read since a place. -/
def since (start : Position) : Reading Span := return ⟨start, ← position⟩

def skip : Reading Unit := modify Cursor.skip

def skipBlanks : Reading Unit := modify Cursor.skipBlanks

/-- Skips a character and what stands for nothing behind it. -/
def advance : Reading Unit := modify fun cursor ↦ cursor.skip.skipBlanks

/-- Skips a text if it comes next, and tells whether it does. -/
def skipText (text : String) : Reading Bool := do
  if text.toList.isPrefixOf (← get).left then
    modify fun cursor ↦ text.toList.foldl (fun cursor _ ↦ cursor.skip) cursor
    return true
  else return false

def takeWhile (property : Char → Bool) : Reading (List Char) := do
  let cursor ← get
  let (taken, after) := { cursor with spaced := false }.gather property .wanted
  set { after with spaced := cursor.spaced }
  return taken

/-- As `takeWhile`, where blanks behind each character can stand for nothing. -/
def takeSpaced (property : Char → Bool) : Reading (List Char) := do
  let (taken, cursor) := (← get).gather property .wanted
  set cursor
  return taken

def fail (mistake : Mistake) (span : Span) : Reading α := refuse mistake span

/-- Fails on what was read since a place. -/
def failSince (mistake : Mistake) (start : Position) : Reading α := do
  fail mistake (← since start)

/-- Fails where the reading has got to. -/
def failHere (mistake : Mistake) : Reading α := do
  fail mistake (.nothing (← position))

/-- Fails at the character that comes next. -/
def failNext (mistake : Mistake) : Reading α := do
  let cursor ← get
  match cursor.left with
  | [] => failHere mistake
  | c :: _ => fail mistake (.char cursor.position c)

end Reading

end ShaderBuild.Pattern
