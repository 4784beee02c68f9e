/-!
Texts as a stream shows them that is no terminal. Control sequences, which would move a cursor or
set a colour, are left out, and so are control characters, except those that lay out a text.
A sequence is followed from its escape character to its end as a terminal does; one that
is never ended takes the rest of the text with it. A line feed, a tab or the like in the middle of
a sequence shows, and what stands behind it shows too, up to the next control character.
-/

set_option autoImplicit false
set_option relaxedAutoImplicit false

namespace ShaderBuild.Text

/-- The control characters that lay out a text: tab, line feed, form feed and carriage return. -/
def isLayout (c : Char) : Bool := c == '\t' || c == '\n' || c == '\x0c' || c == '\r'

/-- Whether a character shows outside any control sequence. -/
def isShown (c : Char) : Bool := ('\x20' ≤ c && c != '\x7f') || isLayout c

/-- What the characters read so far leave open. -/
inductive Sequence where
  /-- Nothing. -/
  | none
  /-- An escape character was read. -/
  | escape
  /-- An escape character and characters that select a kind of sequence. -/
  | escapeIntermediate
  /-- A control sequence: `ESC [`, parameters, and a letter at the end. -/
  | control
  /-- The head of a device control string, begun by `ESC P`. -/
  | deviceEntry
  | deviceParameter
  | deviceIntermediate
  /-- A string that lasts up to a terminator. -/
  | string
  /-- A command to the operating system, begun by `ESC ]` and ended by a bell. -/
  | system
  deriving DecidableEq, Repr

/-- Whether the bytes of a character end a string: one of them is a string terminator. -/
def endsString (c : Char) : Bool := (String.utf8EncodeChar c).contains 0x9C

namespace Sequence

/-- Whether a character shows in spite of what is open. -/
def shows : Sequence → Char → Bool
  | .none, c => isShown c
  | .escape, c => isLayout c
  | .escapeIntermediate, c => isLayout c
  | .control, c => isLayout c
  | _, _ => false

/-- What is open after a character that does not show. Everything ends with a new escape character
and with the two characters that cancel. -/
def after (sequence : Sequence) (c : Char) : Sequence :=
  if c = '\x1b' then .escape
  else if c = '\x18' ∨ c = '\x1a' then .none
  else
    match sequence with
    | .none => .none
    | .escape =>
      if '\x20' ≤ c ∧ c ≤ '/' then .escapeIntermediate
      else if c = '[' then .control
      else if c = ']' then .system
      else if c = 'P' then .deviceEntry
      else if c = 'X' ∨ c = '^' ∨ c = '_' then .string
      else if '0' ≤ c ∧ c ≤ '~' then .none
      else .escape
    | .escapeIntermediate => if '0' ≤ c ∧ c ≤ '~' then .none else .escapeIntermediate
    | .control => if '@' ≤ c ∧ c ≤ '~' then .none else .control
    | .deviceEntry =>
      if '\x20' ≤ c ∧ c ≤ '/' then .deviceIntermediate
      else if '0' ≤ c ∧ c ≤ '?' then .deviceParameter
      else if '@' ≤ c ∧ c ≤ '~' then .string
      else .deviceEntry
    | .deviceParameter =>
      if '\x20' ≤ c ∧ c ≤ '/' then .deviceIntermediate
      else if '<' ≤ c ∧ c ≤ '~' then .string
      else .deviceParameter
    | .deviceIntermediate => if '0' ≤ c ∧ c ≤ '~' then .string else .deviceIntermediate
    | .string => if endsString c then .none else .string
    | .system => if c = '\x07' then .none else .system

end Sequence

/-- Whether the next character shows. Behind one that does, `showing`, it is judged as if nothing
were open. -/
def isNextShown (sequence : Sequence) (showing : Bool) (c : Char) : Bool :=
  bif showing then isShown c else sequence.shows c

/-- The characters that show. One beyond ASCII closes what is open; the others that show leave it
open. -/
def plainChars (sequence : Sequence) (showing : Bool) : List Char → List Char
  | [] => []
  | c :: rest =>
    if isNextShown sequence showing c then
      c :: plainChars (if c.toNat < 0x80 then sequence else .none) true rest
    else plainChars (sequence.after c) false rest

/-- The text as it shows. -/
def plain (text : String) : String := String.ofList (plainChars .none false text.toList)

end ShaderBuild.Text
