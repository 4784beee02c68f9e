import ShaderBuild.Pattern.Escape

/-!
Sets as they are written, between brackets. Sets that are open wait in a stack, and an operator
takes all members before it.
-/

set_option autoImplicit false
set_option relaxedAutoImplicit false

namespace ShaderBuild.Pattern

open Reading

/-- A set that is being read: how it begins, what is left of an operator, and the members since,
latest first. -/
structure OpenSet where
  span : Span
  negated : Bool
  operand : Option (SetOperator × SetTerm) := none
  /-- Where the members begin. -/
  first : Position
  members : List SetTerm := []

namespace OpenSet

def add (set : OpenSet) (member : SetTerm) : OpenSet :=
  { set with members := member :: set.members }

/-- The members since the last operator. -/
def union (set : OpenSet) : SetTerm :=
  match set.members.reverse with
  | [] => .empty (.nothing set.first)
  | [member] => member
  | member :: members =>
    .union ⟨member.span.start, (members.getLastD member).span.stop⟩ (member :: members)

def body (set : OpenSet) : SetTerm :=
  match set.operand with
  | none => set.union
  | some (operator, left) => .operation operator left set.union

/-- Makes all that was read what is left of an operator, which ends at a place. -/
def operate (set : OpenSet) (operator : SetOperator) (first : Position) : OpenSet :=
  { set with operand := some (operator, set.body), first, members := [] }

def close (set : OpenSet) (stop : Position) : SetTerm :=
  .brackets ⟨set.span.start, stop⟩ set.negated set.body

/-- Fails as the bracket of a set is missing. -/
def unclosed {α : Type} (set : OpenSet) : Reading α := fail .setUnclosed set.span

end OpenSet

/-- The operators on sets, each written twice. -/
def setOperators : List (Char × SetOperator) :=
  [('&', .inter), ('-', .diff), ('~', .symmDiff)]

/-- Reads the start of a set, where hyphens and a bracket right at the front are members. -/
def readOpening : Reading OpenSet := do
  let start ← position
  advance
  if (← next?).isNone then failSince .setUnclosed start
  let negated := (← next?) == some '^'
  if negated then
    advance
    if (← next?).isNone then failSince .setUnclosed start
  let first ← position
  let hyphens ← readHyphens (← get).left.length
  if (← next?).isNone then fail .setUnclosed (.nothing start)
  let members ←
    if hyphens.isEmpty ∧ (← next?) = some ']' then do
      let bracket ← readOne ']'
      if (← next?).isNone then failSince .setUnclosed start
      pure [bracket]
    else pure hyphens
  return { span := ← since start, negated, first, members }
where
  readOne (c : Char) : Reading SetTerm := do
    let span := Span.char (← position) c
    advance
    return .literal ⟨span, c, false⟩
  /-- Reads hyphens, latest first. Each round takes a character, so `fuel` bounds them. -/
  readHyphens : Nat → Reading (List SetTerm)
    | 0 => return []
    | fuel + 1 => do
      if (← next?) = some '-' then
        let hyphen ← readOne '-'
        return (← readHyphens fuel) ++ [hyphen]
      else return []

/-- A set with a name, `[:name:]`, at the front of a text, with the length of its name in all. -/
def namedSet? (text : List Char) : Option (CharSet × Bool × Nat) :=
  match text with
  | '[' :: ':' :: '^' :: rest => (known? rest).map fun (set, length) ↦ (set, true, length + 5)
  | '[' :: ':' :: rest => (known? rest).map fun (set, length) ↦ (set, false, length + 4)
  | _ => none
where
  known? (rest : List Char) : Option (CharSet × Nat) :=
    let name := rest.takeWhile (· != ':')
    if [':', ']'].isPrefixOf (rest.drop name.length) then
      (CharSet.named.lookup (String.ofList name)).map (·, name.length)
    else none

/-- Reads a member of a set: one character or an escape. -/
def readMember : Reading Atom := do
  match ← next? with
  | none => failHere .setUnclosed
  | some '\\' => readEscape
  | some c =>
    let span := Span.char (← position) c
    skip
    return .literal ⟨span, c, false⟩

/-- A member of a set by itself. -/
def memberTerm : Atom → Reading SetTerm
  | .literal literal => return .literal literal
  | .sign span sign negated => return .sign span sign negated
  | .property span name => return .property span name
  | .dot span | .anchor span _ => fail .setEscape span

/-- A member of a set as an end of a range. -/
def rangeEnd : Atom → Reading Literal
  | .literal literal => return literal
  | atom => fail .setRangeEnd atom.span

/-- The character behind a hyphen and all blanks. Of a comment none but its blanks are skipped, and
if there is nothing else it is the blank itself. -/
def behindHyphen? (spaced : Bool) (rest : List Char) : Option Char :=
  if spaced then
    let shown := rest.filter fun c ↦ !Text.isWhiteSpace c
    match shown with
    | '#' :: c :: _ => some c
    | ['#'] | [] => rest.head?
    | c :: _ => some c
  else rest.head?

/-- Reads a member of a set or a range of characters. -/
def readMembers (set : OpenSet) : Reading SetTerm := do
  let first ← readMember
  skipBlanks
  let cursor ← get
  match cursor.left with
  | [] => set.unclosed
  | '-' :: rest =>
    let following := behindHyphen? cursor.spaced rest
    if following = some ']' ∨ following = some '-' then memberTerm first
    else
      advance
      if (← next?).isNone then set.unclosed
      let last ← readMember
      let low ← rangeEnd first
      let high ← rangeEnd last
      if low.char ≤ high.char then return .range low high
      else fail .setRangeReversed ⟨low.span.start, high.span.stop⟩
  | _ => memberTerm first

/-- Reads the rest of a set, within others. Each round takes a character, so `fuel` bounds them. -/
def readSet : Nat → List OpenSet → OpenSet → Reading SetTerm
  | 0, _, set => return set.close set.first
  | fuel + 1, outer, set => do
    skipBlanks
    let cursor ← get
    match cursor.left with
    | [] => set.unclosed
    | ']' :: _ =>
      skip
      let closed := set.close (← position)
      match outer with
      | [] => return closed
      | parent :: outer => readSet fuel outer (parent.add closed)
    | '[' :: _ =>
      match namedSet? cursor.left with
      | some (members, negated, length) =>
        modify fun cursor ↦ length.repeat Cursor.skip cursor
        readSet fuel outer (set.add (.named (← since cursor.position) members negated))
      | none => readSet fuel (set :: outer) (← readOpening)
    | c :: rest =>
      match setOperators.lookup c with
      | some operator =>
        if rest.head? = some c then
          skip
          skip
          readSet fuel outer (set.operate operator (← position))
        else readSet fuel outer (set.add (← readMembers set))
      | none => readSet fuel outer (set.add (← readMembers set))

end ShaderBuild.Pattern
