import ShaderBuild.Pattern.Basic

/-!
Putting patterns together. What comes out is in a plain form: characters in a row are one text,
alternatives that are each a character are one set, and alternatives that begin alike begin once.
-/

set_option autoImplicit false
set_option relaxedAutoImplicit false

namespace ShaderBuild.Pattern

/-- One character out of a set, which can be a certain one. -/
def ofSet (set : CharSet) : Pattern :=
  match set.only? with
  | some c => .text [c]
  | none => .one set

/-- What matches nowhere. -/
def nowhere : Pattern := .one .none

/-! ### One behind another -/

/-- The parts of a pattern that stand one behind another. -/
def parts : Pattern → List Pattern
  | .empty => []
  | .seq first second => first.parts ++ second.parts
  | pattern => [pattern]

/-- Puts a part in front of others. -/
def pushPart : Pattern → List Pattern → List Pattern
  | .text chars, .text others :: rest => .text (chars ++ others) :: rest
  | part, rest => part :: rest

/-- A pattern of parts that are in a plain form. -/
def ofParts : List Pattern → Pattern
  | [] => .empty
  | [part] => part
  | part :: rest => .seq part (ofParts rest)

/-- Patterns one behind another. -/
def ofList (patterns : List Pattern) : Pattern :=
  ofParts ((patterns.flatMap parts).foldr pushPart [])

/-! ### Alternatives -/

/-- The alternatives of a pattern. -/
def branches : Pattern → List Pattern
  | .either left right => left.branches ++ right.branches
  | pattern => [pattern]

/-- The set of a pattern that matches one character out of it. -/
def set? : Pattern → Option CharSet
  | .one set => some set
  | _ => none

/-- The set of a pattern that matches one certain character. -/
def char? : Pattern → Option CharSet
  | .text [c] => some (.single c)
  | _ => none

/-- Alternatives as one set, if `toSet?` gives a set for each. -/
def ofSets? (toSet? : Pattern → Option CharSet) (alternatives : List Pattern) : Option Pattern :=
  (alternatives.mapM toSet?).map fun sets ↦ ofSet (sets.foldr .union .none)

/-- Alternatives as they are. -/
def eitherOf : List Pattern → Pattern
  | [] => nowhere
  | [pattern] => pattern
  | pattern :: rest => .either pattern (eitherOf rest)

/-- Whether a pattern keeps what a part of it matches. -/
def keepsText : Pattern → Bool
  | .empty | .text _ | .one _ | .anchor _ => false
  | .seq first second => first.keepsText || second.keepsText
  | .either left right => left.keepsText || right.keepsText
  | .times pattern _ _ => pattern.keepsText
  | .group _ => true

/-- What two lists have in common at their front. What keeps its text is like nothing else. -/
def common : List Pattern → List Pattern → List Pattern
  | first :: firsts, second :: seconds =>
    if first = second ∧ !first.keepsText then first :: common firsts seconds else []
  | _, _ => []

/-- Alternatives of at least two parts each, as what they have in common with what differs behind
it. -/
def ofCommon? (alternatives : List Pattern) : Option Pattern :=
  match alternatives.map parts with
  | [] => none
  | first :: others =>
    let front := others.foldl common first
    if front.isEmpty ∨ (first :: others).any (·.length < 2) then none
    else
      let behind := (first :: others).map fun parts ↦ ofParts (parts.drop front.length)
      some (ofList (front ++ [alternative (behind.flatMap branches)]))
where
  alternative (patterns : List Pattern) : Pattern :=
    ((ofSets? char? patterns) <|> (ofSets? set? patterns)).getD (eitherOf patterns)

/-- Patterns one of which has to match. -/
def anyOf (patterns : List Pattern) : Pattern :=
  match patterns.flatMap branches with
  | [] => nowhere
  | [pattern] => pattern
  | alternatives =>
    (ofSets? char? alternatives <|> ofSets? set? alternatives <|>
      ofCommon? alternatives).getD (eitherOf alternatives)

/-! ### Repetitions -/

/-- Whether a pattern matches nothing but places. -/
def takesNothing : Pattern → Bool
  | .empty | .anchor _ => true
  | .text chars => chars.isEmpty
  | .one _ => false
  | .seq first second => first.takesNothing && second.takesNothing
  | .either left right => left.takesNothing && right.takesNothing
  | .times pattern _ _ | .group pattern => pattern.takesNothing

/-- A pattern again and again. One that matches nothing but places says no more the second time. -/
def repeated (pattern : Pattern) (least : Nat) (most : Option Nat) : Pattern :=
  let once := pattern.takesNothing
  let least := if once then min least 1 else least
  let most := if once then some (min (most.getD 1) 1) else most
  if most = some 0 then .empty
  else if least = 1 ∧ most = some 1 then pattern
  else .times pattern least most

end ShaderBuild.Pattern
