import ShaderBuild.Pattern.Place

/-!
Regular patterns and where they occur. A pattern is followed through a text character by character:
`rest` gives the patterns one of which has to match what stands behind the next character. As parts
of a pattern can ask for a place, such as the start of a line, both the character before and the one
behind are known at each step.
-/

set_option autoImplicit false
set_option relaxedAutoImplicit false

namespace ShaderBuild

inductive Pattern where
  | empty
  /-- Some characters one by one. -/
  | text (chars : List Char)
  /-- One character out of a set. -/
  | one (set : CharSet)
  /-- Nothing, at a place. -/
  | anchor (place : Place)
  | seq (first second : Pattern)
  | either (left right : Pattern)
  /-- A pattern again and again, with bounds on how often. -/
  | times (pattern : Pattern) (least : Nat) (most : Option Nat)
  /-- A pattern of which is kept what it matches. -/
  | group (pattern : Pattern)
  deriving DecidableEq, Repr

namespace Pattern

/-- Whether a pattern matches nothing at all between two characters. -/
def matchesEmpty (before following : Option Char) : Pattern → Bool
  | .empty => true
  | .text chars => chars.isEmpty
  | .one _ => false
  | .anchor place => place.holds before following
  | .seq first second =>
    first.matchesEmpty before following && second.matchesEmpty before following
  | .either left right =>
    left.matchesEmpty before following || right.matchesEmpty before following
  | .times pattern least _ => least == 0 || pattern.matchesEmpty before following
  | .group pattern => pattern.matchesEmpty before following

/-- One pattern behind another. -/
def andThen : Pattern → Pattern → Pattern
  | .empty, second => second
  | first, second => .seq first second

/-- Some characters one by one, if there are any. -/
def ofChars (chars : List Char) : Pattern := if chars.isEmpty then .empty else .text chars

/-- What has to match behind the character `c`, one of these, if a pattern begins with it. Rounds of
a repetition that match nothing count, so if there can be one the lower bound is met. -/
def rest (before : Option Char) (c : Char) : Pattern → List Pattern
  | .empty => []
  | .text [] => []
  | .text (first :: others) => if first = c then [ofChars others] else []
  | .one set => if set.contains c then [.empty] else []
  | .anchor _ => []
  | .seq first second =>
    (first.rest before c).map (·.andThen second) ++
      if first.matchesEmpty before (some c) then second.rest before c else []
  | .either left right => left.rest before c ++ right.rest before c
  | .times pattern least most =>
    if most = some 0 then []
    else
      let least := if pattern.matchesEmpty before (some c) then 0 else least - 1
      (pattern.rest before c).map (·.andThen (.times pattern least (most.map (· - 1))))
  | .group pattern => pattern.rest before c

/-- Whether a pattern matches somewhere in what is left of a text, or one of those that are begun
matches from here on. -/
def occursFrom (pattern : Pattern) (begun : List Pattern) (before : Option Char) :
    List Char → Bool
  | [] => (pattern :: begun).any (·.matchesEmpty before none)
  | c :: following =>
    (pattern :: begun).any (·.matchesEmpty before (some c)) ||
      occursFrom pattern ((pattern :: begun).flatMap (·.rest before c)).eraseDups (some c) following

/-- Whether a pattern matches somewhere in a text. -/
def occursIn (pattern : Pattern) (text : String) : Bool :=
  occursFrom pattern [] none text.toList

end Pattern

end ShaderBuild
