import ShaderBuild.Pattern.Bounds
import ShaderBuild.Pattern.Head
import ShaderBuild.Pattern.Members

/-!
The term of a text. The text is read once from the left. Groups that are open wait in a stack, and a
repetition takes the term before it.
-/

set_option autoImplicit false
set_option relaxedAutoImplicit false

namespace ShaderBuild.Pattern

open Reading

/-- A group that is being read, or the whole: how it begins, the branches that are complete, and the
terms of the branch at hand, latest first. -/
structure Group where
  /-- Where the parenthesis is. -/
  parenthesis : Position := {}
  keeps : Bool := false
  switches : Switches := []
  /-- Whether blanks stand for nothing around the group. -/
  spacedAround : Bool := false
  /-- Where the first branch begins. -/
  first : Position := {}
  branches : List Term := []
  /-- Where the branch at hand begins. -/
  start : Position := {}
  terms : List Term := []

namespace Group

def add (group : Group) (term : Term) : Group := { group with terms := term :: group.terms }

/-- The branch at hand, which ends at a place. -/
def branch (group : Group) (stop : Position) : Term :=
  match group.terms.reverse with
  | [] => .empty ⟨group.start, stop⟩
  | [term] => term
  | terms => .sequence ⟨group.start, stop⟩ terms

/-- Completes the branch at hand in front of a bar. -/
def endBranch (group : Group) (bar : Position) : Group :=
  { group with
    branches := group.branches ++ [group.branch bar], start := bar.after '|', terms := [] }

/-- All that is in a group, which ends at a place. -/
def body (group : Group) (stop : Position) : Term :=
  if group.branches.isEmpty then group.branch stop
  else .branches ⟨group.first, stop⟩ (group.branches ++ [group.branch stop])

/-- A group whose second parenthesis is at a place. -/
def term (group : Group) (stop : Position) : Term :=
  .group ⟨group.parenthesis, stop.after ')'⟩ group.keeps group.switches (group.body stop)

/-- Reads what says how often the last term is repeated. -/
def readTimes (group : Group) (reading : Reading Bounds) : Reading Group := do
  match group.terms with
  | term :: terms =>
    if term.isRepeatable then
      let (least, most) ← reading
      let span ← since term.span.start
      return { group with terms := .times span term least most :: terms }
    else failHere .nothingToRepeat
  | [] => failHere .nothingToRepeat

/-- A group that begins behind what the reading has got to. -/
def begin (parenthesis : Position) (keeps : Bool) (switches : Switches) : Reading Group := do
  let cursor ← get
  set { cursor with spaced := (switches.lookup Flag.spaced).getD cursor.spaced }
  return { parenthesis, keeps, switches, spacedAround := cursor.spaced,
           first := cursor.position, start := cursor.position }

end Group

/-- Reads the rest of a group, within others. Each round takes a character, so `fuel` bounds
them. -/
def readGroup : Nat → Names → List Group → Group → Reading Term
  | 0, _, _, level => return level.body (← position)
  | fuel + 1, names, outer, level => do
    skipBlanks
    let here ← position
    match ← next? with
    | none =>
      if outer.isEmpty then return level.body here
      else fail .groupUnclosed (.char level.parenthesis '(')
    | some '(' =>
      match ← readHead names with
      | .setting switches =>
        modify fun cursor ↦
          { cursor with spaced := (switches.lookup Flag.spaced).getD cursor.spaced }
        let term := .setting (← since here) switches
        readGroup fuel names outer (level.add term)
      | .kept name =>
        readGroup fuel (name.toList ++ names) (level :: outer) (← Group.begin here true [])
      | .plain switches =>
        readGroup fuel names (level :: outer) (← Group.begin here false switches)
    | some ')' =>
      match outer with
      | [] => failNext .groupUnopened
      | parent :: outer =>
        skip
        modify fun cursor ↦ { cursor with spaced := level.spacedAround }
        readGroup fuel names outer (parent.add (level.term here))
    | some '|' =>
      skip
      readGroup fuel names outer (level.endBranch here)
    | some '[' =>
      let set ← readOpening
      let set ← readSet (fuel + 1) [] set
      readGroup fuel names outer (level.add (.set set))
    | some '\x7b' => readGroup fuel names outer (← level.readTimes readBounds)
    | some '\\' => readGroup fuel names outer (level.add (.atom (← readEscape)))
    | some c =>
      match quantifiers.lookup c with
      | some bounds => readGroup fuel names outer (← level.readTimes (readQuantifier bounds))
      | none =>
        skip
        let span ← since here
        let atom : Atom := match c with
          | '.' => .dot span
          | '^' => .anchor span .start
          | '$' => .anchor span .stop
          | c => .literal ⟨span, c, false⟩
        readGroup fuel names outer (level.add (.atom atom))

namespace Term

/-- The term that a text stands for. -/
def ofString (text : String) : Except Fault Term :=
  (readGroup (text.length + 1) [] [] {}).run' { left := text.toList }

end Term

end ShaderBuild.Pattern
