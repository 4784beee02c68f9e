import ShaderBuild.Pattern.Fault
import ShaderBuild.Pattern.Term

/-!
How deep the parts of a term stand within one another. Groups, repetitions, sequences, branches,
brackets, the members between them and operators each count as one level.
-/

set_option autoImplicit false
set_option relaxedAutoImplicit false

namespace ShaderBuild.Pattern

/-- The first of the terms one level down that is too deep, unless the level itself is. -/
def below? (level : Nat) (span : Span) (inner : Unit → Option Span) : Option Span :=
  if level < maxDepth then inner () else some span

mutual

/-- The first part of a set that is too deep, where `level` parts stand around the set. -/
def SetTerm.tooDeep? (level : Nat) : SetTerm → Option Span
  | .brackets span _ body => below? level span fun _ ↦ body.tooDeep? (level + 1)
  | .union span members => below? level span fun _ ↦ SetTerm.anyTooDeep? (level + 1) members
  | .operation operator left right =>
    below? level (SetTerm.operation operator left right).span fun _ ↦
      (left.tooDeep? (level + 1)).or (right.tooDeep? (level + 1))
  | _ => none

def SetTerm.anyTooDeep? (level : Nat) : List SetTerm → Option Span
  | [] => none
  | term :: terms => (term.tooDeep? level).or (SetTerm.anyTooDeep? level terms)

end

mutual

/-- The first part of a term that is too deep, where `level` parts stand around the term. -/
def Term.tooDeep? (level : Nat) : Term → Option Span
  | .set members => members.tooDeep? level
  | .times span term _ _ => below? level span fun _ ↦ term.tooDeep? (level + 1)
  | .group span _ _ term => below? level span fun _ ↦ term.tooDeep? (level + 1)
  | .sequence span terms => below? level span fun _ ↦ Term.anyTooDeep? (level + 1) terms
  | .branches span terms => below? level span fun _ ↦ Term.anyTooDeep? (level + 1) terms
  | _ => none

def Term.anyTooDeep? (level : Nat) : List Term → Option Span
  | [] => none
  | term :: terms => (term.tooDeep? level).or (Term.anyTooDeep? level terms)

end

/-- Refuses a term with a part that is too deep. -/
def Term.checkDepth (term : Term) : Except Fault Unit :=
  match term.tooDeep? 0 with
  | none => .ok ()
  | some span => refuse .tooDeep span

end ShaderBuild.Pattern
