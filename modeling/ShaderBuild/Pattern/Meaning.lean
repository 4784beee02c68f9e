import ShaderBuild.Pattern.Compose
import ShaderBuild.Pattern.Fault
import ShaderBuild.Pattern.Flags

/-!
What a term matches under the flags that hold where it stands. Of all scripts only the characters
themselves are known: what asks for their letters, their case or their properties is at fault. With
the flag for all scripts off, sets are about ASCII, and what would take a part of a character alone
is at fault.
-/

set_option autoImplicit false
set_option relaxedAutoImplicit false

namespace ShaderBuild.Pattern

/-! ### Atoms -/

/-- The character of a literal. A byte that is not ASCII is no character by itself. -/
def Literal.meaning (flags : Flags) (literal : Literal) : Except Fault Char :=
  if !flags.anyScript ∧ literal.isByte ∧ 0x80 ≤ literal.char.toNat then
    refuse .noCharacters literal.span
  else .ok literal.char

def Sign.set : Sign → CharSet
  | .digit => .digit
  | .blank => .blank
  | .word => .word

/-- The set of a sign. -/
def Sign.meaning (flags : Flags) (span : Span) (negated : Bool) (sign : Sign) :
    Except Fault CharSet :=
  if flags.anyScript then refuse .noScriptSets span
  else if negated then refuse .noCharacters span
  else .ok sign.set

/-- The name of a property without what does not count in it. -/
def plainName (name : String) : String :=
  let name := name.toList.map Char.toLower
  let name := if ['i', 's'].isPrefixOf name then name.drop 2 else name
  String.ofList (name.filter fun c ↦ c.toNat < 0x80 && c != ' ' && c != '_' && c != '-')

/-- The names of categories that are names of properties as well. -/
def categoryNames : List String := ["cf", "sc", "lc"]

/-- What is at fault with a property. None is known; a category would be a value of one. -/
def propertyMistake (flags : Flags) (name : String) : Mistake :=
  let hasValue := name.toList.any fun c ↦ c == ':' || c == '='
  if !flags.anyScript then .beyondAscii
  else if !hasValue ∧ plainName name ∈ categoryNames then .propertyValueUnknown
  else .propertyUnknown

/-- A character in any case that counts. -/
def Flags.charPattern (flags : Flags) (span : Span) (c : Char) : Except Fault Pattern :=
  if !flags.anyCase then .ok (.text [c])
  else if flags.anyScript then refuse .noScriptCase span
  else .ok (.ofSet (CharSet.single c).anyCase)

def Atom.meaning (flags : Flags) : Atom → Except Fault Pattern
  | .literal char => do flags.charPattern char.span (← char.meaning flags)
  | .dot span => if flags.anyScript then .ok (.ofSet flags.dot) else refuse .noCharacters span
  | .sign span letter negated => return .ofSet (← letter.meaning flags span negated)
  | .property span name => refuse (propertyMistake flags name) span
  | .anchor _ place => .ok (.anchor (flags.place place))

/-! ### Sets -/

def SetOperator.apply : SetOperator → CharSet → CharSet → CharSet
  | .inter => .inter
  | .diff => .diff
  | .symmDiff => .symmDiff

namespace SetTerm

/-- Whether a set names characters outside further brackets. -/
def isOwn : SetTerm → Bool
  | .empty _ | .brackets .. | .operation .. | .union .. => false
  | _ => true

/-- A set in any case that counts. One that names no characters of its own is the same in all. -/
def folded (flags : Flags) (span : Span) (term : SetTerm) (set : CharSet) :
    Except Fault CharSet :=
  let isOwn := match term with
    | .union _ members => members.any isOwn
    | term => term.isOwn
  if !flags.anyCase then .ok set
  else if !flags.anyScript then .ok set.anyCase
  else if isOwn then refuse .noScriptCase span
  else .ok set

/-- A set or all that is not in it. -/
def signed (flags : Flags) (span : Span) (negated : Bool) (set : CharSet) : Except Fault CharSet :=
  if !negated then .ok set
  else if flags.anyScript then .ok set.compl
  else refuse .noCharacters span

/-- A character of a set. -/
def char (flags : Flags) (literal : Literal) : Except Fault Char := do
  let c ← literal.meaning flags
  if !flags.anyScript ∧ 0x80 ≤ c.toNat then refuse .beyondAscii literal.span else return c

mutual

def meaning (flags : Flags) : SetTerm → Except Fault CharSet
  | .empty _ => .ok .none
  | .literal c => return .single (← char flags c)
  | .range first last => do
    let first ← char flags first
    let last ← char flags last
    return .range first last
  | .named span set negated => do
    let set ← folded flags span (.named span set negated) set
    signed flags span negated set
  | .sign span letter negated => letter.meaning flags span negated
  | .property span name => refuse (propertyMistake flags name) span
  | .brackets span negated body => do
    let set ← body.meaning flags
    let set ← folded flags span body set
    signed flags span negated set
  | .union _ members => meaningOfAll flags members
  | .operation operator left right => do
    let leftSet ← left.meaning flags
    let rightSet ← right.meaning flags
    let rightSet ← folded flags right.span right rightSet
    let leftSet ← folded flags left.span left leftSet
    return operator.apply leftSet rightSet

/-- The union of sets. -/
def meaningOfAll (flags : Flags) : List SetTerm → Except Fault CharSet
  | [] => .ok .none
  | member :: members => do
    let set ← member.meaning flags
    let others ← meaningOfAll flags members
    return set.union others

end

end SetTerm

/-! ### Terms -/

namespace Term

mutual

/-- What a term matches, and the flags that hold behind it. -/
def meaning (flags : Flags) : Term → Except Fault (Pattern × Flags)
  | .empty _ => .ok (.empty, flags)
  | .setting _ switches => .ok (.empty, flags.switchAll switches)
  | .atom part => return (← part.meaning flags, flags)
  | .set members => return (.ofSet (← members.meaning flags), flags)
  | .times _ term least most => do
    let (pattern, flags) ← term.meaning flags
    return (pattern.repeated least most, flags)
  | .group _ keeps switches term => do
    let (pattern, _) ← term.meaning (flags.switchAll switches)
    return (if keeps then .group pattern else pattern, flags)
  | .sequence _ terms => do
    let (patterns, flags) ← meaningOfAll flags terms
    return (.ofList patterns, flags)
  | .branches _ terms => do
    let (patterns, flags) ← meaningOfAll flags terms
    return (.anyOf patterns, flags)

/-- What terms match, each under the flags that hold behind the one before. -/
def meaningOfAll (flags : Flags) : List Term → Except Fault (List Pattern × Flags)
  | [] => .ok ([], flags)
  | term :: terms => do
    let (pattern, flags) ← term.meaning flags
    let (patterns, flags) ← meaningOfAll flags terms
    return (pattern :: patterns, flags)

end

end Term

end ShaderBuild.Pattern
