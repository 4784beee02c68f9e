/-!
Sets of characters, as patterns are made of them. A set is kept as the places in the order of all
characters where it begins and where it ends, in turn, so two lists say the same only if they are
the same. The names and the case of letters are those of ASCII.
-/

set_option autoImplicit false
set_option relaxedAutoImplicit false

namespace ShaderBuild

/-- The places where a set begins or ends, in ascending order. A set that has the last character
does not end. A place is told by the number of characters in front of it. -/
structure CharSet where
  edges : List Nat
  deriving DecidableEq, Repr

namespace CharSet

/-- The number of characters in front of one, where surrogates are no characters. -/
def rank (c : Char) : Nat := if c.toNat < 0xD800 then c.toNat else c.toNat - 0x800

/-- The character of a rank. -/
def ofRank (rank : Nat) : Char := Char.ofNat (if rank < 0xD800 then rank else rank + 0x800)

/-- The number of all characters. -/
def count : Nat := 0x10F800

/-- A character is in a set if the last place up to it is one where the set begins. -/
def hasRank (set : CharSet) (rank : Nat) : Bool :=
  (set.edges.takeWhile (· ≤ rank)).length % 2 == 1

def contains (set : CharSet) (c : Char) : Bool := set.hasRank (rank c)

def none : CharSet := ⟨[]⟩

def all : CharSet := ⟨[0]⟩

def range (first last : Char) : CharSet :=
  ⟨if rank last + 1 < count then [rank first, rank last + 1] else [rank first]⟩

def single (c : Char) : CharSet := range c c

def compl : CharSet → CharSet
  | ⟨0 :: edges⟩ => ⟨edges⟩
  | ⟨edges⟩ => ⟨0 :: edges⟩

/-- The places where the answer of a rule, on what is in the one set and in the other, changes. Told
are the places of each that are left, and whether what stands in front of them is in the sets. -/
def sweep (rule : Bool → Bool → Bool) (inLeft inRight : Bool) : List Nat → List Nat → List Nat
  | [], [] => []
  | l :: left, [] => turn l (!inLeft) inRight (sweep rule (!inLeft) inRight left [])
  | [], r :: right => turn r inLeft (!inRight) (sweep rule inLeft (!inRight) [] right)
  | l :: left, r :: right =>
    if l < r then turn l (!inLeft) inRight (sweep rule (!inLeft) inRight left (r :: right))
    else if r < l then turn r inLeft (!inRight) (sweep rule inLeft (!inRight) (l :: left) right)
    else turn l (!inLeft) (!inRight) (sweep rule (!inLeft) (!inRight) left right)
termination_by left right => left.length + right.length
where
  turn (edge : Nat) (nowLeft nowRight : Bool) (edges : List Nat) : List Nat :=
    if rule nowLeft nowRight = rule inLeft inRight then edges else edge :: edges

/-- Puts two sets together by a rule under which what is in neither is not in the result. -/
def combine (rule : Bool → Bool → Bool) (left right : CharSet) : CharSet :=
  ⟨sweep rule false false left.edges right.edges⟩

def union : CharSet → CharSet → CharSet := combine (· || ·)

def inter : CharSet → CharSet → CharSet := combine (· && ·)

def diff : CharSet → CharSet → CharSet := combine fun inLeft inRight ↦ inLeft && !inRight

/-- What is in one of the two but not in both. -/
def symmDiff : CharSet → CharSet → CharSet := combine (· != ·)

def isEmpty (set : CharSet) : Bool := set.edges.isEmpty

/-- The runs of neighbours in a set, each by its first and its last rank. -/
def runs (set : CharSet) : List (Nat × Nat) :=
  go set.edges
where
  go : List Nat → List (Nat × Nat)
    | [] => []
    | [first] => [(first, count - 1)]
    | first :: stop :: edges => (first, stop - 1) :: go edges

/-- The character of a set that has just one. -/
def only? (set : CharSet) : Option Char :=
  match set.runs with
  | [(first, last)] => if first = last then some (ofRank first) else Option.none
  | _ => Option.none

def ofRanges (ranges : List (Char × Char)) : CharSet :=
  ranges.foldr (fun (first, last) set ↦ (range first last).union set) none

def digit : CharSet := range '0' '9'

def lower : CharSet := range 'a' 'z'

def upper : CharSet := range 'A' 'Z'

def ascii : CharSet := range '\x00' '\x7f'

/-- The characters of words: letters, digits and the low line. -/
def word : CharSet := ofRanges [('0', '9'), ('A', 'Z'), ('_', '_'), ('a', 'z')]

def blank : CharSet := ofRanges [('\t', '\r'), (' ', ' ')]

/-- The sets that have a name. -/
def named : List (String × CharSet) :=
  [("alnum", ofRanges [('0', '9'), ('A', 'Z'), ('a', 'z')]),
    ("alpha", ofRanges [('A', 'Z'), ('a', 'z')]),
    ("ascii", ascii),
    ("blank", ofRanges [('\t', '\t'), (' ', ' ')]),
    ("cntrl", ofRanges [('\x00', '\x1f'), ('\x7f', '\x7f')]),
    ("digit", digit),
    ("graph", range '!' '~'),
    ("lower", lower),
    ("print", range ' ' '~'),
    ("punct", ofRanges [('!', '/'), (':', '@'), ('[', '\x60'), ('\x7b', '~')]),
    ("space", blank),
    ("upper", upper),
    ("word", word),
    ("xdigit", ofRanges [('0', '9'), ('A', 'F'), ('a', 'f')])]

def isAscii (set : CharSet) : Bool := (set.diff ascii).isEmpty

/-- What is in a set when the case of letters does not count. -/
def anyCase (set : CharSet) : CharSet :=
  (set.union ⟨(set.inter upper).edges.map (· + 32)⟩).union ⟨(set.inter lower).edges.map (· - 32)⟩

end CharSet

end ShaderBuild
