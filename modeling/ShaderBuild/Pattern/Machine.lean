import ShaderBuild.Pattern.Compose
import ShaderBuild.Text.ByteRange

/-!
The machines of a pattern. A text is searched byte by byte by a machine whose states stand for what
is still to match, one machine forward and one backward. Here their sizes in bytes are counted, by
which patterns are refused. Every state takes up the same; those with several ways on take up
something for each.
-/

set_option autoImplicit false
set_option relaxedAutoImplicit false

namespace ShaderBuild.Pattern

open Text (ByteRange byteSequences)

inductive Direction where
  | forward
  | backward
  deriving DecidableEq, Repr

/-- The size of a state. -/
def stateSize : Nat := 32

/-- The size of a way on for bytes out of a range. -/
def rangeSize : Nat := 8

/-- The size of a way on without a byte. -/
def linkSize : Nat := 4

/-- The size of a state with ways on without a byte. -/
def forkSize (links : Nat) : Nat := stateSize + linkSize * links

def total (sizes : List Nat) : Nat := sizes.foldr (· + ·) 0

/-! ### Sets -/

/-- The byte ranges of the characters of a set. -/
def setSequences (set : CharSet) : List (List ByteRange) :=
  set.runs.flatMap fun (first, last) ↦
    if last < 0xD800 then byteSequences first last
    else if 0xD800 ≤ first then byteSequences (first + 0x800) (last + 0x800)
    else byteSequences first 0xD7FF ++ byteSequences 0xE000 (last + 0x800)

/-- Sequences in a row that begin alike. -/
def alike (sequences : List (List ByteRange)) : List (List (List ByteRange)) :=
  sequences.splitBy fun first second ↦ first.head? == second.head?

/-- What can still follow, at all states that read sequences of up to a length. -/
def followers : Nat → List (List ByteRange) → List (List (List ByteRange))
  | 0, _ => []
  | length + 1, sequences =>
    if sequences.all List.isEmpty then []
    else sequences :: (alike sequences).flatMap fun same ↦ followers length (same.map (·.drop 1))

/-- The number of ranges behind what a sequence has in common with another at the front. -/
def differing : List ByteRange → List ByteRange → Nat
  | first :: firsts, second :: seconds =>
    if first = second then differing firsts seconds else (second :: seconds).length
  | _, others => others.length

/-- The size of what matches one character out of a set. States with the same ahead of them are one,
and backward those with the same behind them. -/
def setSize (direction : Direction) (set : CharSet) : Nat :=
  if set.isAscii then 2 * stateSize + rangeSize * set.runs.length
  else
    let sequences := setSequences set
    match direction with
    | .forward =>
      stateSize + total ((followers 4 sequences).eraseDups.map fun ahead ↦
        stateSize + rangeSize * (alike ahead).length)
    | .backward =>
      forkSize sequences.length + stateSize +
        stateSize * total (([] :: sequences).zipWith differing sequences)

/-! ### Texts as alternatives -/

/-- The bytes of characters in the order of a direction. -/
def directed (direction : Direction) (chars : List Char) : Bytes :=
  let bytes := Text.encode (String.ofList chars)
  match direction with
  | .forward => bytes
  | .backward => bytes.reverse

/-- Words in groups, between those that are empty. Of empty words at the front one counts. -/
def wordGroups (words : List Bytes) : List (List Bytes) :=
  let words := if words.head? = some [] then [] :: words.dropWhile List.isEmpty else words
  words.foldr
    (fun word groups ↦
      match word, groups with
      | [], groups => [] :: groups
      | word, words :: others => (word :: words) :: others
      | word, [] => [[word]])
    [[]]

/-- The size of what matches one of some words, of up to a length, without the state at the end. -/
def wordsSize : Nat → List Bytes → Nat
  | 0, _ => 0
  | length + 1, words =>
    let groups := wordGroups words
    let full := groups.filter fun group ↦ !group.isEmpty
    let inner := full.map fun group ↦
      let firsts := (group.filterMap List.head?).eraseDups
      let further := firsts.map fun first ↦
        let others := (group.filter (·.head? == some first)).map (·.drop 1)
        if others.all List.isEmpty then 0 else wordsSize length others
      stateSize + (if firsts.length = 1 then 0 else rangeSize * firsts.length) + total further
    forkSize (full.length + (groups.length - 1)) + total inner

/-- The characters of a pattern that is a text. -/
def chars? : Pattern → Option (List Char)
  | .text chars => some chars
  | _ => none

/-! ### Patterns -/

/-- The fewest characters that a pattern takes, if it matches at all. -/
def leastLength? : Pattern → Option Nat
  | .empty | .anchor _ => some 0
  | .text chars => some chars.length
  | .one set => if set.isEmpty then none else some 1
  | .seq first second => do return (← first.leastLength?) + (← second.leastLength?)
  | .either left right => do return min (← left.leastLength?) (← right.leastLength?)
  | .times pattern least _ => do return least * (← pattern.leastLength?)
  | .group pattern => pattern.leastLength?

/-- The size of a repetition of what has a size. -/
def timesSize (size : Nat) (takes : Bool) (least : Nat) (most : Option Nat) : Nat :=
  match least, most with
  | 0, some 1 => forkSize 2 + size + stateSize
  | 0, none => if takes then forkSize 2 + size else 2 * forkSize 2 + size + stateSize
  | least, none => least * size + forkSize 2
  | least, some most =>
    if least = most then least * size
    else
      (if least = 0 then stateSize else least * size) + stateSize +
        (most - least) * (forkSize 2 + size)

/-- The size of a pattern, where `within` tells whether it is one alternative out of several. -/
def partSize (direction : Direction) (within : Bool) : Pattern → Nat
  | .empty | .anchor _ => stateSize
  | .text chars => stateSize * (directed direction chars).length
  | .one set => setSize direction set
  | .seq first second => first.partSize direction false + second.partSize direction false
  | .either left right =>
    let sum := left.partSize direction true + right.partSize direction true
    if within then sum
    else
      let alternatives := (Pattern.either left right).branches
      match alternatives.mapM chars? with
      | some texts =>
        let words := texts.map (directed direction)
        wordsSize ((words.map List.length).foldl max 0) words + stateSize
      | none => forkSize alternatives.length + sum + stateSize
  | .times pattern least most =>
    timesSize (pattern.partSize direction false) (pattern.leastLength?.any (0 < ·)) least most
  | .group pattern =>
    pattern.partSize direction false + if direction = .forward then 2 * stateSize else 0

/-- Whether a pattern matches only where the text begins or, backward, where it ends. -/
def isBound (direction : Direction) : Pattern → Bool
  | .anchor place =>
    match direction with
    | .forward => place == .textStart
    | .backward => place == .textEnd
  | .seq first second =>
    match direction with
    | .forward =>
      first.isBound direction || (first.takesNothing && second.isBound direction)
    | .backward =>
      second.isBound direction || (second.takesNothing && first.isBound direction)
  | .either left right => left.isBound direction && right.isBound direction
  | .times pattern least _ => least != 0 && pattern.isBound direction
  | .group pattern => pattern.isBound direction
  | _ => false

/-- The size of the machine of a pattern: what skips the text around it, what matches it, and the
end. Forward it keeps where the match begins and ends. -/
def machineSize (direction : Direction) (pattern : Pattern) : Nat :=
  let skipping := if pattern.isBound direction then stateSize
    else forkSize 2 + 2 * stateSize + rangeSize
  let keeping := if direction = .forward then 2 * stateSize else 0
  skipping + pattern.partSize direction false + keeping + stateSize

end ShaderBuild.Pattern
