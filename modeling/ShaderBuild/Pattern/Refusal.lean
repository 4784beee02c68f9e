import ShaderBuild.Pattern.Fault

/-!
How it is told that there is no pattern for a text. A fault is told with the text, which has marks
below the characters in question.
-/

set_option autoImplicit false
set_option relaxedAutoImplicit false

namespace ShaderBuild.Pattern

/-- The lines of a text without what ends them. What ends the last line can be missing. -/
def lines (text : String) : List String :=
  match (text.splitOn "\n").reverse with
  | [] => []
  | last :: ended =>
    (ended.map closed).reverse ++ if last.isEmpty then [] else [last]
where
  closed (line : String) : String :=
    if line.toList.getLast? = some '\r' then String.ofList line.toList.dropLast else line

/-- Marks below parts of a line, from a column on. -/
def marks (column : Nat) : List Span → List Char
  | [] => []
  | span :: rest =>
    List.replicate (span.start.column - column) ' ' ++ List.replicate span.width '^' ++
      marks (max column span.start.column + span.width) rest

/-- A text set in to a width, to the right. -/
def padded (width : Nat) (text : String) : String :=
  String.ofList (List.replicate (width - text.length) ' ') ++ text

namespace Fault

/-- The lines of a text, each with `label` of its number in front, and the marks below them. -/
def notated (label : Nat → String) (text : String) (fault : Fault) : List String :=
  (lines text).zipIdx.flatMap fun (line, index) ↦
    let number := index + 1
    let here := fault.spans.filter fun span ↦ span.isOneLine && span.start.line == number
    (label number ++ line) ::
      if here.isEmpty then []
      else [padded (label number).length "" ++ String.ofList (marks 1 here)]

/-- The lines that tell of the parts of several lines. -/
def notes (fault : Fault) : List String :=
  (fault.spans.filter fun span ↦ !span.isOneLine).map fun span ↦
    "on line " ++ toString span.start.line ++ " (column " ++ toString span.start.column ++
      ") through line " ++ toString span.stop.line ++ " (column " ++
      toString (span.stop.column - 1) ++ ")"

/-- How a text is shown: by itself if it is one line, else with numbers between two rules. -/
def excerpt (text : String) (fault : Fault) : List String :=
  if text.toList.contains '\n' then
    let width := (toString (text.splitOn "\n").length).length
    let rule := String.ofList (List.replicate 79 '~')
    rule :: notated (fun number ↦ padded width (toString number) ++ ": ") text fault ++
      rule :: fault.notes
  else notated (fun _ ↦ "    ") text fault

/-- The message on a fault in a text. -/
def message (text : String) (fault : Fault) : String :=
  String.intercalate "\n"
    ("regex parse error:" :: fault.excerpt text ++ ["error: " ++ fault.mistake.message])

end Fault

/-- The largest size of the machine of a pattern, in bytes. -/
def maxSize : Nat := 10485760

/-- Why there is no pattern for a text. -/
inductive Refusal where
  | fault (fault : Fault)
  /-- The machine of the pattern would be too large. -/
  | tooLarge
  /-- The pattern asks for the edges of words in any script. -/
  | wordEdge
  deriving DecidableEq, Repr

def Refusal.message (text : String) : Refusal → String
  | .fault told => told.message text
  | .tooLarge => "Compiled regex exceeds size limit of " ++ toString maxSize ++ " bytes."
  | .wordEdge => "error building NFA"

end ShaderBuild.Pattern
