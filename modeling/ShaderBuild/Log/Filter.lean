import ShaderBuild.Log.Record
import ShaderBuild.Pattern.OfString
import ShaderBuild.Text.Plain

/-!
Which records are shown. A filter is a list of directives, each a level for all targets that begin
in a given way; of those that match a target the longest decides. Beyond that a filter can ask for a
pattern in the text of a record.
-/

set_option autoImplicit false
set_option relaxedAutoImplicit false

namespace ShaderBuild.Log

/-- Up to which level the records of some targets are shown, where `none` stands for not at all. The
scope is what the targets begin with; without one the directive is for all. -/
structure Directive where
  scope : Option String
  most : Option Level
  deriving DecidableEq, Repr

namespace Directive

/-- Whether a directive speaks about a target. -/
def covers (directive : Directive) (target : String) : Bool :=
  directive.scope.all (target.startsWith ·)

/-- How much of a target the scope names, in bytes. -/
def extent (directive : Directive) : Nat := directive.scope.elim 0 String.utf8ByteSize

end Directive

/-- What is wrong in the text of a filter. -/
inductive Refusal where
  /-- A part of an item cannot be read. -/
  | item (part : String)
  /-- There is more than one pattern. -/
  | patterns (text : String)
  | pattern (text : String) (refusal : Pattern.Refusal)
  deriving DecidableEq, Repr

def Refusal.message : Refusal → String
  | .item part => "invalid logging spec '" ++ part ++ "'"
  | .patterns text => "invalid logging spec '" ++ text ++ "' (too many '/'s)"
  | .pattern text refusal => "invalid regex filter - " ++ refusal.message text

/-- Directives in the order in which they were given, the pattern that is asked for, and what was
given but cannot be read. -/
structure Filter where
  directives : List Directive := []
  pattern : Option Pattern := none
  refusals : List Refusal := []
  deriving DecidableEq, Repr

namespace Filter

/-- Errors alone are shown where nothing else is asked for. -/
def standard : Filter where
  directives := [⟨none, some .error⟩]

/-- A level by its name in any case; `off` is no level. -/
def level? (name : String) : Option (Option Level) :=
  [("off", none), ("error", some .error), ("warn", some .warn), ("info", some .info),
    ("debug", some .debug), ("trace", some .trace)].lookup name.toLower

/-- The directive of one item: a level for all targets, a scope with a level, or a scope of which
everything is shown. Of another item the part that cannot be read. -/
def directive (item : String) : Except String Directive :=
  match item.splitOn "=" with
  | [word] => .ok ((level? word).elim ⟨some word, some .trace⟩ (⟨none, ·⟩))
  | [scope, word] =>
    if (Text.trim word).isEmpty then .ok ⟨some scope, some .trace⟩
    else
      match level? (Text.trim word) with
      | some most => .ok ⟨some scope, most⟩
      | none => .error (Text.trim word)
  | _ => .error item

/-- Adds a directive. An earlier one of the same scope gives up its place to it. -/
def insert (directives : List Directive) (added : Directive) : List Directive :=
  if directives.any (·.scope == added.scope) then
    directives.map fun directive ↦ if directive.scope = added.scope then added else directive
  else directives ++ [added]

/-- Adds one item. -/
def addItem (filter : Filter) (item : String) : Filter :=
  match directive item with
  | .ok added => { filter with directives := insert filter.directives added }
  | .error part => { filter with refusals := filter.refusals ++ [.item part] }

/-- The filter that items between commas ask for. -/
def ofItems (text : String) : Filter :=
  (((text.splitOn ",").map Text.trim).filter fun item ↦ !item.isEmpty).foldl addItem {}

/-- Adds the pattern that a text stands for. -/
def addPattern (filter : Filter) (text : String) : Filter :=
  match Pattern.ofString text with
  | .ok pattern => { filter with pattern := some pattern }
  | .error refusal => { filter with refusals := filter.refusals ++ [.pattern text refusal] }

/-- The filter that a text asks for: items, and perhaps a slash and a pattern. -/
def ofString (text : String) : Filter :=
  let filter := match text.splitOn "/" with
    | [items] => ofItems items
    | [items, pattern] => (ofItems items).addPattern pattern
    | _ => { refusals := [.patterns text] }
  if filter.directives.isEmpty then { filter with directives := standard.directives } else filter

/-- What is said about the parts that cannot be read. -/
def warnings (filter : Filter) : List String :=
  filter.refusals.map fun refusal ↦ "warning: " ++ refusal.message ++ ", ignoring it"

/-- The directive with the longest matching scope, the last of several. -/
def deciding? (filter : Filter) (target : String) : Option Directive :=
  (filter.directives.filter (·.covers target)).foldl
    (fun best directive ↦
      match best with
      | none => some directive
      | some other => some (if other.extent ≤ directive.extent then directive else other))
    none

def admits (filter : Filter) (record : Record) : Bool :=
  match (filter.deciding? record.target).bind Directive.most with
  | none => false
  | some level =>
    record.level.rank ≤ level.rank && filter.pattern.all (·.occursIn record.text)

end Filter

/-- The name of a level at the width of the longest. -/
def Level.column (level : Level) : String :=
  level.name ++ String.ofList (List.replicate (5 - level.name.length) ' ')

/-- The lines of a record. Further lines of its text are set in. -/
def Record.lines (record : Record) : String :=
  "[" ++ record.level.column ++ " " ++ record.target ++ "] " ++
    String.intercalate "\n    " (record.text.splitOn "\n") ++ "\n"

/-- A record as it is shown, each by itself: a sequence that it leaves open ends with it. -/
def Record.shown (record : Record) : String := Text.plain record.lines

/-- A record on one line, with its level alone. -/
def Record.brief (record : Record) : String := record.level.name ++ " " ++ record.text

end ShaderBuild.Log
