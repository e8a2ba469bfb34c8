/-!
# Command templates

A template is a text with typed slots, such as `vset /object/[uint]/color [float]`. It is kept as
its segments: runs of literal text and placeholders. `Template.raw` is the text it was written as,
`Template.pattern` the regular expression that describes the commands it matches, one group per
placeholder, and `Template.render` the command that given arguments stand for.
-/

namespace Switchboard

/-- The kinds of argument slots: any text without a line feed, a run of digits, or a decimal
number with a point. -/
inductive Placeholder where
  | str
  | uint
  | float
  deriving DecidableEq

namespace Placeholder

/-- Every kind of slot, in the order in which names are looked up. -/
def all : List Placeholder :=
  [.str, .uint, .float]

/-- The name that stands between brackets in a template. -/
def name : Placeholder → String
  | .str => "str"
  | .uint => "uint"
  | .float => "float"

/-- The regular expression group for one argument of the kind. -/
def pattern : Placeholder → String
  | .str => "(.*)"
  | .uint => "([0-9]*)"
  | .float => "([-+]?[0-9]*\\.[0-9]+)"

/-- The kind of slot that a name stands for. -/
def ofName? (name : String) : Option Placeholder :=
  all.find? fun kind ↦ kind.name == name

/-- What is reported when a name stands for no kind of slot. -/
def unknownName (name : String) : String :=
  String.join ["Unknown type specifier: ", name]

end Placeholder

/-- One piece of a template: text that stands for itself, or a slot. -/
inductive Segment where
  | literal (text : String)
  | placeholder (kind : Placeholder)
  deriving DecidableEq

/-- The characters that have a meaning in a regular expression. -/
def metaCharacters : List Char :=
  ['\\', '.', '+', '*', '?', '(', ')', '|', '[', ']', '\x7b', '\x7d', '^', '$', '#', '&', '-', '~']

/-- A character as it stands for itself in a regular expression. -/
def escapeMeta (c : Char) : List Char :=
  if c ∈ metaCharacters then ['\\', c] else [c]

namespace Segment

/-- The segment as it is written in a template. -/
def raw : Segment → String
  | .literal text => text
  | .placeholder kind => "[" ++ kind.name ++ "]"

/-- The regular expression for the segment. -/
def pattern : Segment → String
  | .literal text => String.ofList (text.toList.flatMap escapeMeta)
  | .placeholder kind => kind.pattern

/-- The kind of slot, if the segment is one. -/
def placeholder? : Segment → Option Placeholder
  | .literal _ => none
  | .placeholder kind => some kind

/-- The segments with one argument in each slot. Slots for which no argument is left stay empty. -/
def render : List Segment → List String → String
  | [], _ => ""
  | .literal text :: rest, arguments => text ++ render rest arguments
  | .placeholder _ :: rest, [] => render rest []
  | .placeholder _ :: rest, argument :: arguments => argument ++ render rest arguments

end Segment

/-- A command template, as the list of its segments. -/
structure Template where
  segments : List Segment
  deriving DecidableEq

namespace Template

/-- The text that the template was written as. -/
def raw (template : Template) : String :=
  String.join (template.segments.map Segment.raw)

/-- The regular expression that describes the commands of the template, one group per slot. -/
def pattern (template : Template) : String :=
  String.join (template.segments.map Segment.pattern)

/-- A regular expression, tied to both ends of a command. -/
def anchored (pattern : String) : String :=
  "^(?:" ++ pattern ++ ")$"

/-- The regular expression that a whole command has to match. -/
def anchoredPattern (template : Template) : String :=
  anchored template.pattern

/-- The kinds of the slots from left to right. -/
def placeholders (template : Template) : List Placeholder :=
  template.segments.filterMap Segment.placeholder?

/-- The number of slots. -/
def arity (template : Template) : Nat :=
  template.placeholders.length

/-- The command that has the given arguments in its slots; missing arguments are empty. -/
def render (template : Template) (arguments : List String) : String :=
  Segment.render template.segments arguments

end Template

end Switchboard
