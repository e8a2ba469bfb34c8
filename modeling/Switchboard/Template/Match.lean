import Switchboard.Decimal.Read
import Switchboard.Template.Basic

/-!
# Matching commands against templates

A segment is a sequence of parts, each a class of characters that occurs once, at most once or any
number of times. For a command, the chart of a template has one row per segment: for every position
the number of characters that the segment takes there in the preferred match of itself and all
that follows, or nothing where no such match exists. A part prefers to take as many characters as it
can, so the preferred match of a whole command gives each placeholder from left to right the longest
text it can have. Rows are computed from the end of the command to its start, each from the row
below it, so the work is the number of parts times the length of the command.
-/

namespace Switchboard

/-- How often the characters of a part may occur. -/
inductive Occurrence where
  | once
  | optional
  | many

/-- A class of characters and how often its members occur. -/
structure Part where
  accepts : Char → Bool
  occurs : Occurrence

/-- For each position of a text, its end included, the number of characters taken from there. -/
abbrev Row := List (Option Nat)

namespace Part

/-- One character more than what is taken after it. -/
def takeOne (accepts : Char → Bool) (c : Char) (after : Option Nat) : Option Nat :=
  if accepts c then after.map (· + 1) else none

/-- Exactly one character, then what is taken from the next position. -/
def onceRow (accepts : Char → Bool) (text : List Char) (next : Row) : Row :=
  List.zipWith (takeOne accepts) text next.tail ++ [none]

/-- As many characters as possible, then what is taken from the position after them. -/
def manyRow (accepts : Char → Bool) (text : List Char) (next : Row) : Row :=
  (text.zip next).foldr
    (fun (c, here) row ↦ (takeOne accepts c (row.headD none) <|> here) :: row)
    (next.drop text.length)

/-- What is taken from each position when the part stands in front of what the next row takes. -/
def row (part : Part) (text : List Char) (next : Row) : Row :=
  match part.occurs with
  | .once => onceRow part.accepts text next
  | .optional => List.zipWith (· <|> ·) (onceRow part.accepts text next) next
  | .many => manyRow part.accepts text next

end Part

/-- The parts of an argument: any characters but the line feed, any number of digits, or an
optional sign, any number of digits, a point and at least one digit. -/
def Placeholder.parts : Placeholder → List Part
  | .str => [⟨(· != '\n'), .many⟩]
  | .uint => [⟨Decimal.isDigit, .many⟩]
  | .float =>
    [⟨fun c ↦ c == '-' || c == '+', .optional⟩, ⟨Decimal.isDigit, .many⟩, ⟨(· == '.'), .once⟩,
      ⟨Decimal.isDigit, .once⟩, ⟨Decimal.isDigit, .many⟩]

/-- The parts of a segment; a literal is each of its characters once. -/
def Segment.parts : Segment → List Part
  | .literal text => text.toList.map fun expected ↦ ⟨(· == expected), .once⟩
  | .placeholder kind => kind.parts

/-- What the segment takes from each position, given the row of what follows it. -/
def Segment.row (segment : Segment) (text : List Char) (next : Row) : Row :=
  segment.parts.foldr (fun part row ↦ part.row text row) (next.map (Option.map fun _ ↦ 0))

namespace Template

/-- The row of the end of the text: nothing is taken there, and only there. -/
def endRow (text : List Char) : Row :=
  List.replicate text.length none ++ [some 0]

/-- The rows of the segments from the first one on, and last the row of the end. -/
def chart (segments : List Segment) (text : List Char) : List Row :=
  segments.foldr (fun segment rows ↦ segment.row text (rows.headD []) :: rows) [endRow text]

/-- The preferred match starts at the first position of the first row. -/
def start (rows : List Row) : Option Nat :=
  (rows.headD []).headD none

/-- The text from a position on, cut as the rows say, each row giving the length of one piece. -/
def pieces : List Row → Nat → List Char → List (List Char)
  | [], _, _ => []
  | row :: rows, position, text =>
    let length := (row.getD position none).getD 0
    text.take length :: pieces rows (position + length) (text.drop length)

/-- Whether the template matches the whole command. -/
def isMatch (template : Template) (command : String) : Bool :=
  (start (chart template.segments command.toList)).isSome

/-- The texts in the slots of the preferred match of the whole command. -/
def slots? (template : Template) (command : String) : Option (List String) :=
  let rows := chart template.segments command.toList
  if (start rows).isSome then
    some <| (template.segments.zip (pieces rows 0 command.toList)).filterMap fun (segment, piece) ↦
      segment.placeholder?.map fun _ ↦ String.ofList piece
  else none

/-- The arguments of a command that the template matches, at most as many as the limit. -/
def captures (template : Template) (command : String) (limit : Nat) : Option (List String) :=
  (template.slots? command).map (List.take limit)

end Template

end Switchboard
