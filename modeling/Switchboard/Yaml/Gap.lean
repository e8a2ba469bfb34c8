import Switchboard.Yaml.Cursor

/-!
# Blanks between the words of a scalar

Plain and quoted scalars may run over several lines. Between two words of one line the blanks are
kept; a single line break between words is one space, and of several line breaks the first is
dropped and the others are kept. `Gap` collects the blanks since the last word, and `Gap.text` is
what they amount to.
-/

namespace Switchboard.Yaml

/-- The blanks since the last word of a scalar: those before the first line break, the first line
break, the line breaks after it, each the last one first, and whether there was a line break. -/
structure Gap where
  spaces : List Char := []
  first : List Char := []
  others : List Char := []
  broken : Bool := false

namespace Gap

/-- No blanks. -/
def none : Gap := {}

/-- A gap that starts with an escaped line break, which stands for nothing. -/
def escapedBreak : Gap :=
  { broken := true }

/-- One more space or tab. Those after a line break are indentation. -/
def addSpace (gap : Gap) (c : Char) : Gap :=
  if gap.broken then gap else { gap with spaces := c :: gap.spaces }

/-- One more line break, given the text it stands for. The blanks before it are dropped. -/
def addBreak (gap : Gap) (text : List Char) : Gap :=
  if gap.broken then { gap with others := text.reverse ++ gap.others }
  else { gap with spaces := [], first := text, broken := true }

/-- What the blanks amount to between two words, the last character first. -/
def reversed (gap : Gap) : List Char :=
  if !gap.broken then gap.spaces
  else if gap.first == ['\n'] then if gap.others.isEmpty then [' '] else gap.others
  else gap.others ++ gap.first.reverse

end Gap

end Switchboard.Yaml
