/-!
# Lines of bytes

`lines` cuts bytes at line feeds. The last line need not have one, a carriage return in front of a
line feed belongs to the line end, and there is no line after the last line feed.
-/

namespace Switchboard.Text

/-- The bytes without a carriage return at their end. -/
def dropReturn (line : List UInt8) : List UInt8 :=
  if line.getLast? = some 13 then line.dropLast else line

/-- Cut bytes into lines, given the bytes of the current line so far, the last one first. -/
def linesFrom : List UInt8 → List UInt8 → List (List UInt8)
  | [], [] => []
  | [], read => [read.reverse]
  | byte :: rest, read =>
    if byte = 10 then dropReturn read.reverse :: linesFrom rest []
    else linesFrom rest (byte :: read)

/-- The lines of the bytes. -/
def lines (bytes : List UInt8) : List (List UInt8) :=
  linesFrom bytes []

end Switchboard.Text
