/-!
# Spans of time

`interval` writes a span of whole milliseconds with its largest fitting unit: seconds with a
fraction as long as needed from one second on, milliseconds below, and nanoseconds for no time at
all.
-/

namespace Switchboard.Text

/-- The thousandths after a point, without trailing zeros and without the point if there are
none. -/
def thousandths (n : Nat) : String :=
  if n = 0 then ""
  else
    let digits := (Nat.toDigits 10 (1000 + n)).drop 1
    "." ++ String.ofList ((digits.reverse.dropWhile (· == '0')).reverse)

/-- A span of milliseconds. -/
def interval (milliseconds : Nat) : String :=
  if milliseconds = 0 then "0ns"
  else if milliseconds < 1000 then toString milliseconds ++ "ms"
  else toString (milliseconds / 1000) ++ thousandths (milliseconds % 1000) ++ "s"

end Switchboard.Text
