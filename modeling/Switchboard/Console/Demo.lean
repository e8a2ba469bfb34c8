import Switchboard.Board.Start
import Switchboard.Console.Clock
import Switchboard.Decimal.Shortest

/-!
# Commands of the console

Three commands to try a switchboard with: one gives its argument back, one adds two decimal numbers,
and one stays pending until a timer has run.
-/

namespace Switchboard.Console

/-- Give the argument back. -/
def echo (arguments : Arguments) (outside : Outside Clock) : Outcome × Outside Clock :=
  (.ofResult (arguments.text 0), outside)

/-- The sum of two numbers as text. -/
def sum (arguments : Arguments) : Except CommandFault String :=
  (arguments.float 0).bind fun first ↦
    (arguments.float 1).map fun second ↦ Decimal.text (first + second)

/-- Add two decimal numbers. -/
def add (arguments : Arguments) (outside : Outside Clock) : Outcome × Outside Clock :=
  (.ofResult (sum arguments), outside)

/-- Stay pending for a number of milliseconds. -/
def sleep (arguments : Arguments) (outside : Outside Clock) : Outcome × Outside Clock :=
  match arguments.natural 0 with
  | .ok span => Clock.sleep span outside
  | .error fault => (.failed fault, outside)

/-- A command of the console: its template, its handler and its description. -/
structure DemoCommand where
  template : String
  run : Arguments → Outside Clock → Outcome × Outside Clock
  description : String

/-- The commands of the console, in the order in which they are bound. -/
def demoCommands : List DemoCommand :=
  [{ template := "vget /console/echo [str]", run := echo
     description := "Echo the argument back" },
    { template := "vget /console/add [float] [float]", run := add
      description := "Add two decimal numbers" },
    { template := "vget /console/sleep [uint]", run := sleep
      description := "Resolve after the given number of milliseconds" }]

/-- The board with the commands of the console bound to it. None of their templates is rejected. -/
def withDemoCommands {κ : Type} (board : Board Clock κ) : Board Clock κ :=
  demoCommands.foldl
    (fun board command ↦
      (board.bind .sized command.template (.external command.run) command.description).board)
    board

end Switchboard.Console
