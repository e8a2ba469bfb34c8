import Switchboard.Console.Demo
import Switchboard.Follower.Pursue
import Switchboard.Help
import Switchboard.Text.Blank
import Switchboard.Text.Utf8

/-!
# Sessions of the console

A session is a board with its world. Each step gives the lines that it prints: the status of a
command, that a command is pending or was refused, or the help text. Between steps time passes and
the follower goes on, as a `Lull` says, so what a session prints is a function of its input and of
the course of time.
-/

namespace Switchboard.Console

/-- What the console prints at once. -/
inductive Line where
  | status (command : String) (outcome : Outcome)
  | pending (command : String)
  | rejected (command : String) (fault : CommandFault)
  | help (text : String)
  deriving DecidableEq

/-- The printed text. -/
def Line.text : Line → String
  | .status command outcome =>
    command ++ " [" ++ outcome.kind.word ++ "] " ++ outcome.message ++ "\n"
  | .pending command => command ++ " ... pending\n"
  | .rejected command .followerBusy => command ++ " rejected: a command is still pending\n"
  | .rejected command fault => command ++ " rejected: " ++ fault.message ++ "\n"
  | .help text => text

/-- A board whose callbacks are the commands that they belong to, with its world. -/
structure Session where
  board : Board Clock String
  outside : Outside Clock

/-- What happens between two steps: some milliseconds pass, then the follower takes some steps. -/
structure Lull where
  elapsed : Nat
  steps : Nat
  deriving DecidableEq

/-- The part of a course of lulls that falls into a number of milliseconds; the lull that lasts
longer is cut off. -/
def Lull.within : Nat → List Lull → List Lull
  | _, [] => []
  | left, lull :: rest =>
    if lull.elapsed < left then lull :: within (left - lull.elapsed) rest
    else [{ lull with elapsed := left }]

namespace Session

/-- A session whose board is set up and has the commands of the console. -/
def start (settings : Settings) (files : FileSource) : Except LoadFault Session :=
  (Board.start settings files).map fun (_, board) ↦
    { board := withDemoCommands board, outside := .new .start }

/-- Let time pass. -/
def idle (session : Session) (lull : Lull) : Session :=
  let (follower, outside) :=
    session.board.follower.run lull.steps (Clock.elapse lull.elapsed session.outside)
  { board := { session.board with follower }, outside }

/-- The session on another board. -/
def onBoard (session : Session) (board : Board Clock String) : Session :=
  { session with board }

/-- The status lines of the callbacks that were given an outcome. -/
def statusLines (delivered : List (String × Outcome)) : List Line :=
  delivered.map fun (command, outcome) ↦ .status command outcome

/-- Print what has arrived. -/
def pump (session : Session) : List Line × Session :=
  let turn := session.board.pump
  (statusLines turn.delivered, session.onBoard turn.board)

/-- Run a command at once and print its status. -/
def runNow (session : Session) (command : String) : List Line × Session :=
  let run := session.board.exec command session.outside
  ([.status command run.outcome], { session with outside := run.outside })

/-- Submit a command and print its status, or that it is pending or refused. -/
def runLater (session : Session) (command : String) : List Line × Session :=
  let (turn, outside) := session.board.submit command command session.outside
  let answer : List Line :=
    match turn.value with
    | .error fault => [.rejected command fault]
    | .ok () => if turn.board.isBusy then [.pending command] else []
  (statusLines turn.delivered ++ answer, { board := turn.board, outside })

/-- Run a command in one of the two ways. -/
def run (session : Session) (asynchronous : Bool) (command : String) : List Line × Session :=
  if asynchronous then session.runLater command else session.runNow command

/-- How many steps the follower takes at most from a promise handed over to its completion. -/
def followerSteps : Nat := 4

/-- Wait for the outstanding command through a course of lulls, looking for its completion after
each, and print its status. The wait is given up when the course is over. -/
def await : List Lull → Session → List Line × Session
  | [], session => ([], session)
  | lull :: rest, session =>
    let arrived := session.idle lull
    let turn := arrived.board.collect
    if turn.value then (statusLines turn.delivered, arrived.onBoard turn.board)
    else arrived.await rest

/-- The longest time to wait for an outstanding command, in milliseconds. -/
def patience : Nat := 30000

/-- Wait for an outstanding command, if there is one. -/
def drain (session : Session) (course : List Lull) : List Line × Session :=
  if session.board.isBusy then session.await (Lull.within patience course) else ([], session)

/-- What a line of the input asks for, its blanks at both ends cut off. -/
inductive Order where
  | nothing
  | leave
  | help
  | command (text : String)
  deriving DecidableEq

/-- The order of a line. -/
def Order.ofLine (line : String) : Order :=
  match Text.trim line with
  | "" => .nothing
  | "quit" | "exit" => .leave
  | "help" => .help
  | text => .command text

/-- How a session goes on after a line: with the next one, with nothing more because it was left, or
not at all because the line is no text. -/
inductive Next where
  | goOn
  | leave
  | fail
  deriving DecidableEq

/-- What a line leads to: what is printed, how the session goes on, and the session after it. -/
structure Reply where
  lines : List Line
  next : Next
  session : Session

/-- Carry out an order and look for completions once more after a lull. -/
def carryOut (session : Session) (asynchronous : Bool) (lull : Lull) : Order → Reply
  | .nothing => { lines := [], next := .goOn, session }
  | .leave => { lines := [], next := .leave, session }
  | .help =>
    let (late, after) := (session.idle lull).pump
    { lines := .help session.board.commands.help :: late, next := .goOn, session := after }
  | .command text =>
    let (answer, ran) := session.run asynchronous text
    let (late, after) := (ran.idle lull).pump
    { lines := answer ++ late, next := .goOn, session := after }

/-- Take a line of the input: look for completions after a lull and carry out the order of the
line. -/
def takeLine (session : Session) (asynchronous : Bool) (before after : Lull) (bytes : List UInt8) :
    Reply :=
  match Text.decode? bytes with
  | none => { lines := [], next := .fail, session }
  | some line =>
    let (early, ready) := (session.idle before).pump
    let reply := ready.carryOut asynchronous after (Order.ofLine line)
    { reply with lines := early ++ reply.lines }

end Session

end Switchboard.Console
