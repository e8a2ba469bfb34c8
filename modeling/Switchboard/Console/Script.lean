import Switchboard.Console.Options
import Switchboard.Console.Session
import Switchboard.Text.Lines

/-!
# Whole runs of the console

`Console.run` is what the console prints and how it ends, given its arguments, environment, files
and input, and given the course of time: the lulls before and after each line and those of the
waits. Commands from options are run one after the other, each until it is settled; otherwise the
input is carried out line by line. A line that is not text ends the run with a failure; what was
printed before it stays.
-/

namespace Switchboard.Console

/-- What the console is started with. -/
structure Invocation where
  arguments : List String
  environment : Environment
  files : FileSource
  input : List UInt8

/-- The course of time: the lull before the numbered point between the lines at which the console
looks for completions, and the lulls of the numbered wait for an outstanding command. -/
structure Pace where
  lull : Nat → Lull
  wait : Nat → List Lull

/-- A course of time in which nothing happens between the lines, and the follower keeps up with
every millisecond of a wait. -/
def Pace.still : Pace where
  lull _ := { elapsed := 0, steps := 0 }
  wait _ :=
    { elapsed := 0, steps := Session.followerSteps } ::
      List.replicate Session.patience { elapsed := 1, steps := Session.followerSteps }

/-- What a run prints, and its exit code. -/
structure Transcript where
  lines : List Line
  exitCode : Nat

namespace Session

/-- Run commands one after the other, each until it is settled. The wait for a command has its
number. -/
def runCommands (asynchronous : Bool) (pace : Pace) : Nat → List String → Session → List Line
  | _, [], _ => []
  | number, command :: rest, session =>
    let (answer, ran) := session.run asynchronous command
    let (late, settled) := ran.drain (pace.wait number)
    answer ++ late ++ runCommands asynchronous pace (number + 1) rest settled

/-- Carry out the lines of an input. The lulls around the line with a number are those of twice that
number and of the number after it; the one wait is at the end. -/
def runLines (asynchronous : Bool) (pace : Pace) : Nat → List (List UInt8) → Session → Transcript
  | _, [], session => { lines := (session.drain (pace.wait 0)).1, exitCode := 0 }
  | number, bytes :: rest, session =>
    let reply :=
      session.takeLine asynchronous (pace.lull (2 * number)) (pace.lull (2 * number + 1)) bytes
    match reply.next with
    | .fail => { lines := reply.lines, exitCode := 1 }
    | .leave => { lines := reply.lines ++ (reply.session.drain (pace.wait 0)).1, exitCode := 0 }
    | .goOn =>
      let later := runLines asynchronous pace (number + 1) rest reply.session
      { later with lines := reply.lines ++ later.lines }

end Session

/-- The settings of a session: those of the environment, with the file of the options. -/
def Options.settings (options : Options) (environment : Environment) : Settings :=
  let settings := Settings.ofEnvironment environment
  { settings with aliasFile := options.aliasFile <|> settings.aliasFile }

/-- The start of a session. A file whose name is not text cannot be read. -/
def Options.start (options : Options) (invocation : Invocation) : Except LoadFault Session :=
  if options.unreadableFile then .error (.unreadable "" .notFound)
  else Session.start (options.settings invocation.environment) invocation.files

/-- A run of the console. -/
def run (pace : Pace) (invocation : Invocation) : Transcript :=
  match request invocation.arguments invocation.environment with
  | .mistake => { lines := [], exitCode := 2 }
  | .usage => { lines := [.help (usage invocation.environment)], exitCode := 0 }
  | .session options =>
    match options.start invocation with
    | .error _ => { lines := [], exitCode := 1 }
    | .ok session =>
      if options.commands.isEmpty then
        session.runLines options.asynchronous pace 0 (Text.lines invocation.input)
      else
        { lines := session.runCommands options.asynchronous pace 0 options.commands, exitCode := 0 }

/-- The text that a run prints. -/
def Transcript.text (transcript : Transcript) : String :=
  String.join (transcript.lines.map Line.text)

end Switchboard.Console
