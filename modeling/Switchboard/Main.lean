import Switchboard.Console.Script

/-!
# The program

`main` runs the console on its arguments, its environment, the alias file that they name, and its
input. What is printed and how a session goes on is said by `Session`; here lines are read and
printed one at a time, and the lulls between them and in the waits are those that have really
passed.
-/

namespace Switchboard.Console

/-- The variables of the environment that hold settings. -/
def readEnvironment : IO Environment := do
  let values ← Environment.names.mapM fun name ↦ do return (name, ← IO.getEnv name)
  return fun name ↦ (values.lookup name).join.map fun value ↦ value.toUTF8.toList

/-- The bytes of a file, or why it cannot be read. -/
def readBytes (path : String) : IO (Except FileFault (List UInt8)) := do
  try
    return .ok (← IO.FS.readBinFile path).toList
  catch
    | .noFileOrDirectory .. => return .error .notFound
    | problem => return .error (.other (toString problem))

/-- The files that settings name. -/
def readFiles (settings : Settings) : IO FileSource := do
  match settings.aliasFile with
  | none => return fun _ ↦ .error .notFound
  | some path =>
    let content ← readBytes path
    return fun _ ↦ content

/-- Read a line of bytes without its line end, given the bytes read before, the last one first. At
the end of the input there is no line. -/
partial def readLine (input : IO.FS.Stream) (read : List UInt8) : IO (Option (List UInt8)) := do
  match (← input.read 1).toList with
  | [] => return if read.isEmpty then none else some read.reverse
  | byte :: _ =>
    if byte = 10 then return some (Text.dropReturn read.reverse) else readLine input (byte :: read)

/-- Print lines at once. -/
def printLines (lines : List Line) : IO Unit := do
  let output ← IO.getStdout
  for line in lines do
    output.putStr line.text
  output.flush

/-- A session and the moment up to which its time has passed. -/
structure Running where
  session : Session
  moment : Nat

namespace Running

/-- What has happened since the moment, and the moment now. -/
def lull (running : Running) : IO (Lull × Nat) := do
  let now ← IO.monoMsNow
  return ({ elapsed := now - running.moment, steps := Session.followerSteps }, now)

/-- Wait for an outstanding command while some of the given number of milliseconds is left. The
session is drained over each lull as it passes; that is to drain it over the course of all of
them. -/
partial def drain (running : Running) (left : Nat) : IO Running := do
  if running.session.board.isBusy then
    IO.sleep 1
    let (lull, moment) ← running.lull
    let (lines, session) := running.session.drain (Lull.within left [lull])
    printLines lines
    let later : Running := { session, moment }
    if lull.elapsed < left then later.drain (left - lull.elapsed) else return later
  else return running

/-- Run commands one after the other, each until it is settled. -/
def runCommands (asynchronous : Bool) : List String → Running → IO Unit
  | [], _ => return
  | command :: rest, running => do
    let (lines, session) := running.session.run asynchronous command
    printLines lines
    runCommands asynchronous rest (← { running with session }.drain Session.patience)

/-- Carry out the lines of the input, and give the exit code. -/
partial def runLines (asynchronous : Bool) (input : IO.FS.Stream) (running : Running) :
    IO UInt32 := do
  match ← readLine input [] with
  | none =>
    let _ ← running.drain Session.patience
    return 0
  | some bytes =>
    let (lull, moment) ← running.lull
    let reply := running.session.takeLine asynchronous lull { elapsed := 0, steps := 0 } bytes
    printLines reply.lines
    let later : Running := { session := reply.session, moment }
    match reply.next with
    | .fail => return 1
    | .leave =>
      let _ ← later.drain Session.patience
      return 0
    | .goOn => later.runLines asynchronous input

end Running

/-- Run a session with the given options, and give the exit code. -/
def runSession (options : Options) (environment : Environment) : IO UInt32 := do
  let files ← readFiles (options.settings environment)
  match options.start { arguments := [], environment, files, input := [] } with
  | .error fault =>
    IO.eprintln fault.message
    return 1
  | .ok session =>
    let running : Running := { session, moment := ← IO.monoMsNow }
    if options.commands.isEmpty then running.runLines options.asynchronous (← IO.getStdin)
    else
      running.runCommands options.asynchronous options.commands
      return 0

end Switchboard.Console

open Switchboard.Console in
/-- Run the console. -/
def main (arguments : List String) : IO UInt32 := do
  let environment ← readEnvironment
  match request arguments environment with
  | .mistake =>
    IO.eprintln "The arguments are not understood; try --help."
    return 2
  | .usage =>
    printLines [.help (usage environment)]
    return 0
  | .session options => runSession options environment
