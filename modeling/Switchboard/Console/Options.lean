import Switchboard.Settings.Environment

/-!
# Options of the console

The console takes the name of a file with aliases, commands to run instead of reading lines, and
whether commands run asynchronously. The file may be named by an environment variable instead of an
option. A value stands after its option, as the next argument or behind an equals sign; an argument
that starts with a dash is an option and no value unless it is the dash alone.
-/

namespace Switchboard.Console

/-- What the arguments ask for. A file whose name is not text is kept apart, because it cannot be
read. -/
structure Options where
  aliasFile : Option String := none
  unreadableFile : Bool := false
  commands : List String := []
  asynchronous : Bool := false
  deriving DecidableEq

/-- What the arguments amount to: a session, the help text, or a mistake. -/
inductive Request where
  | session (options : Options)
  | usage
  | mistake
  deriving DecidableEq

namespace Options

/-- The text behind the name of an option and an equals sign. -/
def valueBehind? (name argument : String) : Option String :=
  let start := (name ++ "=").toList
  if start.isPrefixOf argument.toList then some (String.ofList (argument.toList.drop start.length))
  else none

/-- The argument can be the value of the option before it. -/
def isValue (argument : String) : Bool :=
  argument.toList.head? != some '-' || argument == "-"

/-- Name the file with aliases; it is named once and its name is not empty. -/
def nameFile? (options : Options) (path : String) : Option Options :=
  if options.aliasFile.isSome || path.isEmpty then none
  else some { options with aliasFile := some path }

/-- One more command. -/
def addCommand (options : Options) (command : String) : Options :=
  { options with commands := options.commands ++ [command] }

end Options

/-- Read the arguments from left to right. The first mistake counts, and asking for help ends the
reading. -/
def readArguments : Options → List String → Request
  | options, [] => .session options
  | options, argument :: rest =>
    if argument == "--help" || "-h".toList.isPrefixOf argument.toList then .usage
    else if argument == "--async" then
      if options.asynchronous then .mistake
      else readArguments { options with asynchronous := true } rest
    else if argument == "--alias-file" then
      match rest with
      | [] => .mistake
      | value :: rest =>
        if !Options.isValue value then .mistake
        else
          match options.nameFile? value with
          | none => .mistake
          | some options => readArguments options rest
    else if argument == "--exec" then
      match rest with
      | [] => .mistake
      | value :: rest =>
        if !Options.isValue value then .mistake else readArguments (options.addCommand value) rest
    else
      match Options.valueBehind? "--alias-file" argument,
        Options.valueBehind? "--exec" argument with
      | some value, _ =>
        match options.nameFile? value with
        | none => .mistake
        | some options => readArguments options rest
      | none, some value => readArguments (options.addCommand value) rest
      | none, none => if argument == "--" && rest.isEmpty then .session options else .mistake

/-- Let the environment variable name the file with aliases if no option does. A variable that is
set to nothing is a mistake. -/
def Options.complete (environment : Environment) (options : Options) : Request :=
  if options.aliasFile.isSome then .session options
  else
    match environment Environment.aliasFileVariable with
    | none => .session options
    | some bytes =>
      if bytes.isEmpty then .mistake
      else
        match Text.decode? bytes with
        | some path => .session { options with aliasFile := some path }
        | none => .session { options with unreadableFile := true }

/-- What the arguments and the environment ask for. -/
def request (arguments : List String) (environment : Environment) : Request :=
  match readArguments {} arguments with
  | .session options => options.complete environment
  | other => other

/-- The listing of the options, which shows the file that the environment names. -/
def usage (environment : Environment) : String :=
  let file := (environment.text? Environment.aliasFileVariable).getD ""
  String.intercalate "\n"
    ["Run dispatcher commands interactively",
      "",
      "Usage: dispatch_console [OPTIONS]",
      "",
      "Options:",
      "      --alias-file <ALIAS_FILE>  YAML file of aliases to define at startup [env: " ++
        Environment.aliasFileVariable ++ "=" ++ file ++ "]",
      "      --exec <COMMAND>           Run this command and exit (repeatable)",
      "      --async                    Dispatch through the async watcher " ++
        "instead of synchronously",
      "  -h, --help                     Print help",
      ""]

end Switchboard.Console
