import Switchboard.Decimal.Read
import Switchboard.Settings
import Switchboard.Text.Utf8

/-!
# Settings from environment variables

Each number has a variable of its own. A variable that is unset, is not text or does not hold a
whole number below 2^64 leaves the default; an alias file is named by a variable that is text and
not empty.
-/

namespace Switchboard

/-- The value of a variable, as the bytes it has; nothing if the variable is unset. -/
abbrev Environment := String → Option (List UInt8)

namespace Environment

/-- The value of a variable that is set to a text. -/
def text? (environment : Environment) (name : String) : Option String :=
  (environment name).bind Text.decode?

/-- The number that a variable holds, or the default. -/
def natural (environment : Environment) (name : String) (otherwise : Nat) : Nat :=
  ((environment.text? name).bind Decimal.natural?).getD otherwise

/-- The variable with the time between two looks at a promise, in milliseconds. -/
def pollIntervalVariable : String := "DISPATCH_POLL_INTERVAL_MS"

/-- The variable with the time after which the follower looks whether it was told to stop, in
milliseconds. -/
def waitTimeoutVariable : String := "DISPATCH_WAIT_TIMEOUT_MS"

/-- The variable with the largest number of arguments of a command. -/
def maxArgumentsVariable : String := "DISPATCH_MAX_ARGS"

/-- The variable with the number of levels to which aliases may run aliases. -/
def maxAliasDepthVariable : String := "DISPATCH_MAX_ALIAS_DEPTH"

/-- The variable that names the file with aliases. -/
def aliasFileVariable : String := "DISPATCH_ALIAS_FILE"

/-- The names of all variables that hold settings. -/
def names : List String :=
  [pollIntervalVariable, waitTimeoutVariable, maxArgumentsVariable, maxAliasDepthVariable,
    aliasFileVariable]

end Environment

/-- The settings that the variables hold, with defaults for all others. -/
def Settings.ofEnvironment (environment : Environment) : Settings :=
  let standard : Settings := {}
  { pollInterval :=
      environment.natural Environment.pollIntervalVariable standard.pollInterval
    waitTimeout := environment.natural Environment.waitTimeoutVariable standard.waitTimeout
    maxArguments := environment.natural Environment.maxArgumentsVariable standard.maxArguments
    maxAliasDepth := environment.natural Environment.maxAliasDepthVariable standard.maxAliasDepth
    aliasFile :=
      (environment.text? Environment.aliasFileVariable).filter fun path ↦ !path.isEmpty }

end Switchboard
