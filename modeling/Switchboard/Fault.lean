import Switchboard.Template.Basic

/-!
# Why a command failed

The causes that a failed command can report, to its caller, to the journal and to the callback of an
asynchronous command, and the sentence for each of them.
-/

namespace Switchboard

/-- Why a command failed: its handler says so, no template or no alias fits it, aliases are nested
too deeply, the follower cannot take it, its pending result was lost, or an argument is missing or
malformed. -/
inductive CommandFault where
  | failed (text : String)
  | noHandler (command : String)
  | unknownAlias (name : String)
  | wrongArity (got : Nat)
  | aliasTooDeep (name : String) (limit : Nat)
  | followerBusy
  | promiseDropped
  | promisePanicked
  | followerStopped
  | missingArgument (index : Nat)
  | invalidArgument (index : Nat) (expected : Placeholder) (value : String)
  deriving DecidableEq

/-- The fault in words. -/
def CommandFault.message : CommandFault → String
  | .failed text => text
  | .noHandler command => String.join ["Can not find a handler for URI '", command, "'"]
  | .unknownAlias name => String.join ["Unrecognized alias ", name]
  | .wrongArity got =>
    String.join ["Alias does not support extra parameters (got ", toString got, " arguments)"]
  | .aliasTooDeep name limit =>
    String.join ["Alias ", name, " exceeds the maximum expansion depth of ", toString limit]
  | .followerBusy =>
    "There are pending tasks, only one asynchronous command may run at a time"
  | .promiseDropped => "Pending result was abandoned before it resolved"
  | .promisePanicked => "Pending result panicked while resolving"
  | .followerStopped => "Async watcher has shut down"
  | .missingArgument index => String.join ["Missing argument at index ", toString index]
  | .invalidArgument index expected value =>
    String.join ["Argument ", toString index, " '", value, "' is not a valid ", expected.name]

end Switchboard
