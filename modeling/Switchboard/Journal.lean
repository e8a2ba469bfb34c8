import Switchboard.Outcome
import Switchboard.Template.Compile
import Switchboard.Text.Interval
import Switchboard.Text.Quoted

/-!
# The journal

Operations of the switchboard report what happened as a list of events, the earliest first. An event
has a level of severity and a sentence; both are functions of the event, so that what is reported
can be reasoned about without its wording.
-/

namespace Switchboard

/-- How severe an event is, from the most severe down. -/
inductive Level where
  | error
  | warn
  | info
  | debug
  deriving DecidableEq

namespace Level

/-- The name of the level. -/
def name : Level → String
  | .error => "error"
  | .warn => "warn"
  | .info => "info"
  | .debug => "debug"

/-- The rank of the level; more severe levels have smaller ranks. -/
def rank : Level → Nat
  | .error => 0
  | .warn => 1
  | .info => 2
  | .debug => 3

end Level

/-- What can happen while templates are bound, aliases defined and run, and commands followed. -/
inductive Event where
  | templateMalformed (text : String) (fault : TemplateFault)
  | templateOverwritten (pattern : String)
  | templateBound (raw : String)
  | aliasOverwritten (name : String)
  | aliasDefined (name : String) (size : Nat)
  | aliasesLoaded (count : Nat) (path : String)
  | followerStarted (waitTimeout pollInterval : Nat)
  | ready (aliases : Nat)
  | handlerMissing (command : String)
  | dispatched (command raw : String) (arguments : List String)
  | aliasCommandFailed (name command : String) (fault : CommandFault)
  | aliasCommandPending (name command : String)
  | rejectedStopped (command : String)
  | rejectedBusy (command : String)
  | watching (command : String)
  | completionUnclaimed (outcome : Outcome)
  | shutdownOutstanding
  | followerStopped
  deriving DecidableEq

namespace Event

/-- The severity of the event. -/
def level : Event → Level
  | .templateMalformed .. | .rejectedStopped .. | .rejectedBusy .. => .error
  | .templateOverwritten .. | .aliasOverwritten .. | .aliasCommandFailed ..
  | .aliasCommandPending .. | .completionUnclaimed .. | .shutdownOutstanding => .warn
  | .aliasesLoaded .. | .followerStarted .. | .ready .. | .followerStopped => .info
  | .templateBound .. | .aliasDefined .. | .handlerMissing .. | .dispatched ..
  | .watching .. => .debug

/-- The event in words. -/
def message : Event → String
  | .templateMalformed text fault =>
    String.join ["The template ", text, " is malformed: ", fault.message]
  | .templateOverwritten pattern =>
    String.join ["The template ", pattern, " already exists, overwritten."]
  | .templateBound raw => String.join ["Bound template ", raw]
  | .aliasOverwritten name => String.join ["Alias ", name, " already exists, overwritten."]
  | .aliasDefined name size =>
    String.join ["Defined alias ", name, " (", toString size, " commands)"]
  | .aliasesLoaded count path =>
    String.join ["Loaded ", toString count, " aliases from ", Text.quotedPath path]
  | .followerStarted waitTimeout pollInterval =>
    String.join
      ["Async watcher started (shutdown check ", Text.interval waitTimeout, ", poll interval ",
        Text.interval pollInterval, ")"]
  | .ready aliases =>
    String.join ["Command dispatcher ready (", toString aliases, " aliases defined)"]
  | .handlerMissing command => String.join ["No handler for '", command, "'"]
  | .dispatched command raw arguments =>
    String.join
      ["Dispatching '", command, "' to '", raw, "' with ", toString arguments.length, " args"]
  | .aliasCommandFailed name command fault =>
    String.join ["Alias ", name, " command '", command, "' failed: ", fault.message]
  | .aliasCommandPending name command =>
    String.join
      ["Alias ", name, " command '", command,
        "' returned a pending result, which is not awaited"]
  | .rejectedStopped command =>
    String.join ["Async watcher has stopped, rejected '", command, "'"]
  | .rejectedBusy command =>
    String.join ["There are pending tasks, rejected '", command, "'"]
  | .watching command =>
    String.join ["'", command, "' is pending, watching for completion"]
  | .completionUnclaimed outcome =>
    String.join ["Dropping completion with no waiting callback: ", outcome.message]
  | .shutdownOutstanding => "Shutting down with an outstanding asynchronous command"
  | .followerStopped => "Async watcher stopped"

end Event

/-- The events of at least the given severity. -/
def journalAt (level : Level) (journal : List Event) : List Event :=
  journal.filter fun event ↦ event.level.rank ≤ level.rank

end Switchboard
