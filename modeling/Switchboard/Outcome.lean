import Switchboard.Fault

/-!
# Outcomes of commands

A command is done, has failed, or is pending: then it names a promise, a handle on the outcome that
is still to come. A promise is either a channel, on which a resolver sends the outcome once, or a
poll, a function of its producer that is asked again and again until it has an answer. What a handle
stands for is kept outside (`Switchboard.Outside`), so outcomes are plain values.
-/

namespace Switchboard

/-- A handle on an outcome that is still to come. -/
inductive Promise where
  | channel (id : Nat)
  | poll (id : Nat)
  deriving DecidableEq

/-- Whether the follower waits for the promise instead of asking it. -/
def Promise.isAwaitable : Promise → Bool
  | .channel _ => true
  | .poll _ => false

/-- The result of a command. -/
inductive Outcome where
  | done (message : String)
  | failed (fault : CommandFault)
  | pending (promise : Promise)
  deriving DecidableEq

/-- The three kinds of outcome. -/
inductive OutcomeKind where
  | done
  | failed
  | pending
  deriving DecidableEq

namespace OutcomeKind

/-- Every kind of outcome. -/
def all : List OutcomeKind :=
  [.done, .failed, .pending]

/-- The word for the kind in what users read. -/
def word : OutcomeKind → String
  | .done => "ok"
  | .failed => "error"
  | .pending => "pending"

/-- The name of the kind in records. -/
def name : OutcomeKind → String
  | .done => "success"
  | .failed => "error"
  | .pending => "pending"

/-- The kind that a record names. -/
def ofName? (name : String) : Option OutcomeKind :=
  all.find? fun kind ↦ kind.name == name

end OutcomeKind

namespace Outcome

/-- The kind of the outcome. -/
def kind : Outcome → OutcomeKind
  | .done _ => .done
  | .failed _ => .failed
  | .pending _ => .pending

/-- The text that the outcome has for its caller; a pending one has none. -/
def message : Outcome → String
  | .done message => message
  | .failed fault => fault.message
  | .pending _ => ""

/-- The outcome of a computation that yields a message or a fault. -/
def ofResult : Except CommandFault String → Outcome
  | .ok message => .done message
  | .error fault => .failed fault

/-- Whether the outcome is still to come. -/
def isPending : Outcome → Bool
  | .pending _ => true
  | _ => false

end Outcome

end Switchboard
