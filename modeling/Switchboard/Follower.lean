import Switchboard.Journal
import Switchboard.Outside
import Switchboard.Settings

/-!
# The follower of pending results

The follower is a task beside the coordinator. Promises are handed over to it in a queue; it takes
them one at a time, follows each from link to link until an outcome that is not pending, and sends
that outcome back as a completion. `Follower.advance` is its next step, `Follower.abort` what it
does when it notices that it was told to stop. The coordinator's operations neither wait nor run the
task: how its steps and the producers' interleave with them is up to whoever runs the machine.

A follower also has a slot that its user claims before it hands a promise over and frees afterwards;
the steps of the task do not look at it.
-/

namespace Switchboard

/-- What the task is doing with the promise it took: it follows a link, or it knows the outcome and
has not sent it yet. -/
inductive Pursuit where
  | following (promise : Promise)
  | settled (outcome : Outcome)
  deriving DecidableEq

/-- The follower: promises handed over and not yet taken, the one that is pursued, completions sent
and not yet received, whether promises are still accepted, whether the task has ended, and whether
the slot is claimed. -/
structure Follower where
  queue : List Promise
  pursuit : Option Pursuit
  completions : List Outcome
  accepting : Bool
  ended : Bool
  busy : Bool
  deriving DecidableEq

namespace Follower

variable {σ : Type}

/-- A follower that was just started. -/
def new : Follower :=
  { queue := [], pursuit := none, completions := [], accepting := true, ended := false,
    busy := false }

/-- What starting a follower reports. -/
def startEvent (settings : Settings) : Event :=
  .followerStarted settings.waitTimeout settings.pollInterval

/-- Whether promises can be handed over: it was not told to stop, its task goes on and the executor
that runs the task is up. -/
def isRunning (follower : Follower) (outside : Outside σ) : Bool :=
  follower.accepting && !follower.ended && outside.executor

/-- Claim the slot; it is free for one claim only. -/
def acquire (follower : Follower) : Bool × Follower :=
  (!follower.busy, { follower with busy := true })

/-- Free the slot. -/
def release (follower : Follower) : Follower :=
  { follower with busy := false }

/-- Hand a promise over to the task. -/
def watch (follower : Follower) (outside : Outside σ) (promise : Promise) :
    Except CommandFault Follower :=
  if follower.isRunning outside then .ok { follower with queue := follower.queue ++ [promise] }
  else .error .followerStopped

/-- Receive the earliest completion that was sent and not yet received. -/
def receive (follower : Follower) : Option Outcome × Follower :=
  match follower.completions with
  | [] => (none, follower)
  | outcome :: rest => (some outcome, { follower with completions := rest })

/-- Tell the task to stop. The first time this is reported. -/
def shutdown (follower : Follower) : List Event × Follower :=
  (if follower.accepting then [.followerStopped] else [], { follower with accepting := false })

/-- What the task knows after a look at a promise: the outcome, or the next link if the outcome is
pending itself. A panic of the producer is an outcome too. -/
def afterLook (promise : Promise) : Answer → Pursuit
  | .notYet => .following promise
  | .ready (.pending next) => .following next
  | .ready outcome => .settled outcome
  | .panicked => .settled (.failed .promisePanicked)

/-- The next step of the task: take a promise from the queue, look at the promise it follows, or
send the outcome it knows. With nothing left to take it ends once it was told to stop, and without
an executor it stands still. -/
def advance [Producer σ] (follower : Follower) (outside : Outside σ) : Follower × Outside σ :=
  if follower.ended || !outside.executor then (follower, outside)
  else
    match follower.pursuit, follower.queue with
    | none, [] => ({ follower with ended := !follower.accepting }, outside)
    | none, promise :: rest =>
      ({ follower with queue := rest, pursuit := some (.following promise) }, outside)
    | some (.following promise), _ =>
      let (answer, after) := promise.await outside
      ({ follower with pursuit := some (afterLook promise answer) }, after)
    | some (.settled outcome), _ =>
      ({ follower with
          pursuit := none, completions := follower.completions ++ [outcome] }, outside)

/-- The task notices that it was told to stop: it gives up the promise it pursues and those in the
queue, and ends. -/
def abort (follower : Follower) : Follower :=
  if follower.accepting then follower
  else { follower with queue := [], pursuit := none, ended := true }

/-- Whether the task has nothing to do before something is handed over. -/
def isIdle (follower : Follower) : Bool :=
  follower.ended || (follower.pursuit.isNone && follower.queue.isEmpty)

end Follower

end Switchboard
