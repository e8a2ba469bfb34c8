import Switchboard.Commands
import Switchboard.Follower

/-!
# The switchboard

A board joins the commands with a follower and with the callback of the one asynchronous command
that may be outstanding. `Board.submit` runs a command at once; if its outcome is pending, the
promise goes to the follower and the callback is parked until `Board.pump` or `Board.collect`
receives the completion. While a callback is parked further commands are rejected, and after
`Board.shutdown` all are.

Callbacks are values of a type `κ` of the user's choice. An operation does not run them: it lists
which callback has been given which outcome, and which callbacks have been discarded.
-/

namespace Switchboard

/-- The commands, the follower and the callback of the outstanding asynchronous command. -/
structure Board (σ κ : Type) where
  commands : Commands σ
  follower : Follower
  parked : Option κ

/-- What an operation on the board gives: its answer, the board after it, the events on the way, the
callbacks that were given an outcome and those that were discarded, each in order. -/
structure Turn (σ κ α : Type) where
  value : α
  board : Board σ κ
  journal : List Event := []
  delivered : List (κ × Outcome) := []
  discarded : List κ := []

namespace Board

variable {σ κ : Type}

/-- A board with the built-in runner of aliases as its only route. -/
def new (settings : Settings) (aliases : AliasTable) : Board σ κ :=
  { commands := { settings, routes := (Routes.empty.insert Commands.aliasRoute).2.2, aliases }
    follower := .new
    parked := none }

/-- Whether an asynchronous command is outstanding. -/
def isBusy (board : Board σ κ) : Bool :=
  board.parked.isSome

/-- The board with its slot free again. -/
def free (board : Board σ κ) : Board σ κ :=
  { board with follower := board.follower.release }

/-- Refuse a command. The callback is discarded. -/
def reject (board : Board σ κ) (fault : CommandFault) (event : Event) (callback : κ) :
    Turn σ κ (Except CommandFault Unit) :=
  { value := .error fault, board, journal := [event], discarded := [callback] }

/-- What becomes of the callback once the command has run on a board whose slot is claimed: it is
parked if the promise of a pending outcome can be handed over, and given an outcome otherwise. -/
def settle (board : Board σ κ) (command : String) (callback : κ) (run : Run σ) :
    Turn σ κ (Except CommandFault Unit) :=
  match run.outcome with
  | .pending promise =>
    match board.follower.watch run.outside promise with
    | .ok follower =>
      { value := .ok (), board := { board with follower, parked := some callback }
        journal := run.journal ++ [.watching command] }
    | .error fault =>
      { value := .ok (), board := board.free, journal := run.journal
        delivered := [(callback, .failed fault)] }
  | outcome =>
    { value := .ok (), board := board.free, journal := run.journal
      delivered := [(callback, outcome)] }

/-- Run a command and give its final outcome to the callback, at once or later. It is refused, and
nothing is run, when the follower has stopped or an asynchronous command is outstanding. -/
def submit (board : Board σ κ) (command : String) (callback : κ) (outside : Outside σ) :
    Turn σ κ (Except CommandFault Unit) × Outside σ :=
  let (claimed, follower) := board.follower.acquire
  if !board.follower.isRunning outside then
    (board.reject .followerStopped (.rejectedStopped command) callback, outside)
  else if board.parked.isSome || !claimed then
    (board.reject .followerBusy (.rejectedBusy command) callback, outside)
  else
    let run := board.commands.exec command outside
    ({ board with follower }.settle command callback run, run.outside)

/-- Give a completion to the parked callback and free the slot. A completion for which no callback
waits is reported and dropped. The answer is the number of callbacks served. -/
def deliver (board : Board σ κ) (outcome : Outcome) : Turn σ κ Nat :=
  match board.parked with
  | none => { value := 0, board, journal := [.completionUnclaimed outcome] }
  | some callback =>
    { value := 1, board := { board with parked := none }.free, delivered := [(callback, outcome)] }

/-- Deliver several completions one after the other. -/
def deliverAll (board : Board σ κ) : List Outcome → Turn σ κ Nat
  | [] => { value := 0, board }
  | outcome :: rest =>
    let first := board.deliver outcome
    let others := first.board.deliverAll rest
    { value := first.value + others.value
      board := others.board
      journal := first.journal ++ others.journal
      delivered := first.delivered ++ others.delivered
      discarded := first.discarded ++ others.discarded }

/-- Receive and deliver every completion that is there. The answer is the number of callbacks
served. -/
def pump (board : Board σ κ) : Turn σ κ Nat :=
  { board with follower := { board.follower with completions := [] } }.deliverAll
    board.follower.completions

/-- Receive and deliver one completion if a callback is parked and a completion is there. The answer
is whether a callback was served. Waiting for a completion is letting the follower go on and
collecting. -/
def collect (board : Board σ κ) : Turn σ κ Bool :=
  if board.parked.isNone then { value := false, board }
  else
    match board.follower.receive with
    | (none, _) => { value := false, board }
    | (some outcome, follower) =>
      let turn := { board with follower }.deliver outcome
      { turn with value := 0 < turn.value }

/-- Stop the follower. A parked callback is discarded. -/
def shutdown (board : Board σ κ) : Turn σ κ Unit :=
  let (events, follower) := board.follower.release.shutdown
  { value := ()
    board := { board with follower, parked := none }
    journal := (if board.parked.isSome then [.shutdownOutstanding] else []) ++ events
    discarded := board.parked.toList }

end Board

end Switchboard
