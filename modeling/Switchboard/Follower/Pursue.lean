import Switchboard.Follower

/-!
# Letting the follower go on

Runs of the follower's task by itself. `Follower.run` takes a number of steps, and `Follower.pursue`
as many as it needs until a completion is there or nothing is left to do, but no more than a given
number. Waiting for a completion is pursuing and then receiving.

`Promise.settle` waits for a single promise in the same way: it looks until there is an answer.
-/

namespace Switchboard

variable {σ : Type} [Producer σ]

/-- Let the task take a number of steps. -/
def Follower.run : Nat → Follower → Outside σ → Follower × Outside σ
  | 0, follower, outside => (follower, outside)
  | steps + 1, follower, outside =>
    let (next, after) := follower.advance outside
    next.run steps after

/-- Let the task go on until a completion is there or it has nothing to do. -/
def Follower.pursue : Nat → Follower → Outside σ → Follower × Outside σ
  | 0, follower, outside => (follower, outside)
  | steps + 1, follower, outside =>
    if follower.isIdle || !follower.completions.isEmpty then (follower, outside)
    else
      let (next, after) := follower.advance outside
      next.pursue steps after

/-- Wait for a promise, looking at most the given number of times. Nothing is known if no look finds
an answer. -/
def Promise.settle (promise : Promise) : Nat → Outside σ → Option Outcome × Outside σ
  | 0, outside => (none, outside)
  | looks + 1, outside =>
    match promise.await outside with
    | (.notYet, after) => promise.settle looks after
    | (.ready outcome, after) => (some outcome, after)
    | (.panicked, after) => (some (.failed .promisePanicked), after)

end Switchboard
