import Switchboard.Outcome

/-!
# What lies outside

Handlers, producers of pending results and whoever else works beside the switchboard act on a common
world. `Outside σ` is that world: the channels on which outcomes are sent, whether the executor that
runs the follower is up, and a part of type `σ` that belongs to the collaborators. A channel waits
for its resolver, holds the outcome sent, is abandoned when the resolver goes away without sending,
and is spent once its value, or the news that there is none, has been handed out.

`Promise.check` looks at a promise without waiting, `Promise.await` is one look of the follower,
which consumes the promise.
-/

namespace Switchboard

/-- The state of a channel. -/
inductive Channel where
  | waiting
  | holding (outcome : Outcome)
  | abandoned
  | spent
  deriving DecidableEq

/-- The world that handlers and producers act on. -/
structure Outside (σ : Type) where
  channels : List Channel
  executor : Bool
  own : σ
  deriving DecidableEq

/-- The answer of a poll: not yet, an outcome, or the asked function panics. -/
inductive Answer where
  | notYet
  | ready (outcome : Outcome)
  | panicked
  deriving DecidableEq

/-- The polls of the collaborators: what the function with a given number answers, and what it does
to the world while it is asked. -/
class Producer (σ : Type) where
  poll : Nat → Outside σ → Answer × Outside σ

namespace Outside

variable {σ : Type}

/-- A world without channels whose executor is up. -/
def new (own : σ) : Outside σ :=
  { channels := [], executor := true, own }

/-- The state of a channel; one that was never opened has nobody to send on it. -/
def channel (outside : Outside σ) (id : Nat) : Channel :=
  outside.channels.getD id .abandoned

/-- Put a channel into a state. -/
def setChannel (outside : Outside σ) (id : Nat) (channel : Channel) : Outside σ :=
  { outside with channels := outside.channels.set id channel }

/-- Open a new channel and give the world that has it with the number of the channel. -/
def openChannel (outside : Outside σ) : Nat × Outside σ :=
  (outside.channels.length,
    { outside with channels := outside.channels ++ [.waiting] })

/-- The resolver of a channel sends an outcome. Only a channel that waits takes one. -/
def resolve (outside : Outside σ) (id : Nat) (outcome : Outcome) : Outside σ :=
  match outside.channel id with
  | .waiting => outside.setChannel id (.holding outcome)
  | _ => outside

/-- The resolver of a channel goes away without sending. -/
def abandon (outside : Outside σ) (id : Nat) : Outside σ :=
  match outside.channel id with
  | .waiting => outside.setChannel id .abandoned
  | _ => outside

end Outside

namespace Promise

variable {σ : Type} [Producer σ]

/-- Look at a promise without waiting. A channel hands out its value once; from then on, and when it
was abandoned, it answers that the promise was dropped. A poll is asked once. -/
def check (promise : Promise) (outside : Outside σ) : Answer × Outside σ :=
  match promise with
  | .poll id => Producer.poll id outside
  | .channel id =>
    match outside.channel id with
    | .waiting => (.notYet, outside)
    | .holding outcome => (.ready outcome, outside.setChannel id .spent)
    | .abandoned | .spent => (.ready (.failed .promiseDropped), outside.setChannel id .spent)

/-- One look of a party that waits for the promise and consumes it. It differs from `check` on a
channel that is spent already: waiting for it once more panics. -/
def await (promise : Promise) (outside : Outside σ) : Answer × Outside σ :=
  match promise with
  | .poll id => Producer.poll id outside
  | .channel id =>
    match outside.channel id with
    | .waiting => (.notYet, outside)
    | .holding outcome => (.ready outcome, outside.setChannel id .spent)
    | .abandoned => (.ready (.failed .promiseDropped), outside.setChannel id .spent)
    | .spent => (.panicked, outside)

end Promise

end Switchboard
