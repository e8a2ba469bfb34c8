import Switchboard.Outside

/-!
# Timers

The collaborators of the console: timers that resolve a channel when their time has come. Time
passes in whole milliseconds and only by `Clock.elapse`, so a session can be run with any course of
time.
-/

namespace Switchboard.Console

/-- A timer: when it is due, the channel that it resolves, and how long it runs in all. -/
structure Timer where
  due : Nat
  channel : Nat
  span : Nat
  deriving DecidableEq

/-- The time since the start, and the timers that are running. -/
structure Clock where
  now : Nat
  timers : List Timer
  deriving DecidableEq

/-- The console has no promises that are polled. -/
instance : Producer Clock where
  poll _ outside := (.notYet, outside)

namespace Clock

/-- A clock at its start. -/
def start : Clock :=
  { now := 0, timers := [] }

/-- What a timer sends when it is due. -/
def message (timer : Timer) : Outcome :=
  .done ("slept " ++ toString timer.span ++ " ms")

/-- Start a timer and give the promise that it keeps. -/
def sleep (span : Nat) (outside : Outside Clock) : Outcome × Outside Clock :=
  let (channel, opened) := outside.openChannel
  let timer := { due := opened.own.now + span, channel, span }
  (.pending (.channel channel),
    { opened with own := { opened.own with timers := opened.own.timers ++ [timer] } })

/-- Resolve the channels of the timers that are due. -/
def fire (outside : Outside Clock) : Outside Clock :=
  let (due, running) := outside.own.timers.partition fun timer ↦ timer.due ≤ outside.own.now
  due.foldl (fun outside timer ↦ outside.resolve timer.channel (message timer))
    { outside with own := { outside.own with timers := running } }

/-- Let a number of milliseconds pass. -/
def elapse (milliseconds : Nat) (outside : Outside Clock) : Outside Clock :=
  fire { outside with own := { outside.own with now := outside.own.now + milliseconds } }

end Clock

end Switchboard.Console
