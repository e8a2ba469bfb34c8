import Switchboard.Proofs.Follower

/-!
# A follower by itself

A follower need not belong to a board: whoever has it may hand over any number of promises and
receive their completions. A relay is a follower with the world outside it. `Relay.Action` is
whatever may happen next: an operation of the owner, a step of the follower's task, or any change
of the world, such as the deed of a resolver. Waiting for a completion is letting the task go on
and then receiving. `Relay.Becomes` lists all that an action can do.
-/

namespace Switchboard

/-- A follower and the world outside it. -/
structure Relay (σ : Type) where
  follower : Follower
  outside : Outside σ

namespace Relay

variable {σ : Type}

/-- What may happen next to a follower. -/
inductive Action (σ : Type) where
  | watch (promise : Promise)
  | receive
  | acquire
  | release
  | shutdown
  | advance
  | abort
  | change (other : Outside σ → Outside σ)

/-- What a history tells: a promise was accepted or refused, the task looked at a promise or sent
an outcome, or the owner received one. -/
inductive Note (σ : Type) where
  | accepted (promise : Promise)
  | refused (promise : Promise) (fault : CommandFault)
  | looked (look : Look σ)
  | sent (outcome : Outcome)
  | received (outcome : Outcome)
  deriving DecidableEq

namespace Note

/-- The promise that a note says was accepted. -/
@[simp] def accepted? : Note σ → Option Promise
  | .accepted promise => some promise
  | _ => none

/-- The outcome that a note says was sent. -/
@[simp] def sent? : Note σ → Option Outcome
  | .sent outcome => some outcome
  | _ => none

/-- The outcome that a note says was received. -/
@[simp] def received? : Note σ → Option Outcome
  | .received outcome => some outcome
  | _ => none

/-- Whether a note tells of what the task did. -/
@[simp] def isWork : Note σ → Bool
  | .looked _ | .sent _ => true
  | _ => false

end Note

/-- A follower that was just started, in any world. -/
def start (outside : Outside σ) : Relay σ :=
  { follower := .new, outside }

/-- Whether the follower accepts promises. -/
def isRunning (relay : Relay σ) : Bool :=
  relay.follower.isRunning relay.outside

variable [Producer σ]

/-- The relay after an action. -/
def step (relay : Relay σ) : Action σ → Relay σ
  | .watch promise =>
    match relay.follower.watch relay.outside promise with
    | .ok follower => { relay with follower }
    | .error _ => relay
  | .receive => { relay with follower := relay.follower.receive.2 }
  | .acquire => { relay with follower := relay.follower.acquire.2 }
  | .release => { relay with follower := relay.follower.release }
  | .shutdown => { relay with follower := relay.follower.shutdown.2 }
  | .advance =>
    let (follower, outside) := relay.follower.advance relay.outside
    { follower, outside }
  | .abort => { relay with follower := relay.follower.abort }
  | .change other => { relay with outside := other relay.outside }

/-- What an action adds to the history. -/
def notes (relay : Relay σ) : Action σ → List (Note σ)
  | .watch promise =>
    match relay.follower.watch relay.outside promise with
    | .ok _ => [.accepted promise]
    | .error fault => [.refused promise fault]
  | .receive => relay.follower.receive.1.toList.map .received
  | .advance =>
    (relay.follower.looks relay.outside).map .looked ++
      (relay.follower.sends relay.outside).map .sent
  | _ => []

/-- The relay at the end of a course of actions. -/
def run (relay : Relay σ) : List (Action σ) → Relay σ
  | [] => relay
  | action :: rest => (relay.step action).run rest

/-- What a course tells, the earliest first. -/
def history (relay : Relay σ) : List (Action σ) → List (Note σ)
  | [] => []
  | action :: rest => relay.notes action ++ (relay.step action).history rest

/-- A course that goes on tells what it told before, and then what it tells from where it was. -/
theorem history_append (relay : Relay σ) (first second : List (Action σ)) :
    relay.history (first ++ second) =
      relay.history first ++ (relay.run first).history second := by
  induction first generalizing relay with
  | nil => rfl
  | cons action rest ih =>
      simp only [List.cons_append, history, run, ih (relay.step action), List.append_assoc]

/-- A relay that accepts promises puts them at the end of the queue. -/
theorem watch_accepted {relay : Relay σ} (hrunning : relay.isRunning = true) (promise : Promise) :
    relay.step (.watch promise) = { relay with follower := { relay.follower with
        queue := relay.follower.queue ++ [promise] } } ∧
      relay.notes (.watch promise) = [.accepted promise] := by
  have hfollower : relay.follower.isRunning relay.outside = true := hrunning
  simp only [step, notes, Follower.watch, hfollower, if_true, and_self]

/-- A relay that does not refuses them, and nothing changes. -/
theorem watch_refused {relay : Relay σ} (hrunning : relay.isRunning = false) (promise : Promise) :
    relay.step (.watch promise) = relay ∧
      relay.notes (.watch promise) = [.refused promise .followerStopped] := by
  have hfollower : relay.follower.isRunning relay.outside = false := hrunning
  simp only [step, notes, Follower.watch, hfollower, Bool.false_eq_true, if_false, and_self]

/-- Only being told to stop has to do with whether the doors are open. -/
theorem accepting_step {relay : Relay σ} {action : Action σ} (haction : action ≠ .shutdown) :
    (relay.step action).follower.accepting = relay.follower.accepting := by
  cases action with
  | watch promise =>
      cases hrunning : relay.isRunning with
      | true => rw [(watch_accepted hrunning promise).1]
      | false => rw [(watch_refused hrunning promise).1]
  | receive => cases hcompletions : relay.follower.completions <;>
      simp only [step, Follower.receive, hcompletions]
  | advance => exact (relay.follower.advance_cases relay.outside).busy_accepting.2
  | abort =>
      cases haccepting : relay.follower.accepting <;>
        simp [step, Follower.abort, haccepting]
  | shutdown => exact absurd rfl haction
  | acquire | release | change => rfl

/-- The doors are open as long as the follower has not been told to stop. -/
theorem accepting_run {relay : Relay σ} {actions : List (Action σ)} :
    (relay.run actions).follower.accepting = true ↔
      relay.follower.accepting = true ∧ .shutdown ∉ actions := by
  induction actions generalizing relay with
  | nil => simp [run]
  | cons action rest ih =>
      by_cases haction : action = .shutdown
      · subst haction
        simp [run, ih, step, Follower.shutdown]
      · simp only [run, ih, accepting_step haction, List.mem_cons, not_or, Ne.symm haction,
          not_false_eq_true, true_and]

/-- All that an action can do, with what it tells: a promise goes to the end of the queue, or is
refused; the earliest completion is received; the task takes a step, or is told to stop, or gives
up, which it does only when it was told to stop; or something happens that the task has no part
in. -/
inductive Becomes (relay : Relay σ) : List (Note σ) → Relay σ → Prop where
  | accepted (promise : Promise) : relay.isRunning = true →
      Becomes relay [.accepted promise]
        { relay with follower := { relay.follower with
            queue := relay.follower.queue ++ [promise] } }
  | refused (promise : Promise) : relay.isRunning = false →
      Becomes relay [.refused promise .followerStopped] relay
  | received {outcome : Outcome} {rest : List Outcome} :
      relay.follower.completions = outcome :: rest →
      Becomes relay [.received outcome]
        { relay with follower := { relay.follower with completions := rest } }
  | advanced {looks : List (Look σ)} {sent : List Outcome} {next : Follower × Outside σ} :
      relay.follower.Advances relay.outside looks next →
      next.1.completions = relay.follower.completions ++ sent →
      Becomes relay (looks.map .looked ++ sent.map .sent)
        { follower := next.1, outside := next.2 }
  | stopped : Becomes relay []
      { relay with follower := { relay.follower with accepting := false } }
  | aborted : relay.follower.accepting = false →
      Becomes relay []
        { relay with follower := { relay.follower with
            queue := [], pursuit := none, ended := true } }
  | elsewhere (busy : Bool) (outside : Outside σ) :
      Becomes relay [] { follower := { relay.follower with busy }, outside }

/-- Every action does one of these things. -/
theorem step_becomes (relay : Relay σ) (action : Action σ) :
    relay.Becomes (relay.notes action) (relay.step action) := by
  cases action with
  | watch promise =>
      cases hrunning : relay.isRunning with
      | true =>
          rw [(watch_accepted hrunning promise).1, (watch_accepted hrunning promise).2]
          exact .accepted promise hrunning
      | false =>
          rw [(watch_refused hrunning promise).1, (watch_refused hrunning promise).2]
          exact .refused promise hrunning
  | receive =>
      cases hcompletions : relay.follower.completions with
      | nil =>
          simp only [notes, step, Follower.receive, hcompletions]
          exact .elsewhere relay.follower.busy relay.outside
      | cons outcome rest =>
          simp only [notes, step, Follower.receive, hcompletions]
          exact .received hcompletions
  | advance =>
      exact .advanced (relay.follower.advance_cases relay.outside)
        (relay.follower.advance_completions relay.outside)
  | shutdown => exact .stopped
  | abort =>
      cases haccepting : relay.follower.accepting with
      | true =>
          simp only [notes, step, Follower.abort, haccepting, if_true]
          exact .elsewhere relay.follower.busy relay.outside
      | false =>
          simp only [notes, step, Follower.abort, haccepting, Bool.false_eq_true, if_false]
          simpa [haccepting] using Becomes.aborted haccepting
  | acquire => exact .elsewhere true relay.outside
  | release => exact .elsewhere false relay.outside
  | change other => exact .elsewhere relay.follower.busy (other relay.outside)

/-- What holds of a relay at first, before anything is told, and goes on to hold with every action,
holds at the end of every course. -/
theorem course_induction {motive : List (Note σ) → Relay σ → Prop} {relay : Relay σ}
    (hstart : motive [] relay)
    (hstep : ∀ told relay notes next, motive told relay → relay.Becomes notes next →
      motive (told ++ notes) next)
    (actions : List (Action σ)) : motive (relay.history actions) (relay.run actions) := by
  suffices hfrom : ∀ told relay, motive told relay →
      motive (told ++ relay.history actions) (relay.run actions) from hfrom [] relay hstart
  induction actions with
  | nil => simp [history, run]
  | cons action rest ih =>
      intro told relay htold
      simpa [history, run] using ih _ _ (hstep told relay _ _ htold (relay.step_becomes action))

end Relay

end Switchboard
