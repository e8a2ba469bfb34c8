import Switchboard.Follower.Pursue
import Switchboard.Proofs.Chain

/-!
# What the follower's task can do

`Follower.Advances` lists the steps of the task, each with the condition under which it is taken
and with the looks that it takes, and `advance_cases` says that the list is complete.
`Follower.inFlight` counts the promises that were handed over and whose completions have not been
received; only looking at a promise and sending an outcome change where they are, and no step of
the task changes their number. Without any of them the task has nothing to do (`run_idle`).
-/

namespace Switchboard.Follower

variable {σ : Type}

/-- How many promises were handed over whose completions have not been received: those in the
queue, the one that is pursued, and the completions that have been sent. -/
def inFlight (follower : Follower) : Nat :=
  follower.queue.length + follower.pursuit.toList.length + follower.completions.length

/-- The looks that the next step of the task takes. -/
def looks (follower : Follower) (outside : Outside σ) : List (Look σ) :=
  if follower.ended || !outside.executor then []
  else
    match follower.pursuit with
    | some (.following promise) => [(promise, outside)]
    | _ => []

/-- The outcomes that the next step of the task sends. -/
def sends (follower : Follower) (outside : Outside σ) : List Outcome :=
  if follower.ended || !outside.executor then []
  else
    match follower.pursuit with
    | some (.settled outcome) => [outcome]
    | _ => []

/-- The steps of the task: the looks taken, and the follower and the world after the step. -/
inductive Advances [Producer σ] (follower : Follower) (outside : Outside σ) :
    List (Look σ) → Follower × Outside σ → Prop where
  | stalled : (follower.ended || !outside.executor) = true →
      Advances follower outside [] (follower, outside)
  | idled : follower.pursuit = none → follower.queue = [] →
      Advances follower outside [] ({ follower with ended := !follower.accepting }, outside)
  | took {promise : Promise} {rest : List Promise} :
      follower.pursuit = none → follower.queue = promise :: rest →
      Advances follower outside []
        ({ follower with queue := rest, pursuit := some (.following promise) }, outside)
  | looked {promise : Promise} {answer : Answer} {after : Outside σ} :
      follower.pursuit = some (.following promise) → promise.Shows outside answer →
      Advances follower outside [(promise, outside)]
        ({ follower with pursuit := some (afterLook promise answer) }, after)
  | sent {outcome : Outcome} : follower.pursuit = some (.settled outcome) →
      Advances follower outside []
        ({ follower with pursuit := none, completions := follower.completions ++ [outcome] },
          outside)

variable [Producer σ]

/-- `advance` takes one of these steps. -/
theorem advance_cases (follower : Follower) (outside : Outside σ) :
    Advances follower outside (follower.looks outside) (follower.advance outside) := by
  rcases follower with ⟨queue, pursuit, completions, accepting, ended, busy⟩
  unfold looks advance
  split
  · rename_i hstalled
    exact .stalled hstalled
  · cases pursuit with
    | none =>
        cases queue with
        | nil => exact .idled rfl rfl
        | cons promise rest => exact .took rfl rfl
    | some pursuit =>
        cases pursuit with
        | following promise => exact .looked rfl (promise.await_shows outside)
        | settled outcome => exact .sent rfl

variable {follower : Follower} {outside : Outside σ} {looks : List (Look σ)}
  {next : Follower × Outside σ}

/-- A step of the task does not touch the slot and the doors of the follower. -/
theorem Advances.busy_accepting (h : follower.Advances outside looks next) :
    next.1.busy = follower.busy ∧ next.1.accepting = follower.accepting := by
  cases h <;> exact ⟨rfl, rfl⟩

/-- A step of the task loses no promise and invents none. -/
theorem Advances.in_flight (h : follower.Advances outside looks next) :
    next.1.inFlight = follower.inFlight := by
  cases h with
  | stalled => rfl
  | idled => rfl
  | took hpursuit hqueue => simp [inFlight, hpursuit, hqueue]
  | looked hpursuit => simp [inFlight, hpursuit]
  | sent hpursuit =>
      simp only [inFlight, hpursuit, Option.toList, List.length_append, List.length_singleton,
        List.length_nil]
      omega

/-- Nothing in flight is nothing in the queue, nothing pursued and no completion. -/
theorem in_flight_eq_zero_iff (follower : Follower) :
    follower.inFlight = 0 ↔
      follower.queue = [] ∧ follower.pursuit = none ∧ follower.completions = [] := by
  simp [inFlight, and_assoc]

/-- With nothing in flight the task has nothing to do, unless it was told to stop. -/
theorem run_idle (haccepting : follower.accepting = true)
    (hnone : follower.inFlight = 0) (steps : Nat) (outside : Outside σ) :
    follower.run steps outside = (follower, outside) := by
  obtain ⟨hqueue, hpursuit, -⟩ := follower.in_flight_eq_zero_iff.mp hnone
  have hadvance : follower.advance outside = (follower, outside) := by
    rcases follower with ⟨queue, pursuit, completions, accepting, ended, busy⟩
    obtain rfl : queue = [] := hqueue
    obtain rfl : pursuit = none := hpursuit
    obtain rfl : accepting = true := haccepting
    unfold advance
    split
    · rfl
    · rename_i hgoing
      obtain rfl : ended = false := by simp_all
      rfl
  induction steps with
  | zero => rfl
  | succ steps ih =>
      rw [run, hadvance]
      exact ih

/-- The completions after a step are those before it and those that it sends. -/
theorem advance_completions (follower : Follower) (outside : Outside σ) :
    (follower.advance outside).1.completions =
      follower.completions ++ follower.sends outside := by
  unfold sends advance
  split
  · exact (List.append_nil _).symm
  · cases follower.pursuit with
    | none => cases follower.queue <;> exact (List.append_nil _).symm
    | some pursuit =>
        cases pursuit with
        | following promise => exact (List.append_nil _).symm
        | settled outcome => rfl

end Switchboard.Follower
