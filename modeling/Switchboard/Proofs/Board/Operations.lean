import Switchboard.Board.Start
import Switchboard.Proofs.Follower

/-!
# What the operations of the board can do

For each operation of the coordinator there is one list of the things that it can do.
`Board.Submits` is that list for an asynchronous command, and `Board.Receives` for pumping and for
collecting, which take completions from the follower and give at most one to the parked callback.
`submit_cases`, `pump_receives` and `collect_receives` say that the lists are complete.

While completions are pumped the follower may go on. `Board.round` is one round of pumping, which
receives one completion (`round_completions`), and pumping is a round and then pumping on, as long
as there is one (`pump_round`).
-/

namespace Switchboard.Board

variable {σ κ : Type}

/-- Receive one completion, if there is one, and deliver it. -/
def round (board : Board σ κ) : Turn σ κ Nat :=
  match board.follower.receive with
  | (none, _) => { value := 0, board }
  | (some outcome, follower) => { board with follower }.deliver outcome

/-! ### Submitting -/

/-- What submitting a command does: it is refused because the follower has stopped or the slot is
taken; or it runs and its callback is served at once, with the outcome or with the news that the
promise could not be handed over; or the promise is handed over and the callback is parked. -/
inductive Submits (board : Board σ κ) (command : String) (callback : κ) (outside : Outside σ) :
    Turn σ κ (Except CommandFault Unit) × Outside σ → Prop where
  | stopped : board.follower.isRunning outside = false →
      Submits board command callback outside
        (board.reject .followerStopped (.rejectedStopped command) callback, outside)
  | busy : board.follower.isRunning outside = true →
      (board.parked.isSome || board.follower.busy) = true →
      Submits board command callback outside
        (board.reject .followerBusy (.rejectedBusy command) callback, outside)
  | immediate {run : Run σ} : board.follower.isRunning outside = true → board.parked = none →
      board.follower.busy = false → board.exec command outside = run →
      run.outcome.isPending = false →
      Submits board command callback outside
        ({ value := .ok (), board, journal := run.journal
           delivered := [(callback, run.outcome)] }, run.outside)
  | lost {run : Run σ} {promise : Promise} : board.follower.isRunning outside = true →
      board.parked = none → board.follower.busy = false → board.exec command outside = run →
      run.outcome = .pending promise → board.follower.isRunning run.outside = false →
      Submits board command callback outside
        ({ value := .ok (), board, journal := run.journal
           delivered := [(callback, .failed .followerStopped)] }, run.outside)
  | handed {run : Run σ} {promise : Promise} : board.follower.isRunning outside = true →
      board.parked = none → board.follower.busy = false → board.exec command outside = run →
      run.outcome = .pending promise → board.follower.isRunning run.outside = true →
      Submits board command callback outside
        ({ value := .ok ()
           board := { board with
             follower := { board.follower with
               queue := board.follower.queue ++ [promise], busy := true }
             parked := some callback }
           journal := run.journal ++ [.watching command] }, run.outside)

/-- Claiming a free slot and freeing it again changes nothing. -/
theorem free_acquire (board : Board σ κ) (hbusy : board.follower.busy = false) :
    free { board with follower := board.follower.acquire.2 } = board := by
  rcases board with ⟨commands, ⟨queue, pursuit, completions, accepting, ended, busy⟩, parked⟩
  cases hbusy
  rfl

/-- The claim does not tell on whether the follower is running. -/
theorem acquire_is_running (follower : Follower) (outside : Outside σ) :
    follower.acquire.2.isRunning outside = follower.isRunning outside :=
  rfl

/-- An outcome that is not pending goes to the callback. -/
theorem settle_final (board : Board σ κ) (command : String) (callback : κ) (run : Run σ)
    (hfinal : run.outcome.isPending = false) :
    board.settle command callback run =
      { value := .ok (), board := board.free, journal := run.journal
        delivered := [(callback, run.outcome)] } := by
  rcases run with ⟨outcome, journal, outside⟩
  cases outcome with
  | pending => cases hfinal
  | done => rfl
  | failed => rfl

/-- If the follower does not run any more the callback gets to know it. -/
theorem settle_lost (board : Board σ κ) (command : String) (callback : κ) (run : Run σ)
    {promise : Promise} (hpending : run.outcome = .pending promise)
    (hreached : board.follower.isRunning run.outside = false) :
    board.settle command callback run =
      { value := .ok (), board := board.free, journal := run.journal
        delivered := [(callback, .failed .followerStopped)] } := by
  simp [settle, hpending, Follower.watch, hreached]

/-- A promise that is handed over parks the callback. -/
theorem settle_handed (board : Board σ κ) (command : String) (callback : κ) (run : Run σ)
    {promise : Promise} (hpending : run.outcome = .pending promise)
    (hreached : board.follower.isRunning run.outside = true) :
    board.settle command callback run =
      { value := .ok ()
        board := { board with
          follower := { board.follower with queue := board.follower.queue ++ [promise] }
          parked := some callback }
        journal := run.journal ++ [.watching command] } := by
  simp [settle, hpending, Follower.watch, hreached]

/-- A board is ready for a command: the follower is running and the slot is free. -/
structure Ready (board : Board σ κ) (outside : Outside σ) : Prop where
  running : board.follower.isRunning outside = true
  parked : board.parked = none
  busy : board.follower.busy = false

/-- A ready board runs the command as it runs any other, and then settles what becomes of the
callback. -/
theorem submit_ready {board : Board σ κ} {outside : Outside σ} (hready : board.Ready outside)
    (command : String) (callback : κ) :
    board.submit command callback outside =
      ({ board with follower := board.follower.acquire.2 }.settle command callback
        (board.exec command outside), (board.exec command outside).outside) := by
  have hfree : (board.parked.isSome || !board.follower.acquire.1) = false := by
    simp [Follower.acquire, hready.parked, hready.busy]
  simp only [submit, hready.running, hfree, Bool.not_true, Bool.false_eq_true, if_false]
  rfl

/-- Submitting a command does one of these things. -/
theorem submit_cases (board : Board σ κ) (command : String) (callback : κ) (outside : Outside σ) :
    Submits board command callback outside (board.submit command callback outside) := by
  cases hrunning : board.follower.isRunning outside with
  | false =>
      simp only [submit, hrunning, Bool.not_false, if_true]
      exact .stopped hrunning
  | true =>
      by_cases hbusy : (board.parked.isSome || board.follower.busy) = true
      · have hclaimed : (board.parked.isSome || !board.follower.acquire.1) = true := by
          simpa [Follower.acquire] using hbusy
        simp only [submit, hrunning, hclaimed, Bool.not_true, if_true]
        exact .busy hrunning hbusy
      · obtain ⟨hparked, hfree⟩ : board.parked = none ∧ board.follower.busy = false := by
          simpa using hbusy
        rw [submit_ready ⟨hrunning, hparked, hfree⟩]
        generalize hrun : board.exec command outside = run
        cases hpending : run.outcome with
        | pending promise =>
            cases hreached : board.follower.isRunning run.outside with
            | true =>
                rw [settle_handed _ _ _ _ hpending (by simpa [acquire_is_running] using hreached)]
                exact .handed hrunning hparked hfree hrun hpending hreached
            | false =>
                rw [settle_lost _ _ _ _ hpending (by simpa [acquire_is_running] using hreached),
                  free_acquire board hfree]
                exact .lost hrunning hparked hfree hrun hpending hreached
        | _ =>
            have hfinal : run.outcome.isPending = false := by simp [hpending, Outcome.isPending]
            rw [settle_final _ _ _ _ hfinal, free_acquire board hfree]
            exact .immediate hrunning hparked hfree hrun hfinal

/-! ### Receiving -/

/-- What taking completions from the follower does: nothing; or it drops completions for which no
callback waits; or it gives the earliest completion to the parked callback and frees the slot. -/
inductive Receives (board : Board σ κ) : Board σ κ → List (κ × Outcome) → Prop where
  | nothing : Receives board board []
  | dropped {kept : List Outcome} : board.parked = none → kept <:+ board.follower.completions →
      Receives board { board with follower := { board.follower with completions := kept } } []
  | served {callback : κ} {outcome : Outcome} {rest kept : List Outcome} :
      board.parked = some callback → board.follower.completions = outcome :: rest →
      kept <:+ rest →
      Receives board
        { board with
          follower := { board.follower with completions := kept, busy := false }
          parked := none }
        [(callback, outcome)]

/-- Completions for which no callback waits are reported and dropped. -/
theorem deliver_all_unclaimed (board : Board σ κ) (hparked : board.parked = none)
    (outcomes : List Outcome) :
    board.deliverAll outcomes =
      { value := 0, board, journal := outcomes.map .completionUnclaimed } := by
  induction outcomes with
  | nil => rfl
  | cons outcome rest ih => simp [deliverAll, deliver, hparked, ih]

/-- Of several completions the parked callback gets the earliest one. -/
theorem deliver_all_parked (board : Board σ κ) {callback : κ}
    (hparked : board.parked = some callback) (outcome : Outcome) (rest : List Outcome) :
    board.deliverAll (outcome :: rest) =
      { value := 1, board := { board with parked := none }.free
        journal := rest.map .completionUnclaimed, delivered := [(callback, outcome)] } := by
  simp only [deliverAll, deliver, hparked]
  rw [deliver_all_unclaimed _ rfl]
  rfl

/-- The board without its completions. -/
def emptied (board : Board σ κ) : Board σ κ :=
  { board with follower := { board.follower with completions := [] } }

/-- Pumping while no callback is parked drops every completion. -/
theorem pump_unclaimed (board : Board σ κ) (hparked : board.parked = none) :
    board.pump =
      { value := 0, board := board.emptied
        journal := board.follower.completions.map .completionUnclaimed } :=
  deliver_all_unclaimed board.emptied hparked _

/-- Pumping before a completion is there changes nothing. -/
theorem pump_waiting (board : Board σ κ) (hcompletions : board.follower.completions = []) :
    board.pump = { value := 0, board } := by
  rcases board with ⟨commands, ⟨queue, pursuit, completions, accepting, ended, busy⟩, parked⟩
  cases hcompletions
  rfl

/-- Pumping gives the earliest completion to the parked callback. -/
theorem pump_served (board : Board σ κ) {callback : κ} {outcome : Outcome} {rest : List Outcome}
    (hparked : board.parked = some callback)
    (hcompletions : board.follower.completions = outcome :: rest) :
    board.pump =
      { value := 1, board := { board.emptied with parked := none }.free
        journal := rest.map .completionUnclaimed, delivered := [(callback, outcome)] } := by
  rw [pump, hcompletions]
  exact deliver_all_parked board.emptied hparked outcome rest

/-- Pumping does one of these things, serves as many callbacks as it answers, and discards none. -/
theorem pump_receives (board : Board σ κ) :
    Receives board board.pump.board board.pump.delivered ∧
      board.pump.value = board.pump.delivered.length ∧ board.pump.discarded = [] := by
  cases hparked : board.parked with
  | none =>
      rw [pump_unclaimed board hparked]
      exact ⟨.dropped hparked (List.nil_suffix ..), rfl, rfl⟩
  | some callback =>
      cases hcompletions : board.follower.completions with
      | nil =>
          rw [pump_waiting board hcompletions]
          exact ⟨.nothing, rfl, rfl⟩
      | cons outcome rest =>
          rw [pump_served board hparked hcompletions]
          exact ⟨.served hparked hcompletions (List.nil_suffix ..), rfl, rfl⟩

/-- A round does one of these things, serves as many callbacks as it answers, and discards none. -/
theorem round_receives (board : Board σ κ) :
    Receives board board.round.board board.round.delivered ∧
      board.round.value = board.round.delivered.length ∧ board.round.discarded = [] := by
  cases hcompletions : board.follower.completions with
  | nil =>
      simp only [round, Follower.receive, hcompletions]
      exact ⟨.nothing, rfl, trivial⟩
  | cons outcome rest =>
      have hsuffix : rest <:+ board.follower.completions := by simp [hcompletions]
      cases hparked : board.parked with
      | none =>
          simp only [round, Follower.receive, hcompletions, deliver, hparked]
          refine ⟨?_, rfl, trivial⟩
          simpa [hparked] using Receives.dropped hparked hsuffix
      | some callback =>
          simp only [round, Follower.receive, hcompletions, deliver, hparked]
          exact ⟨.served hparked hcompletions (List.suffix_refl rest), rfl, trivial⟩

/-- A round receives the earliest completion. -/
theorem round_completions (board : Board σ κ) :
    board.round.board.follower.completions = board.follower.completions.tail := by
  cases hcompletions : board.follower.completions with
  | nil => simp [round, Follower.receive, hcompletions]
  | cons outcome rest =>
      cases hparked : board.parked <;>
        simp [round, Follower.receive, hcompletions, deliver, hparked, free, Follower.release]

/-- Pumping is a round and then pumping on, until no completion is left. -/
theorem pump_round (board : Board σ κ) (hcompletions : board.follower.completions ≠ []) :
    board.pump =
      { value := board.round.value + board.round.board.pump.value
        board := board.round.board.pump.board
        journal := board.round.journal ++ board.round.board.pump.journal
        delivered := board.round.delivered ++ board.round.board.pump.delivered
        discarded := board.round.discarded ++ board.round.board.pump.discarded } := by
  cases hsplit : board.follower.completions with
  | nil => exact absurd hsplit hcompletions
  | cons outcome rest =>
      cases hparked : board.parked <;>
        simp [pump, round, Follower.receive, hsplit, deliverAll, deliver, hparked, free,
          Follower.release]

/-- Collecting does one of these things, answers whether a callback was served, and discards
none. -/
theorem collect_receives (board : Board σ κ) :
    Receives board board.collect.board board.collect.delivered ∧
      board.collect.value = !board.collect.delivered.isEmpty ∧ board.collect.discarded = [] := by
  cases hparked : board.parked with
  | none =>
      simp only [collect, hparked, Option.isNone_none, if_true]
      exact ⟨.nothing, rfl, trivial⟩
  | some callback =>
      cases hcompletions : board.follower.completions with
      | nil =>
          simp only [collect, hparked, Follower.receive, hcompletions]
          exact ⟨.nothing, rfl, rfl⟩
      | cons outcome rest =>
          simp only [collect, hparked, Follower.receive, hcompletions, deliver]
          exact ⟨.served hparked hcompletions (List.suffix_refl rest), rfl, rfl⟩

end Switchboard.Board
