import Switchboard.Proofs.Board.Slot
import Switchboard.Proofs.Commands.Recorded

/-!
# Refusals and shutdowns

A command that is refused leaves everything as it was (`submit_refused`). A board that was shut down
is closed: no callback is parked, the slot is free, and promises are not accepted any more.
`Scene.Closed` is kept by every action (`Closed.becomes`), also by the late steps of the follower's
task, so it holds at every point of what follows a shutdown.
-/

namespace Switchboard

variable {σ κ : Type}

namespace Board

/-- The same board with handlers that keep a record of their calls. -/
def recorded (board : Board σ κ) : Board (σ × List (Call σ)) κ where
  commands := board.commands.recorded
  follower := board.follower
  parked := board.parked

/-- The calls of handlers that submitting a command makes. -/
def submitCalls (board : Board σ κ) (command : String) (callback : κ) (outside : Outside σ) :
    List (Call σ) :=
  (board.recorded.submit command callback (outside.record [])).2.recorded

variable {board : Board σ κ} {command : String} {callback : κ} {outside : Outside σ}

/-- A command is refused if the follower is not running or the slot is taken. -/
theorem submit_error_iff :
    (∃ fault, (board.submit command callback outside).1.value = .error fault) ↔
      board.follower.isRunning outside = false ∨
        (board.parked.isSome || board.follower.busy) = true := by
  have h := board.submit_cases command callback outside
  generalize board.submit command callback outside = turn at h ⊢
  cases h with
  | stopped hrunning => exact ⟨fun _ ↦ .inl hrunning, fun _ ↦ ⟨_, rfl⟩⟩
  | busy _ htaken => exact ⟨fun _ ↦ .inr htaken, fun _ ↦ ⟨_, rfl⟩⟩
  | immediate hrunning hparked hbusy | lost hrunning hparked hbusy
  | handed hrunning hparked hbusy => simp [hrunning, hparked, hbusy]

/-- A refused command leaves the board and the world as they were, and its callback is discarded
and not served. -/
theorem submit_refused {fault : CommandFault}
    (hvalue : (board.submit command callback outside).1.value = .error fault) :
    (board.submit command callback outside).2 = outside ∧
      (board.submit command callback outside).1.board = board ∧
      (board.submit command callback outside).1.delivered = [] ∧
      (board.submit command callback outside).1.discarded = [callback] := by
  have h := board.submit_cases command callback outside
  generalize board.submit command callback outside = turn at h hvalue ⊢
  cases h with
  | stopped | busy => exact ⟨rfl, rfl, rfl, rfl⟩
  | immediate | lost | handed => cases hvalue

/-- A refused command calls no handler. -/
theorem submit_calls_refused {fault : CommandFault}
    (hvalue : (board.submit command callback outside).1.value = .error fault) :
    board.submitCalls command callback outside = [] := by
  have hrefused : board.follower.isRunning outside = false ∨
      (board.parked.isSome || board.follower.busy) = true := submit_error_iff.mp ⟨fault, hvalue⟩
  -- Whether a command is refused does not depend on the handlers.
  obtain ⟨other, hother⟩ : ∃ other,
      (board.recorded.submit command callback (outside.record [])).1.value = .error other :=
    submit_error_iff.mpr hrefused
  rw [submitCalls, (submit_refused hother).1]
  rfl

end Board

namespace Scene

/-- The board was shut down: it is balanced and the follower accepts no promises. -/
structure Closed (scene : Scene σ κ) : Prop where
  balanced : scene.board.Balanced
  stopped : scene.board.follower.accepting = false

namespace Closed

variable {scene : Scene σ κ}

/-- No callback is parked on a closed board. -/
theorem parked (h : scene.Closed) : scene.board.parked = none :=
  h.balanced.stopped h.stopped

/-- The follower of a closed board is not running. -/
theorem running (h : scene.Closed) : scene.isRunning = false := by
  simp [isRunning, Follower.isRunning, h.stopped]

/-- A closed board refuses every command, because the follower has stopped. -/
theorem answer (h : scene.Closed) (command : String) (callback : κ) :
    scene.answer command callback = .error .followerStopped := by
  have hanswer := Board.submit_answer h.balanced command callback scene.outside
  have hrunning : scene.board.follower.isRunning scene.outside = false := h.running
  rwa [if_pos hrunning] at hanswer

/-- Pumping a closed board serves nobody. -/
theorem pump (h : scene.Closed) : scene.board.pump.value = 0 := by
  rw [Board.pump_unclaimed scene.board h.parked]

/-- Collecting from a closed board serves nobody. -/
theorem collect (h : scene.Closed) : scene.board.collect.value = false := by
  simp [Board.collect, h.parked]

variable [Producer σ]

/-- Shutting a closed board down changes nothing. -/
theorem shutdown (h : scene.Closed) : scene.step .shutdown = scene := by
  have hbusy := h.balanced.busy
  have hstopped := h.stopped
  have hparked := h.parked
  obtain ⟨⟨commands, ⟨queue, pursuit, completions, accepting, ended, busy⟩, parked⟩, outside⟩ :=
    scene
  subst hparked hstopped
  obtain rfl : busy = false := hbusy
  rfl

/-- Whatever happens to a closed board, it stays closed and no callback is served. -/
theorem becomes (h : scene.Closed) {next : Scene σ κ} {told : List (Note σ κ)}
    (hbecomes : scene.Becomes told next) :
    next.Closed ∧ told.filterMap Note.served? = [] := by
  have hbalanced := balanced_becomes h.balanced hbecomes
  cases hbecomes with
  | submitted hsubmitted =>
      cases hsubmitted with
      | refused => exact ⟨h, rfl⟩
      | served _ hrunning => cases h.running.symm.trans hrunning
      | handed _ _ hrunning => cases h.running.symm.trans hrunning
  | received hreceives =>
      cases hreceives with
      | nothing => exact ⟨h, rfl⟩
      | dropped => exact ⟨⟨hbalanced, h.stopped⟩, rfl⟩
      | served hparked => cases h.parked.symm.trans hparked
  | stopped => exact ⟨⟨hbalanced, rfl⟩, by simp [h.parked]⟩
  | advanced hadvances =>
      exact ⟨⟨hbalanced, hadvances.busy_accepting.2.trans h.stopped⟩, served_looked _⟩
  | aborted =>
      refine ⟨⟨hbalanced, ?_⟩, rfl⟩
      simp [Follower.abort, h.stopped]
  | elsewhere outside hfollower => exact ⟨⟨hbalanced, hfollower ▸ h.stopped⟩, rfl⟩

/-- Whatever happens to a closed board one after the other, it is closed in the end and no callback
was served. -/
theorem run (h : scene.Closed) (actions : List (Action σ κ)) :
    (scene.run actions).Closed ∧ (scene.history actions).filterMap Note.served? = [] := by
  induction actions generalizing scene with
  | nil => exact ⟨h, rfl⟩
  | cons action rest ih =>
      obtain ⟨hclosed, hnone⟩ := h.becomes (scene.step_becomes action)
      obtain ⟨hlast, hrest⟩ := ih hclosed
      exact ⟨hlast, by rw [history, List.filterMap_append, hnone, hrest]; rfl⟩

end Closed

variable [Producer σ]

/-- A shutdown closes the board, and serves no callback. -/
theorem closed_shutdown (scene : Scene σ κ) :
    (scene.step .shutdown).Closed ∧ (scene.notes .shutdown).filterMap Note.served? = [] := by
  refine ⟨⟨scene.board.balanced_shutdown, rfl⟩, ?_⟩
  rw [notes, served_notes]
  rfl

/-- A refused command changes nothing: no handler is called, its callback is discarded and not
served, and the board, with everything that it knows and holds, and the world are as they were.
After a shutdown the slot is free and stays free, whatever follows, and every command is refused
because the follower has stopped. No completion is given to a callback any more, also if one arrives
late, and none is served, whether it was given before the shutdown or after it. Another shutdown
changes nothing, and synchronous commands do what they would do without the shutdown. -/
theorem shutdown_final (settings : Settings) (aliases : AliasTable) (outside : Outside σ)
    (actions : List (Action σ κ)) :
    let scene := (start settings aliases outside).run actions
    (∀ command callback fault, scene.answer command callback = .error fault →
      scene.step (.submit command callback) = scene ∧
      scene.notes (.submit command callback) =
        [.refused callback fault, .discarded callback false] ∧
      scene.board.submitCalls command callback scene.outside = []) ∧
    ∀ later : List (Action σ κ),
      let after := (scene.step .shutdown).run later
      after.board.isBusy = false ∧
      (∀ command callback, after.answer command callback = .error .followerStopped) ∧
      after.board.pump.value = 0 ∧ after.board.collect.value = false ∧
      (scene.history (.shutdown :: later)).filterMap Note.served? = [] ∧
      after.step .shutdown = after ∧
      ∀ command world,
        after.board.exec command world = (scene.run later).board.exec command world ∧
        after.board.commands.calls command world =
          (scene.run later).board.commands.calls command world := by
  intro scene
  refine ⟨fun command callback fault hanswer ↦ ?_, fun later ↦ ?_⟩
  · obtain ⟨hworld, hboard, hdelivered, hdiscarded⟩ := Board.submit_refused hanswer
    refine ⟨by simp only [step, hworld, hboard], ?_, Board.submit_calls_refused hanswer⟩
    simp [notes, submission, hanswer, Turn.notes, hdelivered, hdiscarded]
  · obtain ⟨hclosed, hnone⟩ := closed_shutdown scene
    obtain ⟨hafter, hlater⟩ := hclosed.run later
    have hsame : (scene.step .shutdown).board.commands = scene.board.commands := rfl
    have hcommands := commands_run hsame later
    refine ⟨by simp [Board.isBusy, hafter.parked], hafter.answer, hafter.pump, hafter.collect, ?_,
      hafter.shutdown, fun command world ↦ ?_⟩
    · rw [history, List.filterMap_append, hnone, hlater]
      rfl
    · simp only [Board.exec, hcommands, and_self]

/-- In the sample course the first callback is parked when the follower knows the outcome and has
not sent it. After a shutdown the completion still arrives, and nobody gets it. -/
theorem sample_shutdown :
    let scene := (start {} .empty (.new ())).run sampleCourse.dropLast
    let after := (scene.step .shutdown).run [.advance]
    scene.board.parked = some "first" ∧
    scene.step (.submit "wait" "third") = scene ∧
    after.board.follower.completions = [.failed .promiseDropped] ∧
    after.answer "wait" "fourth" = .error .followerStopped ∧
    after.board.pump.value = 0 ∧ after.board.collect.value = false := by
  intro scene after
  obtain ⟨hrefused, hfinal⟩ := shutdown_final {} .empty (.new ()) sampleCourse.dropLast
  obtain ⟨-, hanswer, hpump, hcollect, -⟩ := hfinal [.advance]
  have hbusy : scene.answer "wait" "third" = .error .followerBusy := rfl
  exact ⟨by decide, (hrefused "wait" "third" _ hbusy).1, by decide, hanswer _ _, hpump, hcollect⟩

end Scene

end Switchboard
