import Switchboard.Proofs.Board.Delivery
import Switchboard.Proofs.Board.Shutdown

/-!
# Asynchronous and synchronous commands

A board that is ready runs a submitted command as it runs one whose outcome goes to the caller, so
the handlers are called alike (`Board.submit_calls`) and the world is left alike. What remains is
the way of a pending outcome. `Scene.Awaiting` says that a callback waits for the end of a chain;
every action but a shutdown keeps it, or serves the callback with that end (`awaiting_becomes`).
`submit_agrees` puts the two together.
-/

namespace Switchboard

variable {σ κ : Type}

namespace Board

variable {board : Board σ κ} {outside : Outside σ}

/-- A board is as ready with handlers that keep a record of their calls. -/
theorem ready_recorded (hready : board.Ready outside) (calls : List (Call σ)) :
    board.recorded.Ready (outside.record calls) :=
  ⟨hready.running, hready.parked, hready.busy⟩

/-- Submitting a command to a ready board calls the handlers that running it calls. -/
theorem submit_calls (hready : board.Ready outside) (command : String) (callback : κ) :
    board.submitCalls command callback outside = board.commands.calls command outside := by
  have hrecorded := board.commands.exec_recorded command outside []
  rw [submitCalls, submit_ready (ready_recorded hready [])]
  exact congrArg (·.outside.recorded) hrecorded

/-- On a ready board a final outcome goes to the callback, and nothing else is left of the
submission. -/
theorem submit_final (hready : board.Ready outside) {command : String}
    (hfinal : (board.exec command outside).outcome.isPending = false) (callback : κ) :
    (board.submit command callback outside).1.delivered =
        [(callback, (board.exec command outside).outcome)] ∧
      (board.submit command callback outside).1.board = board := by
  rw [submit_ready hready, settle_final _ _ _ _ hfinal]
  exact ⟨rfl, free_acquire board hready.busy⟩

/-- On a ready board a promise that can be handed over is put into the queue, and the callback is
parked and not served. -/
theorem submit_handed (hready : board.Ready outside) {command : String} {promise : Promise}
    (hpending : (board.exec command outside).outcome = .pending promise)
    (hreached : board.follower.isRunning (board.exec command outside).outside = true)
    (callback : κ) :
    (board.submit command callback outside).1.delivered = [] ∧
      (board.submit command callback outside).1.board =
        { board with
          follower := { board.follower with
            queue := board.follower.queue ++ [promise], busy := true }
          parked := some callback } := by
  rw [submit_ready hready, settle_handed _ _ _ _ hpending (by rwa [acquire_is_running])]
  exact ⟨rfl, rfl⟩

/-- While a callback is parked, all ways to receive completions give it the earliest one. -/
theorem delivered_parked {callback : κ} (hparked : board.parked = some callback) :
    let first := board.follower.completions.head?.toList.map (callback, ·)
    board.pump.delivered = first ∧ board.round.delivered = first ∧
      board.collect.delivered = first := by
  cases hcompletions : board.follower.completions with
  | nil =>
      rw [pump_waiting board hcompletions]
      simp [round, collect, Follower.receive, hcompletions]
  | cons outcome rest =>
      rw [pump_served board hparked hcompletions]
      simp [round, collect, Follower.receive, hcompletions, deliver, hparked]

end Board

namespace Scene

/-- Without a shutdown, what a free slot leaves open is whether the executor is up: the next command
is accepted if it is. -/
theorem answer_free {scene : Scene σ κ} (hbalanced : scene.board.Balanced)
    (hparked : scene.board.parked = none) (haccepting : scene.board.follower.accepting = true)
    (hended : scene.board.follower.ended = false) (command : String) (callback : κ) :
    scene.answer command callback = .ok () ↔ scene.outside.executor = true := by
  have hrunning : scene.board.follower.isRunning scene.outside = scene.outside.executor := by
    simp [Follower.isRunning, haccepting, hended]
  rw [answer, Board.submit_answer hbalanced, hrunning]
  simp [Board.isBusy, hparked]

/-- A submission serves the callbacks that the board serves in its turn. -/
theorem served_submit (scene : Scene σ κ) (command : String) (callback : κ) :
    (scene.notes (.submit command callback)).filterMap Note.served? =
      (scene.board.submit command callback scene.outside).1.delivered := by
  have hnone : (scene.submission command callback).served? = none := by
    unfold submission
    split <;> rfl
  rw [notes, List.filterMap_cons, hnone]
  exact served_notes _ false

/-! ### Waiting for the end of a chain -/

variable [Producer σ]

/-- A callback is parked, and the follower holds the promise that it waits for: the looks taken so
far have led along the chain of the promise. The task of the follower goes on. -/
structure Awaiting (callback : κ) (promise : Promise) (looks : List (Look σ))
    (scene : Scene σ κ) : Prop where
  balanced : scene.board.Balanced
  parked : scene.board.parked = some callback
  holds : scene.board.follower.Holds promise looks
  ended : scene.board.follower.ended = false

/-- How it goes on for a callback that waits: it is not served and waits on, or it alone is served,
with the end of the chain, and the slot is free. -/
inductive Proceeds (callback : κ) (promise : Promise) (looks : List (Look σ))
    (told : List (Note σ κ)) (next : Scene σ κ) : Prop where
  | waits : told.filterMap Note.served? = [] →
      next.Awaiting callback promise (looks ++ told.filterMap Note.look?) →
      Proceeds callback promise looks told next
  | served {outcome : Outcome} : told.filterMap Note.served? = [(callback, outcome)] →
      promise.Follows looks outcome → next.board.parked = none →
      next.board.follower.ended = false → Proceeds callback promise looks told next

variable {scene next : Scene σ κ} {callback : κ} {promise : Promise} {looks : List (Look σ)}
  {told : List (Note σ κ)}

/-- While a callback waits the follower accepts promises. -/
theorem Awaiting.accepting (h : scene.Awaiting callback promise looks) :
    scene.board.follower.accepting = true := by
  cases haccepting : scene.board.follower.accepting with
  | true => rfl
  | false => cases (h.balanced.stopped haccepting).symm.trans h.parked

/-- Only a shutdown makes the follower accept no promises any more. -/
theorem accepting_step (scene : Scene σ κ) {action : Action σ κ} (haction : action ≠ .shutdown) :
    (scene.step action).board.follower.accepting = scene.board.follower.accepting := by
  have hreceives {board after : Board σ κ} {delivered : List (κ × Outcome)}
      (h : board.Receives after delivered) :
      after.follower.accepting = board.follower.accepting := by
    cases h <;> rfl
  cases action with
  | submit command callback =>
      have hsubmitted := scene.submitted command callback
      generalize scene.step (.submit command callback) = next,
        scene.notes (.submit command callback) = told at hsubmitted ⊢
      cases hsubmitted <;> rfl
  | pump => exact hreceives scene.board.pump_receives.1
  | round => exact hreceives scene.board.round_receives.1
  | collect => exact hreceives scene.board.collect_receives.1
  | advance => exact (scene.board.follower.advance_cases scene.outside).busy_accepting.2
  | abort =>
      simp only [step, Follower.abort]
      split <;> rfl
  | shutdown => exact absurd rfl haction
  | bind | withAliases | exec | resolve | abandon | change => rfl

/-- While the follower accepts promises a step does not end its task. -/
theorem ended_advances {follower : Follower} {outside : Outside σ} {after : Follower × Outside σ}
    (haccepting : follower.accepting = true) (h : follower.Advances outside looks after) :
    after.1.ended = follower.ended ∨ after.1.ended = false := by
  cases h with
  | idled => exact .inr (by simp [haccepting])
  | stalled | took | looked | sent => exact .inl rfl

/-- Whatever happens but a shutdown, a callback that waits proceeds. -/
theorem awaiting_becomes (h : scene.Awaiting callback promise looks)
    (hbecomes : scene.Becomes told next) (hopen : next.board.follower.accepting = true) :
    Proceeds callback promise looks told next := by
  have hbalanced := balanced_becomes h.balanced hbecomes
  cases hbecomes with
  | submitted hsubmitted =>
      cases hsubmitted with
      | refused => exact .waits rfl ((List.append_nil looks).symm ▸ h)
      | served _ _ hparked => cases hparked.symm.trans h.parked
      | handed _ _ _ hparked => cases hparked.symm.trans h.parked
  | received hreceives =>
      cases hreceives with
      | nothing => exact .waits rfl (by simpa using h)
      | dropped hparked => cases hparked.symm.trans h.parked
      | served hparked hcompletions =>
          obtain rfl := Option.some.inj (hparked.symm.trans h.parked)
          exact .served rfl (Follower.follows_of_completed h.holds hcompletions) rfl h.ended
  | stopped => cases hopen
  | advanced hadvances =>
      refine .waits (served_looked _) ⟨hbalanced, h.parked, ?_, ?_⟩
      · rw [looks_looked]
        exact Follower.holds_advances h.holds hadvances
      · rcases ended_advances h.accepting hadvances with hsame | hfalse
        · exact hsame.trans h.ended
        · exact hfalse
  | aborted =>
      have hsame : scene.board.follower.abort = scene.board.follower := if_pos h.accepting
      refine .waits rfl ⟨hbalanced, h.parked, ?_, ?_⟩
      · simpa [hsame] using h.holds
      · simpa [hsame] using h.ended
  | elsewhere outside hfollower hparked =>
      refine .waits rfl ⟨hbalanced, hparked.trans h.parked, ?_, hfollower ▸ h.ended⟩
      simpa [hfollower] using h.holds

/-- Without a shutdown a callback that was not served waits on. -/
theorem awaiting_run (h : scene.Awaiting callback promise looks) {later : List (Action σ κ)}
    (hopen : .shutdown ∉ later)
    (hunserved : (scene.history later).filterMap Note.served? = []) :
    (scene.run later).Awaiting callback promise
      (looks ++ (scene.history later).filterMap Note.look?) := by
  induction later generalizing scene looks with
  | nil => simpa [run, history] using h
  | cons action rest ih =>
      obtain ⟨haction, hrest⟩ := List.ne_and_not_mem_of_not_mem_cons hopen
      rw [history, List.filterMap_append, List.append_eq_nil_iff] at hunserved
      have haccepting := (accepting_step scene (Ne.symm haction)).trans h.accepting
      cases awaiting_becomes h (scene.step_becomes action) haccepting with
      | waits _ hnext =>
          rw [history, List.filterMap_append, ← List.append_assoc]
          exact ih hnext hrest hunserved.2
      | served hserved => cases hserved.symm.trans hunserved.1

/-- While a callback waits, it is served by nothing but pumping and collecting. -/
theorem served_by (h : scene.Awaiting callback promise looks) {action : Action σ κ} {given : κ}
    {outcome : Outcome} (hserved : .served given outcome ∈ scene.notes action) :
    action = .pump ∨ action = .round ∨ action = .collect := by
  cases action with
  | pump | round | collect => simp
  | submit command other =>
      have hsubmitted := scene.submitted command other
      generalize scene.step (.submit command other) = next,
        scene.notes (.submit command other) = told at hsubmitted hserved
      cases hsubmitted with
      | refused => simp at hserved
      | served _ _ hparked => cases hparked.symm.trans h.parked
      | handed _ _ _ hparked => cases hparked.symm.trans h.parked
  | shutdown => simp [notes, Turn.notes, Board.shutdown] at hserved
  | advance => simp [notes] at hserved
  | bind | withAliases | exec | abort | resolve | abandon | change => cases hserved

/-- A callback whose promise was handed over waits for the end of its chain. -/
theorem awaiting_handed (hbalanced : scene.board.Balanced)
    (hready : scene.board.Ready scene.outside) {command : String}
    (hpending : (scene.board.exec command scene.outside).outcome = .pending promise)
    (hreached : scene.board.follower.isRunning
      (scene.board.exec command scene.outside).outside = true) (callback : κ) :
    (scene.step (.submit command callback)).Awaiting callback promise [] := by
  have hafter : (scene.step (.submit command callback)).board = _ :=
    (Board.submit_handed hready hpending hreached callback).2
  have hrunning := hready.running
  simp only [Follower.isRunning, Bool.and_eq_true, Bool.not_eq_true'] at hrunning
  have hnone : scene.board.follower.inFlight = 0 := by
    rw [hbalanced.inFlight hrunning.1.1, hready.parked]
    rfl
  refine ⟨balanced_becomes hbalanced (scene.step_becomes _), ?_, ?_, ?_⟩
  · rw [hafter]
  · rw [hafter]
    exact Follower.holds_queued hnone promise true
  · rw [hafter]
    exact hrunning.1.2

/-- What a waiting callback is served is the end of the chain. It alone is served, the slot is free
then, and the next command is accepted if the executor is up. -/
theorem served_awaiting (h : scene.Awaiting callback promise looks) {action : Action σ κ}
    {given : κ} {outcome : Outcome} (hmem : .served given outcome ∈ scene.notes action) :
    (scene.notes action).filterMap Note.served? = [(callback, outcome)] ∧
      promise.Follows looks outcome ∧ (scene.step action).board.isBusy = false ∧
      ∀ next other, (scene.step action).answer next other = .ok () ↔
        (scene.step action).outside.executor = true := by
  have hopen : action ≠ .shutdown := by
    rcases served_by h hmem with rfl | rfl | rfl <;> exact nofun
  have haccepting := (accepting_step scene hopen).trans h.accepting
  have hgiven : (given, outcome) ∈ (scene.notes action).filterMap Note.served? :=
    List.mem_filterMap.mpr ⟨_, hmem, rfl⟩
  cases awaiting_becomes h (scene.step_becomes action) haccepting with
  | waits hnone =>
      rw [hnone] at hgiven
      cases hgiven
  | served hserved hfollows hfree hended =>
      rw [hserved, List.mem_singleton, Prod.mk.injEq] at hgiven
      obtain ⟨-, rfl⟩ := hgiven
      have hbalanced := balanced_becomes h.balanced (scene.step_becomes action)
      exact ⟨hserved, hfollows, by simp [Board.isBusy, hfree],
        answer_free hbalanced hfree haccepting hended⟩

/-- Submitting a command agrees with running it. On a board that is running and whose slot is free
it is accepted, calls the handlers that running the command calls, and leaves the world as running
it does. A final outcome is given to the callback at once and the slot is free again. If the outcome
is pending and its promise is handed over, the slot is taken and the callback is not served yet. In
whatever follows without a shutdown, pumping and collecting serve the callback as soon as there is a
completion, and nothing else serves it. What it is given is the end of the chain of the promise, by
the looks taken since; the slot is free then, and the next command is accepted unless the executor
has gone down. -/
theorem submit_agrees (settings : Settings) (aliases : AliasTable) (outside : Outside σ)
    (actions : List (Action σ κ)) (command : String) (callback : κ) :
    let scene := (start settings aliases outside).run actions
    let run := scene.board.exec command scene.outside
    let told := scene.notes (.submit command callback)
    let after := scene.step (.submit command callback)
    scene.isRunning = true → scene.board.parked = none →
      scene.answer command callback = .ok () ∧
      scene.board.submitCalls command callback scene.outside =
        scene.board.commands.calls command scene.outside ∧
      after.outside = run.outside ∧
      (run.outcome.isPending = false →
        told.filterMap Note.served? = [(callback, run.outcome)] ∧ after.board.isBusy = false) ∧
      ∀ promise, run.outcome = .pending promise →
        scene.board.follower.isRunning run.outside = true →
        told.filterMap Note.served? = [] ∧ after.board.isBusy = true ∧
        ∀ later : List (Action σ κ), .shutdown ∉ later →
          (after.history later).filterMap Note.served? = [] →
          let before := after.run later
          before.board.isBusy = true ∧
          (∀ action, action = .pump ∨ action = .round ∨ action = .collect →
            (before.notes action).filterMap Note.served? =
              before.board.follower.completions.head?.toList.map (callback, ·)) ∧
          ∀ action given outcome, .served given outcome ∈ before.notes action →
            (action = .pump ∨ action = .round ∨ action = .collect) ∧
            (before.notes action).filterMap Note.served? = [(callback, outcome)] ∧
            outcome.isPending = false ∧
            (∀ last, promise.Follows ((after.history later).filterMap Note.look?) last ↔
              last = outcome) ∧
            (before.step action).board.isBusy = false ∧
            ∀ next other, (before.step action).answer next other = .ok () ↔
              (before.step action).outside.executor = true := by
  intro scene run told after hrunning hparked
  have hbalanced : scene.board.Balanced := balanced_run settings aliases outside actions
  have hready : scene.board.Ready scene.outside :=
    ⟨hrunning, hparked, by rw [hbalanced.busy, hparked]; rfl⟩
  have hserved : told.filterMap Note.served? = _ := served_submit scene command callback
  refine ⟨?_, Board.submit_calls hready command callback, ?_, fun hfinal ↦ ?_,
    fun promise hpending hreached ↦ ?_⟩
  · rw [answer, Board.submit_answer hbalanced, hready.running]
    simp [Board.isBusy, hparked]
  · exact congrArg (·.2) (Board.submit_ready hready command callback)
  · obtain ⟨hdelivered, hboard⟩ := Board.submit_final hready hfinal callback
    have hafter : after.board = scene.board := hboard
    refine ⟨hserved.trans hdelivered, ?_⟩
    rw [hafter, Board.isBusy, hparked]
    rfl
  · have hwaits : after.Awaiting callback promise [] :=
      awaiting_handed hbalanced hready hpending hreached callback
    refine ⟨hserved.trans (Board.submit_handed hready hpending hreached callback).1,
      by simp [Board.isBusy, hwaits.parked], fun later hopen hunserved ↦ ?_⟩
    intro before
    have hbefore : before.Awaiting callback promise ((after.history later).filterMap Note.look?) :=
      awaiting_run hwaits hopen hunserved
    refine ⟨by simp [Board.isBusy, hbefore.parked], fun action haction ↦ ?_,
      fun action given outcome hmem ↦ ?_⟩
    · obtain ⟨hpump, hround, hcollect⟩ := Board.delivered_parked hbefore.parked
      rcases haction with rfl | rfl | rfl
      · exact (served_notes _ false).trans hpump
      · exact (served_notes _ false).trans hround
      · exact (served_notes _ false).trans hcollect
    · obtain ⟨hone, hfollows, hfree, hnext⟩ := served_awaiting hbefore hmem
      refine ⟨served_by hbefore hmem, hone, Promise.follows_not_pending hfollows, fun last ↦ ?_,
        hfree, hnext⟩
      exact ⟨fun hlast ↦ Promise.follows_unique hlast hfollows, fun hlast ↦ hlast ▸ hfollows⟩

/-- A command whose promise turns out to stand for another channel, the resolver of which goes away:
the callback is given this news, and the next command is accepted. -/
theorem sample_agreement :
    let scene := (start {} .empty (.new ())).run (sampleCourse.take 2)
    let after := scene.step (.submit "wait" "first")
    let later : List (Action Unit String) :=
      [.advance, .resolve 1 (.pending (.channel 0)), .advance, .abandon 0, .advance, .advance]
    scene.board.submitCalls "wait" "first" scene.outside =
      scene.board.commands.calls "wait" scene.outside ∧
    ((after.run later).notes .pump).filterMap Note.served? =
      [("first", .failed .promiseDropped)] ∧
    (Promise.channel 1).Follows ((after.history later).filterMap Note.look?)
      (.failed .promiseDropped) ∧
    ((after.run later).step .pump).answer "wait" "second" = .ok () := by
  intro scene after later
  obtain ⟨-, hcalls, -, -, hpending⟩ :=
    submit_agrees {} .empty (.new ()) (sampleCourse.take 2) "wait" "first" (by decide) (by decide)
  obtain ⟨-, -, hlater⟩ := hpending (.channel 1) (by decide) (by decide)
  obtain ⟨-, -, hfirst⟩ := hlater later (by simp [later]) (by decide)
  obtain ⟨-, hserved, -, hchain, -, hnext⟩ :=
    hfirst .pump "first" (.failed .promiseDropped) (by decide)
  exact ⟨hcalls, hserved, (hchain _).mpr rfl, (hnext "wait" "second").mpr (by decide)⟩

end Scene

end Switchboard
