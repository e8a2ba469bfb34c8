import Switchboard.Proofs.Board.Scene

/-!
# The slot

A board has one slot for an asynchronous command, and three things that tell whether it is taken:
the claim on the follower, the parked callback, and what is in flight between them.
`Board.Balanced` says that the three agree. Every action preserves it, so `slot_agrees` holds in
every scene that can be reached, and with it what the operations answer depends on the parked
callback alone.
-/

namespace Switchboard

variable {σ κ : Type}

/-- The slot is claimed while a callback is parked; unless the follower was told to stop, one
promise is in flight then and none otherwise; and no callback is parked once it was told to. -/
structure Board.Balanced (board : Board σ κ) : Prop where
  busy : board.follower.busy = board.parked.isSome
  inFlight : board.follower.accepting = true →
    board.follower.inFlight = board.parked.toList.length
  stopped : board.follower.accepting = false → board.parked = none

namespace Board

/-- A new board is balanced. -/
theorem balanced_new (settings : Settings) (aliases : AliasTable) :
    Balanced (new settings aliases : Board σ κ) where
  busy := rfl
  inFlight _ := rfl
  stopped h := nomatch h

variable {board : Board σ κ}

/-- Whoever is running was not told to stop. -/
theorem accepting_of_running {follower : Follower} {outside : Outside σ}
    (hrunning : follower.isRunning outside = true) : follower.accepting = true := by
  simp only [Follower.isRunning, Bool.and_eq_true] at hrunning
  exact hrunning.1.1

/-- Receiving completions keeps the balance. -/
theorem balanced_receives (hbalanced : board.Balanced) {after : Board σ κ}
    {delivered : List (κ × Outcome)} (h : board.Receives after delivered) : after.Balanced := by
  cases h with
  | nothing => exact hbalanced
  | dropped hparked hkept =>
      refine ⟨hbalanced.busy, fun haccepting ↦ ?_, hbalanced.stopped⟩
      -- Nothing was in flight, so there was nothing to drop.
      have hnone := hbalanced.inFlight haccepting
      have hlength := hkept.length_le
      simp only [hparked, Option.toList_none, List.length_nil, Follower.inFlight] at hnone ⊢
      omega
  | served hparked hcompletions hkept =>
      refine ⟨rfl, fun haccepting ↦ ?_, fun _ ↦ rfl⟩
      -- The completion was the one promise in flight, so nothing is left.
      have hone := hbalanced.inFlight haccepting
      have hlength := hkept.length_le
      simp only [hparked, hcompletions, Option.toList_some, List.length_cons, List.length_nil,
        Follower.inFlight] at hone
      simp only [Follower.inFlight, Option.toList_none, List.length_nil]
      omega

/-- A shutdown leaves a balanced board. -/
theorem balanced_shutdown (board : Board σ κ) : board.shutdown.board.Balanced where
  busy := rfl
  inFlight h := nomatch h
  stopped _ := rfl

/-- A step of the follower's task keeps the balance. -/
theorem balanced_advances [Producer σ] (hbalanced : board.Balanced) {outside : Outside σ}
    {looks : List (Look σ)} {next : Follower × Outside σ}
    (h : board.follower.Advances outside looks next) :
    Balanced { board with follower := next.1 } := by
  obtain ⟨hbusy, haccepting⟩ := h.busy_accepting
  refine ⟨hbusy.trans hbalanced.busy, fun hopen ↦ ?_, fun hstopped ↦ ?_⟩
  · exact h.in_flight.trans (hbalanced.inFlight (haccepting.symm.trans hopen))
  · exact hbalanced.stopped (haccepting.symm.trans hstopped)

/-- The follower's giving up keeps the balance: it gives up only what it was told to. -/
theorem balanced_abort (hbalanced : board.Balanced) :
    Balanced { board with follower := board.follower.abort } := by
  unfold Follower.abort
  split
  · exact hbalanced
  · rename_i hstopped
    exact ⟨hbalanced.busy, fun haccepting ↦ absurd haccepting hstopped, hbalanced.stopped⟩

/-- What a submission is answered, by the follower and the parked callback. -/
theorem submit_answer (hbalanced : board.Balanced) (command : String) (callback : κ)
    (outside : Outside σ) :
    (board.submit command callback outside).1.value =
      if board.follower.isRunning outside = false then .error .followerStopped
      else if board.isBusy then .error .followerBusy
      else .ok () := by
  have h := board.submit_cases command callback outside
  have hbusy := hbalanced.busy
  generalize board.submit command callback outside = turn at h ⊢
  cases h with
  | stopped hrunning => simp [hrunning, reject]
  | busy hrunning htaken =>
      have hparked : board.isBusy = true := by simpa [isBusy, hbusy] using htaken
      simp [hrunning, hparked, reject]
  | immediate hrunning hparked => simp [hrunning, isBusy, hparked]
  | lost hrunning hparked => simp [hrunning, isBusy, hparked]
  | handed hrunning hparked => simp [hrunning, isBusy, hparked]

/-- Receiving completions serves one callback, and that frees the slot, or none, and then the slot
is as it was. -/
theorem receives_busy {after : Board σ κ} {delivered : List (κ × Outcome)}
    (h : board.Receives after delivered) :
    (delivered.length = 1 ∧ board.isBusy = true ∧ after.isBusy = false) ∨
      (delivered = [] ∧ after.parked = board.parked) := by
  cases h with
  | nothing => exact .inr ⟨rfl, rfl⟩
  | dropped => exact .inr ⟨rfl, rfl⟩
  | served hparked => exact .inl ⟨rfl, by simp [isBusy, hparked], rfl⟩

end Board

namespace Scene

variable [Producer σ]

/-- Submitting a command keeps the balance. -/
theorem balanced_submitted {scene next : Scene σ κ} (hbalanced : scene.board.Balanced)
    {command : String} {callback : κ} {told : List (Note σ κ)}
    (h : scene.Submitted command callback told next) : next.board.Balanced := by
  cases h with
  | refused => exact hbalanced
  | served => exact hbalanced
  | handed promise outside hrunning hparked =>
      have haccepting := Board.accepting_of_running hrunning
      -- Nothing was in flight, so one promise is now.
      have hnone := hbalanced.inFlight haccepting
      refine ⟨rfl, fun _ ↦ ?_, fun hstopped ↦ absurd (haccepting.symm.trans hstopped) (by simp)⟩
      simp only [hparked, Option.toList_none, List.length_nil, Follower.inFlight] at hnone
      simp only [Follower.inFlight, List.length_append, List.length_singleton,
        Option.toList_some]
      omega

/-- Whatever happens keeps the balance. -/
theorem balanced_becomes {scene next : Scene σ κ} (hbalanced : scene.board.Balanced)
    {told : List (Note σ κ)} (h : scene.Becomes told next) : next.board.Balanced := by
  cases h with
  | submitted hsubmitted => exact balanced_submitted hbalanced hsubmitted
  | received hreceives => exact Board.balanced_receives hbalanced hreceives
  | stopped => exact Board.balanced_shutdown scene.board
  | advanced hadvances => exact Board.balanced_advances hbalanced hadvances
  | aborted => exact Board.balanced_abort hbalanced
  | elsewhere outside hfollower hparked =>
      obtain ⟨hbusy, hinFlight, hstopped⟩ := hbalanced
      rw [← hfollower, ← hparked] at hbusy hinFlight hstopped
      exact ⟨hbusy, hinFlight, hstopped⟩

/-- Every board that can be reached is balanced. -/
theorem balanced_run (settings : Settings) (aliases : AliasTable) (outside : Outside σ)
    (actions : List (Action σ κ)) : ((start settings aliases outside).run actions).board.Balanced :=
  run_induction (motive := fun _ scene ↦ scene.board.Balanced)
    (Board.balanced_new settings aliases) (fun _ _ _ _ hbalanced h ↦ balanced_becomes hbalanced h)
    actions

/-- However many steps of the follower's task fall into a submission, between the claim of the slot
and the end of it, the submission comes to the same. -/
theorem submit_undisturbed (settings : Settings) (aliases : AliasTable) (outside : Outside σ)
    (actions : List (Action σ κ)) (command : String) (callback : κ) (steps : Nat) :
    let scene := (start settings aliases outside).run actions
    let claimed := { scene.board with follower := scene.board.follower.acquire.2 }
    let run := scene.board.exec command scene.outside
    let late := claimed.follower.run steps run.outside
    scene.board.Ready scene.outside →
      scene.board.submit command callback scene.outside =
        ({ claimed with follower := late.1 }.settle command callback
          { run with outside := late.2 }, late.2) := by
  intro scene claimed run late hready
  have hbalanced : scene.board.Balanced := balanced_run settings aliases outside actions
  have haccepting : claimed.follower.accepting = true :=
    Board.accepting_of_running hready.running
  have hnone : claimed.follower.inFlight = 0 := by
    have hparked := hbalanced.inFlight haccepting
    rwa [hready.parked] at hparked
  have hlate : late = (claimed.follower, run.outside) :=
    Follower.run_idle haccepting hnone steps run.outside
  rw [Board.submit_ready hready, hlate]

/-- An action that falls into a pump serves one callback, and that frees the slot, or none, and
then the slot is as it was. -/
theorem during_pump_step (scene : Scene σ κ) {action : Action σ κ}
    (haction : action.isDuringPump = true) :
    (((scene.notes action).filterMap Note.served?).length = 1 ∧ scene.board.isBusy = true ∧
        (scene.step action).board.parked = none) ∨
      ((scene.notes action).filterMap Note.served? = [] ∧
        (scene.step action).board.parked = scene.board.parked) := by
  cases action with
  | round =>
      simp only [notes, step, served_notes]
      obtain ⟨hone, hbusy, hfree⟩ | hnone := Board.receives_busy scene.board.round_receives.1
      · exact .inl ⟨hone, hbusy, by simpa [Board.isBusy] using hfree⟩
      · exact .inr hnone
  | advance => exact .inr ⟨served_looked _, rfl⟩
  | abort | resolve | abandon | change => exact .inr ⟨rfl, rfl⟩
  | _ => cases haction

/-- While no callback is parked a pump serves none, whatever falls into it. -/
theorem during_pump_unparked (actions : List (Action σ κ)) {scene : Scene σ κ}
    (hactions : ∀ action ∈ actions, action.isDuringPump = true)
    (hparked : scene.board.parked = none) :
    (scene.history actions).filterMap Note.served? = [] := by
  induction actions generalizing scene with
  | nil => rfl
  | cons action rest ih =>
      have hrest : ∀ other ∈ rest, other.isDuringPump = true :=
        fun other hmem ↦ hactions other (List.mem_cons_of_mem _ hmem)
      simp only [history, List.filterMap_append]
      obtain ⟨-, hbusy, -⟩ | ⟨hnone, hkept⟩ :=
        during_pump_step scene (hactions action List.mem_cons_self)
      · simp [Board.isBusy, hparked] at hbusy
      · rw [hnone, ih hrest (hkept.trans hparked), List.append_nil]

/-- A pump serves at most one callback, whatever falls into it. -/
theorem during_pump_served (actions : List (Action σ κ)) {scene : Scene σ κ}
    (hactions : ∀ action ∈ actions, action.isDuringPump = true) :
    ((scene.history actions).filterMap Note.served?).length ≤ 1 := by
  induction actions generalizing scene with
  | nil => exact Nat.zero_le 1
  | cons action rest ih =>
      have hrest : ∀ other ∈ rest, other.isDuringPump = true :=
        fun other hmem ↦ hactions other (List.mem_cons_of_mem _ hmem)
      simp only [history, List.filterMap_append, List.length_append]
      obtain ⟨hone, -, hfree⟩ | ⟨hnone, -⟩ :=
        during_pump_step scene (hactions action List.mem_cons_self)
      · rw [hone, during_pump_unparked rest hrest hfree]
        exact Nat.le_refl 1
      · rw [hnone, List.length_nil, Nat.zero_add]
        exact ih hrest

/-- In every scene that can be reached the claim on the follower, the parked callback and what is
in flight agree. So the answer to a submission tells exactly whether the follower is running and
the slot is free, pumping answers how many callbacks it served, one at most whatever falls into
it, and collecting answers whether it served one and freed the slot. -/
theorem slot_agrees (settings : Settings) (aliases : AliasTable) (outside : Outside σ)
    (actions : List (Action σ κ)) :
    let scene := (start settings aliases outside).run actions
    let board := scene.board
    board.follower.busy = board.isBusy ∧
    (scene.isRunning = true → board.follower.inFlight = if board.isBusy then 1 else 0) ∧
    (∀ command callback,
      (scene.answer command callback = .error .followerStopped ↔ scene.isRunning = false) ∧
      (scene.answer command callback = .error .followerBusy ↔
        scene.isRunning = true ∧ board.isBusy = true) ∧
      (scene.answer command callback = .ok () ↔
        scene.isRunning = true ∧ board.isBusy = false)) ∧
    (board.pump.value = board.pump.delivered.length ∧ board.pump.value ≤ 1) ∧
    (∀ during : List (Action σ κ), (∀ action ∈ during, action.isDuringPump = true) →
      ((scene.history during).filterMap Note.served?).length ≤ 1) ∧
    (board.collect.value = true ↔ board.collect.delivered.length = 1) ∧
    (board.collect.value = true ↔ board.isBusy = true ∧ board.collect.board.isBusy = false) := by
  intro scene board
  have hbalanced : board.Balanced := balanced_run settings aliases outside actions
  refine ⟨hbalanced.busy, fun hrunning ↦ ?_, fun command callback ↦ ?_, ?_,
    fun during hduring ↦ during_pump_served during hduring, ?_⟩
  · rw [hbalanced.inFlight (Board.accepting_of_running hrunning)]
    cases hparked : board.parked <;> simp [Board.isBusy, hparked]
  · have hanswer : scene.answer command callback =
        if scene.isRunning = false then .error .followerStopped
        else if board.isBusy then .error .followerBusy else .ok () :=
      Board.submit_answer hbalanced command callback scene.outside
    rw [hanswer]
    cases scene.isRunning <;> cases board.isBusy <;> simp
  · obtain ⟨hreceives, hvalue, -⟩ := board.pump_receives
    refine ⟨hvalue, hvalue ▸ ?_⟩
    obtain ⟨hone, -⟩ | ⟨hnone, -⟩ := Board.receives_busy hreceives
    · exact Nat.le_of_eq hone
    · simp [hnone]
  · obtain ⟨hreceives, hvalue, -⟩ := board.collect_receives
    rw [hvalue]
    obtain ⟨hone, hbusy, hfree⟩ | ⟨hnone, hkept⟩ := Board.receives_busy hreceives
    · have hsome : board.collect.delivered.isEmpty = false := by
        rw [List.isEmpty_eq_false_iff]
        exact List.ne_nil_of_length_eq_add_one hone
      simp [hsome, hone, hbusy, hfree]
    · simp only [hnone, Board.isBusy, hkept]
      cases board.parked <;> simp

/-- At the end of the sample course a completion waits for the parked callback: the next
submission is refused, and collecting serves the callback and frees the slot. -/
theorem sample_slot_taken :
    let scene := (start {} .empty (.new ())).run sampleCourse
    scene.board.follower.inFlight = 1 ∧
    scene.answer "wait" "third" = .error .followerBusy ∧
    scene.board.collect.delivered.length = 1 ∧
    ((scene.history [.advance, .round, .advance]).filterMap Note.served?).length ≤ 1 := by
  intro scene
  have hrunning : scene.isRunning = true := by decide
  have hbusy : scene.board.isBusy = true := by decide
  obtain ⟨-, hinFlight, hanswer, -, hduring, hone, hfree⟩ :=
    slot_agrees {} .empty (.new ()) sampleCourse
  refine ⟨?_, (hanswer "wait" "third").2.1.mpr ⟨hrunning, hbusy⟩, ?_, hduring _ (by decide)⟩
  · rw [hinFlight hrunning, if_pos hbusy]
  · exact hone.mp (hfree.mpr ⟨hbusy, by decide⟩)

end Scene

end Switchboard
