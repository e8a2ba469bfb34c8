import Switchboard.Proofs.Follower.Relay

/-!
# Two followers that go through the same course

What a follower does is told from what another does on the same actions. The completions that wait
and the slot have no part in the work, so relays that are the same when `bare` work alike, and
the work after an outcome was sent is the same for every outcome (`work_settle`). A relay that
was told to stop is shadowed by one that was not: it goes the same way until it ends, so what it
sends is the beginning of what the other sends (`sent_prefix`).
-/

namespace Switchboard.Relay

variable {σ : Type}

/-- The relay without the completions that wait, and with its slot free. -/
def bare (relay : Relay σ) : Relay σ :=
  { relay with follower := { relay.follower with completions := [], busy := false } }

/-- The relay whose task has reached an outcome. -/
def settle (relay : Relay σ) (outcome : Outcome) : Relay σ :=
  { relay with follower := { relay.follower with pursuit := some (.settled outcome) } }

variable [Producer σ]

/-- What the task does in a course: the looks that it takes and the outcomes that it sends. -/
def work (relay : Relay σ) (actions : List (Action σ)) : List (Note σ) :=
  (relay.history actions).filter Note.isWork

/-- The outcomes that the task sends in a course. -/
def sent (relay : Relay σ) (actions : List (Action σ)) : List Outcome :=
  (relay.history actions).filterMap Note.sent?

/-- The outcomes that are received in a course. -/
def received (relay : Relay σ) (actions : List (Action σ)) : List Outcome :=
  (relay.history actions).filterMap Note.received?

omit [Producer σ] in
/-- Whether promises are accepted does not depend on the completions that wait and the slot. -/
theorem running_of_bare {left right : Relay σ} (halike : left.bare = right.bare) :
    left.isRunning = right.isRunning := by
  show left.bare.isRunning = right.bare.isRunning
  rw [halike]

/-- The completions that wait and the slot have no part in what becomes of the rest. -/
theorem bare_step (relay : Relay σ) (action : Action σ) :
    (relay.step action).bare = (relay.bare.step action).bare := by
  cases action with
  | watch promise =>
      cases hrunning : relay.isRunning with
      | true =>
          have hbare : relay.bare.isRunning = true := hrunning
          rw [(watch_accepted hrunning promise).1, (watch_accepted hbare promise).1]
          rfl
      | false =>
          have hbare : relay.bare.isRunning = false := hrunning
          rw [(watch_refused hrunning promise).1, (watch_refused hbare promise).1]
          rfl
  | receive =>
      cases hcompletions : relay.follower.completions with
      | nil => simp only [step, Follower.receive, hcompletions]; rfl
      | cons outcome rest => simp only [step, Follower.receive, hcompletions]; rfl
  | advance =>
      rcases relay with ⟨⟨queue, pursuit, completions, accepting, ended, busy⟩, outside⟩
      cases hstalled : ended || !outside.executor with
      | true => simp only [step, bare, Follower.advance, hstalled, if_true]
      | false =>
          simp only [step, bare, Follower.advance, hstalled, Bool.false_eq_true, if_false]
          cases pursuit with
          | none => cases queue <;> rfl
          | some pursuit => cases pursuit <;> rfl
  | abort =>
      rcases relay with ⟨⟨queue, pursuit, completions, accepting, ended, busy⟩, outside⟩
      cases accepting <;> rfl
  | acquire | release | shutdown | change => rfl

omit [Producer σ] in
/-- They have no part in the work either. -/
theorem bare_notes (relay : Relay σ) (action : Action σ) :
    (relay.notes action).filter Note.isWork = (relay.bare.notes action).filter Note.isWork := by
  cases action with
  | watch promise =>
      simp only [notes, Follower.watch]
      split <;> split <;> rfl
  | receive =>
      cases hcompletions : relay.follower.completions <;>
        simp [notes, Follower.receive, bare, hcompletions]
  | advance => rfl
  | acquire | release | shutdown | abort | change => rfl

/-- Relays that are the same when bare do the same work in every course, and stay the same. -/
theorem run_alike {left right : Relay σ} (halike : left.bare = right.bare)
    (actions : List (Action σ)) :
    (left.run actions).bare = (right.run actions).bare ∧
      left.work actions = right.work actions := by
  induction actions generalizing left right with
  | nil => exact ⟨halike, rfl⟩
  | cons action rest ih =>
      have hstep : (left.step action).bare = (right.step action).bare := by
        rw [bare_step left, halike, ← bare_step right]
      have hnotes : (left.notes action).filter Note.isWork =
          (right.notes action).filter Note.isWork := by
        rw [bare_notes left, halike, ← bare_notes right]
      obtain ⟨hrun, hwork⟩ := ih hstep
      refine ⟨hrun, ?_⟩
      simp only [work, history, List.filter_append, hnotes] at hwork ⊢
      rw [hwork]

/-- When the task has reached an outcome, then after an action it still has it, or has given it
up, or has sent it, and which it is does not depend on the outcome. -/
theorem settle_step (relay : Relay σ) (action : Action σ) :
    (∃ next : Relay σ, ∀ outcome,
      (relay.settle outcome).step action = next.settle outcome ∧
        ((relay.settle outcome).notes action).filter Note.isWork = []) ∨
    (∃ next : Relay σ, ∀ outcome,
      ((relay.settle outcome).step action).bare = next ∧
        ((relay.settle outcome).notes action).filter Note.isWork = []) ∨
    ∃ next : Relay σ, ∀ outcome,
      ((relay.settle outcome).step action).bare = next ∧
        ((relay.settle outcome).notes action).filter Note.isWork = [.sent outcome] := by
  cases action with
  | watch promise =>
      refine .inl ⟨relay.step (.watch promise), fun outcome ↦ ?_⟩
      cases hrunning : relay.isRunning with
      | true =>
          have hsettled : (relay.settle outcome).isRunning = true := hrunning
          rw [(watch_accepted hrunning promise).1, (watch_accepted hsettled promise).1,
            (watch_accepted hsettled promise).2]
          exact ⟨rfl, rfl⟩
      | false =>
          have hsettled : (relay.settle outcome).isRunning = false := hrunning
          rw [(watch_refused hrunning promise).1, (watch_refused hsettled promise).1,
            (watch_refused hsettled promise).2]
          exact ⟨rfl, rfl⟩
  | receive =>
      refine .inl ⟨relay.step .receive, fun outcome ↦ ?_⟩
      cases hcompletions : relay.follower.completions <;>
        simp [step, notes, Follower.receive, settle, hcompletions]
  | acquire => exact .inl ⟨relay.step .acquire, fun outcome ↦ ⟨rfl, rfl⟩⟩
  | release => exact .inl ⟨relay.step .release, fun outcome ↦ ⟨rfl, rfl⟩⟩
  | shutdown => exact .inl ⟨relay.step .shutdown, fun outcome ↦ ⟨rfl, rfl⟩⟩
  | change other => exact .inl ⟨relay.step (.change other), fun outcome ↦ ⟨rfl, rfl⟩⟩
  | advance =>
      cases hstalled : relay.follower.ended || !relay.outside.executor with
      | true =>
          refine .inl ⟨relay, fun outcome ↦ ?_⟩
          simp [step, notes, settle, Follower.advance, Follower.looks, Follower.sends, hstalled]
      | false =>
          refine .inr (.inr ⟨{ relay with follower := { relay.follower with
            pursuit := none, completions := [], busy := false } }, fun outcome ↦ ?_⟩)
          simp [step, notes, settle, bare, Follower.advance, Follower.looks, Follower.sends,
            hstalled]
  | abort =>
      cases haccepting : relay.follower.accepting with
      | true =>
          refine .inl ⟨relay, fun outcome ↦ ?_⟩
          simp [step, notes, settle, Follower.abort, haccepting]
      | false =>
          refine .inr (.inl ⟨(relay.step .abort).bare, fun outcome ↦ ?_⟩)
          simp [step, notes, settle, bare, Follower.abort, haccepting]

/-- Whatever outcome the task has reached, the work that comes after it is the same, and so is
whether promises are accepted. -/
theorem work_settle (relay : Relay σ) (first second : Outcome) (later : List (Action σ)) :
    ((relay.settle first).run later).isRunning = ((relay.settle second).run later).isRunning ∧
      ((relay.settle first).work later).tail = ((relay.settle second).work later).tail := by
  induction later generalizing relay with
  | nil => exact ⟨rfl, rfl⟩
  | cons action rest ih =>
      simp only [run, work, history, List.filter_append]
      obtain ⟨next, hnext⟩ | ⟨next, hnext⟩ | ⟨next, hnext⟩ := settle_step relay action
      · rw [(hnext first).1, (hnext first).2, (hnext second).1, (hnext second).2]
        exact ih next
      · obtain ⟨hbare, hwork⟩ :=
          run_alike ((hnext first).1.trans (hnext second).1.symm) rest
        rw [(hnext first).2, (hnext second).2]
        exact ⟨running_of_bare hbare, congrArg List.tail hwork⟩
      · obtain ⟨hbare, hwork⟩ :=
          run_alike ((hnext first).1.trans (hnext second).1.symm) rest
        rw [(hnext first).2, (hnext second).2]
        exact ⟨running_of_bare hbare, hwork⟩

/-- The relay, which was told to stop, is where the other is, but may have fewer promises in its
queue. -/
structure Shadows (stopped other : Relay σ) : Prop where
  outside : stopped.outside = other.outside
  pursuit : stopped.follower.pursuit = other.follower.pursuit
  queue : stopped.follower.queue <+: other.follower.queue
  accepting : stopped.follower.accepting = false
  ended : stopped.follower.ended = other.follower.ended

omit [Producer σ] in
/-- A relay that is told to stop is where it was. -/
theorem shadows_shutdown (relay : Relay σ) :
    Shadows { relay with follower := { relay.follower with accepting := false } } relay where
  outside := rfl
  pursuit := rfl
  queue := List.prefix_refl _
  accepting := rfl
  ended := rfl

/-- A task that has ended does nothing more. -/
theorem ended_step {relay : Relay σ} (hended : relay.follower.ended = true) (action : Action σ) :
    (relay.step action).follower.ended = true ∧
      (relay.notes action).filterMap Note.sent? = [] := by
  cases action with
  | watch promise =>
      have hrunning : relay.isRunning = false := by simp [isRunning, Follower.isRunning, hended]
      rw [(watch_refused hrunning promise).1, (watch_refused hrunning promise).2]
      exact ⟨hended, rfl⟩
  | receive =>
      cases hcompletions : relay.follower.completions <;>
        simp [step, notes, Follower.receive, hcompletions, hended]
  | advance =>
      simp [step, notes, Follower.advance, Follower.looks, Follower.sends, hended]
  | abort =>
      cases haccepting : relay.follower.accepting <;>
        simp [step, notes, Follower.abort, haccepting, hended]
  | acquire | release | shutdown | change => exact ⟨hended, rfl⟩

/-- On every action the two send the same, and then the one that was told to stop is where the
other is or has ended. -/
theorem shadows_step {stopped other : Relay σ} (h : stopped.Shadows other) (action : Action σ) :
    (stopped.notes action).filterMap Note.sent? = (other.notes action).filterMap Note.sent? ∧
      ((stopped.step action).Shadows (other.step action) ∨
        (stopped.step action).follower.ended = true) := by
  rcases stopped with ⟨⟨queue, pursuit, completions, accepting, ended, busy⟩, outside⟩
  rcases other with ⟨⟨otherQueue, _, otherCompletions, otherAccepting, _, otherBusy⟩, _⟩
  obtain ⟨rfl, rfl, hqueue, rfl, rfl⟩ := h
  cases action with
  | watch promise =>
      rw [(watch_refused rfl promise).1, (watch_refused rfl promise).2]
      cases hrunning :
          isRunning ⟨⟨otherQueue, pursuit, otherCompletions, otherAccepting, ended, otherBusy⟩,
            outside⟩ with
      | true =>
          rw [(watch_accepted hrunning promise).1, (watch_accepted hrunning promise).2]
          exact ⟨rfl, .inl ⟨rfl, rfl, hqueue.trans (List.prefix_append _ _), rfl, rfl⟩⟩
      | false =>
          rw [(watch_refused hrunning promise).1, (watch_refused hrunning promise).2]
          exact ⟨rfl, .inl ⟨rfl, rfl, hqueue, rfl, rfl⟩⟩
  | receive =>
      cases completions <;> cases otherCompletions <;>
        exact ⟨rfl, .inl ⟨rfl, rfl, hqueue, rfl, rfl⟩⟩
  | advance =>
      refine ⟨rfl, ?_⟩
      cases hstalled : ended || !outside.executor with
      | true =>
          simp only [step, Follower.advance, hstalled, if_true]
          exact .inl ⟨rfl, rfl, hqueue, rfl, rfl⟩
      | false =>
          simp only [step, Follower.advance, hstalled, Bool.false_eq_true, if_false]
          cases pursuit with
          | none =>
              cases queue with
              | nil => exact .inr rfl
              | cons promise rest =>
                  obtain ⟨more, rfl⟩ := hqueue
                  exact .inl ⟨rfl, rfl, List.prefix_append _ _, rfl, rfl⟩
          | some pursuit =>
              cases pursuit <;> exact .inl ⟨rfl, rfl, hqueue, rfl, rfl⟩
  | abort => exact ⟨rfl, .inr rfl⟩
  | acquire | release | shutdown | change => exact ⟨rfl, .inl ⟨rfl, rfl, hqueue, rfl, rfl⟩⟩

/-- A task that has ended sends nothing more. -/
theorem sent_ended {relay : Relay σ} (hended : relay.follower.ended = true)
    (actions : List (Action σ)) : relay.sent actions = [] := by
  induction actions generalizing relay with
  | nil => rfl
  | cons action rest ih =>
      obtain ⟨hnext, hnotes⟩ := ended_step hended action
      simp only [sent, history, List.filterMap_append, hnotes, List.nil_append]
      exact ih hnext

/-- What a relay that was told to stop sends is the beginning of what the other sends. -/
theorem sent_prefix {stopped other : Relay σ} (h : stopped.Shadows other)
    (actions : List (Action σ)) : stopped.sent actions <+: other.sent actions := by
  induction actions generalizing stopped other with
  | nil => exact List.prefix_refl _
  | cons action rest ih =>
      obtain ⟨hnotes, hnext⟩ := shadows_step h action
      simp only [sent, history, List.filterMap_append, hnotes]
      rw [List.prefix_append_right_inj]
      cases hnext with
      | inl hshadows => exact ih hshadows
      | inr hended =>
          have hnone := sent_ended hended rest
          rw [sent] at hnone
          rw [hnone]
          exact List.nil_prefix

end Switchboard.Relay
