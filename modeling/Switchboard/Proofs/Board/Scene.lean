import Switchboard.Proofs.Board.Operations

/-!
# Courses of a board

A scene is a board with the world outside it. An action is whatever may happen next: an operation
of the coordinator, a step of the follower's task, a deed of a resolver or any other change of the
world. A course is a list of actions in any order; `Scene.run` gives the scene at its end and
`Scene.history` what is worth noting on the way: which commands were accepted and refused, the
follower's looks, and what became of the callbacks.

Operations of the coordinator are single actions, and courses are none the poorer for it. Handlers
are any functions of the world, so what happens while one runs can be put down to it. A
synchronous command touches nothing but the world, so one that the follower interrupts is a series
of other changes. While a command is being submitted the follower has nothing to do
(`submit_undisturbed`). A pump is a series of rounds (`pump_rounds`), so one that the follower
interrupts is such a series with other actions in between.

`Scene.Becomes` lists all that an action can do, and `run_induction` is how facts about whole
courses are proved: one step of that list at a time.
-/

namespace Switchboard

/-- A board and the world outside it. -/
structure Scene (σ κ : Type) where
  board : Board σ κ
  outside : Outside σ

/-- What may happen next. A binding comes with the engine that its pattern is handed to. -/
inductive Action (σ κ : Type) where
  | bind (matcher : Matcher) (text : String)
      (run : Arguments → Outside σ → Outcome × Outside σ) (description : String)
  | withAliases (aliases : AliasTable)
  | exec (command : String)
  | submit (command : String) (callback : κ)
  | pump
  | round
  | collect
  | shutdown
  | advance
  | abort
  | resolve (id : Nat) (outcome : Outcome)
  | abandon (id : Nat)
  | change (other : Outside σ → Outside σ)

/-- What a history tells. A command was refused, or accepted with the outcome that running it gave
and whether the follower could be reached when it had run; the follower looked at a promise; a
callback was served, or discarded, in the course of a shutdown or otherwise. -/
inductive Note (σ κ : Type) where
  | refused (callback : κ) (fault : CommandFault)
  | accepted (callback : κ) (command : String) (outcome : Outcome) (reached : Bool)
  | looked (look : Look σ)
  | served (callback : κ) (outcome : Outcome)
  | discarded (callback : κ) (stopping : Bool)
  deriving DecidableEq

variable {σ κ : Type}

namespace Action

/-- The callback that an action gives to the board. -/
def callback? : Action σ κ → Option κ
  | .submit _ callback => some callback
  | _ => none

/-- The action with its callback renamed. -/
def map {ρ : Type} (rename : κ → ρ) : Action σ κ → Action σ ρ
  | .bind matcher text run description => .bind matcher text run description
  | .withAliases aliases => .withAliases aliases
  | .exec command => .exec command
  | .submit command callback => .submit command (rename callback)
  | .pump => .pump
  | .round => .round
  | .collect => .collect
  | .shutdown => .shutdown
  | .advance => .advance
  | .abort => .abort
  | .resolve id outcome => .resolve id outcome
  | .abandon id => .abandon id
  | .change other => .change other

end Action

/-- What an action makes of the commands that the board knows: it binds a handler or changes the
aliases, and no other action does either. -/
def Action.configure : Action σ κ → Commands σ → Commands σ
  | .bind matcher text run description, commands =>
    (commands.bind matcher text (.external run) description).2.2
  | .withAliases aliases, commands => { commands with aliases }
  | _, commands => commands

/-- Whether an action may fall into a pump: one of its rounds, or something that the coordinator
has no part in. -/
def Action.isDuringPump : Action σ κ → Bool
  | .round | .advance | .abort | .resolve .. | .abandon .. | .change .. => true
  | _ => false

/-- The callback that a note says was served, with what it was given. -/
def Note.served? : Note σ κ → Option (κ × Outcome)
  | .served callback outcome => some (callback, outcome)
  | _ => none

/-- What a turn tells about callbacks. -/
def Turn.notes {α : Type} (turn : Turn σ κ α) (stopping : Bool) : List (Note σ κ) :=
  (turn.delivered.map fun (callback, outcome) ↦ .served callback outcome) ++
    turn.discarded.map (.discarded · stopping)

/-- What a turn serves is what its notes say. -/
theorem served_notes {α : Type} (turn : Turn σ κ α) (stopping : Bool) :
    (turn.notes stopping).filterMap Note.served? = turn.delivered := by
  simp [Turn.notes, List.filterMap_map, Function.comp_def, Note.served?]

/-- Looking serves no callback. -/
theorem served_looked (looks : List (Look σ)) :
    (looks.map (Note.looked (κ := κ))).filterMap Note.served? = [] := by
  simp [List.filterMap_map, Function.comp_def, Note.served?]

namespace Scene

/-- The scene of a board that was just set up, in any world. -/
def start (settings : Settings) (aliases : AliasTable) (outside : Outside σ) : Scene σ κ :=
  { board := .new settings aliases, outside }

/-- Whether the follower accepts promises. -/
def isRunning (scene : Scene σ κ) : Bool :=
  scene.board.follower.isRunning scene.outside

/-- The answer to a submission. -/
def answer (scene : Scene σ κ) (command : String) (callback : κ) : Except CommandFault Unit :=
  (scene.board.submit command callback scene.outside).1.value

/-- How a submission is noted. -/
def submission (scene : Scene σ κ) (command : String) (callback : κ) : Note σ κ :=
  match scene.answer command callback with
  | .error fault => .refused callback fault
  | .ok () =>
    let run := scene.board.exec command scene.outside
    .accepted callback command run.outcome (scene.board.follower.isRunning run.outside)

/-- Receiving completions has nothing to do with commands. -/
theorem commands_receives {board after : Board σ κ} {delivered : List (κ × Outcome)}
    (h : board.Receives after delivered) : after.commands = board.commands := by
  cases h <;> rfl

variable [Producer σ]

/-- The scene after an action. -/
def step (scene : Scene σ κ) : Action σ κ → Scene σ κ
  | .bind matcher text run description =>
    { scene with board := (scene.board.bind matcher text (.external run) description).board }
  | .withAliases aliases => { scene with board := scene.board.withAliases aliases }
  | .exec command => { scene with outside := (scene.board.exec command scene.outside).outside }
  | .submit command callback =>
    let (turn, outside) := scene.board.submit command callback scene.outside
    { board := turn.board, outside }
  | .pump => { scene with board := scene.board.pump.board }
  | .round => { scene with board := scene.board.round.board }
  | .collect => { scene with board := scene.board.collect.board }
  | .shutdown => { scene with board := scene.board.shutdown.board }
  | .advance =>
    let (follower, outside) := scene.board.follower.advance scene.outside
    { board := { scene.board with follower }, outside }
  | .abort =>
    { scene with board := { scene.board with follower := scene.board.follower.abort } }
  | .resolve id outcome => { scene with outside := scene.outside.resolve id outcome }
  | .abandon id => { scene with outside := scene.outside.abandon id }
  | .change other => { scene with outside := other scene.outside }

/-- What an action adds to the history. -/
def notes (scene : Scene σ κ) : Action σ κ → List (Note σ κ)
  | .submit command callback =>
    scene.submission command callback ::
      (scene.board.submit command callback scene.outside).1.notes false
  | .pump => scene.board.pump.notes false
  | .round => scene.board.round.notes false
  | .collect => scene.board.collect.notes false
  | .shutdown => scene.board.shutdown.notes true
  | .advance => (scene.board.follower.looks scene.outside).map .looked
  | _ => []

/-- The scene at the end of a course. -/
def run (scene : Scene σ κ) : List (Action σ κ) → Scene σ κ
  | [] => scene
  | action :: rest => (scene.step action).run rest

/-- What a course tells, the earliest first. -/
def history (scene : Scene σ κ) : List (Action σ κ) → List (Note σ κ)
  | [] => []
  | action :: rest => scene.notes action ++ (scene.step action).history rest

/-- A pump is as many rounds as there are completions. -/
theorem pump_rounds (scene : Scene σ κ) :
    let rounds : List (Action σ κ) := .replicate scene.board.follower.completions.length .round
    scene.run rounds = scene.step .pump ∧ scene.history rounds = scene.notes .pump := by
  intro rounds
  simp only [rounds]
  generalize hcount : scene.board.follower.completions.length = count
  induction count generalizing scene with
  | zero =>
      have hnone := List.eq_nil_of_length_eq_zero hcount
      simp only [step, notes, Board.pump_waiting _ hnone]
      exact ⟨rfl, rfl⟩
  | succ count ih =>
      have hsome : scene.board.follower.completions ≠ [] := by
        intro hnone
        rw [hnone] at hcount
        cases hcount
      have hrest : (scene.step .round).board.follower.completions.length = count := by
        rw [step, Board.round_completions, List.length_tail, hcount, Nat.add_sub_cancel]
      obtain ⟨hrun, hhistory⟩ := ih (scene.step .round) hrest
      have hpump := scene.board.pump_round hsome
      constructor
      · rw [List.replicate_succ, run, hrun]
        simp only [step, hpump]
      · rw [List.replicate_succ, history, hhistory]
        -- Neither a round nor a pump discards a callback.
        simp only [step, notes, hpump, Turn.notes, scene.board.round_receives.2.2,
          scene.board.round.board.pump_receives.2.2, List.map_append, List.map_nil,
          List.append_nil]

/-- What submitting a command tells, and the scene after it: the scene is as it was, or the
callback has been served, or it is parked and its promise is the last one in the queue. -/
inductive Submitted (scene : Scene σ κ) (command : String) (callback : κ) :
    List (Note σ κ) → Scene σ κ → Prop where
  | refused (fault : CommandFault) :
      Submitted scene command callback [.refused callback fault, .discarded callback false] scene
  | served {returned outcome : Outcome} {reached : Bool} (outside : Outside σ) :
      scene.isRunning = true → scene.board.parked = none →
      returned.Yields (σ := σ) reached [] outcome →
      Submitted scene command callback
        [.accepted callback command returned reached, .served callback outcome]
        { scene with outside }
  | handed (promise : Promise) (outside : Outside σ) :
      scene.isRunning = true → scene.board.parked = none →
      Submitted scene command callback [.accepted callback command (.pending promise) true]
        { board := { scene.board with
            follower := { scene.board.follower with
              queue := scene.board.follower.queue ++ [promise], busy := true }
            parked := some callback }
          outside }

/-- Submitting a command does one of these things. -/
theorem submitted (scene : Scene σ κ) (command : String) (callback : κ) :
    Submitted scene command callback (scene.notes (.submit command callback))
      (scene.step (.submit command callback)) := by
  have h := scene.board.submit_cases command callback scene.outside
  simp only [notes, step, submission, answer]
  generalize scene.board.submit command callback scene.outside = turn at h ⊢
  cases h with
  | stopped => exact .refused .followerStopped
  | busy => exact .refused .followerBusy
  | immediate hrunning hparked _ hrun hfinal =>
      subst hrun
      exact .served _ hrunning hparked (.atOnce _ hfinal)
  | lost hrunning hparked _ hrun hpending hreached =>
      subst hrun
      rw [hpending, hreached]
      exact .served _ hrunning hparked (.lost _)
  | handed hrunning hparked _ hrun hpending hreached =>
      subst hrun
      rw [hpending, hreached]
      exact .handed _ _ hrunning hparked

/-- All that an action can do, with what it tells: a command is submitted; completions are
received; the board is shut down; the follower's task takes a step, or gives up; or something
happens that touches neither the follower nor the parked callback. -/
inductive Becomes (scene : Scene σ κ) : List (Note σ κ) → Scene σ κ → Prop where
  | submitted {command : String} {callback : κ} {told : List (Note σ κ)} {next : Scene σ κ} :
      Submitted scene command callback told next → Becomes scene told next
  | received {board : Board σ κ} {delivered : List (κ × Outcome)} :
      scene.board.Receives board delivered →
      Becomes scene (delivered.map fun (callback, outcome) ↦ .served callback outcome)
        { scene with board }
  | stopped : Becomes scene (scene.board.parked.toList.map (.discarded · true))
      { scene with board := scene.board.shutdown.board }
  | advanced {looks : List (Look σ)} {next : Follower × Outside σ} :
      scene.board.follower.Advances scene.outside looks next →
      Becomes scene (looks.map .looked)
        { board := { scene.board with follower := next.1 }, outside := next.2 }
  | aborted : Becomes scene []
      { scene with board := { scene.board with follower := scene.board.follower.abort } }
  | elsewhere {board : Board σ κ} (outside : Outside σ) :
      board.follower = scene.board.follower → board.parked = scene.board.parked →
      Becomes scene [] { board, outside }

/-- A turn that only receives completions tells of the callbacks served. -/
theorem becomes_received (scene : Scene σ κ) {α : Type} {turn : Turn σ κ α}
    (h : scene.board.Receives turn.board turn.delivered) (hdiscarded : turn.discarded = []) :
    Becomes scene (turn.notes false) { scene with board := turn.board } := by
  rw [Turn.notes, hdiscarded, List.map_nil, List.append_nil]
  exact .received h

/-- Every action does one of these things. -/
theorem step_becomes (scene : Scene σ κ) (action : Action σ κ) :
    scene.Becomes (scene.notes action) (scene.step action) := by
  cases action with
  | submit command callback => exact .submitted (scene.submitted command callback)
  | pump =>
      obtain ⟨hreceives, -, hdiscarded⟩ := scene.board.pump_receives
      exact scene.becomes_received hreceives hdiscarded
  | round =>
      obtain ⟨hreceives, -, hdiscarded⟩ := scene.board.round_receives
      exact scene.becomes_received hreceives hdiscarded
  | collect =>
      obtain ⟨hreceives, -, hdiscarded⟩ := scene.board.collect_receives
      exact scene.becomes_received hreceives hdiscarded
  | shutdown => exact .stopped
  | advance => exact .advanced (scene.board.follower.advance_cases scene.outside)
  | abort => exact .aborted
  | bind | withAliases | exec | resolve | abandon | change => exact .elsewhere _ rfl rfl

/-- Submitting a command has nothing to do with what other commands do. -/
theorem commands_submitted {scene next : Scene σ κ} {told : List (Note σ κ)} {command : String}
    {callback : κ} (h : scene.Submitted command callback told next) :
    next.board.commands = scene.board.commands := by
  cases h <;> rfl

/-- What an action makes of the commands does not depend on anything else. -/
theorem commands_step (scene : Scene σ κ) (action : Action σ κ) :
    (scene.step action).board.commands = action.configure scene.board.commands := by
  cases action with
  | submit command callback => exact commands_submitted (scene.submitted command callback)
  | pump => exact commands_receives scene.board.pump_receives.1
  | round => exact commands_receives scene.board.round_receives.1
  | collect => exact commands_receives scene.board.collect_receives.1
  | bind | withAliases | exec | shutdown | advance | abort | resolve | abandon | change => rfl

/-- What a course makes of the commands does not depend on anything else. -/
theorem commands_run {first second : Scene σ κ}
    (hsame : first.board.commands = second.board.commands) (actions : List (Action σ κ)) :
    (first.run actions).board.commands = (second.run actions).board.commands := by
  induction actions generalizing first second with
  | nil => exact hsame
  | cons action rest ih => exact ih (by rw [commands_step, commands_step, hsame])

/-- What holds of a scene at first, before anything is told, and goes on to hold with every
action, holds at the end of every course. -/
theorem run_induction {motive : List (Note σ κ) → Scene σ κ → Prop} {scene : Scene σ κ}
    (hstart : motive [] scene)
    (hstep : ∀ told scene notes next, motive told scene → scene.Becomes notes next →
      motive (told ++ notes) next)
    (actions : List (Action σ κ)) : motive (scene.history actions) (scene.run actions) := by
  suffices hfrom : ∀ told scene, motive told scene →
      motive (told ++ scene.history actions) (scene.run actions) from hfrom [] scene hstart
  induction actions with
  | nil => simp [history, run]
  | cons action rest ih =>
      intro told scene htold
      simpa [history, run] using ih _ _ (hstep told scene _ _ htold (scene.step_becomes action))

end Scene

/-! ### A course by way of example -/

/-- A world in which no poll ever answers. -/
instance : Producer Unit where
  poll _ outside := (.notYet, outside)

/-- A handler that opens a channel and promises what will be sent on it. -/
def promiseHandler (_ : Arguments) (outside : Outside Unit) : Outcome × Outside Unit :=
  let (id, opened) := outside.openChannel
  (.pending (.channel id), opened)

/-- Two commands are submitted, and the second finds the slot taken. The first one's promise turns
out to stand for another channel, whose resolver goes away. -/
def sampleCourse : List (Action Unit String) :=
  [.bind .sized "wait" promiseHandler "", .exec "wait", .submit "wait" "first", .advance,
    .resolve 1 (.pending (.channel 0)), .submit "wait" "second", .advance, .abandon 0, .pump,
    .advance, .advance]

end Switchboard
