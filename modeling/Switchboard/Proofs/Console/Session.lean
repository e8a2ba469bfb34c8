import Switchboard.Console.Session
import Switchboard.Proofs.Board.Operations
import Switchboard.Proofs.Console.Demo

/-!
# The slot of a session

A session has at most one outstanding command. `Session.Stands` says of a session what is
outstanding: nothing, or a command and the outcome that it was promised, which is underway from the
timer to the follower and back. Every step of a session leads from one such state to another:
letting time pass keeps what is outstanding (`stands_idle`), looking for completions may bring it in
(`Arrives`), and an order is taken as `Takes` says.
-/

namespace Switchboard

open Console

namespace Follower

/-- Where an outcome is underway: its promise is in the queue or followed, and the outcome is due on
the channel; or it is known, or has been sent. -/
inductive Underway (outcome : Outcome) (outside : Outside Clock) : Follower → Prop where
  | queued {id : Nat} : Clock.Due outside.own.timers id outcome outside →
      Underway outcome outside { Follower.new with queue := [.channel id], busy := true }
  | following {id : Nat} : Clock.Due outside.own.timers id outcome outside →
      Underway outcome outside
        { Follower.new with pursuit := some (.following (.channel id)), busy := true }
  | settled :
      Underway outcome outside
        { Follower.new with pursuit := some (.settled outcome), busy := true }
  | completed :
      Underway outcome outside { Follower.new with completions := [outcome], busy := true }

variable {follower : Follower} {outcome : Outcome} {outside : Outside Clock}

/-- What is underway stays so while time passes. -/
theorem underway_elapse (hsound : Clock.Sound outside) (h : Underway outcome outside follower)
    (milliseconds : Nat) : Underway outcome (Clock.elapse milliseconds outside) follower := by
  have hkept := (Clock.elapse_keeps hsound milliseconds).2
  cases h with
  | queued hdue => exact .queued (hkept _ _ hdue)
  | following hdue => exact .following (hkept _ _ hdue)
  | settled => exact .settled
  | completed => exact .completed

/-- A step of the task takes an outcome on its way and keeps the world sound. -/
theorem underway_advance (hsound : Clock.Sound outside) (hfinal : outcome.isPending = false)
    (h : Underway outcome outside follower) :
    Clock.Sound (follower.advance outside).2 ∧
      Underway outcome (follower.advance outside).2 (follower.advance outside).1 := by
  have hgoing : (false || !outside.executor) = false := by rw [hsound.executor]; rfl
  cases h with
  | queued hdue =>
      simp only [advance, new, hgoing, Bool.false_eq_true, if_false]
      exact ⟨hsound, .following hdue⟩
  | following hdue =>
      simp only [advance, new, hgoing, Bool.false_eq_true, if_false]
      obtain hlook | ⟨after, hlook, hafter⟩ := Clock.await_due hsound hdue
      · rw [hlook]
        exact ⟨hsound, .following hdue⟩
      · rw [hlook]
        cases outcome with
        | done message => exact ⟨hafter, .settled⟩
        | failed fault => exact ⟨hafter, .settled⟩
        | pending promise => cases hfinal
  | settled =>
      simp only [advance, new, hgoing, Bool.false_eq_true, if_false]
      exact ⟨hsound, .completed⟩
  | completed =>
      simp only [advance, new, hgoing, Bool.false_eq_true, if_false]
      exact ⟨hsound, .completed⟩

/-- However many steps the task takes, the outcome stays on its way. -/
theorem underway_run (hfinal : outcome.isPending = false) (steps : Nat)
    {follower : Follower} {outside : Outside Clock} (hsound : Clock.Sound outside)
    (h : Underway outcome outside follower) :
    Clock.Sound (follower.run steps outside).2 ∧
      Underway outcome (follower.run steps outside).2 (follower.run steps outside).1 := by
  induction steps generalizing follower outside with
  | zero => exact ⟨hsound, h⟩
  | succ steps ih =>
      obtain ⟨hafter, hunderway⟩ := underway_advance hsound hfinal h
      exact ih hafter hunderway

end Follower

namespace Console.Session

/-- The outstanding command, if there is one, with the outcome that it was promised. -/
abbrev Open := Option (String × Outcome)

/-- Looking for completions leads to nothing, or the outcome of the outstanding command has
arrived. -/
inductive Arrives : Open → List Line → Open → Prop where
  | nothing {waiting : Open} : Arrives waiting [] waiting
  | arrived {command : String} {outcome : Outcome} :
      Arrives (some (command, outcome)) [.status command outcome] none

/-- How an order is taken while commands run asynchronously: a command is answered at once, or it is
pending and becomes the outstanding one, or it is refused because a command is outstanding. -/
inductive Takes (commands : Commands Clock) : Open → Order → List Line → Open → Prop where
  | nothing {waiting : Open} : Takes commands waiting .nothing [] waiting
  | help {waiting : Open} : Takes commands waiting .help [.help commands.help] waiting
  | answered {text : String} {outcome : Outcome} : commands.Answers text outcome →
      Takes commands none (.command text) [.status text outcome] none
  | promised {text : String} {outcome : Outcome} : commands.Promises text outcome →
      Takes commands none (.command text) [.pending text] (some (text, outcome))
  | rejected {text : String} {outstanding : String × Outcome} :
      Takes commands (some outstanding) (.command text) [.rejected text .followerBusy]
        (some outstanding)

/-- The board of a session in which nothing is outstanding. -/
abbrev freeBoard (commands : Commands Clock) : Board Clock String :=
  { commands, follower := .new, parked := none }

/-- The board once its slot is claimed. -/
abbrev claimedBoard (commands : Commands Clock) : Board Clock String :=
  { commands, follower := { Follower.new with busy := true }, parked := none }

/-- What is outstanding in a session: nothing, and the follower has nothing to do; or a command, and
the outcome that it was promised is underway. -/
inductive Stands (commands : Commands Clock) : Open → Session → Prop where
  | free {outside : Outside Clock} : Clock.Sound outside →
      Stands commands none { board := freeBoard commands, outside }
  | taken {command : String} {outcome : Outcome} {follower : Follower}
      {outside : Outside Clock} : Clock.Sound outside → outcome.isPending = false →
      follower.Underway outcome outside →
      Stands commands (some (command, outcome))
        { board := { commands, follower, parked := some command }, outside }

variable {commands : Commands Clock} {waiting : Open} {session : Session}

/-- The console is busy while a command is outstanding. -/
theorem Stands.busy (h : Stands commands waiting session) :
    session.board.isBusy = waiting.isSome := by
  cases h <;> rfl

/-- The commands stay the same. -/
theorem Stands.commands_eq (h : Stands commands waiting session) :
    session.board.commands = commands := by
  cases h <;> rfl

/-- Letting time pass and the follower go on keeps what is outstanding. -/
theorem stands_idle (h : Stands commands waiting session) (lull : Lull) :
    Stands commands waiting (session.idle lull) := by
  cases h with
  | free hsound =>
      unfold idle
      rw [Follower.run_idle rfl rfl]
      exact .free (Clock.elapse_keeps hsound lull.elapsed).1
  | taken hsound hfinal hunderway =>
      have hlater := (Clock.elapse_keeps hsound lull.elapsed).1
      have helapsed := Follower.underway_elapse hsound hunderway lull.elapsed
      obtain ⟨hafter, hkept⟩ := Follower.underway_run hfinal lull.steps hlater helapsed
      exact .taken hafter hfinal hkept

/-- Receiving one completion keeps what is outstanding or brings it in. -/
theorem collect_cases (h : Stands commands waiting session) :
    session.board.collect.value = false ∨
      ∃ command outcome, waiting = some (command, outcome) ∧ session.board.collect.value = true ∧
        session.board.collect.delivered = [(command, outcome)] ∧
        Stands commands none (session.onBoard session.board.collect.board) := by
  cases h with
  | free => exact .inl rfl
  | taken hsound hfinal hunderway =>
      cases hunderway with
      | queued | following | settled => exact .inl rfl
      | completed => exact .inr ⟨_, _, rfl, rfl, rfl, .free hsound⟩

/-- Receiving all completions keeps what is outstanding or brings it in. -/
theorem pump_arrives (h : Stands commands waiting session) :
    ∃ still, Arrives waiting session.pump.1 still ∧ Stands commands still session.pump.2 := by
  cases h with
  | free hsound => exact ⟨none, .nothing, .free hsound⟩
  | taken hsound hfinal hunderway =>
      cases hunderway with
      | queued hdue => exact ⟨_, .nothing, .taken hsound hfinal (.queued hdue)⟩
      | following hdue => exact ⟨_, .nothing, .taken hsound hfinal (.following hdue)⟩
      | settled => exact ⟨_, .nothing, .taken hsound hfinal .settled⟩
      | completed => exact ⟨none, .arrived, .free hsound⟩

/-- Waiting keeps what is outstanding or brings it in. -/
theorem await_arrives (course : List Lull) {session : Session}
    (h : Stands commands waiting session) :
    ∃ still, Arrives waiting (session.await course).1 still ∧
      Stands commands still (session.await course).2 := by
  induction course generalizing session with
  | nil => exact ⟨waiting, .nothing, h⟩
  | cons lull rest ih =>
      have hidle := stands_idle h lull
      obtain hnothing | ⟨command, outcome, hwaiting, hvalue, hdelivered, hfree⟩ :=
        collect_cases hidle
      · simp only [await, hnothing, Bool.false_eq_true, if_false]
        exact ih hidle
      · simp only [await, hvalue, hdelivered, if_true]
        subst hwaiting
        exact ⟨none, .arrived, hfree⟩

/-- Waiting for the outstanding command, if there is one, keeps it or brings it in. -/
theorem drain_arrives (h : Stands commands waiting session) (course : List Lull) :
    ∃ still, Arrives waiting (session.drain course).1 still ∧
      Stands commands still (session.drain course).2 := by
  unfold drain
  split
  · exact await_arrives _ h
  · exact ⟨waiting, .nothing, h⟩

/-- Cutting a course off once more, and not earlier, changes nothing. -/
theorem within_within {left limit : Nat} (hleft : left ≤ limit) (course : List Lull) :
    Lull.within limit (Lull.within left course) = Lull.within left course := by
  induction course generalizing left limit with
  | nil => rfl
  | cons lull rest ih =>
      simp only [Lull.within]
      split
      · rename_i hfits
        rw [Lull.within, if_pos (Nat.lt_of_lt_of_le hfits hleft), ih (by omega)]
      · rw [Lull.within]
        split
        · rfl
        · rename_i hlimit
          obtain rfl : left = limit := by simp only at hlimit; omega
          rfl

/-- What collecting serves was outstanding, and nothing is outstanding then. -/
theorem collect_frees {κ : Type} {board : Board Clock κ} (h : board.collect.value = true) :
    board.collect.board.isBusy = false := by
  obtain ⟨hreceives, hvalue, -⟩ := board.collect_receives
  rw [h] at hvalue
  generalize board.collect.board = after at hreceives ⊢
  generalize board.collect.delivered = delivered at hreceives hvalue
  cases hreceives with
  | nothing => cases hvalue
  | dropped => cases hvalue
  | served => rfl

/-- A session is drained lull by lull: over the first lull, as far as time is left, and then over
the others in the time that is left after it. -/
theorem drain_cons (session : Session) {left : Nat} (hleft : left ≤ patience) (lull : Lull)
    (rest : List Lull) :
    session.drain (Lull.within left (lull :: rest)) =
      let (lines, after) := session.drain (Lull.within left [lull])
      if lull.elapsed < left then
        let (late, last) := after.drain (Lull.within (left - lull.elapsed) rest)
        (lines ++ late, last)
      else (lines, after) := by
  by_cases hfits : lull.elapsed < left
  · have hrest : left - lull.elapsed ≤ patience := by omega
    have hpatience : lull.elapsed < patience := by omega
    simp only [drain, Lull.within, hfits, hpatience, if_true, await]
    cases hbusy : session.board.isBusy with
    | false => simp [hbusy]
    | true =>
        simp only [if_true]
        cases hvalue : (session.idle lull).board.collect.value with
        | true =>
            have hfree : (session.idle lull |>.onBoard
                (session.idle lull).board.collect.board).board.isBusy = false :=
              collect_frees hvalue
            simp [hfree]
        | false =>
            have hstill : (session.idle lull).board.isBusy = true := hbusy
            have hcut : Lull.within (patience - lull.elapsed)
                (Lull.within (left - lull.elapsed) rest) =
                  Lull.within (left - lull.elapsed) rest := within_within (by omega) rest
            simp [hstill, hcut, within_within hrest]
  · simp only [Lull.within, hfits, if_false]

/-- A session in which nothing is outstanding is ready for a command. -/
theorem ready_free {outside : Outside Clock} (hsound : Clock.Sound outside) :
    (freeBoard commands).Ready outside where
  running := by simp [Follower.isRunning, Follower.new, hsound.executor]
  parked := rfl
  busy := rfl

/-- A command that is submitted while nothing is outstanding is settled as it is run. -/
theorem submit_free {outside : Outside Clock} (hsound : Clock.Sound outside) (text : String) :
    (freeBoard commands).submit text text outside =
      ((claimedBoard commands).settle text text (commands.exec text outside),
        (commands.exec text outside).outside) :=
  Board.submit_ready (ready_free hsound) text text

/-- How a submitted command is taken. -/
theorem run_later_takes (hstocked : commands.Stocked) (h : Stands commands waiting session)
    (text : String) :
    ∃ still, Takes commands waiting (.command text) (session.runLater text).1 still ∧
      Stands commands still (session.runLater text).2 := by
  cases h with
  | @taken command outcome follower outside hsound hfinal hunderway =>
      refine ⟨some (command, outcome), ?_⟩
      have hrunning : follower.isRunning outside = true := by
        cases hunderway <;> simp [Follower.isRunning, Follower.new, hsound.executor]
      simp only [runLater, Board.submit, hrunning]
      exact ⟨.rejected, .taken hsound hfinal hunderway⟩
  | @free outside hsound =>
      have hafter := Commands.sound_of_stocked hstocked hsound text
      obtain ⟨outcome, hanswers⟩ | ⟨outcome, hpromises⟩ :=
        Commands.answers_or_promises hstocked text
      · refine ⟨none, ?_⟩
        have houtcome := hanswers.outcome outside
        have hfinal : (commands.exec text outside).outcome.isPending = false := by
          rw [houtcome, hanswers.final]
        simp only [runLater, submit_free hsound, Board.settle_final _ _ _ _ hfinal, houtcome]
        exact ⟨.answered hanswers, .free hafter⟩
      · refine ⟨some (text, outcome), ?_⟩
        obtain ⟨span, rfl, hsleep⟩ := id hpromises
        obtain ⟨houtcome, hworld⟩ := hsleep outside
        have hreached : (claimedBoard commands).follower.isRunning
            (commands.exec text outside).outside = true := by
          simp [Follower.isRunning, Follower.new, hafter.executor]
        simp only [runLater, submit_free hsound,
          Board.settle_handed (claimedBoard commands) text text _ houtcome hreached]
        refine ⟨.promised hpromises, .taken hafter hpromises.final (.queued ?_)⟩
        rw [hworld]
        exact Clock.due_sleep span outside

/-! ### The start -/

/-- A session that starts has a new board to which the commands of the console are bound. -/
theorem start_eq {settings : Settings} {files : FileSource}
    (hstart : Session.start settings files = .ok session) :
    ∃ aliases, session =
      { board := withDemoCommands (.new settings aliases), outside := .new .start } := by
  unfold Session.start Board.start Except.map at hstart
  split at hstart
  · cases hstart
  · rename_i started hboard
    -- Without a file there is nothing to load, and with one loading it has not failed.
    split at hboard
    · cases hboard
      exact ⟨_, (Except.ok.inj hstart).symm⟩
    · dsimp only at hboard
      split at hboard
      · cases hboard
      · cases hboard
        exact ⟨_, (Except.ok.inj hstart).symm⟩

/-- A session starts with the commands of the console and with nothing outstanding. -/
theorem start_stands {settings : Settings} {files : FileSource}
    (hstart : Session.start settings files = .ok session) :
    session.board.commands.Stocked ∧ Stands session.board.commands none session := by
  obtain ⟨aliases, rfl⟩ := start_eq hstart
  obtain ⟨hstocked, hfollower, hparked⟩ :=
    Commands.stocked_with_demo_commands (Commands.stocked_new settings aliases (κ := String))
  refine ⟨hstocked, ?_⟩
  generalize withDemoCommands (Board.new settings aliases) = board at hfollower hparked
  obtain ⟨commands, follower, parked⟩ := board
  obtain rfl : follower = .new := hfollower
  obtain rfl : parked = none := hparked
  exact .free Clock.sound_new

end Console.Session

end Switchboard
