import Switchboard.Console.Demo
import Switchboard.Proofs.Commands.Worlds
import Switchboard.Proofs.Console.Clock

/-!
# What the commands of the console come to

The handlers of the console do not let the world tell on their outcomes, and the only one that
changes the world starts a timer. So a command comes to the same whenever it is run: either it is
answered at once, always with the same outcome (`Commands.Answers`), or it always starts a timer for
the same outcome (`Commands.Promises`).
-/

namespace Switchboard

open Console

/-- No computation of a message leaves anything pending. -/
theorem Outcome.of_result_final (result : Except CommandFault String) :
    (Outcome.ofResult result).isPending = false := by
  cases result <;> rfl

namespace Commands

variable {commands : Commands Clock} {command : String} {outcome : Outcome}
  {outside : Outside Clock}

/-- Only handlers of the console are bound. -/
def Stocked (commands : Commands Clock) : Prop :=
  commands.Handled fun effect ↦ ∃ demo ∈ demoCommands, demo.run = effect

/-- The command comes to an outcome at once, in every world. -/
structure Answers (commands : Commands Clock) (command : String) (outcome : Outcome) : Prop where
  final : outcome.isPending = false
  outcome : ∀ outside, (commands.exec command outside).outcome = outcome

/-- In every world the command starts a timer and does nothing else, and the outcome is what the
timer sends. -/
def Promises (commands : Commands Clock) (command : String) (outcome : Outcome) : Prop :=
  ∃ span : Nat, outcome = .done ("slept " ++ toString span ++ " ms") ∧
    ∀ outside, (commands.exec command outside).outcome = (Clock.sleep span outside).1 ∧
      (commands.exec command outside).outside = (Clock.sleep span outside).2

/-- A command that is answered at once is not pending, and one that starts a timer is. -/
theorem Promises.pending (h : commands.Promises command outcome) (outside : Outside Clock) :
    (commands.exec command outside).outcome.isPending = true := by
  obtain ⟨span, -, hsleep⟩ := h
  rw [(hsleep outside).1]
  rfl

/-- What a timer sends is not pending. -/
theorem Promises.final (h : commands.Promises command outcome) : outcome.isPending = false := by
  obtain ⟨span, houtcome, -⟩ := h
  rw [houtcome]
  rfl

/-- The world does not tell on what the handlers of the console come to. -/
theorem steady_of_stocked (h : commands.Stocked) : commands.Handled Effect.Steady := by
  intro route hroute effect heffect
  obtain ⟨demo, hdemo, rfl⟩ := h route hroute effect heffect
  intro arguments first second
  simp only [demoCommands, List.mem_cons, List.not_mem_nil, or_false] at hdemo
  obtain rfl | rfl | rfl := hdemo
  · exact .refl _
  · exact .refl _
  · show (sleep arguments first).1.Alike (sleep arguments second).1
    unfold sleep
    cases arguments.natural 0 with
    | error fault => exact .refl _
    | ok span => exact .inr ⟨rfl, rfl⟩

/-- The handlers of the console keep the world sound. -/
theorem sound_of_stocked (h : commands.Stocked) (hsound : Clock.Sound outside) (command : String) :
    Clock.Sound (commands.exec command outside).outside := by
  have hkeeps : commands.Handled
      (Effect.Keeps · fun before after ↦ Clock.Sound before → Clock.Sound after) := by
    intro route hroute effect heffect
    obtain ⟨demo, hdemo, rfl⟩ := h route hroute effect heffect
    intro arguments world hworld
    simp only [demoCommands, List.mem_cons, List.not_mem_nil, or_false] at hdemo
    obtain rfl | rfl | rfl := hdemo
    · exact hworld
    · exact hworld
    · show Clock.Sound (sleep arguments world).2
      unfold sleep
      cases arguments.natural 0 with
      | error fault => exact hworld
      | ok span => exact Clock.sound_sleep hworld span
  exact exec_keeps (fun _ hworld ↦ hworld) (fun hfirst hsecond hworld ↦ hsecond (hfirst hworld))
    hkeeps command outside hsound

/-- A handler of the console leaves nothing pending but a timer that it has started. -/
theorem demo_pending {demo : DemoCommand} (hdemo : demo ∈ demoCommands) {arguments : Arguments}
    (hpending : (demo.run arguments outside).1.isPending = true) :
    ∃ span, ∀ world, demo.run arguments world = Clock.sleep span world := by
  simp only [demoCommands, List.mem_cons, List.not_mem_nil, or_false] at hdemo
  obtain rfl | rfl | rfl := hdemo
  · exact absurd hpending (by simp [echo, Outcome.of_result_final])
  · exact absurd hpending (by simp [add, Outcome.of_result_final])
  · replace hpending : (sleep arguments outside).1.isPending = true := hpending
    unfold sleep at hpending
    cases hspan : arguments.natural 0 with
    | error fault => simp [hspan, Outcome.isPending] at hpending
    | ok span => exact ⟨span, fun world ↦ by simp only [sleep, hspan]⟩

/-- A command that leaves nothing pending in one world is answered at once in every world. -/
theorem answers_of_final (h : commands.Stocked)
    (hfinal : (commands.exec command outside).outcome.isPending = false) :
    ∃ outcome, commands.Answers command outcome := by
  refine ⟨_, hfinal, fun other ↦ ?_⟩
  have halike := exec_alike (steady_of_stocked h) command outside other
  exact (halike.eq_of_final hfinal).symm

/-- A command is answered at once in every world, or starts a timer in every world. -/
theorem answers_or_promises (h : commands.Stocked) (command : String) :
    (∃ outcome, commands.Answers command outcome) ∨
      ∃ outcome, commands.Promises command outcome := by
  cases hfinal : (commands.exec command (.new .start)).outcome.isPending with
  | false => exact .inl (answers_of_final h hfinal)
  | true =>
      right
      obtain ⟨route, effect, arguments, hroute, heffect, hexec⟩ := exec_pending hfinal
      obtain ⟨demo, hdemo, rfl⟩ := h route (route_mem hroute) effect heffect
      have hpending : (demo.run arguments (.new .start)).1.isPending = true := by
        rw [← (hexec _).1, hfinal]
      obtain ⟨span, hsleep⟩ := demo_pending hdemo hpending
      refine ⟨_, span, rfl, fun outside ↦ ?_⟩
      rw [(hexec outside).1, (hexec outside).2, hsleep]
      exact ⟨rfl, rfl⟩

/-! ### Stocking a board -/

/-- None of the texts that the console binds is rejected, so every binding succeeds. -/
theorem compile_demo {demo : DemoCommand} (hdemo : demo ∈ demoCommands) :
    ∃ template, Template.compile .sized demo.template = .ok template := by
  simp only [demoCommands, List.mem_cons, List.not_mem_nil, or_false] at hdemo
  rcases hdemo with rfl | rfl | rfl <;> exact ⟨_, rfl⟩

/-- A board with nothing but the runner of aliases is stocked. -/
theorem stocked_new (settings : Settings) (aliases : AliasTable) {κ : Type} :
    (Board.new settings aliases : Board Clock κ).commands.Stocked := by
  intro route hmem effect heffect
  obtain rfl := List.mem_singleton.mp hmem
  cases heffect

/-- A board stays stocked when the commands of the console are bound to it, and only its commands
change. -/
theorem stocked_with_demo_commands {κ : Type} {board : Board Clock κ} (h : board.commands.Stocked) :
    (withDemoCommands board).commands.Stocked ∧
      (withDemoCommands board).follower = board.follower ∧
      (withDemoCommands board).parked = board.parked := by
  have hall : ∀ demos ⊆ demoCommands, ∀ board : Board Clock κ, board.commands.Stocked →
      let bound := demos.foldl
        (fun board demo ↦
          (board.bind .sized demo.template (.external demo.run) demo.description).board)
        board
      bound.commands.Stocked ∧ bound.follower = board.follower ∧ bound.parked = board.parked := by
    intro demos
    induction demos with
    | nil => exact fun _ board h ↦ ⟨h, rfl, rfl⟩
    | cons demo rest ih =>
        intro hsubset board h
        obtain ⟨hdemo, hrest⟩ := List.cons_subset.mp hsubset
        refine ih hrest _
          (handled_bind h .sized demo.template (fun effect heffect ↦ ?_) demo.description)
        cases heffect
        exact ⟨demo, hdemo, rfl⟩
  exact hall demoCommands (fun _ hmem ↦ hmem) board h

end Commands

end Switchboard
